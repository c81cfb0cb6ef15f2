import Mathlib.Data.List.Induction
import LintServer.Lint.Engine.TrailingSpaces
import LintServer.Proofs.Server.Run

/-!
# What the editor is shown

After any run of messages, four things agree for every URI: the document
that the server keeps, the diagnostics that it holds, the settings, and
what the editor was last told. The headline theorem `run_shows_current`
says how. The document is the one opened last and not closed since, with
its later changes (`Standing`). The diagnostics of a Markdown document are
what the engine makes of its current text under the settings at the last
event that had it linted (`LastLinted`), and there are none for any other
URI. The last publication carries these diagnostics and the version.

The invariant (`Shows`) is about one URI. An event that does not concern
the URI leaves all of it alone (`Shows.frame`), a refresh restores it
whatever it was before (`Shows.of_refresh`), and closing ends it
(`Shows.of_closed`). Every step of the server is one of these three.
-/

namespace LintServer

/-! ## What a history says about a URI -/

namespace Event

/-- Whether an event opens or closes the document at a URI. -/
def Bounds (uri : Uri) : Event → Prop
  | .opened u _ => u = uri
  | .closed u => u = uri
  | _ => False

/-- The text and version that an event gives the document at a URI, if it
is a change and has a text. -/
def change? (uri : Uri) : Event → Option (String × Int32)
  | .changed u version texts => if u = uri then texts.getLast?.map (·, version) else none
  | _ => none

def Lints (uri : Uri) : Event → Prop
  | .opened u _ => u = uri
  | .changed u _ texts => u = uri ∧ texts ≠ []
  | .saved u => u = uri
  | _ => False

end Event

/-- The document at a URI after some events: it was opened, nothing has
opened or closed it since, and its changes were made in turn. -/
def Standing (uri : Uri) (events : List Event) (document : Document) : Prop :=
  ∃ before opened later, events = before ++ .opened uri opened :: later
    ∧ (∀ e ∈ later, ¬e.Bounds uri)
    ∧ document = (later.filterMap (Event.change? uri)).foldl (fun d c => d.revise c.1 c.2) opened

/-- The settings in force at the last event that had a URI linted. -/
def LastLinted (uri : Uri) (history : List Handled) (rules : Rules) : Prop :=
  ∃ before h later, history = before ++ h :: later
    ∧ h.event.Lints uri ∧ (∀ x ∈ later, ¬x.event.Lints uri) ∧ h.rules = rules

def Outgoing.publication? (uri : Uri) : Outgoing → Option (List Diagnostic × Option Int32)
  | .publish u diagnostics version => if u = uri then some (diagnostics, version) else none
  | _ => none

def lastPublished (uri : Uri) (sent : List Outgoing) :
    Option (List Diagnostic × Option Int32) :=
  (sent.filterMap (Outgoing.publication? uri)).getLast?

/-! ## One more event -/

/-- What an event makes of the document at a URI. -/
def Event.applied (uri : Uri) (old : Option Document) (e : Event) : Option Document :=
  match e with
  | .opened u document => if u = uri then some document else old
  | .closed u => if u = uri then none else old
  | e => (e.change? uri).elim old fun c => old.map (·.revise c.1 c.2)

/-- Where a list with one more element is cut at an element, the new one is
either that element or the last behind it. -/
theorem cut_concat {α : Type} {l before later : List α} {e x : α}
    (h : l ++ [e] = before ++ x :: later) :
    (l = before ∧ e = x ∧ later = []) ∨ ∃ rest, l = before ++ x :: rest ∧ later = rest ++ [e] := by
  rcases List.eq_nil_or_concat later with rfl | ⟨rest, y, rfl⟩
  · obtain ⟨hl, he⟩ := List.append_inj' h rfl
    exact Or.inl ⟨hl, List.singleton_inj.mp he, rfl⟩
  · have h' : l ++ [e] = (before ++ x :: rest) ++ [y] := by simpa using h
    obtain ⟨hl, he⟩ := List.append_inj' h' rfl
    exact Or.inr ⟨rest, hl, by rw [List.singleton_inj.mp he, List.concat_eq_append]⟩

theorem standing_concat_opened {uri : Uri} {events : List Event} {opened document : Document} :
    Standing uri (events ++ [.opened uri opened]) document ↔ opened = document := by
  constructor
  · rintro ⟨before, first, later, heq, hlater, rfl⟩
    rcases cut_concat heq with ⟨-, hopened, rfl⟩ | ⟨rest, -, rfl⟩
    · cases hopened
      rfl
    · exact absurd rfl (hlater (.opened uri opened) (by simp))
  · rintro rfl
    exact ⟨events, opened, [], rfl, by simp, rfl⟩

theorem not_standing_concat_closed {uri : Uri} {events : List Event} {document : Document} :
    ¬Standing uri (events ++ [.closed uri]) document := by
  rintro ⟨before, first, later, heq, hlater, -⟩
  rcases cut_concat heq with ⟨-, hclosed, -⟩ | ⟨rest, -, rfl⟩
  · cases hclosed
  · exact absurd rfl (hlater (.closed uri) (by simp))

/-- An event that neither opens nor closes extends what has come since the
document was opened. -/
theorem standing_concat_of_not_bounds {uri : Uri} {events : List Event} {e : Event}
    (he : ¬e.Bounds uri) {document : Document} :
    Standing uri (events ++ [e]) document ↔
      ∃ old, Standing uri events old
        ∧ document = (e.change? uri).elim old fun c => old.revise c.1 c.2 := by
  constructor
  · rintro ⟨before, first, later, heq, hlater, rfl⟩
    rcases cut_concat heq with ⟨-, rfl, -⟩ | ⟨rest, rfl, rfl⟩
    · exact absurd rfl he
    · refine ⟨_, ⟨before, first, rest, rfl, fun y hy => hlater y (by simp [hy]), rfl⟩, ?_⟩
      cases hc : e.change? uri <;> simp [List.filterMap_append, List.foldl_append, hc]
  · rintro ⟨old, ⟨before, first, later, rfl, hlater, rfl⟩, rfl⟩
    refine ⟨before, first, later ++ [e], by simp, ?_, ?_⟩
    · intro x hx
      rcases List.mem_append.mp hx with hx | hx
      · exact hlater x hx
      · rw [List.mem_singleton.mp hx]; exact he
    · cases hc : e.change? uri <;> simp [List.filterMap_append, List.foldl_append, hc]

/-- What stands at a URI is followed event by event. -/
theorem standing_concat {uri : Uri} {events : List Event} {old : Option Document}
    (hold : ∀ d, old = some d ↔ Standing uri events d) (e : Event) (document : Document) :
    e.applied uri old = some document ↔ Standing uri (events ++ [e]) document := by
  have hframe (hne : ¬e.Bounds uri)
      (happlied : e.applied uri old =
        (e.change? uri).elim old fun c => old.map (·.revise c.1 c.2)) :
      e.applied uri old = some document ↔ Standing uri (events ++ [e]) document := by
    rw [standing_concat_of_not_bounds hne, happlied]
    cases e.change? uri <;> cases old <;> simp [← hold, eq_comm]
  cases e with
  | opened u d =>
      by_cases hu : u = uri
      · subst hu
        simp [Event.applied, standing_concat_opened]
      · exact hframe hu (by simp [Event.applied, Event.change?, hu])
  | closed u =>
      by_cases hu : u = uri
      · subst hu
        simp [Event.applied, not_standing_concat_closed]
      · exact hframe hu (by simp [Event.applied, Event.change?, hu])
  | ready => exact hframe id rfl
  | changed u version texts => exact hframe id rfl
  | saved u => exact hframe id rfl

theorem applied_of_not_lints {uri : Uri} {e : Event} (hlints : ¬e.Lints uri)
    (hclosed : e ≠ .closed uri) (old : Option Document) : e.applied uri old = old := by
  cases e with
  | opened u d => exact if_neg hlints
  | closed u => exact if_neg fun hu => hclosed (by rw [hu])
  | changed u version texts =>
      by_cases hu : u = uri
      · have htexts : texts = [] := by simpa [Event.Lints, hu] using hlints
        simp [Event.applied, Event.change?, htexts]
      · simp [Event.applied, Event.change?, hu]
  | ready => rfl
  | saved u => rfl

/-- Linting is never the end of a document. -/
theorem eq_none_of_applied {uri : Uri} {e : Event} (hlints : e.Lints uri)
    {old : Option Document} (h : e.applied uri old = none) : old = none := by
  cases e with
  | opened u d => simp [Event.applied, show u = uri from hlints] at h
  | closed u => exact hlints.elim
  | changed u version texts =>
      cases hc : Event.change? uri (.changed u version texts) <;>
        simpa [Event.applied, hc] using h
  | ready => exact hlints.elim
  | saved u => exact h

theorem lastLinted_concat {uri : Uri} {history : List Handled} {h : Handled}
    (hlints : h.event.Lints uri) : LastLinted uri (history ++ [h]) h.rules :=
  ⟨history, h, [], rfl, hlints, by simp, rfl⟩

theorem LastLinted.concat {uri : Uri} {history : List Handled} {rules : Rules}
    (hlast : LastLinted uri history rules) {h : Handled} (hlints : ¬h.event.Lints uri) :
    LastLinted uri (history ++ [h]) rules := by
  obtain ⟨before, x, later, rfl, hx, hlater, hrules⟩ := hlast
  refine ⟨before, x, later ++ [h], by simp, hx, fun y hy => ?_, hrules⟩
  rcases List.mem_append.mp hy with hy | hy
  · exact hlater y hy
  · rw [List.mem_singleton.mp hy]; exact hlints

/-! ## Publications -/

theorem lastPublished_append_of_none {uri : Uri} {sent new : List Outgoing}
    (h : ∀ o ∈ new, o.publication? uri = none) :
    lastPublished uri (sent ++ new) = lastPublished uri sent := by
  have hnew : new.filterMap (Outgoing.publication? uri) = [] := by
    rw [List.filterMap_eq_nil_iff]; exact h
  simp [lastPublished, List.filterMap_append, hnew]

theorem lastPublished_concat (uri : Uri) (sent : List Outgoing) (diagnostics : List Diagnostic)
    (version : Option Int32) :
    lastPublished uri (sent ++ [.publish uri diagnostics version])
      = some (diagnostics, version) := by
  simp [lastPublished, List.filterMap_append, Outgoing.publication?]

theorem Outgoing.IsLog.publication?_eq {o : Outgoing} (h : o.IsLog) (uri : Uri) :
    o.publication? uri = none := by
  obtain ⟨level, text, rfl⟩ := h
  rfl

/-! ## The invariant -/

/-- What the server keeps, holds and has published about a URI agrees with
the history. -/
structure Shows (engine : Engine) (uri : Uri) (s : Session) (history : List Handled)
    (sent : List Outgoing) : Prop where
  /-- A document is kept just if it stands, and it is the one that stands. -/
  document : ∀ d, s.documents.get? uri = some d ↔ Standing uri (history.map (·.event)) d
  /-- Markdown has the diagnostics of its current text under the settings
  of the last lint, which are none if that fails. -/
  markdown : ∀ d, s.documents.get? uri = some d → d.isMarkdown = true →
    ∃ rules, LastLinted uri history rules ∧ s.held uri = engine.diagnose rules uri d.text
  /-- Nothing is held for any other document, nor without one. -/
  other : (∀ d, s.documents.get? uri = some d → d.isMarkdown = false) → s.held uri = []
  /-- The last publication has what is held, and the version of the
  document if it is open. Without a publication there is nothing. -/
  published : lastPublished uri sent
    = some (s.held uri, (s.documents.get? uri).map (·.version))
    ∨ lastPublished uri sent = none ∧ s.documents.get? uri = none ∧ s.held uri = []

namespace Shows

variable {env : Environment} {engine : Engine} {uri : Uri} {s s' : Session}
  {history : List Handled} {sent new : List Outgoing}

theorem initial (engine : Engine) (uri : Uri) : Shows engine uri {} [] [] where
  document d := by
    refine ⟨nofun, ?_⟩
    rintro ⟨before, opened, later, h, -⟩
    simp at h
  markdown d h := by cases h
  other _ := rfl
  published := Or.inr ⟨rfl, rfl, rfl⟩

/-- A change of the session that leaves the URI alone. -/
theorem frame (h : Shows engine uri s history sent)
    (hdocument : s'.documents.get? uri = s.documents.get? uri)
    (hheld : s'.held uri = s.held uri) (hnew : ∀ o ∈ new, o.publication? uri = none) :
    Shows engine uri s' history (sent ++ new) where
  document := by rw [hdocument]; exact h.document
  markdown := by rw [hdocument, hheld]; exact h.markdown
  other := by rw [hdocument, hheld]; exact h.other
  published := by
    rw [lastPublished_append_of_none hnew, hdocument, hheld]
    exact h.published

/-- An event that leaves the document alone and does not have it linted. -/
theorem hear (h : Shows engine uri s history sent) {x : Handled}
    (happlied : x.event.applied uri (s.documents.get? uri) = s.documents.get? uri)
    (hlints : x.event.Lints uri → s.documents.get? uri = none) :
    Shows engine uri s (history ++ [x]) sent where
  document d := by
    rw [List.map_append, List.map_singleton, ← standing_concat h.document, happlied]
  markdown d hd hmarkdown := by
    obtain ⟨rules, hlast, hheld⟩ := h.markdown d hd hmarkdown
    refine ⟨rules, hlast.concat fun hl => ?_, hheld⟩
    rw [hlints hl] at hd
    cases hd
  other := h.other
  published := h.published

/-- A refresh of an open document agrees with the history whatever was held
or published before. -/
theorem of_refresh (hsteady : env.engine.IsSteady) {document : Document}
    (hget : s.documents.get? uri = some document)
    (hdocument : ∀ d, s.documents.get? uri = some d ↔ Standing uri (history.map (·.event)) d)
    (hlast : LastLinted uri history s.rules) :
    Shows env.engine uri (s.refresh env uri).session history
      (sent ++ (s.refresh env uri).sent) := by
  obtain ⟨calls, logs, hrefresh, hlogs⟩ := Session.refresh_of_some hsteady hget
  have hheld : (s.refresh env uri).session.held uri
      = Session.diagnosticsFor env s.rules uri document := by
    simp [hrefresh, Session.held, Store.get?_insert]
  have hdocuments := (Session.agrees_refresh hsteady s uri).documents
  constructor
  · rw [hdocuments]; exact hdocument
  · intro d hd hmarkdown
    rw [hdocuments, hget] at hd
    cases hd
    exact ⟨s.rules, hlast, by rw [hheld, Session.diagnosticsFor, if_pos hmarkdown]⟩
  · intro hother
    have hmarkdown := hother document (by rw [hdocuments, hget])
    rw [hheld, Session.diagnosticsFor, hmarkdown]
    rfl
  · left
    rw [hheld, hdocuments, hget, hrefresh, ← List.append_assoc, lastPublished_concat]
    rfl

/-- A refresh at one URI leaves every other alone. -/
theorem frame_refresh (hsteady : env.engine.IsSteady) (h : Shows engine uri s history sent)
    {u : Uri} (hu : u ≠ uri) :
    Shows engine uri (s.refresh env u).session history (sent ++ (s.refresh env u).sent) := by
  cases hget : s.documents.get? u with
  | none =>
      rw [Session.refresh_of_none hget]
      exact h.frame rfl rfl (by simp)
  | some document =>
      obtain ⟨calls, logs, hrefresh, hlogs⟩ := Session.refresh_of_some hsteady hget
      rw [hrefresh]
      refine h.frame rfl ?_ fun o ho => ?_
      · simp [Session.held, Store.get?_insert, hu.symm]
      · rcases List.mem_append.mp ho with ho | ho
        · exact (hlogs o ho).publication?_eq uri
        · rw [List.mem_singleton.mp ho]; exact if_neg hu

/-! ## Steps -/

/-- An event that may change documents and then has one of them linted. -/
theorem refreshed (hsteady : env.engine.IsSteady) (h : Shows env.engine uri s history sent)
    {e : Event} {u : Uri} {documents : Store Document}
    (hdocuments : documents.get? uri = e.applied uri (s.documents.get? uri))
    (hlints : e.Lints uri ↔ u = uri) (hclosed : e ≠ .closed uri) :
    Shows env.engine uri (Session.refresh env { s with documents := documents } u).session
      (history ++ [⟨s.rules, e⟩])
      (sent ++ (Session.refresh env { s with documents := documents } u).sent) := by
  by_cases hu : u = uri
  · subst hu
    have hl := hlints.mpr rfl
    cases hget : documents.get? u with
    | none =>
        have hnone : s.documents.get? u = none := eq_none_of_applied hl (hdocuments ▸ hget)
        rw [Session.refresh_of_none (s := { s with documents := documents }) hget]
        refine (h.hear ?_ fun _ => hnone).frame ?_ rfl (by simp)
        · rw [← hdocuments, hget, hnone]
        · show documents.get? u = _
          rw [hget, hnone]
    | some document =>
        refine of_refresh (s := { s with documents := documents }) hsteady hget (fun d => ?_)
          (lastLinted_concat hl)
        rw [List.map_append, List.map_singleton, ← standing_concat h.document, ← hdocuments]
  · have hl : ¬e.Lints uri := fun hl => hu (hlints.mp hl)
    have happlied := applied_of_not_lints hl hclosed (s.documents.get? uri)
    refine frame_refresh hsteady ?_ hu
    rw [← List.append_nil sent]
    refine (h.hear happlied fun hl' => absurd hl' hl).frame ?_ rfl (by simp)
    exact hdocuments.trans happlied

/-- Closing a document ends all that is shown for it. -/
theorem of_closed (h : Shows engine uri s history sent) (u : Uri) :
    Shows engine uri (s.onEvent env (.closed u)).session (history ++ [⟨s.rules, .closed u⟩])
      (sent ++ (s.onEvent env (.closed u)).sent) := by
  by_cases hu : u = uri
  · subst hu
    have hget : (s.onEvent env (.closed u)).session.documents.get? u = none := by
      simp [Session.onEvent, Store.get?_erase]
    have hheld : (s.onEvent env (.closed u)).session.held u = [] := by
      simp [Session.onEvent, Session.held, Store.get?_erase]
    constructor
    · intro d
      rw [hget, List.map_append, List.map_singleton, ← standing_concat h.document]
      simp [Event.applied]
    · intro d hd
      rw [hget] at hd
      cases hd
    · exact fun _ => hheld
    · left
      rw [hheld, hget]
      exact lastPublished_concat u sent [] none
  · refine (h.hear (x := ⟨s.rules, .closed u⟩) (if_neg hu) False.elim).frame ?_ ?_ ?_
    · simp [Session.onEvent, Store.get?_erase, Ne.symm hu]
    · simp [Session.onEvent, Session.held, Store.get?_erase, Ne.symm hu]
    · simp [Session.onEvent, Outgoing.publication?, hu]

theorem onEvent (hsteady : env.engine.IsSteady) (h : Shows env.engine uri s history sent)
    (e : Event) :
    Shows env.engine uri (s.onEvent env e).session (history ++ [⟨s.rules, e⟩])
      (sent ++ (s.onEvent env e).sent) := by
  cases e with
  | ready =>
      refine (h.hear (x := ⟨s.rules, .ready⟩) rfl False.elim).frame rfl rfl fun o ho => ?_
      refine Outgoing.IsLog.publication?_eq ?_ uri
      simp only [Session.onEvent, Session.loadRules, Session.loadLog, List.mem_append,
        List.mem_map, List.mem_singleton] at ho
      rcases ho with (⟨e, -, rfl⟩ | ⟨path, -, rfl⟩) | rfl <;> exact ⟨_, _, rfl⟩
  | opened u document =>
      refine h.refreshed hsteady ?_ Iff.rfl nofun
      rw [Store.get?_insert]
      simp [Event.applied, eq_comm]
  | changed u version texts =>
      cases htexts : texts.getLast? with
      | none =>
          have hnil : texts = [] := List.getLast?_eq_none_iff.mp htexts
          simp only [Session.onEvent, htexts]
          refine (h.hear (x := ⟨s.rules, .changed u version texts⟩) ?_ ?_).frame rfl rfl (by simp)
          · simp [Event.applied, Event.change?, htexts]
          · exact fun hl => absurd hnil hl.2
      | some text =>
          have hne : texts ≠ [] := by rintro rfl; cases htexts
          simp only [Session.onEvent, htexts]
          refine h.refreshed hsteady ?_ (and_iff_left hne) nofun
          rw [Store.get?_modify]
          by_cases hu : u = uri
          · simp [Event.applied, Event.change?, htexts, hu]
          · simp [Event.applied, Event.change?, hu, Ne.symm hu]
  | saved u =>
      have hdocuments : s.documents.get? uri
          = Event.applied uri (s.documents.get? uri) (.saved u) := rfl
      exact h.refreshed hsteady hdocuments Iff.rfl nofun
  | closed u => exact h.of_closed u

/-- Every step keeps the invariant. -/
theorem step (hsteady : env.engine.IsSteady) (h : Shows env.engine uri s history sent)
    (m : Message) :
    Shows env.engine uri (s.step env m).session (history ++ s.heard m)
      (sent ++ (s.step env m).sent) := by
  cases htask : s.task m with
  | event e =>
      rw [Session.heard_of_event htask, (Session.step_event htask).2]
      exact h.onEvent hsteady e
  | start id startup =>
      rw [Session.heard_of_event?_none (by rw [htask]; rfl), (Session.step_start htask).2,
        List.append_nil]
      exact h.frame rfl rfl (by simp)
  | stop id =>
      rw [Session.heard_of_event?_none (by rw [htask]; rfl), (Session.step_stop htask).2,
        List.append_nil]
      exact h.frame rfl rfl (by simp [Outgoing.publication?])
  | query id q =>
      obtain ⟨calls, requests, replies, outcome, hquery, hreplies⟩ := Session.onQuery_eq env s q
      rw [Session.heard_of_event?_none (by rw [htask]; rfl), (Session.step_query htask).2,
        List.append_nil, hquery]
      refine h.frame rfl rfl fun o ho => ?_
      rcases hreplies o ho with hlog | ⟨number, edit, rfl⟩
      · exact hlog.publication?_eq uri
      · rfl
  | idle =>
      obtain ⟨⟨phase, hsession, -⟩, hsent, -⟩ := Session.step_idle env htask
      rw [Session.heard_of_event?_none (by rw [htask]; rfl), hsession, hsent, List.append_nil]
      exact h.frame rfl rfl (by simp)

end Shows

/-- **The editor is shown the current state.** After any messages, one at a
time and each in an environment of its own, and for every URI: the document
kept, the diagnostics held and what was last published agree with what has
happened. The engine is any function of name, text and settings, and may
fail or crash on any of them. -/
theorem run_shows_current {engine : Engine} (hsteady : engine.IsSteady) {ds : List Delivery}
    (hengine : ∀ d ∈ ds, d.env.engine = engine) (uri : Uri) :
    Shows engine uri (Session.after {} ds) (Session.history {} ds) (Session.sentIn {} ds) := by
  induction ds using List.reverseRecOn with
  | nil => exact Shows.initial engine uri
  | append_singleton ds d ih =>
      have hd : d.env.engine = engine := hengine d (by simp)
      subst hd
      rw [Session.after_concat, Session.history_concat, Session.sentIn_concat]
      exact (ih fun x hx => hengine x (by simp [hx])).step hsteady d.message

/-- A document that is edited twice, the second time by nothing. -/
def editedNote : List Delivery :=
  deliver (.bare .trailing) <| Message.greetings {} ++
    [.notify (.opened noteUri ⟨"markdown", "a ", 1⟩),
      .notify (.changed noteUri 2 ["b", "b  "]), .notify (.changed noteUri 3 [])]

theorem run_shows_current_of_edited :
    Shows .trailing noteUri (Session.after {} editedNote) (Session.history {} editedNote)
        (Session.sentIn {} editedNote)
      ∧ (Session.after {} editedNote).documents.get? noteUri = some ⟨"markdown", "b  ", 2⟩
      ∧ ((Session.after {} editedNote).held noteUri).map (·.range) = [⟨⟨0, 1⟩, ⟨0, 3⟩⟩] := by
  have hengine : ∀ d ∈ editedNote, d.env.engine = .trailing :=
    fun _ h => engine_of_mem_deliver h
  exact ⟨run_shows_current (fun _ _ _ _ => rfl) hengine noteUri,
    by decide +kernel, by decide +kernel⟩

end LintServer
