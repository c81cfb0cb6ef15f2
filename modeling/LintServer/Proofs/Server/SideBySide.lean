import Mathlib.Data.List.Forall2
import LintServer.Proofs.Server.Run

/-!
# Two runs side by side

Two sessions are *alike* as far as some documents are watched if they agree
on everything that a message about a watched document can depend on: the
phase, the settings and where they come from, and what is kept and held for
the watched URIs (`Session.Alike`). The numbers of lint calls and of edit
requests are left out, since a steady engine does not look at the one and
only a log can tell the other.

A message that is about no other document takes alike sessions to alike
sessions and has both publish the same about the watched documents
(`Session.alike_step`), even under two engines as long as they show the
same. A message about a document that is not watched leaves the session
alike to what it was and publishes nothing that counts
(`Session.alike_step_apart`). Hence a run is alike to the run of those of
its messages that concern the watched documents (`Session.alike_run`).
-/

namespace LintServer

/-! ## What a message is about -/

/-- The document that an event is about. -/
def Event.subject? : Event → Option Uri
  | .ready => none
  | .opened uri _ => some uri
  | .changed uri _ _ => some uri
  | .saved uri => some uri
  | .closed uri => some uri

def Query.subject? : Query → Option Uri
  | .actions query => some query.uri
  | .fixAll target => target
  | .otherCommand _ => none

def Message.subject? (m : Message) : Option Uri :=
  match m.call with
  | .event (.ok e) => e.subject?
  | .query (.ok q) => q.subject?
  | _ => none

def Task.subject? : Task → Option Uri
  | .event e => e.subject?
  | .query _ q => q.subject?
  | _ => none

/-- Whether a message is about a watched document, or about none. -/
def Message.concerns (watched : Uri → Bool) (m : Message) : Bool :=
  m.subject?.all watched

/-- Whether a message has the editor show the diagnostics of a watched
document. -/
def Outgoing.publishes (watched : Uri → Bool) : Outgoing → Bool
  | .publish uri _ _ => watched uri
  | _ => false

/-- The same message, met by the same files. The engine may be another one,
and the editor may reply to edits as it likes. -/
structure Delivery.Resembles (d e : Delivery) : Prop where
  message : e.message = d.message
  files : e.env.files = d.env.files
  globalDirectory : e.env.globalDirectory = d.env.globalDirectory

theorem resembles_deliver (env env' : Environment) (hfiles : env'.files = env.files)
    (hdirectory : env'.globalDirectory = env.globalDirectory) (keep : Message → Bool)
    (messages : List Message) :
    List.Forall₂ Delivery.Resembles ((deliver env messages).filter (keep ·.message))
      (deliver env' (messages.filter keep)) := by
  rw [deliver, deliver, List.filter_map, List.forall₂_map_left_iff, List.forall₂_map_right_iff]
  exact List.forall₂_same.mpr fun m _ => ⟨rfl, hfiles, hdirectory⟩

theorem filter_publishes_of_not {watched : Uri → Bool} {sent : List Outgoing}
    (h : ∀ o ∈ sent, o.IsLog ∨ ∃ number edit, o = .applyEdit number edit) :
    sent.filter (·.publishes watched) = [] := by
  rw [List.filter_eq_nil_iff]
  intro o ho
  rcases h o ho with ⟨level, text, rfl⟩ | ⟨number, edit, rfl⟩
  · exact Bool.false_ne_true
  · exact Bool.false_ne_true

theorem filter_publishes_of_logs {watched : Uri → Bool} {logs : List Outgoing}
    (h : ∀ o ∈ logs, o.IsLog) : logs.filter (·.publishes watched) = [] :=
  filter_publishes_of_not fun o ho => Or.inl (h o ho)

/-! ## Alike sessions -/

/-- The sessions agree on all that a message about a watched document can
depend on. -/
structure Session.Alike (watched : Uri → Bool) (s t : Session) : Prop where
  phase : t.phase = s.phase
  rules : t.rules = s.rules
  loader : t.loader = s.loader
  document : ∀ uri, watched uri = true → t.documents.get? uri = s.documents.get? uri
  held : ∀ uri, watched uri = true → t.held uri = s.held uri

/-- The turns end in alike sessions, and both publish the same about the
watched documents. -/
structure Turn.Alike {α β : Type} (watched : Uri → Bool) (a : Turn α) (b : Turn β) : Prop where
  session : a.session.Alike watched b.session
  published : b.sent.filter (·.publishes watched) = a.sent.filter (·.publishes watched)

def Engine.ShowsLike (engine other : Engine) : Prop :=
  ∀ rules uri text, other.diagnose rules uri text = engine.diagnose rules uri text

namespace Session

variable {watched : Uri → Bool} {s t u : Session}

theorem Alike.refl (watched : Uri → Bool) (s : Session) : s.Alike watched s :=
  ⟨rfl, rfl, rfl, fun _ _ => rfl, fun _ _ => rfl⟩

theorem Alike.symm (h : s.Alike watched t) : t.Alike watched s :=
  ⟨h.phase.symm, h.rules.symm, h.loader.symm, fun v hv => (h.document v hv).symm,
    fun v hv => (h.held v hv).symm⟩

theorem Alike.trans (h : s.Alike watched t) (h' : t.Alike watched u) : s.Alike watched u :=
  ⟨h'.phase.trans h.phase, h'.rules.trans h.rules, h'.loader.trans h.loader,
    fun v hv => (h'.document v hv).trans (h.document v hv),
    fun v hv => (h'.held v hv).trans (h.held v hv)⟩

/-- The numbers of calls and requests do not count. -/
theorem Alike.counted (h : s.Alike watched t) (calls requests calls' requests' : Nat) :
    Session.Alike watched { s with lintCalls := calls, requests := requests }
      { t with lintCalls := calls', requests := requests' } :=
  ⟨h.phase, h.rules, h.loader, h.document, h.held⟩

theorem Alike.withDocuments (h : s.Alike watched t) {kept kept' : Store Document}
    (hkept : ∀ uri, watched uri = true → kept'.get? uri = kept.get? uri) :
    Session.Alike watched { s with documents := kept } { t with documents := kept' } :=
  ⟨h.phase, h.rules, h.loader, hkept, h.held⟩

theorem task_congr (h : t.phase = s.phase) (m : Message) : t.task m = s.task m := by
  unfold task
  rw [h]

end Session

theorem Turn.Alike.of_session {α : Type} {watched : Uri → Bool} {s t : Session} {turn : Turn α}
    (h : Turn.Alike watched (⟨t, [], ()⟩ : Turn Unit) turn) (hst : s.Alike watched t) :
    Turn.Alike watched (⟨s, [], ()⟩ : Turn Unit) turn :=
  ⟨hst.trans h.session, h.published⟩

namespace Session

variable {watched : Uri → Bool} {s t : Session}

/-! ## Documents -/

section

variable {env env' : Environment} (hsteady : env.engine.IsSteady)
  (hsteady' : env'.engine.IsSteady) (hshows : env.engine.ShowsLike env'.engine)

include hsteady hsteady' hshows in
theorem alike_refresh (h : s.Alike watched t) {uri : Uri} (huri : watched uri = true) :
    (s.refresh env uri).Alike watched (t.refresh env' uri) := by
  cases hdocument : s.documents.get? uri with
  | none =>
      rw [refresh_of_none hdocument, refresh_of_none ((h.document uri huri).trans hdocument)]
      exact ⟨h, rfl⟩
  | some document =>
      obtain ⟨calls, logs, hrefresh, hlogs⟩ := refresh_of_some hsteady hdocument
      obtain ⟨calls', logs', hrefresh', hlogs'⟩ :=
        refresh_of_some hsteady' ((h.document uri huri).trans hdocument)
      have hshown : diagnosticsFor env' t.rules uri document
          = diagnosticsFor env s.rules uri document := by
        rw [diagnosticsFor, diagnosticsFor, h.rules, hshows]
      rw [hrefresh, hrefresh', hshown]
      refine ⟨⟨h.phase, h.rules, h.loader, h.document, fun v hv => ?_⟩, ?_⟩
      · have hv' := h.held v hv
        simp only [held, Store.get?_insert] at hv' ⊢
        split
        · rfl
        · exact hv'
      · simp only [List.filter_append, filter_publishes_of_logs hlogs,
          filter_publishes_of_logs hlogs']

include hsteady in
/-- A refresh of a document that is not watched does not count. -/
theorem alike_refresh_apart (s : Session) {uri : Uri} (huri : watched uri = false) :
    Turn.Alike watched ⟨s, [], ()⟩ (s.refresh env uri) := by
  cases hdocument : s.documents.get? uri with
  | none =>
      rw [refresh_of_none hdocument]
      exact ⟨.refl watched s, rfl⟩
  | some document =>
      obtain ⟨calls, logs, hrefresh, hlogs⟩ := refresh_of_some hsteady hdocument
      rw [hrefresh]
      refine ⟨⟨rfl, rfl, rfl, fun _ _ => rfl, fun v hv => ?_⟩, ?_⟩
      · have hne : v ≠ uri := fun hv' => by rw [hv', huri] at hv; cases hv
        simp [held, Store.get?_insert, hne]
      · rw [List.filter_append, filter_publishes_of_logs hlogs]
        simp [Outgoing.publishes, huri]

/-! ## Events -/

include hsteady hsteady' hshows in
theorem alike_onEvent (hfiles : env'.files = env.files) (h : s.Alike watched t) {e : Event}
    (he : e.subject?.all watched = true) :
    (s.onEvent env e).Alike watched (t.onEvent env' e) := by
  cases e with
  | ready =>
      have hload : (t.loader.getD {}).load env'.files = (s.loader.getD {}).load env.files := by
        rw [h.loader, hfiles]
      simp only [onEvent, loadRules, hload]
      exact ⟨⟨h.phase, rfl, rfl, h.document, h.held⟩, rfl⟩
  | opened uri document =>
      refine alike_refresh hsteady hsteady' hshows (h.withDocuments fun v hv => ?_) he
      rw [Store.get?_insert, Store.get?_insert, h.document v hv]
  | changed uri version texts =>
      cases htexts : texts.getLast? with
      | none =>
          simp only [onEvent, htexts]
          exact ⟨h, rfl⟩
      | some text =>
          simp only [onEvent, htexts]
          refine alike_refresh hsteady hsteady' hshows (h.withDocuments fun v hv => ?_) he
          rw [Store.get?_modify, Store.get?_modify, h.document v hv]
  | saved uri => exact alike_refresh hsteady hsteady' hshows h he
  | closed uri =>
      refine ⟨⟨h.phase, h.rules, h.loader, fun v hv => ?_, fun v hv => ?_⟩, rfl⟩
      · simp only [onEvent, Store.get?_erase, h.document v hv]
      · have hv' := h.held v hv
        simp only [onEvent, held, Store.get?_erase] at hv' ⊢
        split
        · rfl
        · exact hv'

include hsteady in
theorem alike_onEvent_apart (s : Session) {e : Event} {uri : Uri} (he : e.subject? = some uri)
    (huri : watched uri = false) : Turn.Alike watched ⟨s, [], ()⟩ (s.onEvent env e) := by
  have hne {v : Uri} (hv : watched v = true) : v ≠ uri := fun hv' => by
    rw [hv', huri] at hv
    cases hv
  cases e with
  | ready => cases he
  | opened v document =>
      cases he
      refine (alike_refresh_apart hsteady _ huri).of_session ?_
      refine (Alike.refl watched s).withDocuments fun v hv => ?_
      rw [Store.get?_insert, if_neg (hne hv)]
  | changed v version texts =>
      cases he
      cases htexts : texts.getLast? with
      | none =>
          simp only [onEvent, htexts]
          exact ⟨.refl watched s, rfl⟩
      | some text =>
          simp only [onEvent, htexts]
          refine (alike_refresh_apart hsteady _ huri).of_session ?_
          refine (Alike.refl watched s).withDocuments fun v hv => ?_
          rw [Store.get?_modify, if_neg (hne hv)]
  | saved v =>
      cases he
      exact alike_refresh_apart hsteady s huri
  | closed v =>
      cases he
      refine ⟨⟨rfl, rfl, rfl, fun v hv => ?_, fun v hv => ?_⟩, ?_⟩
      · simp [onEvent, Store.get?_erase, hne hv]
      · simp [onEvent, held, Store.get?_erase, hne hv]
      · simp [onEvent, Outgoing.publishes, huri]

/-! ## Queries and idle messages -/

/-- Answering a query is nothing that counts. -/
theorem alike_onQuery (env env' : Environment) (h : s.Alike watched t) (q q' : Query) :
    (s.onQuery env q).Alike watched (t.onQuery env' q') := by
  obtain ⟨calls, requests, sent, outcome, hquery, hsent⟩ := onQuery_eq env s q
  obtain ⟨calls', requests', sent', outcome', hquery', hsent'⟩ := onQuery_eq env' t q'
  rw [hquery, hquery']
  refine ⟨h.counted _ _ _ _, ?_⟩
  rw [filter_publishes_of_not hsent, filter_publishes_of_not hsent']

end

/-! ## Idle messages -/

/-- What comes of an idle message depends on the phase alone. -/
theorem step_idle_congr {m : Message} (env env' : Environment) (h : t.phase = s.phase)
    (hidle : s.task m = .idle) :
    (t.step env' m).result = (s.step env m).result
      ∧ (t.step env' m).session.phase = (s.step env m).session.phase := by
  obtain ⟨next, answer, -, -, hstep⟩ := idles_step hidle
  have hturn : s.step env m = ⟨{ s with phase := next }, [], answer⟩ := hstep env s rfl
  have hturn' : t.step env' m = ⟨{ t with phase := next }, [], answer⟩ := hstep env' t h
  rw [hturn, hturn']
  exact ⟨rfl, rfl⟩

/-- An idle message about a document changes nothing. -/
theorem step_idle_of_subject {m : Message} (env : Environment) (hidle : s.task m = .idle)
    {uri : Uri} (hsubject : m.subject? = some uri) : (s.step env m).session = s := by
  obtain ⟨next, answer, hnext, -, hstep⟩ := idles_step hidle
  have hkept : next = s.phase := by
    refine hnext.resolve_right ?_
    rintro (⟨-, hcall⟩ | ⟨-, params, hcall⟩)
    · rw [Message.subject?, hcall] at hsubject
      cases hsubject
    · rw [Message.subject?, hcall] at hsubject
      cases hsubject
  have hturn : s.step env m = ⟨{ s with phase := next }, [], answer⟩ := hstep env s rfl
  rw [hturn, hkept]

/-! ## Steps -/

/-- A message that is good for something is about what its task is
about. -/
theorem subject?_of_task {m : Message} (hbusy : s.task m ≠ .idle) :
    m.subject? = (s.task m).subject? := by
  unfold task at hbusy ⊢
  split
  · next hcall => rw [Message.subject?, hcall]; rfl
  · next hcall => rw [Message.subject?, hcall]; rfl
  · next hcall => rw [Message.subject?, hcall]; rfl
  · next hcall => rw [Message.subject?, hcall]; rfl
  · next hother => exact absurd (by split <;> simp_all) hbusy

section

variable {d e : Delivery} (hsteady : d.env.engine.IsSteady) (hsteady' : e.env.engine.IsSteady)

include hsteady hsteady' in
/-- A message that is about no other document takes alike sessions to alike
sessions. -/
theorem alike_step (hshows : d.env.engine.ShowsLike e.env.engine) (hde : d.Resembles e)
    (h : s.Alike watched t) (hm : d.message.concerns watched = true) :
    (s.step d.env d.message).Alike watched (t.step e.env e.message) := by
  rw [hde.message]
  have htask' := task_congr h.phase d.message
  cases htask : s.task d.message with
  | start id startup =>
      rw [htask] at htask'
      rw [(step_start htask).2, (step_start htask').2]
      refine ⟨⟨rfl, h.rules, ?_, h.document, h.held⟩, rfl⟩
      simp only [start, hde.globalDirectory]
  | stop id =>
      rw [htask] at htask'
      rw [(step_stop htask).2, (step_stop htask').2]
      exact ⟨⟨rfl, h.rules, h.loader, h.document, h.held⟩, rfl⟩
  | event event =>
      rw [htask] at htask'
      rw [Message.concerns, subject?_of_task (s := s) (by simp [htask]), htask] at hm
      rw [(step_event htask).2, (step_event htask').2]
      obtain ⟨hsession, hpublished⟩ := alike_onEvent hsteady hsteady' hshows hde.files h hm
      exact ⟨hsession, hpublished⟩
  | query id q =>
      rw [htask] at htask'
      rw [(step_query htask).2, (step_query htask').2]
      obtain ⟨hsession, hpublished⟩ := alike_onQuery d.env e.env h q q
      exact ⟨hsession, hpublished⟩
  | idle =>
      rw [htask] at htask'
      have hphase := (step_idle_congr d.env e.env h.phase htask).2
      obtain ⟨⟨phase, hsession, -⟩, hsent, -⟩ := step_idle d.env htask
      obtain ⟨⟨phase', hsession', -⟩, hsent', -⟩ := step_idle e.env htask'
      refine ⟨?_, by rw [hsent, hsent']⟩
      rw [hsession, hsession'] at hphase ⊢
      exact ⟨hphase, h.rules, h.loader, h.document, h.held⟩

include hsteady in
/-- A message about a document that is not watched does not count. -/
theorem alike_step_apart (s : Session) (hm : d.message.concerns watched = false) :
    Turn.Alike watched ⟨s, [], ()⟩ (s.step d.env d.message) := by
  obtain ⟨uri, hsubject, huri⟩ : ∃ uri, d.message.subject? = some uri ∧ watched uri = false := by
    unfold Message.concerns at hm
    cases hsubject : d.message.subject? with
    | none => rw [hsubject] at hm; cases hm
    | some uri => exact ⟨uri, rfl, by rwa [hsubject] at hm⟩
  have hbusy (htask : s.task d.message ≠ .idle) : (s.task d.message).subject? = some uri :=
    (subject?_of_task htask).symm.trans hsubject
  cases htask : s.task d.message with
  | start id startup =>
      rw [htask] at hbusy
      cases hbusy nofun
  | stop id =>
      rw [htask] at hbusy
      cases hbusy nofun
  | event event =>
      rw [htask] at hbusy
      rw [(step_event htask).2]
      obtain ⟨hsession, hpublished⟩ := alike_onEvent_apart hsteady s (hbusy nofun) huri
      exact ⟨hsession, hpublished⟩
  | query id q =>
      obtain ⟨calls, requests, sent, outcome, hquery, hsent⟩ := onQuery_eq d.env s q
      rw [(step_query htask).2, hquery]
      exact ⟨⟨rfl, rfl, rfl, fun _ _ => rfl, fun _ _ => rfl⟩, filter_publishes_of_not hsent⟩
  | idle =>
      have hsent := (step_idle d.env htask).sent
      refine ⟨?_, by rw [hsent]⟩
      rw [step_idle_of_subject d.env htask hsubject]
      exact .refl watched s

end

/-! ## Answers -/

/-- Only code actions depend on more than the phase. -/
theorem step_result_congr {m : Message} (env env' : Environment) (hphase : t.phase = s.phase)
    (hactions : ∀ id query, s.task m ≠ .query id (.actions query)) :
    (t.step env' m).result = (s.step env m).result := by
  have htask' := task_congr hphase m
  cases htask : s.task m with
  | start id startup => rw [(step_start htask).2, (step_start (htask'.trans htask)).2]
  | stop id => rw [(step_stop htask).2, (step_stop (htask'.trans htask)).2]
  | event e => rw [(step_event htask).2, (step_event (htask'.trans htask)).2]
  | query id q =>
      rw [(step_query htask).2, (step_query (htask'.trans htask)).2]
      cases q with
      | actions query => exact absurd htask (hactions id query)
      | fixAll target => cases target <;> rfl
      | otherCommand name => rfl
  | idle => exact (step_idle_congr env env' hphase htask).1

/-- So whatever is seen of the answers is the same in alike sessions if it is
for code actions. -/
theorem view_step_alike {β : Type} (view : Answer → β) {d e : Delivery} (hde : d.Resembles e)
    (h : s.Alike watched t) (hm : d.message.concerns watched = true)
    (hactions : ∀ id query, watched query.uri = true →
      view (.result id (t.onQuery e.env (.actions query)).result) =
        view (.result id (s.onQuery d.env (.actions query)).result)) :
    view (t.step e.env e.message).result = view (s.step d.env d.message).result := by
  rw [hde.message]
  by_cases htask : ∃ id query, s.task d.message = .query id (.actions query)
  · obtain ⟨id, query, htask⟩ := htask
    rw [Message.concerns, subject?_of_task (s := s) (by simp [htask]), htask] at hm
    rw [(step_query htask).2, (step_query ((task_congr h.phase _).trans htask)).2]
    exact hactions id query hm
  · rw [step_result_congr d.env e.env h.phase fun id query hq => htask ⟨id, query, hq⟩]

def wantedQuickFixes (engine : Engine) (query : ActionQuery) (document : Document) :
    List CodeAction :=
  if query.only.elim true (·.contains "quickfix") then
    CodeAction.quickFixes engine query.uri document.text query.context
  else []

def wantsFixAll (query : ActionQuery) : Bool :=
  query.only.elim false fun kinds => kinds.contains "source.fixAll" || kinds.contains "source"

theorem actions_result (env : Environment) (s : Session) (query : ActionQuery) :
    (s.actions env query).result =
      (s.documents.get? query.uri).elim [] fun document =>
        wantedQuickFixes env.engine query document ++
          if wantsFixAll query then
            ((s.fixAllEdit env query.uri).result.map (CodeAction.fixAll query.uri)).toList
          else [] := by
  unfold actions
  cases s.documents.get? query.uri with
  | none => rfl
  | some document =>
      show (if wantsFixAll query then _ else _ : Turn (List CodeAction)).result = _
      cases hfix : wantsFixAll query with
      | false => simp [wantedQuickFixes]
      | true => rfl

/-! ## Runs -/

/-- The answers to the messages of a run that `keep` selects, in order. -/
def answersTo (keep : Message → Bool) (s : Session) (ds : List Delivery) : List Answer :=
  ((ds.zip (s.run ds).2).filter (keep ·.1.message)).map (·.2.2)

theorem answersTo_cons (keep : Message → Bool) (s : Session) (d : Delivery) (ds : List Delivery) :
    s.answersTo keep (d :: ds) =
      (if keep d.message then [(s.step d.env d.message).result] else []) ++
        (s.step d.env d.message).session.answersTo keep ds := by
  simp only [answersTo, run, List.zip_cons_cons, List.filter_cons]
  split <;> rfl

theorem answersTo_of_all {keep : Message → Bool} (h : ∀ m, keep m = true) (s : Session)
    (ds : List Delivery) : s.answersTo keep ds = (s.run ds).2.map (·.2) := by
  induction ds generalizing s with
  | nil => rfl
  | cons d ds ih =>
      rw [answersTo_cons, if_pos (h d.message), ih]
      rfl

/-- **A run is alike to the run of the messages that concern the watched
documents.** The runs may have two engines, as long as they show the same.
What is seen of the answers by `view` is the same if it is in every
step. -/
theorem alike_run {β : Type} (view : Answer → β) {engine engine' : Engine}
    (hsteady : engine.IsSteady) (hsteady' : engine'.IsSteady) (hshows : engine.ShowsLike engine')
    (hview : ∀ (s t : Session) (d e : Delivery), s.Alike watched t → d.Resembles e →
      d.env.engine = engine → e.env.engine = engine' → d.message.concerns watched = true →
      view (t.step e.env e.message).result = view (s.step d.env d.message).result)
    {ds es : List Delivery} (hds : ∀ d ∈ ds, d.env.engine = engine)
    (hes : ∀ e ∈ es, e.env.engine = engine')
    (hkept : List.Forall₂ Delivery.Resembles (ds.filter (·.message.concerns watched)) es)
    (h : s.Alike watched t) :
    (s.after ds).Alike watched (t.after es)
      ∧ (t.sentIn es).filter (·.publishes watched) = (s.sentIn ds).filter (·.publishes watched)
      ∧ (t.run es).2.map (view ·.2) = (s.answersTo (·.concerns watched) ds).map view := by
  induction ds generalizing s t es with
  | nil =>
      cases hkept
      exact ⟨h, rfl, rfl⟩
  | cons d ds ih =>
      have hd : d.env.engine = engine := hds d (List.mem_cons_self ..)
      have hds' : ∀ x ∈ ds, x.env.engine = engine := fun x hx => hds x (List.mem_cons_of_mem _ hx)
      rw [after_cons, sentIn_cons, answersTo_cons, List.filter_append, List.map_append]
      cases hm : d.message.concerns watched with
      | true =>
          simp only [List.filter_cons, hm, if_true] at hkept
          obtain ⟨e, es, hde, hrest, rfl⟩ := List.forall₂_cons_left_iff.mp hkept
          have he : e.env.engine = engine' := hes e (List.mem_cons_self ..)
          have hstep : (s.step d.env d.message).Alike watched (t.step e.env e.message) :=
            alike_step (by rwa [hd]) (by rwa [he]) (by rwa [hd, he]) hde h hm
          obtain ⟨hafter, hsent, hanswers⟩ :=
            ih hds' (fun x hx => hes x (List.mem_cons_of_mem _ hx)) hrest hstep.session
          refine ⟨hafter, ?_, ?_⟩
          · rw [sentIn_cons, List.filter_append, hstep.published, hsent]
          · simp only [run, List.map_cons, hanswers, if_pos, List.map_nil, List.singleton_append,
              hview s t d e h hde hd he hm]
      | false =>
          simp only [List.filter_cons, hm, Bool.false_eq_true, if_false] at hkept
          have hstep := alike_step_apart (d := d) (by rwa [hd]) s hm
          obtain ⟨hafter, hsent, hanswers⟩ := ih hds' hes hkept (hstep.session.symm.trans h)
          refine ⟨hafter, ?_, ?_⟩
          · rw [hstep.published, hsent]
            rfl
          · rw [hanswers]
            rfl

end Session

end LintServer
