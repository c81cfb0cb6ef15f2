import LintServer.Proofs.Server.FixAll
import LintServer.Proofs.Server.SideBySide

/-!
# Failing open

A lint engine that fails or crashes is, for what the editor shows, as good as
one that finds nothing in the texts it fails on (`Engine.lenient`): the two
show the same for every text, so a run with the one is alike to the same run
with the other, with all documents watched (`Session.alike_run`). No request
fails because of the engine.

The fix of a whole document is where they part. The lenient engine goes on
where the other fails, so it may offer an edit that the other does not. An
edit of the other one is the end of passes that all could lint, and there the
two agree (`Engine.orbit?_lenient`); where a pass fails, be it the first
or a later one, there is no edit (`Session.fixAllEdit_of_failsWithin`).
-/

namespace LintServer

/-! ## The lenient engine -/

namespace Engine

/-- The engine that finds nothing where this one fails. -/
def lenient (engine : Engine) : Engine :=
  { engine with
    lint := fun call name text rules =>
      match engine.lint call name text rules with
      | .found violations => .found violations
      | .failed _ => .found []
      | .crashed _ => .found [] }

variable {engine : Engine} {name text : String} {rules : Rules}

theorem IsSteady.lenient (h : engine.IsSteady) : engine.lenient.IsSteady := by
  intro call name text rules
  simp only [Engine.lenient]
  rw [h call name text rules]

theorem violations_lenient (engine : Engine) (call : Nat) (name text : String) (rules : Rules) :
    engine.lenient.violations call name text rules =
      .ok ((engine.violations call name text rules).toOption.getD []) := by
  simp only [violations, Engine.lenient]
  cases engine.lint call name text rules <;> rfl

theorem showsLike_lenient (engine : Engine) : engine.ShowsLike engine.lenient := by
  intro rules uri text
  unfold diagnose
  rw [violations_lenient]
  cases engine.violations 0 uri.text text rules <;> rfl

theorem pass?_lenient {next : String} (h : engine.pass? name rules text = some next) :
    engine.lenient.pass? name rules text = some next := by
  unfold pass? at h ⊢
  rw [violations_lenient]
  cases hv : engine.violations 0 name text rules with
  | ok vs =>
      rw [hv] at h
      exact h
  | error error =>
      rw [hv] at h
      cases h

/-- Where the passes come to a text, so do those of the lenient engine. -/
theorem orbit?_lenient {passes : Nat} {fixed : String}
    (h : engine.orbit? name rules passes text = some fixed) :
    engine.lenient.orbit? name rules passes text = some fixed := by
  induction passes generalizing text with
  | zero => exact h
  | succ passes ih =>
      obtain ⟨next, hpass, hrest⟩ := Option.bind_eq_some_iff.mp h
      rw [orbit?, pass?_lenient hpass, Option.bind_some]
      exact ih hrest

end Engine

/-! ## Answers without the fix of a whole document -/

/-- The outcome with no action that fixes a whole document. -/
def Outcome.withoutFixAll : Outcome → Outcome
  | .actions offered =>
    let others := offered.filter (·.kind != .fixAll)
    if others.isEmpty then .nothing else .actions others
  | outcome => outcome

def Answer.withoutFixAll : Answer → Answer
  | .result id outcome => .result id outcome.withoutFixAll
  | answer => answer

theorem CodeAction.kind_of_mem_quickFixes {engine : Engine} {uri : Uri} {content : String}
    {context : List Diagnostic} {action : CodeAction}
    (h : action ∈ quickFixes engine uri content context) : action.kind = .quickFix := by
  obtain ⟨d, -, hd⟩ := List.mem_filterMap.mp h
  obtain ⟨fix, -, hd⟩ := Option.bind_eq_some_iff.mp hd
  obtain ⟨edit, -, hd⟩ := Option.bind_eq_some_iff.mp hd
  cases hd
  rfl

/-- Leaving out what fixes whole documents leaves the quick fixes. -/
theorem Outcome.withoutFixAll_of_append {quickFixes fixAlls : List CodeAction}
    (hquick : ∀ a ∈ quickFixes, a.kind = .quickFix) (hall : ∀ a ∈ fixAlls, a.kind = .fixAll) :
    (if (quickFixes ++ fixAlls).isEmpty then Outcome.nothing
      else .actions (quickFixes ++ fixAlls)).withoutFixAll =
      if quickFixes.isEmpty then .nothing else .actions quickFixes := by
  have hkept : quickFixes.filter (·.kind != .fixAll) = quickFixes :=
    List.filter_eq_self.mpr fun a ha => by rw [hquick a ha]; rfl
  have hleft : fixAlls.filter (·.kind != .fixAll) = [] :=
    List.filter_eq_nil_iff.mpr fun a ha => by rw [hall a ha]; decide
  cases hempty : (quickFixes ++ fixAlls).isEmpty with
  | true =>
      have hnil : quickFixes = [] := by simp_all
      simp [hnil, withoutFixAll]
  | false => simp [withoutFixAll, List.filter_append, hkept, hleft]

namespace Session

variable {watched : Uri → Bool} {s t : Session} {d e : Delivery}

/-- The answer to a query for code actions, but for the fix of the whole
document. -/
theorem onQuery_actions_withoutFixAll (env : Environment) (s : Session) (query : ActionQuery) :
    (s.onQuery env (.actions query)).result.withoutFixAll =
      (s.documents.get? query.uri).elim .nothing fun document =>
        if (wantedQuickFixes env.engine query document).isEmpty then .nothing
        else .actions (wantedQuickFixes env.engine query document) := by
  simp only [onQuery, actions_result]
  cases s.documents.get? query.uri with
  | none => rfl
  | some document =>
      refine Outcome.withoutFixAll_of_append (fun a ha => ?_) fun a ha => ?_
      · unfold wantedQuickFixes at ha
        split at ha
        · exact CodeAction.kind_of_mem_quickFixes ha
        · cases ha
      · split at ha
        · obtain ⟨edit, -, rfl⟩ := Option.map_eq_some_iff.mp (Option.mem_toList.mp ha)
          rfl
        · cases ha

theorem step_withoutFixAll_lenient (hengine : e.env.engine = d.env.engine.lenient)
    (hde : d.Resembles e) (h : s.Alike watched t) (hm : d.message.concerns watched = true) :
    (t.step e.env e.message).result.withoutFixAll =
      (s.step d.env d.message).result.withoutFixAll := by
  refine view_step_alike Answer.withoutFixAll hde h hm fun id query hquery => ?_
  simp only [Answer.withoutFixAll, onQuery_actions_withoutFixAll, h.document query.uri hquery,
    hengine]
  rfl

end Session

/-! ## Requests -/

def Task.request? : Task → Option RequestId
  | .start id _ => some id
  | .stop id => some id
  | .query id _ => some id
  | _ => none

namespace Session

variable {env : Environment} {s : Session} {uri : Uri} {document : Document}

/-- A request that is served has a result. -/
theorem step_result_of_request {m : Message} {id : RequestId}
    (h : (s.task m).request? = some id) :
    ∃ outcome, (s.step env m).result = .result id outcome := by
  cases htask : s.task m with
  | start i startup =>
      rw [htask] at h
      cases h
      rw [(step_start htask).2]
      exact ⟨_, rfl⟩
  | stop i =>
      rw [htask] at h
      cases h
      rw [(step_stop htask).2]
      exact ⟨_, rfl⟩
  | query i q =>
      rw [htask] at h
      cases h
      rw [(step_query htask).2]
      exact ⟨_, rfl⟩
  | event e => rw [htask] at h; cases h
  | idle => rw [htask] at h; cases h

/-! ## Edits -/

/-- An edit is there just for the text that the loop ends with, and the
lenient engine ends with the same. -/
theorem fixAllEdit_lenient (hsteady : env.engine.IsSteady) {env' : Environment}
    (hengine : env'.engine = env.engine.lenient) {t : Session} (hrules : t.rules = s.rules)
    (hdocument : t.documents.get? uri = s.documents.get? uri) {edit : TextEdit}
    (h : (s.fixAllEdit env uri).result = some edit) :
    (t.fixAllEdit env' uri).result = some edit := by
  by_cases hopen : ∃ document, s.documents.get? uri = some document ∧ document.isMarkdown = true
  · obtain ⟨document, hopen, hmarkdown⟩ := hopen
    rw [fixAllEdit_result hsteady hopen hmarkdown] at h
    rw [fixAllEdit_result (hengine ▸ hsteady.lenient) (hdocument.trans hopen) hmarkdown, hengine,
      hrules]
    obtain ⟨fixed, hfixed, hedit⟩ := Option.bind_eq_some_iff.mp h
    rw [Engine.orbit?_lenient hfixed]
    exact hedit
  · rw [fixAllEdit_result_eq_none fun d hd =>
      Bool.eq_false_iff.mpr fun hmarkdown => hopen ⟨d, hd, hmarkdown⟩] at h
    cases h

/-- Where a pass fails there is no edit. -/
theorem fixAllEdit_of_failsWithin (hsteady : env.engine.IsSteady)
    (hopen : s.documents.get? uri = some document)
    (h : env.engine.FailsWithin uri.text s.rules Engine.maxPasses document.text) :
    (s.fixAllEdit env uri).result = none := by
  cases hmarkdown : document.isMarkdown with
  | false =>
      refine fixAllEdit_result_eq_none fun d hd => ?_
      rw [hopen] at hd
      cases hd
      exact hmarkdown
  | true =>
      rw [fixAllEdit_result hsteady hopen hmarkdown, Engine.orbit?_eq_none_iff.mpr h]
      rfl

end Session

/-! ## Runs -/

/-- What a run with an engine, up to any moment, has in common with the run
of the same messages with the lenient engine. -/
structure FailsOpen (engine : Engine) (ds es : List Delivery) : Prop where
  document : ∀ uri,
    (Session.after {} es).documents.get? uri = (Session.after {} ds).documents.get? uri
  held : ∀ uri, (Session.after {} es).held uri = (Session.after {} ds).held uri
  rules : (Session.after {} es).rules = (Session.after {} ds).rules
  published : (Session.sentIn {} es).filter (·.publishes fun _ => true) =
    (Session.sentIn {} ds).filter (·.publishes fun _ => true)
  /-- The answers differ at most in what fixes whole documents. -/
  answered : (Session.run {} es).2.map (·.2.withoutFixAll) =
    (Session.run {} ds).2.map (·.2.withoutFixAll)
  /-- The next request has a result, if it reaches a handler. -/
  served : ∀ (d : Delivery) (id : RequestId), d.env.engine = engine →
    ((Session.after {} ds).task d.message).request? = some id →
    ∃ outcome, ((Session.after {} ds).step d.env d.message).result = .result id outcome
  /-- An edit that fixes a whole document is one for the lenient engine as
  well. -/
  edit : ∀ (env env' : Environment) (uri : Uri) (edit : TextEdit),
    env.engine = engine → env'.engine = engine.lenient →
    ((Session.after {} ds).fixAllEdit env uri).result = some edit →
    ((Session.after {} es).fixAllEdit env' uri).result = some edit
  /-- There is no such edit where one of the passes fails. -/
  noEdit : ∀ (env : Environment) (uri : Uri) (document : Document), env.engine = engine →
    (Session.after {} ds).documents.get? uri = some document →
    engine.FailsWithin uri.text (Session.after {} ds).rules Engine.maxPasses document.text →
    ((Session.after {} ds).fixAllEdit env uri).result = none

/-- **The server fails open.** Of two runs of the same messages, let one have
an engine that may fail or crash on any texts, and the other the lenient
engine. After any number of messages the documents, the diagnostics and the
settings are the same, and the same has been published; the answers differ
only in what fixes whole documents, and no request fails. An edit that fixes
a whole document is the same with both engines, if the first one comes to an
edit at all, which it does not where one of its passes fails. -/
theorem run_fails_open {engine : Engine} (hsteady : engine.IsSteady) {ds es : List Delivery}
    (hds : ∀ d ∈ ds, d.env.engine = engine) (hes : ∀ e ∈ es, e.env.engine = engine.lenient)
    (hsame : List.Forall₂ Delivery.Resembles ds es) (n : Nat) :
    FailsOpen engine (ds.take n) (es.take n) := by
  have hall (m : Message) : m.concerns (fun _ => true) = true := by
    simp [Message.concerns]
  have hkept : List.Forall₂ Delivery.Resembles
      ((ds.take n).filter (·.message.concerns fun _ => true)) (es.take n) := by
    rw [List.filter_eq_self.mpr fun d _ => hall d.message]
    exact List.forall₂_take n hsame
  obtain ⟨hafter, hsent, hanswers⟩ := Session.alike_run Answer.withoutFixAll hsteady
    hsteady.lenient engine.showsLike_lenient
    (fun s t d e h hde hd he hm =>
      Session.step_withoutFixAll_lenient (by rw [he, hd]) hde h hm)
    (fun d hd => hds d (List.mem_of_mem_take hd)) (fun e he => hes e (List.mem_of_mem_take he))
    hkept (.refl (fun _ => true) {})
  rw [Session.answersTo_of_all fun m => hall m, List.map_map] at hanswers
  exact {
    document := fun uri => hafter.document uri rfl
    held := fun uri => hafter.held uri rfl
    rules := hafter.rules
    published := hsent
    answered := hanswers
    served := fun d id _ h => Session.step_result_of_request h
    edit := fun env env' uri edit henv henv' h =>
      Session.fixAllEdit_lenient (by rwa [henv]) (by rw [henv', henv]) hafter.rules
        (hafter.document uri rfl) h
    noEdit := fun env uri document henv hopen h =>
      Session.fixAllEdit_of_failsWithin (by rwa [henv]) hopen (by rwa [henv]) }

/-- An engine that finds spaces at the end of lines, but crashes on the text
`b`. -/
def Engine.brittle : Engine :=
  steady fun name text rules =>
    if text = "b" then .crashed "boom" else trailingSpacesLint List.length name text rules

/-- A note is edited to a text where the second pass crashes. -/
def brittleNote : List Message :=
  Message.greetings {} ++
    [.notify (.opened noteUri ⟨"markdown", "a  ", 1⟩), .notify (.changed noteUri 2 ["b  "]),
      .ask 1 (.actions ⟨noteUri, [], some ["source.fixAll"]⟩)]

theorem run_fails_open_of_brittle :
    let ds := deliver (.bare .brittle) brittleNote
    let es := deliver (.bare Engine.brittle.lenient) brittleNote
    (∀ n, FailsOpen .brittle (ds.take n) (es.take n))
      ∧ ((Session.after {} (es.take 3)).fixAllEdit (.bare Engine.brittle.lenient) noteUri).result =
          some ⟨.full "a  ", "a"⟩
      ∧ ((Session.after {} ds).fixAllEdit (.bare .brittle) noteUri).result = none
      ∧ ((Session.after {} es).fixAllEdit (.bare Engine.brittle.lenient) noteUri).result =
          some ⟨.full "b  ", "b"⟩ := by
  intro ds es
  have hds : ∀ d ∈ ds, d.env.engine = .brittle := fun _ h => engine_of_mem_deliver h
  have hes : ∀ e ∈ es, e.env.engine = Engine.brittle.lenient := fun _ h => engine_of_mem_deliver h
  have hsame : List.Forall₂ Delivery.Resembles ds es :=
    resembles_deliver (.bare .brittle) (.bare Engine.brittle.lenient) rfl rfl (fun _ => true)
      brittleNote
  have hopen := run_fails_open (fun _ _ _ _ => rfl) hds hes hsame
  refine ⟨hopen, ?_, ?_, by decide +kernel⟩
  · exact (hopen 3).edit (.bare .brittle) (.bare Engine.brittle.lenient) noteUri _ rfl rfl
      (by decide +kernel)
  · have hfails : Engine.brittle.FailsWithin noteUri.text (Session.after {} (ds.take 5)).rules
        Engine.maxPasses "b  " :=
      ⟨1, by decide, "b", .engine (Engine.crashText "boom"), by decide +kernel, rfl⟩
    exact (hopen 5).noEdit (.bare .brittle) noteUri ⟨"markdown", "b  ", 2⟩ rfl
      (by decide +kernel) hfails

end LintServer
