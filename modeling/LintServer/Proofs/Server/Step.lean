import LintServer.Proofs.Lint.Passes
import LintServer.Server.Session

/-!
# What a step does

A message is good for one task, which depends on the phase of the session:
to start or stop the server, to handle an event, or to answer a query.
`Session.task` says which, and there is one lemma per task that says what
`Session.step` then comes to (`step_start` … `step_query`). A message that
is good for nothing is idle: it sends nothing and serves no request, and
at most the phase changes, never into `fresh` or `running` (`step_idle`). What
comes of it depends on the phase alone (`idles_step`).

Facts about single steps are proved by cases on the task. The handlers
themselves are described by what they do to one URI: linting reads the
document, the settings and the engine and counts the call
(`refresh_of_some`), and the fix of a document as a whole only counts
calls (`fixAllEdit_eq`). All of this keeps the settings and the documents
(`Session.Agrees`).
-/

namespace LintServer

/-! ## Tasks -/

/-- What a message is good for. -/
inductive Task where
  | start (id : RequestId) (startup : Startup)
  | stop (id : RequestId)
  | event (event : Event)
  | query (id : RequestId) (query : Query)
  | idle
  deriving Repr

namespace Session

/-- The task of a message in a session. A request needs an identifier, and
an event must not have one. -/
def task (s : Session) (m : Message) : Task :=
  match s.phase, m.id, m.call with
  | .fresh, some id, .start (.ok startup) => .start id startup
  | .running, some id, .stop (.ok ()) => .stop id
  | .running, none, .event (.ok event) => .event event
  | .running, some id, .query (.ok query) => .query id query
  | _, _, _ => .idle

variable {env : Environment} {s : Session} {m : Message}

theorem step_start {id : RequestId} {startup : Startup} (h : s.task m = .start id startup) :
    s.phase = .fresh ∧ s.step env m = ⟨s.start env startup, [], .result id .started⟩ := by
  unfold task at h
  split at h <;> cases h
  next hphase hid hcall => simp [step, hphase, hid, hcall, serve]

theorem step_stop {id : RequestId} (h : s.task m = .stop id) :
    s.phase = .running ∧ s.step env m = ⟨{ s with phase := .stopped },
      [.log .info "mkdlint LSP server shutting down"], .result id .nothing⟩ := by
  unfold task at h
  split at h <;> cases h
  next hphase hid hcall => simp [step, hphase, hid, hcall, serve, whenRunning]

theorem step_event {e : Event} (h : s.task m = .event e) :
    s.phase = .running ∧ s.step env m =
      ⟨(s.onEvent env e).session, (s.onEvent env e).sent, .silence⟩ := by
  unfold task at h
  split at h <;> cases h
  next hphase hid hcall => simp [step, hphase, hid, hcall, whenRunning]

theorem step_query {id : RequestId} {q : Query} (h : s.task m = .query id q) :
    s.phase = .running ∧ s.step env m =
      ⟨(s.onQuery env q).session, (s.onQuery env q).sent, .result id (s.onQuery env q).result⟩ := by
  unfold task at h
  split at h <;> cases h
  next hphase hid hcall => simp [step, hphase, hid, hcall, serve, whenRunning]

/-- A query whose parameters can be read is answered or does nothing. -/
theorem task_of_query {q : Query} (h : m.call = .query (.ok q)) :
    s.task m = .idle ∨ ∃ id, s.task m = .query id q := by
  unfold task
  split <;> simp_all

/-! ## Idle steps -/

/-- A turn in which nothing is sent and no request is served. -/
structure IsIdle (s : Session) (t : Turn Answer) : Prop where
  session : ∃ phase, t.session = { s with phase := phase }
    ∧ (phase = s.phase ∨ phase = .stopped ∨ phase = .exited)
  sent : t.sent = []
  result : ∀ id outcome, t.result ≠ .result id outcome

/-- An action comes to nothing in a phase: it sends nothing and serves no
request, and the next phase and the answer are the same whatever else a session
of that phase holds. The next phase satisfies `P`. -/
def Idles (phase : Phase) (P : Phase → Prop) (act : Environment → Session → Turn Answer) : Prop :=
  ∃ next answer, P next ∧ (∀ id outcome, answer ≠ .result id outcome)
    ∧ ∀ env s, s.phase = phase → act env s = ⟨{ s with phase := next }, [], answer⟩

section

variable {phase : Phase} {P : Phase → Prop} {act act' : Environment → Session → Turn Answer}

theorem Idles.congr (h : Idles phase P act)
    (heq : ∀ env s, s.phase = phase → act' env s = act env s) : Idles phase P act' := by
  obtain ⟨next, answer, hnext, hanswer, hact⟩ := h
  exact ⟨next, answer, hnext, hanswer, fun env s hs => (heq env s hs).trans (hact env s hs)⟩

theorem Idles.of_stopped (h : Idles .stopped P act) :
    Idles phase P fun env s => act env { s with phase := .stopped } := by
  obtain ⟨next, answer, hnext, hanswer, hact⟩ := h
  exact ⟨next, answer, hnext, hanswer, fun env s _ => hact env _ rfl⟩

theorem idles_keep (hP : P phase) {answer : Answer}
    (h : ∀ id outcome, answer ≠ .result id outcome) : Idles phase P fun _ s => ⟨s, [], answer⟩ :=
  ⟨phase, answer, hP, h, fun _ s hs => by rw [← hs]⟩

theorem idles_refuse (hP : P phase) (id : Option RequestId) (reason : Refusal) :
    Idles phase P fun _ s => s.refuse id reason :=
  idles_keep hP (by cases id <;> simp)

theorem idles_whenRunning (hP : P phase) {id : Option RequestId}
    (h : phase = .running → Idles phase P act) :
    Idles phase P fun env s => s.whenRunning id (act env s) := by
  by_cases hrunning : phase = .running
  · exact (h hrunning).congr fun env s hs => if_pos (hs.trans hrunning)
  · refine (idles_refuse hP id (refusalIn phase)).congr fun env s hs => ?_
    rw [whenRunning, if_neg (hs ▸ hrunning), hs]

/-- Parameters that cannot be read, or a request without an identifier. -/
theorem idles_serve (hP : P phase) {α : Type} {id : Option RequestId} {params : Except String α}
    (act : Environment → Session → α → Turn Outcome) (h : ∀ i a, id = some i → params ≠ .ok a) :
    Idles phase P fun env s => s.serve id params (act env s) := by
  cases id with
  | none => exact idles_keep hP (by simp)
  | some i =>
      cases params with
      | ok a => exact absurd rfl (h i a rfl)
      | error reason => exact idles_keep hP (by simp)

end

/-- A message that is good for nothing comes to nothing. It has the server exit
or stop, or leaves the phase. -/
theorem idles_step (h : s.task m = .idle) :
    Idles s.phase (fun next => next = s.phase ∨ next = .exited ∧ m.call = .exit
        ∨ next = .stopped ∧ ∃ params, m.call = .stop params)
      fun env t => t.step env m := by
  obtain ⟨id, call⟩ := m
  by_cases hexited : s.phase = .exited
  · exact (idles_keep (.inl rfl) (by simp)).congr fun env t ht => if_pos (ht.trans hexited)
  refine Idles.congr ?_ fun env t ht => if_neg (ht ▸ hexited)
  cases call with
  | start params =>
      by_cases hfresh : s.phase = .fresh
      · refine (idles_serve (.inl rfl) _ fun i startup hi hp => ?_).congr fun env t ht =>
          if_pos (ht.trans hfresh)
        subst hi hp
        simp [task, hfresh] at h
      · exact (idles_refuse (.inl rfl) id .invalidRequest).congr fun env t ht =>
          if_neg (ht ▸ hfresh)
  | stop params =>
      refine idles_whenRunning (.inl rfl) fun hrunning => ?_
      refine (idles_serve (.inr (.inr ⟨rfl, params, rfl⟩)) (fun _ stopped _ =>
        ⟨stopped, [.log .info "mkdlint LSP server shutting down"], .nothing⟩) ?_).of_stopped
      rintro i ⟨⟩ rfl rfl
      simp [task, hrunning] at h
  | exit => exact ⟨.exited, .silence, .inr (.inl ⟨rfl, rfl⟩), by simp, fun _ _ _ => rfl⟩
  | cancel => exact idles_refuse (.inl rfl) id .invalidRequest
  | query params =>
      refine idles_whenRunning (.inl rfl) fun hrunning =>
        idles_serve (.inl rfl) _ fun i q hi hp => ?_
      subst hi hp
      simp [task, hrunning] at h
  | event params =>
      refine idles_whenRunning (.inl rfl) fun hrunning => ?_
      cases id with
      | some i => exact idles_refuse (.inl rfl) (some i) .invalidRequest
      | none =>
          cases params with
          | ok e => simp [task, hrunning] at h
          | error reason => exact idles_keep (.inl rfl) (by simp)
  | unserved params =>
      refine idles_whenRunning (.inl rfl) fun _ => ?_
      cases params with
      | ok _ => exact idles_refuse (.inl rfl) id .unserved
      | error reason => exact idles_refuse (.inl rfl) id (.invalidParams reason)
  | unknown method =>
      by_cases hoptional : method.toList.take 2 = ['$', '/']
      · exact (idles_keep (.inl rfl) (by simp)).congr fun _ _ _ => if_pos hoptional
      · exact (idles_refuse (.inl rfl) id (.unknownMethod method)).congr fun _ _ _ =>
          if_neg hoptional

theorem step_idle (env : Environment) (h : s.task m = .idle) : IsIdle s (s.step env m) := by
  obtain ⟨next, answer, hnext, hanswer, hstep⟩ := idles_step h
  have hturn : s.step env m = ⟨{ s with phase := next }, [], answer⟩ := hstep env s rfl
  rw [hturn]
  refine ⟨⟨next, rfl, ?_⟩, rfl, hanswer⟩
  rcases hnext with hkept | ⟨hexited, -⟩ | ⟨hstopped, -⟩
  · exact .inl hkept
  · exact .inr (.inr hexited)
  · exact .inr (.inl hstopped)

/-! ## Logging

A lint call that fails is logged and nothing else about it is sent. -/

end Session

def Outgoing.IsLog (o : Outgoing) : Prop := ∃ level text, o = .log level text

/-- What is shown for a text under some settings: the violations of the
text, or nothing if it cannot be linted. -/
def Engine.diagnose (engine : Engine) (rules : Rules) (uri : Uri) (text : String) :
    List Diagnostic :=
  match engine.violations 0 uri.text text rules with
  | .ok violations => violations.map (Diagnostic.ofViolation text)
  | .error _ => []

namespace Session

variable {env : Environment} {s : Session} {uri : Uri} {document : Document}

theorem lint_eq (hsteady : env.engine.IsSteady) (uri : Uri) (text : String) :
    ∃ logs violations,
        s.lint env uri text = ⟨{ s with lintCalls := s.lintCalls + 1 }, logs, violations⟩
      ∧ (∀ o ∈ logs, o.IsLog)
      ∧ violations.map (Diagnostic.ofViolation text) = env.engine.diagnose s.rules uri text := by
  unfold lint Engine.diagnose
  rw [hsteady.violations_eq]
  cases env.engine.violations 0 uri.text text s.rules with
  | ok violations => exact ⟨[], violations, rfl, by simp, rfl⟩
  | error e => exact ⟨_, [], rfl, by simp [Outgoing.IsLog], rfl⟩

/-! ## Showing a document -/

/-- What the editor is to see for a document: nothing unless it is
Markdown. -/
def diagnosticsFor (env : Environment) (rules : Rules) (uri : Uri) (document : Document) :
    List Diagnostic :=
  if document.isMarkdown then env.engine.diagnose rules uri document.text else []

theorem refresh_of_none (h : s.documents.get? uri = none) : s.refresh env uri = ⟨s, [], ()⟩ := by
  simp [refresh, h]

theorem refresh_of_some (hsteady : env.engine.IsSteady)
    (h : s.documents.get? uri = some document) :
    ∃ calls logs, s.refresh env uri =
        ⟨{ s with
            lintCalls := calls
            diagnostics := s.diagnostics.insert uri (diagnosticsFor env s.rules uri document) },
          logs ++ [.publish uri (diagnosticsFor env s.rules uri document) (some document.version)],
          ()⟩
      ∧ ∀ o ∈ logs, o.IsLog := by
  unfold diagnosticsFor
  cases hmarkdown : document.isMarkdown with
  | false => exact ⟨s.lintCalls, [], by simp [refresh, h, hmarkdown, publish], by simp⟩
  | true =>
      obtain ⟨logs, violations, hlint, hlogs, hshown⟩ :=
        lint_eq (s := s) hsteady uri document.text
      exact ⟨s.lintCalls + 1, logs, by simp [refresh, h, hmarkdown, hlint, hshown, publish], hlogs⟩

/-! ## Fixing and answering

Neither changes anything but the numbers of lint calls and of requests. -/

theorem fixAllEdit_eq (env : Environment) (s : Session) (uri : Uri) :
    ∃ calls logs edit, s.fixAllEdit env uri = ⟨{ s with lintCalls := calls }, logs, edit⟩
      ∧ ∀ o ∈ logs, o.IsLog := by
  unfold fixAllEdit
  split
  · exact ⟨s.lintCalls, [], none, rfl, by simp⟩
  · next document _ =>
      split
      · cases env.engine.fixUntilStable uri.text s.rules s.lintCalls document.text with
        | mk fixed calls =>
            cases fixed with
            | ok text => exact ⟨calls, [], _, rfl, by simp⟩
            | error e => exact ⟨calls, _, none, rfl, by simp [Outgoing.IsLog]⟩
      · exact ⟨s.lintCalls, [], none, rfl, by simp⟩

theorem isLog_of_mem_replyLog {reply : EditReply} {o : Outgoing} (h : o ∈ replyLog uri reply) :
    o.IsLog := by
  cases reply <;> simp_all [replyLog, Outgoing.IsLog]

theorem actions_eq (env : Environment) (s : Session) (query : ActionQuery) :
    ∃ calls logs found, s.actions env query = ⟨{ s with lintCalls := calls }, logs, found⟩
      ∧ ∀ o ∈ logs, o.IsLog := by
  obtain ⟨calls, logs, edit, hedit, hlogs⟩ := fixAllEdit_eq env s query.uri
  unfold actions
  split
  · exact ⟨s.lintCalls, [], [], rfl, by simp⟩
  · dsimp only
    split
    · rw [hedit]
      exact ⟨calls, logs, _, rfl, hlogs⟩
    · exact ⟨s.lintCalls, [], _, rfl, by simp⟩

/-- An answer to a query only counts, and publishes nothing. -/
theorem onQuery_eq (env : Environment) (s : Session) (q : Query) :
    ∃ calls requests sent outcome, s.onQuery env q =
        ⟨{ s with lintCalls := calls, requests := requests }, sent, outcome⟩
      ∧ ∀ o ∈ sent, o.IsLog ∨ ∃ number edit, o = .applyEdit number edit := by
  cases q with
  | actions query =>
      obtain ⟨calls, logs, found, hfound, hlogs⟩ := actions_eq env s query
      simp only [onQuery, hfound]
      exact ⟨calls, s.requests, logs, _, rfl, fun o ho => Or.inl (hlogs o ho)⟩
  | fixAll target =>
      cases target with
      | none => exact ⟨s.lintCalls, s.requests, _, _, rfl, by simp [Outgoing.IsLog]⟩
      | some uri =>
          obtain ⟨calls, logs, edit, hedit, hlogs⟩ := fixAllEdit_eq env s uri
          simp only [onQuery, fixAll, hedit]
          cases edit with
          | none => exact ⟨calls, s.requests, logs, _, rfl, fun o ho => Or.inl (hlogs o ho)⟩
          | some e =>
              refine ⟨calls, s.requests + 1, _, _, rfl, fun o ho => ?_⟩
              rcases List.mem_append.mp ho with ho | ho
              · exact Or.inl (hlogs o ho)
              · rcases List.mem_cons.mp ho with rfl | ho
                · exact Or.inr ⟨_, _, rfl⟩
                · exact Or.inl (isLog_of_mem_replyLog ho)
  | otherCommand name => exact ⟨s.lintCalls, s.requests, _, _, rfl, by simp [Outgoing.IsLog]⟩

/-! ## What is kept -/

/-- A later session with the same settings and documents. -/
structure Agrees (s later : Session) : Prop where
  rules : later.rules = s.rules
  documents : later.documents = s.documents

theorem agrees_fixAllEdit (env : Environment) (s : Session) (uri : Uri) :
    s.Agrees (s.fixAllEdit env uri).session := by
  obtain ⟨calls, logs, edit, h, -⟩ := fixAllEdit_eq env s uri
  rw [h]
  exact ⟨rfl, rfl⟩

theorem agrees_refresh (hsteady : env.engine.IsSteady) (s : Session) (uri : Uri) :
    s.Agrees (s.refresh env uri).session := by
  cases hdocument : s.documents.get? uri with
  | none =>
      rw [refresh_of_none hdocument]
      exact ⟨rfl, rfl⟩
  | some document =>
      obtain ⟨calls, logs, h, -⟩ := refresh_of_some hsteady hdocument
      rw [h]
      exact ⟨rfl, rfl⟩

theorem Agrees.after_query {later : Session} (h : s.Agrees later) {m : Message} {id : RequestId}
    {q : Query} (htask : later.task m = .query id q) : s.Agrees (later.step env m).session := by
  obtain ⟨calls, requests, sent, outcome, hquery, -⟩ := onQuery_eq env later q
  rw [(step_query htask).2, hquery]
  exact ⟨h.rules, h.documents⟩

end Session

end LintServer
