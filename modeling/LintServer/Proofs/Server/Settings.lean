import Mathlib.Data.List.Induction
import LintServer.Lint.Engine.TrailingSpaces
import LintServer.Proofs.Server.Run

/-!
# The settings in force

The settings of a session are written by one event, the notice that the
editor is ready, and where they are looked for is noted by the request that
starts the server. Every other message leaves both alone (`step_keeps`),
whatever the engine does.

So the settings are the built-in ones until the first notice. From then on
they are what is found at the places that the start has named, in the files
as they are at the notice (`Launch.load`). That notice uses the places up,
and a started server is not started again. A second notice therefore finds
the built-in settings only, and puts them in place of what was loaded:
`rules_after_run` says when that happens, and `rules_reset_of_repeated` that
it does.
-/

namespace LintServer

def Startup.loader (startup : Startup) (globalDirectory : Option Path) : Config.Loader where
  globalDirectory := globalDirectory
  root := startup.directory?
  settings := startup.settings

namespace Session

variable {env : Environment} {s : Session} {m : Message}

/-! ## One step -/

/-- A later session with the same settings, the same places to look for them
and the same phase. -/
structure KeepsSettings (s later : Session) : Prop where
  phase : later.phase = s.phase
  rules : later.rules = s.rules
  loader : later.loader = s.loader

theorem keepsSettings_refresh (env : Environment) (s : Session) (uri : Uri) :
    s.KeepsSettings (s.refresh env uri).session := by
  unfold refresh
  split
  · exact ⟨rfl, rfl, rfl⟩
  · next document _ =>
      split
      · unfold lint
        cases env.engine.violations s.lintCalls uri.text document.text s.rules with
        | ok violations => exact ⟨rfl, rfl, rfl⟩
        | error error => exact ⟨rfl, rfl, rfl⟩
      · exact ⟨rfl, rfl, rfl⟩

theorem keepsSettings_onEvent (env : Environment) (s : Session) {e : Event} (he : e ≠ .ready) :
    s.KeepsSettings (s.onEvent env e).session := by
  cases e with
  | ready => exact absurd rfl he
  | opened uri document =>
      obtain ⟨hphase, hrules, hloader⟩ :=
        keepsSettings_refresh env { s with documents := s.documents.insert uri document } uri
      exact ⟨hphase, hrules, hloader⟩
  | changed uri version texts =>
      cases htexts : texts.getLast? with
      | none =>
          simp only [onEvent, htexts]
          exact ⟨rfl, rfl, rfl⟩
      | some text =>
          simp only [onEvent, htexts]
          obtain ⟨hphase, hrules, hloader⟩ := keepsSettings_refresh env
            { s with documents := s.documents.modify uri (·.revise text version) } uri
          exact ⟨hphase, hrules, hloader⟩
  | saved uri => exact keepsSettings_refresh env s uri
  | closed uri => exact ⟨rfl, rfl, rfl⟩

/-- Any other message than the notice keeps the settings. The places to look
for them it keeps too, once the server has started. -/
theorem step_keeps (env : Environment) (h : s.task m ≠ .event .ready) :
    (s.step env m).session.rules = s.rules
      ∧ (s.phase ≠ .fresh → (s.step env m).session.loader = s.loader) := by
  cases htask : s.task m with
  | start id startup =>
      obtain ⟨hfresh, hstep⟩ := @step_start env s m id startup htask
      rw [hstep]
      exact ⟨rfl, fun hphase => absurd hfresh hphase⟩
  | stop id =>
      rw [(step_stop htask).2]
      exact ⟨rfl, fun _ => rfl⟩
  | event e =>
      obtain ⟨-, hrules, hloader⟩ := keepsSettings_onEvent env s fun he => h (he ▸ htask)
      rw [(step_event htask).2]
      exact ⟨hrules, fun _ => hloader⟩
  | query id q =>
      obtain ⟨calls, requests, sent, outcome, hquery, -⟩ := onQuery_eq env s q
      rw [(step_query htask).2, hquery]
      exact ⟨rfl, fun _ => rfl⟩
  | idle =>
      obtain ⟨⟨phase, hsession, -⟩, -, -⟩ := step_idle env htask
      rw [hsession]
      exact ⟨rfl, fun _ => rfl⟩

/-- The notice loads the settings and uses the places up. -/
theorem step_ready (env : Environment) (h : s.task m = .event .ready) :
    (s.step env m).session.rules = ((s.loader.getD {}).load env.files).rules
      ∧ (s.step env m).session.loader = none
      ∧ s.phase = .running ∧ (s.step env m).session.phase = .running := by
  obtain ⟨hphase, hstep⟩ := @step_event env s m .ready h
  rw [hstep]
  exact ⟨rfl, rfl, hphase, hphase⟩

/-- How a step can change the phase. -/
theorem step_phase (env : Environment) (s : Session) (m : Message) :
    (s.step env m).session.phase = s.phase
      ∨ (s.step env m).session.phase = .stopped
      ∨ (s.step env m).session.phase = .exited
      ∨ s.phase = .fresh ∧ ∃ id startup, s.task m = .start id startup := by
  cases htask : s.task m with
  | start id startup =>
      exact Or.inr (Or.inr (Or.inr ⟨(@step_start env s m id startup htask).1, id, startup, rfl⟩))
  | stop id =>
      rw [(step_stop htask).2]
      exact Or.inr (Or.inl rfl)
  | event e =>
      refine Or.inl ?_
      by_cases he : e = .ready
      · subst he
        obtain ⟨-, -, hphase, hphase'⟩ := step_ready env htask
        rw [hphase, hphase']
      · rw [(step_event htask).2]
        exact (keepsSettings_onEvent env s he).phase
  | query id q =>
      obtain ⟨calls, requests, sent, outcome, hquery, -⟩ := onQuery_eq env s q
      rw [(step_query htask).2, hquery]
      exact Or.inl rfl
  | idle =>
      obtain ⟨⟨phase, hsession, hphase⟩, -, -⟩ := step_idle env htask
      rw [hsession]
      rcases hphase with h | h | h
      · exact Or.inl h
      · exact Or.inr (Or.inl h)
      · exact Or.inr (Or.inr (Or.inl h))

/-- A server that has started stays so. -/
theorem step_phase_ne_fresh (env : Environment) (m : Message) (h : s.phase ≠ .fresh) :
    (s.step env m).session.phase ≠ .fresh := by
  rcases step_phase env s m with hphase | hphase | hphase | ⟨hphase, -⟩
  · rwa [hphase]
  · rw [hphase]; decide
  · rw [hphase]; decide
  · exact absurd hphase h

/-! ## Runs without a notice, and with one -/

/-- Whether a handler hears the notice in a run. -/
def HearsReady (s : Session) (ds : List Delivery) : Prop :=
  ∃ h ∈ s.history ds, h.event = .ready

instance (s : Session) (ds : List Delivery) : Decidable (s.HearsReady ds) :=
  inferInstanceAs (Decidable (∃ h ∈ s.history ds, h.event = .ready))

theorem not_hearsReady_nil : ¬s.HearsReady [] := by
  simp [HearsReady, history]

theorem hearsReady_cons {d : Delivery} {ds : List Delivery} :
    s.HearsReady (d :: ds) ↔
      s.task d.message = .event .ready ∨ (s.step d.env d.message).session.HearsReady ds := by
  have hheard : (∃ h ∈ s.heard d.message, h.event = .ready) ↔
      s.task d.message = .event .ready := by
    cases htask : s.task d.message <;> simp [heard, htask, Task.event?]
  simp only [HearsReady, history, List.mem_append, or_and_right, exists_or, hheard]

theorem hearsReady_append {ds es : List Delivery} :
    s.HearsReady (ds ++ es) ↔ s.HearsReady ds ∨ (s.after ds).HearsReady es := by
  induction ds generalizing s with
  | nil => simp [not_hearsReady_nil, after, run]
  | cons d ds ih =>
      rw [List.cons_append, hearsReady_cons, hearsReady_cons, ih, or_assoc]
      rfl

theorem rules_of_not_hearsReady {ds : List Delivery} (h : ¬s.HearsReady ds) :
    (s.after ds).rules = s.rules := by
  induction ds generalizing s with
  | nil => rfl
  | cons d ds ih =>
      rw [hearsReady_cons, not_or] at h
      exact (ih h.2).trans (step_keeps d.env h.1).1

theorem loader_of_not_hearsReady {ds : List Delivery} (hphase : s.phase ≠ .fresh)
    (h : ¬s.HearsReady ds) : (s.after ds).loader = s.loader := by
  induction ds generalizing s with
  | nil => rfl
  | cons d ds ih =>
      rw [hearsReady_cons, not_or] at h
      have hrest := ih (step_phase_ne_fresh d.env d.message hphase) h.2
      exact hrest.trans ((step_keeps d.env h.1).2 hphase)

/-- Where there is no place left to look, a notice resets the settings, and
any later one does it again. -/
theorem rules_of_hearsReady {ds : List Delivery} (hphase : s.phase ≠ .fresh)
    (hloader : s.loader = none) (h : s.HearsReady ds) : (s.after ds).rules = .builtin := by
  induction ds generalizing s with
  | nil => exact absurd h not_hearsReady_nil
  | cons d ds ih =>
      have hphase' := step_phase_ne_fresh d.env d.message hphase
      by_cases htask : s.task d.message = .event .ready
      · obtain ⟨hrules, hloader', -, -⟩ := step_ready d.env htask
        by_cases hrest : (s.step d.env d.message).session.HearsReady ds
        · exact ih hphase' hloader' hrest
        · refine (rules_of_not_hearsReady hrest).trans ?_
          rw [hrules, hloader]
          rfl
      · have hrest := (hearsReady_cons.mp h).resolve_left htask
        exact ih hphase' (((step_keeps d.env htask).2 hphase).trans hloader) hrest

/-- A run with a notice is cut at the first one. -/
theorem exists_first_ready {ds : List Delivery} (h : s.HearsReady ds) :
    ∃ before notice later, ds = before ++ notice :: later ∧ ¬s.HearsReady before
      ∧ (s.after before).task notice.message = .event .ready := by
  induction ds generalizing s with
  | nil => exact absurd h not_hearsReady_nil
  | cons d ds ih =>
      by_cases htask : s.task d.message = .event .ready
      · exact ⟨[], d, ds, rfl, not_hearsReady_nil, htask⟩
      · obtain ⟨before, notice, later, rfl, hbefore, hnotice⟩ :=
          ih ((hearsReady_cons.mp h).resolve_left htask)
        exact ⟨d :: before, notice, later, rfl,
          fun hd => (hearsReady_cons.mp hd).elim htask hbefore, hnotice⟩

/-- A server that works has been started: what works after a message has
worked before it, or the message is the start. -/
theorem exists_start {ds : List Delivery} (hfresh : s.phase = .fresh)
    (h : (s.after ds).phase = .running) :
    ∃ before request between id startup, ds = before ++ request :: between
      ∧ (s.after before).task request.message = .start id startup := by
  induction ds using List.reverseRecOn with
  | nil =>
      have hrunning : s.phase = .running := h
      rw [hfresh] at hrunning
      cases hrunning
  | append_singleton ds d ih =>
      rw [after_concat] at h
      rcases step_phase d.env (s.after ds) d.message with hphase | hphase | hphase | hstart
      · obtain ⟨before, request, between, id, startup, rfl, hstart⟩ := ih (hphase.symm.trans h)
        exact ⟨before, request, between ++ [d], id, startup, by simp, hstart⟩
      · rw [hphase] at h; cases h
      · rw [hphase] at h; cases h
      · obtain ⟨-, id, startup, hstart⟩ := hstart
        exact ⟨ds, d, [], id, startup, rfl, hstart⟩

end Session

/-! ## The launch -/

/-- A run in which the server has been started and has then been told for
the first time that the editor is ready. -/
structure Launch (ds : List Delivery) where
  before : List Delivery
  request : Delivery
  id : RequestId
  startup : Startup
  between : List Delivery
  notice : Delivery
  later : List Delivery
  run_eq : ds = before ++ request :: between ++ notice :: later
  started : (Session.after {} before).task request.message = .start id startup
  quiet : ¬Session.HearsReady {} (before ++ request :: between)
  ready : (Session.after {} (before ++ request :: between)).task notice.message = .event .ready

namespace Launch

variable {ds : List Delivery} (launch : Launch ds)

/-- What is found at the places that the start has named, when the notice
comes. -/
def load : Config.Load :=
  (launch.startup.loader launch.request.env.globalDirectory).load launch.notice.env.files

def settled : Session :=
  ((Session.after {} (launch.before ++ launch.request :: launch.between)).step
    launch.notice.env launch.notice.message).session

/-- Whether there is another notice later on. -/
def IsRepeated : Prop := launch.settled.HearsReady launch.later

theorem after_eq : Session.after {} ds = launch.settled.after launch.later := by
  obtain ⟨before, request, id, startup, between, notice, later, rfl, -, -, -⟩ := launch
  rw [Session.after_append]
  rfl

/-- Between the start and the notice the places are known. -/
theorem loader_eq :
    (Session.after {} (launch.before ++ launch.request :: launch.between)).loader =
      some (launch.startup.loader launch.request.env.globalDirectory) := by
  have hquiet := launch.quiet
  rw [Session.hearsReady_append, Session.hearsReady_cons] at hquiet
  have hstep := (@Session.step_start launch.request.env _ _ _ _ launch.started).2
  rw [Session.after_append]
  refine (Session.loader_of_not_hearsReady ?_ fun h => hquiet (Or.inr (Or.inr h))).trans ?_
  · rw [hstep]
    exact Phase.noConfusion
  · rw [hstep]
    rfl

theorem settled_rules : launch.settled.rules = launch.load.rules := by
  rw [settled, (Session.step_ready launch.notice.env launch.ready).1, loader_eq]
  rfl

/-- The places are used up. -/
theorem settled_loader : launch.settled.loader = none :=
  (Session.step_ready launch.notice.env launch.ready).2.1

theorem settled_phase : launch.settled.phase = .running :=
  (Session.step_ready launch.notice.env launch.ready).2.2.2

end Launch

/-- A run with a notice has a launch. -/
theorem nonempty_launch {ds : List Delivery} (h : Session.HearsReady {} ds) :
    Nonempty (Launch ds) := by
  obtain ⟨first, notice, later, hds, hquiet, hready⟩ := Session.exists_first_ready h
  obtain ⟨-, -, hrunning, -⟩ := Session.step_ready notice.env hready
  obtain ⟨before, request, between, id, startup, rfl, hstart⟩ :=
    Session.exists_start rfl hrunning
  exact ⟨⟨before, request, id, startup, between, notice, later, hds, hstart, hquiet, hready⟩⟩

/-- **The settings in force** after any run. Before a notice they are the
built-in ones. A run with a notice is a launch: there is a start before the
first notice, and what the notice loads is in force from then on, whatever
else happens, unless there is another notice. After that one the settings
are the built-in ones again, for good. -/
theorem rules_after_run (ds : List Delivery) :
    (¬Session.HearsReady {} ds → (Session.after {} ds).rules = .builtin)
      ∧ (Session.HearsReady {} ds → Nonempty (Launch ds))
      ∧ ∀ launch : Launch ds,
          (¬launch.IsRepeated → (Session.after {} ds).rules = launch.load.rules)
            ∧ (launch.IsRepeated → (Session.after {} ds).rules = .builtin) := by
  refine ⟨Session.rules_of_not_hearsReady, nonempty_launch, fun launch => ?_⟩
  rw [launch.after_eq]
  constructor
  · intro honce
    exact (Session.rules_of_not_hearsReady honce).trans launch.settled_rules
  · intro hagain
    refine Session.rules_of_hearsReady ?_ launch.settled_loader hagain
    rw [launch.settled_phase]
    exact Phase.noConfusion

def strictStartup : Startup where
  settings := some (.obj [("markdownlint", .obj [("config", .obj [("MD013", .bool true)])])])

def strictRun : List Delivery :=
  deliver (.bare .trailing) <| Message.greetings strictStartup ++
    [.notify (.opened noteUri ⟨"markdown", "a", 1⟩)]

def strictLaunch : Launch strictRun where
  before := []
  request := ⟨.bare .trailing, ⟨some (.number 0), .start (.ok strictStartup)⟩⟩
  id := .number 0
  startup := strictStartup
  between := []
  notice := ⟨.bare .trailing, .notify .ready⟩
  later := deliver (.bare .trailing) [.notify (.opened noteUri ⟨"markdown", "a", 1⟩)]
  run_eq := rfl
  started := rfl
  quiet := by decide +kernel
  ready := rfl

theorem rules_after_run_of_strict :
    (Session.after {} strictRun).rules = .ofFields [("default", .bool true), ("MD013", .bool true)]
      := by
  have honce : ¬strictLaunch.IsRepeated := by
    show ¬Session.HearsReady strictLaunch.settled strictLaunch.later
    decide +kernel
  refine (((rules_after_run strictRun).2.2 strictLaunch).1 honce).trans ?_
  decide +kernel

/-- A notice that comes again takes the strict settings back. -/
theorem rules_reset_of_repeated :
    (Session.after {} strictRun).rules.at? ["MD013"] = some (.bool true)
      ∧ (Session.after {} (strictRun ++ deliver (.bare .trailing) [.notify .ready])).rules =
          .builtin
      ∧ Rules.builtin.at? ["MD013"] = some (.bool false) := by
  decide +kernel

end LintServer
