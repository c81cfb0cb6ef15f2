import LintServer.Proofs.Server.Step

/-!
# Runs

A run handles one message after the other, each in an environment of its
own. What holds after a run is proved by induction from the end: the run
extended by one delivery is one more step from the session reached so far
(`after_concat`, `sentIn_concat`, `history_concat`).

The *history* of a run is what has happened in the editor as far as the
server was willing to hear of it: the events that reached a handler, each
with the settings in force at that moment.
-/

namespace LintServer

/-- An event that was handled, and the settings in force at that moment. -/
structure Handled where
  rules : Rules
  event : Event

def Task.event? : Task → Option Event
  | .event e => some e
  | _ => none

namespace Session

def after (s : Session) (ds : List Delivery) : Session := (s.run ds).1

def sentIn (s : Session) (ds : List Delivery) : List Outgoing :=
  (s.run ds).2.flatMap Prod.fst

/-- What a message adds to the history. -/
def heard (s : Session) (m : Message) : List Handled :=
  ((s.task m).event?.map (⟨s.rules, ·⟩)).toList

/-- The events that reached a handler in a run, in order. -/
def history (s : Session) : List Delivery → List Handled
  | [] => []
  | d :: ds => s.heard d.message ++ (s.step d.env d.message).session.history ds

theorem run_append (s : Session) (ds es : List Delivery) :
    s.run (ds ++ es) = (((s.after ds).run es).1, (s.run ds).2 ++ ((s.after ds).run es).2) := by
  induction ds generalizing s with
  | nil => rfl
  | cons d ds ih =>
      simp only [List.cons_append, run, after]
      rw [ih]
      rfl

theorem after_append (s : Session) (ds es : List Delivery) :
    s.after (ds ++ es) = (s.after ds).after es := by
  rw [after, run_append]
  rfl

theorem after_cons (s : Session) (d : Delivery) (ds : List Delivery) :
    s.after (d :: ds) = (s.step d.env d.message).session.after ds := rfl

theorem sentIn_cons (s : Session) (d : Delivery) (ds : List Delivery) :
    s.sentIn (d :: ds) = (s.step d.env d.message).sent ++
      (s.step d.env d.message).session.sentIn ds := rfl

theorem after_concat (s : Session) (ds : List Delivery) (d : Delivery) :
    s.after (ds ++ [d]) = ((s.after ds).step d.env d.message).session := by
  rw [after, run_append]
  rfl

theorem sentIn_concat (s : Session) (ds : List Delivery) (d : Delivery) :
    s.sentIn (ds ++ [d]) = s.sentIn ds ++ ((s.after ds).step d.env d.message).sent := by
  rw [sentIn, run_append]
  simp [sentIn, run]

theorem history_concat (s : Session) (ds : List Delivery) (d : Delivery) :
    s.history (ds ++ [d]) = s.history ds ++ (s.after ds).heard d.message := by
  induction ds generalizing s with
  | nil => simp [history, after, run]
  | cons e ds ih =>
      simp only [List.cons_append, history, ih, List.append_assoc]
      rfl

theorem heard_of_event {s : Session} {m : Message} {e : Event} (h : s.task m = .event e) :
    s.heard m = [⟨s.rules, e⟩] := by
  simp [heard, h, Task.event?]

theorem heard_of_event?_none {s : Session} {m : Message} (h : (s.task m).event? = none) :
    s.heard m = [] := by
  simp [heard, h]

end Session

/-! ## Conversations

Messages as an editor sends them, for statements about particular ones. -/

def Message.notify (e : Event) : Message where
  call := .event (.ok e)

def Message.ask (number : Int) (q : Query) : Message where
  id := some (.number number)
  call := .query (.ok q)

/-- The request that starts the server, and the notice that the editor is
ready for it. -/
def Message.greetings (startup : Startup) : List Message :=
  [{ id := some (.number 0), call := .start (.ok startup) }, .notify .ready]

/-- Messages that all meet one environment. -/
def deliver (env : Environment) (messages : List Message) : List Delivery :=
  messages.map (⟨env, ·⟩)

theorem engine_of_mem_deliver {env : Environment} {messages : List Message} {d : Delivery}
    (h : d ∈ deliver env messages) : d.env.engine = env.engine := by
  obtain ⟨m, -, rfl⟩ := List.mem_map.mp h
  rfl

def Environment.bare (engine : Engine) : Environment where
  engine := engine
  files := { isFile := fun _ => false, read := fun _ => .error .notFound }

def noteUri : Uri where
  scheme := "file"
  authority := some ⟨"", "", none⟩
  path := "/note.md"
  query := none
  fragment := none

end LintServer
