import LintServer.Config.Loader
import LintServer.Server.Message
import LintServer.Server.QuickFix

/-!
# Sessions

A session is the state of the server between two messages, and `Session.step` handles one message
to its end. A session keeps the open documents, the diagnostics that the editor shows, and the rule
settings. Every document that is opened, changed or saved is linted and its diagnostics are
published. A lint failure is logged and counts as no violations, so no request fails because of
it.

The state around the session, such as the engine and the files, is an `Environment`. It may be
another one with every step.
-/

namespace LintServer

/-- How far the server has come. It starts once, works until it is told to stop, and exits. -/
inductive Phase where
  | fresh
  | running
  | stopped
  | exited
  deriving Repr, DecidableEq

/-- What a step can consult: the engine, the files, the directory of the settings for every
project, and what the editor replies to the edit request with a number. -/
structure Environment where
  engine : Engine
  files : FileSystem
  globalDirectory : Option Path := none
  reply : Nat → EditReply := fun _ => .applied

/-- A message as it reaches the server: with what can be consulted at that moment. -/
structure Delivery where
  env : Environment
  message : Message

structure Session where
  phase : Phase := .fresh
  documents : Store Document := {}
  diagnostics : Store (List Diagnostic) := {}
  rules : Rules := .builtin
  loader : Option Config.Loader := none
  lintCalls : Nat := 0
  requests : Nat := 0

/-- The end of a part of a step: the session, what has been sent, and a result. -/
structure Turn (α : Type) where
  session : Session
  sent : List Outgoing
  result : α

namespace Session

/-- The diagnostics that the editor shows for a document. -/
def held (s : Session) (uri : Uri) : List Diagnostic := (s.diagnostics.get? uri).getD []

/-! ## Linting -/

/-- The violations of a text under the settings in force. -/
def lint (env : Environment) (s : Session) (uri : Uri) (text : String) : Turn (List Violation) :=
  let counted := { s with lintCalls := s.lintCalls + 1 }
  match env.engine.violations s.lintCalls uri.text text s.rules with
  | .ok violations => ⟨counted, [], violations⟩
  | .error e =>
    ⟨counted, [.log .error ("Linting " ++ uri.text ++ " failed: " ++ e.message)], []⟩

/-- Shows diagnostics for a document in place of those before. -/
def publish (s : Session) (uri : Uri) (diagnostics : List Diagnostic) (version : Option Int32) :
    Turn Unit :=
  ⟨{ s with diagnostics := s.diagnostics.insert uri diagnostics },
    [.publish uri diagnostics version], ()⟩

/-- Lints an open document and publishes the outcome. A document that is no Markdown has no
diagnostics. -/
def refresh (env : Environment) (s : Session) (uri : Uri) : Turn Unit :=
  match s.documents.get? uri with
  | none => ⟨s, [], ()⟩
  | some document =>
    if document.isMarkdown then
      let linted := s.lint env uri document.text
      let diagnostics := linted.result.map (Diagnostic.ofViolation document.text)
      let published := linted.session.publish uri diagnostics (some document.version)
      ⟨published.session, linted.sent ++ published.sent, ()⟩
    else s.publish uri [] (some document.version)

/-! ## Fixing everything -/

/-- The edit that fixes an open Markdown document as a whole, if that changes it. -/
def fixAllEdit (env : Environment) (s : Session) (uri : Uri) : Turn (Option TextEdit) :=
  match s.documents.get? uri with
  | none => ⟨s, [], none⟩
  | some document =>
    if document.isMarkdown then
      let (fixed, calls) :=
        env.engine.fixUntilStable uri.text s.rules s.lintCalls document.text
      let counted := { s with lintCalls := calls }
      match fixed with
      | .ok text => ⟨counted, [], TextEdit.replacing? document.text text⟩
      | .error e =>
        ⟨counted, [.log .error ("Fixing " ++ uri.text ++ " failed: " ++ e.message)], none⟩
    else ⟨s, [], none⟩

/-- What is logged about the reply to an edit. -/
def replyLog (uri : Uri) : EditReply → List Outgoing
  | .applied => []
  | .rejected reason =>
    [.log .error ("Editor rejected fixes for " ++ uri.text ++ ": " ++ reason)]
  | .failed reason =>
    [.log .error ("Failed to apply fixes for " ++ uri.text ++ ": " ++ reason)]

/-- Has the editor fix a document as a whole. -/
def fixAll (env : Environment) (s : Session) (uri : Uri) : Turn Unit :=
  let edit := s.fixAllEdit env uri
  match edit.result with
  | none => ⟨edit.session, edit.sent, ()⟩
  | some e =>
    let number := edit.session.requests
    ⟨{ edit.session with requests := number + 1 },
      edit.sent ++ .applyEdit number ⟨uri, [e]⟩ :: replyLog uri (env.reply number), ()⟩

/-! ## Starting -/

/-- Notes where the settings are to be looked for once the editor is ready. -/
def start (env : Environment) (s : Session) (startup : Startup) : Session :=
  { s with
    phase := .running
    loader := some {
      globalDirectory := env.globalDirectory
      root := startup.directory?
      settings := startup.settings } }

/-- What is logged about a load: the failures, and then the files. -/
def loadLog (load : Config.Load) : List Outgoing :=
  load.failures.map (fun e => .log .error e.message) ++
    load.sources.map fun path => .log .info ("Loaded config from " ++ path.display)

/-- Loads the settings. The places to look are used up by this, and without any only the built-in
settings are there to be found. -/
def loadRules (env : Environment) (s : Session) : Turn Unit :=
  let load := (s.loader.getD {}).load env.files
  ⟨{ s with rules := load.rules, loader := none }, loadLog load, ()⟩

/-! ## Events -/

/-- What the server does when something happens in the editor. Of several changes that come together
the last has the whole text; a document that is not open is not changed. -/
def onEvent (env : Environment) (s : Session) : Event → Turn Unit
  | .ready =>
    let loaded := s.loadRules env
    ⟨loaded.session, loaded.sent ++ [.log .info "mkdlint LSP server initialized"], ()⟩
  | .opened uri document =>
    refresh env { s with documents := s.documents.insert uri document } uri
  | .changed uri version texts =>
    match texts.getLast? with
    | none => ⟨s, [], ()⟩
    | some text =>
      refresh env { s with documents := s.documents.modify uri (·.revise text version) } uri
  | .saved uri => s.refresh env uri
  | .closed uri =>
    ⟨{ s with documents := s.documents.erase uri, diagnostics := s.diagnostics.erase uri },
      [.publish uri [] none], ()⟩

/-! ## Queries -/

/-- The code actions for a request: quick fixes, and then the fix of the whole document. Without a
choice of kinds only quick fixes are wanted. -/
def actions (env : Environment) (s : Session) (query : ActionQuery) : Turn (List CodeAction) :=
  match s.documents.get? query.uri with
  | none => ⟨s, [], []⟩
  | some document =>
    let wantsQuickFix := query.only.elim true (·.contains "quickfix")
    let wantsFixAll :=
      query.only.elim false fun kinds => kinds.contains "source.fixAll" || kinds.contains "source"
    let quickFixes :=
      if wantsQuickFix then
        CodeAction.quickFixes env.engine query.uri document.text query.context
      else []
    if wantsFixAll then
      let edit := s.fixAllEdit env query.uri
      ⟨edit.session, edit.sent,
        quickFixes ++ (edit.result.map (CodeAction.fixAll query.uri)).toList⟩
    else ⟨s, [], quickFixes⟩

/-- The name of the only command. -/
def fixAllCommand : String := "mkdlint.fixAll"

/-- What the server does when it is asked for something. -/
def onQuery (env : Environment) (s : Session) : Query → Turn Outcome
  | .actions query =>
    let found := s.actions env query
    ⟨found.session, found.sent, if found.result.isEmpty then .nothing else .actions found.result⟩
  | .fixAll (some uri) =>
    let done := s.fixAll env uri
    ⟨done.session, done.sent, .nothing⟩
  | .fixAll none =>
    ⟨s, [.log .error (fixAllCommand ++ " expects a document URI argument")], .nothing⟩
  | .otherCommand name => ⟨s, [.log .error ("Unknown command: " ++ name)], .nothing⟩

/-! ## Messages -/

/-- Refuses a message, if it wants an answer. -/
def refuse (s : Session) (id : Option RequestId) (reason : Refusal) : Turn Answer :=
  ⟨s, [], id.elim .silence (.refusal · reason)⟩

/-- Why nothing is done in this phase. -/
def refusalIn : Phase → Refusal
  | .fresh => .notStarted
  | _ => .invalidRequest

/-- Does something that is only done while the server works. -/
def whenRunning (s : Session) (id : Option RequestId) (act : Turn Answer) : Turn Answer :=
  if s.phase = .running then act else s.refuse id (refusalIn s.phase)

/-- Serves a request whose parameters could be read. It needs an identifier to answer to. -/
def serve {α : Type} (s : Session) (id : Option RequestId) (params : Except String α)
    (act : α → Turn Outcome) : Turn Answer :=
  match id, params with
  | none, _ => ⟨s, [], .silence⟩
  | some id, .error reason => ⟨s, [], .refusal id (.invalidParams reason)⟩
  | some id, .ok params =>
    let turn := act params
    ⟨turn.session, turn.sent, .result id turn.result⟩

/-- Handles one message. A request is answered before the next message comes, so there is none to
call off. -/
def step (env : Environment) (s : Session) (m : Message) : Turn Answer :=
  if s.phase = .exited then ⟨s, [], .gone⟩
  else
    match m.call with
    | .start params =>
      if s.phase = .fresh then
        s.serve m.id params fun startup => ⟨s.start env startup, [], .started⟩
      else s.refuse m.id .invalidRequest
    | .stop params =>
      let stopped := { s with phase := .stopped }
      s.whenRunning m.id <|
        stopped.serve m.id params fun () =>
          ⟨stopped, [.log .info "mkdlint LSP server shutting down"], .nothing⟩
    | .exit => ⟨{ s with phase := .exited }, [], .silence⟩
    | .cancel => s.refuse m.id .invalidRequest
    | .query params => s.whenRunning m.id (s.serve m.id params (s.onQuery env))
    | .event params =>
      s.whenRunning m.id <|
        match m.id, params with
        | none, .ok event =>
          let turn := s.onEvent env event
          ⟨turn.session, turn.sent, .silence⟩
        | none, .error _ => ⟨s, [], .silence⟩
        | some _, _ => s.refuse m.id .invalidRequest
    | .unserved params =>
      s.whenRunning m.id <|
        match params with
        | .ok () => s.refuse m.id .unserved
        | .error reason => s.refuse m.id (.invalidParams reason)
    | .unknown method =>
      if method.toList.take 2 = ['$', '/'] then ⟨s, [], .silence⟩
      else s.refuse m.id (.unknownMethod method)

/-- Handles messages one after the other, and keeps what was sent and answered for each. -/
def run (s : Session) : List Delivery → Session × List (List Outgoing × Answer)
  | [] => (s, [])
  | d :: ds =>
    let turn := s.step d.env d.message
    let (final, rest) := turn.session.run ds
    (final, (turn.sent, turn.result) :: rest)

end Session

end LintServer
