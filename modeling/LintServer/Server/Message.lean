import LintServer.Protocol.CodeAction
import LintServer.Server.Store

/-!
# Messages

What an editor can say to the server, what the server answers, and what it says on its own. A
message with an identifier wants an answer; one without is a notification.
-/

namespace LintServer

/-! ## From the editor -/

/-- The identifier of a request, chosen by the editor. -/
inductive RequestId where
  | number (value : Int)
  | name (value : String)
  | null
  deriving Repr, DecidableEq

/-- What the editor tells the server when it starts it: the folders of the workspace, its root as
older editors give it, and settings. -/
structure Startup where
  folders : List Uri := []
  root : Option Uri := none
  settings : Option Json := none
  deriving Repr, DecidableEq

/-- The directory of the workspace: its first folder if that is a directory, else its root. -/
def Startup.directory? (startup : Startup) : Option Path :=
  (startup.folders.head?.bind Uri.toPath?).or (startup.root.bind Uri.toPath?)

/-- Something that happened in the editor. -/
inductive Event where
  | ready
  | opened (uri : Uri) (document : Document)
  | changed (uri : Uri) (version : Int32) (texts : List String)
  | saved (uri : Uri)
  | closed (uri : Uri)
  deriving Repr, DecidableEq

/-- A request for code actions: the diagnostics that the editor shows there, and the kinds of
action it wants, if not the usual ones. -/
structure ActionQuery where
  uri : Uri
  context : List Diagnostic
  only : Option (List String) := none
  deriving Repr, DecidableEq

/-- Something the editor asks for. -/
inductive Query where
  | actions (query : ActionQuery)
  | fixAll (target : Option Uri)
  | otherCommand (name : String)
  deriving Repr, DecidableEq

/-- What a message is about. Parameters that could not be read are kept as the reason why. A method
of the protocol that the server does not serve is told apart from one that is not in it at all. -/
inductive Call where
  | start (params : Except String Startup)
  | stop (params : Except String Unit)
  | exit
  /-- Calls off a request. -/
  | cancel
  | query (params : Except String Query)
  | event (params : Except String Event)
  | unserved (params : Except String Unit)
  | unknown (method : String)
  deriving Repr

structure Message where
  id : Option RequestId := none
  call : Call
  deriving Repr

/-! ## From the server -/

/-- Why a request is refused. -/
inductive Refusal where
  | notStarted
  | invalidRequest
  | invalidParams (reason : String)
  | unserved
  | unknownMethod (method : String)
  deriving Repr, DecidableEq

namespace Refusal

def code : Refusal → Int
  | .notStarted => -32002
  | .invalidRequest => -32600
  | .invalidParams _ => -32602
  | .unserved => -32601
  | .unknownMethod _ => -32601

def message : Refusal → String
  | .notStarted => "Server not initialized"
  | .invalidRequest => "Invalid request"
  | .invalidParams reason => reason
  | .unserved => "Method not found"
  | .unknownMethod _ => "Method not found"

end Refusal

/-- The result of a request that is served. -/
inductive Outcome where
  | started
  | nothing
  | actions (actions : List CodeAction)
  deriving Repr, DecidableEq

/-- How a message is answered. After the exit nothing is, because the server is gone. -/
inductive Answer where
  | silence
  | result (id : RequestId) (outcome : Outcome)
  | refusal (id : RequestId) (reason : Refusal)
  | gone
  deriving Repr, DecidableEq

inductive LogLevel where
  | error
  | info
  deriving Repr, DecidableEq

/-- A message that the server sends unasked. An edit is a request, which carries its number. -/
inductive Outgoing where
  | log (level : LogLevel) (text : String)
  | publish (uri : Uri) (diagnostics : List Diagnostic) (version : Option Int32)
  | applyEdit (number : Nat) (edit : WorkspaceEdit)
  deriving Repr, DecidableEq

/-- What the editor says to an edit. -/
inductive EditReply where
  | applied
  | rejected (reason : String)
  | failed (reason : String)
  deriving Repr, DecidableEq

end LintServer
