import LintServer.Markdown.Engine
import LintServer.Server.Session
import LintServer.Server.Wire.Outgoing
import Std.Time.DateTime.Timestamp

/-!
# The server on standard input and output

Reads one frame after the other, has the session handle it, and writes what the session sends and
answers. The files that a load of the settings may look at are read right before the step that
loads them. The editor's reply to an edit is a message of its own, and what it says is logged when
it comes.
-/

namespace LintServer.Main

/-! ## Files -/

/-- Why a file could not be read, and whether there is one all the same. -/
def failureOf : IO.Error → Bool × ReadFailure
  | .noFileOrDirectory .. => (false, .notFound)
  | .inappropriateType .. => (false, .isADirectory)
  | e => (true, .other (toString e))

/-- What reading a path yields now. -/
def readPath (path : Path) : IO (Bool × Except ReadFailure String) := do
  let some name := path.toString? | return (false, .error .notFound)
  try
    let bytes ← IO.FS.readBinFile name
    match Text.textOf? bytes.toList with
    | some text => return (true, .ok text)
    | none => return (true, .error .notUtf8)
  catch e =>
    let (isFile, failure) := failureOf e
    return (isFile, .error failure)

/-- The file system as far as `paths` show it now. -/
def readFiles (paths : List Path) : IO FileSystem := do
  let seen ← paths.mapM fun path => return (path, ← readPath path)
  return {
    isFile := fun path => (seen.lookup path).any (·.1)
    read := fun path => ((seen.lookup path).map (·.2)).getD (.error .notFound) }

/-- The directory of the settings for every project. -/
def findGlobalDirectory : IO Path := do
  let base ← IO.getEnv "XDG_CONFIG_HOME"
  let home ← IO.getEnv "HOME"
  return Config.globalDirectory (base.map .ofString) (.ofString (home.getD ""))

/-! ## Frames -/

/-- The length in the header lines of the next frame; none at the end of the input. -/
partial def readHeaders (input : IO.FS.Stream) (length : Nat) : IO (Option Nat) := do
  let line ← input.getLine
  if line.isEmpty then return none
  else if line == "\r\n" || line == "\n" then return some length
  else readHeaders input ((Frame.length? line).getD length)

/-- The next bytes of the input, as many as there are up to a number. -/
partial def readBytes (input : IO.FS.Stream) (count : Nat) (read : ByteArray) : IO ByteArray := do
  if count ≤ read.size then return read
  let more ← input.read (USize.ofNat (count - read.size))
  if more.isEmpty then return read else readBytes input count (read ++ more)

def send (output : IO.FS.Stream) (fields : Fields) : IO Unit := do
  output.write ⟨(Frame.ofFields fields).toArray⟩
  output.flush

def sendAll (output : IO.FS.Stream) (sent : List Outgoing) : IO Unit := do
  let now ← Std.Time.Timestamp.now
  let time := Frame.timeOfDay now.toSecondsSinceUnixEpoch.val.toNat
  for message in sent do
    send output (message.toFields time)

/-! ## Messages -/

/-- The session, and the documents of the edits that the editor has not replied to. -/
structure Server where
  session : Session := {}
  edits : List (Nat × Uri) := []

/-- Logs what the editor says to an edit. -/
def onReply (output : IO.FS.Stream) (server : Server) (fields : Fields) : IO Server := do
  match fields.lookup "id" with
  | some (.num (.int number)) =>
    match server.edits.lookup number.toNat with
    | some uri =>
      sendAll output (Session.replyLog uri (.ofFields fields))
      return { server with edits := server.edits.filter (·.1 != number.toNat) }
    | none => return server
  | _ => return server

/-- Handles one message, and says whether the server goes on. -/
def onMessage (output : IO.FS.Stream) (server : Server) (fields : Fields) :
    IO (Server × Bool) := do
  let some message := Message.ofJson (.obj fields) | return (server, true)
  let paths := (server.session.loader.map Config.Loader.candidates).getD []
  let env : Environment := {
    engine := Markdown.engine
    files := ← readFiles paths
    globalDirectory := some (← findGlobalDirectory) }
  let turn := server.session.step env message
  sendAll output turn.sent
  if let some answer := turn.result.toFields? then send output answer
  let edits := turn.sent.filterMap fun
    | .applyEdit number edit => some (number, edit.uri)
    | _ => none
  return ({ session := turn.session, edits := server.edits ++ edits },
    turn.session.phase != .exited)

partial def serve (input output : IO.FS.Stream) (server : Server) : IO Unit := do
  let some length ← readHeaders input 0 | return
  let bytes ← readBytes input length ByteArray.empty
  match (Text.textOf? bytes.toList).map Json.parse with
  | some (.ok value) =>
    match value.normal with
    | .obj fields =>
      if (fields.lookup "method").isSome then
        let (server, goesOn) ← onMessage output server fields
        if goesOn then serve input output server
      else serve input output (← onReply output server fields)
    | _ =>
      send output Frame.parseError
      serve input output server
  | _ =>
    send output Frame.parseError
    serve input output server

end LintServer.Main

/-- The server takes its messages from standard input, and no other way is known; the options that
say so are accepted. -/
def main (arguments : List String) : IO UInt32 := do
  if arguments.contains "--version" || arguments.contains "-V" then
    IO.println "mkdlint-lsp 0.1.0"
  else if arguments.contains "--help" || arguments.contains "-h" then
    IO.println "Markdown lint language server (speaks LSP over stdio)"
    IO.println "Usage: mkdlint-lsp [--stdio] [--log-level <LEVEL>]"
  else LintServer.Main.serve (← IO.getStdin) (← IO.getStdout) {}
  return 0
