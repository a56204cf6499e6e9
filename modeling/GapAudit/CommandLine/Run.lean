import GapAudit.CommandLine.Init
import GapAudit.CommandLine.Verify

/-!
The run of whatever the program is asked for.
-/

namespace GapAudit

def Request.run (request : Request) (session : Session) : Transcript :=
  match request with
  | .verify request => request.run session
  | .init request => request.run session

end GapAudit
