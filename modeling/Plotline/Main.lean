import Plotline.CommandLine.Run
import Plotline.Delivery.Socket

/-!
# The command line program
-/

namespace Plotline

/-- The reason why a file cannot be read. -/
def fileReason : IO.Error → String
  | .noFileOrDirectory .. => "No such file or directory (os error 2)"
  | .permissionDenied .. => "Permission denied (os error 13)"
  | e => toString e

/-- The world of a process: its files, its streams and the network. -/
def processWorld : World IO where
  content path := do
    try return .ok (← IO.FS.readFile path)
    catch e => return .error (fileReason e)
  print := IO.println
  complain := IO.eprintln
  warn warning :=
    IO.eprintln ("WARN " ++ warning.message ++ " " ++ (Json.obj warning.details).compact)
  connect address session := do
    return (← Socket.connect address).map fun s => s.link session.timeout

end Plotline

def main (args : List String) : IO UInt32 := Plotline.processWorld.run args
