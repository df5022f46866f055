import ScriptHost.CommandLine

/-!
The program: it finds the file of a command, carries the command out and prints the report.
-/

namespace ScriptHost

def findSource (path : String) : IO Session.SourceFile := do
  try
    return .content (← IO.FS.readBinFile path)
  catch
    | .noFileOrDirectory .. => return .missing
    | .inappropriateType .. => return .directory
    | .permissionDenied .. => return .unreadable "Permission denied (os error 13)"
    | other => return .unreadable (toString other)

end ScriptHost

open ScriptHost in
def main (words : List String) : IO UInt32 := do
  match Invocation.ofWords? words with
  | none =>
      IO.eprintln "usage: FILE [--call NAME [ARGS..]] [--seed N]"
      return Report.misuseCode
  | some invocation =>
      let report := invocation.execute (← findSource invocation.file)
      IO.print report.output
      IO.eprint report.complaint
      return report.exitCode
