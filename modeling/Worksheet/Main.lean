import Worksheet.CommandLine.Execution
import Worksheet.CommandLine.Request

namespace Worksheet.CommandLine

def answer : Request → IO Output
  | .eval expression bindings => return eval expression bindings
  | .run script options => do
    try
      return runScript script (← IO.FS.readFile script) options
    catch error =>
      return unreadable script (toString error)

end Worksheet.CommandLine

open Worksheet.CommandLine in
def main (arguments : List String) : IO UInt32 := do
  match parse arguments with
  | none =>
    IO.eprint usage
    return 2
  | some request =>
    let output ← answer request
    IO.eprint output.stderr
    IO.print output.stdout
    return output.exitCode
