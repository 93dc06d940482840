import Worksheet.Text.Word

namespace Worksheet.CommandLine

structure Output where
  exitCode : UInt32
  stdout : String
  stderr : String
deriving DecidableEq, Repr

def indented (margin text : String) : String :=
  String.ofList (text.toList.flatMap fun c => if c = '\n' then '\n' :: margin.toList else [c])

def rightAligned (width : Nat) (text : String) : String :=
  String.ofList (List.replicate (width - text.length) ' ') ++ text

def causeLines : List String → List String
  | [] => []
  | [cause] => ["    " ++ indented "    " cause]
  | causes => causes.mapIdx fun i cause =>
      rightAligned 5 (toString i) ++ ": " ++ indented "       " cause

def report : List String → String
  | [] => ""
  | [error] => "Error: " ++ error ++ "\n"
  | error :: causes =>
    "Error: " ++ error ++ "\n\nCaused by:\n" ++ String.join ((causeLines causes).map (· ++ "\n"))

def fail (messages : List String) : Output := ⟨1, "", report messages⟩

end Worksheet.CommandLine
