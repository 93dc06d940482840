import Worksheet.CommandLine.Report
import Worksheet.Script.Run

namespace Worksheet.CommandLine

inductive Failure where
  | parse (expression : String) (cause : ExpressionError)
  | bind (name : String) (cause : ExpressionError)
  | evaluate (cause : ExpressionError)
deriving DecidableEq, Repr

namespace Failure

def messages : Failure → List String
  | parse expression cause => ["Failed to parse '" ++ expression ++ "'", cause.message]
  | bind name cause => ["Failed to bind '" ++ name ++ "'", cause.message]
  | evaluate cause => ["Failed to evaluate expression", cause.message]

end Failure

def expressionBody (expression : String) : String :=
  match Text.withoutBlanks expression.toList with
  | '=' :: body => String.ofList body
  | body => String.ofList body

def bindVariable (formula : Formula) (binding : String × Float) : Except Failure Formula :=
  (formula.setVariable binding.1 binding.2).mapError (.bind binding.1)

def evaluate (expression : String) (bindings : List (String × Float)) : Except Failure Float := do
  let formula ← (Formula.parse (expressionBody expression)).mapError (.parse expression)
  let bound ← bindings.foldlM bindVariable formula
  bound.evaluate.mapError fun name => .evaluate (.unsetVariable name)

def eval (expression : String) (bindings : List (String × Float)) : Output :=
  match evaluate expression bindings with
  | .ok value => ⟨0, Decimal.format value ++ "\n", ""⟩
  | .error failure => fail failure.messages

def place (script : String) (line : Nat) : String := script ++ ":" ++ toString line ++ ": "

def failureMessages (script : String) : Script.Failure → List String
  | .invalid line error => (place script line ++ "invalid statement") :: error.messages
  | .refused line error => [place script line ++ error.message]

def warningText (script : String) (warning : Script.Warning) : String :=
  "Warning: " ++ place script warning.line ++ warning.error.message ++ "\n"

def runScriptBy (enumerations : Nat → Graph.Enumeration) (script source : String)
    (options : Options) : Output :=
  let run := Script.runBy enumerations options source
  let warnings := String.join (run.warnings.map (warningText script))
  match run.result with
  | .ok sheet => ⟨0, Script.table sheet, warnings⟩
  | .error failure => ⟨1, "", warnings ++ report (failureMessages script failure)⟩

def runScript (script source : String) (options : Options) : Output :=
  runScriptBy (fun _ => .sorted) script source options

def unreadable (script reason : String) : Output :=
  fail ["Failed to read '" ++ script ++ "'", reason]

end Worksheet.CommandLine
