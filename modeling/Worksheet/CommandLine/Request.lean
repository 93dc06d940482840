import Worksheet.Decimal.Reading
import Worksheet.Sheet.Basic

namespace Worksheet.CommandLine

inductive Request where
  | eval (expression : String) (bindings : List (String × Float))
  | run (script : String) (options : Options)
deriving DecidableEq

def binding? (text : String) : Option (String × Float) :=
  let name := text.toList.takeWhile (· ≠ '=')
  match text.toList.dropWhile (· ≠ '=') with
  | '=' :: value =>
    (Decimal.ofChars? (Text.trim value)).map fun value => (String.ofList (Text.trim name), value)
  | _ => none

def number? (bound : Nat) (text : String) : Option Nat :=
  let digits := match text.toList with
    | '+' :: digits => digits
    | digits => digits
  match Decimal.digits? digits with
  | some n => if n < bound then some n else none
  | none => none

def option? (argument : String) : Option (String × String) :=
  match argument.toList with
  | '-' :: '-' :: rest =>
    match rest.dropWhile (· ≠ '=') with
    | '=' :: value => some (String.ofList (rest.takeWhile (· ≠ '=')), String.ofList value)
    | _ => none
  | _ => none

def split : List String → Option (List (String × String) × List String)
  | [] => some ([], [])
  | "--" :: rest => some ([], rest)
  | argument :: rest =>
    match option? argument, split rest with
    | some option, some (options, operands) => some (option :: options, operands)
    | none, some (options, operands) =>
      if argument.toList.head? = some '-' then none else some (options, argument :: operands)
    | _, none => none

def bindingOption? (option : String × String) : Option (String × Float) :=
  if option.1 = "var" then binding? option.2 else none

def applyOption (options : Options) (option : String × String) : Option Options :=
  if option.1 = "rows" then
    (number? (Nat.pow 2 32) option.2).map fun rows => { options with rows }
  else if option.1 = "columns" then
    (number? (Nat.pow 2 16) option.2).map fun columns => { options with columns }
  else if option.1 = "history-limit" then
    (number? (Nat.pow 2 64) option.2).map fun limit => { options with historyLimit := some limit }
  else none

def parseEval (arguments : List String) : Option Request :=
  match split arguments with
  | some (options, [expression]) => (options.mapM bindingOption?).map (.eval expression)
  | _ => none

def parseRun (arguments : List String) : Option Request :=
  match split arguments with
  | some (options, [script]) => (options.foldlM applyOption Options.standard).map (.run script)
  | _ => none

def parse : List String → Option Request
  | "eval" :: arguments => parseEval arguments
  | "run" :: arguments => parseRun arguments
  | _ => none

def usage : String :=
  "usage: worksheet eval [--var=NAME=VALUE]... -- EXPRESSION\n"
    ++ "       worksheet run [--rows=N] [--columns=N] [--history-limit=N] -- SCRIPT\n"

end Worksheet.CommandLine
