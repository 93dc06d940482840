import Worksheet.Expression.Formula
import Worksheet.Sheet.Basic

/-!
What the text of a cell says against the values that the sheet holds: the value it gives, the cells
it reads, and what is wrong with it.
-/

namespace Worksheet

def refError : String := "REF ERROR"

structure Reading where
  value : Option String
  precedents : List Address
  error : Option SheetError
deriving DecidableEq

namespace Reading

def rejected (error : SheetError) : Reading := ⟨some refError, [], some error⟩

end Reading

namespace Sheet

def resolve (sheet : Sheet) (name : String) : Except SheetError Address :=
  match Address.parse name with
  | .ok address => if sheet.contains address then .ok address else .error (.unresolvable name)
  | .error _ => .error (.unresolvable name)

def numericValue? : Option String → Option Float
  | none => none
  | some text => if text = refError then none else some ((Decimal.ofText? text).getD Decimal.zero)

def references (sheet : Sheet) (formula : Formula) : Except SheetError (List (String × Address)) :=
  formula.names.mapM fun name => (sheet.resolve name).map fun address => (name, address)

def bindReference (sheet : Sheet) (formula : Formula) (reference : String × Address) : Formula :=
  match numericValue? (sheet.value? reference.2) with
  | some value => formula.bind reference.1 value
  | none => formula

def readFormula (sheet : Sheet) (formula : Formula) : Reading :=
  match sheet.references formula with
  | .error error => .rejected error
  | .ok references =>
    match (references.foldl sheet.bindReference formula).evaluate with
    | .ok value => ⟨some (Decimal.format value), references.map Prod.snd, none⟩
    | .error _ => ⟨some refError, references.map Prod.snd, none⟩

def readName (sheet : Sheet) (body : String) (parseError : ExpressionError) : Reading :=
  match Address.parse body with
  | .error _ => .rejected (.expression parseError)
  | .ok _ =>
    match sheet.resolve body with
    | .error error => .rejected error
    | .ok address => ⟨some ((sheet.value? address).getD refError), [address], none⟩

def readBody (sheet : Sheet) (body : String) : Reading :=
  match Formula.parse body with
  | .ok formula => sheet.readFormula formula
  | .error parseError => sheet.readName body parseError

def read (sheet : Sheet) (text : String) : Reading :=
  match Content.ofText text with
  | .empty => ⟨none, [], none⟩
  | .literal text => ⟨some text, [], none⟩
  | .formula body => sheet.readBody (String.ofList body)

end Sheet

end Worksheet
