import Mathlib.Data.List.Basic
import Worksheet.Proofs.Sheet.Grid
import Worksheet.Sheet.Evaluation

namespace Worksheet

namespace Reading

def outline (reading : Reading) : List Address × Option SheetError :=
  (reading.precedents, reading.error)

def answer (reading : Reading) : Except SheetError Unit := reading.error.elim (.ok ()) .error

theorem answer_eq_error_iff {reading : Reading} {error : SheetError} :
    reading.answer = .error error ↔ reading.error = some error := by
  unfold answer
  cases reading.error <;> simp

end Reading

namespace Sheet

variable {sheet before after : Sheet} {address : Address} {text : String}

def reading (sheet : Sheet) (address : Address) : Reading :=
  sheet.read ((sheet.text? address).getD "")

theorem contains_congr (hrows : after.rows = before.rows) (hcolumns : after.columns = before.columns)
    (address : Address) : after.contains address = before.contains address := by
  simp only [contains, hrows, hcolumns]

theorem resolve_congr (hrows : after.rows = before.rows) (hcolumns : after.columns = before.columns)
    (name : String) : after.resolve name = before.resolve name := by
  simp only [resolve, contains_congr hrows hcolumns]

theorem references_congr (hrows : after.rows = before.rows)
    (hcolumns : after.columns = before.columns) (formula : Formula) :
    after.references formula = before.references formula := by
  simp only [references, resolve_congr hrows hcolumns]

theorem readFormula_congr (hrows : after.rows = before.rows)
    (hcolumns : after.columns = before.columns) {formula : Formula}
    (hvalue : ∀ source ∈ (before.readFormula formula).precedents,
      after.value? source = before.value? source) :
    after.readFormula formula = before.readFormula formula := by
  unfold readFormula at hvalue ⊢
  rw [references_congr hrows hcolumns]
  cases hreferences : before.references formula with
  | error cause => rfl
  | ok references =>
    have hbound : references.foldl after.bindReference formula =
        references.foldl before.bindReference formula := by
      refine List.foldl_ext _ _ _ fun bound reference hreference => ?_
      have hsource : reference.2 ∈ references.map Prod.snd := List.mem_map_of_mem hreference
      have hvalue' : after.value? reference.2 = before.value? reference.2 := by
        apply hvalue
        simp only [hreferences]
        split <;> exact hsource
      simp only [bindReference, hvalue']
    simp only [hbound]

theorem readName_congr (hrows : after.rows = before.rows)
    (hcolumns : after.columns = before.columns) {body : String} {cause : ExpressionError}
    (hvalue : ∀ source ∈ (before.readName body cause).precedents,
      after.value? source = before.value? source) :
    after.readName body cause = before.readName body cause := by
  unfold readName at hvalue ⊢
  rw [resolve_congr hrows hcolumns]
  cases hname : Address.parse body with
  | error => rfl
  | ok =>
    cases hresolve : before.resolve body with
    | error => rfl
    | ok address =>
      have hvalue' : after.value? address = before.value? address := by
        apply hvalue
        simp [hname, hresolve]
      simp only [hvalue']

theorem read_congr (hrows : after.rows = before.rows) (hcolumns : after.columns = before.columns)
    (hvalue : ∀ source ∈ (before.read text).precedents,
      after.value? source = before.value? source) :
    after.read text = before.read text := by
  unfold read at hvalue ⊢
  cases hcontent : Content.ofText text with
  | empty => rfl
  | literal text => rfl
  | formula body =>
    simp only [hcontent, readBody] at hvalue ⊢
    cases hparse : Formula.parse (String.ofList body) with
    | ok formula => exact readFormula_congr hrows hcolumns (by simpa only [hparse] using hvalue)
    | error cause => exact readName_congr hrows hcolumns (by simpa only [hparse] using hvalue)

theorem outline_read_congr (hrows : after.rows = before.rows)
    (hcolumns : after.columns = before.columns) (text : String) :
    (after.read text).outline = (before.read text).outline := by
  unfold read
  cases Content.ofText text with
  | empty => rfl
  | literal text => rfl
  | formula body =>
    simp only [readBody]
    cases Formula.parse (String.ofList body) with
    | ok formula =>
      simp only [readFormula, references_congr hrows hcolumns]
      cases before.references formula with
      | error => rfl
      | ok references =>
        simp only
        split <;> split <;> rfl
    | error cause =>
      simp only [readName, resolve_congr hrows hcolumns]
      cases Address.parse (String.ofList body) with
      | error => rfl
      | ok => cases before.resolve (String.ofList body) <;> rfl

theorem precedents_read_congr (hrows : after.rows = before.rows)
    (hcolumns : after.columns = before.columns) (text : String) :
    (after.read text).precedents = (before.read text).precedents :=
  congrArg Prod.fst (outline_read_congr hrows hcolumns text)

theorem error_read_congr (hrows : after.rows = before.rows)
    (hcolumns : after.columns = before.columns) (text : String) :
    (after.read text).error = (before.read text).error :=
  congrArg Prod.snd (outline_read_congr hrows hcolumns text)

end Sheet

end Worksheet
