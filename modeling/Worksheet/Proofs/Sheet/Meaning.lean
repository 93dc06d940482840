import Worksheet.Proofs.Expression.Conservation
import Worksheet.Proofs.Text.Word
import Worksheet.Sheet.Evaluation

namespace Worksheet.Sheet

variable {sheet before after : Sheet} {address : Address} {text : String}

def named? (sheet : Sheet) (name : String) : Option Address :=
  match Address.parse name with
  | .ok address => if sheet.contains address then some address else none
  | .error _ => none

def number? (sheet : Sheet) (name : String) : Option Float :=
  match (sheet.named? name).bind sheet.value? with
  | none => none
  | some text => if text = "REF ERROR" then none else some ((Decimal.ofText? text).getD 0)

def bodyMeaning? (sheet : Sheet) (body : String) : Option String :=
  match Expr.parse body with
  | .ok tree => (tree.valueUnder sheet.number?).map Decimal.format
  | .error _ => (sheet.named? body).bind sheet.value?

def formulaBody? (text : String) : Option String :=
  match text.toList.filter fun c => ! Text.isBlank c with
  | '=' :: body => some (String.ofList body)
  | _ => none

def meaning (sheet : Sheet) (text : String) : Option String :=
  if text = "" then none
  else
    match formulaBody? text with
    | none => some text
    | some body => some ((sheet.bodyMeaning? body).getD "REF ERROR")

theorem ofText_eq (hempty : text ≠ "") :
    Content.ofText text =
      match text.toList.filter fun c => ! Text.isBlank c with
      | '=' :: body => .formula body
      | _ => .literal text := by
  have hfirst := Text.first_trimStart text.toList
  have hfilter := Text.withoutBlanks_trimStart text.toList
  rw [Text.withoutBlanks, Text.withoutBlanks] at hfilter
  rw [← hfilter, Content.ofText, if_neg (mt String.isEmpty_iff.mp hempty)]
  generalize Text.trimStart text.toList = start at hfirst ⊢
  cases start with
  | nil => rfl
  | cons c rest =>
    have hc : Text.isBlank c = false := hfirst c rfl
    rw [List.filter_cons, hc]
    by_cases hequals : c = '='
    · subst hequals
      rfl
    · simp [hequals]

theorem read_eq (sheet : Sheet) (text : String) :
    sheet.read text =
      if text = "" then ⟨none, [], none⟩
      else
        match formulaBody? text with
        | none => ⟨some text, [], none⟩
        | some body => sheet.readBody body := by
  by_cases hempty : text = ""
  · subst hempty
    rfl
  · rw [if_neg hempty, read, ofText_eq hempty, formulaBody?]
    cases text.toList.filter fun c => ! Text.isBlank c with
    | nil => rfl
    | cons c body =>
      by_cases hequals : c = '='
      · subst hequals
        rfl
      · simp [hequals]

theorem resolve_eq (sheet : Sheet) (name : String) :
    sheet.resolve name = (sheet.named? name).elim (.error (.unresolvable name)) .ok := by
  unfold resolve named?
  cases Address.parse name with
  | error cause => rfl
  | ok address => by_cases h : sheet.contains address <;> simp [h]

theorem bindReference_root {formula : Formula} {name : String}
    (h : sheet.named? name = some address) :
    (sheet.bindReference formula (name, address)).root =
      formula.root.bindFrom sheet.number? name := by
  have hnumber : sheet.number? name = numericValue? (sheet.value? address) := by
    simp only [number?, h, Option.bind_some, ← Decimal.zero_eq]
    rfl
  simp only [bindReference, Expr.bindFrom, hnumber]
  cases numericValue? (sheet.value? address) <;> rfl

theorem foldl_bindReference_root {references : List (String × Address)} {formula : Formula}
    (h : ∀ reference ∈ references, sheet.named? reference.1 = some reference.2) :
    (references.foldl sheet.bindReference formula).root =
      (references.map Prod.fst).foldl (Expr.bindFrom sheet.number?) formula.root := by
  induction references generalizing formula with
  | nil => rfl
  | cons reference references ih =>
    rw [List.foldl_cons, ih fun other hother => h other (List.mem_cons_of_mem _ hother),
      bindReference_root (h reference List.mem_cons_self)]
    rfl

theorem references_spec (sheet : Sheet) (formula : Formula) :
    match sheet.references formula with
    | .ok references => references.map Prod.fst = formula.names ∧
        ∀ reference ∈ references, sheet.named? reference.1 = some reference.2
    | .error _ => ∃ name ∈ formula.names, sheet.named? name = none := by
  unfold references
  induction formula.names with
  | nil => simp [pure, Except.pure]
  | cons name names ih =>
    rw [List.mapM_cons, resolve_eq]
    cases hname : sheet.named? name with
    | none => exact ⟨name, List.mem_cons_self, hname⟩
    | some address =>
      revert ih
      cases (names.mapM fun name => (sheet.resolve name).map fun address => (name, address)) with
      | error cause =>
        rintro ⟨other, hother, hnone⟩
        exact ⟨other, List.mem_cons_of_mem _ hother, hnone⟩
      | ok references =>
        rintro ⟨hfst, hall⟩
        refine ⟨by simp [hfst], fun reference hreference => ?_⟩
        rcases List.mem_cons.mp hreference with rfl | hreference
        · exact hname
        · exact hall reference hreference

theorem readFormula_value (sheet : Sheet) {tree : Expr} (htree : tree.Unbound) :
    (sheet.readFormula (.ofExpr tree)).value =
      some (((tree.valueUnder sheet.number?).map Decimal.format).getD "REF ERROR") := by
  have hnames := Formula.names_ofExpr tree
  have hspec := sheet.references_spec (.ofExpr tree)
  unfold readFormula
  cases hreferences : sheet.references (.ofExpr tree) with
  | error cause =>
    rw [hreferences] at hspec
    obtain ⟨name, hname, hnone⟩ := hspec
    cases hvalue : tree.valueUnder sheet.number? with
    | none => rfl
    | some value =>
      have := Expr.assigned_of_valueUnder hvalue name (by simpa [hnames] using hname)
      simp [number?, hnone] at this
  | ok references =>
    rw [hreferences, hnames] at hspec
    have hevaluate : (references.foldl sheet.bindReference (.ofExpr tree)).evaluate.toOption =
        tree.valueUnder sheet.number? := by
      rw [Formula.evaluate, foldl_bindReference_root hspec.2, hspec.1]
      exact Expr.evaluate_foldl_bindFrom htree (by simp [Formula.ofExpr])
    simp only [← hevaluate]
    cases (references.foldl sheet.bindReference (.ofExpr tree)).evaluate <;> rfl

theorem readBody_value (sheet : Sheet) (body : String) :
    (sheet.readBody body).value = some ((sheet.bodyMeaning? body).getD "REF ERROR") := by
  simp only [readBody, Formula.parse, bodyMeaning?]
  cases hparse : Expr.parse body with
  | ok tree => exact sheet.readFormula_value (Expr.unbound_of_parse hparse)
  | error cause =>
    simp only [Except.map, readName, resolve_eq, named?]
    cases Address.parse body with
    | error => rfl
    | ok address => by_cases h : sheet.contains address <;> simp [h, Reading.rejected, refError]

theorem read_value (sheet : Sheet) (text : String) :
    (sheet.read text).value = sheet.meaning text := by
  rw [read_eq, meaning]
  split
  · rfl
  · cases formulaBody? text with
    | none => rfl
    | some body => exact sheet.readBody_value body

end Worksheet.Sheet
