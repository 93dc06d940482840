import Worksheet.Proofs.Address.Name
import Worksheet.Proofs.Expression.Acceptance
import Worksheet.Proofs.Sheet.Placement

namespace Worksheet

theorem Content.ofText_equals (body : String) :
    ofText ("=" ++ body) = .formula (Text.withoutBlanks body.toList) := by
  have htext : ("=" ++ body).toList = '=' :: body.toList := by simp
  have hempty : ¬ ("=" ++ body).isEmpty = true := by simp
  have hstart : Text.trimStart ('=' :: body.toList) = '=' :: body.toList := rfl
  rw [ofText, if_neg hempty, htext, hstart]
  rfl

theorem Content.ofText_formula {body : String} (h : ∀ c ∈ body.toList, Text.isBlank c = false) :
    ofText ("=" ++ body) = .formula body.toList := by
  rw [ofText_equals, Text.withoutBlanks, List.filter_eq_self.mpr]
  intro c hc
  rw [h c hc, Bool.not_false]

namespace Address.Names

variable {name : String} {position : Address}

theorem classify (h : Names name position) :
    Operand.classify name.toList = .ok (.variable name) := by
  obtain ⟨first, rest, htext, hfirst, hrest⟩ := h.exists_cons
  have hnumber : Operand.looksNumeric name.toList = false := by
    have hdigit : first.isDigit = false :=
      Bool.eq_false_iff.mpr fun hdigit => not_isAlpha_of_isDigit hdigit hfirst
    have hpoint : (first == '.') = false := by
      rw [beq_eq_false_iff_ne]
      rintro rfl
      simp at hfirst
    rw [htext, Operand.looksNumeric, hdigit, hpoint, Bool.or_false]
  have hname : Operand.isName name.toList = true := by
    rw [htext, Operand.isName, Text.isLetter_of_isAlpha hfirst, Bool.true_and, List.all_eq_true]
    intro c hc
    rw [Bool.or_eq_true]
    exact ((Bool.or_eq_true _ _).mp (hrest c hc)).imp Text.isLetter_of_isAlpha
      Text.isNumeral_of_isDigit
  simp [Operand.classify, Operand.number?, hnumber, hname]

theorem parse_plusZero (h : Names name position) :
    Expr.parse (name ++ "+0") = .ok (.binary .add (.variable name none) (.number 0)) := by
  have htext : (name ++ "+0").toList = name.toList ++ '+' :: ['0'] := by simp
  have hne : name.toList ≠ [] := by
    obtain ⟨first, rest, htext, -⟩ := h.exists_cons
    rw [htext]
    exact List.cons_ne_nil _ _
  have hleft : Expr.Derives .factor name.toList (.variable name none) :=
    .operand hne (fun c hc => Token.not_mem_delimiters_of_isAlphanum (h.isAlphanum c hc)) h.classify
  have hzero : Operand.classify ['0'] = .ok (.number 0) := by decide +kernel
  have hright : Expr.Derives .factor ['0'] (.number 0) :=
    .operand (List.cons_ne_nil _ _) (by simp [Token.delimiters]) hzero
  have hderives : Expr.Derives .sum (name ++ "+0").toList
      (.binary .add (.variable name none) (.number 0)) := by
    rw [htext]
    exact .sum (.inl rfl) (.term (.factor hleft)) (.factor hright)
  rw [Expr.parse_eq_assemble hderives ⟨'+', by simp [htext], rfl⟩,
    Expr.assemble_postorder (by simp [Expr.depth, Expr.maxDepth]), Expr.assemble]

end Address.Names

namespace Reading

def outlineOf (target : Except SheetError Address) : List Address × Option SheetError :=
  match target with
  | .ok address => ([address], none)
  | .error error => ([], some error)

end Reading

namespace Sheet

variable {sheet : Sheet} {name text : String} {position cell : Address}
  {target : Except SheetError Address} {enumeration : Graph.Enumeration}

theorem references_ofExpr {tree : Expr} (hnames : tree.names = [name]) :
    sheet.references (.ofExpr tree) = (sheet.resolve name).map fun address => [(name, address)] := by
  have htable : (Formula.ofExpr tree).names = [name] := by
    rw [Formula.names_ofExpr, hnames]
    rfl
  rw [references, htable, List.mapM_cons, List.mapM_nil]
  cases sheet.resolve name <;> rfl

theorem outline_readFormula {tree : Expr} (hnames : tree.names = [name]) :
    (sheet.readFormula (.ofExpr tree)).outline = Reading.outlineOf (sheet.resolve name) := by
  unfold readFormula
  rw [references_ofExpr hnames]
  cases sheet.resolve name with
  | error error => rfl
  | ok address =>
    simp only [Except.map]
    split <;> rfl

theorem outline_readName (body : String) (cause : ExpressionError) :
    (sheet.readName body cause).outline =
      match Address.parse body with
      | .error _ => Reading.outlineOf (.error (.expression cause))
      | .ok _ => Reading.outlineOf (sheet.resolve body) := by
  unfold readName
  cases Address.parse body with
  | error => rfl
  | ok =>
    cases sheet.resolve body with
    | error => rfl
    | ok => rfl

theorem read_formula {body : String} (h : ∀ c ∈ body.toList, Text.isBlank c = false) :
    sheet.read ("=" ++ body) = sheet.readBody body := by
  rw [read, Content.ofText_formula h]
  simp only [String.ofList_toList]

theorem outline_read_plusZero (hname : Address.Names name position) :
    (sheet.read ("=" ++ (name ++ "+0"))).outline = Reading.outlineOf (sheet.resolve name) := by
  have hplain : ∀ c ∈ (name ++ "+0").toList, Text.isBlank c = false := by
    have hplus : Text.isBlank '+' = false := by decide
    have hzero : Text.isBlank '0' = false := by decide
    have hsuffix : ∀ c ∈ ['+', '0'], Text.isBlank c = false := by simp [hplus, hzero]
    intro c hc
    rw [String.toList_append, List.mem_append] at hc
    rcases hc with hc | hc
    · exact Text.isBlank_of_isAlphanum (hname.isAlphanum c hc)
    · exact hsuffix c hc
  rw [read_formula hplain, readBody, Formula.parse, hname.parse_plusZero]
  exact outline_readFormula rfl

theorem outline_read_name (hname : Address.Names name position) :
    (sheet.read ("=" ++ name)).outline =
      if position.InLimits then Reading.outlineOf (sheet.resolve name)
      else Reading.outlineOf (.error (.expression (.noOperator name))) := by
  have hplain : ∀ c ∈ name.toList, Text.isBlank c = false :=
    fun c hc => Text.isBlank_of_isAlphanum (hname.isAlphanum c hc)
  rw [read_formula hplain, readBody, Formula.parse, Expr.parse_of_isAlphanum hname.isAlphanum]
  simp only [Except.map]
  rw [outline_readName]
  split
  · rename_i hparse
    rw [if_neg]
    intro hlimits
    simp [Address.parse_of_inLimits hname hlimits] at hparse
  · rename_i hparse
    rw [if_pos]
    by_contra hbeyond
    obtain ⟨cause, herror⟩ := Address.exists_parse_eq_error hname hbeyond
    simp [herror] at hparse

theorem resolve_of_names (hlimits : ∀ address, sheet.contains address → address.InLimits)
    (hname : Address.Names name position) :
    sheet.resolve name =
      if sheet.contains position then .ok position else .error (.unresolvable name) := by
  unfold resolve
  by_cases hposition : position.InLimits
  · rw [Address.parse_of_inLimits hname hposition]
  · obtain ⟨cause, herror⟩ := Address.exists_parse_eq_error hname hposition
    rw [herror, if_neg fun hcontains => hposition (hlimits position hcontains)]

theorem inLimits_of_contains_run {steps : List Step} {options : Options}
    (h : (Step.run steps (fresh options)).contains position) : position.InLimits := by
  have hshape := (evolves_run (fresh options) steps).shape
  have hrows : (fresh options).rows ≤ Address.maxRows := Nat.min_le_right _ _
  have hcolumns : (fresh options).columns ≤ Address.maxCols := Nat.min_le_right _ _
  simp only [contains, Bool.and_eq_true, decide_eq_true_eq, hshape.rows, hshape.columns] at h
  exact ⟨Nat.lt_of_lt_of_le h.1 hrows, Nat.lt_of_lt_of_le h.2 hcolumns⟩

structure Enters (sheet : Sheet) (enumeration : Graph.Enumeration) (cell : Address) (text : String)
    (target : Except SheetError Address) : Prop where
  precedents :
    (sheet.setTextBy enumeration cell text).sheet.precedents cell = target.toOption.toList
  result : sheet.text? cell ≠ some text →
    (sheet.setTextBy enumeration cell text).result = target.map fun _ => ()

theorem mem_precedents_setTextBy (h : Wired sheet) {held : Cell}
    (hcell : sheet.cell? cell = some held) (source : Address) :
    source ∈ (sheet.setTextBy enumeration cell text).sheet.precedents cell ↔
      source ∈ (sheet.read text).precedents := by
  have hshape := sheet.sameShape_setTextBy enumeration cell text
  have htext : (sheet.setTextBy enumeration cell text).sheet.text? cell = some text := by
    rw [text?_setTextBy, if_pos rfl, text?, hcell, Option.map_some, Option.map_some]
  rw [(wired_setTextBy h enumeration cell text).precedents, reading, htext, Option.getD_some,
    precedents_read_congr hshape.rows hshape.columns]

theorem enters_of_outline (h : Wired sheet) {held : Cell} (hcell : sheet.cell? cell = some held)
    (houtline : (sheet.read text).outline = Reading.outlineOf target) :
    Enters sheet enumeration cell text target := by
  constructor
  · have hprecedents : (sheet.read text).precedents = target.toOption.toList := by
      apply (congrArg Prod.fst houtline).trans
      cases target <;> rfl
    have hnodup : target.toOption.toList.Nodup := by
      cases target with
      | ok address => exact List.nodup_singleton address
      | error => exact List.nodup_nil
    have hmem (source : Address) :
        source ∈ (sheet.setTextBy enumeration cell text).sheet.precedents cell ↔
          source ∈ target.toOption.toList := by
      rw [mem_precedents_setTextBy h hcell, hprecedents]
    have hperm := (List.perm_ext_iff_of_nodup (Graph.nodup_precedents _ _) hnodup).mpr hmem
    cases target with
    | ok address => exact List.perm_singleton.mp hperm
    | error => exact List.perm_nil.mp hperm
  · intro hnew
    have hdiffer : held.text ≠ text := by
      rintro rfl
      exact hnew (by rw [text?, hcell, Option.map_some])
    have herror : (sheet.read text).error = (Reading.outlineOf target).2 :=
      congrArg Prod.snd houtline
    rw [result_setTextBy hcell, if_neg hdiffer, Reading.answer, herror]
    cases target <;> rfl

theorem enters_name (steps : List Step) (options : Options) (enumeration : Graph.Enumeration)
    (hcell : (Step.run steps (fresh options)).contains cell)
    (hname : Address.Names name position) :
    let sheet := Step.run steps (fresh options)
    Enters sheet enumeration cell ("=" ++ (name ++ "+0"))
        (if sheet.contains position then .ok position else .error (.unresolvable name)) ∧
      Enters sheet enumeration cell ("=" ++ name)
        (if sheet.contains position then .ok position
        else .error (if position.InLimits then .unresolvable name
          else .expression (.noOperator name))) := by
  intro sheet
  have hwired : Wired sheet := (coherent_run steps options).wired
  have hplaced : Placed sheet := placed_of_evolves (evolves_run (fresh options) steps)
  obtain ⟨held, hheld, -⟩ := hplaced.cell?_eq hcell
  have hlimits : ∀ address, sheet.contains address → address.InLimits :=
    fun _ => inLimits_of_contains_run
  have hresolve := resolve_of_names hlimits hname
  constructor
  · apply enters_of_outline hwired hheld
    rw [outline_read_plusZero hname, hresolve]
  · apply enters_of_outline hwired hheld
    rw [outline_read_name hname, hresolve]
    by_cases hcontains : sheet.contains position
    · rw [if_pos (hlimits position hcontains), if_pos hcontains, if_pos hcontains]
    · rw [if_neg hcontains, if_neg hcontains]
      split <;> rfl

theorem names_xfe1 : Address.Names "XFE1" ⟨0, 16384⟩ :=
  .intro (show _ = ['X', 'F', 'E'] ++ ['1'] by decide) (by simp) (by simp) (by decide) (by decide)

theorem enters_xfe1 :
    (fresh ⟨1, 1, none⟩).contains ⟨0, 0⟩ ∧ Address.Names "XFE1" ⟨0, 16384⟩ ∧
      Enters (fresh ⟨1, 1, none⟩) .sorted ⟨0, 0⟩ "=XFE1+0" (.error (.unresolvable "XFE1")) ∧
      Enters (fresh ⟨1, 1, none⟩) .sorted ⟨0, 0⟩ "=XFE1"
        (.error (.expression (.noOperator "XFE1"))) :=
  ⟨by decide, names_xfe1, enters_name [] ⟨1, 1, none⟩ .sorted (by decide) names_xfe1⟩

/-- The first column without a name: the two forms are refused for different reasons. -/
theorem result_setText_xfe1 :
    ((fresh ⟨1, 1, none⟩).setText ⟨0, 0⟩ "=XFE1+0").result = .error (.unresolvable "XFE1") ∧
      ((fresh ⟨1, 1, none⟩).setText ⟨0, 0⟩ "=XFE1").result =
        .error (.expression (.noOperator "XFE1")) := by
  decide +kernel

end Sheet

end Worksheet
