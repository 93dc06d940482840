import Worksheet.Proofs.Expression.Conservation
import Worksheet.Proofs.History.Coherence

namespace Worksheet

theorem Address.isAlphanum_of_parse {text : String} {address : Address}
    (h : parse text = .ok address) : ∀ c ∈ text.toList, c.isAlphanum = true := by
  unfold parse at h
  simp only at h
  split at h
  · simp at h
  · split at h
    · simp at h
    · obtain ⟨col, -, h⟩ := bind_eq_ok_iff.mp h
      obtain ⟨row, hrow, -⟩ := bind_eq_ok_iff.mp h
      have hdigits : (text.toList.dropWhile Char.isAlpha).all Char.isDigit = true := by
        by_contra hdigits
        unfold readRow at hrow
        split at hrow <;> simp at hrow
      intro c hc
      rw [← List.takeWhile_append_dropWhile (p := Char.isAlpha) (l := text.toList),
        List.mem_append] at hc
      rw [Char.isAlphanum, Bool.or_eq_true]
      rcases hc with hc | hc
      · exact .inl (List.mem_takeWhile_imp hc)
      · exact .inr (List.all_eq_true.mp hdigits c hc)

theorem Operator.ofSymbol?_of_isAlphanum {c : Char} (h : c.isAlphanum = true) :
    ofSymbol? c = none := by
  unfold ofSymbol?
  split
  · simp at h
  · simp at h
  · simp at h
  · simp at h
  · rfl

theorem Expr.parse_of_isAlphanum {text : String} (h : ∀ c ∈ text.toList, c.isAlphanum = true) :
    parse text = .error (.noOperator text) := by
  have hop : ¬ (Token.scan text.toList).any Token.isOperator = true := by
    rw [Token.any_isOperator_scan, List.any_eq_true]
    rintro ⟨c, hc, hsome⟩
    rw [Operator.ofSymbol?_of_isAlphanum (h c hc)] at hsome
    simp at hsome
  rw [parse, PostfixItem.ofExpression, if_neg hop]
  rfl

theorem Expr.parse_name {text : String} {address : Address}
    (h : Address.parse text = .ok address) : parse text = .error (.noOperator text) :=
  parse_of_isAlphanum (Address.isAlphanum_of_parse h)

namespace Sheet

variable {sheet : Sheet} {text : String} {source : Address}

inductive Refers (sheet : Sheet) (text : String) (source : Address) : Prop
  | operand {body : String} {tree : Expr} {name : String}
    (hbody : formulaBody? text = some body) (htree : Expr.parse body = .ok tree)
    (hnames : ∀ name ∈ tree.names, (sheet.named? name).isSome)
    (hname : name ∈ tree.names) (hsource : sheet.named? name = some source)
  | whole {body : String} (hbody : formulaBody? text = some body)
    (hsource : sheet.named? body = some source)

theorem mem_precedents_readFormula_iff (tree : Expr) :
    source ∈ (sheet.readFormula (.ofExpr tree)).precedents ↔
      (∀ name ∈ tree.names, (sheet.named? name).isSome) ∧
        ∃ name ∈ tree.names, sheet.named? name = some source := by
  have hnames (name : String) : name ∈ (Formula.ofExpr tree).names ↔ name ∈ tree.names := by
    rw [Formula.names_ofExpr, List.mem_eraseDups]
  have hspec := sheet.references_spec (.ofExpr tree)
  unfold readFormula
  cases hreferences : sheet.references (.ofExpr tree) with
  | error cause =>
    rw [hreferences] at hspec
    obtain ⟨name, hname, hnone⟩ := hspec
    simp only [Reading.rejected, List.not_mem_nil, false_iff, not_and]
    intro hall
    have hsome := hall name ((hnames name).mp hname)
    simp [hnone] at hsome
  | ok references =>
    rw [hreferences] at hspec
    obtain ⟨hfst, hall⟩ := hspec
    have hprecedents : source ∈ references.map Prod.snd ↔
        (∀ name ∈ tree.names, (sheet.named? name).isSome) ∧
          ∃ name ∈ tree.names, sheet.named? name = some source := by
      simp only [← hnames, ← hfst, List.mem_map]
      constructor
      · rintro ⟨reference, hmem, rfl⟩
        refine ⟨?_, reference.1, ⟨reference, hmem, rfl⟩, hall reference hmem⟩
        rintro _ ⟨other, hother, rfl⟩
        rw [hall other hother, Option.isSome_some]
      · rintro ⟨-, _, ⟨reference, hmem, rfl⟩, hsource⟩
        rw [hall reference hmem, Option.some.injEq] at hsource
        exact ⟨reference, hmem, hsource⟩
    simp only
    split <;> exact hprecedents

theorem mem_precedents_readName_iff (body : String) (cause : ExpressionError) :
    source ∈ (sheet.readName body cause).precedents ↔ sheet.named? body = some source := by
  unfold readName
  rw [resolve_eq]
  cases hname : Address.parse body with
  | error => simp [Reading.rejected, named?, hname]
  | ok address =>
    cases hnamed : sheet.named? body with
    | none => simp [Reading.rejected]
    | some other => simp [eq_comm]

theorem mem_precedents_readBody_iff (body : String) :
    source ∈ (sheet.readBody body).precedents ↔
      (∃ tree, Expr.parse body = .ok tree ∧ (∀ name ∈ tree.names, (sheet.named? name).isSome) ∧
        ∃ name ∈ tree.names, sheet.named? name = some source) ∨
      sheet.named? body = some source := by
  simp only [readBody, Formula.parse]
  cases htree : Expr.parse body with
  | ok tree =>
    have hnamed : sheet.named? body ≠ some source := by
      unfold named?
      cases hname : Address.parse body with
      | error => simp
      | ok address => simp [Expr.parse_name hname] at htree
    simp only [Except.map, Except.ok.injEq, exists_eq_left', hnamed, or_false]
    exact mem_precedents_readFormula_iff tree
  | error cause =>
    simp only [Except.map, reduceCtorEq, false_and, exists_false, false_or]
    exact mem_precedents_readName_iff body cause

theorem mem_precedents_read_iff (sheet : Sheet) (text : String) (source : Address) :
    source ∈ (sheet.read text).precedents ↔ sheet.Refers text source := by
  rw [read_eq]
  cases hbody : formulaBody? text with
  | none =>
    have hnothing : ¬ sheet.Refers text source := by
      rintro (⟨hbody'⟩ | ⟨hbody'⟩) <;> simp [hbody] at hbody'
    split <;> simpa using hnothing
  | some body =>
    have hempty : text ≠ "" := by
      rintro rfl
      cases hbody
    rw [if_neg hempty, mem_precedents_readBody_iff]
    constructor
    · rintro (⟨tree, htree, hnames, name, hname, hsource⟩ | hsource)
      · exact .operand hbody htree hnames hname hsource
      · exact .whole hbody hsource
    · rintro (⟨hbody', htree, hnames, hname, hsource⟩ | ⟨hbody', hsource⟩)
      · obtain rfl := Option.some.inj (hbody.symm.trans hbody')
        exact .inl ⟨_, htree, hnames, _, hname, hsource⟩
      · obtain rfl := Option.some.inj (hbody.symm.trans hbody')
        exact .inr hsource

theorem mem_precedents_iff_refers (h : Wired sheet) (reader source : Address) :
    source ∈ sheet.precedents reader ↔
      ∃ text, sheet.text? reader = some text ∧ sheet.Refers text source := by
  rw [h.precedents, reading, mem_precedents_read_iff]
  cases htext : sheet.text? reader with
  | some text => simp
  | none =>
    simp only [Option.getD_none, reduceCtorEq, false_and, exists_false, iff_false,
      ← mem_precedents_read_iff]
    exact List.not_mem_nil

theorem references_run (steps : List Step) (options : Options) :
    (∀ reader source, source ∈ (Step.run steps (fresh options)).precedents reader ↔
      ∃ text, (Step.run steps (fresh options)).text? reader = some text ∧
        (Step.run steps (fresh options)).Refers text source) ∧
    ∀ reader source, reader ∈ (Step.run steps (fresh options)).dependents source ↔
      source ∈ (Step.run steps (fresh options)).precedents reader := by
  have h := (coherent_run steps options).wired
  exact ⟨mem_precedents_iff_refers h, h.mirrored⟩

/-- The last edit puts the cell on a cycle and fails, since no cell of this grid has its last name. -/
def rewired : List Step :=
  [.perform .sorted (.setText ⟨0, 2⟩ "=A2"), .perform .sorted (.setText ⟨0, 2⟩ " = A1 +\tb2"),
    .perform .sorted (.setText ⟨0, 0⟩ "=C1"), .perform .sorted (.editText ⟨0, 0⟩ "=C1*Z9")]

theorem references_rewired :
    ((Operation.editText ⟨0, 0⟩ "=C1*Z9").perform
        (Step.run (rewired.take 3) (fresh ⟨2, 3, none⟩))).result = .error (.unresolvable "Z9") ∧
      (∀ source, (Step.run rewired (fresh ⟨2, 3, none⟩)).Refers " = A1 +\tb2" source ↔
        source = ⟨0, 0⟩ ∨ source = ⟨1, 1⟩) ∧
      (∀ source, ¬ (Step.run rewired (fresh ⟨2, 3, none⟩)).Refers "=C1*Z9" source) ∧
      ∀ reader, ⟨0, 0⟩ ∈ (Step.run rewired (fresh ⟨2, 3, none⟩)).precedents reader ↔
        reader = ⟨0, 2⟩ := by
  have hresult : ((Operation.editText ⟨0, 0⟩ "=C1*Z9").perform
      (Step.run (rewired.take 3) (fresh ⟨2, 3, none⟩))).result = .error (.unresolvable "Z9") := by
    decide +kernel
  obtain ⟨hprecedents, hdependents⟩ := references_run rewired ⟨2, 3, none⟩
  have hrefers {reader : Address} {text : String}
      (htext : (Step.run rewired (fresh ⟨2, 3, none⟩)).text? reader = some text)
      (source : Address) : (Step.run rewired (fresh ⟨2, 3, none⟩)).Refers text source ↔
        source ∈ (Step.run rewired (fresh ⟨2, 3, none⟩)).precedents reader := by
    rw [hprecedents, htext]
    simp
  refine ⟨hresult, fun source => ?_, fun source => ?_, fun reader => ?_⟩
  · have hcells : (Step.run rewired (fresh ⟨2, 3, none⟩)).precedents ⟨0, 2⟩ =
        [⟨0, 0⟩, ⟨1, 1⟩] := by decide +kernel
    rw [@hrefers ⟨0, 2⟩ _ (by decide +kernel), hcells, List.mem_pair]
  · have hcells : (Step.run rewired (fresh ⟨2, 3, none⟩)).precedents ⟨0, 0⟩ = [] := by
      decide +kernel
    rw [@hrefers ⟨0, 0⟩ _ (by decide +kernel), hcells]
    exact List.not_mem_nil
  · have hcells : (Step.run rewired (fresh ⟨2, 3, none⟩)).dependents ⟨0, 0⟩ = [⟨0, 2⟩] := by
      decide +kernel
    rw [← hdependents, hcells, List.mem_singleton]

end Sheet

end Worksheet
