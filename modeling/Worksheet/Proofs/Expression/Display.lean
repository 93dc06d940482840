import Worksheet.Proofs.Decimal.Layout
import Worksheet.Proofs.Expression.Leaves

namespace Worksheet

namespace Operand

variable {text : List Char} {c : Char} {value : Float} {leaf : Operand}

theorem looksNumeric_cons (first : Char) (rest : List Char) :
    looksNumeric (first :: rest) = true ↔ first.isDigit = true ∨ first = '.' := by
  rw [looksNumeric, Bool.or_eq_true, beq_iff_eq]

theorem isNegative_of_number? (h : number? text = some value) :
    Decimal.isNegative value = false := by
  unfold number? at h
  split at h
  · rename_i hstarts
    cases text with
    | nil => cases hstarts
    | cons first rest =>
      obtain ⟨m, hm, rfl⟩ := Decimal.exists_of_ofChars? ((looksNumeric_cons first rest).mp hstarts) h
      exact Decimal.isNegative_float false hm
  · cases h

theorem number?_showFloat (hsign : Decimal.isNegative value = false)
    (hfinite : value.isFinite = true) : number? (Decimal.showFloat value).toList = some value := by
  have hread := Decimal.ofText?_showFloat (Nat.le_of_lt ((Decimal.isFinite_iff value).mp hfinite))
  obtain ⟨digit, rest, htext, hdigit, -⟩ := Decimal.isPlain_showFloat hsign hfinite
  rw [number?, if_pos]
  · exact hread
  · rw [htext, looksNumeric_cons]
    exact .inl hdigit

theorem ne_space_of_isName (h : isName text = true) (hc : c ∈ text) : c ≠ ' ' := by
  rintro rfl
  cases text with
  | nil => cases hc
  | cons first rest =>
    obtain ⟨hfirst, hrest⟩ := (Bool.and_eq_true _ _).mp h
    rcases List.mem_cons.mp hc with rfl | hc
    · exact absurd hfirst (by decide)
    · have hall := List.all_eq_true.mp hrest ' ' hc
      exact absurd hall (by decide)

end Operand

namespace Token

def literals (text : List Char) : List Float := (runs text).filterMap Operand.number?

theorem plain_of_mem_runs {text run : List Char} (h : run ∈ runs text) :
    run ≠ [] ∧ ∀ c ∈ run, c ∉ delimiters := by
  rw [← filterMap_run?_scan] at h
  obtain ⟨token, htoken, hrun⟩ := List.mem_filterMap.mp h
  cases token with
  | operand characters =>
    obtain rfl := Option.some.inj hrun
    exact plain_of_mem_scan text _ htoken _ rfl
  | operator | opening | closing => cases hrun

theorem not_mem_delimiters_of_isDigit {c : Char} (h : c.isDigit = true ∨ c = '.') :
    c ∉ delimiters ∧ c ≠ ' ' := by
  rcases h with hdigit | rfl
  · constructor
    · apply not_mem_delimiters_of_isAlphanum
      rw [Char.isAlphanum, hdigit, Bool.or_true]
    · rintro rfl
      exact absurd hdigit (by decide)
  · exact ⟨by simp [delimiters], by decide⟩

end Token

namespace Expr

open PostfixItem (derives_loosen derives_binary bound_le_factor)

variable {expression : String} {text : List Char} {leaf : Operand} {tree : Expr}

def compact (tree : Expr) : String := String.ofList (tree.shown.toList.filter (· ≠ ' '))

theorem toList_compact_of_ne (h : ∀ c ∈ tree.shown.toList, c ≠ ' ') :
    tree.compact.toList = tree.shown.toList := by
  rw [compact, String.toList_ofList, List.filter_eq_self]
  exact fun c hc => decide_eq_true (h c hc)

theorem toList_compact_binary (op : Operator) (left right : Expr) :
    (binary op left right).compact.toList =
      '(' :: (left.compact.toList ++ op.symbol :: right.compact.toList) ++ [')'] := by
  cases op <;> simp [compact, shown, List.filter_append, Operator.symbol]

theorem derives_number {value : Float} (h : Operand.number? text = some value)
    (hfinite : value.isFinite = true) :
    Derives .factor (number value).compact.toList (number value) := by
  have hsign := Operand.isNegative_of_number? h
  have hread := Operand.number?_showFloat hsign hfinite
  have hplain := Decimal.isPlain_showFloat hsign hfinite
  have hshown : (number value).shown = Decimal.showFloat value := by rw [shown]
  rw [← hshown] at hread hplain
  generalize htext : (number value).shown.toList = text at hread hplain
  have hclassify : Operand.classify text = .ok (.number value) := by
    rw [Operand.classify, hread]
  rw [toList_compact_of_ne, htext]
  · apply Derives.operand _ _ hclassify
    · obtain ⟨digit, rest, rfl, -⟩ := hplain
      exact List.cons_ne_nil _ _
    · exact fun c hc => (Token.not_mem_delimiters_of_isDigit (hplain.mem hc)).1
  · rw [htext]
    exact fun c hc => (Token.not_mem_delimiters_of_isDigit (hplain.mem hc)).2

theorem derives_leaf (hrun : text ≠ [] ∧ ∀ c ∈ text, c ∉ Token.delimiters)
    (h : Operand.classify text = .ok leaf)
    (hfinite : ∀ value, Operand.number? text = some value → value.isFinite = true) :
    Derives .factor (ofOperand leaf).compact.toList (ofOperand leaf) := by
  have hclassify := h
  unfold Operand.classify at h
  split at h
  · rename_i value hnumber
    obtain rfl := Except.ok.inj h
    exact derives_number hnumber (hfinite value hnumber)
  · split at h
    · rename_i hname
      obtain rfl := Except.ok.inj h
      have hshown : (ofOperand (.variable (String.ofList text))).shown.toList = text :=
        String.toList_ofList
      rw [toList_compact_of_ne, hshown]
      · exact .operand hrun.1 hrun.2 hclassify
      · rw [hshown]
        exact fun c hc => Operand.ne_space_of_isName hname hc
    · cases h

theorem derives_compact (h : ∀ leaf ∈ tree.leaves, Derives .factor leaf.compact.toList leaf) :
    Derives .factor tree.compact.toList tree := by
  induction tree with
  | number value => exact h _ (List.mem_singleton_self _)
  | «variable» name value => exact h _ (List.mem_singleton_self _)
  | binary op left right ihLeft ihRight =>
    rw [leaves, List.forall_mem_append] at h
    have hbinary := derives_binary (derives_loosen (ihLeft h.1) (bound_le_factor op.level))
      (derives_loosen (ihRight h.2) (bound_le_factor op.rightLevel))
    rw [toList_compact_binary]
    apply Derives.group
    apply derives_loosen hbinary
    cases op <;> decide

theorem exists_binary_of_parse (h : parse expression = .ok tree) :
    ∃ op left right, tree = .binary op left right := by
  have hitems := ofExpression_of_parse h
  have hoperators := PostfixItem.operators_ofExpression hitems
  rw [Token.filterMap_operator?_scan] at hoperators
  have hne : tree.postorder.filterMap PostfixItem.operator? ≠ [] := by
    intro hnone
    rw [hnone] at hoperators
    obtain ⟨c, hc, hop⟩ := (PostfixItem.exists_of_ofExpression hitems).1
    have hempty := List.filterMap_eq_nil_iff.mp hoperators.nil_eq.symm c hc
    rw [hempty] at hop
    cases hop
  cases tree with
  | number | «variable» => exact absurd rfl hne
  | binary op left right => exact ⟨op, left, right, rfl⟩

theorem derives_leaf_of_parse (h : parse expression = .ok tree)
    (hfinite : ∀ value ∈ Token.literals expression.toList, value.isFinite = true) :
    ∀ leaf ∈ tree.leaves, Derives .factor leaf.compact.toList leaf := by
  obtain ⟨operands, hleaves, hoperands⟩ := exists_operands_of_parse h
  rw [hleaves]
  intro leaf hleaf
  obtain ⟨operand, hoperand, rfl⟩ := List.mem_map.mp hleaf
  have hclassified := List.mem_map_of_mem (f := Except.ok (ε := ExpressionError)) hoperand
  rw [← hoperands] at hclassified
  obtain ⟨run, hrun, hclassify⟩ := List.mem_map.mp hclassified
  apply derives_leaf (Token.plain_of_mem_runs hrun) hclassify
  exact fun value hvalue => hfinite value (List.mem_filterMap.mpr ⟨run, hrun, hvalue⟩)

theorem parse_compact (h : parse expression = .ok tree)
    (hfinite : ∀ value ∈ Token.literals expression.toList, value.isFinite = true) :
    parse tree.compact = .ok tree := by
  have hderives := derives_compact (derives_leaf_of_parse h hfinite)
  have hop : ∃ c ∈ tree.compact.toList, (Operator.ofSymbol? c).isSome := by
    obtain ⟨op, left, right, rfl⟩ := exists_binary_of_parse h
    refine ⟨op.symbol, ?_, ?_⟩
    · rw [toList_compact_binary]
      simp
    · rw [Operator.ofSymbol?_symbol]
      rfl
  rw [parse_eq_assemble (.term (.factor hderives)) hop,
    assemble_postorder (depth_le_of_parse h), assemble]

def halves : Expr :=
  .binary .subtract (.binary .divide (.number 1.5) (.variable "x" none)) (.number 100)

theorem parse_compact_halves :
    parse "1.50(x)/-1e2" = .ok halves ∧ halves.compact = "((1.5/x)-100)" ∧
      parse halves.compact = .ok halves := by
  have h : parse "1.50(x)/-1e2" = .ok halves := by decide +kernel
  have hfinite : ∀ value ∈ Token.literals "1.50(x)/-1e2".toList, value.isFinite = true := by
    decide +kernel
  exact ⟨h, by decide +kernel, parse_compact h hfinite⟩

end Expr

end Worksheet
