import Worksheet.Expression.Parse
import Worksheet.Proofs.Expression.Postfix

namespace Worksheet.Expr

variable {expression : String} {tree : Expr} {stack : List (Expr × Nat)} {items : List PostfixItem}

theorem assemble_operand (node : Expr) (stack : List (Expr × Nat)) (items : List PostfixItem) :
    assemble expression stack (.operand node :: items) =
      assemble expression ((node, 0) :: stack) items := by
  rw [assemble]

theorem assemble_operator {left right : Expr} (op : Operator)
    (h : (Expr.binary op left right).depth ≤ maxDepth) (stack : List (Expr × Nat))
    (items : List PostfixItem) :
    assemble expression ((right, right.depth) :: (left, left.depth) :: stack)
        (.operator op :: items) =
      assemble expression ((.binary op left right, (Expr.binary op left right).depth) :: stack)
        items := by
  have hdepth : ¬ maxDepth < max left.depth right.depth + 1 := Nat.not_lt.mpr h
  rw [assemble, if_neg hdepth]
  rfl

theorem assemble_postorder (h : tree.depth ≤ maxDepth) (stack : List (Expr × Nat)) (items : List PostfixItem) :
    assemble expression stack (tree.postorder ++ items) =
      assemble expression ((tree, tree.depth) :: stack) items := by
  induction tree generalizing stack items with
  | number value => exact assemble_operand (.number value) stack items
  | «variable» name value => exact assemble_operand (.variable name value) stack items
  | binary op left right ihLeft ihRight =>
    have hdepth : max left.depth right.depth + 1 ≤ maxDepth := h
    rw [postorder, List.append_assoc, List.append_assoc, ihLeft (by omega), ihRight (by omega)]
    exact assemble_operator op h stack items

theorem assemble_of_maxDepth_lt (h : maxDepth < tree.depth) (stack : List (Expr × Nat))
    (items : List PostfixItem) :
    assemble expression stack (tree.postorder ++ items) = .error (.tooDeep expression maxDepth) := by
  induction tree generalizing stack items with
  | number value => exact absurd h (Nat.not_lt_zero _)
  | «variable» name value => exact absurd h (Nat.not_lt_zero _)
  | binary op left right ihLeft ihRight =>
    rw [postorder, List.append_assoc, List.append_assoc]
    by_cases hleft : left.depth ≤ maxDepth
    · rw [assemble_postorder hleft]
      by_cases hright : right.depth ≤ maxDepth
      · have hdepth : maxDepth < max left.depth right.depth + 1 := h
        rw [assemble_postorder hright, List.singleton_append, assemble, if_pos hdepth]
      · exact ihRight (Nat.not_le.mp hright) _ _
    · exact ihLeft (Nat.not_le.mp hleft) _ _

theorem parse_of_derives (h : Derives .sum expression.toList tree)
    (hop : ∃ c ∈ expression.toList, (Operator.ofSymbol? c).isSome) :
    PostfixItem.ofExpression expression = .ok tree.postorder ∧
      parse expression =
        if tree.depth ≤ maxDepth then .ok tree else .error (.tooDeep expression maxDepth) := by
  have hitems := PostfixItem.ofExpression_of_derives h hop
  refine ⟨hitems, ?_⟩
  have hparse : parse expression = assemble expression [] (tree.postorder ++ []) := by
    rw [parse, hitems, List.append_nil]
    rfl
  rw [hparse]
  split
  · rename_i hdepth
    rw [assemble_postorder hdepth, assemble]
  · rename_i hdepth
    exact assemble_of_maxDepth_lt (Nat.not_le.mp hdepth) [] []

def grouped : Expr :=
  .binary .subtract
    (.binary .subtract (.variable "a" none)
      (.binary .multiply (.variable "b" none) (.variable "c" none)))
    (.variable "d" none)

theorem parse_grouped :
    PostfixItem.ofExpression "a-(b)*c-d" = .ok grouped.postorder ∧
      parse "a-(b)*c-d" =
        if grouped.depth ≤ maxDepth then .ok grouped
        else .error (.tooDeep "a-(b)*c-d" maxDepth) := by
  have hname (c : Char) (h : c ∉ Token.delimiters)
      (hclassify : Operand.classify [c] = .ok (.variable (String.ofList [c]))) :
      Derives .factor [c] (.variable (String.ofList [c]) none) :=
    .operand (List.cons_ne_nil _ _) (by simpa using h) hclassify
  have ha := hname 'a' (by decide) rfl
  have hb := hname 'b' (by decide) rfl
  have hc := hname 'c' (by decide) rfl
  have hd := hname 'd' (by decide) rfl
  have hproduct := Derives.product (.inl rfl) (.factor (.group (.term (.factor hb)))) hc
  have hsum := Derives.sum (.inr rfl) (.sum (.inr rfl) (.term (.factor ha)) hproduct) (.factor hd)
  have htext : "a-(b)*c-d".toList = ['a', '-', '(', 'b', ')', '*', 'c', '-', 'd'] := by
    decide +kernel
  have hderives : Derives .sum "a-(b)*c-d".toList grouped := by
    rw [htext]
    exact hsum
  exact parse_of_derives hderives ⟨'-', by decide +kernel, rfl⟩

end Worksheet.Expr
