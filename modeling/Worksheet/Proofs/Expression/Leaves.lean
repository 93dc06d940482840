import Worksheet.Proofs.Expression.Fault

namespace Worksheet

namespace Operand

def isVariable (text : List Char) : Bool := classify text matches .ok (.variable _)

def name? : Operand → Option String
  | .number _ => none
  | .variable name => some name

theorem flatMap_names_map_ofOperand (operands : List Operand) :
    (operands.map Expr.ofOperand).flatMap Expr.names = operands.filterMap name? := by
  induction operands with
  | nil => rfl
  | cons operand operands ih =>
    rw [List.map_cons, List.flatMap_cons, ih]
    cases operand <;> rfl

theorem name?_of_classify {text : List Char} {leaf : Operand} (h : classify text = .ok leaf) :
    leaf.name? = if isVariable text then some (String.ofList text) else none := by
  rw [isVariable, h]
  unfold classify at h
  split at h
  · cases h
    rfl
  · split at h
    · cases h
      rfl
    · cases h

end Operand

namespace Token

def runs (text : List Char) : List (List Char) :=
  (text.splitOnP (· ∈ delimiters)).filter fun run => ! run.isEmpty

def run? : Token → Option (List Char)
  | .operand text => some text
  | _ => none

variable {text : List Char} {c : Char} {token : Token}

theorem runs_append_cons (h : c ∈ delimiters) (before after : List Char) :
    runs (before ++ c :: after) = runs before ++ runs after := by
  rw [runs, List.splitOnP_append_cons before after (by simpa using h), List.filter_append]
  rfl

theorem runs_plain (hne : text ≠ []) (h : ∀ c ∈ text, c ∉ delimiters) : runs text = [text] := by
  rw [runs, List.splitOnP_eq_singleton fun c hc => by simpa using h c hc]
  simp [hne]

theorem run?_of_ofChar? (h : ofChar? c = some token) : token.run? = none := by
  obtain ⟨hchars, hplain⟩ := chars_of_ofChar? h
  cases token with
  | operand text =>
    obtain rfl : text = [c] := hchars
    have hc := (hplain _ rfl).2 c (List.mem_singleton_self c)
    rw [ofChar?_of_not_mem_delimiters hc] at h
    cases h
  | operator | opening | closing => rfl

theorem operator?_of_ofChar? (h : ofChar? c = some token) :
    token.operator? = Operator.ofSymbol? c := by
  unfold ofChar? at h
  split at h
  · cases h
    rfl
  · cases h
    rfl
  · obtain ⟨op, hop, rfl⟩ := Option.map_eq_some_iff.mp h
    exact hop.symm

theorem ofSymbol?_of_ofChar?_none (h : ofChar? c = none) : Operator.ofSymbol? c = none := by
  unfold ofChar? at h
  split at h
  · cases h
  · cases h
  · exact Option.map_eq_none_iff.mp h

theorem filterMap_run?_scan (text : List Char) : (scan text).filterMap run? = runs text := by
  induction hlength : text.length using Nat.strong_induction_on generalizing text with
  | _ length ih =>
    by_cases hplain : ∀ c ∈ text, c ∉ delimiters
    · by_cases hne : text = []
      · subst hne
        rfl
      · rw [scan_plain hne hplain, runs_plain hne hplain]
        rfl
    · -- Whatever stands around a delimiter is scanned by itself.
      simp only [not_forall, not_not] at hplain
      obtain ⟨c, hc, hdelimiter⟩ := hplain
      obtain ⟨before, after, rfl⟩ := List.append_of_mem hc
      obtain ⟨token, htoken⟩ := exists_ofChar?_of_mem_delimiters hdelimiter
      rw [List.length_append, List.length_cons] at hlength
      rw [scan_append_cons htoken, runs_append_cons hdelimiter, List.filterMap_append,
        List.filterMap_cons_none (run?_of_ofChar? htoken), ih before.length (by omega) before rfl,
        ih after.length (by omega) after rfl]

theorem filterMap_operator?_scanChar (c : Char) (tokens : List Token) :
    (scanChar c tokens).filterMap operator? =
      (Operator.ofSymbol? c).toList ++ tokens.filterMap operator? := by
  unfold scanChar
  split
  · rename_i token hchar
    rw [← operator?_of_ofChar? hchar]
    cases hop : token.operator? <;> simp [hop]
  · rename_i hchar
    rw [ofSymbol?_of_ofChar?_none hchar]
    rfl
  · rename_i hchar _
    rw [ofSymbol?_of_ofChar?_none hchar]
    rfl

theorem filterMap_operator?_scan (text : List Char) :
    (scan text).filterMap operator? = text.filterMap Operator.ofSymbol? := by
  induction text with
  | nil => rfl
  | cons c text ih =>
    rw [scan, List.foldr_cons, ← scan, filterMap_operator?_scanChar, ih]
    cases hop : Operator.ofSymbol? c <;> simp [hop]

end Token

namespace PostfixItem

variable {expression : String} {state next : State} {tokens : List Token}
  {result : List PostfixItem}

theorem map_classify_of_run (h : run expression tokens state = .ok next) :
    (tokens.filterMap Token.run?).map Operand.classify =
      (tokens.filterMap Token.operand?).map .ok := by
  induction tokens generalizing state with
  | nil => rfl
  | cons token tokens ih =>
    obtain ⟨middle, hstep, hrest⟩ := exists_of_run_cons h
    cases token with
    | operand text =>
      obtain ⟨leaf, hleaf, -⟩ := step_operand hstep
      have hoperand : Token.operand? (.operand text) = some leaf := by
        rw [Token.operand?, hleaf]
        rfl
      have htext : Token.run? (.operand text) = some text := rfl
      rw [List.filterMap_cons_some htext, List.filterMap_cons_some hoperand, List.map_cons,
        List.map_cons, hleaf, ih hrest]
    | operator | opening | closing => exact ih hrest

theorem exists_operands_of_ofExpression (h : ofExpression expression = .ok result) :
    ∃ operands : List Operand, result.filterMap operand? = operands.map Expr.ofOperand ∧
      (Token.runs expression.toList).map Operand.classify = operands.map .ok := by
  obtain ⟨-, state, hrun, -⟩ := exists_of_ofExpression h
  refine ⟨_, operands_ofExpression h, ?_⟩
  rw [← Token.filterMap_run?_scan, map_classify_of_run hrun]

end PostfixItem

namespace Expr

open PostfixItem (operand? operator?)

variable {expression : String} {tree : Expr}

def leaves : Expr → List Expr
  | .number value => [.number value]
  | .variable name value => [.variable name value]
  | .binary _ left right => left.leaves ++ right.leaves

def operators : Expr → List Operator
  | .number _ | .variable _ _ => []
  | .binary op left right => left.operators ++ op :: right.operators

theorem leaves_eq_filterMap_operand? (tree : Expr) :
    tree.leaves = tree.postorder.filterMap operand? := by
  induction tree with
  | number | «variable» => rfl
  | binary op left right ihLeft ihRight => rw [leaves, ihLeft, ihRight, operands_binary]

theorem operators_perm (tree : Expr) :
    tree.operators.Perm (tree.postorder.filterMap operator?) := by
  induction tree with
  | number | «variable» => exact .refl _
  | binary op left right ihLeft ihRight =>
    rw [operators, operators_binary]
    apply List.perm_middle.trans
    exact ((ihLeft.append ihRight).cons op).trans (List.perm_append_singleton op _).symm

theorem names_eq_flatMap_leaves (tree : Expr) : tree.names = tree.leaves.flatMap names := by
  induction tree with
  | number | «variable» => rfl
  | binary op left right ihLeft ihRight =>
    rw [names, leaves, List.flatMap_append, ← ihLeft, ← ihRight]

theorem exists_operands_of_parse (h : parse expression = .ok tree) :
    ∃ operands : List Operand, tree.leaves = operands.map ofOperand ∧
      (Token.runs expression.toList).map Operand.classify = operands.map .ok := by
  rw [leaves_eq_filterMap_operand?]
  exact PostfixItem.exists_operands_of_ofExpression (ofExpression_of_parse h)

end Expr

namespace Operand

theorem filterMap_name?_of_map_classify {texts : List (List Char)} {operands : List Operand}
    (h : texts.map classify = operands.map .ok) :
    operands.filterMap name? = (texts.filter isVariable).map String.ofList := by
  induction texts generalizing operands with
  | nil =>
    obtain rfl : operands = [] := by simpa [eq_comm] using h
    rfl
  | cons text texts ih =>
    cases operands with
    | nil => simp at h
    | cons leaf operands =>
      obtain ⟨hleaf, hrest⟩ := List.cons.inj h
      have hname := name?_of_classify hleaf
      by_cases hvariable : isVariable text
      · rw [if_pos hvariable] at hname
        rw [List.filterMap_cons_some hname, List.filter_cons_of_pos hvariable, List.map_cons,
          ih hrest]
      · rw [if_neg hvariable] at hname
        rw [List.filterMap_cons_none hname, List.filter_cons_of_neg hvariable, ih hrest]

end Operand

namespace Formula

variable {expression : String} {formula : Formula}

structure Keeps (expression : String) (formula : Formula) : Prop where
  leaves : (Token.runs expression.toList).map (fun run => (Operand.classify run).map Expr.ofOperand) =
    formula.root.leaves.map .ok
  operators : formula.root.operators.Perm (expression.toList.filterMap Operator.ofSymbol?)
  names : formula.names =
    (((Token.runs expression.toList).filter Operand.isVariable).map String.ofList).eraseDups

theorem exists_of_parse (h : parse expression = .ok formula) :
    ∃ tree, Expr.parse expression = .ok tree ∧ formula = ofExpr tree := by
  unfold parse at h
  cases htree : Expr.parse expression with
  | error cause =>
    rw [htree] at h
    cases h
  | ok tree =>
    rw [htree] at h
    cases h
    exact ⟨tree, rfl, rfl⟩

theorem keeps_of_parse (h : parse expression = .ok formula) : Keeps expression formula := by
  obtain ⟨tree, htree, rfl⟩ := exists_of_parse h
  have hitems := Expr.ofExpression_of_parse htree
  obtain ⟨operands, hleaves, hclassify⟩ := Expr.exists_operands_of_parse htree
  constructor
  · have hruns := congrArg (List.map (Except.map Expr.ofOperand)) hclassify
    rw [List.map_map, List.map_map] at hruns
    rw [ofExpr, hleaves, List.map_map]
    exact hruns
  · apply (Expr.operators_perm tree).trans
    rw [← Token.filterMap_operator?_scan]
    exact PostfixItem.operators_ofExpression hitems
  · rw [names_ofExpr, Expr.names_eq_flatMap_leaves, hleaves, Operand.flatMap_names_map_ofOperand,
      Operand.filterMap_name?_of_map_classify hclassify]

def interleaved : Formula :=
  .ofExpr (.binary .subtract (.variable "b" none)
    (.binary .multiply (.variable "a" none) (.variable "b" none)))

theorem keeps_interleaved :
    parse "b(a)-*b" = .ok interleaved ∧ Keeps "b(a)-*b" interleaved := by
  have h : parse "b(a)-*b" = .ok interleaved := by decide +kernel
  exact ⟨h, keeps_of_parse h⟩

end Formula

end Worksheet
