import Worksheet.Proofs.Expression.Binding
import Worksheet.Proofs.Expression.Postfix

namespace Worksheet

theorem bind_eq_ok_iff {ε α β : Type} {x : Except ε α} {f : α → Except ε β} {result : β} :
    (x >>= f) = .ok result ↔ ∃ middle, x = .ok middle ∧ f middle = .ok result := by
  cases x with
  | error cause => simp [Bind.bind, Except.bind]
  | ok middle => simp [Bind.bind, Except.bind]

namespace Token

def operand? : Token → Option Operand
  | .operand text => (Operand.classify text).toOption
  | _ => none

def operator? : Token → Option Operator
  | .operator op => some op
  | _ => none

end Token

namespace PostfixItem

def operand? : PostfixItem → Option Expr
  | .operand node => some node
  | .operator _ => none

def operator? : PostfixItem → Option Operator
  | .operand _ => none
  | .operator op => some op

def Pending.operator? : Pending → Option Operator
  | .opening => none
  | .operator op => some op

namespace State

def operands (state : State) : List Expr := state.items.reverse.filterMap operand?

def operators (state : State) : List Operator :=
  state.items.filterMap operator? ++ state.pending.filterMap Pending.operator?

end State

variable {expression : String} {pending : List Pending} {items result : List PostfixItem}
  {state next closed : State} {token : Token} {tokens : List Token}

theorem operands_shift (top : Operator) (pending : List Pending) (items : List PostfixItem) :
    (State.mk pending (.operator top :: items)).operands =
      (State.mk (.operator top :: pending) items).operands := by
  simp [State.operands, operand?]

theorem operators_shift (top : Operator) (pending : List Pending) (items : List PostfixItem) :
    (State.mk pending (.operator top :: items)).operators.Perm
      (State.mk (.operator top :: pending) items).operators :=
  List.perm_middle.symm

theorem operands_release (op : Operator) (pending : List Pending) (items : List PostfixItem) :
    (release op pending items).operands = (State.mk pending items).operands := by
  fun_induction release op pending items with
  | case1 top pending items happlied ih => exact ih.trans (operands_shift _ _ _)
  | case2 => rfl
  | case3 => rfl

theorem operators_release (op : Operator) (pending : List Pending) (items : List PostfixItem) :
    (release op pending items).operators.Perm (State.mk pending items).operators := by
  fun_induction release op pending items with
  | case1 top pending items happlied ih => exact ih.trans (operators_shift _ _ _)
  | case2 => exact .refl _
  | case3 => exact .refl _

theorem operands_close? (h : close? pending items = some closed) :
    closed.operands = (State.mk pending items).operands := by
  fun_induction close? pending items with
  | case1 => simp at h
  | case2 pending items =>
    obtain rfl := Option.some.inj h
    rfl
  | case3 top pending items ih => exact (ih h).trans (operands_shift _ _ _)

theorem operators_close? (h : close? pending items = some closed) :
    closed.operators.Perm (State.mk pending items).operators := by
  fun_induction close? pending items with
  | case1 => simp at h
  | case2 pending items =>
    obtain rfl := Option.some.inj h
    exact .refl _
  | case3 top pending items ih => exact (ih h).trans (operators_shift _ _ _)

theorem step_operand {text : List Char} (h : step expression state (.operand text) = .ok next) :
    ∃ leaf, Operand.classify text = .ok leaf ∧
      next = ⟨state.pending, .operand (.ofOperand leaf) :: state.items⟩ := by
  obtain ⟨leaf, hleaf, hnext⟩ := bind_eq_ok_iff.mp h
  exact ⟨leaf, hleaf, (Except.ok.inj hnext).symm⟩

theorem step_closing (h : step expression state .closing = .ok next) :
    close? state.pending state.items = some next := by
  rw [step] at h
  cases hclose : close? state.pending state.items with
  | none => simp [hclose] at h
  | some closed =>
    rw [hclose] at h
    exact congrArg some (Except.ok.inj h)

theorem operands_step (h : step expression state token = .ok next) :
    next.operands = state.operands ++ (token.operand?.map Expr.ofOperand).toList := by
  cases token with
  | operand text =>
    obtain ⟨leaf, hleaf, rfl⟩ := step_operand h
    simp [Token.operand?, hleaf, Except.toOption, State.operands, operand?]
  | operator op =>
    obtain rfl := Except.ok.inj h
    apply (operands_release op state.pending state.items).trans
    exact (List.append_nil _).symm
  | opening =>
    obtain rfl := Except.ok.inj h
    exact (List.append_nil _).symm
  | closing =>
    apply (operands_close? (step_closing h)).trans
    exact (List.append_nil _).symm

theorem operators_step (h : step expression state token = .ok next) :
    next.operators.Perm (token.operator?.toList ++ state.operators) := by
  cases token with
  | operand text =>
    obtain ⟨leaf, hleaf, rfl⟩ := step_operand h
    exact .refl _
  | operator op =>
    obtain rfl := Except.ok.inj h
    exact List.perm_middle.trans ((operators_release op state.pending state.items).cons op)
  | opening =>
    obtain rfl := Except.ok.inj h
    exact .refl _
  | closing => exact operators_close? (step_closing h)

theorem exists_of_run_cons (h : run expression (token :: tokens) state = .ok next) :
    ∃ middle, step expression state token = .ok middle ∧
      run expression tokens middle = .ok next := by
  rw [run, List.foldlM_cons] at h
  exact bind_eq_ok_iff.mp h

theorem operands_run (h : run expression tokens state = .ok next) :
    next.operands = state.operands ++ (tokens.filterMap Token.operand?).map Expr.ofOperand := by
  induction tokens generalizing state with
  | nil =>
    obtain rfl := Except.ok.inj h
    exact (List.append_nil _).symm
  | cons token tokens ih =>
    obtain ⟨middle, hstep, hrest⟩ := exists_of_run_cons h
    rw [ih hrest, operands_step hstep, List.append_assoc]
    cases htoken : token.operand? <;> simp [htoken]

theorem operators_run (h : run expression tokens state = .ok next) :
    next.operators.Perm (tokens.filterMap Token.operator? ++ state.operators) := by
  induction tokens generalizing state with
  | nil =>
    obtain rfl := Except.ok.inj h
    exact .refl _
  | cons token tokens ih =>
    obtain ⟨middle, hstep, hrest⟩ := exists_of_run_cons h
    have hmiddle := (operators_step hstep).append_left (tokens.filterMap Token.operator?)
    apply ((ih hrest).trans hmiddle).trans
    cases htoken : token.operator? with
    | none => simp [htoken]
    | some op => simp [htoken]

theorem operands_finish (h : finish expression pending items = .ok result) :
    result.filterMap operand? = (State.mk pending items).operands := by
  fun_induction finish expression pending items with
  | case1 items =>
    obtain rfl := Except.ok.inj h
    rfl
  | case2 => simp at h
  | case3 items top pending ih => exact (ih h).trans (operands_shift _ _ _)

theorem operators_finish (h : finish expression pending items = .ok result) :
    (result.filterMap operator?).Perm (State.mk pending items).operators := by
  fun_induction finish expression pending items with
  | case1 items =>
    obtain rfl := Except.ok.inj h
    simp [State.operators]
  | case2 => simp at h
  | case3 items top pending ih => exact (ih h).trans (operators_shift _ _ _)

theorem exists_of_ofExpression (h : ofExpression expression = .ok result) :
    (∃ c ∈ expression.toList, (Operator.ofSymbol? c).isSome) ∧
      ∃ state, run expression (Token.scan expression.toList) ⟨[], []⟩ = .ok state ∧
        finish expression state.pending state.items = .ok result := by
  unfold ofExpression at h
  simp only at h
  split at h
  · rename_i hop
    rw [Token.any_isOperator_scan, List.any_eq_true] at hop
    exact ⟨hop, bind_eq_ok_iff.mp h⟩
  · simp at h

theorem operands_ofExpression (h : ofExpression expression = .ok result) :
    result.filterMap operand? =
      ((Token.scan expression.toList).filterMap Token.operand?).map Expr.ofOperand := by
  obtain ⟨-, state, hrun, hfinish⟩ := exists_of_ofExpression h
  rw [operands_finish hfinish]
  exact operands_run hrun

theorem exists_operand_of_mem (h : ofExpression expression = .ok result) {node : Expr}
    (hnode : .operand node ∈ result) : ∃ operand, node = .ofOperand operand := by
  have hmem : node ∈ result.filterMap operand? := List.mem_filterMap.mpr ⟨_, hnode, rfl⟩
  rw [operands_ofExpression h] at hmem
  obtain ⟨operand, -, rfl⟩ := List.mem_map.mp hmem
  exact ⟨operand, rfl⟩

theorem ofLeaves_ofExpression (h : ofExpression expression = .ok result) : OfLeaves result := by
  intro node hnode
  obtain ⟨operand, rfl⟩ := exists_operand_of_mem h hnode
  exact Expr.isLeaf_ofOperand operand

theorem operators_ofExpression (h : ofExpression expression = .ok result) :
    (result.filterMap operator?).Perm
      ((Token.scan expression.toList).filterMap Token.operator?) := by
  obtain ⟨-, state, hrun, hfinish⟩ := exists_of_ofExpression h
  apply (operators_finish hfinish).trans
  simpa [State.operators] using operators_run hrun

end PostfixItem

namespace Expr

open PostfixItem (operand? operator?)

variable {expression : String} {stack : List (Expr × Nat)} {items : List PostfixItem} {root : Expr}

theorem postorder_of_assemble (hleaves : PostfixItem.OfLeaves items)
    (h : assemble expression stack items = .ok root) :
    (stack.reverse.flatMap fun entry => entry.1.postorder) ++ items = root.postorder := by
  fun_induction assemble expression stack items with
  | case1 tree depth =>
    obtain rfl := Except.ok.inj h
    simp
  | case2 => simp at h
  | case3 stack node items ih =>
    rw [← ih hleaves.tail h]
    simp [postorder_of_isLeaf hleaves.head]
  | case4 => simp at h
  | case5 right j left i stack op items hdepth ih =>
    rw [← ih hleaves.tail h]
    simp [postorder]
  | case6 => simp at h

theorem ofExpression_of_parse (h : parse expression = .ok root) :
    PostfixItem.ofExpression expression = .ok root.postorder := by
  obtain ⟨items, hitems, hroot⟩ := bind_eq_ok_iff.mp h
  rw [hitems]
  exact congrArg Except.ok
    (postorder_of_assemble (PostfixItem.ofLeaves_ofExpression hitems) hroot)

theorem unbound_of_postorder (h : ∀ node, .operand node ∈ root.postorder → node.Unbound) :
    root.Unbound := by
  induction root with
  | number value => trivial
  | «variable» name value => exact h _ (List.mem_singleton_self _)
  | binary op left right ihLeft ihRight =>
    constructor
    · exact ihLeft fun node hnode => h node (by simp [postorder, hnode])
    · exact ihRight fun node hnode => h node (by simp [postorder, hnode])

theorem unbound_of_parse (h : parse expression = .ok root) : root.Unbound := by
  apply unbound_of_postorder
  intro node hnode
  obtain ⟨operand, rfl⟩ := PostfixItem.exists_operand_of_mem (ofExpression_of_parse h) hnode
  exact unbound_ofOperand operand

theorem depth_le_of_assemble (hleaves : PostfixItem.OfLeaves items)
    (hstack : ∀ entry ∈ stack, entry.2 = entry.1.depth ∧ entry.1.depth ≤ maxDepth)
    (h : assemble expression stack items = .ok root) : root.depth ≤ maxDepth := by
  fun_induction assemble expression stack items with
  | case1 tree depth =>
    obtain rfl := Except.ok.inj h
    exact (hstack _ List.mem_cons_self).2
  | case2 => simp at h
  | case3 stack node items ih =>
    have hleaf := depth_of_isLeaf hleaves.head
    refine ih hleaves.tail (List.forall_mem_cons.mpr ⟨⟨hleaf.symm, ?_⟩, hstack⟩) h
    exact Nat.le_trans (Nat.le_of_eq hleaf) (Nat.zero_le _)
  | case4 => simp at h
  | case5 right j left i stack op items hdepth ih =>
    obtain ⟨⟨hright, -⟩, ⟨hleft, -⟩, hrest⟩ := by
      simpa only [List.forall_mem_cons] using hstack
    obtain rfl : j = right.depth := hright
    obtain rfl : i = left.depth := hleft
    exact ih hleaves.tail (List.forall_mem_cons.mpr ⟨⟨rfl, Nat.not_lt.mp hdepth⟩, hrest⟩) h
  | case6 => simp at h

theorem depth_le_of_parse (h : parse expression = .ok root) : root.depth ≤ maxDepth := by
  obtain ⟨items, hitems, hassemble⟩ := bind_eq_ok_iff.mp h
  exact depth_le_of_assemble (PostfixItem.ofLeaves_ofExpression hitems) (List.forall_mem_nil _) hassemble

theorem operands_binary (op : Operator) (left right : Expr) :
    (Expr.binary op left right).postorder.filterMap operand? =
      left.postorder.filterMap operand? ++ right.postorder.filterMap operand? := by
  rw [postorder, List.filterMap_append, List.filterMap_append]
  exact List.append_nil _

theorem operators_binary (op : Operator) (left right : Expr) :
    (Expr.binary op left right).postorder.filterMap operator? =
      left.postorder.filterMap operator? ++ right.postorder.filterMap operator? ++ [op] := by
  rw [postorder, List.filterMap_append, List.filterMap_append]
  rfl

theorem length_operands_postorder (tree : Expr) :
    (tree.postorder.filterMap operand?).length =
      (tree.postorder.filterMap operator?).length + 1 := by
  induction tree with
  | number | «variable» => rfl
  | binary op left right ihLeft ihRight =>
    simp only [operands_binary, operators_binary, List.length_append, ihLeft, ihRight,
      List.length_singleton]
    omega

end Expr

end Worksheet
