import Worksheet.Proofs.Expression.Grammar

namespace Worksheet

theorem Operator.isAppliedBefore_iff {top incoming : Operator} :
    top.isAppliedBefore incoming = true ↔ incoming.precedence ≤ top.precedence := by
  have hleft : (incoming.associativity == .left) = true := rfl
  simp only [isAppliedBefore, hleft, Bool.and_true, Bool.or_eq_true, decide_eq_true_eq, beq_iff_eq]
  omega

namespace PostfixItem

open Worksheet.Expr (Level Derives)

variable {expression : String} {pending : List Pending} {items : List PostfixItem} {op : Operator}
  {waiting : List Operator}

def drain (waiting : List Operator) (items : List PostfixItem) : List PostfixItem :=
  waiting.foldl (fun items op => .operator op :: items) items

theorem drain_concat (waiting : List Operator) (op : Operator) (items : List PostfixItem) :
    drain (waiting ++ [op]) items = .operator op :: drain waiting items := by
  rw [drain, List.foldl_append]
  rfl

/-- The loosest operator that a part of the text may leave waiting. -/
def bound : Level → Nat
  | .sum => 12
  | .term => 13
  | .factor => 14

/-- An operator in front of a part of the text binds looser than all of the part. -/
def Fenced (level : Level) (pending : List Pending) : Prop :=
  ∀ top, pending.head? = some (.operator top) → top.precedence < bound level

theorem fenced_opening (level : Level) (pending : List Pending) :
    Fenced level (.opening :: pending) := by
  intro top htop
  simp at htop

theorem Fenced.mono {level tighter : Level} (h : Fenced level pending)
    (hle : bound level ≤ bound tighter) : Fenced tighter pending :=
  fun top htop => Nat.lt_of_lt_of_le (h top htop) hle

theorem release_of_fenced (h : ∀ top, pending.head? = some (.operator top) →
    top.precedence < op.precedence) (items : List PostfixItem) :
    release op pending items = ⟨pending, items⟩ := by
  match pending with
  | [] => rfl
  | .opening :: _ => rfl
  | .operator top :: _ =>
    have hlt := h top rfl
    rw [release, if_neg]
    rw [Operator.isAppliedBefore_iff]
    omega

theorem release_waiting (hwaiting : ∀ top ∈ waiting, op.precedence ≤ top.precedence)
    (hpending : ∀ top, pending.head? = some (.operator top) → top.precedence < op.precedence)
    (items : List PostfixItem) :
    release op (waiting.map .operator ++ pending) items = ⟨pending, drain waiting items⟩ := by
  induction waiting generalizing items with
  | nil => exact release_of_fenced hpending items
  | cons top waiting ih =>
    have happlied : top.isAppliedBefore op = true :=
      Operator.isAppliedBefore_iff.mpr (hwaiting top List.mem_cons_self)
    rw [List.map_cons, List.cons_append, release, if_pos happlied]
    exact ih (fun other hother => hwaiting other (List.mem_cons_of_mem _ hother)) _

theorem close?_waiting (waiting : List Operator) (pending : List Pending)
    (items : List PostfixItem) :
    close? (waiting.map .operator ++ .opening :: pending) items =
      some ⟨pending, drain waiting items⟩ := by
  induction waiting generalizing items with
  | nil => rfl
  | cons top waiting ih => exact ih _

theorem finish_waiting (expression : String) (waiting : List Operator)
    (items : List PostfixItem) :
    finish expression (waiting.map .operator) items = .ok (drain waiting items).reverse := by
  induction waiting generalizing items with
  | nil => rfl
  | cons top waiting ih => exact ih _

def run (expression : String) (tokens : List Token) (state : State) :
    Except ExpressionError State :=
  tokens.foldlM (step expression) state

theorem run_append {before : List Token} {state middle : State}
    (h : run expression before state = .ok middle) (after : List Token) :
    run expression (before ++ after) state = run expression after middle := by
  rw [run, List.foldlM_append, ← run, h]
  rfl

theorem run_cons {token : Token} {state middle : State}
    (h : step expression state token = .ok middle) (tokens : List Token) :
    run expression (token :: tokens) state = run expression tokens middle := by
  rw [run, List.foldlM_cons, h]
  rfl

/-- From any state the tokens lead to one that lacks only the waiting operators. -/
def Leaves (level : Level) (tokens : List Token) (tree : Expr) : Prop :=
  ∀ (expression : String) (pending : List Pending) (items : List PostfixItem),
    Fenced level pending → ∃ (waiting : List Operator) (left : List PostfixItem),
      run expression tokens ⟨pending, items⟩ =
        .ok ⟨waiting.map .operator ++ pending, left⟩ ∧
      (∀ top ∈ waiting, bound level ≤ top.precedence) ∧
      drain waiting left = tree.postorder.reverse ++ items

theorem Leaves.loosen {level tighter : Level} {tokens : List Token} {tree : Expr}
    (h : Leaves tighter tokens tree) (hle : bound level ≤ bound tighter) :
    Leaves level tokens tree := by
  intro expression pending items hfenced
  obtain ⟨waiting, left, hrun, hbound, hdrain⟩ := h expression pending items (hfenced.mono hle)
  exact ⟨waiting, left, hrun, fun top htop => Nat.le_trans hle (hbound top htop), hdrain⟩

theorem leaves_operand {text : List Char} {operand : Operand}
    (h : Operand.classify text = .ok operand) :
    Leaves .factor [.operand text] (.ofOperand operand) := by
  intro expression pending items _
  refine ⟨[], .operand (.ofOperand operand) :: items, ?_, by simp, ?_⟩
  · refine run_cons ?_ []
    rw [step, h]
    rfl
  · rw [Expr.postorder_ofOperand]
    rfl

theorem leaves_group {tokens : List Token} {tree : Expr} (h : Leaves .sum tokens tree) :
    Leaves .factor (.opening :: (tokens ++ [.closing])) tree := by
  intro expression pending items _
  obtain ⟨waiting, left, hrun, -, hdrain⟩ :=
    h expression (.opening :: pending) items (fenced_opening _ _)
  refine ⟨[], drain waiting left, ?_, by simp, hdrain⟩
  have hopening : step expression ⟨pending, items⟩ .opening = .ok ⟨.opening :: pending, items⟩ := rfl
  rw [run_cons hopening, run_append hrun]
  refine run_cons ?_ []
  rw [step, close?_waiting]
  rfl

theorem leaves_binary {level tighter : Level} {before after : List Token} {left right : Expr}
    (hlevel : bound level = op.precedence) (htighter : op.precedence < bound tighter)
    (hleft : Leaves level before left) (hright : Leaves tighter after right) :
    Leaves level (before ++ .operator op :: after) (.binary op left right) := by
  intro expression pending items hfenced
  obtain ⟨waiting, middle, hbefore, hwaiting, hmiddle⟩ := hleft expression pending items hfenced
  have hfence : Fenced tighter (.operator op :: pending) := by
    intro top htop
    obtain rfl : op = top := by simpa using htop
    exact htighter
  obtain ⟨later, last, hafter, hlater, hlast⟩ :=
    hright expression (.operator op :: pending) (left.postorder.reverse ++ items) hfence
  refine ⟨later ++ [op], last, ?_, ?_, ?_⟩
  · have hstep : step expression ⟨waiting.map .operator ++ pending, middle⟩ (.operator op) =
        .ok ⟨.operator op :: pending, left.postorder.reverse ++ items⟩ := by
      rw [step, release_waiting (hlevel ▸ hwaiting) (hlevel ▸ hfenced), hmiddle]
    rw [run_append hbefore, run_cons hstep, hafter, List.map_append, List.append_assoc]
    rfl
  · intro top htop
    rcases List.mem_append.mp htop with htop | htop
    · have := hlater top htop
      omega
    · obtain rfl := List.mem_singleton.mp htop
      exact Nat.le_of_eq hlevel
  · rw [drain_concat, hlast]
    simp [Expr.postorder]

theorem leaves_of_derives {level : Level} {text : List Char} {tree : Expr}
    (h : Derives level text tree) : Leaves level (Token.scan text) tree := by
  induction h with
  | operand hne hplain hclassify =>
    rw [Token.scan_plain hne hplain]
    exact leaves_operand hclassify
  | group h ih =>
    rw [Token.scan_group]
    exact leaves_group ih
  | factor h ih => exact ih.loosen (by decide)
  | product hop hleft hright ihLeft ihRight =>
    rw [Token.scan_append_cons (Token.ofChar?_symbol _)]
    apply leaves_binary _ _ ihLeft ihRight
    · rcases hop with rfl | rfl <;> rfl
    · rcases hop with rfl | rfl <;> decide
  | term h ih => exact ih.loosen (by decide)
  | sum hop hleft hright ihLeft ihRight =>
    rw [Token.scan_append_cons (Token.ofChar?_symbol _)]
    apply leaves_binary _ _ ihLeft ihRight
    · rcases hop with rfl | rfl <;> rfl
    · rcases hop with rfl | rfl <;> decide

theorem ofExpression_of_derives {tree : Expr} (h : Derives .sum expression.toList tree)
    (hop : ∃ c ∈ expression.toList, (Operator.ofSymbol? c).isSome) :
    ofExpression expression = .ok tree.postorder := by
  obtain ⟨waiting, left, hrun, -, hdrain⟩ :=
    leaves_of_derives h expression [] [] (by simp [Fenced])
  have hany : (Token.scan expression.toList).any Token.isOperator = true := by
    rw [Token.any_isOperator_scan]
    exact List.any_eq_true.mpr hop
  rw [run, List.append_nil] at hrun
  rw [ofExpression, if_pos hany, ofTokens, hrun]
  change finish expression (waiting.map .operator) left = _
  rw [finish_waiting, hdrain, List.append_nil, List.reverse_reverse]

end PostfixItem

end Worksheet
