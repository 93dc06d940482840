import Mathlib.Data.List.DropRight
import Worksheet.Proofs.Expression.Acceptance

/-!
The first fault of a text. Reading from the left, a run of plain characters that is no operand is
met where it ends, and a closing parenthesis too many where it stands; an opening one too many shows
only at the end. The operators that wait between the parentheses make no difference to this.
-/

namespace Worksheet

theorem Operand.eq_invalidName_of_classify {text : List Char} {cause : ExpressionError}
    (h : classify text = .error cause) : cause = .invalidName (String.ofList text) := by
  unfold classify at h
  split at h
  · cases h
  · split at h <;> cases h
    rfl

namespace Token

def lastRun (text : List Char) : List Char := text.rtakeWhile (· ∉ delimiters)

variable {text : List Char} {c : Char}

theorem not_mem_delimiters_of_mem_lastRun (h : c ∈ lastRun text) : c ∉ delimiters := by
  simpa using List.mem_rtakeWhile_imp h

theorem lastRun_concat_plain (h : c ∉ delimiters) (text : List Char) :
    lastRun (text ++ [c]) = lastRun text ++ [c] :=
  List.rtakeWhile_concat_pos _ _ _ (by simpa using h)

theorem lastRun_concat_delimiter (h : c ∈ delimiters) (text : List Char) :
    lastRun (text ++ [c]) = [] :=
  List.rtakeWhile_concat_neg _ _ _ (by simpa using h)

theorem exists_ofChar?_of_mem_delimiters (h : c ∈ delimiters) : ∃ token, ofChar? c = some token :=
  Option.ne_none_iff_exists'.mp fun hnone => not_mem_delimiters_of_ofChar? hnone h

theorem scan_lastRun (text : List Char) :
    scan (lastRun text) = if lastRun text = [] then [] else [.operand (lastRun text)] := by
  split
  · rename_i hempty
    rw [hempty]
    rfl
  · rename_i hne
    exact scan_plain hne fun _ => not_mem_delimiters_of_mem_lastRun

end Token

namespace PostfixItem

open Token (lastRun delimiters)

def rejected? (text : List Char) : Option ExpressionError :=
  match Operand.classify (lastRun text) with
  | .ok _ => none
  | .error _ =>
    if lastRun text = [] then none else some (.invalidName (String.ofList (lastRun text)))

def excess? (expression : String) (before : List Char) (c : Char) : Option ExpressionError :=
  if c = ')' ∧ (before ++ [c]).count '(' < (before ++ [c]).count ')' then
    some (.unbalanced expression .closing)
  else none

/-- What is met between `before` and `after`: a run is not met before it ends. -/
def faultAt? (expression : String) (before after : List Char) : Option ExpressionError :=
  match after with
  | [] => rejected? before
  | c :: _ => if c ∈ delimiters then (rejected? before).or (excess? expression before c) else none

def firstFault? (expression : String) : Option ExpressionError :=
  (List.range (expression.toList.length + 1)).findSome? fun i =>
    faultAt? expression (expression.toList.take i) (expression.toList.drop i)

/-- The error for a text, said without any stack. -/
def lexicalError? (expression : String) : Option ExpressionError :=
  if expression.toList.any fun c => (Operator.ofSymbol? c).isSome then
    (firstFault? expression).or
      (if expression.toList.count ')' < expression.toList.count '(' then
        some (.unbalanced expression .opening)
      else none)
  else some (.noOperator expression)

def faultFrom? (expression : String) (before : List Char) : List Char → Option ExpressionError
  | [] => faultAt? expression before []
  | c :: after =>
    (faultAt? expression before (c :: after)).or (faultFrom? expression (before ++ [c]) after)

variable {expression : String} {pending : List Pending} {items : List PostfixItem}
  {state closed : State} {before after : List Char} {c : Char} {token : Token}

theorem findSome?_faultAt? (expression : String) (before after : List Char) :
    ((List.range (after.length + 1)).findSome? fun i =>
      faultAt? expression (before ++ after.take i) (after.drop i)) =
        faultFrom? expression before after := by
  induction after generalizing before with
  | nil => simp [faultFrom?]
  | cons c after ih =>
    have hrest := ih (before ++ [c])
    simp only [List.append_assoc, List.singleton_append] at hrest
    rw [List.length_cons, List.range_succ_eq_map, List.findSome?_cons, List.findSome?_map,
      faultFrom?, ← hrest]
    simp only [Function.comp_def, List.take_zero, List.append_nil, List.drop_zero,
      List.take_succ_cons, List.drop_succ_cons]
    cases faultAt? expression before (c :: after) <;> rfl

theorem firstFault?_eq (expression : String) :
    firstFault? expression = faultFrom? expression [] expression.toList :=
  findSome?_faultAt? expression [] expression.toList

theorem count_release (op : Operator) (pending : List Pending) (items : List PostfixItem) :
    (release op pending items).pending.count .opening = pending.count .opening := by
  fun_induction release op pending items with
  | case1 top pending items happlied ih => simpa using ih
  | case2 => rfl
  | case3 => rfl

theorem close?_eq_none_iff : close? pending items = none ↔ pending.count .opening = 0 := by
  fun_induction close? pending items with
  | case1 => simp
  | case2 => simp
  | case3 top pending items ih => simpa using ih

theorem count_close? (h : close? pending items = some closed) :
    pending.count .opening = closed.pending.count .opening + 1 := by
  fun_induction close? pending items with
  | case1 => simp at h
  | case2 pending items =>
    obtain rfl := Option.some.inj h
    simp
  | case3 top pending items ih => simpa using ih h

theorem finish_of_unclosed (h : 0 < pending.count .opening) (items : List PostfixItem) :
    finish expression pending items = .error (.unbalanced expression .opening) := by
  fun_induction finish expression pending items with
  | case1 => simp at h
  | case2 => rfl
  | case3 items top pending ih => exact ih (by simpa using h)

theorem exists_finish_of_closed (h : pending.count .opening = 0) (expression : String)
    (items : List PostfixItem) : ∃ result, finish expression pending items = .ok result := by
  fun_induction finish expression pending items with
  | case1 => exact ⟨_, rfl⟩
  | case2 => simp at h
  | case3 items top pending ih => exact ih (by simpa using h)

def Nested (text : List Char) (pending : List Pending) : Prop :=
  text.count '(' = text.count ')' + pending.count .opening

theorem nested_concat_plain (h : Nested before pending) (hc : c ∉ delimiters) :
    Nested (before ++ [c]) pending := by
  simp only [delimiters, List.mem_cons, List.not_mem_nil, or_false, not_or] at hc
  simpa [Nested, hc] using h

theorem step_closing_eq (expression : String) (h : Nested before state.pending) :
    match excess? expression before ')' with
    | some cause => step expression state .closing = .error cause
    | none => ∃ next, step expression state .closing = .ok next ∧
        Nested (before ++ [')']) next.pending := by
  unfold Nested at h ⊢
  have hopen : (before ++ [')']).count '(' = before.count '(' := by simp
  have hclose : (before ++ [')']).count ')' = before.count ')' + 1 := by simp
  cases hpop : close? state.pending state.items with
  | none =>
    have hnone := close?_eq_none_iff.mp hpop
    have hexcess : excess? expression before ')' = some (.unbalanced expression .closing) :=
      if_pos ⟨rfl, by omega⟩
    simp only [hexcess, step, hpop]
  | some closed =>
    have hcount := count_close? hpop
    have hexcess : excess? expression before ')' = none := if_neg (by omega)
    simp only [hexcess, step, hpop]
    exact ⟨closed, rfl, by omega⟩

theorem step_delimiter (expression : String) (h : Nested before state.pending)
    (htoken : Token.ofChar? c = some token) :
    match excess? expression before c with
    | some cause => step expression state token = .error cause
    | none => ∃ next, step expression state token = .ok next ∧ Nested (before ++ [c]) next.pending := by
  have hchars := (Token.chars_of_ofChar? htoken).1
  cases token with
  | operand text =>
    unfold Token.ofChar? at htoken
    split at htoken <;> simp at htoken
  | opening =>
    obtain rfl : '(' = c := by simpa [Token.chars] using hchars
    refine ⟨_, rfl, ?_⟩
    simp only [Nested, List.count_append, List.count_cons, List.count_nil] at h ⊢
    simp [h, Nat.add_assoc]
  | closing =>
    obtain rfl : ')' = c := by simpa [Token.chars] using hchars
    exact step_closing_eq expression h
  | operator op =>
    obtain rfl : op.symbol = c := by simpa [Token.chars] using hchars
    have hexcess : excess? expression before op.symbol = none := by cases op <;> rfl
    rw [hexcess]
    refine ⟨_, rfl, ?_⟩
    have hcount := count_release op state.pending state.items
    cases op <;> simpa [Nested, Operator.symbol, hcount] using h

theorem faultAt?_ne_noOperator (expression text : String) (before after : List Char) :
    faultAt? expression before after ≠ some (.noOperator text) := by
  have hrejected : rejected? before ≠ some (.noOperator text) := by
    unfold rejected?
    split
    · simp
    · split <;> simp
  have hexcess (c : Char) : excess? expression before c ≠ some (.noOperator text) := by
    unfold excess?
    split <;> simp
  unfold faultAt?
  split
  · exact hrejected
  · split
    · rw [ne_eq, Option.or_eq_some_iff, not_or]
      exact ⟨hrejected, fun h => hexcess _ h.2⟩
    · simp

theorem run_append_of_error {tokens : List Token} {cause : ExpressionError}
    (h : run expression tokens state = .error cause) (others : List Token) :
    run expression (tokens ++ others) state = .error cause := by
  rw [run, List.foldlM_append, ← run, h]
  rfl

theorem run_cons_of_error {cause : ExpressionError}
    (h : step expression state token = .error cause) (tokens : List Token) :
    run expression (token :: tokens) state = .error cause := by
  rw [run, List.foldlM_cons, h]
  rfl

theorem run_lastRun (expression : String) (before : List Char) (state : State) :
    match rejected? before with
    | some cause => run expression (Token.scan (lastRun before)) state = .error cause
    | none => ∃ items,
        run expression (Token.scan (lastRun before)) state = .ok ⟨state.pending, items⟩ := by
  rw [Token.scan_lastRun]
  by_cases hempty : lastRun before = []
  · have hrejected : rejected? before = none := by
      rw [rejected?, hempty]
      rfl
    rw [hrejected, if_pos hempty]
    exact ⟨state.items, rfl⟩
  · rw [if_neg hempty]
    cases hclassify : Operand.classify (lastRun before) with
    | ok operand =>
      have hrejected : rejected? before = none := by rw [rejected?, hclassify]
      rw [hrejected]
      refine ⟨.operand (.ofOperand operand) :: state.items, run_cons ?_ []⟩
      rw [step, hclassify]
      rfl
    | error cause =>
      obtain rfl := Operand.eq_invalidName_of_classify hclassify
      have hrejected :
          rejected? before = some (.invalidName (String.ofList (lastRun before))) := by
        rw [rejected?, hclassify]
        exact if_neg hempty
      rw [hrejected]
      apply run_cons_of_error
      rw [step, hclassify]
      rfl

theorem run_delimiter (expression : String) (h : Nested before state.pending)
    (htoken : Token.ofChar? c = some token) :
    match (rejected? before).or (excess? expression before c) with
    | some cause =>
      run expression (Token.scan (lastRun before) ++ [token]) state = .error cause
    | none => ∃ next, run expression (Token.scan (lastRun before) ++ [token]) state = .ok next ∧
        Nested (before ++ [c]) next.pending := by
  have hrun := run_lastRun expression before state
  cases hrejected : rejected? before with
  | some cause =>
    simp only [hrejected] at hrun
    exact run_append_of_error hrun [token]
  | none =>
    simp only [hrejected] at hrun
    obtain ⟨items, hitems⟩ := hrun
    have hheld : Nested before (State.mk state.pending items).pending := h
    have hstep := step_delimiter expression hheld htoken
    rw [run_append hitems, Option.none_or]
    cases hexcess : excess? expression before c with
    | some cause =>
      simp only [hexcess] at hstep
      exact run_cons_of_error hstep []
    | none =>
      simp only [hexcess] at hstep
      obtain ⟨next, hnext, hnested⟩ := hstep
      exact ⟨next, run_cons hnext [], hnested⟩

/-- The run that `before` ends with is not a token yet, since it may go on. -/
theorem run_scan (expression : String) (h : Nested before state.pending) (after : List Char) :
    match faultFrom? expression before after with
    | some cause => run expression (Token.scan (lastRun before ++ after)) state = .error cause
    | none => ∃ next, run expression (Token.scan (lastRun before ++ after)) state = .ok next ∧
        Nested (before ++ after) next.pending := by
  induction after generalizing before state with
  | nil =>
    have hrun := run_lastRun expression before state
    simp only [faultFrom?, faultAt?, List.append_nil]
    cases hrejected : rejected? before with
    | some cause => simpa only [hrejected] using hrun
    | none =>
      simp only [hrejected] at hrun
      obtain ⟨items, hitems⟩ := hrun
      exact ⟨_, hitems, h⟩
  | cons c after ih =>
    by_cases hc : c ∈ delimiters
    · obtain ⟨token, htoken⟩ := Token.exists_ofChar?_of_mem_delimiters hc
      have hrun := run_delimiter expression h htoken
      rw [Token.scan_append_cons htoken, List.append_cons]
      simp only [faultFrom?, faultAt?, if_pos hc]
      cases hfault : (rejected? before).or (excess? expression before c) with
      | some cause =>
        simp only [hfault] at hrun
        simpa only [Option.some_or] using run_append_of_error hrun _
      | none =>
        simp only [hfault] at hrun
        obtain ⟨next, hnext, hnested⟩ := hrun
        have hrest := ih hnested
        rw [Token.lastRun_concat_delimiter hc, List.nil_append] at hrest
        rw [run_append hnext, Option.none_or]
        simpa only [List.append_assoc, List.singleton_append] using hrest
    · have hrest := ih (nested_concat_plain h hc)
      rw [Token.lastRun_concat_plain hc] at hrest
      simp only [faultFrom?, faultAt?, if_neg hc, Option.none_or]
      simpa only [List.append_assoc, List.singleton_append] using hrest

theorem ofExpression_eq (expression : String) :
    match lexicalError? expression with
    | some cause => ofExpression expression = .error cause
    | none => ∃ items, ofExpression expression = .ok items := by
  have hany := Token.any_isOperator_scan expression.toList
  simp only [lexicalError?, ofExpression, hany]
  by_cases hop : (expression.toList.any fun c => (Operator.ofSymbol? c).isSome) = true
  · have hstart : Nested [] (State.mk [] []).pending := rfl
    have hrun := run_scan expression hstart expression.toList
    have hbegin : lastRun [] = [] := rfl
    rw [hbegin, List.nil_append] at hrun
    rw [if_pos hop, if_pos hop, firstFault?_eq, ofTokens, ← run]
    cases hfault : faultFrom? expression [] expression.toList with
    | some cause =>
      simp only [hfault] at hrun
      rw [Option.some_or, hrun]
      rfl
    | none =>
      simp only [hfault] at hrun
      obtain ⟨next, hnext, hnested⟩ := hrun
      have hbalance : expression.toList.count '(' =
          expression.toList.count ')' + next.pending.count .opening := hnested
      rw [Option.none_or, hnext]
      by_cases hcount : expression.toList.count ')' < expression.toList.count '('
      · rw [if_pos hcount]
        exact finish_of_unclosed (by omega) _
      · rw [if_neg hcount]
        exact exists_finish_of_closed (by omega) _ _
  · rw [if_neg hop, if_neg hop]

theorem lexicalError?_eq_noOperator_iff (expression : String) :
    lexicalError? expression = some (.noOperator expression) ↔
      ∀ c ∈ expression.toList, Operator.ofSymbol? c = none := by
  have hnone : (∀ c ∈ expression.toList, Operator.ofSymbol? c = none) ↔
      ¬ (expression.toList.any fun c => (Operator.ofSymbol? c).isSome) = true := by
    simp
  rw [hnone, lexicalError?]
  split
  · rename_i hop
    rw [iff_false_right (not_not.mpr hop), Option.or_eq_some_iff]
    rintro (hfault | ⟨-, hunclosed⟩)
    · obtain ⟨i, -, hi⟩ := List.exists_of_findSome?_eq_some hfault
      exact faultAt?_ne_noOperator _ _ _ _ hi
    · split at hunclosed <;> simp at hunclosed
  · rename_i hop
    exact iff_of_true rfl hop

theorem ofExpression_eq_error_iff (expression : String) :
    (∀ cause, ofExpression expression = .error cause ↔ lexicalError? expression = some cause) ∧
    ((∃ items, ofExpression expression = .ok items) ↔ lexicalError? expression = none) ∧
    (ofExpression expression = .error (.noOperator expression) ↔
      ∀ c ∈ expression.toList, Operator.ofSymbol? c = none) := by
  have hspec := ofExpression_eq expression
  rw [← lexicalError?_eq_noOperator_iff]
  cases herror : lexicalError? expression with
  | some cause =>
    simp only [herror] at hspec
    simp [hspec]
  | none =>
    simp only [herror] at hspec
    obtain ⟨items, hitems⟩ := hspec
    simp [hitems]

example : lexicalError? "A~)+1" = some (.invalidName "A~") := by decide +kernel

end PostfixItem

end Worksheet
