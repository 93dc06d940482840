import Mathlib.Data.List.Chain
import Worksheet.Proofs.Expression.Assembly
import Worksheet.Proofs.Expression.Conservation

/-!
The texts that are read as expressions. Counting operands and operators finds everything that can be
wrong with an expression but one: two parts side by side with no operator between them, whose
operator stands where none belongs. Texts without such neighbors are read only if the grammar
derives them.
-/

namespace Worksheet

theorem Operator.eq_symbol_of_ofSymbol? {c : Char} {op : Operator} (h : ofSymbol? c = some op) :
    c = op.symbol := by
  unfold ofSymbol? at h
  split at h <;> simp_all [symbol] <;> subst h <;> rfl

namespace Token

def starts : Token → Bool
  | .operand _ | .opening => true
  | .operator _ | .closing => false

def ends : Token → Bool
  | .operand _ | .closing => true
  | .operator _ | .opening => false

def Apart (first second : Token) : Prop := first.ends = true → second.starts = false

/-- Parts and operators take turns; `complete` says whether a part has just ended. -/
def Alternate : Bool → List Token → Prop
  | complete, [] => complete = true
  | complete, token :: tokens => token.starts = !complete ∧ Alternate token.ends tokens

def chars : Token → List Char
  | .operand text => text
  | .operator op => [op.symbol]
  | .opening => ['(']
  | .closing => [')']

def Plain (token : Token) : Prop :=
  ∀ text, token = .operand text → text ≠ [] ∧ ∀ c ∈ text, c ∉ delimiters

variable {tokens : List Token} {last token : Token} {text : List Char}

theorem Alternate.apart (h : Alternate last.ends tokens) : (last :: tokens).IsChain Apart := by
  induction tokens generalizing last with
  | nil => exact .singleton _
  | cons token tokens ih =>
    refine .cons_cons (fun hlast => ?_) (ih h.2)
    rw [h.1, hlast, Bool.not_true]

theorem length_operand?_le (token : Token) :
    token.operand?.toList.length + (!token.ends).toNat ≤
      token.operator?.toList.length + token.starts.toNat := by
  cases token with
  | operand text =>
    have hle : (operand? (.operand text)).toList.length ≤ 1 := by
      cases operand? (.operand text) <;> simp
    exact hle
  | operator | opening | closing => exact Nat.le_refl _

theorem length_filterMap_cons {α : Type} (f : Token → Option α) (token : Token)
    (tokens : List Token) : ((token :: tokens).filterMap f).length =
      (f token).toList.length + (tokens.filterMap f).length := by
  cases h : f token <;> simp [h, Nat.add_comm]

theorem Apart.toNat_le (h : Apart last token) : token.starts.toNat ≤ (!last.ends).toNat := by
  unfold Apart at h
  cases hends : last.ends <;> cases hstarts : token.starts <;> simp_all

theorem length_operands_le (h : (last :: tokens).IsChain Apart) :
    (tokens.filterMap operand?).length ≤
      (tokens.filterMap operator?).length + (!last.ends).toNat := by
  induction tokens generalizing last with
  | nil => simp
  | cons token tokens ih =>
    obtain ⟨hapart, hrest⟩ := List.isChain_cons_cons.mp h
    have htoken := length_operand?_le token
    have hle := ih hrest
    have hstart := hapart.toNat_le
    rw [length_filterMap_cons, length_filterMap_cons]
    omega

theorem alternate_of_length_eq (h : (last :: tokens).IsChain Apart)
    (hlength : (tokens.filterMap operand?).length =
      (tokens.filterMap operator?).length + (!last.ends).toNat) :
    Alternate last.ends tokens := by
  induction tokens generalizing last with
  | nil => cases hends : last.ends <;> simp_all [Alternate]
  | cons token tokens ih =>
    obtain ⟨hapart, hrest⟩ := List.isChain_cons_cons.mp h
    have htoken := length_operand?_le token
    have hle := length_operands_le hrest
    have hstart := hapart.toNat_le
    rw [length_filterMap_cons, length_filterMap_cons] at hlength
    -- Equality of the sums forces equality at each token.
    have hstarts : token.starts.toNat = (!last.ends).toNat := by omega
    refine ⟨?_, ih hrest (by omega)⟩
    cases hs : token.starts <;> cases he : last.ends <;> simp_all

theorem chars_of_ofChar? {c : Char} (h : ofChar? c = some token) :
    token.chars = [c] ∧ token.Plain := by
  unfold ofChar? at h
  split at h
  · obtain rfl := Option.some.inj h
    exact ⟨rfl, by simp [Plain]⟩
  · obtain rfl := Option.some.inj h
    exact ⟨rfl, by simp [Plain]⟩
  · obtain ⟨op, hop, rfl⟩ := Option.map_eq_some_iff.mp h
    exact ⟨congrArg (fun c => [c]) (Operator.eq_symbol_of_ofSymbol? hop).symm, by simp [Plain]⟩

theorem not_mem_delimiters_of_ofChar? {c : Char} (h : ofChar? c = none) : c ∉ delimiters := by
  intro hmem
  simp only [delimiters, List.mem_cons, List.not_mem_nil, or_false] at hmem
  rcases hmem with rfl | rfl | rfl | rfl | rfl | rfl <;> simp [ofChar?, Operator.ofSymbol?] at h

theorem flatMap_chars_scanChar (c : Char) (tokens : List Token) :
    (scanChar c tokens).flatMap chars = c :: tokens.flatMap chars := by
  unfold scanChar
  split
  · rename_i token hchar
    rw [List.flatMap_cons, (chars_of_ofChar? hchar).1]
    rfl
  · rfl
  · rfl

theorem plain_of_mem_scanChar {c : Char} (h : ∀ token ∈ tokens, token.Plain) :
    ∀ token ∈ scanChar c tokens, token.Plain := by
  unfold scanChar
  split
  · rename_i found hchar
    exact List.forall_mem_cons.mpr ⟨(chars_of_ofChar? hchar).2, h⟩
  · rename_i text rest hchar
    obtain ⟨hplain, hrest⟩ := List.forall_mem_cons.mp h
    refine List.forall_mem_cons.mpr ⟨?_, hrest⟩
    rintro _ ⟨⟩
    refine ⟨List.cons_ne_nil _ _, List.forall_mem_cons.mpr ⟨?_, (hplain text rfl).2⟩⟩
    exact not_mem_delimiters_of_ofChar? hchar
  · rename_i hchar _
    refine List.forall_mem_cons.mpr ⟨?_, h⟩
    rintro _ ⟨⟩
    refine ⟨List.cons_ne_nil _ _, List.forall_mem_singleton.mpr ?_⟩
    exact not_mem_delimiters_of_ofChar? hchar

theorem flatMap_chars_scan (text : List Char) : (scan text).flatMap chars = text := by
  induction text with
  | nil => rfl
  | cons c text ih =>
    rw [scan, List.foldr_cons, ← scan, flatMap_chars_scanChar, ih]

theorem plain_of_mem_scan (text : List Char) : ∀ token ∈ scan text, token.Plain := by
  induction text with
  | nil => simp [scan]
  | cons c text ih => exact plain_of_mem_scanChar ih

end Token

namespace Operator

open Worksheet.Expr (Level)

def level : Operator → Level
  | .add | .subtract => .sum
  | .multiply | .divide => .term

def rightLevel : Operator → Level
  | .add | .subtract => .term
  | .multiply | .divide => .factor

end Operator

namespace PostfixItem

open Worksheet.Expr (Level Derives)

variable {expression : String} {pending : List Pending} {items result : List PostfixItem}
  {op : Operator} {level tight : Level} {text part before after : List Char}
  {tree left right : Expr} {state next closed : State} {token : Token} {tokens : List Token}

theorem bound_level (op : Operator) : bound op.level = op.precedence := by
  cases op <;> rfl

theorem bound_rightLevel (op : Operator) : bound op.rightLevel = op.precedence + 1 := by
  cases op <;> rfl

theorem derives_loosen (h : Derives tight text tree) (hle : bound level ≤ bound tight) :
    Derives level text tree := by
  cases level <;> cases tight <;> simp [bound] at hle
  · exact h
  · exact .term h
  · exact .term (.factor h)
  · exact h
  · exact .factor h
  · exact h

theorem derives_binary (hleft : Derives op.level before left)
    (hright : Derives op.rightLevel after right) :
    Derives op.level (before ++ op.symbol :: after) (.binary op left right) := by
  cases op with
  | add => exact .sum (.inl rfl) hleft hright
  | subtract => exact .sum (.inr rfl) hleft hright
  | multiply => exact .product (.inl rfl) hleft hright
  | divide => exact .product (.inr rfl) hleft hright

/-- What may follow the text, in front of which the stack holds `pending`, is of this level. -/
inductive Opened : Level → List Pending → List Char → Prop
  | start : Opened .sum [] []
  | group {level : Level} {pending : List Pending} {text : List Char}
    (h : Opened level pending text) : Opened .sum (.opening :: pending) (text ++ ['('])
  | operator {level : Level} {pending : List Pending} {text before : List Char} {left : Expr}
    {op : Operator} (h : Opened level pending text) (hlevel : bound level ≤ op.precedence)
    (hleft : Derives op.level before left) :
    Opened op.rightLevel (.operator op :: pending) (text ++ before ++ [op.symbol])

theorem Opened.release (h : Opened level pending text) (hpart : Derives tight part tree)
    (hlevel : bound level ≤ bound tight) (hop : op.precedence ≤ bound tight)
    (items : List PostfixItem) :
    ∃ outer front whole tree, Opened outer (release op pending items).pending front ∧
      bound outer ≤ op.precedence ∧ Derives op.level whole tree ∧
      front ++ whole = text ++ part := by
  induction h generalizing tight part tree items with
  | start =>
    refine ⟨.sum, [], part, tree, .start, ?_, derives_loosen hpart ?_, rfl⟩
    · cases op <;> decide
    · rwa [bound_level]
  | group h =>
    refine ⟨.sum, _, part, tree, h.group, ?_, derives_loosen hpart ?_, rfl⟩
    · cases op <;> decide
    · rwa [bound_level]
  | @operator level pending text before left top h hle hleft ih =>
    rw [PostfixItem.release]
    split
    · rename_i happlied
      rw [Operator.isAppliedBefore_iff] at happlied
      have hwhole := derives_binary hleft (derives_loosen hpart hlevel)
      obtain ⟨outer, front, whole, tree, hopened, hbound, hderives, htext⟩ :=
        ih hwhole (by rwa [bound_level]) (by rwa [bound_level]) (.operator top :: items)
      refine ⟨outer, front, whole, tree, hopened, hbound, hderives, ?_⟩
      rw [htext]
      simp
    · rename_i happlied
      rw [Operator.isAppliedBefore_iff] at happlied
      refine ⟨_, _, part, tree, h.operator hle hleft, ?_, derives_loosen hpart ?_, rfl⟩
      · rw [bound_rightLevel]
        omega
      · rwa [bound_level]

theorem Opened.close (h : Opened level pending text) (hpart : Derives tight part tree)
    (hlevel : bound level ≤ bound tight) (hclose : close? pending items = some closed) :
    ∃ outer front whole tree, Opened outer closed.pending front ∧ Derives .factor whole tree ∧
      front ++ whole = text ++ part ++ [')'] := by
  induction h generalizing tight part tree items with
  | start => simp [close?] at hclose
  | @group level pending text h =>
    obtain rfl := Option.some.inj hclose
    refine ⟨level, text, _, tree, h, .group (derives_loosen hpart hlevel), ?_⟩
    simp
  | @operator level pending text before left top h hle hleft ih =>
    have hwhole := derives_binary hleft (derives_loosen hpart hlevel)
    obtain ⟨outer, front, whole, tree, hopened, hderives, htext⟩ :=
      ih hwhole (by rwa [bound_level]) hclose
    refine ⟨outer, front, whole, tree, hopened, hderives, ?_⟩
    rw [htext]
    simp

theorem Opened.finish (h : Opened level pending text) (hpart : Derives tight part tree)
    (hlevel : bound level ≤ bound tight) (hfinish : finish expression pending items = .ok result) :
    ∃ tree, Derives .sum (text ++ part) tree := by
  induction h generalizing tight part tree items with
  | start => exact ⟨tree, derives_loosen hpart hlevel⟩
  | group => simp [PostfixItem.finish] at hfinish
  | @operator level pending text before left top h hle hleft ih =>
    have hwhole := derives_binary hleft (derives_loosen hpart hlevel)
    obtain ⟨tree, hderives⟩ := ih hwhole (by rwa [bound_level]) hfinish
    refine ⟨tree, ?_⟩
    simpa using hderives

/-- The stack in front of a text, behind which a part has just ended or may begin. -/
inductive Scanned : Bool → List Pending → List Char → Prop
  | incomplete {level : Level} {pending : List Pending} {text : List Char}
    (h : Opened level pending text) : Scanned false pending text
  | complete {level : Level} {pending : List Pending} {text part : List Char} {tree : Expr}
    (h : Opened level pending text) (hpart : Derives .factor part tree) :
    Scanned true pending (text ++ part)

theorem bound_le_factor (level : Level) : bound level ≤ bound .factor := by
  cases level <;> decide

theorem Scanned.step {complete : Bool} (h : Scanned complete state.pending text)
    (hstarts : token.starts = !complete) (hplain : token.Plain)
    (hstep : step expression state token = .ok next) :
    Scanned token.ends next.pending (text ++ token.chars) := by
  cases h with
  | incomplete h =>
    cases token with
    | operand word =>
      obtain ⟨leaf, hleaf, rfl⟩ := step_operand hstep
      obtain ⟨hne, hword⟩ := hplain word rfl
      exact .complete h (.operand hne hword hleaf)
    | opening =>
      obtain rfl := Except.ok.inj hstep
      exact .incomplete h.group
    | operator | closing => simp [Token.starts] at hstarts
  | @complete level _ text part tree h hpart =>
    have hlevel := bound_le_factor level
    cases token with
    | operator op =>
      obtain rfl := Except.ok.inj hstep
      have hop : op.precedence ≤ bound .factor := by cases op <;> decide
      obtain ⟨outer, front, whole, tree, hopened, hbound, hderives, htext⟩ :=
        h.release hpart hlevel hop state.items
      rw [← htext]
      exact .incomplete (hopened.operator hbound hderives)
    | closing =>
      obtain ⟨outer, front, whole, tree, hopened, hderives, htext⟩ :=
        h.close hpart hlevel (step_closing hstep)
      change Scanned true next.pending (text ++ part ++ [')'])
      rw [← htext]
      exact .complete hopened hderives
    | operand | opening => simp [Token.starts] at hstarts

theorem Scanned.run {complete : Bool} (h : Scanned complete state.pending text)
    (halternate : Token.Alternate complete tokens) (hplain : ∀ token ∈ tokens, token.Plain)
    (hrun : run expression tokens state = .ok next) :
    Scanned true next.pending (text ++ tokens.flatMap Token.chars) := by
  induction tokens generalizing complete state text with
  | nil =>
    obtain rfl := Except.ok.inj hrun
    obtain rfl : complete = true := halternate
    simpa using h
  | cons token tokens ih =>
    obtain ⟨middle, hstep, hrest⟩ := exists_of_run_cons hrun
    obtain ⟨htoken, htokens⟩ := List.forall_mem_cons.mp hplain
    have hmiddle := h.step halternate.1 htoken hstep
    rw [List.flatMap_cons, ← List.append_assoc]
    exact ih hmiddle halternate.2 htokens hrest

theorem exists_derives_of_ofExpression
    (halternate : Token.Alternate false (Token.scan expression.toList))
    (h : ofExpression expression = .ok result) : ∃ tree, Derives .sum expression.toList tree := by
  obtain ⟨-, state, hrun, hfinish⟩ := exists_of_ofExpression h
  have hstart : Scanned false [] [] := .incomplete .start
  have hscanned := hstart.run halternate (Token.plain_of_mem_scan _) hrun
  rw [List.nil_append, Token.flatMap_chars_scan] at hscanned
  generalize expression.toList = characters at hscanned ⊢
  cases hscanned with
  | @complete level _ text part tree hopened hpart =>
    exact hopened.finish hpart (bound_le_factor level) hfinish

theorem alternate_append_of_derives (h : Derives level text tree) (tokens : List Token) :
    Token.Alternate false (Token.scan text ++ tokens) ↔ Token.Alternate true tokens := by
  induction h generalizing tokens with
  | operand hne hplain =>
    rw [Token.scan_plain hne hplain]
    exact and_iff_right rfl
  | group h ih =>
    rw [Token.scan_group, List.cons_append, List.append_assoc]
    apply (and_iff_right rfl).trans
    apply (ih _).trans
    exact and_iff_right rfl
  | factor h ih => exact ih tokens
  | product hop hleft hright ihLeft ihRight =>
    rw [Token.scan_append_cons (Token.ofChar?_symbol _), List.append_assoc]
    apply (ihLeft _).trans
    apply (and_iff_right rfl).trans
    exact ihRight tokens
  | term h ih => exact ih tokens
  | sum hop hleft hright ihLeft ihRight =>
    rw [Token.scan_append_cons (Token.ofChar?_symbol _), List.append_assoc]
    apply (ihLeft _).trans
    apply (and_iff_right rfl).trans
    exact ihRight tokens

end PostfixItem

namespace Expr

variable {expression : String} {tree : Expr}

theorem apart_of_derives {level : Level} {text : List Char} (h : Derives level text tree) :
    (Token.scan text).IsChain Token.Apart := by
  have halternate : Token.Alternate Token.opening.ends (Token.scan text) := by
    rw [← List.append_nil (Token.scan text)]
    exact (PostfixItem.alternate_append_of_derives h []).mpr rfl
  exact halternate.apart.tail

theorem alternate_of_parse (h : parse expression = .ok tree)
    (hapart : (Token.scan expression.toList).IsChain Token.Apart) :
    Token.Alternate false (Token.scan expression.toList) := by
  have hitems := ofExpression_of_parse h
  have hlength := length_operands_postorder tree
  rw [PostfixItem.operands_ofExpression hitems, List.length_map,
    (PostfixItem.operators_ofExpression hitems).length_eq] at hlength
  have hchain : (Token.opening :: Token.scan expression.toList).IsChain Token.Apart :=
    List.isChain_cons.mpr ⟨fun _ _ hends => by simp [Token.ends] at hends, hapart⟩
  exact Token.alternate_of_length_eq hchain hlength

theorem parse_eq_assemble (h : Derives .sum expression.toList tree)
    (hop : ∃ c ∈ expression.toList, (Operator.ofSymbol? c).isSome) :
    parse expression = assemble expression [] (tree.postorder ++ []) := by
  rw [parse, PostfixItem.ofExpression_of_derives h hop, List.append_nil]
  rfl

theorem parse_and_apart_iff_derives :
    parse expression = .ok tree ∧ (Token.scan expression.toList).IsChain Token.Apart ↔
      Derives .sum expression.toList tree ∧
        (∃ c ∈ expression.toList, (Operator.ofSymbol? c).isSome) ∧ tree.depth ≤ maxDepth := by
  constructor
  · rintro ⟨hparse, hapart⟩
    have hitems := ofExpression_of_parse hparse
    have hop := (PostfixItem.exists_of_ofExpression hitems).1
    obtain ⟨derived, hderives⟩ :=
      PostfixItem.exists_derives_of_ofExpression (alternate_of_parse hparse hapart) hitems
    have hassemble := parse_eq_assemble hderives hop
    rw [hparse] at hassemble
    rcases Nat.lt_or_ge maxDepth derived.depth with hdepth | hdepth
    · rw [assemble_of_maxDepth_lt hdepth] at hassemble
      simp at hassemble
    · rw [assemble_postorder hdepth, assemble] at hassemble
      obtain rfl := Except.ok.inj hassemble
      exact ⟨hderives, hop, hdepth⟩
  · rintro ⟨hderives, hop, hdepth⟩
    refine ⟨?_, apart_of_derives hderives⟩
    rw [parse_eq_assemble hderives hop, assemble_postorder hdepth, assemble]

/-- The missing operator between the first two parts is made up for by the one at the end. -/
theorem parse_sideBySide :
    parse "1(2)-" = .ok (.binary .subtract (.number 1) (.number 2)) ∧
      ∀ tree, ¬ Derives .sum "1(2)-".toList tree := by
  refine ⟨by decide +kernel, fun tree hderives => ?_⟩
  have hapart := apart_of_derives hderives
  have hscan : Token.scan "1(2)-".toList =
      [.operand ['1'], .opening, .operand ['2'], .closing, .operator .subtract] := by
    decide +kernel
  rw [hscan] at hapart
  have hfirst := (List.isChain_cons_cons.mp hapart).1 rfl
  simp [Token.starts] at hfirst

end Expr

end Worksheet
