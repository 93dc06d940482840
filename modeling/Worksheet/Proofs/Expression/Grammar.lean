import Worksheet.Expression.Postfix

/-!
The grammar of expressions, with the tree that each derivation stands for, and the tokens of a text
that is put together from parts.

    sum    := term | sum ('+' | '-') term
    term   := factor | term ('*' | '/') factor
    factor := operand | '(' sum ')'
-/

namespace Worksheet

namespace Token

theorem scanChar_append (c : Char) (tokens : List Token) {token : Token} {rest : List Token}
    (h : ∀ text, token ≠ .operand text) :
    scanChar c (tokens ++ token :: rest) = scanChar c tokens ++ token :: rest := by
  unfold scanChar
  cases ofChar? c with
  | some found => rfl
  | none =>
    cases tokens with
    | nil =>
      cases token with
      | operand text => exact absurd rfl (h text)
      | operator | opening | closing => rfl
    | cons first tokens => cases first <;> rfl

theorem scan_append_cons {c : Char} {token : Token} (h : ofChar? c = some token)
    (before after : List Char) :
    scan (before ++ c :: after) = scan before ++ token :: scan after := by
  have hdelimiter : ∀ text, token ≠ .operand text := by
    rintro text rfl
    unfold ofChar? at h
    split at h <;> simp at h
  induction before with
  | nil => simp only [List.nil_append, scan, List.foldr_cons, scanChar, h, List.foldr_nil]
  | cons first before ih =>
    simp only [scan, List.cons_append, List.foldr_cons] at ih ⊢
    rw [ih, scanChar_append first _ hdelimiter]

theorem scan_group (text : List Char) :
    scan ('(' :: text ++ [')']) = .opening :: (scan text ++ [.closing]) := by
  have hopening : scan ('(' :: (text ++ [')'])) = .opening :: scan (text ++ [')']) := rfl
  rw [List.cons_append, hopening, scan_append_cons rfl]
  rfl

def delimiters : List Char := ['+', '-', '*', '/', '(', ')']

theorem not_mem_delimiters_of_isAlphanum {c : Char} (h : c.isAlphanum = true) :
    c ∉ delimiters := by
  intro hmem
  simp only [delimiters, List.mem_cons, List.not_mem_nil, or_false] at hmem
  rcases hmem with rfl | rfl | rfl | rfl | rfl | rfl <;> simp at h

theorem ofChar?_of_not_mem_delimiters {c : Char} (h : c ∉ delimiters) : ofChar? c = none := by
  unfold ofChar? Operator.ofSymbol?
  simp only [delimiters, List.mem_cons, List.not_mem_nil, or_false, not_or] at h
  split
  · simp_all
  · simp_all
  · split <;> simp_all

theorem scan_plain {text : List Char} (hne : text ≠ []) (h : ∀ c ∈ text, c ∉ delimiters) :
    scan text = [.operand text] := by
  induction text with
  | nil => exact absurd rfl hne
  | cons c rest ih =>
    have hc := ofChar?_of_not_mem_delimiters (h c List.mem_cons_self)
    cases rest with
    | nil => simp only [scan, List.foldr_cons, List.foldr_nil, scanChar, hc]
    | cons other rest =>
      have hrest := ih (List.cons_ne_nil _ _) fun d hd => h d (List.mem_cons_of_mem _ hd)
      rw [scan, List.foldr_cons, ← scan, hrest]
      simp only [scanChar, hc]

theorem ofChar?_symbol (op : Operator) : ofChar? op.symbol = some (.operator op) := by
  cases op <;> rfl

theorem any_isOperator_scan (text : List Char) :
    (scan text).any isOperator = text.any fun c => (Operator.ofSymbol? c).isSome := by
  induction text with
  | nil => rfl
  | cons c rest ih =>
    rw [List.any_cons, ← ih, scan, List.foldr_cons, ← scan]
    have hchar : (Operator.ofSymbol? c).isSome = ((ofChar? c).map isOperator).getD false := by
      unfold ofChar?
      split
      · rfl
      · rfl
      · cases Operator.ofSymbol? c <;> rfl
    rw [hchar]
    unfold scanChar
    cases ofChar? c with
    | some token => rfl
    | none =>
      cases scan rest with
      | nil => rfl
      | cons first tokens => cases first <;> rfl

end Token

namespace Expr

inductive Level where
  | sum
  | term
  | factor
deriving DecidableEq, Repr

inductive Derives : Level → List Char → Expr → Prop where
  | operand {text : List Char} {operand : Operand} (hne : text ≠ [])
    (hplain : ∀ c ∈ text, c ∉ Token.delimiters) (hclassify : Operand.classify text = .ok operand) :
    Derives .factor text (.ofOperand operand)
  | group {text : List Char} {tree : Expr} (h : Derives .sum text tree) :
    Derives .factor ('(' :: text ++ [')']) tree
  | factor {text : List Char} {tree : Expr} (h : Derives .factor text tree) :
    Derives .term text tree
  | product {before after : List Char} {left right : Expr} {op : Operator}
    (hop : op = .multiply ∨ op = .divide) (hleft : Derives .term before left)
    (hright : Derives .factor after right) :
    Derives .term (before ++ op.symbol :: after) (.binary op left right)
  | term {text : List Char} {tree : Expr} (h : Derives .term text tree) : Derives .sum text tree
  | sum {before after : List Char} {left right : Expr} {op : Operator}
    (hop : op = .add ∨ op = .subtract) (hleft : Derives .sum before left)
    (hright : Derives .term after right) :
    Derives .sum (before ++ op.symbol :: after) (.binary op left right)

def postorder : Expr → List PostfixItem
  | .number value => [.operand (.number value)]
  | .variable name value => [.operand (.variable name value)]
  | .binary op left right => left.postorder ++ right.postorder ++ [.operator op]

def IsLeaf : Expr → Prop
  | .number _ | .variable _ _ => True
  | .binary _ _ _ => False

theorem isLeaf_ofOperand (operand : Operand) : (ofOperand operand).IsLeaf := by
  cases operand <;> trivial

theorem postorder_of_isLeaf {node : Expr} (h : node.IsLeaf) : node.postorder = [.operand node] := by
  cases node with
  | number | «variable» => rfl
  | binary => exact absurd h id

theorem depth_of_isLeaf {node : Expr} (h : node.IsLeaf) : node.depth = 0 := by
  cases node with
  | number | «variable» => rfl
  | binary => exact absurd h id

theorem postorder_ofOperand (operand : Operand) :
    (ofOperand operand).postorder = [.operand (.ofOperand operand)] :=
  postorder_of_isLeaf (isLeaf_ofOperand operand)

end Expr

namespace PostfixItem

def OfLeaves (items : List PostfixItem) : Prop := ∀ node, .operand node ∈ items → node.IsLeaf

variable {before after : List PostfixItem} {node : Expr}

theorem OfLeaves.head (h : OfLeaves (.operand node :: after)) : node.IsLeaf :=
  h node List.mem_cons_self

theorem OfLeaves.tail {item : PostfixItem} (h : OfLeaves (item :: after)) : OfLeaves after :=
  fun node hnode => h node (List.mem_cons_of_mem item hnode)

theorem OfLeaves.left (h : OfLeaves (before ++ after)) : OfLeaves before :=
  fun node hnode => h node (List.mem_append_left after hnode)

theorem OfLeaves.right (h : OfLeaves (before ++ after)) : OfLeaves after :=
  fun node hnode => h node (List.mem_append_right before hnode)

end PostfixItem

end Worksheet
