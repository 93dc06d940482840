import Mathlib.Data.List.Induction
import Worksheet.Proofs.Expression.Assembly
import Worksheet.Proofs.Expression.Conservation

/-!
Which postfix items make a tree. Read from the left, items make a row of trees until an operator
finds fewer than two of them, or two that are too deep. The items of one tree within the limit are
put together to that tree, and all others are refused for what is wrong with them.
-/

namespace Worksheet.Expr

variable {expression : String} {items before rest : List PostfixItem} {trees : List Expr}
  {tree left right : Expr} {op : Operator}

/-- Every operator can be applied, and these trees are left, the first one at the left. -/
structure Makes (items : List PostfixItem) (trees : List Expr) : Prop where
  listed : items = trees.flatMap postorder
  shallow : ∀ tree ∈ trees, tree.depth ≤ maxDepth

def RunsShort (items : List PostfixItem) : Prop :=
  ∃ before trees op rest, items = before ++ .operator op :: rest ∧ Makes before trees ∧
    trees.length < 2

def RunsDeep (items : List PostfixItem) : Prop :=
  ∃ before trees left right op rest, items = before ++ .operator op :: rest ∧
    Makes before (trees ++ [left, right]) ∧ (Expr.binary op left right).depth = maxDepth + 1

def LeavesOver (items : List PostfixItem) : Prop := ∃ trees, Makes items trees ∧ trees.length ≠ 1

theorem makes_nil : Makes [] [] := ⟨rfl, List.forall_mem_nil _⟩

theorem makes_singleton_iff :
    Makes items [tree] ↔ tree.postorder = items ∧ tree.depth ≤ maxDepth := by
  constructor
  · rintro ⟨hlisted, hshallow⟩
    rw [List.flatMap_singleton] at hlisted
    exact ⟨hlisted.symm, hshallow tree List.mem_cons_self⟩
  · rintro ⟨rfl, hshallow⟩
    refine ⟨(List.flatMap_singleton _ _).symm, ?_⟩
    intro other hother
    rwa [List.mem_singleton.mp hother]

theorem Makes.operand (h : Makes items trees) {node : Expr} (hleaf : node.IsLeaf) :
    Makes (items ++ [.operand node]) (trees ++ [node]) where
  listed := by
    rw [h.listed, List.flatMap_append, List.flatMap_singleton, postorder_of_isLeaf hleaf]
  shallow := by
    refine List.forall_mem_append.mpr ⟨h.shallow, List.forall_mem_singleton.mpr ?_⟩
    rw [depth_of_isLeaf hleaf]
    exact Nat.zero_le _

theorem Makes.operator (h : Makes items (trees ++ [left, right]))
    (hdepth : (Expr.binary op left right).depth ≤ maxDepth) :
    Makes (items ++ [.operator op]) (trees ++ [.binary op left right]) := by
  obtain ⟨hlisted, hshallow⟩ := h
  constructor
  · rw [hlisted]
    simp [postorder]
  · exact List.forall_mem_append.mpr
      ⟨(List.forall_mem_append.mp hshallow).1, List.forall_mem_singleton.mpr hdepth⟩

theorem Makes.depth_binary_le (h : Makes items (trees ++ [left, right])) (op : Operator) :
    (Expr.binary op left right).depth ≤ maxDepth + 1 := by
  have hleft := h.shallow left (by simp)
  have hright := h.shallow right (by simp)
  rw [depth]
  omega

theorem exists_eq_append_pair (h : 2 ≤ trees.length) :
    ∃ front left right, trees = front ++ [left, right] := by
  rcases trees.eq_nil_or_concat with rfl | ⟨trees, right, rfl⟩
  · simp at h
  · rcases trees.eq_nil_or_concat with rfl | ⟨front, left, rfl⟩
    · simp at h
    · exact ⟨front, left, right, by simp⟩

theorem makes_or_runs (hleaves : PostfixItem.OfLeaves items) :
    (∃ trees, Makes items trees) ∨ RunsShort items ∨ RunsDeep items := by
  induction items using List.reverseRecOn with
  | nil => exact .inl ⟨[], makes_nil⟩
  | append_singleton items item ih =>
    rcases ih hleaves.left with ⟨trees, hmakes⟩ | ⟨before, trees, op, rest, rfl, hshort⟩ |
      ⟨before, trees, left, right, op, rest, rfl, hdeep⟩
    · cases item with
      | operand node => exact .inl ⟨_, hmakes.operand hleaves.right.head⟩
      | operator op =>
        by_cases hlength : trees.length < 2
        · exact .inr (.inl ⟨items, trees, op, [], rfl, hmakes, hlength⟩)
        · obtain ⟨front, left, right, rfl⟩ := exists_eq_append_pair (Nat.not_lt.mp hlength)
          rcases Nat.lt_or_eq_of_le (hmakes.depth_binary_le op) with hdepth | hdepth
          · exact .inl ⟨_, hmakes.operator (Nat.le_of_lt_succ hdepth)⟩
          · exact .inr (.inr ⟨items, front, left, right, op, [], rfl, hmakes, hdepth⟩)
    · exact .inr (.inl ⟨before, trees, op, rest ++ [item], by simp, hshort⟩)
    · exact .inr (.inr ⟨before, trees, left, right, op, rest ++ [item], by simp, hdeep⟩)

def entries (trees : List Expr) : List (Expr × Nat) :=
  (trees.map fun tree => (tree, tree.depth)).reverse

theorem assemble_flatMap_postorder (hshallow : ∀ tree ∈ trees, tree.depth ≤ maxDepth)
    (stack : List (Expr × Nat)) (rest : List PostfixItem) :
    assemble expression stack (trees.flatMap postorder ++ rest) =
      assemble expression (entries trees ++ stack) rest := by
  induction trees generalizing stack with
  | nil => rfl
  | cons tree trees ih =>
    obtain ⟨hdepth, hshallow⟩ := List.forall_mem_cons.mp hshallow
    rw [List.flatMap_cons, List.append_assoc, assemble_postorder hdepth, ih hshallow]
    simp [entries]

theorem assemble_makes (h : Makes before trees) (rest : List PostfixItem) :
    assemble expression [] (before ++ rest) = assemble expression (entries trees) rest := by
  rw [h.listed, assemble_flatMap_postorder h.shallow, List.append_nil]

theorem ofPostfix_of_makes (h : Makes items [tree]) : ofPostfix items expression = .ok tree := by
  rw [ofPostfix, ← List.append_nil items, assemble_makes h]
  rfl

theorem ofPostfix_of_leavesOver (h : LeavesOver items) :
    ofPostfix items expression = .error (.malformed expression) := by
  obtain ⟨trees, hmakes, hlength⟩ := h
  have hentries : (entries trees).length ≠ 1 := by simpa [entries] using hlength
  rw [ofPostfix, ← List.append_nil items, assemble_makes hmakes]
  generalize entries trees = stack at hentries
  match stack, hentries with
  | [], _ => rfl
  | [_], hentries => exact absurd rfl hentries
  | _ :: _ :: _, _ => rfl

theorem ofPostfix_of_runsShort (h : RunsShort items) :
    ofPostfix items expression = .error (.malformed expression) := by
  obtain ⟨before, trees, op, rest, rfl, hmakes, hlength⟩ := h
  have hentries : (entries trees).length < 2 := by simpa [entries] using hlength
  rw [ofPostfix, assemble_makes hmakes]
  generalize entries trees = stack at hentries
  match stack, hentries with
  | [], _ => rfl
  | [_], _ => rfl

theorem ofPostfix_of_runsDeep (h : RunsDeep items) :
    ofPostfix items expression = .error (.tooDeep expression maxDepth) := by
  obtain ⟨before, trees, left, right, op, rest, rfl, hmakes, hdepth⟩ := h
  have hentries : entries (trees ++ [left, right]) =
      (right, right.depth) :: (left, left.depth) :: entries trees := by
    simp [entries]
  have hdeep : maxDepth < max left.depth right.depth + 1 := Nat.lt_of_succ_le (Nat.le_of_eq hdepth.symm)
  rw [ofPostfix, assemble_makes hmakes, hentries, assemble, if_pos hdeep]

structure Inverted (items : List PostfixItem) (expression : String) : Prop where
  tree : ∀ tree, ofPostfix items expression = .ok tree ↔
    tree.postorder = items ∧ tree.depth ≤ maxDepth
  injective : ∀ tree other expression', PostfixItem.OfLeaves other →
    ofPostfix items expression = .ok tree → ofPostfix other expression' = .ok tree → other = items
  tooDeep : ofPostfix items expression = .error (.tooDeep expression maxDepth) ↔ RunsDeep items
  malformed : ofPostfix items expression = .error (.malformed expression) ↔
    RunsShort items ∨ LeavesOver items
  refused : ∀ error, ofPostfix items expression = .error error →
    error = .tooDeep expression maxDepth ∨ error = .malformed expression

theorem ofPostfix_eq_ok_iff (hleaves : PostfixItem.OfLeaves items) :
    ofPostfix items expression = .ok tree ↔
      tree.postorder = items ∧ tree.depth ≤ maxDepth := by
  rw [← makes_singleton_iff]
  refine ⟨fun h => ?_, ofPostfix_of_makes⟩
  apply makes_singleton_iff.mpr
  constructor
  · exact (postorder_of_assemble hleaves h).symm
  · exact depth_le_of_assemble hleaves (List.forall_mem_nil _) h

theorem ofPostfix_cases (hleaves : PostfixItem.OfLeaves items) (expression : String) :
    (∃ tree, ofPostfix items expression = .ok tree) ∨
      (RunsShort items ∨ LeavesOver items) ∨ RunsDeep items := by
  rcases makes_or_runs hleaves with ⟨trees, hmakes⟩ | hshort | hdeep
  · by_cases hlength : trees.length = 1
    · obtain ⟨tree, rfl⟩ := List.length_eq_one_iff.mp hlength
      exact .inl ⟨tree, ofPostfix_of_makes hmakes⟩
    · exact .inr (.inl (.inr ⟨trees, hmakes, hlength⟩))
  · exact .inr (.inl (.inl hshort))
  · exact .inr (.inr hdeep)

theorem ofPostfix_of_malformed (h : RunsShort items ∨ LeavesOver items) :
    ofPostfix items expression = .error (.malformed expression) :=
  h.elim ofPostfix_of_runsShort ofPostfix_of_leavesOver

theorem inverted_ofPostfix (h : PostfixItem.OfLeaves items) (expression : String) :
    Inverted items expression where
  tree _ := ofPostfix_eq_ok_iff h
  injective tree other expression' hother htree htree' :=
    ((ofPostfix_eq_ok_iff hother).mp htree').1.symm.trans ((ofPostfix_eq_ok_iff h).mp htree).1
  tooDeep := by
    refine ⟨fun herror => ?_, ofPostfix_of_runsDeep⟩
    rcases ofPostfix_cases h expression with ⟨tree, htree⟩ | hmalformed | hdeep
    · simp [htree] at herror
    · simp [ofPostfix_of_malformed hmalformed] at herror
    · exact hdeep
  malformed := by
    refine ⟨fun herror => ?_, ofPostfix_of_malformed⟩
    rcases ofPostfix_cases h expression with ⟨tree, htree⟩ | hmalformed | hdeep
    · simp [htree] at herror
    · exact hmalformed
    · simp [ofPostfix_of_runsDeep hdeep] at herror
  refused error herror := by
    rcases ofPostfix_cases h expression with ⟨tree, htree⟩ | hmalformed | hdeep
    · simp [htree] at herror
    · rw [ofPostfix_of_malformed hmalformed] at herror
      exact .inr (Except.error.inj herror).symm
    · rw [ofPostfix_of_runsDeep hdeep] at herror
      exact .inl (Except.error.inj herror).symm

def eighthShare : List PostfixItem :=
  [.operand (.number 2), .operand (.variable "x" (some 8)), .operator .divide]

theorem inverted_eighthShare :
    PostfixItem.OfLeaves eighthShare ∧ Inverted eighthShare "2/x" ∧
      ofPostfix eighthShare "2/x" =
        .ok (.binary .divide (.number 2) (.variable "x" (some 8))) := by
  have hleaves : PostfixItem.OfLeaves eighthShare := by
    intro node hnode
    simp only [eighthShare, List.mem_cons, PostfixItem.operand.injEq, List.not_mem_nil,
      reduceCtorEq, or_false] at hnode
    rcases hnode with rfl | rfl <;> trivial
  have hinverted := inverted_ofPostfix hleaves "2/x"
  exact ⟨hleaves, hinverted, (hinverted.tree _).mpr ⟨rfl, by decide⟩⟩

end Worksheet.Expr
