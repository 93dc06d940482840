import Mathlib.Data.List.Find
import Worksheet.Proofs.Expression.Leaves

namespace Worksheet

theorem find?_eraseDups (p : String → Bool) (names : List String) :
    names.eraseDups.find? p = names.find? p := by
  induction hlength : names.length using Nat.strong_induction_on generalizing names with
  | _ length ih =>
    cases names with
    | nil => rfl
    | cons name names =>
      rw [List.length_cons] at hlength
      have hshort : (names.filter fun other => ! other == name).length < length := by
        have hle := List.length_filter_le (fun other => ! other == name) names
        omega
      rw [List.eraseDups_cons, List.find?_cons, List.find?_cons, ih _ hshort _ rfl, List.find?_filter]
      cases hname : p name with
      | true => rfl
      | false =>
        -- A name that was left out is one that would not have been found either.
        apply List.find?_congr
        intro other _
        by_cases heq : other = name
        · simp [heq, hname]
        · simp [heq]

theorem lookup_map (assigned : String → Option Float) (names : List String) (name : String) :
    (names.map fun other => (other, assigned other)).lookup name =
      if name ∈ names then some (assigned name) else none := by
  induction names with
  | nil => rfl
  | cons first names ih =>
    rw [List.map_cons, List.lookup_cons, ih]
    by_cases heq : name = first
    · simp [heq]
    · simp [heq, beq_eq_false_iff_ne.mpr heq]

theorem lookup_eq_of_mem_iff {assigned : String → Option Float} {pairs : List (String × Float)}
    {name : String} (h : ∀ value, (name, value) ∈ pairs ↔ assigned name = some value) :
    pairs.lookup name = assigned name := by
  cases hlookup : pairs.lookup name with
  | some value =>
    obtain ⟨before, after, rfl, -⟩ := List.lookup_eq_some_iff.mp hlookup
    exact ((h value).mp (List.mem_append_right _ List.mem_cons_self)).symm
  | none =>
    cases hassigned : assigned name with
    | none => rfl
    | some value =>
      have hmem := (h value).mpr hassigned
      have hne := List.lookup_eq_none_iff.mp hlookup _ hmem
      simp at hne

namespace Expr

variable {assigned : String → Option Float} {name : String} {tree : Expr}

theorem assign_congr {f g : String → Option Float} (h : ∀ name ∈ tree.names, f name = g name) :
    tree.assign f = tree.assign g := by
  induction tree with
  | number value => rfl
  | «variable» name old => rw [assign, assign, h name (List.mem_singleton_self _)]
  | binary op left right ihLeft ihRight =>
    rw [assign, assign, ihLeft fun name hname => h name (List.mem_append_left _ hname),
      ihRight fun name hname => h name (List.mem_append_right _ hname)]

theorem bind_assign (assigned : String → Option Float) (name : String) (value : Float)
    (tree : Expr) :
    (tree.assign assigned).bind name value =
      tree.assign fun other => if other = name then some value else assigned other := by
  induction tree with
  | number value => rfl
  | «variable» other old => by_cases h : other = name <;> simp [bind, assign, h]
  | binary op left right ihLeft ihRight => rw [assign, bind, ihLeft, ihRight, assign]

theorem leaf_assign (h : tree.Unbound) {value : Option Float}
    (hleaf : .variable name value ∈ (tree.assign assigned).leaves) :
    name ∈ tree.names ∧ value = assigned name := by
  induction tree with
  | number => simp [assign, leaves] at hleaf
  | «variable» other old =>
    obtain rfl : old = none := h
    obtain ⟨rfl, rfl⟩ : name = other ∧ value = assigned other := by
      simpa [assign, leaves] using hleaf
    exact ⟨List.mem_singleton_self _, rfl⟩
  | binary op left right ihLeft ihRight =>
    rw [assign, leaves, List.mem_append] at hleaf
    rw [names, List.mem_append]
    rcases hleaf with hleaf | hleaf
    · obtain ⟨hname, hvalue⟩ := ihLeft h.1 hleaf
      exact ⟨.inl hname, hvalue⟩
    · obtain ⟨hname, hvalue⟩ := ihRight h.2 hleaf
      exact ⟨.inr hname, hvalue⟩

theorem exists_of_find?_eq_none (h : tree.Unbound)
    (hset : tree.names.find? (fun name => (assigned name).isNone) = none) :
    ∃ value, tree.valueUnder assigned = some value ∧ (tree.assign assigned).evaluate = .ok value := by
  induction tree with
  | number value => exact ⟨value, rfl, rfl⟩
  | «variable» name old =>
    obtain rfl : old = none := h
    cases hname : assigned name with
    | none => simp [names, hname] at hset
    | some value => exact ⟨value, hname, by simp [assign, hname, evaluate]⟩
  | binary op left right ihLeft ihRight =>
    rw [names, List.find?_append, Option.or_eq_none_iff] at hset
    obtain ⟨x, hx, hevaluate⟩ := ihLeft h.1 hset.1
    obtain ⟨y, hy, hright⟩ := ihRight h.2 hset.2
    refine ⟨op.apply x y, ?_, ?_⟩
    · rw [valueUnder_binary, hx, hy]
      rfl
    · rw [assign, evaluate, hevaluate, hright]
      rfl

theorem evaluate_assign_of_find? (h : tree.Unbound)
    (hunset : tree.names.find? (fun name => (assigned name).isNone) = some name) :
    (tree.assign assigned).evaluate = .error name := by
  induction tree with
  | number value => cases hunset
  | «variable» other old =>
    obtain rfl : old = none := h
    cases hother : assigned other with
    | none =>
      obtain rfl : other = name := by simpa [names, hother] using hunset
      simp [assign, hother, evaluate]
    | some value => simp [names, hother] at hunset
  | binary op left right ihLeft ihRight =>
    rw [names, List.find?_append, Option.or_eq_some_iff] at hunset
    rcases hunset with hleft | ⟨hleft, hright⟩
    · rw [assign, evaluate, ihLeft h.1 hleft]
      rfl
    · obtain ⟨x, -, hx⟩ := exists_of_find?_eq_none h.1 hleft
      rw [assign, evaluate, hx, ihRight h.2 hright]
      rfl

end Expr

namespace Formula

theorem binding?_bind {formula : Formula} {name : String} (hname : name ∈ formula.names)
    (value : Float) : (formula.bind name value).binding? name = some (some value) := by
  rw [names] at hname
  rw [binding?, bind]
  simp only
  generalize formula.table = table at hname ⊢
  induction table with
  | nil => cases hname
  | cons entry table ih =>
    rw [List.map_cons, List.lookup_cons]
    by_cases heq : entry.1 = name
    · simp [heq]
    · rw [List.map_cons, List.mem_cons] at hname
      simp [heq, beq_eq_false_iff_ne.mpr (Ne.symm heq), ih (hname.resolve_left (Ne.symm heq))]

def attempt (formula : Formula) (call : String × Float) : Formula :=
  match formula.setVariable call.1 call.2 with
  | .ok bound => bound
  | .error _ => formula

def after (formula : Formula) (calls : List (String × Float)) : Formula := calls.foldl attempt formula

def lastValue? (calls : List (String × Float)) (name : String) : Option Float :=
  calls.reverse.lookup name

def under (root : Expr) (assigned : String → Option Float) : Formula :=
  ⟨root.assign assigned, root.names.eraseDups.map fun name => (name, assigned name)⟩

variable {expression : String} {root : Expr} {assigned : String → Option Float}

theorem ofExpr_eq_under (root : Expr) : ofExpr root = under root fun _ => none := by
  rw [ofExpr, under, Expr.assign_none]

theorem names_under (root : Expr) (assigned : String → Option Float) :
    (under root assigned).names = root.names.eraseDups := by
  rw [names, under, List.map_map]
  exact List.map_id _

theorem attempt_under (root : Expr) (assigned : String → Option Float) (name : String)
    (value : Float) :
    (under root assigned).attempt (name, value) =
      under root fun other => if other = name then some value else assigned other := by
  rw [attempt, setVariable, names_under]
  by_cases hname : name ∈ root.names.eraseDups
  · simp only [hname, ↓reduceIte, bind, under, Expr.bind_assign, List.map_map]
    congr 1
    apply List.map_congr_left
    intro other _
    by_cases heq : other = name <;> simp [heq]
  · simp only [hname, ↓reduceIte]
    have hother {other : String} (h : other ∈ root.names.eraseDups) : other ≠ name := by
      rintro rfl
      exact hname h
    rw [under, under]
    congr 1
    · apply Expr.assign_congr
      intro other hmem
      rw [if_neg (hother (List.mem_eraseDups.mpr hmem))]
    · apply List.map_congr_left
      intro other hmem
      rw [if_neg (hother hmem)]

theorem lastValue?_concat (calls : List (String × Float)) (call : String × Float) (name : String) :
    lastValue? (calls ++ [call]) name =
      if name = call.1 then some call.2 else lastValue? calls name := by
  rw [lastValue?, List.reverse_append, List.reverse_singleton, List.singleton_append,
    List.lookup_cons, ← lastValue?]
  by_cases heq : name = call.1
  · simp [heq]
  · simp [heq, beq_eq_false_iff_ne.mpr heq]

theorem after_ofExpr (root : Expr) (calls : List (String × Float)) :
    (ofExpr root).after calls = under root (lastValue? calls) := by
  induction calls using List.reverseRecOn with
  | nil => exact ofExpr_eq_under root
  | append_singleton calls call ih =>
    rw [after, List.foldl_concat, ← after, ih, attempt_under]
    congr 1
    funext other
    exact (lastValue?_concat calls call other).symm

theorem names_bind (formula : Formula) (name : String) (value : Float) :
    (formula.bind name value).names = formula.names := by
  rw [names, bind, names, List.map_map]
  apply List.map_congr_left
  intro entry _
  by_cases heq : entry.1 = name <;> simp [heq]

theorem attempt_eq_of_mem {formula : Formula} {call : String × Float}
    (h : call.1 ∈ formula.names) :
    formula.setVariable call.1 call.2 = .ok (formula.attempt call) := by
  rw [attempt, setVariable, if_pos h]

theorem names_attempt (formula : Formula) (call : String × Float) :
    (formula.attempt call).names = formula.names := by
  rw [attempt, setVariable]
  by_cases hname : call.1 ∈ formula.names
  · rw [if_pos hname]
    exact names_bind formula call.1 call.2
  · rw [if_neg hname]

theorem binding?_under (root : Expr) (assigned : String → Option Float) (name : String) :
    (under root assigned).binding? name =
      if name ∈ (ofExpr root).names then some (assigned name) else none := by
  rw [binding?, under, lookup_map, names_ofExpr]

theorem binding?_of_mem {name : String} (hname : name ∈ root.names) :
    (under root assigned).binding? name = some (assigned name) := by
  rw [binding?_under, names_ofExpr, if_pos (List.mem_eraseDups.mpr hname)]

theorem isBound_of_mem {name : String} (hname : name ∈ root.names) :
    (under root assigned).isBound name = (assigned name).isSome := by
  rw [isBound, binding?_of_mem hname]
  cases assigned name <;> rfl

theorem find?_names_under (root : Expr) (assigned : String → Option Float) :
    (under root assigned).names.find? (fun name => ! (under root assigned).isBound name) =
      root.names.find? fun name => (assigned name).isNone := by
  rw [names_under, find?_eraseDups]
  apply List.find?_congr
  intro name hname
  rw [isBound_of_mem hname, Option.not_isSome]

structure Follows (parsed : Formula) (calls : List (String × Float)) (now : Formula) : Prop where
  names : now.names = parsed.names
  unknown : ∀ name ∉ parsed.names, ∀ value,
    now.setVariable name value = .error (.unknownVariable name) ∧ now.attempt (name, value) = now
  known : ∀ name ∈ parsed.names, ∀ value,
    now.setVariable name value = .ok (now.attempt (name, value))
  binding : ∀ name,
    now.binding? name = if name ∈ parsed.names then some (lastValue? calls name) else none
  leaf : ∀ name value, .variable name value ∈ now.root.leaves → now.binding? name = some value
  value : (∀ name ∈ now.names, now.isBound name) → ∃ value,
    parsed.root.valueUnder (fun name => (now.binding? name).join) = some value ∧
      now.evaluate = .ok value
  unset : ∀ name, now.names.find? (fun name => ! now.isBound name) = some name →
    now.evaluate.mapError ExpressionError.unsetVariable = .error (.unsetVariable name)

theorem follows_under (h : root.Unbound) (calls : List (String × Float)) :
    Follows (ofExpr root) calls (under root (lastValue? calls)) := by
  have hnames : (under root (lastValue? calls)).names = (ofExpr root).names := by
    rw [names_under, names_ofExpr]
  constructor
  case names => exact hnames
  case unknown =>
    intro name hname value
    have hset : (under root (lastValue? calls)).setVariable name value =
        .error (.unknownVariable name) := by
      rw [setVariable, hnames, if_neg hname]
    exact ⟨hset, by rw [attempt, hset]⟩
  case known =>
    intro name hname value
    rw [attempt, setVariable, hnames, if_pos hname]
  case binding => exact binding?_under root (lastValue? calls)
  case leaf =>
    intro name value hleaf
    obtain ⟨hname, rfl⟩ := Expr.leaf_assign h hleaf
    exact binding?_of_mem hname
  case value =>
    intro hbound
    have hset : root.names.find? (fun name => (lastValue? calls name).isNone) = none := by
      rw [← find?_names_under, List.find?_eq_none]
      exact fun name hname => by rw [hbound name hname]; exact Bool.false_ne_true
    obtain ⟨value, hvalue, hevaluate⟩ := Expr.exists_of_find?_eq_none h hset
    refine ⟨value, ?_, hevaluate⟩
    rw [← hvalue]
    apply Expr.valueUnder_congr
    intro name (hname : name ∈ root.names)
    rw [binding?_of_mem hname, Option.join_some]
  case unset =>
    intro name hunset
    rw [find?_names_under] at hunset
    rw [evaluate, under, Expr.evaluate_assign_of_find? h hunset]
    rfl

theorem follows_after {formula : Formula} (h : parse expression = .ok formula)
    (calls : List (String × Float)) : Follows formula calls (formula.after calls) := by
  obtain ⟨tree, htree, rfl⟩ := exists_of_parse h
  rw [after_ofExpr]
  exact follows_under (Expr.unbound_of_parse htree) calls

def doubled : Formula :=
  .ofExpr (.binary .add (.variable "b" none)
    (.binary .multiply (.variable "a" none) (.variable "b" none)))

theorem follows_doubled :
    parse "b+a*b" = .ok doubled ∧
      (Follows doubled [("b", 1), ("c", 2), ("b", 3)]
          (doubled.after [("b", 1), ("c", 2), ("b", 3)]) ∧
        (doubled.after [("b", 1), ("c", 2), ("b", 3)]).binding? "b" = some (some 3) ∧
        (doubled.after [("b", 1), ("c", 2), ("b", 3)]).evaluate = .error "a") ∧
      Follows doubled [("b", 1), ("c", 2), ("b", 3), ("a", 2)]
          (doubled.after [("b", 1), ("c", 2), ("b", 3), ("a", 2)]) ∧
        doubled.root.valueUnder (fun name =>
            ((doubled.after [("b", 1), ("c", 2), ("b", 3), ("a", 2)]).binding? name).join) =
          some 9 ∧
        (doubled.after [("b", 1), ("c", 2), ("b", 3), ("a", 2)]).evaluate = .ok 9 := by
  have h : parse "b+a*b" = .ok doubled := by decide +kernel
  have hfollows := follows_after h [("b", 1), ("c", 2), ("b", 3), ("a", 2)]
  have hbound : ∀ name ∈ (doubled.after [("b", 1), ("c", 2), ("b", 3), ("a", 2)]).names,
      (doubled.after [("b", 1), ("c", 2), ("b", 3), ("a", 2)]).isBound name := by
    decide +kernel
  have hnine : (doubled.after [("b", 1), ("c", 2), ("b", 3), ("a", 2)]).evaluate = .ok 9 := by
    decide +kernel
  obtain ⟨value, hvalue, hevaluate⟩ := hfollows.value hbound
  obtain rfl := Except.ok.inj (hevaluate.symm.trans hnine)
  exact ⟨h, ⟨follows_after h _, by decide +kernel, by decide +kernel⟩, hfollows, hvalue, hnine⟩

end Formula

end Worksheet
