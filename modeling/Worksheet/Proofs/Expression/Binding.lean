import Worksheet.Expression.Formula

namespace Worksheet.Expr

def valueUnder (assigned : String → Option Float) : Expr → Option Float
  | .number value => some value
  | .variable name _ => assigned name
  | .binary op left right => do
    let x ← left.valueUnder assigned
    let y ← right.valueUnder assigned
    match op with
    | .add => return x + y
    | .subtract => return x - y
    | .multiply => return x * y
    | .divide => return x / y

theorem valueUnder_binary (assigned : String → Option Float) (op : Operator) (left right : Expr) :
    (Expr.binary op left right).valueUnder assigned = do
      let x ← left.valueUnder assigned
      let y ← right.valueUnder assigned
      return op.apply x y := by
  cases op <;> rfl

def Unbound : Expr → Prop
  | .number _ => True
  | .variable _ value => value = none
  | .binary _ left right => left.Unbound ∧ right.Unbound

theorem unbound_ofOperand (operand : Operand) : (ofOperand operand).Unbound := by
  cases operand <;> simp [ofOperand, Unbound]

theorem valueUnder_congr {f g : String → Option Float} {tree : Expr}
    (h : ∀ name ∈ tree.names, f name = g name) : tree.valueUnder f = tree.valueUnder g := by
  induction tree with
  | number value => rfl
  | «variable» name value => exact h name (by simp [names])
  | binary op left right ihl ihr =>
    simp only [names, List.mem_append] at h
    simp only [valueUnder_binary, ihl fun name hname => h name (.inl hname),
      ihr fun name hname => h name (.inr hname)]

def assign (assigned : String → Option Float) : Expr → Expr
  | .number value => .number value
  | .variable name value => .variable name ((assigned name).or value)
  | .binary op left right => .binary op (left.assign assigned) (right.assign assigned)

theorem assign_none (tree : Expr) : tree.assign (fun _ => none) = tree := by
  induction tree with
  | number value => rfl
  | «variable» name value => rfl
  | binary op left right ihl ihr => simp only [assign, ihl, ihr]

theorem assign_bind (assigned : String → Option Float) (name : String) (value : Float)
    (tree : Expr) :
    (tree.bind name value).assign assigned =
      tree.assign fun other => (assigned other).or (if other = name then some value else none) := by
  induction tree with
  | number value => rfl
  | «variable» other old => by_cases h : other = name <;> simp [bind, assign, h]
  | binary op left right ihl ihr => simp only [bind, assign, ihl, ihr]

def bindFrom (assigned : String → Option Float) (tree : Expr) (name : String) : Expr :=
  match assigned name with
  | some value => tree.bind name value
  | none => tree

theorem foldl_bindFrom (assigned : String → Option Float) (names : List String) (tree : Expr) :
    names.foldl (bindFrom assigned) tree =
      tree.assign fun name => if name ∈ names then assigned name else none := by
  induction names generalizing tree with
  | nil => simp [assign_none]
  | cons name names ih =>
    rw [List.foldl_cons, ih, bindFrom]
    cases h : assigned name with
    | none =>
      congr 1
      funext other
      by_cases heq : other = name <;> simp [heq, h]
    | some value =>
      simp only [assign_bind]
      congr 1
      funext other
      by_cases heq : other = name <;> by_cases hmem : name ∈ names <;> simp [heq, h, hmem]

theorem evaluate_assign {assigned : String → Option Float} {tree : Expr} (h : tree.Unbound) :
    (tree.assign assigned).evaluate.toOption = tree.valueUnder assigned := by
  induction tree with
  | number value => rfl
  | «variable» name value =>
    obtain rfl : value = none := h
    simp only [assign, valueUnder, Option.or_none]
    cases assigned name <;> rfl
  | binary op left right ihl ihr =>
    simp only [assign, evaluate, valueUnder_binary, ← ihl h.1, ← ihr h.2]
    cases (left.assign assigned).evaluate with
    | error => rfl
    | ok x =>
      cases (right.assign assigned).evaluate with
      | error => rfl
      | ok y => rfl

theorem evaluate_foldl_bindFrom {assigned : String → Option Float} {names : List String}
    {tree : Expr} (h : tree.Unbound) (hnames : ∀ name ∈ tree.names, name ∈ names) :
    (names.foldl (bindFrom assigned) tree).evaluate.toOption = tree.valueUnder assigned := by
  rw [foldl_bindFrom, evaluate_assign h]
  exact valueUnder_congr fun name hname => if_pos (hnames name hname)

theorem assigned_of_valueUnder {assigned : String → Option Float} {tree : Expr} {value : Float}
    (h : tree.valueUnder assigned = some value) :
    ∀ name ∈ tree.names, (assigned name).isSome := by
  induction tree generalizing value with
  | number => simp [names]
  | «variable» name old => simp_all [names, valueUnder]
  | binary op left right ihl ihr =>
    simp only [valueUnder_binary, Option.bind_eq_bind, Option.bind_eq_some_iff] at h
    obtain ⟨x, hx, y, hy, -⟩ := h
    intro name hname
    rcases List.mem_append.mp hname with hname | hname
    · exact ihl hx name hname
    · exact ihr hy name hname

end Worksheet.Expr

namespace Worksheet.Formula

theorem names_ofExpr (tree : Expr) : (ofExpr tree).names = tree.names.eraseDups := by
  rw [names, ofExpr, List.map_map]
  exact List.map_id _

end Worksheet.Formula
