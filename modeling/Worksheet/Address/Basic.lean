namespace Worksheet

structure Address where
  row : Nat
  col : Nat
deriving DecidableEq, Repr

namespace Address

def maxRows : Nat := 1048576

def maxCols : Nat := 16384

instance : Inhabited Address := ⟨⟨0, 0⟩⟩

instance : Ord Address := ⟨compareLex (compareOn row) (compareOn col)⟩

instance : Std.TransOrd Address :=
  inferInstanceAs (Std.TransCmp (compareLex (compareOn row) (compareOn col)))

instance : Std.LawfulEqOrd Address where
  eq_of_compare {a b} h := by
    obtain ⟨hr, hc⟩ := compareLex_eq_eq.mp h
    cases a
    cases b
    simp_all [compareOn]

end Address

end Worksheet
