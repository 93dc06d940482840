import Mathlib.Data.List.Forall2
import Mathlib.Tactic.IntervalCases
import Worksheet.Color

namespace Worksheet.Color

variable {digit : Char} {value : Nat} {digits : List Char} {values : List Nat}

def IsHexDigit (c : Char) : Prop :=
  ('0' ≤ c ∧ c ≤ '9') ∨ ('A' ≤ c ∧ c ≤ 'F') ∨ ('a' ≤ c ∧ c ≤ 'f')

def Writes (digit : Char) (value : Nat) : Prop :=
  value < 16 ∧ (digit = value.digitChar ∨ digit = value.digitChar.toUpper)

theorem isHexDigit_iff :
    IsHexDigit digit ↔ (48 ≤ digit.toNat ∧ digit.toNat ≤ 57) ∨
      (65 ≤ digit.toNat ∧ digit.toNat ≤ 70) ∨ (97 ≤ digit.toNat ∧ digit.toNat ≤ 102) := by
  simp only [IsHexDigit, Char.le_def, UInt32.le_iff_toNat_le]
  rfl

theorem hexValue?_eq (digit : Char) :
    hexValue? digit =
      if 48 ≤ digit.toNat ∧ digit.toNat ≤ 57 then some (digit.toNat - 48)
      else if 65 ≤ digit.toNat ∧ digit.toNat ≤ 70 then some (digit.toNat - 65 + 10)
      else if 97 ≤ digit.toNat ∧ digit.toNat ≤ 102 then some (digit.toNat - 97 + 10)
      else none := by
  have hdigit : digit.isDigit = true ↔ 48 ≤ digit.toNat ∧ digit.toNat ≤ 57 := by
    rw [Char.isDigit, Bool.and_eq_true, decide_eq_true_eq, decide_eq_true_eq]
    rfl
  simp only [hexValue?, hdigit, Char.le_def, UInt32.le_iff_toNat_le]
  rfl

theorem isSome_hexValue?_iff : (hexValue? digit).isSome = true ↔ IsHexDigit digit := by
  rw [hexValue?_eq, isHexDigit_iff]
  split
  · simp_all
  · split
    · simp_all
    · split <;> simp_all

theorem exists_writes (h : IsHexDigit digit) : ∃ value, Writes digit value := by
  obtain ⟨code, hcode⟩ : ∃ code, digit.toNat = code := ⟨_, rfl⟩
  obtain rfl : digit = Char.ofNat code := by rw [← hcode, Char.ofNat_toNat]
  rw [isHexDigit_iff, hcode] at h
  rcases h with ⟨hfirst, hlast⟩ | ⟨hfirst, hlast⟩ | ⟨hfirst, hlast⟩
  · refine ⟨code - 48, by omega, .inl ?_⟩
    interval_cases code <;> rfl
  · refine ⟨code - 55, by omega, .inr ?_⟩
    interval_cases code <;> decide
  · refine ⟨code - 87, by omega, .inl ?_⟩
    interval_cases code <;> rfl

theorem hexValue?_of_writes (h : Writes digit value) : hexValue? digit = some value := by
  obtain ⟨hvalue, hdigit⟩ := h
  interval_cases value <;> rcases hdigit with rfl | rfl <;> decide

theorem hexValue?_eq_some_iff : hexValue? digit = some value ↔ Writes digit value := by
  refine ⟨fun h => ?_, hexValue?_of_writes⟩
  obtain ⟨other, hother⟩ := exists_writes (isSome_hexValue?_iff.mp (Option.isSome_of_eq_some h))
  rw [hexValue?_of_writes hother] at h
  exact Option.some.inj h ▸ hother

theorem isHexDigit_of_writes (h : Writes digit value) : IsHexDigit digit :=
  isSome_hexValue?_iff.mp (Option.isSome_of_eq_some (hexValue?_of_writes h))

theorem toUpper_of_writes (h : Writes digit value) : digit.toUpper = hexDigit value := by
  obtain ⟨hvalue, hdigit⟩ := h
  interval_cases value <;> rcases hdigit with rfl | rfl <;> decide

theorem hexDigit_eq (h : value < 16) : hexDigit value = value.digitChar.toUpper := by
  interval_cases value <;> decide

theorem writes_hexDigit (h : value < 16) : Writes (hexDigit value) value := ⟨h, .inr (hexDigit_eq h)⟩

theorem mapM_hexValue?_eq_some_iff :
    digits.mapM hexValue? = some values ↔ List.Forall₂ Writes digits values := by
  induction digits generalizing values with
  | nil => simp [List.forall₂_nil_left_iff, eq_comm]
  | cons digit digits ih =>
    rw [List.mapM_cons, List.forall₂_cons_left_iff]
    simp only [Option.bind_eq_bind, Option.bind_eq_some_iff, Option.pure_def, Option.some.injEq,
      hexValue?_eq_some_iff, ih]
    constructor
    · rintro ⟨value, hvalue, values, hvalues, rfl⟩
      exact ⟨value, values, hvalue, hvalues, rfl⟩
    · rintro ⟨value, values, hvalue, hvalues, rfl⟩
      exact ⟨value, hvalue, values, hvalues, rfl⟩

theorem map_toUpper_of_writes (h : List.Forall₂ Writes digits values) :
    digits.map Char.toUpper = values.map hexDigit := by
  induction h with
  | nil => rfl
  | cons hdigit _ ih => rw [List.map_cons, List.map_cons, toUpper_of_writes hdigit, ih]

theorem forall_isHexDigit_of_writes (h : List.Forall₂ Writes digits values) :
    ∀ digit ∈ digits, IsHexDigit digit := by
  induction h with
  | nil => exact List.forall_mem_nil _
  | cons hdigit _ ih => exact List.forall_mem_cons.mpr ⟨isHexDigit_of_writes hdigit, ih⟩

theorem exists_forall₂_writes (h : ∀ digit ∈ digits, IsHexDigit digit) :
    ∃ values, List.Forall₂ Writes digits values := by
  induction digits with
  | nil => exact ⟨[], .nil⟩
  | cons digit digits ih =>
    obtain ⟨hdigit, hdigits⟩ := List.forall_mem_cons.mp h
    obtain ⟨value, hvalue⟩ := exists_writes hdigit
    obtain ⟨values, hvalues⟩ := ih hdigits
    exact ⟨value :: values, .cons hvalue hvalues⟩

end Worksheet.Color
