import Mathlib
import Worksheet.Proofs.Address.Name

namespace Worksheet.Address

variable {number : Nat} {letter : Char} {letters : List Char}

theorem toNat_toUpper (h : letter.isAlpha = true) :
    'A'.toNat ≤ letter.toUpper.toNat ∧ letter.toUpper.toNat ≤ 'Z'.toNat := by
  rw [← Char.isUpper_toUpper_eq_isAlpha] at h
  have hrange : 'A'.val ≤ letter.toUpper.val ∧ letter.toUpper.val ≤ 'Z'.val := of_decide_eq_true h
  exact ⟨UInt32.le_iff_toNat_le.mp hrange.1, UInt32.le_iff_toNat_le.mp hrange.2⟩

theorem letterWorth_bounds (h : letter.isAlpha = true) :
    0 < letterWorth letter ∧ letterWorth letter ≤ 26 := by
  obtain ⟨hfirst, hlast⟩ := toNat_toUpper h
  change 65 ≤ _ at hfirst
  change _ ≤ 90 at hlast
  change 0 < letter.toUpper.toNat - 65 + 1 ∧ letter.toUpper.toNat - 65 + 1 ≤ 26
  omega

theorem columnLetter_letterWorth (h : letter.isAlpha = true) :
    columnLetter (letterWorth letter - 1) = letter.toUpper := by
  have hfirst := (toNat_toUpper h).1
  rw [columnLetter, letterWorth, Nat.add_sub_cancel, Nat.add_sub_cancel' hfirst, Char.ofNat_toNat]

theorem toNat_columnLetter (h : number < 26) :
    (columnLetter number).toNat = 'A'.toNat + number := by
  have hvalid : ('A'.toNat + number).isValidChar := by
    left
    change 65 + number < 0xd800
    omega
  rw [columnLetter, Char.toNat_ofNat, if_pos hvalid]

theorem isUpper_columnLetter (h : number < 26) : (columnLetter number).isUpper = true := by
  have htoNat := toNat_columnLetter h
  change _ = 65 + number at htoNat
  apply decide_eq_true
  constructor
  · apply UInt32.le_iff_toNat_le.mpr
    change 65 ≤ (columnLetter number).toNat
    omega
  · apply UInt32.le_iff_toNat_le.mpr
    change (columnLetter number).toNat ≤ 90
    omega

theorem letterWorth_columnLetter (h : number < 26) :
    letterWorth (columnLetter number) = number + 1 := by
  have hlower := Char.not_isLower_of_isUpper (isUpper_columnLetter h)
  rw [letterWorth, Char.toUpper_eq_of_not_isLower hlower, toNat_columnLetter h,
    Nat.add_sub_cancel_left]

theorem columnFrom_concat (number : Nat) (letters : List Char) (letter : Char) :
    columnFrom number (letters ++ [letter]) =
      columnFrom number letters * 26 + letterWorth letter := by
  rw [columnFrom, List.foldl_concat, ← columnFrom]

theorem columnLetters_columnFrom (h : ∀ c ∈ letters, c.isAlpha = true) :
    columnLetters (columnFrom 0 letters) = letters.map Char.toUpper := by
  induction letters using List.reverseRecOn with
  | nil => rw [columnFrom, List.foldl_nil, columnLetters, if_pos rfl, List.map_nil]
  | append_singleton letters letter ih =>
    obtain ⟨hletters, hletter⟩ := List.forall_mem_append.mp h
    have halpha := hletter letter (List.mem_singleton_self letter)
    obtain ⟨hpos, hle⟩ := letterWorth_bounds halpha
    have hdiv : (columnFrom 0 letters * 26 + letterWorth letter - 1) / 26 =
        columnFrom 0 letters := by
      omega
    have hmod : (columnFrom 0 letters * 26 + letterWorth letter - 1) % 26 =
        letterWorth letter - 1 := by
      omega
    rw [columnFrom_concat, columnLetters, if_neg (by omega), hdiv, hmod, ih hletters,
      columnLetter_letterWorth halpha, List.map_append, List.map_singleton]

theorem columnFrom_columnLetters (number : Nat) : columnFrom 0 (columnLetters number) = number := by
  fun_induction columnLetters number with
  | case1 => rfl
  | case2 number hnumber ih =>
    have hlast : (number - 1) % 26 < 26 := Nat.mod_lt _ (by decide)
    rw [columnFrom_concat, ih, letterWorth_columnLetter hlast]
    omega

theorem isAlpha_of_mem_columnLetters (h : letter ∈ columnLetters number) :
    letter.isAlpha = true := by
  fun_induction columnLetters number with
  | case1 => cases h
  | case2 number _ ih =>
    rcases List.mem_append.mp h with hfront | hlast
    · exact ih hfront
    · obtain rfl := List.mem_singleton.mp hlast
      rw [Char.isAlpha, isUpper_columnLetter (Nat.mod_lt _ (by decide)), Bool.true_or]

theorem columnLetters_ne_nil (h : number ≠ 0) : columnLetters number ≠ [] := by
  rw [columnLetters, if_neg h]
  exact List.append_ne_nil_of_right_ne_nil _ (List.cons_ne_nil _ _)

end Worksheet.Address
