import Worksheet.Proofs.Address.Words

namespace Worksheet.Address

open Nat (toDigits ofDigitChars)

variable {text : String} {address : Address} {row col : Nat} {letters digits : List Char}

theorem ofDigitChars_concat (digits : List Char) (digit : Char) :
    ofDigitChars 10 (digits ++ [digit]) 0 =
      10 * ofDigitChars 10 digits 0 + (digit.toNat - '0'.toNat) := by
  rw [Nat.ofDigitChars_append, Nat.ofDigitChars_cons, Nat.ofDigitChars_nil]

theorem digitChar_toNat {digit : Char} (h : digit.isDigit = true) :
    (digit.toNat - '0'.toNat).digitChar = digit := by
  obtain ⟨hfirst, hlast⟩ := Text.toNat_of_isDigit h
  change 48 ≤ _ at hfirst
  change _ ≤ 57 at hlast
  apply Char.toNat_inj.mp
  change (digit.toNat - 48).digitChar.toNat = digit.toNat
  rw [Nat.toNat_digitChar_of_lt_ten (by omega)]
  omega

theorem dropWhile_zero (h : ∀ c ∈ digits, c.isDigit = true) :
    digits.dropWhile (· = '0') =
      if ofDigitChars 10 digits 0 = 0 then [] else toDigits 10 (ofDigitChars 10 digits 0) := by
  induction digits using List.reverseRecOn with
  | nil => rfl
  | append_singleton digits digit ih =>
    obtain ⟨hdigits, hdigit⟩ := List.forall_mem_append.mp h
    have hlast := hdigit digit (List.mem_singleton_self digit)
    obtain ⟨hlow, hhigh⟩ := Text.toNat_of_isDigit hlast
    change _ ≤ 57 at hhigh
    have hiff : digit.toNat - '0'.toNat = 0 ↔ digit = '0' := by
      rw [← Char.toNat_inj]
      omega
    have hsmall : digit.toNat - '0'.toNat < 10 := by
      change digit.toNat - 48 < 10
      omega
    have hsingle := Nat.toDigits_of_lt_base hsmall
    rw [digitChar_toNat hlast] at hsingle
    rw [List.dropWhile_append, ih hdigits, ofDigitChars_concat]
    generalize digit.toNat - '0'.toNat = worth at hiff hsmall hsingle ⊢
    by_cases hzero : ofDigitChars 10 digits 0 = 0
    · rw [if_pos hzero, hzero, Nat.mul_zero, Nat.zero_add, hsingle]
      by_cases hnone : digit = '0'
      · simp [hnone, hiff]
      · simp [hnone, hiff]
    · have hne : ¬ (toDigits 10 (ofDigitChars 10 digits 0)).isEmpty = true := by simp
      have hpos : ¬ 10 * ofDigitChars 10 digits 0 + worth = 0 := by omega
      rw [if_neg hzero, if_neg hne, if_neg hpos, ← hsingle]
      exact Nat.toDigits_append_toDigits (by decide) (Nat.pos_of_ne_zero hzero) hsmall

theorem of_readColumn (h : readColumn letters = .ok col)
    (hletters : ∀ c ∈ letters, c.isAlpha = true) :
    columnFrom 0 letters = col + 1 ∧ col < maxCols := by
  rw [readColumn] at h
  split at h
  · cases h
  · rename_i hne
    rw [foldlM_extendColumn (Nat.zero_le _) hletters] at h
    split at h
    · rename_i hlimit
      have hpos : columnFrom 0 letters ≠ 0 := by
        intro hzero
        have hback := columnLetters_columnFrom hletters
        rw [hzero, columnLetters, if_pos rfl, eq_comm, List.map_eq_nil_iff] at hback
        exact hne (List.isEmpty_iff.mpr hback)
      have hcol : columnFrom 0 letters - 1 = col := Except.ok.inj h
      omega
    · cases h

theorem of_readRow (h : readRow text digits = .ok row) :
    digits ≠ [] ∧ (∀ c ∈ digits, c.isDigit = true) ∧
      ofDigitChars 10 digits 0 = row + 1 ∧ row < maxRows := by
  simp only [readRow] at h
  split at h
  · cases h
  · rename_i hne
    split at h
    · cases h
    · rename_i hall
      split at h
      · cases h
      · split at h
        · cases h
        · split at h
          · cases h
          · have hrow := Except.ok.inj h
            refine ⟨by simpa using hne, by simpa using hall, ?_, ?_⟩
            · omega
            · omega

theorem names_of_parse (h : parse text = .ok address) : Names text address ∧ address.InLimits := by
  simp only [parse] at h
  split at h
  · cases h
  · split at h
    · cases h
    · rename_i hletter
      have hletters : ∀ c ∈ text.toList.takeWhile Char.isAlpha, c.isAlpha = true :=
        fun c hc => List.mem_takeWhile_imp hc
      cases hcol : readColumn (text.toList.takeWhile Char.isAlpha) with
      | error cause =>
        rw [hcol] at h
        cases h
      | ok col =>
        cases hrow : readRow text (text.toList.dropWhile Char.isAlpha) with
        | error cause =>
          rw [hcol, hrow] at h
          cases h
        | ok row =>
          rw [hcol, hrow] at h
          obtain rfl : ⟨row, col⟩ = address := Except.ok.inj h
          obtain ⟨hnumber, hcols⟩ := of_readColumn hcol hletters
          obtain ⟨hdigit, hdigits, hvalue, hrows⟩ := of_readRow hrow
          refine ⟨⟨List.takeWhile_append_dropWhile.symm, ⟨?_, hletters⟩, ⟨hdigit, hdigits⟩, hnumber,
            hvalue⟩, hrows, hcols⟩
          simpa using hletter

def canonical (text : String) : String :=
  String.ofList
    ((text.toList.takeWhile Char.isAlpha).map Char.toUpper ++
      (text.toList.dropWhile Char.isAlpha).dropWhile (· = '0'))

theorem Names.name_eq (h : Names text address) : address.name = canonical text := by
  obtain ⟨htext, ⟨-, hletters⟩, ⟨-, hdigits⟩, hcol, hrow⟩ := h
  obtain ⟨htake, hdrop⟩ := span_isAlpha hletters hdigits
  rw [name, canonical, htext, htake, hdrop, dropWhile_zero hdigits, hrow,
    if_neg (Nat.succ_ne_zero _), ← hcol, columnLetters_columnFrom hletters]

theorem names_name (address : Address) : Names address.name address := by
  refine @Names.intro _ _ (columnLetters (address.col + 1)) (toDigits 10 (address.row + 1))
    ?_ ?_ ?_ ?_ ?_
  · rw [name, String.toList_ofList]
  · exact ⟨columnLetters_ne_nil (Nat.succ_ne_zero _), fun c hc => isAlpha_of_mem_columnLetters hc⟩
  · exact ⟨Nat.toDigits_ne_nil, fun c hc => Nat.isDigit_of_mem_toDigits (by decide) (by decide) hc⟩
  · exact columnFrom_columnLetters _
  · exact Nat.ofDigitChars_ten_toDigits

structure Exact (text : String) (address : Address) : Prop where
  read : parse text = .ok address ↔ Names text address ∧ address.InLimits
  rewritten : parse text = .ok address → address.name = canonical text
  back : address.InLimits → parse address.name = .ok address
  readInWords : Words.parse text = some (parse text)
  writtenInWords : address.InLimits → Words.name address = some address.name

theorem exact_notation (text : String) (address : Address) : Exact text address where
  read := ⟨names_of_parse, fun h => parse_of_inLimits h.1 h.2⟩
  rewritten h := (names_of_parse h).1.name_eq
  back := parse_of_inLimits (names_name address)
  readInWords := parse_inWords text
  writtenInWords := name_inWords

example : (parse "xFd0001048576").toOption = some ⟨1048575, 16383⟩ ∧
    (parse "XFE1").toOption = none ∧ canonical "xFd0001048576" = "XFD1048576" := by
  decide +kernel

end Worksheet.Address
