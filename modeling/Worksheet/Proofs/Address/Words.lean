import Worksheet.Proofs.Address.Letters

namespace Worksheet.Address

open Nat (toDigits ofDigitChars)

def word? (bits number : Nat) : Option Nat :=
  if number < Nat.pow 2 bits then some number else none

def difference? (m n : Nat) : Option Nat := if n ≤ m then some (m - n) else none

namespace Words

def letterWorth (letter : Char) : Option Nat := do
  let offset ← difference? letter.toUpper.toNat 'A'.toNat
  word? 32 (offset + 1)

def extendColumn (number : Nat) (letter : Char) : Option (Except AddressError Nat) :=
  if letter.isAlpha then do
    let shifted ← word? 32 (number * 26)
    let worth ← letterWorth letter
    let extended ← word? 32 (shifted + worth)
    some (if extended ≤ maxCols then .ok extended else .error .columnBeyond)
  else some (.error (.badLetter letter))

def readLetters (number : Nat) : List Char → Option (Except AddressError Nat)
  | [] => some (.ok number)
  | letter :: letters =>
    (extendColumn number letter).bind fun
      | .ok extended => readLetters extended letters
      | .error cause => some (.error cause)

def readColumn (letters : List Char) : Option (Except AddressError Nat) :=
  if letters.isEmpty then some (.error .emptyColumn)
  else
    (readLetters 0 letters).bind fun
      | .ok number => (difference? number 1).bind fun col => (word? 16 col).map .ok
      | .error cause => some (.error cause)

def readRow (text : String) (digits : List Char) : Option (Except AddressError Nat) :=
  if digits.isEmpty then some (.error (.noRow text))
  else if ¬ digits.all Char.isDigit then some (.error (.badRow text))
  else
    let number := ofDigitChars 10 digits 0
    match word? 32 number with
    | none => some (.error (.badRow text))
    | some number =>
      if number = 0 then some (.error (.rowZero text))
      else do
        let row ← difference? number 1
        some (if maxRows ≤ row then .error (.rowBeyond row) else .ok row)

def parse (text : String) : Option (Except AddressError Address) :=
  let letters := text.toList.takeWhile Char.isAlpha
  let digits := text.toList.dropWhile Char.isAlpha
  if text.isEmpty then some (.error .empty)
  else if letters.isEmpty then some (.error (.noColumn text))
  else
    (readColumn letters).bind fun
      | .ok col => (readRow text digits).map (·.map fun row => ⟨row, col⟩)
      | .error cause => some (.error cause)

def columnLetters : Nat → Option (List Char)
  | 0 => some []
  | last + 1 => do
    let front ← columnLetters (last / 26)
    let letter ← word? 8 (last % 26 + 'A'.toNat)
    some (front ++ [Char.ofNat letter])

def name (address : Address) : Option String := do
  let number ← word? 32 (address.col + 1)
  let letters ← columnLetters number
  let row ← word? 32 (address.row + 1)
  some (String.ofList (letters ++ toDigits 10 row))

end Words

variable {address : Address} {number total : Nat} {letter : Char} {letters : List Char}

theorem word?_eq {bits : Nat} (h : number < Nat.pow 2 bits) : word? bits number = some number :=
  if_pos h

theorem word?_of_le (h : number ≤ maxRows) : word? 32 number = some number := by
  apply word?_eq
  change number ≤ 1048576 at h
  change number < 4294967296
  omega

theorem difference?_eq {m n : Nat} (h : n ≤ m) : difference? m n = some (m - n) := if_pos h

theorem letterWorth_inWords (h : letter.isAlpha = true) :
    Words.letterWorth letter = some (letterWorth letter) := by
  have hbound := (letterWorth_bounds h).2
  rw [Words.letterWorth, difference?_eq (toNat_toUpper h).1, Option.bind_eq_bind, Option.bind_some]
  apply word?_of_le
  change letterWorth letter ≤ 1048576
  omega

theorem extendColumn_inWords (h : number ≤ maxCols) (letter : Char) :
    Words.extendColumn number letter = some (extendColumn number letter) := by
  change number ≤ 16384 at h
  rw [Words.extendColumn, extendColumn]
  by_cases halpha : letter.isAlpha = true
  · have hbound := (letterWorth_bounds halpha).2
    have hlimit : number * 26 + letterWorth letter ≤ maxRows := by
      change _ ≤ 1048576
      omega
    have hshifted := word?_of_le (Nat.le_of_add_right_le hlimit)
    have hextended := word?_of_le hlimit
    rw [if_pos halpha, if_pos halpha]
    simp only [hshifted, letterWorth_inWords halpha, hextended, Option.bind_eq_bind,
      Option.bind_some]
  · rw [if_neg halpha, if_neg halpha]

theorem of_extendColumn (h : extendColumn number letter = .ok total) :
    0 < total ∧ total ≤ maxCols := by
  rw [extendColumn] at h
  split at h
  · rename_i halpha
    have hpos := (letterWorth_bounds halpha).1
    simp only at h
    split at h
    · obtain rfl := Except.ok.inj h
      omega
    · cases h
  · cases h

theorem of_foldlM_extendColumn (hne : letters ≠ [])
    (h : letters.foldlM extendColumn number = .ok total) : 0 < total ∧ total ≤ maxCols := by
  induction letters generalizing number with
  | nil => exact absurd rfl hne
  | cons letter letters ih =>
    rw [List.foldlM_cons] at h
    cases hextended : extendColumn number letter with
    | error cause =>
      rw [hextended] at h
      cases h
    | ok extended =>
      rw [hextended] at h
      cases letters with
      | nil =>
        obtain rfl : extended = total := Except.ok.inj h
        exact of_extendColumn hextended
      | cons => exact ih (List.cons_ne_nil _ _) h

theorem readLetters_inWords (h : number ≤ maxCols) (letters : List Char) :
    Words.readLetters number letters = some (letters.foldlM extendColumn number) := by
  induction letters generalizing number with
  | nil => rfl
  | cons letter letters ih =>
    rw [Words.readLetters, extendColumn_inWords h, Option.bind_some, List.foldlM_cons]
    cases hextended : extendColumn number letter with
    | error cause => rfl
    | ok extended => exact ih (of_extendColumn hextended).2

theorem readColumn_inWords (letters : List Char) :
    Words.readColumn letters = some (readColumn letters) := by
  rw [Words.readColumn, readColumn]
  by_cases hne : letters.isEmpty = true
  · rw [if_pos hne, if_pos hne]
  · rw [if_neg hne, if_neg hne, readLetters_inWords (Nat.zero_le _), Option.bind_some]
    cases htotal : letters.foldlM extendColumn 0 with
    | error cause => rfl
    | ok total =>
      obtain ⟨hpos, hle⟩ := of_foldlM_extendColumn (by simpa using hne) htotal
      change total ≤ 16384 at hle
      have hword : word? 16 (total - 1) = some (total - 1) := by
        apply word?_eq
        change _ < 65536
        omega
      simp only [difference?_eq (Nat.succ_le_of_lt hpos), Option.bind_some, hword, Option.map_some]
      rfl

theorem readRow_inWords (text : String) (digits : List Char) :
    Words.readRow text digits = some (readRow text digits) := by
  simp only [Words.readRow, readRow, word?]
  by_cases hne : digits.isEmpty = true
  · rw [if_pos hne, if_pos hne]
  · rw [if_neg hne, if_neg hne]
    by_cases hall : ¬ digits.all Char.isDigit = true
    · rw [if_pos hall, if_pos hall]
    · rw [if_neg hall, if_neg hall]
      generalize ofDigitChars 10 digits 0 = number
      by_cases hwide : Nat.pow 2 32 ≤ number
      · rw [if_pos hwide, if_neg (Nat.not_lt.mpr hwide)]
      · rw [if_neg hwide, if_pos (Nat.lt_of_not_le hwide)]
        by_cases hzero : number = 0
        · simp only [if_pos hzero]
        · simp only [if_neg hzero, difference?_eq (Nat.one_le_iff_ne_zero.mpr hzero),
            Option.bind_eq_bind, Option.bind_some]
          by_cases hlimit : maxRows < number
          · rw [if_pos hlimit, if_pos (by omega)]
          · rw [if_neg hlimit, if_neg (by omega)]

theorem parse_inWords (text : String) : Words.parse text = some (parse text) := by
  simp only [Words.parse, parse, readColumn_inWords, readRow_inWords, Option.bind_some,
    Option.map_some]
  split
  · rfl
  · split
    · rfl
    · cases readColumn (text.toList.takeWhile Char.isAlpha) with
      | error cause => rfl
      | ok col =>
        cases readRow text (text.toList.dropWhile Char.isAlpha) with
        | error cause => rfl
        | ok row => rfl

theorem columnLetters_inWords (number : Nat) :
    Words.columnLetters number = some (columnLetters number) := by
  fun_induction Words.columnLetters number with
  | case1 => rw [columnLetters, if_pos rfl]
  | case2 last ih =>
    have hsmall := Nat.mod_lt last (show 0 < 26 by decide)
    have hletter : word? 8 (last % 26 + 'A'.toNat) = some (last % 26 + 'A'.toNat) := by
      apply word?_eq
      change _ + 65 < 256
      omega
    have hletters : columnLetters (last + 1) =
        columnLetters (last / 26) ++ [columnLetter (last % 26)] := by
      rw [columnLetters, if_neg (Nat.succ_ne_zero last), Nat.add_sub_cancel]
    rw [ih, hletter, hletters, columnLetter, Nat.add_comm 'A'.toNat]
    rfl

theorem name_inWords (h : address.InLimits) : Words.name address = some address.name := by
  have hcolumns : maxCols ≤ maxRows := by decide
  have hnumber := word?_of_le (Nat.le_trans (Nat.succ_le_of_lt h.2) hcolumns)
  have hdigits := word?_of_le (Nat.succ_le_of_lt h.1)
  rw [Words.name, hnumber, hdigits]
  simp only [Option.bind_eq_bind, Option.bind_some, columnLetters_inWords]
  rfl

end Worksheet.Address
