import Mathlib.Data.List.TakeWhile
import Worksheet.Address.Name
import Worksheet.Text.Character

namespace Worksheet.Address

def columnFrom (number : Nat) (letters : List Char) : Nat :=
  letters.foldl (fun number letter => number * 26 + letterWorth letter) number

inductive Names (text : String) (address : Address) : Prop
  | intro {letters digits : List Char} (htext : text.toList = letters ++ digits)
    (hletters : letters ≠ [] ∧ ∀ c ∈ letters, c.isAlpha = true)
    (hdigits : digits ≠ [] ∧ ∀ c ∈ digits, c.isDigit = true)
    (hcol : columnFrom 0 letters = address.col + 1)
    (hrow : Nat.ofDigitChars 10 digits 0 = address.row + 1)

variable {text : String} {address : Address} {number : Nat} {letters digits : List Char}

theorem le_columnFrom (number : Nat) (letters : List Char) : number ≤ columnFrom number letters := by
  induction letters generalizing number with
  | nil => exact Nat.le_refl _
  | cons letter letters ih =>
    have hrest := ih (number * 26 + letterWorth letter)
    rw [columnFrom, List.foldl_cons, ← columnFrom]
    omega

theorem foldlM_extendColumn (hnumber : number ≤ maxCols)
    (hletters : ∀ c ∈ letters, c.isAlpha = true) :
    letters.foldlM extendColumn number =
      if columnFrom number letters ≤ maxCols then .ok (columnFrom number letters)
      else .error .columnBeyond := by
  induction letters generalizing number with
  | nil => exact (if_pos hnumber).symm
  | cons letter letters ih =>
    obtain ⟨hletter, hrest⟩ := List.forall_mem_cons.mp hletters
    rw [List.foldlM_cons, extendColumn, if_pos hletter, columnFrom, List.foldl_cons, ← columnFrom]
    simp only
    split
    · rename_i hextended
      exact ih hextended hrest
    · rename_i hextended
      have hle := le_columnFrom (number * 26 + letterWorth letter) letters
      rw [if_neg (by omega)]
      rfl

theorem readColumn_eq (hne : letters ≠ []) (hletters : ∀ c ∈ letters, c.isAlpha = true) {col : Nat}
    (hcol : columnFrom 0 letters = col + 1) :
    readColumn letters = if col < maxCols then .ok col else .error .columnBeyond := by
  rw [readColumn, if_neg (by simpa using hne), foldlM_extendColumn (Nat.zero_le _) hletters, hcol]
  by_cases hlimit : col < maxCols
  · rw [if_pos (Nat.succ_le_of_lt hlimit), if_pos hlimit]
    rfl
  · rw [if_neg (by omega), if_neg hlimit]
    rfl

theorem readRow_eq (text : String) (hne : digits ≠ []) (hdigits : ∀ c ∈ digits, c.isDigit = true)
    {row : Nat} (hrow : Nat.ofDigitChars 10 digits 0 = row + 1) :
    readRow text digits =
      if row < maxRows then .ok row
      else .error (if Nat.pow 2 32 ≤ row + 1 then .badRow text else .rowBeyond row) := by
  have hempty : ¬ digits.isEmpty = true := by simpa using hne
  have hall : ¬ ¬ digits.all Char.isDigit = true := not_not.mpr (List.all_eq_true.mpr hdigits)
  have hwide : maxRows < Nat.pow 2 32 := by decide
  simp only [readRow, if_neg hempty, if_neg hall, hrow, Nat.add_sub_cancel]
  by_cases hlimit : row < maxRows
  · rw [if_neg (by omega), if_neg (by omega), if_neg (by omega), if_pos hlimit]
  · rw [if_neg hlimit, if_neg (Nat.succ_ne_zero row)]
    split
    · rfl
    · rw [if_pos (by omega)]

theorem not_isAlpha_of_isDigit {c : Char} (h : c.isDigit = true) : ¬ c.isAlpha = true := by
  intro halpha
  have hle : 'A'.toNat ≤ '9'.toNat :=
    (Text.toNat_of_isAlpha halpha).1.trans (Text.toNat_of_isDigit h).2
  exact absurd hle (by decide)

theorem span_isAlpha (hletters : ∀ c ∈ letters, c.isAlpha = true)
    (hdigits : ∀ c ∈ digits, c.isDigit = true) :
    (letters ++ digits).takeWhile Char.isAlpha = letters ∧
      (letters ++ digits).dropWhile Char.isAlpha = digits := by
  rw [List.takeWhile_append_of_pos hletters, List.dropWhile_append_of_pos hletters]
  cases digits with
  | nil => simp
  | cons digit digits =>
    have hdigit := not_isAlpha_of_isDigit (hdigits digit List.mem_cons_self)
    simp [hdigit]

theorem parse_eq (h : Names text address) :
    parse text =
      if address.col < maxCols then
        if address.row < maxRows then .ok address
        else .error
          (if Nat.pow 2 32 ≤ address.row + 1 then .badRow text else .rowBeyond address.row)
      else .error .columnBeyond := by
  obtain ⟨htext, ⟨hletter, hletters⟩, ⟨hdigit, hdigits⟩, hcol, hrow⟩ := h
  obtain ⟨htake, hdrop⟩ := span_isAlpha hletters hdigits
  have hempty : ¬ text.isEmpty = true := by
    have hne : text.toList ≠ [] := by simp [htext, hletter]
    simpa using hne
  rw [parse]
  simp only [htext, htake, hdrop, if_neg hempty, readColumn_eq hletter hletters hcol,
    readRow_eq text hdigit hdigits hrow]
  rw [if_neg (by simpa using hletter)]
  by_cases hcolumn : address.col < maxCols
  · simp only [if_pos hcolumn]
    split <;> rfl
  · simp only [if_neg hcolumn]
    rfl

def InLimits (address : Address) : Prop := address.row < maxRows ∧ address.col < maxCols

instance (address : Address) : Decidable address.InLimits :=
  inferInstanceAs (Decidable (address.row < maxRows ∧ address.col < maxCols))

theorem parse_of_inLimits (h : Names text address) (hlimits : address.InLimits) :
    parse text = .ok address := by
  rw [parse_eq h, if_pos hlimits.2, if_pos hlimits.1]

theorem exists_parse_eq_error (h : Names text address) (hbeyond : ¬ address.InLimits) :
    ∃ cause, parse text = .error cause := by
  rw [parse_eq h]
  split
  · rename_i hcol
    rw [if_neg fun hrow => hbeyond ⟨hrow, hcol⟩]
    exact ⟨_, rfl⟩
  · exact ⟨_, rfl⟩

theorem Names.exists_cons (h : Names text address) : ∃ first rest, text.toList = first :: rest ∧
    first.isAlpha = true ∧ ∀ c ∈ rest, c.isAlphanum = true := by
  obtain ⟨htext, ⟨hletter, hletters⟩, ⟨-, hdigits⟩, -, -⟩ := h
  obtain ⟨first, letters, rfl⟩ := List.exists_cons_of_ne_nil hletter
  obtain ⟨hfirst, hletters⟩ := List.forall_mem_cons.mp hletters
  refine ⟨first, _, htext, hfirst, fun c hc => ?_⟩
  rw [Char.isAlphanum, Bool.or_eq_true]
  rcases List.mem_append.mp hc with hc | hc
  · exact .inl (hletters c hc)
  · exact .inr (hdigits c hc)

theorem Names.isAlphanum (h : Names text address) : ∀ c ∈ text.toList, c.isAlphanum = true := by
  obtain ⟨first, rest, htext, hfirst, hrest⟩ := h.exists_cons
  rw [htext]
  refine List.forall_mem_cons.mpr ⟨?_, hrest⟩
  rw [Char.isAlphanum, hfirst, Bool.true_or]

end Worksheet.Address
