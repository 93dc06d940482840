import Worksheet.Text.Alphabetic
import Worksheet.Text.Numeral

namespace Worksheet.Text

def inRanges (ranges : List (Nat × Nat)) (code : Nat) : Bool :=
  ranges.any fun range => range.1 ≤ code && code ≤ range.2

def isLetter (c : Char) : Bool :=
  if c.toNat < 128 then c.isAlpha else inRanges alphabeticRanges c.toNat

def isNumeral (c : Char) : Bool :=
  if c.toNat < 128 then c.isDigit else inRanges numeralRanges c.toNat

theorem toNat_of_isAlpha {c : Char} (h : c.isAlpha = true) :
    'A'.toNat ≤ c.toNat ∧ c.toNat ≤ 'z'.toNat := by
  rcases (Bool.or_eq_true _ _).mp h with hupper | hlower
  · have hrange : 'A'.val ≤ c.val ∧ c.val ≤ 'Z'.val := of_decide_eq_true hupper
    have hle : c.toNat ≤ 'Z'.toNat := UInt32.le_iff_toNat_le.mp hrange.2
    exact ⟨UInt32.le_iff_toNat_le.mp hrange.1, Nat.le_trans hle (by decide)⟩
  · have hrange := (Bool.and_eq_true _ _).mp hlower
    have hle : 'a'.toNat ≤ c.toNat := UInt32.le_iff_toNat_le.mp (of_decide_eq_true hrange.1)
    exact ⟨Nat.le_trans (by decide) hle, UInt32.le_iff_toNat_le.mp (of_decide_eq_true hrange.2)⟩

theorem toNat_of_isDigit {c : Char} (h : c.isDigit = true) :
    '0'.toNat ≤ c.toNat ∧ c.toNat ≤ '9'.toNat := by
  have hrange := (Bool.and_eq_true _ _).mp h
  exact ⟨UInt32.le_iff_toNat_le.mp (of_decide_eq_true hrange.1),
    UInt32.le_iff_toNat_le.mp (of_decide_eq_true hrange.2)⟩

theorem isLetter_of_isAlpha {c : Char} (h : c.isAlpha = true) : isLetter c = true := by
  have hascii : c.toNat < 128 := Nat.lt_of_le_of_lt (toNat_of_isAlpha h).2 (by decide)
  simp [isLetter, hascii, h]

theorem isNumeral_of_isDigit {c : Char} (h : c.isDigit = true) : isNumeral c = true := by
  have hascii : c.toNat < 128 := Nat.lt_of_le_of_lt (toNat_of_isDigit h).2 (by decide)
  simp [isNumeral, hascii, h]

def blankRanges : List (Nat × Nat) :=
  [(0x9, 0xD), (0x20, 0x20), (0x85, 0x85), (0xA0, 0xA0), (0x1680, 0x1680), (0x2000, 0x200A),
   (0x2028, 0x2029), (0x202F, 0x202F), (0x205F, 0x205F), (0x3000, 0x3000)]

def isBlank (c : Char) : Bool := inRanges blankRanges c.toNat

theorem isBlank_of_isAlphanum {c : Char} (h : c.isAlphanum = true) : isBlank c = false := by
  have hbounds : '0'.toNat ≤ c.toNat ∧ c.toNat ≤ 'z'.toNat := by
    rcases (Bool.or_eq_true _ _).mp h with halpha | hdigit
    · obtain ⟨hlow, hhigh⟩ := toNat_of_isAlpha halpha
      exact ⟨Nat.le_trans (by decide) hlow, hhigh⟩
    · obtain ⟨hlow, hhigh⟩ := toNat_of_isDigit hdigit
      exact ⟨hlow, Nat.le_trans hhigh (by decide)⟩
  have hgap : ∀ range ∈ blankRanges, range.2 < '0'.toNat ∨ 'z'.toNat < range.1 := by decide
  rw [isBlank, inRanges, List.any_eq_false]
  intro range hrange hblank
  rw [Bool.and_eq_true, decide_eq_true_eq, decide_eq_true_eq] at hblank
  rcases hgap range hrange with hbelow | habove
  · omega
  · omega

end Worksheet.Text
