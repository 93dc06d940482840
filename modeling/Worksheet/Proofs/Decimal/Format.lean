import Worksheet.Proofs.Decimal.Layout
import Worksheet.Proofs.Expression.Table
import Worksheet.Sheet.Change

namespace Worksheet

namespace Decimal

open Nat (toDigits ofDigitChars)

variable {m whole : Nat} {x y : Float}

theorem units_of_smallInteger? (h : smallInteger? m = some whole) :
    m < infinite ∧ units m = whole * unit := by
  simp only [smallInteger?] at h
  split at h
  · rename_i hsmall
    obtain rfl := Option.some.inj h
    refine ⟨hsmall.1.1, ?_⟩
    have hdiv := Nat.div_add_mod' (units m) unit
    rw [hsmall.1.2, Nat.add_zero] at hdiv
    exact hdiv.symm
  · cases h

theorem eq_zero_of_units (h : m < infinite) (hunits : units m = 0) : m = 0 := by
  rw [← ofQuotient_units h, hunits, ofQuotient_eq_zero]
  rw [Nat.zero_mul]
  exact unit_pos

theorem smallInteger?_zero : smallInteger? 0 = some 0 := by decide +kernel

theorem exists_toDigits_eq_cons (whole : Nat) :
    ∃ digit rest, toDigits 10 whole = digit :: rest ∧ digit.isDigit = true := by
  have hne : toDigits 10 whole ≠ [] := Nat.toDigits_ne_nil
  obtain ⟨digit, rest, hdigits⟩ := List.exists_cons_of_ne_nil hne
  refine ⟨digit, rest, hdigits, ?_⟩
  apply Nat.isDigit_of_mem_toDigits (b := 10) (n := whole) (by decide) (by decide)
  rw [hdigits]
  exact List.mem_cons_self

theorem magnitude?_toDigits (whole : Nat) :
    magnitude? (toDigits 10 whole) = some (ofQuotient (whole * unit) unit) := by
  obtain ⟨digit, rest, hdigits, hdigit⟩ := exists_toDigits_eq_cons whole
  have hscientific : scientific? (toDigits 10 whole ++ point []) =
      some (ofDigitChars 10 (toDigits 10 whole ++ []) 0, -(([] : List Char).length : Int)) :=
    scientific?_point Nat.toDigits_ne_nil
      (fun c hc => Nat.isDigit_of_mem_toDigits (by decide) (by decide) hc) (List.forall_mem_nil _)
  simp only [point, List.append_nil, Nat.ofDigitChars_ten_toDigits, List.length_nil, Int.ofNat_zero,
    Int.neg_zero] at hscientific
  rw [hdigits, magnitude?_of_starts (.inl hdigit), ← hdigits, hscientific, Option.map_some,
    roundScientific_eq]
  apply congrArg some
  apply ofQuotient_congr (ten_pow_pos _) unit_pos
  have hone : Nat.pow 10 (0 : Int).toNat = 1 := rfl
  have hone' : Nat.pow 10 (-(0 : Int)).toNat = 1 := rfl
  rw [hone, hone', Nat.mul_one, Nat.mul_one]

theorem ofText?_format_of_smallInteger? (h : smallInteger? (magnitude x) = some whole) :
    ofText? (format x) = some (float (isNegative x && whole != 0) (magnitude x)) := by
  obtain ⟨hfinite, hunits⟩ := units_of_smallInteger? h
  have hread := magnitude?_toDigits whole
  rw [← hunits, ofQuotient_units hfinite] at hread
  obtain ⟨digit, rest, hdigits, hdigit⟩ := exists_toDigits_eq_cons whole
  rw [format, h]
  simp only [ofText?, String.toList_ofList]
  apply ofChars?_sign_append _ hread
  refine ⟨digit, rest, hdigits, ?_, ?_⟩
  · rintro rfl
    exact absurd hdigit (by decide)
  · rintro rfl
    exact absurd hdigit (by decide)

theorem showFloat_of_isNaN (h : x.isNaN = true) : showFloat x = "NaN" := by
  have hlarge := (isNaN_iff x).mp h
  rw [showFloat, decide_eq_false (Nat.not_le.mpr hlarge), Bool.and_false, showMagnitude,
    if_pos hlarge]
  rfl

structure Reread (x y : Float) : Prop where
  same : x.isNaN = false → x.toBits ≠ 0x8000000000000000 → y.toBits = x.toBits
  negativeZero : x.toBits = 0x8000000000000000 → y.toBits = 0
  nan : x.isNaN = true → y.isNaN = true

theorem magnitude_of_negativeZero (h : x.toBits = 0x8000000000000000) : magnitude x = 0 := by
  rw [magnitude, h]
  rfl

theorem isNegative_of_magnitude_zero (h : magnitude x = 0) (hne : x.toBits ≠ 0x8000000000000000) :
    isNegative x = false := by
  apply Bool.eq_false_iff.mpr
  intro hnegative
  apply hne
  rw [← float_magnitude x, h, hnegative]
  decide +kernel

theorem reread_of_smallInteger? (h : smallInteger? (magnitude x) = some whole) :
    Reread x (float (isNegative x && whole != 0) (magnitude x)) := by
  obtain ⟨hfinite, hunits⟩ := units_of_smallInteger? h
  have hnumber : x.isNaN = true → False := by
    intro hnan
    have hlarge := (isNaN_iff x).mp hnan
    omega
  constructor
  case same =>
    intro _ hne
    have hsign : (isNegative x && whole != 0) = isNegative x := by
      by_cases hzero : whole = 0
      · rw [hzero, Nat.zero_mul] at hunits
        rw [isNegative_of_magnitude_zero (eq_zero_of_units hfinite hunits) hne, Bool.false_and]
      · rw [bne_iff_ne.mpr hzero, Bool.and_true]
    rw [hsign, float_magnitude]
  case negativeZero =>
    intro hbits
    have hzero := magnitude_of_negativeZero hbits
    rw [hzero, smallInteger?_zero, Option.some.injEq] at h
    rw [hzero, ← h, bne_self_eq_false, Bool.and_false]
    decide +kernel
  case nan => exact fun hnan => (hnumber hnan).elim

theorem exists_reread (x : Float) : ∃ y, ofText? (format x) = some y ∧ Reread x y := by
  cases hsmall : smallInteger? (magnitude x) with
  | some whole =>
    exact ⟨_, ofText?_format_of_smallInteger? hsmall, reread_of_smallInteger? hsmall⟩
  | none =>
    have hformat : format x = showFloat x := by rw [format, hsmall]
    have hzero : x.toBits ≠ 0x8000000000000000 := by
      intro hbits
      rw [magnitude_of_negativeZero hbits, smallInteger?_zero] at hsmall
      cases hsmall
    cases hnan : x.isNaN with
    | true =>
      have hread : ofText? "NaN" = some (float false (infinite + Nat.pow 2 51)) := by decide +kernel
      rw [hformat, showFloat_of_isNaN hnan]
      refine ⟨_, hread, ?_, fun hbits => absurd hbits hzero, fun _ => by decide +kernel⟩
      rw [hnan]
      exact fun h => absurd h.symm Bool.false_ne_true
    | false =>
      have hle : magnitude x ≤ infinite := by
        apply Nat.le_of_not_lt
        rw [← isNaN_iff, hnan]
        exact Bool.false_ne_true
      rw [hformat]
      refine ⟨x, ofText?_showFloat hle, fun _ _ => rfl, fun hbits => absurd hbits hzero, ?_⟩
      exact fun h => absurd (hnan.symm.trans h) Bool.false_ne_true

end Decimal

namespace Sheet

variable {sheet : Sheet} {address : Address} {x : Float}

structure Hands (sheet : Sheet) (address : Address) (formula : Formula) (name : String)
    (x y : Float) : Prop where
  number : numericValue? (sheet.value? address) = some y
  bound : sheet.bindReference formula (name, address) = formula.bind name y
  isSet : name ∈ formula.names →
    (sheet.bindReference formula (name, address)).binding? name = some (some y)
  reread : Decimal.Reread x y

theorem hands_of_format (h : sheet.value? address = some (Decimal.format x)) (formula : Formula)
    (name : String) : ∃ y, sheet.Hands address formula name x y := by
  obtain ⟨y, hread, hreread⟩ := Decimal.exists_reread x
  have hvalue : Decimal.format x ≠ refError := by
    intro herror
    have hnone : Decimal.ofText? refError = none := by decide +kernel
    rw [herror, hnone] at hread
    cases hread
  have hnumber : numericValue? (sheet.value? address) = some y := by
    rw [h, numericValue?, if_neg hvalue, hread, Option.getD_some]
  have hbound : sheet.bindReference formula (name, address) = formula.bind name y := by
    simp only [bindReference, hnumber]
  refine ⟨y, hnumber, hbound, ?_, hreread⟩
  intro hname
  rw [hbound]
  exact Formula.binding?_bind hname y

def negativeZero : Sheet := ((fresh ⟨1, 1, none⟩).setText ⟨0, 0⟩ "=0*(1-2)").sheet

theorem hands_negativeZero :
    negativeZero.value? ⟨0, 0⟩ = some (Decimal.format (Decimal.float true 0)) ∧
      ∃ y, negativeZero.Hands ⟨0, 0⟩ (.ofExpr (.variable "A1" none)) "A1"
        (Decimal.float true 0) y := by
  have h : negativeZero.value? ⟨0, 0⟩ = some (Decimal.format (Decimal.float true 0)) := by
    decide +kernel
  exact ⟨h, hands_of_format h _ "A1"⟩

end Sheet

end Worksheet
