import Worksheet.Decimal.Layout
import Worksheet.Proofs.Decimal.Rounding
import Worksheet.Proofs.Decimal.Bits
import Worksheet.Text.Character

namespace Worksheet.Decimal

open Nat (toDigits ofDigitChars)

variable {m places remainder : Nat} {text digits whole fraction : List Char} {c : Char}
  {exponent : Int}

theorem ofScientific_neg (n : Nat) {scale : Nat} (h : scale * unit = Nat.pow 10 places) :
    ofScientific (n * scale) (-places) = ofQuotient n unit := by
  have hnone : (-(places : Int)).toNat = 0 := by omega
  have hplaces : (- -(places : Int)).toNat = places := by omega
  have hone : Nat.pow 10 0 = 1 := rfl
  rw [ofScientific, hnone, hplaces, hone, Nat.mul_one]
  apply ofQuotient_congr (ten_pow_pos places) unit_pos
  rw [Nat.mul_assoc, h]

theorem readsBack_expansion (h : m < infinite) : readsBack m (expansion m) = true := by
  have hunit : Nat.pow 5 1074 * unit = Nat.pow 10 1074 := by decide +kernel
  have hrounded := ofScientific_neg (units m) hunit
  rw [readsBack, beq_iff_eq]
  exact hrounded.trans (ofQuotient_units h)

theorem readsBack_shortest (h : m < infinite) : readsBack m (shortest m) = true := by
  unfold shortest
  cases hfound : (List.range 17).findSome? fun n : Nat =>
      (neighbors m (scale m - (n + 1))).find? (readsBack m) with
  | none => exact readsBack_expansion h
  | some decimal =>
    obtain ⟨n, -, hn⟩ := List.exists_of_findSome?_eq_some hfound
    exact List.find?_some hn

theorem ofDigitChars_append_zero (whole fraction : List Char) :
    ofDigitChars 10 (whole ++ fraction) 0 =
      ofDigitChars 10 whole 0 * Nat.pow 10 fraction.length + ofDigitChars 10 fraction 0 := by
  rw [Nat.ofDigitChars_append, Nat.ofDigitChars_eq_ofDigitChars_zero, Nat.mul_comm]
  rfl

theorem exists_dropTrailingZeros (digits : List Char) :
    ∃ zeros, dropTrailingZeros digits ++ List.replicate zeros '0' = digits := by
  have hzeros : digits.reverse.takeWhile (· = '0') =
      List.replicate (digits.reverse.takeWhile (· = '0')).length '0' := by
    apply List.eq_replicate_of_mem
    intro c hc
    exact of_decide_eq_true (List.all_eq_true.mp List.all_takeWhile c hc)
  refine ⟨(digits.reverse.takeWhile (· = '0')).length, ?_⟩
  rw [← List.reverse_replicate, ← hzeros, dropTrailingZeros, ← List.reverse_append,
    List.takeWhile_append_dropWhile, List.reverse_reverse]

theorem length_paddedDigits (hplaces : 0 < places) (h : remainder < Nat.pow 10 places) :
    (paddedDigits places remainder).length = places := by
  have hlength : (toDigits 10 remainder).length ≤ places :=
    (Nat.length_toDigits_le_iff (by decide) hplaces).mpr h
  rw [paddedDigits, List.length_append, List.length_replicate]
  omega

theorem ofDigitChars_paddedDigits (places remainder : Nat) :
    ofDigitChars 10 (paddedDigits places remainder) 0 = remainder := by
  rw [paddedDigits, Nat.ofDigitChars_append, Nat.ofDigitChars_replicate_zero, Nat.mul_zero,
    Nat.ofDigitChars_ten_toDigits]

theorem isDigit_of_mem_paddedDigits (hc : c ∈ paddedDigits places remainder) :
    c.isDigit = true := by
  rcases List.mem_append.mp hc with hzero | hdigit
  · rw [List.eq_of_mem_replicate hzero]
    rfl
  · exact Nat.isDigit_of_mem_toDigits (by decide) (by decide) hdigit

theorem ofDigitChars_dropTrailingZeros (h : remainder < Nat.pow 10 places)
    (hfraction : dropTrailingZeros (paddedDigits places remainder) = fraction) :
    ofDigitChars 10 fraction 0 * Nat.pow 10 places = remainder * Nat.pow 10 fraction.length := by
  obtain ⟨zeros, hzeros⟩ := exists_dropTrailingZeros (paddedDigits places remainder)
  rw [hfraction] at hzeros
  have hvalue : Nat.pow 10 zeros * ofDigitChars 10 fraction 0 = remainder := by
    rw [← ofDigitChars_paddedDigits places remainder, ← hzeros, Nat.ofDigitChars_append,
      Nat.ofDigitChars_replicate_zero]
    rfl
  by_cases hplaces : places = 0
  · subst hplaces
    obtain rfl : remainder = 0 := Nat.lt_one_iff.mp h
    have hnone : ofDigitChars 10 fraction 0 = 0 :=
      (Nat.mul_eq_zero.mp hvalue).resolve_left (Nat.ne_of_gt (ten_pow_pos zeros))
    rw [hnone, Nat.zero_mul, Nat.zero_mul]
  · have hlength := length_paddedDigits (Nat.pos_of_ne_zero hplaces) h
    rw [← hzeros, List.length_append, List.length_replicate] at hlength
    have hpower : Nat.pow 10 places = Nat.pow 10 zeros * Nat.pow 10 fraction.length := by
      rw [← hlength, Nat.add_comm]
      exact Nat.pow_add 10 zeros _
    rw [← hvalue, hpower, ← Nat.mul_assoc, Nat.mul_comm (ofDigitChars 10 fraction 0)]

def point : List Char → List Char
  | [] => []
  | digit :: digits => '.' :: digit :: digits

theorem positional_eq (significand : Nat) (exponent : Int) :
    positional significand exponent =
      toDigits 10 (significand * Nat.pow 10 exponent.toNat / Nat.pow 10 (-exponent).toNat) ++
        point (dropTrailingZeros (paddedDigits (-exponent).toNat
          (significand * Nat.pow 10 exponent.toNat % Nat.pow 10 (-exponent).toNat))) := by
  simp only [positional]
  generalize dropTrailingZeros _ = fraction
  cases fraction with
  | nil => exact (List.append_nil _).symm
  | cons => rfl

theorem digits?_of_isDigit (hne : digits ≠ []) (h : ∀ c ∈ digits, c.isDigit = true) :
    digits? digits = some (ofDigitChars 10 digits 0) := by
  have hall : digits.all Char.isDigit = true := List.all_eq_true.mpr h
  rw [digits?, hall, Bool.and_true, if_pos]
  simpa using hne

theorem span_isDigit (hwhole : ∀ c ∈ whole, c.isDigit = true) (fraction : List Char) :
    (whole ++ point fraction).takeWhile Char.isDigit = whole ∧
      (whole ++ point fraction).dropWhile Char.isDigit = point fraction := by
  rw [List.takeWhile_append_of_pos hwhole, List.dropWhile_append_of_pos hwhole]
  cases fraction with
  | nil => exact ⟨List.append_nil _, rfl⟩
  | cons => exact ⟨List.append_nil _, rfl⟩

theorem splitFraction_point (hfraction : ∀ c ∈ fraction, c.isDigit = true) :
    splitFraction (point fraction) = (fraction, []) := by
  cases fraction with
  | nil => rfl
  | cons digit digits =>
    obtain ⟨htake, hdrop⟩ := span_isDigit hfraction []
    rw [point, List.append_nil] at htake hdrop
    rw [point, splitFraction, htake, hdrop]

theorem scientific?_point (hne : whole ≠ []) (hwhole : ∀ c ∈ whole, c.isDigit = true)
    (hfraction : ∀ c ∈ fraction, c.isDigit = true) :
    scientific? (whole ++ point fraction) =
      some (ofDigitChars 10 (whole ++ fraction) 0, -(fraction.length : Int)) := by
  obtain ⟨htake, hdrop⟩ := span_isDigit hwhole fraction
  have hdigits : digits? (whole ++ fraction) = some (ofDigitChars 10 (whole ++ fraction) 0) :=
    digits?_of_isDigit (List.append_ne_nil_of_left_ne_nil hne _)
      fun c hc => (List.mem_append.mp hc).elim (hwhole c) (hfraction c)
  simp only [scientific?, htake, hdrop, splitFraction_point hfraction, hdigits, exponent?,
    Int.zero_sub]

theorem isDigit_of_mem_dropTrailingZeros
    (hfraction : dropTrailingZeros (paddedDigits places remainder) = fraction) :
    ∀ c ∈ fraction, c.isDigit = true := by
  obtain ⟨zeros, hzeros⟩ := exists_dropTrailingZeros (paddedDigits places remainder)
  rw [hfraction] at hzeros
  intro c hc
  apply isDigit_of_mem_paddedDigits
  rw [← hzeros]
  exact List.mem_append_left _ hc

theorem roundScientific_positional (significand : Nat) (exponent : Int) :
    (scientific? (positional significand exponent)).map
        (fun parts => roundScientific parts.1 parts.2) =
      some (ofScientific significand exponent) := by
  rw [positional_eq]
  generalize hnumerator : significand * Nat.pow 10 exponent.toNat = numerator
  generalize hplaces : (-exponent).toNat = places
  generalize hfraction : dropTrailingZeros (paddedDigits places (numerator % Nat.pow 10 places)) =
    fraction
  have hdigits := isDigit_of_mem_dropTrailingZeros hfraction
  have hvalue := ofDigitChars_dropTrailingZeros (Nat.mod_lt numerator (ten_pow_pos places)) hfraction
  rw [scientific?_point Nat.toDigits_ne_nil
    (fun c hc => Nat.isDigit_of_mem_toDigits (by decide) (by decide) hc) hdigits, Option.map_some,
    roundScientific_eq]
  apply congrArg some
  apply ofScientific_congr
  have hnone : Nat.pow 10 (-(fraction.length : Int)).toNat = 1 := by
    rw [Int.toNat_eq_zero.mpr (by omega)]
  rw [hnumerator, hplaces, hnone, Int.neg_neg, Int.toNat_natCast, Nat.mul_one,
    ofDigitChars_append_zero, Nat.ofDigitChars_ten_toDigits, Nat.add_mul, hvalue,
    Nat.mul_right_comm, ← Nat.add_mul, Nat.div_add_mod']

theorem toLower_of_starts (h : c.isDigit = true ∨ c = '.') : c.toLower = c := by
  rcases h with hdigit | rfl
  · have hle : c.toNat ≤ '9'.toNat := (Text.toNat_of_isDigit hdigit).2
    rw [Char.toLower, dif_neg]
    rintro ⟨hupper, -⟩
    have hge : 'A'.toNat ≤ c.toNat := UInt32.le_iff_toNat_le.mp hupper
    exact absurd (Nat.le_trans hge hle) (by decide)
  · rfl

theorem magnitude?_of_starts (h : c.isDigit = true ∨ c = '.') (text : List Char) :
    magnitude? (c :: text) =
      (scientific? (c :: text)).map fun parts => roundScientific parts.1 parts.2 := by
  have hword (letter : Char) (letters : List Char)
      (hletter : ¬ (letter.isDigit = true ∨ letter = '.')) :
      (c :: text).map Char.toLower ≠ letter :: letters := by
    rw [List.map_cons, toLower_of_starts h]
    intro heq
    rw [(List.cons.inj heq).1] at h
    exact hletter h
  rw [magnitude?, if_neg, if_neg]
  · exact hword 'n' ['a', 'n'] (by decide)
  · rintro (hinf | hinfinity)
    · exact hword 'i' ['n', 'f'] (by decide) hinf
    · exact hword 'i' ['n', 'f', 'i', 'n', 'i', 't', 'y'] (by decide) hinfinity

def IsPlain (text : List Char) : Prop :=
  ∃ digit rest, text = digit :: rest ∧ digit.isDigit = true ∧
    ∀ c ∈ rest, c.isDigit = true ∨ c = '.'

theorem IsPlain.mem (h : IsPlain text) (hc : c ∈ text) : c.isDigit = true ∨ c = '.' := by
  obtain ⟨digit, rest, rfl, hdigit, hrest⟩ := h
  rcases List.mem_cons.mp hc with rfl | hc
  · exact .inl hdigit
  · exact hrest c hc

theorem isPlain_positional (significand : Nat) (exponent : Int) :
    IsPlain (positional significand exponent) := by
  rw [positional_eq]
  generalize hfraction : dropTrailingZeros _ = fraction
  have hdigits := isDigit_of_mem_dropTrailingZeros hfraction
  generalize significand * Nat.pow 10 exponent.toNat / Nat.pow 10 (-exponent).toNat = n
  have hne : toDigits 10 n ≠ [] := Nat.toDigits_ne_nil
  obtain ⟨digit, whole, hwhole⟩ := List.exists_cons_of_ne_nil hne
  have hdigit (c : Char) (hc : c ∈ digit :: whole) : c.isDigit = true := by
    rw [← hwhole] at hc
    exact Nat.isDigit_of_mem_toDigits (by decide) (by decide) hc
  rw [hwhole]
  refine ⟨digit, whole ++ point fraction, rfl, hdigit digit List.mem_cons_self, ?_⟩
  intro c hc
  rcases List.mem_append.mp hc with hc | hc
  · exact .inl (hdigit c (List.mem_cons_of_mem digit hc))
  · cases fraction with
    | nil => cases hc
    | cons first rest =>
      rcases List.mem_cons.mp hc with rfl | hc
      · exact .inr rfl
      · exact .inl (hdigits c hc)

theorem isPlain_showMagnitude (h : m < infinite) : IsPlain (showMagnitude m) := by
  rw [showMagnitude, if_neg (Nat.not_lt.mpr (Nat.le_of_lt h)), if_neg (Nat.ne_of_lt h)]
  split
  · exact ⟨'0', [], rfl, rfl, List.forall_mem_nil _⟩
  · exact isPlain_positional _ _

theorem isPlain_showFloat {x : Float} (hsign : isNegative x = false)
    (hfinite : x.isFinite = true) : IsPlain (showFloat x).toList := by
  rw [showFloat, hsign, String.toList_ofList]
  exact isPlain_showMagnitude ((isFinite_iff x).mp hfinite)

theorem showMagnitude_infinite : showMagnitude infinite = ['i', 'n', 'f'] := by
  rw [showMagnitude, if_neg (Nat.lt_irrefl _), if_pos rfl]
  rfl

theorem magnitude?_showMagnitude (h : m ≤ infinite) : magnitude? (showMagnitude m) = some m := by
  rcases Nat.lt_or_eq_of_le h with hlt | rfl
  · obtain ⟨digit, text, htext, hdigit, -⟩ := isPlain_showMagnitude hlt
    rw [htext, magnitude?_of_starts (.inl hdigit), ← htext, showMagnitude,
      if_neg (Nat.not_lt.mpr h), if_neg (Nat.ne_of_lt hlt)]
    split
    · rename_i hzero
      rw [hzero]
      rfl
    · rw [roundScientific_positional]
      exact congrArg some (beq_iff_eq.mp (readsBack_shortest hlt))
  · rw [showMagnitude_infinite]
    rfl

theorem exists_showMagnitude_eq_cons (h : m ≤ infinite) :
    ∃ c text, showMagnitude m = c :: text ∧ c ≠ '-' ∧ c ≠ '+' := by
  rcases Nat.lt_or_eq_of_le h with hlt | rfl
  · obtain ⟨digit, text, htext, hdigit, -⟩ := isPlain_showMagnitude hlt
    refine ⟨digit, text, htext, ?_, ?_⟩
    · rintro rfl
      exact absurd hdigit (by decide)
    · rintro rfl
      exact absurd hdigit (by decide)
  · exact ⟨'i', ['n', 'f'], showMagnitude_infinite, by decide, by decide⟩

theorem ofChars?_of_ne (hminus : c ≠ '-') (hplus : c ≠ '+') (text : List Char) :
    ofChars? (c :: text) = (magnitude? (c :: text)).map (float false) := by
  rw [ofChars?]
  · intro rest heq
    exact hminus (List.cons.inj heq).1
  · intro rest heq
    exact hplus (List.cons.inj heq).1

theorem ofChars?_sign_append (negative : Bool) (h : magnitude? text = some m)
    (hfirst : ∃ c rest, text = c :: rest ∧ c ≠ '-' ∧ c ≠ '+') :
    ofChars? (sign negative ++ text) = some (float negative m) := by
  cases negative with
  | false =>
    obtain ⟨c, rest, rfl, hminus, hplus⟩ := hfirst
    exact (ofChars?_of_ne hminus hplus rest).trans (by rw [h, Option.map_some])
  | true =>
    change (magnitude? text).map (float true) = some (float true m)
    rw [h, Option.map_some]

theorem ofText?_showFloat {x : Float} (h : magnitude x ≤ infinite) :
    ofText? (showFloat x) = some x := by
  rw [ofText?, showFloat, String.toList_ofList, decide_eq_true h, Bool.and_true,
    ofChars?_sign_append (isNegative x) (magnitude?_showMagnitude h)
      (exists_showMagnitude_eq_cons h), float_magnitude]

theorem exists_of_ofChars? {x : Float} (h : c.isDigit = true ∨ c = '.')
    (hread : ofChars? (c :: text) = some x) : ∃ m ≤ infinite, x = float false m := by
  rw [ofChars?_of_ne _ _, magnitude?_of_starts h, Option.map_map, Option.map_eq_some_iff] at hread
  · obtain ⟨parts, -, rfl⟩ := hread
    exact ⟨_, roundScientific_le _ _, rfl⟩
  · rintro rfl
    exact absurd h (by decide)
  · rintro rfl
    exact absurd h (by decide)

end Worksheet.Decimal
