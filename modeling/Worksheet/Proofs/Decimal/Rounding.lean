import Worksheet.Decimal.Reading

namespace Worksheet.Decimal

variable {numerator denominator factor magnitude significand : Nat} {exponent : Int}

theorem nearest_mul_right (numerator denominator : Nat) (h : 0 < factor) :
    nearest (numerator * factor) (denominator * factor) = nearest numerator denominator := by
  have hcompare : compare (2 * (numerator % denominator * factor)) (denominator * factor) =
      compare (2 * (numerator % denominator)) denominator := by
    rw [← Nat.mul_assoc]
    simp only [Nat.compare_eq_ite_lt, Nat.mul_lt_mul_right h]
  simp only [nearest, Nat.mul_div_mul_right _ _ h, Nat.mul_mod_mul_right, hcompare]

theorem nearest_mul_self (whole : Nat) (h : 0 < denominator) :
    nearest (whole * denominator) denominator = whole := by
  have hcompare : compare (2 * 0) denominator = .lt := Nat.compare_eq_lt.mpr h
  simp only [nearest, Nat.mul_mod_left, hcompare, Nat.mul_div_cancel _ h]

theorem ofQuotient_mul_right (numerator denominator : Nat) (h : 0 < factor) :
    ofQuotient (numerator * factor) (denominator * factor) = ofQuotient numerator denominator := by
  have hscaled : numerator * factor * unit = numerator * unit * factor := Nat.mul_right_comm _ _ _
  simp only [ofQuotient, hscaled, Nat.mul_div_mul_right _ _ h, Nat.mul_right_comm denominator factor,
    nearest_mul_right _ _ h]

theorem ofQuotient_congr {other below : Nat} (hdenominator : 0 < denominator) (hbelow : 0 < below)
    (h : numerator * below = other * denominator) :
    ofQuotient numerator denominator = ofQuotient other below := by
  rw [← ofQuotient_mul_right numerator denominator hbelow, h, Nat.mul_comm denominator,
    ofQuotient_mul_right other below hdenominator]

theorem two_pow_pos (exponent : Nat) : 0 < Nat.pow 2 exponent := Nat.two_pow_pos exponent

theorem ten_pow_pos (exponent : Nat) : 0 < Nat.pow 10 exponent := Nat.pow_pos (by decide)

theorem unit_pos : 0 < unit := by decide +kernel

theorem units_of_lt (h : magnitude < Nat.pow 2 52) : units magnitude = magnitude := by
  simp only [units, Nat.div_eq_of_lt h, Nat.mod_eq_of_lt h, ↓reduceIte]

theorem units_of_exponent (e : Nat) {fraction : Nat} (h : fraction < Nat.pow 2 52) :
    units ((e + 1) * Nat.pow 2 52 + fraction) = (Nat.pow 2 52 + fraction) * Nat.pow 2 e := by
  have hexponent : ((e + 1) * Nat.pow 2 52 + fraction) / Nat.pow 2 52 = e + 1 := by
    rw [Nat.mul_comm, Nat.mul_add_div (by decide), Nat.div_eq_of_lt h, Nat.add_zero]
  have hfraction : ((e + 1) * Nat.pow 2 52 + fraction) % Nat.pow 2 52 = fraction := by
    rw [Nat.mul_add_mod', Nat.mod_eq_of_lt h]
  simp only [units, hexponent, hfraction, Nat.succ_ne_zero, ↓reduceIte, Nat.add_sub_cancel]

theorem log2_units_of_exponent (e : Nat) {fraction : Nat} (h : fraction < Nat.pow 2 52) :
    ((Nat.pow 2 52 + fraction) * Nat.pow 2 e).log2 = 52 + e := by
  have hpos := two_pow_pos e
  rw [Nat.log2_eq_iff (Nat.mul_ne_zero (by omega) (by omega)), Nat.add_right_comm]
  constructor
  · rw [Nat.pow_add]
    exact Nat.mul_le_mul_right _ (Nat.le_add_right _ _)
  · have hbits : Nat.pow 2 52 + fraction < 2 ^ (52 + 1) := by
      have hdouble : 2 ^ (52 + 1) = Nat.pow 2 52 + Nat.pow 2 52 := rfl
      omega
    rw [Nat.pow_add]
    exact Nat.mul_lt_mul_of_pos_right hbits hpos

theorem ofQuotient_unit (h : magnitude < infinite) {shift : Nat}
    (hshift : (units magnitude).log2 - 52 = shift) {whole : Nat}
    (hwhole : units magnitude = whole * Nat.pow 2 shift)
    (hmagnitude : shift * Nat.pow 2 52 + whole = magnitude) :
    ofQuotient (units magnitude) unit = magnitude := by
  have hpos : 0 < unit * Nat.pow 2 shift := Nat.mul_pos unit_pos (two_pow_pos shift)
  have hnearest : nearest (units magnitude * unit) (unit * Nat.pow 2 shift) = whole := by
    rw [hwhole, Nat.mul_assoc, Nat.mul_comm (Nat.pow 2 shift)]
    exact nearest_mul_self whole hpos
  simp only [ofQuotient, Nat.mul_div_cancel _ unit_pos, hshift, hnearest, hmagnitude]
  exact Nat.min_eq_left (Nat.le_of_lt h)

theorem ofQuotient_units (h : magnitude < infinite) :
    ofQuotient (units magnitude) unit = magnitude := by
  by_cases hsmall : magnitude < Nat.pow 2 52
  · have hunits := units_of_lt hsmall
    refine ofQuotient_unit h (?_ : _ = 0) (?_ : _ = magnitude * Nat.pow 2 0) ?_
    · rw [hunits]
      by_cases hzero : magnitude = 0
      · rw [hzero, Nat.log2_zero]
      · have hlog : magnitude.log2 < 52 := (Nat.log2_lt hzero).mpr hsmall
        omega
    · exact hunits.trans (Nat.mul_one _).symm
    · rw [Nat.zero_mul, Nat.zero_add]
  · obtain ⟨e, he⟩ : ∃ e, magnitude / Nat.pow 2 52 = e + 1 :=
      Nat.exists_eq_add_one.mpr (Nat.div_pos (Nat.le_of_not_lt hsmall) (by decide))
    have hsplit : (e + 1) * Nat.pow 2 52 + magnitude % Nat.pow 2 52 = magnitude := by
      rw [← he, Nat.div_add_mod']
    have hfraction : magnitude % Nat.pow 2 52 < Nat.pow 2 52 := Nat.mod_lt _ (by decide)
    generalize magnitude % Nat.pow 2 52 = fraction at hsplit hfraction
    subst hsplit
    have hunits := units_of_exponent e hfraction
    apply ofQuotient_unit h _ hunits
    · rw [Nat.succ_mul, Nat.add_assoc]
    · rw [hunits, log2_units_of_exponent e hfraction, Nat.add_sub_cancel_left]

theorem ofScientific_congr {other : Nat} {power : Int}
    (h : significand * Nat.pow 10 exponent.toNat * Nat.pow 10 (-power).toNat =
      other * Nat.pow 10 power.toNat * Nat.pow 10 (-exponent).toNat) :
    ofScientific significand exponent = ofScientific other power :=
  ofQuotient_congr (ten_pow_pos _) (ten_pow_pos _) h

theorem nearest_eq_zero (h : 2 * numerator < denominator) : nearest numerator denominator = 0 := by
  have hlt : numerator < denominator := by omega
  have hcompare : compare (2 * numerator) denominator = .lt := Nat.compare_eq_lt.mpr h
  simp only [nearest, Nat.mod_eq_of_lt hlt, hcompare, Nat.div_eq_of_lt hlt]

theorem ofQuotient_eq_zero (h : 2 * (numerator * unit) < denominator) :
    ofQuotient numerator denominator = 0 := by
  generalize hunit : unit = one at h
  have hlt : numerator * one < denominator := by omega
  have hshift : (numerator * one / denominator).log2 - 52 = 0 := by
    rw [Nat.div_eq_of_lt hlt, Nat.log2_zero]
  have hsame : denominator * Nat.pow 2 0 = denominator := Nat.mul_one _
  simp only [ofQuotient, hunit, hshift, hsame, nearest_eq_zero h, Nat.zero_mul, Nat.zero_add,
    Nat.zero_min]

theorem ofQuotient_eq_infinite (hpos : 0 < denominator) (h : unit * denominator ≤ numerator) :
    ofQuotient numerator denominator = infinite := by
  have hquotient : unit * unit ≤ numerator * unit / denominator := by
    rw [Nat.le_div_iff_mul_le hpos, Nat.mul_right_comm]
    exact Nat.mul_le_mul_right _ h
  have hlog : 2099 ≤ (numerator * unit / denominator).log2 := by
    have hne : numerator * unit / denominator ≠ 0 :=
      Nat.ne_of_gt (Nat.lt_of_lt_of_le (Nat.mul_pos unit_pos unit_pos) hquotient)
    rw [Nat.le_log2 hne]
    apply Nat.le_trans _ hquotient
    decide +kernel
  rw [ofQuotient]
  apply Nat.min_eq_right
  apply Nat.le_add_right_of_le
  exact Nat.mul_le_mul_right _ (by omega)

theorem exists_unit_le : ∃ power ≤ 400, 4 * unit ≤ Nat.pow 10 power :=
  ⟨400, Nat.le_refl _, by decide +kernel⟩

theorem lt_of_lt_exponent (h : exponent < - (400 + significand.log2 : Int)) :
    2 * (significand * Nat.pow 10 exponent.toNat * unit) < Nat.pow 10 (-exponent).toNat := by
  obtain ⟨power, hpower, hunit⟩ := exists_unit_le
  have hnone : Nat.pow 10 exponent.toNat = 1 := by
    rw [Int.toNat_eq_zero.mpr (by omega)]
  have hbits : significand < Nat.pow 2 (significand.log2 + 1) := Nat.lt_log2_self
  have htotal : power + significand.log2 ≤ (-exponent).toNat := by omega
  generalize significand.log2 = bits at hbits htotal
  calc 2 * (significand * Nat.pow 10 exponent.toNat * unit)
      = 2 * unit * significand := by
        rw [hnone, Nat.mul_one, Nat.mul_comm significand, ← Nat.mul_assoc]
    _ < 2 * unit * Nat.pow 2 (bits + 1) :=
        Nat.mul_lt_mul_of_pos_left hbits (Nat.mul_pos (by decide) unit_pos)
    _ = 4 * unit * Nat.pow 2 bits := by
        have hdouble : Nat.pow 2 (bits + 1) = 2 * Nat.pow 2 bits := Nat.pow_succ'
        rw [hdouble, ← Nat.mul_assoc, Nat.mul_right_comm 2 unit 2]
    _ ≤ Nat.pow 10 power * Nat.pow 10 bits :=
        Nat.mul_le_mul hunit (Nat.pow_le_pow_left (by decide) bits)
    _ = Nat.pow 10 (power + bits) := (Nat.pow_add 10 power bits).symm
    _ ≤ Nat.pow 10 (-exponent).toNat := Nat.pow_le_pow_right (by decide) htotal

theorem le_of_lt_exponent (hpos : significand ≠ 0) (h : 400 < exponent) :
    unit * Nat.pow 10 (-exponent).toNat ≤ significand * Nat.pow 10 exponent.toNat := by
  obtain ⟨power, hpower, hunit⟩ := exists_unit_le
  have hnone : Nat.pow 10 (-exponent).toNat = 1 := by
    rw [Int.toNat_eq_zero.mpr (by omega)]
  calc unit * Nat.pow 10 (-exponent).toNat
      ≤ 4 * unit * 1 := by
        rw [hnone]
        exact Nat.mul_le_mul_right 1 (Nat.le_mul_of_pos_left unit (by decide))
    _ ≤ Nat.pow 10 power * significand := Nat.mul_le_mul hunit (Nat.pos_of_ne_zero hpos)
    _ ≤ Nat.pow 10 exponent.toNat * significand :=
        Nat.mul_le_mul_right _ (Nat.pow_le_pow_right (by decide) (by omega))
    _ = significand * Nat.pow 10 exponent.toNat := Nat.mul_comm _ _

/-- Leaving out the powers of ten far beyond the range makes no difference. -/
theorem roundScientific_eq (significand : Nat) (exponent : Int) :
    roundScientific significand exponent = ofScientific significand exponent := by
  unfold roundScientific ofScientific
  split
  · rename_i hzero
    rw [ofQuotient_eq_zero]
    rw [hzero, Nat.zero_mul, Nat.zero_mul]
    exact ten_pow_pos _
  · rename_i hpos
    split
    · rename_i hlarge
      rw [ofQuotient_eq_infinite (ten_pow_pos _) (le_of_lt_exponent hpos hlarge)]
    · split
      · rename_i hsmall
        rw [ofQuotient_eq_zero (lt_of_lt_exponent hsmall)]
      · rfl

theorem roundScientific_le (significand : Nat) (exponent : Int) :
    roundScientific significand exponent ≤ infinite := by
  rw [roundScientific_eq]
  exact Nat.min_le_right _ _

end Worksheet.Decimal
