import Mathlib
import Worksheet.Decimal.Reading
import Worksheet.Text.Character

namespace Worksheet.Decimal

variable {text word : List Char} {c : Char}

def isMark (c : Char) : Bool := c.isAlphanum || c == '+' || c == '-' || c == '.'

theorem isMark_of_isDigit (h : c.isDigit = true) : isMark c = true := by
  simp [isMark, Char.isAlphanum, h]

theorem isMark_of_digits? {n : Nat} (h : digits? text = some n) : ∀ c ∈ text, isMark c = true := by
  rw [digits?] at h
  split at h
  · rename_i hdigits
    intro c hc
    exact isMark_of_isDigit (List.all_eq_true.mp ((Bool.and_eq_true _ _).mp hdigits).2 c hc)
  · cases h

theorem isMark_of_exponent? {n : Int} (h : exponent? text = some n) :
    ∀ c ∈ text, isMark c = true := by
  cases text with
  | nil => exact List.forall_mem_nil _
  | cons mark text =>
    unfold exponent? at h
    simp only at h
    split at h
    · rename_i hmark
      have hfirst : isMark mark = true := by
        rcases hmark with rfl | rfl
        · decide
        · decide
      refine List.forall_mem_cons.mpr ⟨hfirst, ?_⟩
      split at h
      · obtain ⟨n, hnumber, -⟩ := Option.map_eq_some_iff.mp h
        obtain ⟨m, hdigits, -⟩ := Option.bind_eq_some_iff.mp hnumber
        exact List.forall_mem_cons.mpr ⟨by decide, isMark_of_digits? hdigits⟩
      · obtain ⟨n, hdigits, -⟩ := Option.map_eq_some_iff.mp h
        exact List.forall_mem_cons.mpr ⟨by decide, isMark_of_digits? hdigits⟩
      · obtain ⟨n, hdigits, -⟩ := Option.map_eq_some_iff.mp h
        exact isMark_of_digits? hdigits
    · cases h

theorem isMark_of_dropWhile (h : ∀ c ∈ text.dropWhile Char.isDigit, isMark c = true) :
    ∀ c ∈ text, isMark c = true := by
  intro c hc
  rw [← List.takeWhile_append_dropWhile (p := Char.isDigit) (l := text), List.mem_append] at hc
  rcases hc with hc | hc
  · exact isMark_of_isDigit (List.mem_takeWhile_imp hc)
  · exact h c hc

theorem isMark_of_splitFraction (h : ∀ c ∈ (splitFraction text).2, isMark c = true) :
    ∀ c ∈ text, isMark c = true := by
  unfold splitFraction at h
  split at h
  · exact List.forall_mem_cons.mpr ⟨by decide, isMark_of_dropWhile h⟩
  · exact h

theorem isMark_of_scientific? {parts : Nat × Int} (h : scientific? text = some parts) :
    ∀ c ∈ text, isMark c = true := by
  simp only [scientific?] at h
  split at h
  · rename_i hexponent
    exact isMark_of_dropWhile (isMark_of_splitFraction (isMark_of_exponent? hexponent))
  · cases h

theorem isMark_of_map_toLower (h : text.map Char.toLower = word)
    (hword : word.all Char.isAlpha = true) :
    ∀ c ∈ text, isMark c = true := by
  intro c hc
  have hlower : c.toLower ∈ word := by
    rw [← h]
    exact List.mem_map_of_mem hc
  have halpha := List.all_eq_true.mp hword _ hlower
  rw [Char.isAlpha_toLower_eq_isAlpha] at halpha
  simp [isMark, Char.isAlphanum, halpha]

theorem isMark_of_magnitude? {m : Nat} (h : magnitude? text = some m) :
    ∀ c ∈ text, isMark c = true := by
  simp only [magnitude?] at h
  split at h
  · rename_i hinfinite
    rcases hinfinite with hword | hword
    · exact isMark_of_map_toLower hword (by decide)
    · exact isMark_of_map_toLower hword (by decide)
  · split at h
    · rename_i hword
      exact isMark_of_map_toLower hword (by decide)
    · obtain ⟨parts, hparts, -⟩ := Option.map_eq_some_iff.mp h
      exact isMark_of_scientific? hparts

theorem isMark_of_ofChars? {x : Float} (h : ofChars? text = some x) :
    ∀ c ∈ text, isMark c = true := by
  unfold ofChars? at h
  split at h
  · obtain ⟨m, hm, -⟩ := Option.map_eq_some_iff.mp h
    exact List.forall_mem_cons.mpr ⟨by decide, isMark_of_magnitude? hm⟩
  · obtain ⟨m, hm, -⟩ := Option.map_eq_some_iff.mp h
    exact List.forall_mem_cons.mpr ⟨by decide, isMark_of_magnitude? hm⟩
  · obtain ⟨m, hm, -⟩ := Option.map_eq_some_iff.mp h
    exact isMark_of_magnitude? hm

theorem ne_nil_of_ofChars? {x : Float} (h : ofChars? text = some x) : text ≠ [] := by
  rintro rfl
  cases h

theorem isBlank_of_isMark (h : isMark c = true) : Text.isBlank c = false := by
  simp only [isMark, Bool.or_eq_true, beq_iff_eq] at h
  rcases h with ((h | rfl) | rfl) | rfl
  · exact Text.isBlank_of_isAlphanum h
  · decide
  · decide
  · decide

theorem ne_equals_of_isMark (h : isMark c = true) : c ≠ '=' := by
  rintro rfl
  exact absurd h (by decide)

end Worksheet.Decimal
