import Worksheet.Proofs.Color.Bytes

namespace Worksheet.Color

variable {text : String} {color : Color} {digits : List Char} {marks high low : Nat}

def nibbles (color : Color) : List Nat :=
  [color.alpha, color.red, color.green, color.blue].flatMap fun channel =>
    [channel.toNat / 16, channel.toNat % 16]

inductive Spells (text : String) (color : Color) : Prop
  | solid {marks : Nat} {digits : List Char}
    (htext : text.toList = List.replicate marks '#' ++ digits) (halpha : color.alpha = 255)
    (hdigits : List.Forall₂ Writes digits (color.nibbles.drop 2))
  | full {marks : Nat} {digits : List Char}
    (htext : text.toList = List.replicate marks '#' ++ digits)
    (hdigits : List.Forall₂ Writes digits color.nibbles)

theorem lt_of_mem_nibbles : ∀ value ∈ color.nibbles, value < 16 := by
  have hhalves (channel : UInt8) : channel.toNat / 16 < 16 ∧ channel.toNat % 16 < 16 := by
    have hchannel := channel.toNat_lt
    omega
  intro value hvalue
  simp only [nibbles, List.mem_flatMap] at hvalue
  obtain ⟨channel, -, hvalue⟩ := hvalue
  rcases List.mem_pair.mp hvalue with rfl | rfl
  · exact (hhalves channel).1
  · exact (hhalves channel).2

theorem writes_hexDigits (color : Color) : List.Forall₂ Writes color.hexDigits color.nibbles := by
  have hdigits : color.hexDigits = color.nibbles.map hexDigit := rfl
  rw [hdigits, List.forall₂_map_left_iff, List.forall₂_same]
  intro value hvalue
  exact writes_hexDigit (lt_of_mem_nibbles value hvalue)

theorem channel_halves (value : UInt8) : channel (value.toNat / 16) (value.toNat % 16) = value := by
  rw [channel, Nat.div_add_mod, UInt8.ofNat_toNat]

theorem halves_channel {first second : Char} (hhigh : Writes first high) (hlow : Writes second low) :
    (channel high low).toNat / 16 = high ∧ (channel high low).toNat % 16 = low := by
  have hhigh := hhigh.1
  have hlow := hlow.1
  rw [toNat_channel hhigh hlow]
  omega

theorem dropWhile_marks (h : ∀ digit ∈ digits, IsHexDigit digit) :
    (List.replicate marks '#' ++ digits).dropWhile (· = '#') = digits := by
  rw [List.dropWhile_append_of_pos (by simp)]
  cases digits with
  | nil => rfl
  | cons digit digits =>
    have hdigit := h digit List.mem_cons_self
    rw [List.dropWhile_cons_of_neg]
    rw [decide_eq_true_eq]
    rintro rfl
    rw [isHexDigit_iff] at hdigit
    revert hdigit
    decide

theorem exists_marks (text : List Char) :
    ∃ marks, text = List.replicate marks '#' ++ text.dropWhile (· = '#') := by
  have hmarks : ∀ c ∈ text.takeWhile (· = '#'), c = '#' := by
    intro c hc
    simpa using List.mem_takeWhile_imp hc
  refine ⟨(text.takeWhile (· = '#')).length, ?_⟩
  rw [← List.eq_replicate_of_mem hmarks, List.takeWhile_append_dropWhile]

theorem ofHex?_of_spells (h : Spells text color) : ofHex? text = some color := by
  cases h with
  | solid htext halpha hdigits =>
    rw [ofHex?, htext, dropWhile_marks (forall_isHexDigit_of_writes hdigits),
      mapM_hexValue?_eq_some_iff.mpr hdigits]
    change some (Color.mk 255 (channel _ _) (channel _ _) (channel _ _)) = _
    simp only [channel_halves, ← halpha]
  | full htext hdigits =>
    rw [ofHex?, htext, dropWhile_marks (forall_isHexDigit_of_writes hdigits),
      mapM_hexValue?_eq_some_iff.mpr hdigits]
    change some (Color.mk (channel _ _) (channel _ _) (channel _ _) (channel _ _)) = _
    simp only [channel_halves]

theorem spells_of_six {r₁ r₀ g₁ g₀ b₁ b₀ : Nat}
    (htext : text.toList = List.replicate marks '#' ++ digits)
    (h : List.Forall₂ Writes digits [r₁, r₀, g₁, g₀, b₁, b₀]) :
    Spells text ⟨255, channel r₁ r₀, channel g₁ g₀, channel b₁ b₀⟩ := by
  refine .solid htext rfl ?_
  obtain _ | ⟨hr₁, _ | ⟨hr₀, _ | ⟨hg₁, _ | ⟨hg₀, _ | ⟨hb₁, _ | ⟨hb₀, _ | _⟩⟩⟩⟩⟩⟩ := h
  obtain ⟨hr, hr'⟩ := halves_channel hr₁ hr₀
  obtain ⟨hg, hg'⟩ := halves_channel hg₁ hg₀
  obtain ⟨hb, hb'⟩ := halves_channel hb₁ hb₀
  simp [nibbles, hr, hr', hg, hg', hb, hb', hr₁, hr₀, hg₁, hg₀, hb₁, hb₀]

theorem spells_of_eight {a₁ a₀ r₁ r₀ g₁ g₀ b₁ b₀ : Nat}
    (htext : text.toList = List.replicate marks '#' ++ digits)
    (h : List.Forall₂ Writes digits [a₁, a₀, r₁, r₀, g₁, g₀, b₁, b₀]) :
    Spells text ⟨channel a₁ a₀, channel r₁ r₀, channel g₁ g₀, channel b₁ b₀⟩ := by
  refine .full htext ?_
  obtain _ | ⟨ha₁, _ | ⟨ha₀, _ | ⟨hr₁, _ | ⟨hr₀, _ | ⟨hg₁, _ | ⟨hg₀, _ | ⟨hb₁, _ | ⟨hb₀, _ | _⟩⟩⟩⟩⟩⟩⟩⟩ := h
  obtain ⟨ha, ha'⟩ := halves_channel ha₁ ha₀
  obtain ⟨hr, hr'⟩ := halves_channel hr₁ hr₀
  obtain ⟨hg, hg'⟩ := halves_channel hg₁ hg₀
  obtain ⟨hb, hb'⟩ := halves_channel hb₁ hb₀
  simp [nibbles, ha, ha', hr, hr', hg, hg', hb, hb', ha₁, ha₀, hr₁, hr₀, hg₁, hg₀, hb₁, hb₀]

theorem spells_of_ofHex? (h : ofHex? text = some color) : Spells text color := by
  obtain ⟨marks, htext⟩ := exists_marks text.toList
  rw [ofHex?] at h
  split at h
  · rename_i r₁ r₀ g₁ g₀ b₁ b₀ hvalues
    obtain rfl := Option.some.inj h
    exact spells_of_six htext (mapM_hexValue?_eq_some_iff.mp hvalues)
  · rename_i a₁ a₀ r₁ r₀ g₁ g₀ b₁ b₀ hvalues
    obtain rfl := Option.some.inj h
    exact spells_of_eight htext (mapM_hexValue?_eq_some_iff.mp hvalues)
  · cases h

theorem ofHex?_eq_some_iff : ofHex? text = some color ↔ Spells text color :=
  ⟨spells_of_ofHex?, ofHex?_of_spells⟩

def IsNotation (text : String) : Prop :=
  ∃ marks digits, text.toList = List.replicate marks '#' ++ digits ∧
    (∀ digit ∈ digits, IsHexDigit digit) ∧ (digits.length = 6 ∨ digits.length = 8)

theorem Spells.isNotation (h : Spells text color) : IsNotation text := by
  cases h with
  | @solid marks digits htext _ hdigits =>
    exact ⟨marks, digits, htext, forall_isHexDigit_of_writes hdigits, .inl hdigits.length_eq⟩
  | @full marks digits htext hdigits =>
    exact ⟨marks, digits, htext, forall_isHexDigit_of_writes hdigits, .inr hdigits.length_eq⟩

theorem IsNotation.exists_spells (h : IsNotation text) : ∃ color, Spells text color := by
  obtain ⟨marks, digits, htext, hdigits, hlength⟩ := h
  obtain ⟨values, hvalues⟩ := exists_forall₂_writes hdigits
  rw [hvalues.length_eq] at hlength
  match values, hvalues, hlength with
  | [_, _, _, _, _, _], hvalues, _ => exact ⟨_, spells_of_six htext hvalues⟩
  | [_, _, _, _, _, _, _, _], hvalues, _ => exact ⟨_, spells_of_eight htext hvalues⟩

theorem isSome_ofHex?_iff : (ofHex? text).isSome = true ↔ IsNotation text := by
  simp only [Option.isSome_iff_exists, ofHex?_eq_some_iff]
  constructor
  · rintro ⟨color, hspells⟩
    exact hspells.isNotation
  · exact IsNotation.exists_spells

theorem hex_eq_of_eight (htext : text.toList = List.replicate marks '#' ++ digits)
    (hdigits : ∀ digit ∈ digits, IsHexDigit digit) (hlength : digits.length = 8)
    (h : ofHex? text = some color) : color.hex = String.ofList (digits.map Char.toUpper) := by
  have hread : text.toList.dropWhile (· = '#') = digits := by rw [htext, dropWhile_marks hdigits]
  cases spells_of_ofHex? h with
  | @solid marks' digits' htext' _ hdigits' =>
    rw [htext', dropWhile_marks (forall_isHexDigit_of_writes hdigits')] at hread
    have hsix : digits'.length = 6 := hdigits'.length_eq
    rw [hread, hlength] at hsix
    cases hsix
  | @full marks' digits' htext' hdigits' =>
    rw [htext', dropWhile_marks (forall_isHexDigit_of_writes hdigits')] at hread
    rw [hread] at hdigits'
    rw [map_toUpper_of_writes hdigits']
    rfl

theorem spells_hex (color : Color) : Spells color.hex color := by
  refine @Spells.full _ _ 0 color.hexDigits ?_ (writes_hexDigits color)
  rw [hex, String.toList_ofList]
  rfl

theorem spells_shown (color : Color) : Spells color.shown color := by
  refine @Spells.full _ _ 1 color.hexDigits ?_ (writes_hexDigits color)
  rw [shown, String.toList_ofList]
  rfl

structure Exact (text : String) (color : Color) : Prop where
  accepted : (ofHex? text).isSome = true ↔ IsNotation text
  read : ofHex? text = some color ↔ Spells text color
  rewritten : ∀ marks digits, text.toList = List.replicate marks '#' ++ digits →
    (∀ digit ∈ digits, IsHexDigit digit) → digits.length = 8 → ofHex? text = some color →
    color.hex = String.ofList (digits.map Char.toUpper)
  back : ofHex? color.hex = some color
  backShown : ofHex? color.shown = some color
  unpacked : ofPacked color.packed = color
  writtenPacked : color.hex = String.ofList (padded 8 color.packed.toNat)
  readInBytes : Bytes.ofHex? text = some (ofHex? text)

theorem exact_hex (text : String) (color : Color) : Exact text color where
  accepted := isSome_ofHex?_iff
  read := ofHex?_eq_some_iff
  rewritten _ _ htext hdigits hlength := hex_eq_of_eight htext hdigits hlength
  back := ofHex?_of_spells (spells_hex color)
  backShown := ofHex?_of_spells (spells_shown color)
  unpacked := ofPacked_packed color
  writtenPacked := congrArg String.ofList (hexDigits_eq_padded color)
  readInBytes := ofHex?_inBytes text

-- A sign, a character of two bytes and a `#` behind the digits are refused.
example : ofHex? "##80fF0000" = some ⟨128, 255, 0, 0⟩ ∧ ofHex? "+1FFFFF" = none ∧
    Bytes.ofHex? "FFÄFF" = some none ∧ ofHex? "FF0000#" = none := by
  decide +kernel

end Worksheet.Color
