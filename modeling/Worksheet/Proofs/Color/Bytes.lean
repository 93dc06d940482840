import Worksheet.Proofs.Address.Words
import Worksheet.Proofs.Color.Packed

/-!
Colors read from the bytes of a text. Here a slice that does not begin and end between two
characters is nothing, and so is a product or a sum that does not fit the word; texts of any length
and any characters are read without that, and to the same colors.
-/

namespace Worksheet.Color

open Address (word?)

namespace Bytes

def isHexDigit (byte : UInt8) : Bool :=
  (48 ≤ byte && byte ≤ 57) || (65 ≤ byte && byte ≤ 70) || (97 ≤ byte && byte ≤ 102)

def hexValue? (byte : UInt8) : Option Nat := Color.hexValue? (Char.ofNat byte.toNat)

def readDigits (bits number : Nat) : List UInt8 → Option (Option Nat)
  | [] => some (some number)
  | digit :: digits =>
    match hexValue? digit with
    | none => some none
    | some value => do
      let shifted ← word? bits (number * 16)
      let extended ← word? bits (shifted + value)
      readDigits bits extended digits

/-- A plus sign may stand before the digits. -/
def read (bits : Nat) : List UInt8 → Option (Option Nat)
  | [] | [43] => some none
  | 43 :: digits => readDigits bits 0 digits
  | digits => readDigits bits 0 digits

def isBoundary (bytes : List UInt8) (i : Nat) : Bool :=
  match bytes[i]? with
  | some byte => i == 0 || byte < 128 || 192 ≤ byte
  | none => i == bytes.length

def slice? (bytes : List UInt8) (start stop : Nat) : Option (List UInt8) :=
  if isBoundary bytes start && isBoundary bytes stop then some ((bytes.take stop).drop start)
  else none

def channel? (bytes : List UInt8) (start : Nat) : Option (Option UInt8) := do
  let digits ← slice? bytes start (start + 2)
  let value ← read 8 digits
  some (value.map UInt8.ofNat)

def ofBytes? (bytes : List UInt8) : Option (Option Color) :=
  if bytes.all isHexDigit then
    if bytes.length = 6 then do
      let red ← channel? bytes 0
      let green ← channel? bytes 2
      let blue ← channel? bytes 4
      some (do return ⟨255, ← red, ← green, ← blue⟩)
    else if bytes.length = 8 then do
      let packed ← read 32 bytes
      some (packed.map fun packed => ofPacked (UInt32.ofNat packed))
    else some none
  else some none

def ofHex? (text : String) : Option (Option Color) :=
  ofBytes? ((text.toList.dropWhile (· = '#')).flatMap String.utf8EncodeChar)

end Bytes

variable {c : Char} {text digits : List Char} {values : List Nat} {bytes : List UInt8}

theorem lt_of_isHexDigit (h : IsHexDigit c) : c.toNat < 128 := by
  rw [isHexDigit_iff] at h
  omega

theorem toNat_toUInt8 (h : c.toNat < 128) : c.toUInt8.toNat = c.toNat := by
  change c.toNat % 256 = c.toNat
  omega

theorem utf8EncodeChar_of_lt (h : c.toNat < 128) : String.utf8EncodeChar c = [c.toUInt8] := by
  have hle : c.val.toNat ≤ 127 := Nat.le_of_lt_succ h
  rw [String.utf8EncodeChar]
  simp only [if_pos hle]
  rfl

theorem isHexDigit_byte_iff (byte : UInt8) :
    Bytes.isHexDigit byte = true ↔ (48 ≤ byte.toNat ∧ byte.toNat ≤ 57) ∨
      (65 ≤ byte.toNat ∧ byte.toNat ≤ 70) ∨ (97 ≤ byte.toNat ∧ byte.toNat ≤ 102) := by
  simp only [Bytes.isHexDigit, Bool.or_eq_true, Bool.and_eq_true, decide_eq_true_eq,
    UInt8.le_iff_toNat_le, or_assoc]
  rfl

theorem exists_leading_byte (h : 128 ≤ c.toNat) :
    ∃ byte ∈ String.utf8EncodeChar c, 192 ≤ byte.toNat := by
  have hlt : ¬ c.val.toNat ≤ 127 := Nat.not_le.mpr h
  rw [String.utf8EncodeChar]
  simp only [if_neg hlt]
  split
  · refine ⟨_, List.mem_cons_self, ?_⟩
    change 192 ≤ (c.val.toNat / 64 % 32 + 192) % 256
    omega
  · split
    · refine ⟨_, List.mem_cons_self, ?_⟩
      change 192 ≤ (c.val.toNat / 4096 % 16 + 224) % 256
      omega
    · refine ⟨_, List.mem_cons_self, ?_⟩
      change 192 ≤ (c.val.toNat / 262144 % 8 + 240) % 256
      omega

theorem forall_isHexDigit_utf8EncodeChar_iff :
    (∀ byte ∈ String.utf8EncodeChar c, Bytes.isHexDigit byte = true) ↔ IsHexDigit c := by
  by_cases hascii : c.toNat < 128
  · rw [utf8EncodeChar_of_lt hascii, List.forall_mem_singleton, isHexDigit_byte_iff,
      toNat_toUInt8 hascii, isHexDigit_iff]
  · obtain ⟨byte, hbyte, hlead⟩ := exists_leading_byte (Nat.not_lt.mp hascii)
    constructor
    · intro h
      have hdigit := (isHexDigit_byte_iff byte).mp (h byte hbyte)
      omega
    · intro h
      exact absurd (lt_of_isHexDigit h) hascii

theorem forall_isHexDigit_bytes_iff :
    (∀ byte ∈ text.flatMap String.utf8EncodeChar, Bytes.isHexDigit byte = true) ↔
      ∀ c ∈ text, IsHexDigit c := by
  simp only [List.mem_flatMap, forall_exists_index, and_imp, ← forall_isHexDigit_utf8EncodeChar_iff]
  constructor
  · intro h c hc byte hbyte
    exact h byte c hc hbyte
  · intro h byte c hc hbyte
    exact h c hc byte hbyte

theorem bytes_eq_map (h : ∀ c ∈ text, IsHexDigit c) :
    text.flatMap String.utf8EncodeChar = text.map Char.toUInt8 := by
  induction text with
  | nil => rfl
  | cons c text ih =>
    obtain ⟨hc, htext⟩ := List.forall_mem_cons.mp h
    rw [List.flatMap_cons, utf8EncodeChar_of_lt (lt_of_isHexDigit hc), ih htext, List.map_cons,
      List.singleton_append]

theorem hexValue?_byte (h : c.toNat < 128) : Bytes.hexValue? c.toUInt8 = hexValue? c := by
  rw [Bytes.hexValue?, toNat_toUInt8 h, Char.ofNat_toNat]

theorem readDigits_eq (h : List.Forall₂ Writes digits values) {bits number : Nat}
    (hbits : (number + 1) * 16 ^ digits.length ≤ Nat.pow 2 bits) :
    Bytes.readDigits bits number (digits.map Char.toUInt8) =
      some (some (values.foldl (fun number value => number * 16 + value) number)) := by
  induction h generalizing number with
  | nil => rfl
  | @cons digit value digits values hdigit hdigits ih =>
    have hvalue := hdigit.1
    have hnext : (number * 16 + value + 1) * 16 ^ digits.length ≤ Nat.pow 2 bits := by
      refine Nat.le_trans ?_ hbits
      rw [List.length_cons, Nat.pow_succ', ← Nat.mul_assoc]
      exact Nat.mul_le_mul_right _ (by omega)
    have hfits : number * 16 + value < Nat.pow 2 bits :=
      Nat.lt_of_lt_of_le (Nat.lt_succ_self _)
        (Nat.le_trans (Nat.le_mul_of_pos_right _ (Nat.pow_pos (by decide))) hnext)
    have hshifted : number * 16 < Nat.pow 2 bits := by omega
    rw [List.map_cons, Bytes.readDigits, hexValue?_byte (lt_of_isHexDigit (isHexDigit_of_writes hdigit)),
      hexValue?_of_writes hdigit]
    simp only [Address.word?_eq hshifted, Address.word?_eq hfits, Option.bind_eq_bind,
      Option.bind_some]
    exact ih hnext

theorem read_eq (hne : digits ≠ []) (h : List.Forall₂ Writes digits values) (bits : Nat)
    (hbits : 16 ^ digits.length ≤ Nat.pow 2 bits) :
    Bytes.read bits (digits.map Char.toUInt8) =
      some (some (values.foldl (fun number value => number * 16 + value) 0)) := by
  have hstart : (0 + 1) * 16 ^ digits.length ≤ Nat.pow 2 bits := by
    rw [Nat.zero_add, Nat.one_mul]
    exact hbits
  have hread := readDigits_eq h hstart
  obtain ⟨digit, digits, rfl⟩ := List.exists_cons_of_ne_nil hne
  have hdigit := forall_isHexDigit_of_writes h digit List.mem_cons_self
  have hplus : digit.toUInt8 ≠ 43 := by
    intro heq
    have htoNat := congrArg UInt8.toNat heq
    rw [toNat_toUInt8 (lt_of_isHexDigit hdigit)] at htoNat
    change digit.toNat = 43 at htoNat
    rw [isHexDigit_iff] at hdigit
    omega
  rw [← hread, List.map_cons]
  unfold Bytes.read
  split <;> simp_all

theorem isBoundary_of_le (h : ∀ byte ∈ bytes, byte < 128) {i : Nat} (hi : i ≤ bytes.length) :
    Bytes.isBoundary bytes i = true := by
  rw [Bytes.isBoundary]
  split
  · rename_i byte hbyte
    simp [h byte (List.mem_of_getElem? hbyte)]
  · rename_i hnone
    rw [List.getElem?_eq_none_iff] at hnone
    simpa using Nat.le_antisymm hi hnone

theorem slice?_eq (h : ∀ byte ∈ bytes, byte < 128) {start stop : Nat} (hstart : start ≤ stop)
    (hstop : stop ≤ bytes.length) :
    Bytes.slice? bytes start stop = some ((bytes.take stop).drop start) := by
  rw [Bytes.slice?, isBoundary_of_le h (hstart.trans hstop), isBoundary_of_le h hstop]
  rfl

theorem channel?_eq {before after : List Char} {high low : Char} {upper lower : Nat}
    (htext : ∀ c ∈ before ++ high :: low :: after, IsHexDigit c) (hhigh : Writes high upper)
    (hlow : Writes low lower) :
    Bytes.channel? ((before ++ high :: low :: after).map Char.toUInt8) before.length =
      some (some (channel upper lower)) := by
  have hascii : ∀ byte ∈ (before ++ high :: low :: after).map Char.toUInt8, byte < 128 := by
    intro byte hbyte
    obtain ⟨c, hc, rfl⟩ := List.mem_map.mp hbyte
    have hlt := lt_of_isHexDigit (htext c hc)
    rw [UInt8.lt_iff_toNat_lt, toNat_toUInt8 hlt]
    exact hlt
  have hslice := slice?_eq hascii (Nat.le_add_right before.length 2) (by simp)
  have hdigits : ((((before ++ high :: low :: after).map Char.toUInt8).take
      (before.length + 2)).drop before.length) = [high, low].map Char.toUInt8 := by
    simp [List.take_append]
  have hread := read_eq (List.cons_ne_nil high [low]) (.cons hhigh (.cons hlow .nil)) 8
    (Nat.le_refl 256)
  rw [Bytes.channel?, hslice, hdigits, Option.bind_eq_bind, Option.bind_some, hread]
  simp [channel, Nat.mul_comm]

theorem mapM_hexValue?_eq_none (h : ¬ ∀ c ∈ digits, IsHexDigit c) :
    digits.mapM hexValue? = none := by
  rw [Option.eq_none_iff_forall_ne_some]
  intro values hvalues
  exact h (forall_isHexDigit_of_writes (mapM_hexValue?_eq_some_iff.mp hvalues))

theorem all_isHexDigit_bytes (h : List.Forall₂ Writes digits values) :
    (digits.map Char.toUInt8).all Bytes.isHexDigit = true := by
  have hdigits := forall_isHexDigit_of_writes h
  rw [← bytes_eq_map hdigits, List.all_eq_true]
  exact forall_isHexDigit_bytes_iff.mpr hdigits

theorem ofBytes?_six {r₁ r₀ g₁ g₀ b₁ b₀ : Nat}
    (h : List.Forall₂ Writes digits [r₁, r₀, g₁, g₀, b₁, b₀]) :
    Bytes.ofBytes? (digits.map Char.toUInt8) =
      some (some ⟨255, channel r₁ r₀, channel g₁ g₀, channel b₁ b₀⟩) := by
  have hlength : (digits.map Char.toUInt8).length = 6 := by
    rw [List.length_map]
    exact h.length_eq
  have hdigits := forall_isHexDigit_of_writes h
  rw [Bytes.ofBytes?, if_pos (all_isHexDigit_bytes h), if_pos hlength]
  obtain _ | ⟨hr₁, _ | ⟨hr₀, _ | ⟨hg₁, _ | ⟨hg₀, _ | ⟨hb₁, _ | ⟨hb₀, _ | _⟩⟩⟩⟩⟩⟩ := h
  rename_i r r' g g' b b'
  have hred : Bytes.channel? ([r, r', g, g', b, b'].map Char.toUInt8) 0 =
      some (some (channel r₁ r₀)) :=
    @channel?_eq [] [g, g', b, b'] _ _ _ _ hdigits hr₁ hr₀
  have hgreen : Bytes.channel? ([r, r', g, g', b, b'].map Char.toUInt8) 2 =
      some (some (channel g₁ g₀)) :=
    @channel?_eq [r, r'] [b, b'] _ _ _ _ hdigits hg₁ hg₀
  have hblue : Bytes.channel? ([r, r', g, g', b, b'].map Char.toUInt8) 4 =
      some (some (channel b₁ b₀)) :=
    @channel?_eq [r, r', g, g'] [] _ _ _ _ hdigits hb₁ hb₀
  rw [hred, hgreen, hblue]
  rfl

theorem ofBytes?_eight {a₁ a₀ r₁ r₀ g₁ g₀ b₁ b₀ : Nat}
    (h : List.Forall₂ Writes digits [a₁, a₀, r₁, r₀, g₁, g₀, b₁, b₀]) :
    Bytes.ofBytes? (digits.map Char.toUInt8) =
      some (some ⟨channel a₁ a₀, channel r₁ r₀, channel g₁ g₀, channel b₁ b₀⟩) := by
  have hlength : digits.length = 8 := h.length_eq
  have hsix : ¬ (digits.map Char.toUInt8).length = 6 := by
    rw [List.length_map, hlength]
    decide
  have height : (digits.map Char.toUInt8).length = 8 := by rw [List.length_map, hlength]
  have hfits : 16 ^ digits.length ≤ Nat.pow 2 32 := by
    rw [hlength]
    decide
  have hne : digits ≠ [] := List.ne_nil_of_length_pos (by omega)
  have hpacked := foldl_eq_toNat_packed h
  rw [Bytes.ofBytes?, if_pos (all_isHexDigit_bytes h), if_neg hsix, if_pos height,
    read_eq hne h 32 hfits, hpacked]
  simp only [Option.bind_eq_bind, Option.bind_some, Option.map_some, UInt32.ofNat_toNat,
    ofPacked_packed]

theorem ofBytes?_of_length_ne (h : List.Forall₂ Writes digits values) (hsix : values.length ≠ 6)
    (height : values.length ≠ 8) : Bytes.ofBytes? (digits.map Char.toUInt8) = some none := by
  rw [← h.length_eq, ← List.length_map Char.toUInt8] at hsix height
  rw [Bytes.ofBytes?, if_pos (all_isHexDigit_bytes h), if_neg hsix, if_neg height]

theorem ofBytes?_of_not_isHexDigit (h : ¬ ∀ c ∈ digits, IsHexDigit c) :
    Bytes.ofBytes? (digits.flatMap String.utf8EncodeChar) = some none := by
  have hbytes : ¬ (digits.flatMap String.utf8EncodeChar).all Bytes.isHexDigit = true := by
    rw [List.all_eq_true, forall_isHexDigit_bytes_iff]
    exact h
  rw [Bytes.ofBytes?, if_neg hbytes]

theorem ofHex?_inBytes (text : String) : Bytes.ofHex? text = some (ofHex? text) := by
  rw [Bytes.ofHex?, ofHex?]
  generalize text.toList.dropWhile (· = '#') = digits
  by_cases hdigits : ∀ c ∈ digits, IsHexDigit c
  · obtain ⟨values, hvalues⟩ := exists_forall₂_writes hdigits
    rw [bytes_eq_map hdigits, mapM_hexValue?_eq_some_iff.mpr hvalues]
    split
    · rename_i heq
      obtain rfl := Option.some.inj heq
      exact ofBytes?_six hvalues
    · rename_i heq
      obtain rfl := Option.some.inj heq
      exact ofBytes?_eight hvalues
    · rename_i hsix height
      apply ofBytes?_of_length_ne hvalues
      · intro hlength
        match values, hlength with
        | [_, _, _, _, _, _], _ => exact hsix _ _ _ _ _ _ rfl
      · intro hlength
        match values, hlength with
        | [_, _, _, _, _, _, _, _], _ => exact height _ _ _ _ _ _ _ _ rfl
  · rw [mapM_hexValue?_eq_none hdigits, ofBytes?_of_not_isHexDigit hdigits]

end Worksheet.Color
