namespace Worksheet

structure Color where
  alpha : UInt8
  red : UInt8
  green : UInt8
  blue : UInt8
deriving DecidableEq, Repr

structure ColorError where
  text : String
deriving DecidableEq, Repr

namespace ColorError

def message (error : ColorError) : String := "Invalid color: " ++ error.text

end ColorError

namespace Color

def white : Color := ⟨255, 255, 255, 255⟩

instance : Inhabited Color := ⟨white⟩

def ofPacked (packed : UInt32) : Color :=
  ⟨(packed >>> 24).toUInt8, (packed >>> 16).toUInt8, (packed >>> 8).toUInt8, packed.toUInt8⟩

def packed (color : Color) : UInt32 :=
  color.alpha.toUInt32 <<< 24 ||| color.red.toUInt32 <<< 16 ||| color.green.toUInt32 <<< 8
    ||| color.blue.toUInt32

def hexValue? (digit : Char) : Option Nat :=
  if digit.isDigit then some (digit.toNat - '0'.toNat)
  else if 'A' ≤ digit ∧ digit ≤ 'F' then some (digit.toNat - 'A'.toNat + 10)
  else if 'a' ≤ digit ∧ digit ≤ 'f' then some (digit.toNat - 'a'.toNat + 10)
  else none

def hexDigit (value : Nat) : Char :=
  if value < 10 then Char.ofNat ('0'.toNat + value) else Char.ofNat ('A'.toNat + (value - 10))

def channel (high low : Nat) : UInt8 := UInt8.ofNat (16 * high + low)

def channelDigits (value : UInt8) : List Char :=
  [hexDigit (value.toNat / 16), hexDigit (value.toNat % 16)]

/-- Any number of `#`, then six digits for an opaque color or eight with the alpha channel first. -/
def ofHex? (text : String) : Option Color :=
  match (text.toList.dropWhile (· = '#')).mapM hexValue? with
  | some [r₁, r₀, g₁, g₀, b₁, b₀] => some ⟨255, channel r₁ r₀, channel g₁ g₀, channel b₁ b₀⟩
  | some [a₁, a₀, r₁, r₀, g₁, g₀, b₁, b₀] =>
    some ⟨channel a₁ a₀, channel r₁ r₀, channel g₁ g₀, channel b₁ b₀⟩
  | _ => none

def parse (text : String) : Except ColorError Color :=
  match ofHex? text with
  | some color => .ok color
  | none => .error ⟨text⟩

def hexDigits (color : Color) : List Char :=
  channelDigits color.alpha ++ channelDigits color.red ++ channelDigits color.green
    ++ channelDigits color.blue

def hex (color : Color) : String := String.ofList color.hexDigits

def shown (color : Color) : String := String.ofList ('#' :: color.hexDigits)

end Color

end Worksheet
