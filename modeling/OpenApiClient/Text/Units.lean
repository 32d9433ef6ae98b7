set_option autoImplicit false

namespace OpenApiClient.Text

def replacement : Char := '\ufffd'

def isHighHalf (unit : Nat) : Bool := 0xd800 ≤ unit && unit < 0xdc00
def isLowHalf (unit : Nat) : Bool := 0xdc00 ≤ unit && unit < 0xe000

def charOfPoint (point : Nat) : Char :=
  if point.isValidChar then Char.ofNat point else replacement

def joinHalves (high low : Nat) : Char :=
  Char.ofNat (0x10000 + (high - 0xd800) * 0x400 + (low - 0xdc00))

def ofUnits : List Nat → List Char
  | [] => []
  | [unit] => [charOfPoint unit]
  | unit :: next :: rest =>
      if isHighHalf unit && isLowHalf next then joinHalves unit next :: ofUnits rest
      else charOfPoint unit :: ofUnits (next :: rest)

def units (c : Char) : List Nat :=
  let n := c.toNat
  if n < 0x10000 then [n]
  else [0xd800 + (n - 0x10000) / 0x400, 0xdc00 + (n - 0x10000) % 0x400]

end OpenApiClient.Text
