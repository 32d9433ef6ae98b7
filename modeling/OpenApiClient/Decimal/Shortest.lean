import OpenApiClient.Decimal.Binary64

set_option autoImplicit false

namespace OpenApiClient.Binary64

/-- The numbers between which every value rounds to the given one, over a common denominator:
lower end, value, upper end, denominator. -/
structure Neighbourhood where
  low : Nat
  value : Nat
  high : Nat
  den : Nat
  closed : Bool

def neighbourhood (significand : Nat) (exponent : Int) : Neighbourhood :=
  -- Just below a power of two the numbers are twice as dense.
  let below := if significand = Nat.pow 2 52 ∧ leastExponent < exponent then 1 else 2
  let unit := exponent - 2
  let (factor, den) :=
    if 0 ≤ unit then (Nat.pow 2 unit.toNat, 1) else (1, Nat.pow 2 (-unit).toNat)
  { low := (4 * significand - below) * factor
    value := 4 * significand * factor
    high := (4 * significand + 2) * factor
    den := den
    closed := significand % 2 = 0 }

def Neighbourhood.holds (n : Neighbourhood) (num den : Nat) : Bool :=
  let (l, x, h) := (n.low * den, num * n.den, n.high * den)
  if n.closed then l ≤ x && x ≤ h else l < x && x < h

def decimalPlace (num den : Nat) : Int :=
  if den ≤ num then (Nat.toDigits 10 (num / den)).length
  else
    let inverse : Nat := (Nat.toDigits 10 (den / num)).length
    if num * Nat.pow 10 (inverse - 1) = den then 2 - (inverse : Int) else 1 - (inverse : Int)

/-- The two neighbours of the value among the decimals with `count` digits; the nearer one that
reads back, as digits and power of ten. -/
def candidate? (n : Neighbourhood) (place : Int) (count : Nat) : Option (Nat × Int) :=
  let power := place - (count : Int)
  let (scaleNum, scaleDen) :=
    if 0 ≤ power then (Nat.pow 10 power.toNat, 1) else (1, Nat.pow 10 (-power).toNat)
  let num := n.value * scaleDen
  let den := n.den * scaleNum
  let below := num / den
  let rest := num % den
  let hit (digits : Nat) : Bool := n.holds (digits * scaleNum) scaleDen
  -- Of two that are equally near, the one with the even last digit.
  let nearerBelow := 2 * rest < den || (2 * rest == den && below % 2 == 0)
  let (first, second) := if nearerBelow then (below, below + 1) else (below + 1, below)
  if hit first then some (first, power) else if hit second then some (second, power) else none

def shortestFrom (n : Neighbourhood) (place : Int) (count : Nat) : Nat → Nat × Int
  | 0 => (n.value / n.den, 0)
  | more + 1 =>
      match candidate? n place count with
      | some found => found
      | none => shortestFrom n place (count + 1) more

/-- Shortest digits of a positive number: `digits * 10 ^ power` reads back as it. Seventeen digits
always suffice. -/
def shortest (significand : Nat) (exponent : Int) : Nat × Int :=
  let n := neighbourhood significand exponent
  shortestFrom n (decimalPlace n.value n.den) 1 17

/-- Digits without trailing zeros, and the place of the point: the value is `0.digits` times ten to
the place. -/
def digitsAndPlace (digits : Nat) (power : Int) : List Char × Int :=
  let all := Nat.toDigits 10 digits
  ((all.reverse.dropWhile (· == '0')).reverse, all.length + power)

def signText (negative : Bool) : List Char := if negative then ['-'] else []

/-- Positional between `1e-4` and `1e16`, with at least one digit after the point; otherwise an
exponent of two digits or more with its sign. -/
def layout (digits : List Char) (place : Int) : List Char :=
  if -4 < place ∧ place ≤ 0 then
    '0' :: '.' :: List.replicate (-place).toNat '0' ++ digits
  else if 0 < place ∧ place ≤ 16 then
    let width := place.toNat
    let whole := digits.take width ++ List.replicate (width - digits.length) '0'
    let fraction := digits.drop width
    whole ++ '.' :: (if fraction.isEmpty then ['0'] else fraction)
  else
    let exponent := place - 1
    let size := Nat.toDigits 10 exponent.natAbs
    let mantissa :=
      match digits with
      | [] => []
      | [d] => [d]
      | d :: rest => d :: '.' :: rest
    mantissa ++ 'e' :: (if exponent < 0 then '-' else '+') ::
      (List.replicate (2 - size.length) '0' ++ size)

def text : Binary64 → String
  | .nan => "nan"
  | .infinite negative => String.ofList (signText negative ++ ['i', 'n', 'f'])
  | .finite negative significand exponent =>
      if significand = 0 then String.ofList (signText negative ++ ['0', '.', '0'])
      else
        let (digits, power) := shortest significand exponent
        let (digits, place) := digitsAndPlace digits power
        String.ofList (signText negative ++ layout digits place)

end OpenApiClient.Binary64
