set_option autoImplicit false

namespace OpenApiClient

/-- A finite number is `significand * 2 ^ exponent` with its sign. The significand is below
`2 ^ 53`, and at least `2 ^ 52` unless the exponent is the least one, `-1074`. -/
inductive Binary64 where
  | finite (negative : Bool) (significand : Nat) (exponent : Int)
  | infinite (negative : Bool)
  | nan
  deriving DecidableEq, Repr

namespace Binary64

def leastExponent : Int := -1074
def greatestExponent : Int := 971

def zero (negative : Bool) : Binary64 := .finite negative 0 leastExponent

def scaled (num den : Nat) (exponent : Int) : Nat × Nat :=
  if 0 ≤ exponent then (num, den * Nat.pow 2 exponent.toNat)
  else (num * Nat.pow 2 (-exponent).toNat, den)

def roundDiv (num den : Nat) : Nat :=
  let q := num / den
  let r := num % den
  if 2 * r < den then q
  else if den < 2 * r then q + 1
  else if q % 2 = 0 then q else q + 1

def exponentFor (num den : Nat) : Int :=
  let guess : Int := (num.log2 : Int) - (den.log2 : Int) - 52
  let (n, d) := scaled num den guess
  -- The logarithms are those of the parts, so the guess may be off by one.
  let fitted :=
    if n / d < Nat.pow 2 52 then guess - 1
    else if Nat.pow 2 53 ≤ n / d then guess + 1
    else guess
  max fitted leastExponent

def ofFraction (negative : Bool) (num den : Nat) : Binary64 :=
  if num = 0 ∨ den = 0 then zero negative
  else
    let exponent := exponentFor num den
    let (n, d) := scaled num den exponent
    let significand := roundDiv n d
    -- Rounding up may carry into one more bit.
    let (significand, exponent) :=
      if significand = Nat.pow 2 53 then (Nat.pow 2 52, exponent + 1) else (significand, exponent)
    if greatestExponent < exponent then .infinite negative
    else .finite negative significand exponent

/-- The number nearest to `digits * 10 ^ power`. Magnitudes far outside the range are settled
without computing the power. -/
def ofDecimal (negative : Bool) (digits : Nat) (power : Int) : Binary64 :=
  let size : Int := (Nat.toDigits 10 digits).length
  if digits = 0 then zero negative
  else if 400 < size + power then .infinite negative
  else if size + power < -400 then zero negative
  else if 0 ≤ power then ofFraction negative (digits * Nat.pow 10 power.toNat) 1
  else ofFraction negative digits (Nat.pow 10 (-power).toNat)

def ofInt (n : Int) : Binary64 := ofFraction (n < 0) n.natAbs 1

def negate : Binary64 → Binary64
  | .finite negative significand exponent => .finite (!negative) significand exponent
  | .infinite negative => .infinite (!negative)
  | .nan => .nan

def fraction (significand : Nat) (exponent : Int) : Nat × Nat :=
  if 0 ≤ exponent then (significand * Nat.pow 2 exponent.toNat, 1)
  else (significand, Nat.pow 2 (-exponent).toNat)

def mul (a b : Binary64) : Binary64 :=
  match a, b with
  | .finite s m e, .finite t n f =>
      let (p, q) := fraction m e
      let (u, v) := fraction n f
      ofFraction (s != t) (p * u) (q * v)
  | .nan, _ | _, .nan => .nan
  | .infinite s, .finite t n _ | .finite t n _, .infinite s =>
      if n = 0 then .nan else .infinite (s != t)
  | .infinite s, .infinite t => .infinite (s != t)

def add (a b : Binary64) : Binary64 :=
  match a, b with
  | .finite s m e, .finite t n f =>
      let (p, q) := fraction m e
      let (u, v) := fraction n f
      let signed (negative : Bool) (k : Nat) : Int := if negative then -(k : Int) else k
      let sum := signed s (p * v) + signed t (u * q)
      if sum = 0 then zero (s && t) else ofFraction (sum < 0) sum.natAbs (q * v)
  | .nan, _ | _, .nan => .nan
  | .infinite s, .infinite t => if s = t then .infinite s else .nan
  | .infinite s, _ | _, .infinite s => .infinite s

def toInt? : Binary64 → Option Int
  | .finite negative significand exponent =>
      let sign : Int := if negative then -1 else 1
      if 0 ≤ exponent then some (sign * (significand * Nat.pow 2 exponent.toNat : Nat))
      else
        let unit := Nat.pow 2 (-exponent).toNat
        if significand % unit = 0 then some (sign * (significand / unit : Nat)) else none
  | _ => none

def truncated? : Binary64 → Option Int
  | .finite negative significand exponent =>
      let (num, den) := fraction significand exponent
      some (if negative then -((num / den : Nat) : Int) else (num / den : Nat))
  | _ => none

end Binary64
end OpenApiClient
