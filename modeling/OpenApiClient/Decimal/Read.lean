import OpenApiClient.Decimal.Binary64
import OpenApiClient.Text.Letter
import OpenApiClient.Text.Lines

set_option autoImplicit false

namespace OpenApiClient

open Text (isAsciiDigit)

def digitsValue (digits : List Char) : Nat :=
  digits.foldl (fun n c => n * 10 + (c.toNat - '0'.toNat)) 0

def microseconds (digits : List Char) : Nat :=
  digitsValue ((digits ++ List.replicate 6 '0').take 6)

def wholeDigitLimit : Nat := 4300

def wholeOfDigits? (base : Nat) (digits : List Char) : Option Nat :=
  let values := digits.filterMap Text.hexValue?
  if digits.isEmpty || values.length != digits.length || values.any (base ≤ ·) ||
      (base == 10 && wholeDigitLimit < digits.length) then none
  else some (values.foldl (fun n digit => n * base + digit) 0)

def isPadding (c : Char) : Bool := Text.isBlank c && !('\x1c' ≤ c && c ≤ '\x1f')

def takeSign : List Char → Bool × List Char
  | '-' :: rest => (true, rest)
  | '+' :: rest => (false, rest)
  | cs => (false, cs)

/-- Takes out underscores, each of which stands between two digits. `behindDigit` says whether a
digit comes before the text. -/
def joinGroups? (isDigit : Char → Bool) (behindDigit : Bool) : List Char → Option (List Char)
  | [] => some []
  | c :: rest =>
      if c = '_' then
        if behindDigit && (rest.head?.map isDigit).getD false then joinGroups? isDigit false rest
        else none
      else (joinGroups? isDigit (isDigit c) rest).map (c :: ·)

def baseOfMark? (mark : Char) : Option Nat :=
  match mark.toLower with
  | 'x' => some 16
  | 'o' => some 8
  | 'b' => some 2
  | _ => none

def groupedDigits? (base : Nat) (behindDigit : Bool) (cs : List Char) : Option Nat :=
  (joinGroups? (fun c => (Text.hexValue? c).isSome) behindDigit cs).bind (wholeOfDigits? base)

/-- A whole number without a sign. Where no base is given its mark decides, and a number without a
mark is decimal and has no zeros at its start. -/
def magnitude? (base : Option Nat) (cs : List Char) : Option Nat :=
  let marked : Option (Nat × List Char) :=
    match cs with
    | '0' :: mark :: rest =>
        match baseOfMark? mark with
        | some named => if base = none ∨ base = some named then some (named, rest) else none
        | none => none
    | _ => none
  match marked, base with
  -- An underscore may follow the mark like a digit.
  | some (named, digits), _ => groupedDigits? named true digits
  | none, some base => groupedDigits? base false cs
  | none, none =>
      match groupedDigits? 10 false cs with
      | some n => if cs.head? = some '0' ∧ n ≠ 0 then none else some n
      | none => none

def wholeOfText? (base : Option Nat) (cs : List Char) : Option Int :=
  let (negative, digits) := takeSign (Text.trimBy isPadding (cs.map Text.asciiDigit))
  (magnitude? base digits).map fun n => if negative then -(n : Int) else n

def exponentValue? : List Char → Option Int
  | [] => some 0
  | mark :: rest =>
      if mark = 'e' ∨ mark = 'E' then
        let (negative, digits) := takeSign rest
        if !digits.isEmpty && digits.all isAsciiDigit then
          some (if negative then -(digitsValue digits : Int) else digitsValue digits)
        else none
      else none

namespace Binary64

def ofDigits? (cs : List Char) : Option Binary64 :=
  let whole := cs.takeWhile isAsciiDigit
  let (fraction, tail) :=
    match cs.dropWhile isAsciiDigit with
    | '.' :: rest => (rest.takeWhile isAsciiDigit, rest.dropWhile isAsciiDigit)
    | rest => ([], rest)
  if whole.isEmpty && fraction.isEmpty then none
  else
    (exponentValue? tail).map fun exponent =>
      .ofDecimal false (digitsValue (whole ++ fraction)) (exponent - (fraction.length : Int))

/-- The floating point number that a text stands for. Infinity and what is no number are written as
words. -/
def ofText? (cs : List Char) : Option Binary64 :=
  let (negative, cs) := takeSign (Text.trimBy isPadding (cs.map Text.asciiDigit))
  let word := (String.ofList cs).toLower
  let magnitude :=
    if word = "inf" ∨ word = "infinity" then some (.infinite false)
    else if word = "nan" then some .nan
    else (joinGroups? isAsciiDigit false cs).bind ofDigits?
  magnitude.map fun x => if negative then x.negate else x

end Binary64
end OpenApiClient
