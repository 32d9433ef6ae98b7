import OpenApiClient.Value
import OpenApiClient.Decimal.Read
import OpenApiClient.Text.Lines
import OpenApiClient.Yaml.ScalarText

set_option autoImplicit false

namespace OpenApiClient.Yaml

open Text (isAsciiDigit)

inductive Form where
  | null
  | bool
  | int
  | float
  | timestamp
  | merge
  | default
  | text
  deriving DecidableEq

def isDigitOrLine (c : Char) : Bool := isAsciiDigit c || c == '_'

def isSpacedNumber : List Char → Bool
  | [] => false
  | c :: rest => isAsciiDigit c && rest.all isDigitOrLine

def withoutSign (cs : List Char) : List Char := (takeSign cs).2

def isExponent : List Char → Bool
  | [] => true
  | mark :: sign :: digits =>
      (mark == 'e' || mark == 'E') && (sign == '-' || sign == '+') && !digits.isEmpty &&
        digits.all isAsciiDigit
  | _ => false

def isSixtieth : List Char → Bool
  | [c] => isAsciiDigit c
  | [c, d] => '0' ≤ c && c ≤ '5' && isAsciiDigit d
  | _ => false

def isSexagesimal (cs : List Char) : Bool :=
  match Text.separated ':' cs with
  | first :: second :: rest => isSpacedNumber first && (second :: rest).all isSixtieth
  | _ => false

def isFloat (cs : List Char) : Bool :=
  let whole := (withoutSign cs).takeWhile (· != '.')
  match (withoutSign cs).dropWhile (· != '.') with
  | [] => false
  | _ :: behind =>
      let fraction := behind.takeWhile isDigitOrLine
      let tail := behind.dropWhile isDigitOrLine
      if whole.isEmpty then
        let word := String.ofList behind
        (withoutSign cs == cs && isSpacedNumber fraction && isExponent tail) ||
          ["inf", "Inf", "INF"].contains word ||
          (withoutSign cs == cs && ["nan", "NaN", "NAN"].contains word)
      else (isSpacedNumber whole && isExponent tail) || (isSexagesimal whole && tail.isEmpty)

def isInt (cs : List Char) : Bool :=
  match withoutSign cs with
  | ['0'] => true
  | '0' :: 'b' :: digits => !digits.isEmpty && digits.all fun c => c == '0' || c == '1' || c == '_'
  | '0' :: 'x' :: digits =>
      !digits.isEmpty && digits.all fun c => (Text.hexValue? c).isSome || c == '_'
  | '0' :: digits => !digits.isEmpty && digits.all fun c => ('0' ≤ c && c ≤ '7') || c == '_'
  | digits => isSpacedNumber digits || isSexagesimal digits

def boolWords : List String :=
  ["yes", "Yes", "YES", "no", "No", "NO", "true", "True", "TRUE", "false", "False", "FALSE",
    "on", "On", "ON", "off", "Off", "OFF"]

def digitsBetween (least most : Nat) (cs : List Char) : Option (Nat × List Char) :=
  let digits := (cs.take most).takeWhile isAsciiDigit
  if digits.length < least then none
  else
    some (digitsValue digits, cs.drop digits.length)

def digitsAfter (mark : Char) (least most : Nat) (cs : List Char) : Option (Nat × List Char) :=
  match cs with
  | c :: rest => if c = mark then digitsBetween least most rest else none
  | [] => none

def offset? (cs : List Char) : Option (Option Int) :=
  let zone := cs.dropWhile isBlankChar
  match cs, zone with
  | [], _ => some none
  | _, ['Z'] => some (some 0)
  | _, sign :: rest =>
      if sign = '-' ∨ sign = '+' then do
        let (hours, rest) ← digitsBetween 1 2 rest
        let (minutes, rest) ←
          if rest.isEmpty then some (0, []) else digitsAfter ':' 2 2 rest
        if rest.isEmpty then
          let distance : Int := ((hours * 60 + minutes : Nat) : Int)
          some (some (if sign = '-' then -distance else distance))
        else none
      else none
  | _, _ => none

def clock? (cs : List Char) : Option Clock := do
  let rest ←
    match cs with
    | 'T' :: rest | 't' :: rest => some rest
    | ' ' :: rest | '\t' :: rest => some (rest.dropWhile isBlankChar)
    | _ => none
  let (hour, rest) ← digitsBetween 1 2 rest
  let (minute, rest) ← digitsAfter ':' 2 2 rest
  let (second, rest) ← digitsAfter ':' 2 2 rest
  let (fraction, rest) :=
    match rest with
    | '.' :: behind => (behind.takeWhile isAsciiDigit, behind.dropWhile isAsciiDigit)
    | rest => ([], rest)
  let offset ← offset? rest
  pure ⟨hour, minute, second, microseconds fraction, offset⟩

def timestamp? (cs : List Char) : Option Timestamp := do
  let (year, rest) ← digitsBetween 4 4 cs
  let (month, rest) ← digitsAfter '-' 1 2 rest
  let (day, rest) ← digitsAfter '-' 1 2 rest
  if rest.isEmpty then some ⟨year, month, day, none⟩
  else (clock? rest).map fun clock => ⟨year, month, day, some clock⟩

def isTimestamp (cs : List Char) : Bool :=
  match timestamp? cs with
  | some t => t.clock.isSome || cs.length == 10
  | none => false

def form (text : String) : Form :=
  let cs := text.toList
  if boolWords.contains text then .bool
  else if isFloat cs then .float
  else if isInt cs then .int
  else if text = "<<" then .merge
  else if ["", "~", "null", "Null", "NULL"].contains text then .null
  else if isTimestamp cs then .timestamp
  else if text = "=" then .default
  else .text

def boolValue (text : String) : Except ReadError Scalar :=
  let word := text.toLower
  if ["yes", "true", "on"].contains word then .ok (.bool true)
  else if ["no", "false", "off"].contains word then .ok (.bool false)
  else .error .badTruth

def baseNumber (base : Nat) (digits : List Char) : Except ReadError Int :=
  match wholeOfText? (some base) digits with
  | some n => .ok n
  | none => .error .badNumber

def placesNumber : List (List Char) → Except ReadError (List Int)
  | [] => .ok []
  | piece :: rest => do
      let n ← baseNumber 10 piece
      let more ← placesNumber rest
      pure (n :: more)

def intValue (text : String) : Except ReadError Scalar := do
  let cs := text.toList.filter (· != '_')
  let (negative, digits) := takeSign cs
  let magnitude ←
    match digits with
    | [] => .error .noDigits
    | ['0'] => pure 0
    | '0' :: 'b' :: rest => baseNumber 2 rest
    | '0' :: 'x' :: rest => baseNumber 16 rest
    | '0' :: _ => baseNumber 8 digits
    | digits => do
        let places ← placesNumber (Text.separated ':' digits)
        pure (places.foldl (fun n place => n * 60 + place) 0)
  pure (.int (if negative then -magnitude else magnitude))

def decimal (cs : List Char) : Except ReadError Binary64 :=
  match Binary64.ofText? cs with
  | some x => .ok x
  | none => .error .badNumber

def decimals : List (List Char) → Except ReadError (List Binary64)
  | [] => .ok []
  | piece :: rest => do
      let x ← decimal piece
      let more ← decimals rest
      pure (x :: more)

/-- Adds the places from the last one on, each worth sixty times the one behind it. Every product
and every sum is rounded. -/
def sexagesimalSum (sum : Binary64) (worth : Nat) : List Binary64 → Binary64
  | [] => sum
  | place :: rest =>
      sexagesimalSum (sum.add (place.mul (.ofInt worth))) (worth * 60) rest

def floatValue (text : String) : Except ReadError Scalar := do
  let cs := (text.toList.filter (· != '_')).map Char.toLower
  let (negative, digits) := takeSign cs
  let magnitude ←
    if cs.isEmpty then .error .noDigits
    else if digits == ".inf".toList then pure (.infinite false)
    else if digits == ".nan".toList then pure .nan
    else
      match Text.separated ':' digits with
      | [piece] => decimal piece
      | pieces => do
          let places ← decimals pieces
          pure (sexagesimalSum (.zero false) 1 places.reverse)
  pure (.float (if negative then magnitude.negate else magnitude))

def timestampValue (text : String) : Except ReadError Scalar :=
  match timestamp? text.toList with
  | none => .error .noTimestamp
  | some t => if t.isReal && t.isNear then .ok (.timestamp t) else .error .badDate

def scalarValue (form : Form) (text : String) : Except ReadError Scalar :=
  match form with
  | .null => .ok .null
  | .bool => boolValue text
  | .int => intValue text
  | .float => floatValue text
  | .timestamp => timestampValue text
  | .merge | .default => .error .malformed
  | .text => .ok (.text text)

end OpenApiClient.Yaml
