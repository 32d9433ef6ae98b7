import OpenApiClient.Decimal.Read
import OpenApiClient.Text.Lines
import OpenApiClient.Toml.Logical
import OpenApiClient.Value

set_option autoImplicit false

namespace OpenApiClient.Toml

def lowered (cs : List Char) : String := (String.ofList cs).toLower

def dropUnderscores (cs : List Char) : List Char := cs.filter (· != '_')

def hasPair (first second : Char) : List Char → Bool
  | c :: d :: rest => (c == first && d == second) || hasPair first second (d :: rest)
  | _ => false

def isStrictNumber (text : List Char) : Bool :=
  let cs := Text.trim text
  let signless := (takeSign cs).2
  let leadingZero :=
    match cs with
    | '0' :: c :: _ => !(c == '.' || c == 'o' || c == 'b' || c == 'x')
    | _ => false
  let signedZero :=
    match signless with
    | '0' :: c :: _ => signless.length < cs.length && c != '.'
    | _ => false
  !cs.isEmpty && cs.head? != some '_' && cs.getLast? != some '_' &&
    !hasPair '_' '.' cs && !hasPair '.' '_' cs &&
    (cs.length == 1 || (!leadingZero && !signedZero && !hasPair '_' '_' signless))

def floating (cs : List Char) : Except ReadError Binary64 :=
  match cs.dropWhile (· != '.') with
  | ['.'] => .error .malformed
  | _ =>
      if (cs.head?.map Text.isAsciiDigit).getD false then
        match Binary64.ofText? cs with
        | some x => .ok x
        | none => .error .malformed
      else .error .malformed

def opposite (x : Binary64) : Binary64 := (Binary64.zero false).add x.negate

def number (cs : List Char) : Except ReadError Scalar :=
  let (negative, digits) := takeSign cs
  let digits := dropUnderscores digits
  let word := lowered digits
  let float (x : Binary64) : Scalar := .float (if negative then opposite x else x)
  if digits.contains '.' || (!digits.contains 'x' && (digits.contains 'e' || digits.contains 'E'))
  then
    match floating digits with
    | .ok x => .ok (float x)
    | .error e => .error e
  else if word = "inf" then .ok (float (.infinite false))
  else if word = "nan" then .ok (float .nan)
  else
    match wholeOfText? none digits with
    | some n => .ok (.int (if negative then -n else n))
    | none => .error .malformed

def column? (cs : List Char) (start length : Nat) : Option Int :=
  wholeOfText? (some 10) ((cs.drop start).take length)

def naturalColumn? (cs : List Char) (start length : Nat) : Option Nat :=
  match column? cs start length with
  | some (.ofNat n) => some n
  | _ => none

def offset? (cs : List Char) : Option Int :=
  if cs = ['Z'] then some 0
  else do
    let hours ← column? cs 1 2
    let minutes ← column? cs 4 2
    let distance := hours * 60 + minutes
    some (if cs.head? = some '-' then -distance else distance)

/-- The microseconds of a fraction. With more than six digits the product is rounded before what is
behind the point is dropped. -/
def fraction? (cs : List Char) : Option Int :=
  (wholeOfText? (some 10) cs).bind fun n =>
    if cs.length ≤ 6 then some (n * Nat.pow 10 (6 - cs.length))
    else
      ((Binary64.ofInt n).mul (.ofDecimal false 1 (6 - (cs.length : Int)))).truncated?

/-- The fraction behind a point and the distance from universal time behind it. If one of them
cannot be read, neither counts. -/
def fractionAndOffset (cs : List Char) : Int × Option Int :=
  let parts (fraction : List Char) (offset : Option (List Char)) : Option (Int × Option Int) := do
    let zone ←
      match offset with
      | none => some none
      | some written => (offset? written).map some
    let microsecond ← fraction? fraction
    some (microsecond, zone)
  let cut (mark : Char) : Option (Int × Option Int) :=
    parts (cs.takeWhile (· != mark)) (some (cs.dropWhile (· != mark)))
  let read : Option (Int × Option Int) :=
    match cs.getLast? with
    | some 'Z' | some 'z' => parts cs.dropLast (some ['Z'])
    | _ =>
        if cs.contains '+' then cut '+'
        else if cs.contains '-' then cut '-'
        else parts cs none
  read.getD (0, none)

def timestamp? (cs : List Char) : Option Timestamp := do
  if !cs.tail.contains '-' then none
  else
    let year ← naturalColumn? cs 0 4
    let month ← naturalColumn? cs 5 2
    let day ← naturalColumn? cs 8 2
    let clock ←
      if cs.length = 10 then some none
      else do
        let hour ← naturalColumn? cs 11 2
        let minute ← naturalColumn? cs 14 2
        let second ← naturalColumn? cs 17 2
        let (microsecond, offset) :=
          match cs.drop 19 with
          | [] => (0, none)
          | '.' :: rest => fractionAndOffset rest
          | rest => (0, offset? rest)
        if microsecond < 0 then none
        else some (some ⟨hour, minute, second, microsecond.toNat, offset⟩)
    let t : Timestamp := ⟨year, month, day, clock⟩
    if t.isReal then some t else none

def digitPair? (cs : List Char) (start : Nat) : Option Nat :=
  let digits := (cs.drop start).take 2
  if digits.length = 2 ∧ digits.all Text.isAsciiDigit then some (digitsValue digits) else none

/-- A time of day at the start of a text. What follows it is not looked at. Three to six digits
behind a point are taken for microseconds. -/
def clock? (cs : List Char) : Option Clock := do
  let hour ← digitPair? cs 0
  let minute ← digitPair? cs 3
  let second ← digitPair? cs 6
  if cs.getD 2 ' ' == ':' && cs.getD 5 ' ' == ':' then
    let digits :=
      match cs.drop 8 with
      | '.' :: rest => (rest.take 6).takeWhile Text.isAsciiDigit
      | _ => []
    some ⟨hour, minute, second, if digits.length < 3 then 0 else digitsValue digits, none⟩
  else none

end OpenApiClient.Toml
