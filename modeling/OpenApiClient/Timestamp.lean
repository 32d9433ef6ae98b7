set_option autoImplicit false

namespace OpenApiClient

structure Clock where
  hour : Nat
  minute : Nat
  second : Nat
  microsecond : Nat
  offset : Option Int
  deriving DecidableEq

structure Timestamp where
  year : Nat
  month : Nat
  day : Nat
  clock : Option Clock
  deriving DecidableEq

def paddedText (width n : Nat) : String :=
  let digits := toString n
  String.ofList (List.replicate (width - digits.length) '0') ++ digits

namespace Clock

def isReal (clock : Clock) : Bool :=
  clock.hour < 24 && clock.minute < 60 && clock.second < 60 && clock.microsecond < 1000000

def isNear (clock : Clock) : Bool := (clock.offset.getD 0).natAbs < 1440

def offsetText (minutes : Int) : String :=
  (if minutes < 0 then "-" else "+") ++ paddedText 2 (minutes.natAbs / 60) ++ ":" ++
    paddedText 2 (minutes.natAbs % 60)

def text (clock : Clock) : String :=
  let fraction := if clock.microsecond = 0 then "" else "." ++ paddedText 6 clock.microsecond
  String.intercalate ":" ([clock.hour, clock.minute, clock.second].map (paddedText 2)) ++
    fraction ++ (clock.offset.map offsetText).getD ""

end Clock

namespace Timestamp

def isLeap (year : Nat) : Bool :=
  (year % 4 == 0 && year % 100 != 0) || year % 400 == 0

def daysIn (year month : Nat) : Nat :=
  if month = 2 then if isLeap year then 29 else 28
  else if month = 4 ∨ month = 6 ∨ month = 9 ∨ month = 11 then 30
  else 31

def isReal (t : Timestamp) : Bool :=
  1 ≤ t.year && 1 ≤ t.month && t.month ≤ 12 && 1 ≤ t.day && t.day ≤ daysIn t.year t.month &&
    (t.clock.map Clock.isReal).getD true

def isNear (t : Timestamp) : Bool := (t.clock.map Clock.isNear).getD true

def text (separator : String) (t : Timestamp) : String :=
  paddedText 4 t.year ++ "-" ++ paddedText 2 t.month ++ "-" ++ paddedText 2 t.day ++
    match t.clock with
    | none => ""
    | some clock => separator ++ clock.text

end Timestamp
end OpenApiClient
