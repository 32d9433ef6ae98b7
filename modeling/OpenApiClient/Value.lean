import OpenApiClient.Decimal.Binary64
import OpenApiClient.Timestamp

set_option autoImplicit false

namespace OpenApiClient

inductive Scalar where
  | null
  | bool (b : Bool)
  | int (n : Int)
  | float (x : Binary64)
  | text (s : String)
  | timestamp (t : Timestamp)
  | time (clock : Clock)
  deriving DecidableEq

inductive Value where
  | scalar (s : Scalar)
  | array (items : List Value)
  | object (entries : List (Scalar × Value))

namespace Scalar

def whole? : Scalar → Option Int
  | .bool b => some (if b then 1 else 0)
  | .int n => some n
  | .float x => x.toInt?
  | _ => none

def sameKey (a b : Scalar) : Bool :=
  match a.whole?, b.whole? with
  | some m, some n => m == n
  | none, none => a == b && a != .float .nan
  | _, _ => false

end Scalar

namespace Value

abbrev null : Value := .scalar .null
abbrev bool (b : Bool) : Value := .scalar (.bool b)
abbrev int (n : Int) : Value := .scalar (.int n)
abbrev float (x : Binary64) : Value := .scalar (.float x)
abbrev text (s : String) : Value := .scalar (.text s)
abbrev texts (list : List String) : Value := .array (list.map text)

def record (fields : List (String × Value)) : Value :=
  .object (fields.map fun field => (.text field.1, field.2))

def text? : Value → Option String
  | .scalar (.text s) => some s
  | _ => none

def isNull : Value → Bool
  | .scalar .null => true
  | _ => false

def putEntry (entries : List (Scalar × Value)) (key : Scalar) (value : Value) :
    List (Scalar × Value) :=
  match entries with
  | [] => [(key, value)]
  | (k, v) :: rest =>
      if k.sameKey key then (k, value) :: rest else (k, v) :: putEntry rest key value

def ofPairs (pairs : List (Scalar × Value)) : Value :=
  .object (pairs.foldl (fun entries pair => putEntry entries pair.1 pair.2) [])

def field? (entries : List (Scalar × Value)) (name : String) : Option Value :=
  match entries with
  | [] => none
  | (k, v) :: rest => if k = .text name then some v else field? rest name

theorem sizeOf_field?_lt {entries : List (Scalar × Value)} {name : String} {value : Value}
    (h : field? entries name = some value) : sizeOf value < sizeOf entries := by
  induction entries with
  | nil => simp [field?] at h
  | cons entry rest ih =>
    obtain ⟨k, v⟩ := entry
    simp only [field?] at h
    split at h
    · simp only [Option.some.injEq] at h
      subst h
      simp +arith
    · have := ih h
      simp
      omega

def get? (value : Value) (name : String) : Option Value :=
  match value with
  | .object entries => field? entries name
  | _ => none

end Value
def mergeLevels {α : Type} (first second : List (List α)) : List (List α) :=
  match first, second with
  | [], levels => levels
  | levels, [] => levels
  | a :: as, b :: bs => (a ++ b) :: mergeLevels as bs

theorem mem_flatten_mergeLevels {α : Type} {a : α} (first second : List (List α)) :
    a ∈ (mergeLevels first second).flatten ↔ a ∈ first.flatten ∨ a ∈ second.flatten := by
  fun_induction mergeLevels first second with
  | case1 levels => simp
  | case2 levels => simp
  | case3 a as b bs ih =>
    simp only [List.flatten_cons, List.mem_append, ih]
    exact or_or_or_comm

end OpenApiClient
