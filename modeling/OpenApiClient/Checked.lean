import OpenApiClient.Decimal.Read
import OpenApiClient.Value
import OpenApiClient.Decimal.Shortest
import OpenApiClient.Json.Write

set_option autoImplicit false

namespace OpenApiClient

inductive Step where
  | key (name : String)
  | index (position : Nat)
  deriving DecidableEq

inductive FaultKind where
  | missing
  | notRecord
  | notMapping
  | notList
  | notText
  | notFlag
  | unreadableFlag
  | notMember
  | notInteger
  | unreadableInteger
  | fractionalInteger
  | unboundedInteger
  | oversizedInteger
  deriving DecidableEq

def FaultKind.code : FaultKind → String
  | .missing => "missing"
  | .notRecord => "model_type"
  | .notMapping => "dict_type"
  | .notList => "list_type"
  | .notText => "string_type"
  | .notFlag => "bool_type"
  | .unreadableFlag => "bool_parsing"
  | .notMember => "enum"
  | .notInteger => "int_type"
  | .unreadableInteger => "int_parsing"
  | .fractionalInteger => "int_from_float"
  | .unboundedInteger => "finite_number"
  | .oversizedInteger => "int_parsing_size"

structure Fault where
  location : List Step
  kind : FaultKind
  deriving DecidableEq

inductive Checked (α : Type) where
  | valid (result : α)
  | faulty (faults : List Fault)

namespace Checked

variable {α β : Type}

def map (f : α → β) : Checked α → Checked β
  | .valid a => .valid (f a)
  | .faulty faults => .faulty faults

def ap (f : Checked (α → β)) (a : Checked α) : Checked β :=
  match f, a with
  | .valid f, .valid a => .valid (f a)
  | .valid _, .faulty faults => .faulty faults
  | .faulty faults, .valid _ => .faulty faults
  | .faulty first, .faulty second => .faulty (first ++ second)

instance : Functor Checked where
  map := map

instance : Applicative Checked where
  pure := .valid
  seq f a := ap f (a ())

@[simp] theorem map_eq (f : α → β) (a : Checked α) : f <$> a = a.map f := rfl
@[simp] theorem seq_eq (f : Checked (α → β)) (a : Checked α) : f <*> a = f.ap a := rfl

def fault (kind : FaultKind) : Checked α := .faulty [⟨[], kind⟩]

def within (step : Step) : Checked α → Checked α
  | .valid a => .valid a
  | .faulty faults =>
      .faulty (faults.map fun fault => { fault with location := step :: fault.location })

def faults : Checked α → List Fault
  | .valid _ => []
  | .faulty faults => faults

def firstOf : List (String × Checked α) → Checked α
  | [] => .faulty []
  | (tag, attempt) :: rest =>
      match attempt with
      | .valid a => .valid a
      | .faulty faults =>
          -- A later alternative may still accept the value.
          match firstOf rest with
          | .valid a => .valid a
          | .faulty more =>
              .faulty ((within (.key tag) (.faulty faults : Checked α)).faults ++ more)

def text : Value → Checked String
  | .scalar (.text s) => .valid s
  | _ => fault .notText

def flagWord? (word : String) : Option Bool :=
  let lowered := word.toLower
  if ["0", "off", "f", "false", "n", "no"].contains lowered then some false
  else if ["1", "on", "t", "true", "y", "yes"].contains lowered then some true
  else none

def wholeFlag (n : Int) : Checked Bool :=
  if n = 0 then .valid false else if n = 1 then .valid true else fault .unreadableFlag

def wordLimit : Int := Int.ofNat (Nat.pow 2 63)

/-- A floating point number stands for a whole number only within the range of 64 bits. The range
is open at both ends. -/
def isWordSized (n : Int) : Bool := -wordLimit < n && n < wordLimit

def flag : Value → Checked Bool
  | .scalar (.bool b) => .valid b
  | .scalar (.int n) =>
      -- What does not fit into 64 bits is taken for a floating point number.
      if isWordSized n || n = -wordLimit then wholeFlag n else fault .notFlag
  | .scalar (.float x) =>
      match x.toInt? with
      | some n => if isWordSized n then wholeFlag n else fault .notFlag
      -- A fraction is no truth value in any spelling.
      | none => fault .notFlag
  | .scalar (.text s) =>
      match flagWord? s with
      | some b => .valid b
      | none => fault .unreadableFlag
  | _ => fault .notFlag

/-- Zeros at the start of a number do not count, and neither do underscores among them. The last
character is kept. -/
def dropZeros (cs : List Char) : List Char :=
  match cs with
  | '0' :: rest =>
      match rest.dropWhile fun c => c == '0' || c == '_' with
      | [] => cs.drop (cs.length - 1)
      | number => number
  | _ => cs

/-- The digits of a whole number in decimal. Behind a minus sign no zero comes before other digits,
but an underscore may come first. -/
def wholeDigits? (negative : Bool) (cs : List Char) : Option (List Char) :=
  let joined := joinGroups? Char.isDigit negative (if negative then cs else dropZeros cs)
  joined.filter fun digits =>
    !digits.isEmpty && digits.all Char.isDigit &&
      (digits.length == 1 || digits.head? != some '0')

/-- A whole number in decimal: a sign, digits, and a fraction of zeros, with at least one zero
behind the point. -/
def wholeText (word : String) : Checked Int :=
  let (negative, cs) := takeSign (Text.trimBy isPadding word.toList)
  let whole := cs.takeWhile (· != '.')
  let isPlain :=
    match cs.dropWhile (· != '.') with
    | [] => true
    | _ :: zeros => !zeros.isEmpty && zeros.all (· == '0')
  let digits? := if isPlain then wholeDigits? negative whole else none
  -- The sign of a negative number counts like a digit.
  let counted := digits?.getD ((if negative then whole else dropZeros whole).takeWhile Char.isDigit)
  let isCounted := counted.head? ≠ some '0'
  if isCounted && wholeDigitLimit < counted.length + (if negative then 1 else 0) then
    fault .oversizedInteger
  else
    match digits? with
    | none => fault .unreadableInteger
    | some digits =>
        let n : Int := digitsValue digits
        .valid (if negative then -n else n)

def integer : Value → Checked Int
  | .scalar (.bool b) => .valid (if b then 1 else 0)
  | .scalar (.int n) => .valid n
  | .scalar (.float x) =>
      match x with
      | .finite .. =>
          match x.toInt? with
          | some n => if isWordSized n then .valid n else fault .oversizedInteger
          | none => fault .fractionalInteger
      | _ => fault .unboundedInteger
  | .scalar (.text s) => wholeText s
  | _ => fault .notInteger

def any (value : Value) : Checked Value := .valid value

def optional (read : Value → Checked α) (value : Value) : Checked (Option α) :=
  if value.isNull then .valid none else some <$> read value

def listFrom (read : Value → Checked α) (position : Nat) : List Value → Checked (List α)
  | [] => .valid []
  | item :: rest =>
      List.cons <$> within (.index position) (read item) <*> listFrom read (position + 1) rest

def list (read : Value → Checked α) : Value → Checked (List α)
  | .array items => listFrom read 0 items
  | _ => fault .notList

def textKey (key : Scalar) : Checked String :=
  match key with
  | .text s => .valid s
  | key => within (.key (Json.keyName key)) (within (.key "[key]") (fault .notText))

def entries (read : Value → Checked α) : List (Scalar × Value) → Checked (List (String × α))
  | [] => .valid []
  | (key, value) :: rest =>
      (fun name a more => (name, a) :: more) <$> textKey key
        <*> within (.key (Json.keyName key)) (read value) <*> entries read rest

def mapping (read : Value → Checked α) : Value → Checked (List (String × α))
  | .object list => entries read list
  | _ => fault .notMapping

def located? (fields : List (Scalar × Value)) (written plain : String) :
    Option (String × Value) :=
  match Value.field? fields written with
  | some value => some (written, value)
  | none => (Value.field? fields plain).map fun value => (plain, value)

def fieldOr (absent : α) (fields : List (Scalar × Value)) (written plain : String)
    (read : Value → Checked α) : Checked α :=
  match located? fields written plain with
  | some (name, value) => within (.key name) (read value)
  | none => .valid absent

def field (fields : List (Scalar × Value)) (written plain : String)
    (read : Value → Checked α) : Checked α :=
  match located? fields written plain with
  | some (name, value) => within (.key name) (read value)
  | none => within (.key written) (fault .missing)

def object (read : List (Scalar × Value) → Checked α) : Value → Checked α
  | .object fields => read fields
  | _ => fault .notRecord

end Checked
end OpenApiClient
