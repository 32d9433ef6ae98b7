import OpenApiClient.Toml.Item

set_option autoImplicit false

namespace OpenApiClient.Toml

structure Pending where
  name : String
  text : List Char
  joined : Bool

inductive PlaceStep where
  | field (name : String)
  | last

structure Reading where
  root : Value
  place : List PlaceStep
  implied : List String
  pending : Option Pending

namespace Reading

def start : Reading := ⟨.object [], [], [], none⟩

end Reading

def changeAt (place : List PlaceStep) (change : Value → Except ReadError Value) (value : Value) :
    Except ReadError Value :=
  match place, value with
  | [], value => change value
  | .field name :: rest, .object table =>
      match changeAt rest change ((Value.field? table name).getD .null) with
      | .ok changed => .ok (.object (Value.putEntry table (.text name) changed))
      | .error e => .error e
  | .last :: rest, .array items =>
      match changeAt rest change (items.getLast?.getD .null) with
      | .ok changed => .ok (.array (items.dropLast ++ [changed]))
      | .error e => .error e
  | _, _ => .error .notTable

/-- The names of a header. A name in quotes may have points; `begun` is the part read so far of one
that has not been closed. -/
def headerNames (begun : Option (List Char)) : List (List Char) → Except ReadError (List String)
  | [] => if begun.isSome then .error .malformed else .ok []
  | piece :: rest =>
      let part :=
        match begun with
        | none => Text.trim piece
        | some begun => Text.trim (begun ++ '.' :: piece)
      if beginsWith isQuote part then
        if part.head? = part.getLast? ∧ part.length ≠ 1 then
          match headerNames none rest with
          | .ok names => .ok (String.ofList (dropEnds 1 part) :: names)
          | .error e => .error e
        else
          headerNames
            (some (match begun with
              | none => Text.trim piece
              | some begun => begun ++ '.' :: piece)) rest
      else if !part.isEmpty && part.all isBareChar then
        match headerNames none rest with
        | .ok names => .ok (String.ofList part :: names)
        | .error e => .error e
      else .error .malformed

def countClosing (double : Bool) : List Char → Nat
  | [] => 0
  | [c] => if !double && c == ']' then 1 else 0
  | c :: d :: rest =>
      if double then
        if c == ']' && d == ']' then countClosing double rest + 1
        else countClosing double (d :: rest)
      else (if c == ']' then 1 else 0) + countClosing double (d :: rest)

def cutHeader (double : Bool) (skipped : Nat) : List Char → Option (List Char × List Char)
  | [] => none
  | c :: rest =>
      let closes := c == ']' && (!double || rest.head? == some ']')
      let width := if double then 2 else 1
      let next := (c :: rest).drop width
      if closes then
        match skipped with
        | 0 => some ([], next)
        | skipped + 1 =>
            match rest with
            | [] => none
            | d :: more =>
                if double then (cutHeader double skipped more).map fun (a, b) => (c :: d :: a, b)
                else (cutHeader double skipped (d :: more)).map fun (a, b) => (c :: a, b)
      else (cutHeader double skipped rest).map fun (a, b) => (c :: a, b)

def header (line : List Char) : Except ReadError (Bool × List String) :=
  match line with
  | '[' :: second :: rest =>
      let double := second == '['
      let line := if double then rest else second :: rest
      let skipped := hiddenCount (countClosing double) false (quoteParts line)
      match cutHeader double skipped line with
      | none => .error .malformed
      | some (name, behind) =>
          if !(Text.trim behind).isEmpty then .error .malformed
          else
            match headerNames none (Text.separated '.' name) with
            | .ok names => .ok (double, names)
            | .error e => .error e
  | _ => .error .malformed

structure Opened where
  value : Value
  way : List PlaceStep
  implied : List String

def Opened.around (opened : Opened) (step : PlaceStep) (wrap : Value → Value) : Opened :=
  { opened with value := wrap opened.value, way := step :: opened.way }

def newItem (isElement : Bool) : Value :=
  if isElement then .array [.object []] else .object []

/-- Goes on with the value of a name. For the header of an element the way leads into the last
element of every list. -/
def enter (double : Bool) (go : Value → Except ReadError Opened) (value : Value) :
    Except ReadError Opened :=
  if !double then go value
  else
    match value with
    | .object _ => go value
    | .array items =>
        match items.getLast? with
        | none => .error .pastEnd
        | some last =>
            match go last with
            | .ok opened =>
                .ok (opened.around .last fun changed => .array (items.dropLast ++ [changed]))
            | .error e => .error e
    | .scalar (.text s) => if s = "" then .error .pastEnd else go value
    | .scalar _ => .error .notTable

/-- Goes to the place that a header opens. An element is added to its list. Inside of a list of
tables a table may be opened again. -/
def openTable (double : Bool) (implied : List String) :
    List String → Value → Except ReadError Opened
  | [], value => .ok ⟨value, [], implied⟩
  | name :: rest, value =>
      let last := rest.isEmpty
      let go (implied : List String) (table : Table) (item : Value) : Except ReadError Opened :=
        match enter double (openTable double implied rest) item with
        | .ok opened =>
            .ok (opened.around (.field name) fun changed =>
              .object (Value.putEntry table (.text name) changed))
        | .error e => .error e
      if name = "" then .error .malformed
      else
        match value with
        | .object table =>
            match Value.field? table name with
            | none =>
                let implied := if last then implied else implied ++ [name]
                go implied table (newItem (last && double))
            | some item =>
                if !last then go implied table item
                -- A table that was only passed through may be opened once.
                else if implied.contains name then
                  if double then .error .malformed else go (implied.erase name) table item
                else if !double then .error .malformed
                else
                  match item with
                  | .array items => go implied table (.array (items ++ [.object []]))
                  | _ => .error .notList
        | .array items =>
            match items.getLast? with
            | none => .error .pastEnd
            | some (.object table) =>
                let item := (Value.field? table name).getD (newItem (last && double))
                match go implied table item with
                | .ok opened =>
                    .ok (opened.around .last fun changed => .array (items.dropLast ++ [changed]))
                | .error e => .error e
            | some _ => .error .notTable
        | .scalar (.text s) => if s = "" then .error .pastEnd else .error .notTable
        | .scalar _ => .error .notTable

namespace Reading

def fuelFor (line : List Char) : Nat := 4 * line.length + 8

def headerLine (reading : Reading) (line : List Char) : Except ReadError Reading :=
  match header line with
  | .error e => .error e
  | .ok (double, names) =>
      match openTable double reading.implied names reading.root with
      | .ok opened =>
          .ok { reading with root := opened.value, place := opened.way, implied := opened.implied }
      | .error e => .error e

def change (reading : Reading) (f : Value → Except ReadError Value) : Except ReadError Reading :=
  match changeAt reading.place f reading.root with
  | .ok root => .ok { reading with root := root }
  | .error e => .error e

def carry (text : List Char) : List Char × Bool :=
  if endsEscaped text then (text.dropLast, true) else (text ++ ['\n'], false)

def current (place : List PlaceStep) (value : Value) : Value :=
  match place, value with
  | .field name :: rest, .object table => current rest ((Value.field? table name).getD .null)
  | .last :: rest, .array items => current rest (items.getLast?.getD .null)
  | _, value => value

def assignLine (reading : Reading) (line : List Char) : Except ReadError Reading :=
  match addLine (current reading.place reading.root) (fuelFor line) line with
  | .error e => .error e
  | .ok (.given changed) => reading.change fun _ => .ok changed
  | .ok (.begun name text changed) =>
      let (text, joined) := carry text
      { reading with pending := some ⟨name, text, joined⟩ }.change fun _ => .ok changed

def closes (text line : List Char) : Except ReadError Bool :=
  let first := text.headD '\x00'
  if first = '[' then
    match line.getLast? with
    | none => .error .pastEnd
    | some c => .ok (c == ']')
  else .ok (2 < line.length && (line.reverse.take 3).all (· == first))

def pendingLine (reading : Reading) (pending : Pending) (line : List Char) :
    Except ReadError Reading :=
  let text := pending.text ++ line
  match closes text line with
  | .error e => .error e
  | .ok false =>
      let (text, joined) := carry text
      .ok { reading with pending := some ⟨pending.name, text, joined⟩ }
  | .ok true =>
      match valueOf true (fuelFor text) text with
      | .error e => .error e
      | .ok value =>
          { reading with pending := none }.change (putField pending.name value)

def step (reading : Reading) (line : List Char) : Except ReadError Reading :=
  let stripped := Text.trim line
  match reading.pending with
  | some pending =>
      -- Blanks at the start of a line belong to a text of several lines.
      let keepsBlanks := !pending.text.isEmpty && !pending.joined && pending.text.contains '\n'
      let line := if keepsBlanks then line else stripped
      if line.isEmpty && pending.joined then .ok reading
      else reading.pendingLine pending line
  | none =>
      match stripped with
      | [] => .ok reading
      | '[' :: _ => reading.headerLine stripped
      | '\x7b' :: _ =>
          if endsWith (· == '\x7d') stripped then
            reading.change fun place => inlineTable place (fuelFor stripped) stripped
          else .error .malformed
      | _ => if stripped.contains '=' then reading.assignLine stripped else .ok reading

def run (reading : Reading) : List (List Char) → Except ReadError Reading
  | [] => .ok reading
  | line :: rest =>
      match reading.step line with
      | .ok next => next.run rest
      | .error e => .error e

end Reading

def read (text : String) : Except ReadError Table :=
  match logicalLines text.toList with
  | .error e => .error e
  | .ok lines =>
      match Reading.start.run lines with
      | .ok reading =>
          match reading.root with
          | .object table => .ok table
          | _ => .error .malformed
      | .error e => .error e

end OpenApiClient.Toml
