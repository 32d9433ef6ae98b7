import OpenApiClient.Text.Letter
import OpenApiClient.Text.Lines

set_option autoImplicit false

namespace OpenApiClient.Toml

def isBareChar (c : Char) : Bool :=
  Text.isAsciiLower c || Text.isAsciiUpper c || Text.isAsciiDigit c || c == '_' || c == '-'

def isKeyChar (c : Char) : Bool := Text.isLetterOrDigit c || c == '_' || c == '-'

inductive ReadError where
  | malformed
  | pastEnd
  | notTable
  | notList
  | hugePoint
  | nameless
  deriving DecidableEq

inductive KeyPart where
  | none
  | word
  | behind
  deriving DecidableEq

inductive Header where
  | table
  | arrayElement
  deriving DecidableEq

structure Scan where
  reversed : List Char
  depth : Int
  quote : Option Char
  multiline : Bool
  header : Option Header
  atLineStart : Bool
  key : KeyPart
  dotted : Bool
  inComment : Bool

namespace Scan

def start (text : List Char) : Scan :=
  { reversed := text.reverse
    depth := 0
    quote := none
    multiline := false
    header := none
    atLineStart := true
    key := .none
    dotted := false
    inComment := false }

def push (scan : Scan) (c : Char) : Scan := { scan with reversed := c :: scan.reversed }

def previous (scan : Scan) (distance : Nat) : Char := scan.reversed.getD distance '\x00'

def isOdd (n : Nat) : Bool := n % 2 == 1

def isEscaped (reversed : List Char) : Bool :=
  isOdd (reversed.takeWhile (· == '\\')).length

inductive KeyStep where
  | within (scan : Scan)
  | equals (scan : Scan)
  | failed (error : ReadError)

def afterWord (scan : Scan) (c : Char) (next : Option Char) : KeyStep :=
  let beginsWord : Except ReadError Bool :=
    match next with
    | none => .error .pastEnd
    | some d => .ok (!Text.isBlank d && d != '.')
  if Text.isBlank c then
    if scan.dotted then
      match beginsWord with
      | .error e => .failed e
      | .ok begins => .within { scan with key := if begins then .word else .behind }
    else .within scan
  else if c = '.' then
    match beginsWord with
    | .error e => .failed e
    | .ok begins =>
        .within { scan with dotted := true, key := if begins then .word else .behind }
  else if c = '=' then .equals { scan with key := .none, dotted := false }
  else .failed .malformed

def keyStep (scan : Scan) (c : Char) (next : Option Char) : KeyStep :=
  if c = '\n' then .failed .malformed
  else
    match scan.quote with
    | some quote =>
        if c = quote && !isEscaped scan.reversed then
          .within { scan with key := .behind, quote := none }
        else .within scan
    | none =>
        if scan.key = .behind then scan.afterWord c next
        else if Text.isBlank c then .within { scan with key := .behind }
        else if c = '.' then .within { scan with dotted := true }
        else if isKeyChar c then .within scan
        else if scan.dotted && scan.previous 0 == '.' && (c == '"' || c == '\'') then
          .within { scan with quote := some c }
        else if c = '=' then .equals { scan with key := .none, dotted := false }
        else .failed .malformed

def toggle (scan : Scan) (c : Char) : Scan :=
  { scan with quote := if scan.quote.isSome then none else some c }

def toggleMultiline (scan : Scan) (c : Char) : Scan :=
  { scan with multiline := !scan.multiline, quote := if scan.multiline then none else some c }

/-- Three quotes in a row open or close a text of several lines. A double quote behind an odd
number of backslashes is part of the text. -/
def quoteStep (scan : Scan) (c : Char) : Scan :=
  let first := scan.previous 0 == c
  let triple := first && scan.previous 1 == c
  if c = '\'' ∧ scan.quote ≠ some '"' then
    if triple then scan.toggleMultiline c else scan.toggle c
  else if c = '"' ∧ scan.quote ≠ some '\'' then
    let escaped :=
      if triple then isEscaped (scan.reversed.drop 2)
      else if first then false
      else isEscaped scan.reversed
    if escaped then scan
    else if triple then scan.toggleMultiline c
    else scan.toggle c
  else scan

def bracketStep (scan : Scan) (c : Char) (next : Option Char) : Scan :=
  if c = '[' ∧ scan.quote.isNone ∧ scan.header.isNone then
    if scan.atLineStart then
      { scan with header := some (if next = some '[' then .arrayElement else .table) }
    else { scan with depth := scan.depth + 1 }
  else if c = ']' ∧ scan.quote.isNone then
    match scan.header with
    | some .table => { scan with header := none }
    | some .arrayElement =>
        if scan.previous 0 == ']' then { scan with header := none } else scan
    | none => { scan with depth := scan.depth - 1 }
  else scan

def lineBreak (scan : Scan) : Except ReadError Scan :=
  if scan.quote.isSome || scan.multiline then
    if !scan.multiline then .error .malformed
    else
      match scan.reversed with
      | a :: b :: c :: rest =>
          if (a == '\'' || a == '"') && b == a then
            .ok { scan with reversed := a :: a :: b :: (if c == a then ' ' else c) :: rest }
          else .ok (scan.push '\n')
      | _ => .ok (scan.push '\n')
  else if scan.depth ≠ 0 then .ok (scan.push ' ')
  else .ok ({ scan with atLineStart := true }.push '\n')

def lineStart (scan : Scan) (c : Char) : Except ReadError Scan :=
  if scan.atLineStart && c != ' ' && c != '\t' then
    let scan := { scan with atLineStart := false }
    if scan.header.isSome then .ok scan
    else if c = '=' then .error .malformed
    else .ok { scan with key := .word }
  else .ok scan

def plainStep (scan : Scan) (c : Char) (next : Option Char) : Except ReadError Scan :=
  let scan := scan.quoteStep c
  if c = '#' ∧ scan.quote.isNone ∧ scan.header.isNone then
    .ok ({ scan with inComment := true }.push ' ')
  else
    let scan := scan.bracketStep c next
    if c = '\n' then scan.lineBreak
    else
      match scan.lineStart c with
      | .ok scan => .ok (scan.push c)
      | .error e => .error e

def step (scan : Scan) (c : Char) (next : Option Char) : Except ReadError Scan :=
  -- A comment is blanked, so that every character keeps its place.
  if scan.inComment && c != '\n' then .ok (scan.push ' ')
  else
    let scan := { scan with inComment := false }
    if scan.key = .none then scan.plainStep c next
    else
      match scan.keyStep c next with
      | .within scan => .ok (scan.push c)
      | .equals scan => scan.plainStep c next
      | .failed e => .error e

def run (scan : Scan) : List Char → Except ReadError Scan
  | [] => .ok scan
  | c :: rest =>
      match scan.step c rest.head? with
      | .ok next => next.run rest
      | .error e => .error e

end Scan

/-- The logical lines of a text. No key without a value and no text of several lines may be open at
the end. -/
def logicalLines (text : List Char) : Except ReadError (List (List Char)) :=
  match (Scan.start text).run text with
  | .error e => .error e
  | .ok scan =>
      if scan.key ≠ .none || (scan.quote.isSome && scan.multiline) then .error .malformed
      else .ok (Text.separated '\n' (scan.reversed.take text.length).reverse)

end OpenApiClient.Toml
