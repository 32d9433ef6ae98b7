import OpenApiClient.Text.Lines
import OpenApiClient.Toml.Logical

set_option autoImplicit false

namespace OpenApiClient.Toml

def endsEscaped (cs : List Char) : Bool := Scan.isEscaped cs.reverse

/-- What has been seen of a quoted text: whether it was closed, and how many quotes stood in a row
inside three quotes. -/
structure Closing where
  closed : Bool
  quotes : Nat

/-- Nothing but quotes may follow the quote that closes a text. `pieces` are the parts between the
quotes. -/
def checkClosing (triple : Bool) (seen : Closing) : List (List Char) → Except ReadError Unit
  | [] => .ok ()
  | [] :: rest =>
      if triple then checkClosing triple { seen with quotes := seen.quotes + 1 } rest
      else checkClosing triple { seen with closed := true } rest
  | piece :: rest =>
      if endsEscaped piece then checkClosing triple seen rest
      else if seen.closed then .error .malformed
      else if !triple || 1 < seen.quotes then checkClosing triple { seen with closed := true } rest
      else checkClosing triple { seen with quotes := 0 } rest

def escapedChar? (c : Char) : Option Char :=
  match c with
  | '0' => some '\x00'
  | 'b' => some '\x08'
  | 'f' => some '\x0c'
  | 'n' => some '\n'
  | 'r' => some '\r'
  | 't' => some '\t'
  | '"' => some '"'
  | _ => none

/-- Every backslash begins an escape that has a meaning. `pieces` are the parts between the
backslashes, without the first. -/
def checkEscapes (escaped : Bool) : List (List Char) → Except ReadError Unit
  | [] => .ok ()
  | [] :: rest => checkEscapes (!escaped) rest
  | (c :: _) :: rest =>
      if (escapedChar? c).isNone && c != 'u' && c != 'U' && !escaped then .error .malformed
      else checkEscapes false rest

def splitAtEscape (letter : Char) : List Char → List (List Char)
  | c :: d :: rest =>
      if c = '\\' ∧ d = letter then [] :: splitAtEscape letter rest
      else
        match splitAtEscape letter (d :: rest) with
        | [] => [[c]]
        | piece :: more => (c :: piece) :: more
  | [c] => [[c]]
  | [] => [[]]

def pointChar (digits : List Char) : Except ReadError Char :=
  let values := digits.filterMap Text.hexValue?
  let point := values.foldl (fun n digit => n * 16 + digit) 0
  if values.length ≠ digits.length then .error .malformed
  else
    match values with
    | [] | [13] => .error .pastEnd
    -- The code points from D800 on belong to pairs and stand for nothing.
    | 13 :: second :: _ => if 8 ≤ second then .error .malformed else checkSize point
    | _ => checkSize point
where
  checkSize (point : Nat) : Except ReadError Char :=
    if 0x80000000 ≤ point then .error .hugePoint
    else if 0x110000 ≤ point then .error .malformed
    else .ok (Char.ofNat point)

/-- Replaces the escapes of code points. An escape whose own backslash is escaped is kept; what
stands before an escape is looked at only at the start and behind a kept one. -/
def joinPoints (letter : Char) (width : Nat) (kept : Bool) :
    List (List Char) → Except ReadError (List Char)
  | [] => .ok []
  | piece :: rest =>
      if kept then
        match joinPoints letter width (endsEscaped piece) rest with
        | .ok more => .ok ('\\' :: letter :: piece ++ more)
        | .error e => .error e
      else
        match pointChar (piece.take width), joinPoints letter width false rest with
        | .ok c, .ok more => .ok (c :: piece.drop width ++ more)
        | .error e, _ | _, .error e => .error e

def replacePoints (letter : Char) (width : Nat) (cs : List Char) :
    Except ReadError (List Char) :=
  match splitAtEscape letter cs with
  | [] => .ok []
  | first :: rest =>
      match joinPoints letter width (endsEscaped first) rest with
      | .ok more => .ok (first ++ more)
      | .error e => .error e

def replaceEscapes : List Char → Except ReadError (List Char)
  | '\\' :: c :: rest =>
      match replaceEscapes rest with
      | .error e => .error e
      | .ok more =>
          if c = '\\' then .ok ('\\' :: more)
          else if c = 'u' ∨ c = 'U' then .ok ('\\' :: c :: more)
          else
            match escapedChar? c with
            | some char => .ok (char :: more)
            | none => .error .malformed
  | c :: rest =>
      match replaceEscapes rest with
      | .ok more => .ok (c :: more)
      | .error e => .error e
  | [] => .ok []

def replaceAllEscapes (cs : List Char) : Except ReadError (List Char) := do
  checkEscapes false (Text.separated '\\' cs).tail
  let cs ← replacePoints 'u' 4 cs
  let cs ← replacePoints 'U' 8 cs
  replaceEscapes cs

def dropEnds (count : Nat) (cs : List Char) : List Char :=
  (cs.drop count).take (cs.length - 2 * count)

def dropQuotes (quote : Char) (cs : List Char) : List Char :=
  let second := cs.getD 1 '\x00'
  let triple := 1 < cs.length && second == quote && (cs.length < 3 || cs.getD 2 '\x00' == second)
  dropEnds 1 (if triple then dropEnds 2 cs else cs)

def unquoted (quote : Char) (cs : List Char) : Except ReadError String := do
  let pieces := Text.separated quote cs.tail
  match pieces with
  | [] :: [] :: rest => checkClosing true ⟨false, 0⟩ rest
  | pieces => checkClosing false ⟨false, 0⟩ pieces
  let content ← if quote = '"' then replaceAllEscapes cs else pure cs
  pure (String.ofList (dropQuotes quote content))

end OpenApiClient.Toml
