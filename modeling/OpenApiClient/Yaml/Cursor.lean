set_option autoImplicit false

namespace OpenApiClient.Yaml

/-- Why a text cannot be read. A value that is recognised by its form but has no meaning is told
apart from a text that is malformed. -/
inductive ReadError where
  | malformed
  | badNumber
  | badDate
  | badTruth
  | badCodePoint
  | hugePoint
  | noDigits
  | noTimestamp
  -- A collection holds itself, so it has no finite value.
  | endless
  deriving DecidableEq

structure Cursor where
  rest : List Char
  index : Nat
  line : Nat
  column : Nat

def endMark : Char := '\x00'

def isBreak (c : Char) : Bool :=
  c == '\n' || c == '\r' || c == '\u0085' || c == '\u2028' || c == '\u2029'

def isBreakOrEnd (c : Char) : Bool := isBreak c || c == endMark

def isSpaceOrEnd (c : Char) : Bool := isBreakOrEnd c || c == ' '

def isGap (c : Char) : Bool := isSpaceOrEnd c || c == '\t'

namespace Cursor

def ofText (text : List Char) : Cursor := ⟨text, 0, 0, 0⟩

def peek (cursor : Cursor) (distance : Nat) : Char := cursor.rest.getD distance endMark

def head (cursor : Cursor) : Char := cursor.peek 0

def atEnd (cursor : Cursor) : Bool := cursor.rest.isEmpty

def advance (cursor : Cursor) : Cursor :=
  match cursor.rest with
  | [] => cursor
  | c :: rest =>
      let index := cursor.index + 1
      if c = '\r' ∧ rest.head? = some '\n' then ⟨rest, index, cursor.line, cursor.column + 1⟩
      else if isBreak c then ⟨rest, index, cursor.line + 1, 0⟩
      else if c = '\ufeff' then ⟨rest, index, cursor.line, cursor.column⟩
      else ⟨rest, index, cursor.line, cursor.column + 1⟩

def forward (cursor : Cursor) : Nat → Cursor
  | 0 => cursor
  | n + 1 => cursor.advance.forward n

def run (cursor : Cursor) (p : Char → Bool) : List Char := cursor.rest.takeWhile p

def skip (cursor : Cursor) (p : Char → Bool) : Cursor := cursor.forward (cursor.run p).length

def lineBreak (cursor : Cursor) : List Char × Cursor :=
  match cursor.rest with
  | '\r' :: '\n' :: _ => (['\n'], cursor.forward 2)
  | c :: _ =>
      if c = '\u2028' ∨ c = '\u2029' then ([c], cursor.advance)
      else if isBreak c then (['\n'], cursor.advance)
      else ([], cursor)
  | [] => ([], cursor)

def atMarker (cursor : Cursor) : Bool :=
  (cursor.rest.take 3 == ['-', '-', '-'] || cursor.rest.take 3 == ['.', '.', '.']) &&
    isGap (cursor.peek 3)

end Cursor
end OpenApiClient.Yaml
