import OpenApiClient.Text.Blank
import OpenApiClient.Text.Units
import OpenApiClient.Yaml.Cursor

set_option autoImplicit false

namespace OpenApiClient.Yaml

abbrev Scanned := List Char × Cursor

def hexNumber? : Nat → List Char → Option Nat
  | value, [] => some value
  | value, c :: rest => (Text.hexValue? c).bind fun digit => hexNumber? (value * 16 + digit) rest

def escapedChar? (c : Char) : Option Char :=
  match c with
  | '0' => some '\x00'
  | 'a' => some '\x07'
  | 'b' => some '\x08'
  | 't' | '\t' => some '\t'
  | 'n' => some '\n'
  | 'v' => some '\x0b'
  | 'f' => some '\x0c'
  | 'r' => some '\r'
  | 'e' => some '\x1b'
  | ' ' => some ' '
  | '"' => some '"'
  | '\\' => some '\\'
  | '/' => some '/'
  | 'N' => some '\u0085'
  | '_' => some '\u00a0'
  | 'L' => some '\u2028'
  | 'P' => some '\u2029'
  | _ => none

def escapeWidth? (c : Char) : Option Nat :=
  match c with
  | 'x' => some 2
  | 'u' => some 4
  | 'U' => some 8
  | _ => none

def codePoint (n : Nat) : Except ReadError Char :=
  if 0x80000000 ≤ n then .error .hugePoint
  else if 0x110000 ≤ n then .error .badCodePoint
  else .ok (Text.charOfPoint n)

def isBlankChar (c : Char) : Bool := c == ' ' || c == '\t'

def quotedBreaks : Nat → Cursor → Except ReadError Scanned
  | 0, _ => .error .malformed
  | fuel + 1, cursor =>
      if cursor.atMarker then .error .malformed
      else
        let next := cursor.skip isBlankChar
        if isBreak next.head then do
          let (first, after) := next.lineBreak
          let (more, last) ← quotedBreaks fuel after
          pure (first ++ more, last)
        else pure ([], next)

def foldBreaks (first more : List Char) : List Char :=
  (if first ≠ ['\n'] then first else if more.isEmpty then [' '] else []) ++ more

def quotedBlanks (fuel : Nat) (cursor : Cursor) : Except ReadError Scanned :=
  let blanks := cursor.run isBlankChar
  let next := cursor.forward blanks.length
  if next.atEnd then .error .malformed
  else if isBreak next.head then do
    let (first, after) := next.lineBreak
    let (more, last) ← quotedBreaks fuel after
    pure (foldBreaks first more, last)
  else pure (blanks, next)

def numberedPoint? (cursor : Cursor) : Option (Nat × Cursor) :=
  match escapeWidth? cursor.head with
  | some width =>
      let digits := cursor.advance.rest.take width
      if digits.length < width then none
      else (hexNumber? 0 digits).map fun n => (n, cursor.advance.forward width)
  | none => none

def lowHalf? (high : Nat) (cursor : Cursor) : Option (Nat × Cursor) :=
  if Text.isHighHalf high && cursor.head == '\\' then
    (numberedPoint? cursor.advance).filter fun (low, _) => Text.isLowHalf low
  else none

def escape (fuel : Nat) (cursor : Cursor) : Except ReadError Scanned :=
  let c := cursor.head
  match escapedChar? c, numberedPoint? cursor with
  | some char, _ => .ok ([char], cursor.advance)
  | none, some (n, next) =>
      match lowHalf? n next with
      | some (low, last) => .ok ([Text.joinHalves n low], last)
      | none => (codePoint n).map fun char => ([char], next)
  | none, none =>
      if isBreak c then
        let (_, after) := cursor.lineBreak
        quotedBreaks fuel after
      else .error .malformed

def isQuotedChar (c : Char) : Bool :=
  !(isGap c || c == '\'' || c == '"' || c == '\\')

def quotedPiece (double : Bool) : Nat → Cursor → Except ReadError Scanned
  | 0, _ => .error .malformed
  | fuel + 1, cursor => do
      let run := cursor.run isQuotedChar
      let next := cursor.forward run.length
      let c := next.head
      if !double && c == '\'' && next.peek 1 == '\'' then
        let (more, last) ← quotedPiece double fuel (next.forward 2)
        pure (run ++ '\'' :: more, last)
      else if (double && c == '\'') || (!double && (c == '"' || c == '\\')) then
        let (more, last) ← quotedPiece double fuel next.advance
        pure (run ++ c :: more, last)
      else if double && c == '\\' then
        let (escaped, after) ← escape fuel next.advance
        let (more, last) ← quotedPiece double fuel after
        pure (run ++ escaped ++ more, last)
      else pure (run, next)

def quotedRest (limit : Nat) (double : Bool) (quote : Char) :
    Nat → Cursor → Except ReadError Scanned
  | 0, _ => .error .malformed
  | fuel + 1, cursor => do
      let (piece, next) ← quotedPiece double limit cursor
      if next.head == quote then pure (piece, next.advance)
      else
        let (blanks, after) ← quotedBlanks limit next
        let (more, last) ← quotedRest limit double quote fuel after
        pure (piece ++ blanks ++ more, last)

def quotedText (limit : Nat) (cursor : Cursor) : Except ReadError Scanned :=
  let quote := cursor.head
  quotedRest limit (quote == '"') quote limit cursor.advance

def isFlowIndicator (c : Char) : Bool :=
  c == ',' || c == '[' || c == ']' || c == '\x7b' || c == '\x7d'

def plainRun (inFlow : Bool) : List Char → List Char
  | [] => []
  | c :: rest =>
      let next := rest.headD endMark
      if isGap c || (c == ':' && (isGap next || (inFlow && isFlowIndicator next))) ||
          (inFlow && (isFlowIndicator c || c == '?')) then []
      else c :: plainRun inFlow rest

def plainBreaks : Nat → Cursor → Option Scanned
  | 0, _ => none
  | fuel + 1, cursor =>
      if cursor.head == ' ' then plainBreaks fuel cursor.advance
      else if isBreak cursor.head then
        let (first, after) := cursor.lineBreak
        if after.atMarker then none
        else (plainBreaks fuel after).map fun (more, last) => (first ++ more, last)
      else some ([], cursor)

structure PlainGap where
  chars : Option (List Char)
  cursor : Cursor
  brokeLine : Bool

def plainGap (limit : Nat) (cursor : Cursor) : PlainGap :=
  let blanks := cursor.run (· == ' ')
  let next := cursor.forward blanks.length
  if isBreak next.head then
    let (first, after) := next.lineBreak
    if after.atMarker then ⟨none, after, true⟩
    else
      match plainBreaks limit after with
      | none => ⟨none, after.skip fun c => c == ' ' || isBreak c, true⟩
      | some (more, last) => ⟨some (foldBreaks first more), last, true⟩
  else ⟨if blanks.isEmpty then none else some blanks, next, false⟩

structure PlainText where
  chars : List Char
  cursor : Cursor
  brokeLine : Bool

def plainFrom (limit : Nat) (inFlow : Bool) (indent : Nat) : Nat → Cursor → PlainText
  | 0, cursor => ⟨[], cursor, false⟩
  | fuel + 1, cursor =>
      let run := plainRun inFlow cursor.rest
      let gap := plainGap limit (cursor.forward run.length)
      -- A comment, a document marker, or a line that is indented less ends the text.
      let stops :=
        gap.chars.isNone || gap.cursor.head == '#' || (!inFlow && gap.cursor.column < indent)
      if stops || (plainRun inFlow gap.cursor.rest).isEmpty then
        ⟨run, gap.cursor, gap.brokeLine⟩
      else
        let more := plainFrom limit inFlow indent fuel gap.cursor
        ⟨run ++ gap.chars.getD [] ++ more.chars, more.cursor, more.brokeLine⟩

/-- A plain text that begins at the cursor. Outside brackets its lines are indented at least as
far as `indent`. -/
def plainText (limit : Nat) (inFlow : Bool) (indent : Nat) (cursor : Cursor) : PlainText :=
  plainFrom limit inFlow indent limit cursor

inductive Chomping where
  | clip
  | strip
  | keep
  deriving DecidableEq

def chomping? (c : Char) : Option Chomping :=
  if c = '+' then some .keep else if c = '-' then some .strip else none

def increment? (c : Char) : Option Nat :=
  if '0' ≤ c ∧ c ≤ '9' then some (c.toNat - '0'.toNat) else none

def blockSigns (cursor : Cursor) : Except ReadError (Chomping × Option Nat × Cursor) :=
  let finish (chomping : Chomping) (increment : Option Nat) (next : Cursor) :
      Except ReadError (Chomping × Option Nat × Cursor) :=
    if increment = some 0 then .error .malformed
    else if isSpaceOrEnd next.head then .ok (chomping, increment, next)
    else .error .malformed
  match chomping? cursor.head with
  | some chomping =>
      match increment? (cursor.peek 1) with
      | some n => finish chomping (some n) (cursor.forward 2)
      | none => finish chomping none cursor.advance
  | none =>
      match increment? cursor.head with
      | some n =>
          match chomping? (cursor.peek 1) with
          | some chomping => finish chomping (some n) (cursor.forward 2)
          | none => finish .clip (some n) cursor.advance
      | none => finish .clip none cursor

def ignoredLine (cursor : Cursor) : Except ReadError Cursor :=
  let next := cursor.skip (· == ' ')
  let next := if next.head == '#' then next.skip (fun c => !isBreakOrEnd c) else next
  if isBreakOrEnd next.head then .ok next.lineBreak.2 else .error .malformed

def leadingBreaks (greatest : Nat) : Nat → Cursor → List Char × Nat × Cursor
  | 0, cursor => ([], greatest, cursor)
  | fuel + 1, cursor =>
      if cursor.head == ' ' then
        let next := cursor.advance
        leadingBreaks (max greatest next.column) fuel next
      else if isBreak cursor.head then
        let (first, after) := cursor.lineBreak
        let (more, column, last) := leadingBreaks greatest fuel after
        (first ++ more, column, last)
      else ([], greatest, cursor)

def skipIndent (indent : Nat) (cursor : Cursor) : Cursor :=
  cursor.forward (min (cursor.run (· == ' ')).length (indent - cursor.column))

def blockBreaks (indent : Nat) : Nat → Cursor → Scanned
  | 0, cursor => ([], cursor)
  | fuel + 1, cursor =>
      let next := skipIndent indent cursor
      if isBreak next.head then
        let (first, after) := next.lineBreak
        let (more, last) := blockBreaks indent fuel after
        (first ++ more, last)
      else ([], next)

def blockLines (limit : Nat) (folded : Bool) (chomping : Chomping) (indent : Nat)
    (breaks : List Char) : Nat → Cursor → Scanned
  | 0, cursor => ([], cursor)
  | fuel + 1, cursor =>
      if cursor.column == indent && !cursor.atEnd then
        let line := cursor.run fun c => !isBreakOrEnd c
        let (lineBreak, after) := (cursor.forward line.length).lineBreak
        let (inner, next) := blockBreaks indent limit after
        if next.column == indent && !next.atEnd then
          -- Lines that are indented further are kept as they are.
          let joint :=
            if folded && lineBreak == ['\n'] && !isBlankChar cursor.head &&
                !isBlankChar next.head then
              if inner.isEmpty then [' '] else []
            else lineBreak
          let (more, last) := blockLines limit folded chomping indent inner fuel next
          (breaks ++ line ++ joint ++ more, last)
        else
          let ending :=
            match chomping with
            | .strip => []
            | .clip => lineBreak
            | .keep => lineBreak ++ inner
          (breaks ++ line ++ ending, next)
      else (if chomping = .keep then breaks else [], cursor)

def blockText (limit : Nat) (parent : Int) (cursor : Cursor) : Except ReadError Scanned := do
  let folded := cursor.head == '>'
  let (chomping, increment, next) ← blockSigns cursor.advance
  let start ← ignoredLine next
  let least := (max (parent + 1) 1).toNat
  match increment with
  | none =>
      let (breaks, greatest, first) := leadingBreaks 0 limit start
      pure (blockLines limit folded chomping (max least greatest) breaks limit first)
  | some n =>
      let indent := least + n - 1
      let (breaks, first) := blockBreaks indent limit start
      pure (blockLines limit folded chomping indent breaks limit first)

end OpenApiClient.Yaml
