import OpenApiClient.Yaml.ScalarText
import OpenApiClient.Yaml.Token

set_option autoImplicit false

namespace OpenApiClient.Yaml

structure PossibleKey where
  mark : Nat
  -- Nothing but a key can stand at the start of a line of a mapping.
  required : Bool
  index : Nat
  line : Nat
  column : Nat

inductive Part where
  | token (token : Token)
  | mark (number : Nat)

structure Lexer where
  cursor : Cursor
  limit : Nat
  reversed : List Part
  marks : Array (List Token)
  flowLevel : Nat
  indent : Int
  outerIndents : List Int
  keyAllowed : Bool
  keys : List (Nat × PossibleKey)

namespace Lexer

abbrev Result := Except ReadError Lexer

def start (text : List Char) : Lexer :=
  { cursor := .ofText text
    limit := text.length + 2
    reversed := []
    marks := #[]
    flowLevel := 0
    indent := -1
    outerIndents := []
    keyAllowed := true
    keys := [] }

def inFlow (lexer : Lexer) : Bool := lexer.flowLevel != 0

def push (lexer : Lexer) (token : Token) : Lexer :=
  { lexer with reversed := .token token :: lexer.reversed }

def skipToToken (lexer : Lexer) : Nat → Lexer
  | 0 => lexer
  | fuel + 1 =>
      let cursor := lexer.cursor.skip (· == ' ')
      let cursor := if cursor.head == '#' then cursor.skip (fun c => !isBreakOrEnd c) else cursor
      -- A new line may begin with a key, but not inside of brackets.
      if isBreak cursor.head then
        skipToToken
          { lexer with
            cursor := cursor.lineBreak.2
            keyAllowed := lexer.keyAllowed || !lexer.inFlow } fuel
      else { lexer with cursor := cursor }

def keyLimit : Nat := 1024

def isStale (cursor : Cursor) (key : PossibleKey) : Bool :=
  key.line != cursor.line || decide (keyLimit < cursor.index - key.index)

def dropStaleKeys (lexer : Lexer) : Result :=
  if lexer.keys.any fun entry => isStale lexer.cursor entry.2 && entry.2.required then
    .error .malformed
  else
    .ok { lexer with keys := lexer.keys.filter fun entry => !isStale lexer.cursor entry.2 }

def key? (lexer : Lexer) : Option PossibleKey :=
  (lexer.keys.find? fun entry => entry.1 == lexer.flowLevel).map Prod.snd

def withoutKey (lexer : Lexer) : Lexer :=
  { lexer with keys := lexer.keys.filter fun entry => entry.1 != lexer.flowLevel }

def dropKey (lexer : Lexer) : Result :=
  match lexer.key? with
  | none => .ok lexer
  | some key => if key.required then .error .malformed else .ok lexer.withoutKey

def saveKey (lexer : Lexer) : Result :=
  if lexer.keyAllowed then do
    let lexer ← lexer.dropKey
    let cursor := lexer.cursor
    let key : PossibleKey :=
      { mark := lexer.marks.size
        required := !lexer.inFlow && lexer.indent == (cursor.column : Int)
        index := cursor.index
        line := cursor.line
        column := cursor.column }
    pure
      { lexer with
        reversed := .mark lexer.marks.size :: lexer.reversed
        marks := lexer.marks.push []
        keys := (lexer.flowLevel, key) :: lexer.keys }
  else .ok lexer

def unwind (lexer : Lexer) (column : Int) : Nat → Lexer
  | 0 => lexer
  | fuel + 1 =>
      if !lexer.inFlow && column < lexer.indent then
        let lexer := lexer.push .blockEnd
        unwind
          { lexer with
            indent := lexer.outerIndents.headD (-1)
            outerIndents := lexer.outerIndents.tail } column fuel
      else lexer

def unwindTo (lexer : Lexer) (column : Int) : Lexer :=
  lexer.unwind column (lexer.outerIndents.length + 1)

def widen (lexer : Lexer) (column : Nat) : Option Lexer :=
  if lexer.indent < (column : Int) then
    some
      { lexer with
        indent := column
        outerIndents := lexer.indent :: lexer.outerIndents }
  else none

def openBlock (lexer : Lexer) (token : Token) : Lexer :=
  match lexer.widen lexer.cursor.column with
  | some wider => wider.push token
  | none => lexer

def allowKey (lexer : Lexer) (allowed : Bool) : Lexer := { lexer with keyAllowed := allowed }

def moveTo (lexer : Lexer) (cursor : Cursor) : Lexer := { lexer with cursor := cursor }

def take (lexer : Lexer) (length : Nat) (token : Token) : Lexer :=
  (lexer.moveTo (lexer.cursor.forward length)).push token

def flowStart (lexer : Lexer) (token : Token) : Result := do
  let lexer ← lexer.saveKey
  pure (({ lexer with flowLevel := lexer.flowLevel + 1 }.allowKey true).take 1 token)

def flowEnd (lexer : Lexer) (token : Token) : Result := do
  let lexer ← lexer.dropKey
  pure (({ lexer with flowLevel := lexer.flowLevel - 1 }.allowKey false).take 1 token)

def flowEntry (lexer : Lexer) : Result := do
  let lexer ← (lexer.allowKey true).dropKey
  pure (lexer.take 1 .flowEntry)

def blockEntry (lexer : Lexer) : Result := do
  if !lexer.inFlow && !lexer.keyAllowed then .error .malformed
  else
    let lexer := if lexer.inFlow then lexer else lexer.openBlock .blockSequenceStart
    let lexer ← (lexer.allowKey true).dropKey
    pure (lexer.take 1 .blockEntry)

def explicitKey (lexer : Lexer) : Result := do
  if !lexer.inFlow && !lexer.keyAllowed then .error .malformed
  else
    let lexer := if lexer.inFlow then lexer else lexer.openBlock .blockMappingStart
    let lexer ← (lexer.allowKey !lexer.inFlow).dropKey
    pure (lexer.take 1 .key)

def value (lexer : Lexer) : Result :=
  match lexer.key? with
  | some key =>
      let lexer := lexer.withoutKey
      -- A mapping begins at the column of its first key.
      let wider := if lexer.inFlow then none else lexer.widen key.column
      let tokens := if wider.isSome then [Token.blockMappingStart, .key] else [.key]
      let lexer := wider.getD lexer
      let lexer := { lexer with marks := lexer.marks.setIfInBounds key.mark tokens }
      .ok ((lexer.allowKey false).take 1 .value)
  | none => do
      if !lexer.inFlow && !lexer.keyAllowed then .error .malformed
      else
        let lexer := if lexer.inFlow then lexer else lexer.openBlock .blockMappingStart
        let lexer ← (lexer.allowKey !lexer.inFlow).dropKey
        pure (lexer.take 1 .value)

def isNameChar (c : Char) : Bool :=
  Text.isAsciiDigit c || Text.isAsciiLower c || Text.isAsciiUpper c || c == '-' || c == '_'

def anchorName (lexer : Lexer) (token : String → Token) : Result := do
  let lexer ← lexer.saveKey
  let name := lexer.cursor.advance.run isNameChar
  let after := lexer.cursor.advance.forward name.length
  let next := after.head
  if name.isEmpty || !(isGap next || ['?', ':', ',', ']', '\x7d', '%', '@', '\x60'].contains next)
  then .error .malformed
  else pure (((lexer.allowKey false).moveTo after).push (token (String.ofList name)))

def isTagChar (c : Char) : Bool :=
  isNameChar c || [';', '/', '?', ':', '@', '&', '=', '+', '$', ',', '.', '!', '~', '*', '\'',
    '(', ')', '[', ']', '%'].contains c

def escapedText (bytes : List UInt8) : Except ReadError (List Char) :=
  match String.fromUTF8? ⟨bytes.toArray⟩ with
  | some text => .ok text.toList
  | none => .error .malformed

/-- Replaces the escapes in a tag, each of which stands for a byte. `bytes` are those of the escapes
directly before. -/
def unescapedTag (bytes : List UInt8) : List Char → Except ReadError (List Char)
  | [] => escapedText bytes
  | '%' :: rest =>
      match rest with
      | high :: low :: rest =>
          match Text.hexValue? high, Text.hexValue? low with
          | some h, some l => unescapedTag (bytes ++ [UInt8.ofNat (16 * h + l)]) rest
          | _, _ => .error .malformed
      | _ => .error .malformed
  | c :: rest => do
      let before ← escapedText bytes
      let more ← unescapedTag [] rest
      pure (before ++ c :: more)

def tagName (cursor : Cursor) : Except ReadError (String × Cursor) := do
  let name := cursor.run isTagChar
  if name.isEmpty then .error .malformed
  else
    let text ← unescapedTag [] name
    pure (String.ofList text, cursor.forward name.length)

def tagHandle (cursor : Cursor) : Except ReadError (String × Cursor) :=
  if cursor.head != '!' then .error .malformed
  else if cursor.peek 1 == ' ' then .ok ("!", cursor.advance)
  else
    let name := cursor.advance.run isNameChar
    let behind := cursor.advance.forward name.length
    if behind.head == '!' then .ok ("!" ++ String.ofList name ++ "!", behind.advance)
    else .error .malformed

def writtenTag (cursor : Cursor) : Except ReadError (WrittenTag × Cursor) := do
  let inner := cursor.advance
  if inner.head == '<' then
    let (name, after) ← tagName inner.advance
    if after.head == '>' then pure (⟨none, name⟩, after.advance) else .error .malformed
  else if isGap inner.head then pure (⟨none, "!"⟩, inner)
  else
    let (handle, start) ←
      if (inner.run fun c => !isSpaceOrEnd c).contains '!' then tagHandle cursor
      else pure ("!", inner)
    let (name, after) ← tagName start
    pure (⟨some handle, name⟩, after)

def tag (lexer : Lexer) : Result := do
  let lexer ← lexer.saveKey
  let (written, after) ← writtenTag lexer.cursor
  if isSpaceOrEnd after.head then
    pure (((lexer.allowKey false).moveTo after).push (.tag written))
  else .error .malformed

def quoted (lexer : Lexer) : Result := do
  let lexer ← lexer.saveKey
  let (chars, after) ← quotedText lexer.limit lexer.cursor
  pure (((lexer.allowKey false).moveTo after).push (.scalar (String.ofList chars) false))

def plain (lexer : Lexer) : Result := do
  let lexer ← lexer.saveKey
  let text := plainText lexer.limit lexer.inFlow (lexer.indent + 1).toNat lexer.cursor
  pure (((lexer.allowKey text.brokeLine).moveTo text.cursor).push
    (.scalar (String.ofList text.chars) true))

def block (lexer : Lexer) : Result := do
  let lexer ← (lexer.allowKey true).dropKey
  let (chars, after) ← blockText lexer.limit lexer.indent lexer.cursor
  pure ((lexer.moveTo after).push (.scalar (String.ofList chars) false))

def document (lexer : Lexer) (token : Token) : Result := do
  let lexer ← (lexer.unwindTo (-1)).dropKey
  pure ((lexer.allowKey false).take 3 token)

def version (cursor : Cursor) : Except ReadError (Directive × Cursor) :=
  let first := cursor.skip (· == ' ')
  let major := first.run Text.isAsciiDigit
  let point := first.forward major.length
  let minor := point.advance.run Text.isAsciiDigit
  let after := point.advance.forward minor.length
  if (major.dropWhile (· == '0')) == ['1'] && point.head == '.' && !minor.isEmpty &&
      isSpaceOrEnd after.head then .ok (.version, after)
  else .error .malformed

def handleDirective (cursor : Cursor) : Except ReadError (Directive × Cursor) := do
  let (handle, behind) ← tagHandle (cursor.skip (· == ' '))
  if behind.head != ' ' then .error .malformed
  else
    let (stem, after) ← tagName (behind.skip (· == ' '))
    if isSpaceOrEnd after.head then pure (.handle handle stem, after) else .error .malformed

def directive (lexer : Lexer) : Result := do
  let lexer ← (lexer.unwindTo (-1)).dropKey
  let name := lexer.cursor.advance.run isNameChar
  let after := lexer.cursor.advance.forward name.length
  if name.isEmpty || !isSpaceOrEnd after.head then .error .malformed
  else
    let (directive, behind) ←
      if name == "YAML".toList then version after
      else if name == "TAG".toList then handleDirective after
      else pure (.other, after.skip fun c => !isBreakOrEnd c)
    let next ← ignoredLine behind
    pure (((lexer.allowKey false).moveTo next).push (.directive directive))

def isIndicator (c : Char) : Bool :=
  ['-', '?', ':', ',', '[', ']', '\x7b', '\x7d', '#', '&', '*', '!', '|', '>', '\'', '"', '%',
    '@', '\x60'].contains c

def beginsPlain (lexer : Lexer) : Bool :=
  let c := lexer.cursor.head
  (!isGap c && !isIndicator c) ||
    (!isGap (lexer.cursor.peek 1) &&
      (c == '-' || (!lexer.inFlow && (c == '?' || c == ':'))))

def token (lexer : Lexer) : Result :=
  let c := lexer.cursor.head
  let gapBehind := isGap (lexer.cursor.peek 1)
  let atLineStart := lexer.cursor.column == 0
  if c == '%' && atLineStart then lexer.directive
  else if c == '-' && atLineStart && lexer.cursor.atMarker then lexer.document .documentStart
  else if c == '.' && atLineStart && lexer.cursor.atMarker then lexer.document .documentEnd
  else if c == '[' then lexer.flowStart .flowSequenceStart
  else if c == '\x7b' then lexer.flowStart .flowMappingStart
  else if c == ']' then lexer.flowEnd .flowSequenceEnd
  else if c == '\x7d' then lexer.flowEnd .flowMappingEnd
  else if c == ',' then lexer.flowEntry
  -- From here on a sign counts only before a gap; otherwise it begins a plain text.
  else if c == '-' && gapBehind then lexer.blockEntry
  else if c == '?' && (lexer.inFlow || gapBehind) then lexer.explicitKey
  else if c == ':' && (lexer.inFlow || gapBehind) then lexer.value
  else if c == '*' then lexer.anchorName .alias
  else if c == '&' then lexer.anchorName .anchor
  else if c == '!' then lexer.tag
  else if (c == '|' || c == '>') && !lexer.inFlow then lexer.block
  else if c == '\'' || c == '"' then lexer.quoted
  else if lexer.beginsPlain then lexer.plain
  else .error .malformed

def tokens (lexer : Lexer) : List Token :=
  lexer.reversed.reverse.flatMap fun part =>
    match part with
    | .token token => [token]
    | .mark number => lexer.marks.getD number []

/-- A token that may be a key is given away only when it is clear whether it is one. What cannot be
read behind it is met before it. -/
def stop (lexer : Lexer) (error : ReadError) : List Token :=
  let waiting := lexer.keys.filter fun entry => !isStale lexer.cursor entry.2
  match (waiting.map fun entry => entry.2.mark).min? with
  | some mark =>
      { lexer with marks := lexer.marks.setIfInBounds mark [.unreadable error] }.tokens
  | none => (lexer.push (.unreadable error)).tokens

def run (lexer : Lexer) : Nat → List Token
  | 0 => lexer.stop .malformed
  | fuel + 1 =>
      match (lexer.skipToToken lexer.limit).dropStaleKeys with
      | .error error => lexer.stop error
      | .ok next =>
          let next := next.unwindTo next.cursor.column
          if next.cursor.atEnd then
            match (next.unwindTo (-1)).dropKey with
            | .ok last => last.tokens
            | .error error => lexer.stop error
          else
            match next.token with
            | .ok next => next.run fuel
            | .error error => lexer.stop error

end Lexer

def isTextChar (c : Char) : Bool :=
  c == '\t' || c == '\n' || c == '\r' || (' ' ≤ c && c ≤ '~') || c == '\u0085' ||
    ('\u00a0' ≤ c && c ≤ '\ufffd') || 0x10000 ≤ c.toNat

def tokens (text : List Char) : List Token :=
  if text.all isTextChar then
    let lexer := Lexer.start text
    let lexer :=
      if lexer.cursor.head == '\ufeff' then lexer.moveTo lexer.cursor.advance else lexer
    lexer.run lexer.limit
  else [.unreadable .malformed]

end OpenApiClient.Yaml
