import OpenApiClient.Toml.Number
import OpenApiClient.Toml.Unquoted

set_option autoImplicit false

namespace OpenApiClient.Toml

abbrev Table := List (Scalar × Value)

inductive ItemKind where
  | bool
  | text
  | array
  | table
  | date
  | time
  | int
  | float
  deriving DecidableEq

def itemKind : Value → ItemKind
  | .scalar (.bool _) => .bool
  | .scalar (.int _) => .int
  | .scalar (.float _) => .float
  | .scalar (.timestamp _) => .date
  | .scalar (.time _) => .time
  | .scalar _ => .text
  | .array _ => .array
  | .object _ => .table

def isQuote (c : Char) : Bool := c == '"' || c == '\''

def beginsWith (p : Char → Bool) (cs : List Char) : Bool := (cs.head?.map p).getD false
def endsWith (p : Char → Bool) (cs : List Char) : Bool := (cs.getLast?.map p).getD false

/-- The parts of a line outside and inside of quotes, in turn. Single quotes are looked for only
outside of double quotes. -/
def quoteParts (line : List Char) : List (List Char) :=
  match Text.separated '"' line with
  | first :: second :: rest =>
      if first.contains '\'' then
        let (singles, left) := openSingles (Text.separated '\'' first) (second :: rest)
        singles ++ doubles false left
      else doubles false (first :: second :: rest)
  | pieces => doubles false pieces
where
  -- A double quote inside of single quotes is part of the text.
  openSingles (singles : List (List Char)) : List (List Char) →
      List (List Char) × List (List Char)
    | [] => (singles, [])
    | piece :: rest =>
        if singles.length % 2 = 0 then
          let last := singles.getLast?.getD [] ++ '"' :: piece
          openSingles (singles.dropLast ++ Text.separated '\'' last) rest
        else (singles, piece :: rest)
  doubles (inside : Bool) : List (List Char) → List (List Char)
    | [] => []
    | piece :: rest =>
        if inside then piece :: doubles true rest
        else Text.separated '\'' piece ++ doubles true rest

/-- How often the separator stands in the quoted parts before the first part outside of quotes
that has one. -/
def hiddenCount (count : List Char → Nat) (inside : Bool) : List (List Char) → Nat
  | [] => 0
  | part :: rest =>
      if !inside && 0 < count part then 0 else count part + hiddenCount count (!inside) rest

/-- The two sides of a sign of equality, of which `skipped` stand before it. With fewer of them the
last one is meant. -/
def cutAtEquals (skipped : Nat) (line : List Char) : List Char × List Char :=
  let pieces := Text.separated '=' line
  let size := min (skipped + 1) (pieces.length - 1)
  (['='].intercalate (pieces.take size), ['='].intercalate (pieces.drop size))

def beginsValue (cs : List Char) : Bool :=
  let mayStart (c : Char) : Bool := c == ' ' || c == '\t' || isQuote c || c == '[' || c == '\x7b'
  cs.isEmpty || beginsWith mayStart cs ||
    Text.trim cs == "true".toList || Text.trim cs == "false".toList ||
    (Binary64.ofText? cs).isSome || (timestamp? cs).isSome || (clock? cs).isSome

structure Assignment where
  key : List Char
  value : List Char
  strict : Bool

def relaxed (value : List Char) : List Char :=
  if beginsWith Text.isAsciiDigit value then dropUnderscores value else value

def assignmentFrom (line : List Char) (skipped : Nat) (given : Assignment) :
    Nat → Except ReadError Assignment
  | 0 => .error .malformed
  | fuel + 1 =>
      if beginsValue given.value then .ok given
      else
        let (key, value) := cutAtEquals (skipped + 1) line
        if value = given.value then .error .malformed
        else
          assignmentFrom line (skipped + 1) ⟨key, value, given.strict && isStrictNumber value⟩ fuel

def assignment (line : List Char) : Except ReadError Assignment :=
  let skipped := hiddenCount (fun part => part.count '=') false (quoteParts line)
  let (key, value) := cutAtEquals skipped line
  assignmentFrom line skipped ⟨key, relaxed value, isStrictNumber value⟩ (line.length + 2)

def dottedNames (key : List Char) : List (List Char) :=
  if key.any isQuote then names false (quoteParts key)
  else Text.separated '.' key
where
  names (inside : Bool) : List (List Char) → List (List Char)
    | [] => []
    | part :: rest =>
        (if inside then [part] else (Text.separated '.' part).map Text.trim) ++ names (!inside) rest

def dropEmptyEnd (names : List (List Char)) : List (List Char) :=
  (names.reverse.dropWhile List.isEmpty).reverse

def keyPath (key : List Char) : Except ReadError (List String × String) :=
  if key.contains '.' then
    let names := dropEmptyEnd (dottedNames key)
    match names.getLast? with
    | none => .error .pastEnd
    | some last =>
        .ok ((names.dropLast.filter fun name => !name.isEmpty).map String.ofList,
          String.ofList (Text.trim last))
  else
    match key with
    | [] => .error .pastEnd
    | c :: _ =>
        if isQuote c && endsWith (· == c) key then
          match replaceEscapes (dropEnds 1 key) with
          | .ok name => .ok ([], String.ofList name)
          | .error e => .error e
        else .ok ([], String.ofList key)

/-- Goes through the tables of a path, which are made where they are missing, and changes what is
at its end. -/
def changeAlong (path : List String) (change : Value → Except ReadError Value) (value : Value) :
    Except ReadError Value :=
  match path with
  | [] => change value
  | name :: rest =>
      match value with
      | .object table =>
          let inner := (Value.field? table name).getD (.object [])
          match changeAlong rest change inner with
          | .ok changed => .ok (.object (Value.putEntry table (.text name) changed))
          | .error e => .error e
      | _ => .error .notTable

def refuseEntry (name : String) (value : Value) : Except ReadError Value :=
  match value with
  | .object table => if (Value.field? table name).isSome then .error .malformed else .ok value
  | _ => .error .malformed

def putField (name : String) (item value : Value) : Except ReadError Value :=
  match value with
  | .object table => .ok (.object (Value.putEntry table (.text name) item))
  | _ => .error .malformed

def holdsTexts (array : List Char) : Bool := beginsWith isQuote (Text.trim (dropEnds 1 array))

def isBounded (cs : List Char) : Bool :=
  match cs with
  | [] => true
  | first :: _ =>
      let backslashes := (cs.drop 1).dropLast.reverse.takeWhile (· == '\\')
      cs.getLast? == some first && !Scan.isOdd backslashes.length

def isUnfinished (piece : List Char) : Bool :=
  let cs := Text.trim piece
  let quote := cs.headD '\x00'
  !isBounded cs ||
    (2 < cs.length && cs.getD 1 '\x00' == quote && cs.getD 2 '\x00' == quote &&
      cs.getD (cs.length - 2) '\x00' != quote && cs.getD (cs.length - 3) '\x00' != quote)

def joinTexts (piece : List Char) : List (List Char) → Except ReadError (List (List Char))
  | [] => .ok [piece]
  | next :: rest =>
      if isUnfinished piece then
        let joined := piece ++ ',' :: next
        -- A text that is still open at the last comma reaches behind the array.
        if rest.isEmpty then if isUnfinished joined then .error .pastEnd else .ok [joined]
        else joinTexts joined rest
      else
        match joinTexts next rest with
        | .ok more => .ok (piece :: more)
        | .error e => .error e

def bracketPieces (depth : Int) : List Char → List (List Char)
  | [] => [[]]
  | c :: rest =>
      let depth := if c = '[' then depth + 1 else if c = ']' then depth - 1 else depth
      if c = ',' ∧ depth = 0 then [] :: bracketPieces depth rest
      else
        match bracketPieces depth rest with
        | [] => [[c]]
        | piece :: more => (c :: piece) :: more

inductive BraceState where
  | behind
  | before
  | inside (depth : Nat) (quoted : Bool) (reversed : List Char)

/-- The tables in braces that stand at the top of an array. Every quote ends a text that another
quote began. A table that is not closed is dropped. -/
def braceGroups (state : BraceState) : List Char → List (List Char)
  | [] => []
  | c :: rest =>
      match state with
      | .behind => braceGroups .before rest
      | .before =>
          if c = '\x7b' then braceGroups (.inside 1 false [c]) rest else braceGroups .before rest
      | .inside depth quoted reversed =>
          let quoted := if isQuote c then !quoted || Scan.isEscaped reversed else quoted
          if !quoted && c == '\x7b' then
            braceGroups (.inside (depth + 1) quoted (c :: reversed)) rest
          else if quoted || c != '\x7d' then
            braceGroups (.inside depth quoted (c :: reversed)) rest
          else if 1 < depth then
            braceGroups (.inside (depth - 1) quoted (c :: reversed)) rest
          else (c :: reversed).reverse :: braceGroups .behind rest

def arrayPieces (array : List Char) : Except ReadError (List (List Char)) :=
  let inner := dropEnds 1 array
  let beforeBracket := Text.trim (inner.takeWhile (· != '['))
  if !inner.contains '[' || !beforeBracket.isEmpty then
    if beginsWith (· == '\x7b') (Text.trim inner) then .ok (braceGroups .before inner)
    else
      match Text.separated ',' inner with
      | [] => .ok []
      | first :: rest => if holdsTexts array then joinTexts first rest else .ok (first :: rest)
  else .ok (bracketPieces 0 inner)

def endsInlineValue (value : List Char) : Bool :=
  let first := value.headD '\x00'
  let last := value.getLast?.getD '\x00'
  (first == last && isQuote first) || Text.isAsciiDigit first || first == '-' ||
    value == "true".toList || value == "false".toList || (first == '[' && last == ']') ||
    (first == '\x7b' && last == '\x7d')

def isWholePiece (piece : List Char) : Except ReadError Bool :=
  if !piece.contains '=' then .error .malformed
  else
    let value := Text.trim (cutAtEquals 0 piece).2
    if value.isEmpty then .error .pastEnd else .ok (endsInlineValue value)

/-- The assignments of an inline table. A piece that does not end where its value ends goes on
behind the comma. -/
def inlinePieces (piece : List Char) : List (List Char) → Except ReadError (List (List Char))
  | [] =>
      match isWholePiece piece with
      | .ok true => .ok [piece]
      | .ok false => .error .malformed
      | .error e => .error e
  | next :: rest =>
      match isWholePiece piece with
      | .ok true =>
          match inlinePieces next rest with
          | .ok pieces => .ok (piece :: pieces)
          | .error e => .error e
      | .ok false => inlinePieces (piece ++ ',' :: next) rest
      | .error e => .error e

/-- The last piece that begins with a quote, with all that follows it. Nothing may be missing behind
the last comma. -/
def lastText (pieces : List (List Char)) : Except ReadError (List Char) :=
  if 1 < pieces.length && pieces.getLast? == some [] then .error .pastEnd
  else
    let trailing := (pieces.reverse.takeWhile fun piece => !beginsWith isQuote piece).length
    .ok ([','].intercalate (pieces.drop (pieces.length - 1 - trailing)))

def opensText (cs : List Char) : Except ReadError Bool :=
  match cs with
  | [] => .ok false
  | a :: behind =>
      if !isQuote a then .ok false
      else
        match behind with
        | [] => .error .pastEnd
        | [b] => if b = a then .error .pastEnd else .ok false
        | b :: c :: _ =>
            let isClosed := 5 < cs.length && (cs.reverse.take 3).all (· == a)
            .ok (b == a && c == a && !isClosed)

def opensLines (value : List Char) : Except ReadError Bool :=
  if value.length < 3 then .ok false
  else if beginsWith (· == '[') value && !endsWith (· == ']') value && holdsTexts value then
    match lastText (Text.separated ',' (Text.trim value.tail)) with
    | .ok text => opensText text
    | .error e => .error e
  else opensText value

inductive Effect where
  | given (place : Value)
  | begun (name : String) (text : List Char) (place : Value)

mutual

def valueOf (strict : Bool) : Nat → List Char → Except ReadError Value
  | 0, _ => .error .malformed
  | fuel + 1, cs =>
      match cs with
      | [] => .error .malformed
      | c :: _ =>
          if cs = "true".toList then .ok (.bool true)
          else if cs = "false".toList then .ok (.bool false)
          else if isQuote c then
            match unquoted c cs with
            | .ok text => .ok (.text text)
            | .error e => .error e
          else if c = '[' then
            match arrayPieces cs with
            | .ok pieces =>
                match itemsOf none fuel (pieces.map Text.trim) with
                | .ok items => .ok (.array items)
                | .error e => .error e
            | .error e => .error e
          else if c = '\x7b' then inlineTable (.object []) fuel cs
          else
            match clock? cs with
            | some clock => if clock.isReal then .ok (.scalar (.time clock)) else .error .malformed
            | none =>
                match timestamp? cs with
                | some t => .ok (.scalar (.timestamp t))
                | none =>
                    if strict then
                      match number cs with
                      | .ok s => .ok (.scalar s)
                      | .error e => .error e
                    else .error .malformed

def itemsOf (kind : Option ItemKind) : Nat → List (List Char) → Except ReadError (List Value)
  | 0, _ => .error .malformed
  | _, [] => .ok []
  | fuel + 1, piece :: rest =>
      if piece.isEmpty then itemsOf kind fuel rest
      else
        match valueOf true fuel piece with
        | .error e => .error e
        | .ok item =>
            if (kind.getD (itemKind item)) = itemKind item then
              match itemsOf (some (itemKind item)) fuel rest with
              | .ok more => .ok (item :: more)
              | .error e => .error e
            else .error .malformed

def inlineTable (place : Value) : Nat → List Char → Except ReadError Value
  | 0, _ => .error .malformed
  | fuel + 1, cs =>
      match Text.separated ',' (dropEnds 1 cs) with
      | [] => .ok place
      | first :: rest =>
          if rest.isEmpty && (Text.trim first).isEmpty then .ok place
          else
            match inlinePieces first rest with
            | .ok pieces => addLines place fuel pieces
            | .error e => .error e

def addLines (place : Value) : Nat → List (List Char) → Except ReadError Value
  | 0, _ => .error .malformed
  | _, [] => .ok place
  | fuel + 1, line :: rest =>
      match addLine place fuel line with
      | .error e => .error e
      | .ok (.given changed) => addLines changed fuel rest
      | .ok (.begun _ _ changed) => .ok changed

def addLine (place : Value) : Nat → List Char → Except ReadError Effect
  | 0, _ => .error .malformed
  | fuel + 1, line => do
      let given ← assignment line
      let (path, name) ← keyPath (Text.trim given.key)
      let reached ← changeAlong path .ok place
      let value := Text.trim given.value
      if ← opensLines value then
        let checked ← changeAlong path (refuseEntry name) reached
        if name = "" then .error .nameless
        else pure (.begun name value checked)
      else
        let item ← valueOf given.strict fuel value
        let checked ← changeAlong path (refuseEntry name) reached
        let changed ← changeAlong path (putField name item) checked
        pure (.given changed)

end

end OpenApiClient.Toml
