import OpenApiClient.Json.Write
import OpenApiClient.Toml.Logical
import OpenApiClient.Toml.Quoted

set_option autoImplicit false

namespace OpenApiClient.Toml

/-- A key made of letters, digits, underscores and hyphens needs no quotes. A line feed at its end
is not looked at. -/
def keyText (key : String) : Except WriteError String :=
  let cs := key.toList
  let word := if cs.getLast? = some '\n' then cs.dropLast else cs
  if !word.isEmpty && word.all isBareChar then .ok key else quoted key

def shortExponent : List Char → List Char
  | 'e' :: sign :: '0' :: digits => 'e' :: sign :: digits
  | c :: rest => c :: shortExponent rest
  | [] => []

def floatText (x : Binary64) : String := String.ofList (shortExponent x.text.toList)

def timestampText (t : Timestamp) : Except WriteError String :=
  match t.clock with
  | some clock =>
      if !clock.isNear then .error .farOffset
      else if clock.offset = some 0 then
        .ok (({ t with clock := some { clock with offset := none } }).text "T" ++ "Z")
      else .ok (t.text "T")
  | none => .ok (t.text "T")

def scalarText : Scalar → Except WriteError String
  | .null => quoted "None"
  | .bool b => .ok (if b then "true" else "false")
  | .int n => .ok (toString n)
  | .float x => .ok (floatText x)
  | .text s => quoted s
  | .timestamp t => timestampText t
  | .time clock => .ok clock.text

mutual

def valueText : Value → Except WriteError String
  | .scalar s => scalarText s
  | .array items => do
      let texts ← itemTexts items
      pure ("[" ++ String.join texts ++ "]")
  | .object entries => do
      let texts ← keyTexts entries
      pure ("[" ++ String.join texts ++ "]")

def itemTexts : List Value → Except WriteError (List String)
  | [] => .ok []
  | item :: rest => do
      let text ← valueText item
      let more ← itemTexts rest
      pure ((" " ++ text ++ ",") :: more)

def keyTexts : List (Scalar × Value) → Except WriteError (List String)
  | [] => .ok []
  | (key, _) :: rest => do
      let text ← scalarText key
      let more ← keyTexts rest
      pure ((" " ++ text ++ ",") :: more)

end

/-- The fault of an item that is no table: its first part is taken for a key before it shows that
nothing belongs to it. -/
def itemError (key : String) : WriteError :=
  match keyText key with
  | .ok _ => .notTable
  | .error error => error

def isTable : Value → Bool
  | .object _ => true
  | _ => false

structure Section where
  path : String
  text : Except WriteError String
  hasTables : Bool

def pathTo (path name : String) : String :=
  if path = "" then name else path ++ "." ++ name

def nestedText : List Section → Except WriteError String
  | [] => .ok ""
  | table :: rest => do
      let text ← table.text
      let more ← nestedText rest
      pure ((if text = "" then "" else "[" ++ table.path ++ "]\n" ++ text) ++ more)

mutual

/-- The lines of the entries that are neither tables nor lists of tables, and the text of the lists
of tables. -/
def plainEntries (path : String) :
    List (Scalar × Value) → Except WriteError (String × String)
  | [] => .ok ("", "")
  | (key, value) :: rest => do
      let name ← keyText (Json.keyName key)
      let (line, listed) ← plainEntry path name value
      let (lines, more) ← plainEntries path rest
      pure (line ++ lines, listed ++ more)

def plainEntry (path name : String) : Value → Except WriteError (String × String)
  | .object _ => pure ("", "")
  | .array items =>
      if items.any isTable then do
        let listed ← listedTables (pathTo path name) items
        pure ("", listed)
      else do
        let text ← valueText (.array items)
        pure (name ++ " = " ++ text ++ "\n", "")
  | .scalar s =>
      if s = .null then pure ("", "")
      else do
        let text ← scalarText s
        pure (name ++ " = " ++ text ++ "\n", "")

/-- Every table of a list has a header of its own in double brackets. What is empty counts as a
table without entries. -/
def listedTables (path : String) : List Value → Except WriteError String
  | [] => .ok ""
  | item :: rest => do
      let text ← listedTable path item
      let more ← listedTables path rest
      pure ("[[" ++ path ++ "]]\n" ++ text ++ more)

def listedTable (path : String) : Value → Except WriteError String
  | .object entries => do
      let (lines, listed) ← plainEntries path entries
      let nested ← nestedText (levels path entries).flatten
      -- A list of tables inside of the table is set off by a blank line.
      pure ((if lines = "" then "\n" ++ listed else lines ++ listed ++ "\n") ++ nested)
  | .array [] | .scalar (.text "") => .ok "\n"
  | .array (.scalar (.text first) :: _) => .error (itemError first)
  | .scalar (.text text) => .error (itemError (String.ofList (text.toList.take 1)))
  | _ => .error .notTable

def levels (path : String) : List (Scalar × Value) → List (List Section)
  | [] => []
  | (key, value) :: rest =>
      mergeLevels (levelsOfEntry path (keyText (Json.keyName key)) value) (levels path rest)

def levelsOfEntry (path : String) (name : Except WriteError String) : Value → List (List Section)
  | .object entries =>
      match name with
      | .error _ => []
      | .ok name =>
          let inner := pathTo path name
          let text := (plainEntries inner entries).map fun (lines, listed) => lines ++ listed
          [⟨inner, text, entries.any fun entry => isTable entry.2⟩] :: levels inner entries
  | _ => []

end

def appendTable (before : String) (table : Section) : Except WriteError String := do
  let text ← table.text
  if text = "" ∧ table.hasTables then pure before
  else
    let separator :=
      if before = "" ∨ (['\n', '\n']).isPrefixOf before.toList.reverse then "" else "\n"
    pure (before ++ separator ++ "[" ++ table.path ++ "]\n" ++ text)

def write (entries : List (Scalar × Value)) : Except WriteError String := do
  let (lines, listed) ← plainEntries "" entries
  (levels "" entries).flatten.foldlM appendTable (lines ++ listed)

end OpenApiClient.Toml
