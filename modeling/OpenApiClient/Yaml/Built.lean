import OpenApiClient.Text.Base64
import OpenApiClient.Value
import OpenApiClient.Yaml.Lexer
import OpenApiClient.Yaml.Node
import OpenApiClient.Yaml.Plain

set_option autoImplicit false

namespace OpenApiClient.Yaml

inductive Kind where
  | scalar (form : Form)
  | binary
  | list
  | mapping
  | pairs
  | set
  | unknown

namespace NodeTag

def standard (name : String) : String := "tag:yaml.org,2002:" ++ name

def standardKinds : List (String × Kind) :=
  [("null", .scalar .null), ("bool", .scalar .bool), ("int", .scalar .int),
    ("float", .scalar .float), ("timestamp", .scalar .timestamp), ("merge", .scalar .merge),
    ("value", .scalar .default), ("str", .scalar .text), ("binary", .binary), ("seq", .list),
    ("map", .mapping), ("omap", .pairs), ("pairs", .pairs), ("set", .set)]

def kind (implicit : Kind) : NodeTag → Kind
  | .implicit => implicit
  | .named name =>
      ((standardKinds.find? fun entry => standard entry.1 = name).map Prod.snd).getD .unknown

end NodeTag

namespace Node

def kind : Node → Kind
  | .scalar tag text => tag.kind (.scalar (form text))
  | .sequence tag _ => tag.kind .list
  | .mapping tag _ => tag.kind .mapping
  | .loop => .unknown

def isMerge (key : Node) : Bool :=
  match key.kind with
  | .scalar .merge => true
  | _ => false

def isDefault (key : Node) : Bool :=
  match key.kind with
  | .scalar .default => true
  | _ => false

mutual

def text? : Node → Option String
  | .scalar _ text => some text
  | .sequence .. | .loop => none
  | .mapping _ entries => defaultText? entries

def defaultText? : List (Node × Node) → Option String
  | [] => none
  | (key, value) :: rest => if key.isDefault then text? value else defaultText? rest

end
end Node

inductive Built where
  | scalar (s : Scalar)
  -- A fault that shows as soon as the node is met.
  | faulty (error : ReadError)
  -- A fault that shows only when the content is made.
  | late (error : ReadError)
  | list (items : List Built)
  | mapping (entries : List (Built × Built))
  | set (entries : List (Built × Built))
  | pairs (entries : List (Built × Built))
  | loop

namespace Built

def ofResult : Except ReadError Scalar → Built
  | .ok s => .scalar s
  | .error e => .faulty e

def binaryValue (text : String) : Except ReadError Scalar :=
  if !text.toList.all fun c => c.toNat < 0x80 then .error .malformed
  else
    match (Text.base64Values? 0 0 text.toList).map Text.base64Bytes with
    | some bytes => .ok (.text ((String.fromUTF8? ⟨bytes.toArray⟩).getD ""))
    | none => .error .malformed

def ofScalar (read : String → Except ReadError Scalar) (node : Node) : Built :=
  match node.text? with
  | some text => ofResult (read text)
  | none => .faulty .malformed

def key (node : Node) (built : Built) : Built :=
  match node, node.isDefault with
  | .scalar _ text, true => .scalar (.text text)
  | _, _ => built

-- What is merged from a mapping that holds itself. Nothing is looked up in it.
def endlessEntries : List (Built × Built) := [(.scalar .null, .loop)]

mutual

def ofNode (node : Node) : Built :=
  match node with
  | .scalar tag text =>
      match tag.kind (.scalar (form text)) with
      | .scalar form => ofScalar (scalarValue form) (.scalar tag text)
      | .binary => ofScalar binaryValue (.scalar tag text)
      | .unknown => .faulty .malformed
      | _ => .late .malformed
  | .sequence tag items =>
      match tag.kind .list with
      | .list => .list (ofNodes items)
      | .pairs => .pairs (ofPairs items)
      | .mapping | .set => .late .malformed
      | _ => .faulty .malformed
  | .mapping tag entries =>
      match tag.kind .mapping with
      | .mapping =>
          match ofEntries entries with
          | .ok (merged, own) => .mapping (merged ++ own)
          | .error e => .late e
      | .set =>
          match ofEntries entries with
          | .ok (merged, own) => .set (merged ++ own)
          | .error e => .late e
      | .list | .pairs => .late .malformed
      | .scalar form => ofScalar (scalarValue form) (.mapping tag entries)
      | .binary => ofScalar binaryValue (.mapping tag entries)
      | .unknown => .faulty .malformed
  | .loop => .loop

def ofNodes (items : List Node) : List Built :=
  match items with
  | [] => []
  | item :: rest => ofNode item :: ofNodes rest

def ofPairs (items : List Node) : List (Built × Built) :=
  match items with
  | [] => []
  | item :: rest =>
      match item with
      | .mapping _ [(key, value)] => (ofNode key, ofNode value) :: ofPairs rest
      | .loop => (.loop, .loop) :: ofPairs rest
      | _ => (.faulty .malformed, .faulty .malformed) :: ofPairs rest

def ofEntries (entries : List (Node × Node)) :
    Except ReadError (List (Built × Built) × List (Built × Built)) :=
  match entries with
  | [] => .ok ([], [])
  | (keyNode, valueNode) :: rest =>
      if keyNode.isMerge then
        let given : Except ReadError (List (Built × Built)) :=
          match valueNode with
          | .mapping _ inner =>
              match ofEntries inner with
              | .ok (merged, own) => .ok (merged ++ own)
              | .error e => .error e
          | .sequence _ items => ofMerged items
          | .scalar .. => .error .malformed
          | .loop => .ok endlessEntries
        match given, ofEntries rest with
        | .ok given, .ok (merged, own) => .ok (given ++ merged, own)
        | .error e, _ | _, .error e => .error e
      else
        match ofEntries rest with
        | .ok (merged, own) =>
            .ok (merged, (key keyNode (ofNode keyNode), ofNode valueNode) :: own)
        | .error e => .error e

def ofMerged (items : List Node) : Except ReadError (List (Built × Built)) :=
  match items with
  | [] => .ok []
  | item :: rest =>
      match item with
      | .mapping _ inner =>
          match ofEntries inner, ofMerged rest with
          | .ok (merged, own), .ok more => .ok (more ++ (merged ++ own))
          | .error e, _ | _, .error e => .error e
      | .loop =>
          match ofMerged rest with
          | .ok more => .ok (more ++ endlessEntries)
          | .error e => .error e
      | _ => .error .malformed

end

def fault? : Built → Option ReadError
  | .faulty e => some e
  | _ => none

def keyFault? : Built → Option ReadError
  | .scalar _ => none
  | .faulty e => some e
  | _ => some .malformed

mutual

def levels : Built → List (List ReadError)
  | .scalar _ | .faulty _ | .loop => []
  | .late e => [[e]]
  | .list items => items.filterMap fault? :: levelsOfItems items
  | .mapping entries | .set entries =>
      (entries.flatMap fun entry => entry.1.keyFault?.toList ++ entry.2.fault?.toList) ::
        levelsOfEntries entries
  | .pairs entries =>
      (entries.flatMap fun entry => entry.1.fault?.toList ++ entry.2.fault?.toList) ::
        levelsOfEntries entries

def levelsOfItems : List Built → List (List ReadError)
  | [] => []
  | item :: rest => mergeLevels (levels item) (levelsOfItems rest)

def levelsOfEntries : List (Built × Built) → List (List ReadError)
  | [] => []
  | (key, value) :: rest =>
      mergeLevels (mergeLevels (levels key) (levels value)) (levelsOfEntries rest)

end

def firstFault? (built : Built) : Option ReadError :=
  match built.fault? with
  | some e => some e
  | none => built.levels.flatten.head?

mutual

def isEndless : Built → Bool
  | .scalar _ | .faulty _ | .late _ => false
  | .list items => anyEndless items
  | .mapping entries | .set entries | .pairs entries => anyEntryEndless entries
  | .loop => true

def anyEndless : List Built → Bool
  | [] => false
  | item :: rest => isEndless item || anyEndless rest

def anyEntryEndless : List (Built × Built) → Bool
  | [] => false
  | (key, value) :: rest => isEndless key || isEndless value || anyEntryEndless rest

end

def scalar? : Built → Option Scalar
  | .scalar s => some s
  | _ => none

mutual

def value : Built → Value
  | .scalar s => .scalar s
  | .faulty _ | .late _ | .loop => .null
  | .list items => .array (values items)
  | .mapping entries => Value.ofPairs (entryValues entries)
  | .set entries =>
      match Value.ofPairs (entryValues entries) with
      | .object entries => .array (entries.map fun entry => .scalar entry.1)
      | other => other
  | .pairs entries => .array (pairValues entries)

def values : List Built → List Value
  | [] => []
  | item :: rest => value item :: values rest

def entryValues : List (Built × Built) → List (Scalar × Value)
  | [] => []
  | (key, content) :: rest =>
      match key.scalar? with
      | some s => (s, value content) :: entryValues rest
      | none => entryValues rest

def pairValues : List (Built × Built) → List Value
  | [] => []
  | (key, content) :: rest => .array [value key, value content] :: pairValues rest

end

end Built
def read (text : String) : Except ReadError Value := do
  let node ← Node.ofTokens (tokens text.toList)
  match node with
  | none => pure .null
  | some node =>
      let built := Built.ofNode node
      match built.firstFault? with
      | some error => .error error
      | none => if built.isEndless then .error .endless else pure built.value

end OpenApiClient.Yaml
