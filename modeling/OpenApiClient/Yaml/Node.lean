import OpenApiClient.Yaml.Cursor
import OpenApiClient.Yaml.Token

set_option autoImplicit false

namespace OpenApiClient.Yaml

inductive NodeTag where
  | implicit
  | named (name : String)

inductive Node where
  -- Text without a tag that was not quoted is read by its form.
  | scalar (tag : NodeTag) (text : String)
  | sequence (tag : NodeTag) (items : List Node)
  | mapping (tag : NodeTag) (entries : List (Node × Node))
  -- An alias inside of the node that it stands for.
  | loop

namespace Node

def textTag : NodeTag := .named "tag:yaml.org,2002:str"

def absent : Node := .scalar .implicit ""

structure State where
  tokens : List Token
  anchors : List (String × Node)
  handles : List (String × String)

structure Properties where
  anchor : Option String
  tag : Option WrittenTag

def readAnchor (state : State) : Option String × State :=
  match state.tokens with
  | .anchor name :: rest => (some name, { state with tokens := rest })
  | _ => (none, state)

def readTag (state : State) : Option WrittenTag × State :=
  match state.tokens with
  | .tag tag :: rest => (some tag, { state with tokens := rest })
  | _ => (none, state)

def properties (state : State) : Properties × State :=
  let (anchor, state) := readAnchor state
  let (tag, state) := readTag state
  match anchor with
  | some _ => (⟨anchor, tag⟩, state)
  | none =>
      let (anchor, state) := if tag.isSome then readAnchor state else (none, state)
      (⟨anchor, tag⟩, state)

def tagName (handles : List (String × String)) (tag : WrittenTag) : Except ReadError NodeTag :=
  match tag.handle with
  | none => .ok (if tag.rest = "!" then .implicit else .named tag.rest)
  | some handle =>
      match handles.find? fun entry => entry.1 == handle with
      | some (_, stem) => .ok (.named (stem ++ tag.rest))
      | none => .error .malformed

def nodeTag (handles : List (String × String)) (tag : Option WrittenTag) :
    Except ReadError NodeTag :=
  match tag with
  | none => .ok .implicit
  | some tag => tagName handles tag

def keep (anchor : Option String) (node : Node) (state : State) : State :=
  match anchor with
  | none => state
  | some name => { state with anchors := (name, node) :: state.anchors }

def announce (anchor : Option String) (state : State) : Except ReadError State :=
  match anchor with
  | none => .ok state
  | some name =>
      if state.anchors.any fun entry => entry.1 == name then .error .malformed
      else .ok (keep anchor .loop state)

def misplaced : List Token → ReadError
  | .unreadable error :: _ => error
  | _ => .malformed

def endsBlockValue : List Token → Bool
  | .key :: _ | .value :: _ | .blockEnd :: _ => true
  | _ => false

def endsBlockItem : List Token → Bool
  | .blockEntry :: _ | .blockEnd :: _ => true
  | _ => false

def endsIndentlessItem : List Token → Bool
  | .blockEntry :: _ | .key :: _ | .value :: _ | .blockEnd :: _ => true
  | _ => false

def endsFlowKey (closing : Token → Bool) : List Token → Bool
  | .value :: _ | .flowEntry :: _ => true
  | token :: _ => closing token
  | [] => false

def endsFlowValue (closing : Token → Bool) : List Token → Bool
  | .flowEntry :: _ => true
  | token :: _ => closing token
  | [] => false

def closesSequence : Token → Bool
  | .flowSequenceEnd => true
  | _ => false

def closesMapping : Token → Bool
  | .flowMappingEnd => true
  | _ => false

/-- Where a node stands: in a block, in a block where a list needs no further indentation, or
inside brackets. -/
inductive Place where
  | block
  | indentless
  | flow
  deriving DecidableEq

mutual

def parse (place : Place) : Nat → State → Except ReadError (Node × State)
  | 0, _ => .error .malformed
  | fuel + 1, state =>
      match state.tokens with
      | .alias name :: rest =>
          match state.anchors.find? fun entry => entry.1 == name with
          | some (_, node) => .ok (node, { state with tokens := rest })
          | none => .error .malformed
      | _ =>
          let (given, state) := properties state
          match state.tokens with
          | .unreadable error :: _ => .error error
          | _ => do
              let tag ← nodeTag state.handles given.tag
              let state ← announce given.anchor state
              let (node, state) ← parseContent place given tag fuel state
              pure (node, keep given.anchor node state)

def parseContent (place : Place) (given : Properties) (tag : NodeTag) :
    Nat → State → Except ReadError (Node × State)
  | 0, _ => .error .malformed
  | fuel + 1, state =>
      let inside (rest : List Token) : State := { state with tokens := rest }
      match state.tokens with
      | .blockEntry :: _ =>
          -- A list below a key needs no indentation of its own.
          if place = .indentless then do
            let (items, state) ← parseIndentless fuel state
            pure (.sequence tag items, state)
          else parseNothing given tag state
      | .scalar text plain :: rest =>
          -- A quoted text is text whatever it looks like.
          let tag := if given.tag.isNone && !plain then textTag else tag
          .ok (.scalar tag text, inside rest)
      | .flowSequenceStart :: rest => do
          let (items, state) ← parseFlowItems true fuel (inside rest)
          pure (.sequence tag items, state)
      | .flowMappingStart :: rest => do
          let (entries, state) ← parseFlowEntries true fuel (inside rest)
          pure (.mapping tag entries, state)
      | .blockSequenceStart :: rest =>
          if place = .flow then parseNothing given tag state
          else do
            let (items, state) ← parseBlockItems fuel (inside rest)
            pure (.sequence tag items, state)
      | .blockMappingStart :: rest =>
          if place = .flow then parseNothing given tag state
          else do
            let (entries, state) ← parseBlockEntries fuel (inside rest)
            pure (.mapping tag entries, state)
      | _ => parseNothing given tag state

def parseNothing (given : Properties) (tag : NodeTag) (state : State) :
    Except ReadError (Node × State) :=
  if given.anchor.isSome || given.tag.isSome then .ok (.scalar tag "", state)
  else .error (misplaced state.tokens)

def parseBlockItems : Nat → State → Except ReadError ((List Node) × State)
  | 0, _ => .error .malformed
  | fuel + 1, state =>
      match state.tokens with
      | .blockEntry :: rest => do
          let state := { state with tokens := rest }
          let (item, state) ←
            if endsBlockItem rest then pure (absent, state) else parse .block fuel state
          let (more, state) ← parseBlockItems fuel state
          pure (item :: more, state)
      | .blockEnd :: rest => .ok ([], { state with tokens := rest })
      | tokens => .error (misplaced tokens)

def parseIndentless : Nat → State → Except ReadError ((List Node) × State)
  | 0, _ => .error .malformed
  | fuel + 1, state =>
      match state.tokens with
      | .blockEntry :: rest => do
          let state := { state with tokens := rest }
          let (item, state) ←
            if endsIndentlessItem rest then pure (absent, state) else parse .block fuel state
          let (more, state) ← parseIndentless fuel state
          pure (item :: more, state)
      | _ => .ok ([], state)

def parseBlockEntries : Nat → State → Except ReadError ((List (Node × Node)) × State)
  | 0, _ => .error .malformed
  | fuel + 1, state =>
      match state.tokens with
      | .key :: rest => do
          let state := { state with tokens := rest }
          let (key, state) ←
            if endsBlockValue rest then pure (absent, state) else parse .indentless fuel state
          let (value, state) ← parseBlockValue fuel state
          let (more, state) ← parseBlockEntries fuel state
          pure ((key, value) :: more, state)
      | .blockEnd :: rest => .ok ([], { state with tokens := rest })
      | tokens => .error (misplaced tokens)

def parseBlockValue : Nat → State → Except ReadError (Node × State)
  | 0, _ => .error .malformed
  | fuel + 1, state =>
      match state.tokens with
      | .value :: rest =>
          let state := { state with tokens := rest }
          if endsBlockValue rest then .ok (absent, state) else parse .indentless fuel state
      | _ => .ok (absent, state)

def parseFlowItems (first : Bool) : Nat → State → Except ReadError ((List Node) × State)
  | 0, _ => .error .malformed
  | fuel + 1, state =>
      match state.tokens with
      | .flowSequenceEnd :: rest => .ok ([], { state with tokens := rest })
      | tokens => do
          let tokens ←
            if first then pure tokens
            else
              match tokens with
              | .flowEntry :: rest => pure rest
              | tokens => .error (misplaced tokens)
          match tokens with
          | .flowSequenceEnd :: rest => pure ([], { state with tokens := rest })
          | .key :: rest =>
              let state := { state with tokens := rest }
              let (key, state) ←
                if endsFlowKey closesSequence rest then pure (absent, state)
                else parse .flow fuel state
              let (value, state) ← parseFlowValue closesSequence fuel state
              let (more, state) ← parseFlowItems false fuel state
              -- A key inside of a list makes a mapping with one entry.
              pure (.mapping .implicit [(key, value)] :: more, state)
          | tokens =>
              let (item, state) ← parse .flow fuel { state with tokens := tokens }
              let (more, state) ← parseFlowItems false fuel state
              pure (item :: more, state)

def parseFlowEntries (first : Bool) : Nat → State → Except ReadError ((List (Node × Node)) × State)
  | 0, _ => .error .malformed
  | fuel + 1, state =>
      match state.tokens with
      | .flowMappingEnd :: rest => .ok ([], { state with tokens := rest })
      | tokens => do
          let tokens ←
            if first then pure tokens
            else
              match tokens with
              | .flowEntry :: rest => pure rest
              | tokens => .error (misplaced tokens)
          match tokens with
          | .flowMappingEnd :: rest => pure ([], { state with tokens := rest })
          | .key :: rest =>
              let state := { state with tokens := rest }
              let (key, state) ←
                if endsFlowKey closesMapping rest then pure (absent, state)
                else parse .flow fuel state
              let (value, state) ← parseFlowValue closesMapping fuel state
              let (more, state) ← parseFlowEntries false fuel state
              pure ((key, value) :: more, state)
          | tokens =>
              let (key, state) ← parse .flow fuel { state with tokens := tokens }
              let (more, state) ← parseFlowEntries false fuel state
              pure ((key, absent) :: more, state)

def parseFlowValue (closing : Token → Bool) : Nat → State → Except ReadError (Node × State)
  | 0, _ => .error .malformed
  | fuel + 1, state =>
      match state.tokens with
      | .value :: rest =>
          let state := { state with tokens := rest }
          if endsFlowValue closing rest then .ok (absent, state) else parse .flow fuel state
      | _ => .ok (absent, state)

end

def standardHandles : List (String × String) := [("!", "!"), ("!!", "tag:yaml.org,2002:")]

def directives (versioned : Bool) (handles : List (String × String)) :
    List Token → Except ReadError (List (String × String) × List Token)
  | .directive .version :: rest =>
      if versioned then .error .malformed else directives true handles rest
  | .directive (.handle handle stem) :: rest =>
      if handles.any fun entry => entry.1 == handle then .error .malformed
      else directives versioned (handles ++ [(handle, stem)]) rest
  | .directive .other :: rest => directives versioned handles rest
  | tokens => .ok (handles, tokens)

def dropDocumentEnds : List Token → List Token
  | .documentEnd :: rest => dropDocumentEnds rest
  | tokens => tokens

def endsDocument : List Token → Bool
  | [] | .directive _ :: _ | .documentStart :: _ | .documentEnd :: _ => true
  | _ => false

def ofTokens (tokens : List Token) : Except ReadError (Option Node) := do
  let root (handles : List (String × String)) (tokens : List Token) :
      Except ReadError (Node × State) :=
    parse .block (4 * tokens.length + 4) ⟨tokens, [], handles⟩
  let finish (parsed : Node × State) : Except ReadError (Option Node) :=
    match dropDocumentEnds parsed.2.tokens with
    | [] => .ok (some parsed.1)
    | tokens => .error (misplaced tokens)
  match tokens with
  | [] => pure none
  | .directive _ :: _ | .documentStart :: _ =>
      let (handles, tokens) ← directives false [] tokens
      match tokens with
      | .documentStart :: rest =>
          if endsDocument rest then finish (absent, ⟨rest, [], []⟩)
          else do
            let parsed ← root (handles ++ standardHandles) rest
            finish parsed
      | tokens => .error (misplaced tokens)
  | tokens => do
      let parsed ← root standardHandles tokens
      finish parsed

end Node
end OpenApiClient.Yaml
