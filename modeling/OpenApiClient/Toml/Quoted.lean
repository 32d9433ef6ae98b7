import OpenApiClient.Text.Lines
import OpenApiClient.Text.Quoted

set_option autoImplicit false

namespace OpenApiClient.Toml

inductive WriteError where
  -- There is nothing before or after an escape to join it to.
  | danglingEscape
  | notTable
  | farOffset
  deriving DecidableEq

def splitPair (first second : Char) : List Char → List (List Char)
  | c :: d :: rest =>
      if c = first ∧ d = second then [] :: splitPair first second rest
      else
        match splitPair first second (d :: rest) with
        | [] => [[c]]
        | piece :: more => (c :: piece) :: more
  | [c] => [[c]]
  | [] => [[]]

def halveBackslashes (cs : List Char) : List Char :=
  Text.replacePair '\\' '\\' ['\\'] cs

/-- What joins a piece to the next one: the backslashes at its end decide, all but the first
character of the piece counting. -/
def joiner (piece : List Char) : List Char :=
  let trailing := (piece.reverse.takeWhile (· == '\\')).length
  -- The first character of the piece is never counted.
  let toggles := min trailing (piece.length - 1)
  let plain := if trailing = 0 then true else toggles % 2 = 1
  if plain then ['x'] else ['u', '0', '0']

def joinPieces (first : List Char) : List (List Char) → Except WriteError (List Char)
  | [] => .ok first
  | second :: rest =>
      if first.isEmpty then
        match rest with
        | [] => .error .danglingEscape
        | third :: more =>
            if second.isEmpty then .error .danglingEscape
            else
              let head := halveBackslashes second
              joinPieces (head ++ joiner head ++ third) more
      else
        let head := halveBackslashes first
        joinPieces (head ++ joiner head ++ second) rest

def quotedContent (cs : List Char) : List Char :=
  let quote := Text.quoteFor cs
  let content := cs.flatMap (Text.quotedChar quote)
  if quote = '\'' then
    Text.replaceChar '"' ['\\', '"'] (Text.replacePair '\\' '\'' ['\''] content)
  else content

def quoted (text : String) : Except WriteError String :=
  let joined : Except WriteError (List Char) :=
    match splitPair '\\' 'x' (quotedContent text.toList) with
    | [] => .ok []
    | first :: rest => joinPieces first rest
  match joined with
  | .error e => .error e
  | .ok cs => .ok (String.ofList ('"' :: cs ++ ['"']))

end OpenApiClient.Toml
