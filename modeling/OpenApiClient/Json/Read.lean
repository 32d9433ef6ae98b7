import OpenApiClient.Json.Token

set_option autoImplicit false

namespace OpenApiClient.Json

inductive ReadError where
  | malformed
  | longInteger
  deriving DecidableEq

inductive Container where
  | array (reversed : List Value)
  | object (reversed : List (Scalar × Value)) (key : String)

inductive Expected where
  | value
  | valueOrEnd
  | key
  | keyOrEnd
  | colon
  | separator
  | nothing (result : Value)

structure Reader where
  stack : List Container
  expected : Expected

namespace Reader

def start : Reader := ⟨[], .value⟩

def place (stack : List Container) (value : Value) : Reader :=
  match stack with
  | [] => ⟨[], .nothing value⟩
  | .array reversed :: rest => ⟨.array (value :: reversed) :: rest, .separator⟩
  | .object reversed key :: rest =>
      ⟨.object ((.text key, value) :: reversed) "" :: rest, .separator⟩

def close (stack : List Container) (token : Token) : Except ReadError Reader :=
  match stack, token with
  | .array reversed :: rest, .closeArray => .ok (place rest (.array reversed.reverse))
  | .object reversed _ :: rest, .closeObject =>
      .ok (place rest (Value.ofPairs reversed.reverse))
  | _, _ => .error .malformed

def value (stack : List Container) (token : Token) : Except ReadError Reader :=
  match token with
  | .scalar s => .ok (place stack (.scalar s))
  | .openArray => .ok ⟨.array [] :: stack, .valueOrEnd⟩
  | .openObject => .ok ⟨.object [] "" :: stack, .keyOrEnd⟩
  | .longInteger => .error .longInteger
  | _ => .error .malformed

def key (stack : List Container) (token : Token) : Except ReadError Reader :=
  match stack, token with
  | .object reversed _ :: rest, .scalar (.text s) => .ok ⟨.object reversed s :: rest, .colon⟩
  | _, _ => .error .malformed

def step (reader : Reader) (token : Token) : Except ReadError Reader :=
  match reader.expected with
  | .value => value reader.stack token
  | .valueOrEnd =>
      match token with
      | .closeArray => close reader.stack token
      | token => value reader.stack token
  | .key => key reader.stack token
  | .keyOrEnd =>
      match token with
      | .closeObject => close reader.stack token
      | token => key reader.stack token
  | .colon =>
      match token with
      | .colon => .ok { reader with expected := .value }
      | _ => .error .malformed
  | .separator =>
      match token, reader.stack with
      | .comma, .array _ :: _ => .ok { reader with expected := .value }
      | .comma, .object _ _ :: _ => .ok { reader with expected := .key }
      | token, stack => close stack token
  | .nothing _ => .error .malformed

def run (reader : Reader) : List Token → Except ReadError Value
  | [] =>
      match reader.expected with
      | .nothing result => .ok result
      | _ => .error .malformed
  | token :: rest =>
      match reader.step token with
      | .ok next => run next rest
      | .error e => .error e

end Reader

def read (text : String) : Except ReadError Value :=
  Reader.start.run (tokens text)

end OpenApiClient.Json
