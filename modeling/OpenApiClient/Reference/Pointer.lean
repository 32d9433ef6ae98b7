import OpenApiClient.Failure
import OpenApiClient.Text.Lines

set_option autoImplicit false

namespace OpenApiClient

inductive Kind where
  | schema
  | parameter
  | response
  | requestBody
  deriving DecidableEq

namespace Kind

def name : Kind → String
  | .schema => "Schema"
  | .parameter => "Parameter"
  | .response => "Response"
  | .requestBody => "RequestBody"

def ofCategory? (category : String) : Option Kind :=
  if category = "schemas" then some .schema
  else if category = "parameters" then some .parameter
  else if category = "responses" then some .response
  else if category = "requestBodies" then some .requestBody
  else none

end Kind

namespace Pointer

def unescape (cs : List Char) : List Char :=
  Text.replacePair '~' '0' ['~'] (Text.replacePair '~' '1' ['/'] cs)

structure Target where
  category : String
  name : String
  deriving DecidableEq

def parse (pointer : String) : Except Failure Target :=
  match (Text.separated '/' pointer.toList).drop 2 with
  | [] => .error (.invalidReference pointer "no component name found")
  | category :: rest =>
      if category.isEmpty then .error (.invalidReference pointer "no component name found")
      else
        match rest with
        | [] => .error (.invalidReference pointer "no model name found")
        | name :: _ =>
            if name.isEmpty then .error (.invalidReference pointer "no model name found")
            else .ok ⟨String.ofList category, String.ofList (unescape name)⟩

def kind? (pointer : String) : Except Failure (Option Kind) :=
  match parse pointer with
  | .error failure => .error failure
  | .ok target => .ok (Kind.ofCategory? target.category)

end Pointer
end OpenApiClient
