import OpenApiClient.Code.Docstring
import OpenApiClient.Code.Expression

set_option autoImplicit false

namespace OpenApiClient.Code

structure Parameter where
  name : String
  default : Option Expression
  type : Option Expression
  description : Option String
  order : Int

def Parameter.render (parameter : Parameter) : String :=
  parameter.name ++
    (match parameter.type with
      | none => ""
      | some type => ": " ++ type.render) ++
    (match parameter.default with
      | none => ""
      | some default => " = " ++ default.render)

def expandTabs (text : String) : String :=
  String.ofList (Text.replaceChar '\t' indentation.toList text.toList)

structure Block where
  order : Int
  code : String

def Block.render (block : Block) : String := expandTabs block.code

def Block.standard : Block := ⟨0, "pass"⟩

structure Function where
  name : String
  parameters : List Parameter
  response : String
  asynchronous : Bool
  decorators : List String
  description : Option String
  code : Block
  order : Int

namespace Function

def sortedParameters (parameters : List Parameter) : List Parameter :=
  parameters.filter (fun parameter => parameter.default.isNone) ++
    parameters.filter (fun parameter => parameter.default.isSome)

def signature (parameters : List Parameter) : String :=
  match parameters with
  | [] => "()"
  | [parameter] => "(" ++ parameter.render ++ ")"
  | parameters =>
      "(\n" ++ String.join (parameters.map fun parameter =>
        indentation ++ parameter.render ++ ",\n") ++ ")"

def body (function : Function) : String :=
  let documented := (sortedParameters function.parameters).map fun parameter =>
    (parameter.name, parameter.description)
  Text.joinFilled "\n\n" [docstring function.description documented, function.code.render]

def header (function : Function) : String :=
  String.join (function.decorators.map fun decorator => decorator ++ "\n") ++
    (if function.asynchronous then "async " else "") ++ "def " ++ function.name ++
    signature (sortedParameters function.parameters) ++ " -> " ++ function.response ++ ":\n"

def render (function : Function) : String :=
  expandTabs (function.header ++ Text.indent indentation function.body)

-- Falling orders, so that the functions are written in the given sequence.
def numberedDown {α : Type} (toFunction : α → Int → Function) (order : Int) :
    List α → List Function
  | [] => []
  | item :: rest => toFunction item order :: numberedDown toFunction (order - 1) rest

end Function
end OpenApiClient.Code
