import OpenApiClient.Value
import OpenApiClient.Decimal.Shortest
import OpenApiClient.Json.Literal

set_option autoImplicit false

namespace OpenApiClient.Json

def floatText (x : Binary64) : String :=
  match x with
  | .nan => "NaN"
  | .infinite negative => if negative then "-Infinity" else "Infinity"
  | x => x.text

def scalarText (s : Scalar) : String :=
  match s with
  | .null => "null"
  | .bool b => if b then "true" else "false"
  | .int n => toString n
  | .float x => floatText x
  | .text s => literal s
  | .timestamp t => literal (t.text " ")
  | .time clock => literal clock.text

def keyName : Scalar → String
  | .text s => s
  | key => scalarText key

def keyText (key : Scalar) : String := literal (keyName key)

mutual

def valueText : Value → String
  | .scalar s => scalarText s
  | .array items => "[" ++ String.intercalate ", " (itemTexts items) ++ "]"
  | .object entries => "\x7b" ++ String.intercalate ", " (entryTexts entries) ++ "\x7d"

def itemTexts : List Value → List String
  | [] => []
  | item :: rest => valueText item :: itemTexts rest

def entryTexts : List (Scalar × Value) → List String
  | [] => []
  | (key, value) :: rest => (keyText key ++ ": " ++ valueText value) :: entryTexts rest

end

end OpenApiClient.Json
