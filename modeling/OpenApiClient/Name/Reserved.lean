import OpenApiClient.Name.Case

set_option autoImplicit false

namespace OpenApiClient.Name

def keywords : List String :=
  ["False", "None", "True", "and", "as", "assert", "async", "await", "break", "class", "continue",
    "def", "del", "elif", "else", "except", "finally", "for", "from", "global", "if", "import",
    "in", "is", "lambda", "nonlocal", "not", "or", "pass", "raise", "return", "try", "while",
    "with", "yield"]

def recordAttributes : List String :=
  ["construct", "copy", "dict", "from_orm", "json", "model_config", "model_computed_fields",
    "model_construct", "model_copy", "model_dump", "model_dump_json", "model_extra",
    "model_fields", "model_fields_set", "model_json_schema", "model_post_init", "model_rebuild",
    "model_validate", "model_validate_json", "model_validate_strings", "parse_file", "parse_obj",
    "parse_raw", "schema", "schema_json", "update_forward_refs", "validate"]

def recordModuleNames : List String :=
  ["models", "datetime", "Any", "Dict", "List", "Optional", "BaseModel", "ConfigDict", "Field",
    "Base64Uuid", "Float32", "Float64", "Int32", "Int64", "SecureString", "str", "bytes", "bool",
    "int", "float"]

def routeModuleNames : List String :=
  ["json", "datetime", "models", "TypeAdapter", "ApiClient", "Any", "Dict", "List", "Optional",
    "Base64Uuid", "Float32", "Float64", "Int32", "Int64", "SecureString", "annotations"]

def routeLocalNames : List String :=
  routeModuleNames ++
    ["client", "builder", "response", "payload", "str", "bytes", "bool", "int", "float"]

def packageExports : List String :=
  ["ApiClient", "ApiClientBuilder", "RequestBuilder", "default_config", "models"]

def isKeyword (name : String) : Bool := keywords.contains name

def isReserved (name : String) (extra : List String) : Bool :=
  isKeyword name || recordAttributes.contains name || extra.contains name

def snakeOr (fallback name : String) : String :=
  let folded := snake name
  if folded = "" then fallback else folded

def beginsWithDigit (name : String) : Bool := startsWithDigit name.toList

/-- The name of a field or parameter: folded, `field_` before a digit, an underscore after a
reserved name. -/
def identifier (name : String) (extra : List String) : String :=
  let folded := snakeOr "field" name
  let folded := if beginsWithDigit folded then "field_" ++ folded else folded
  if isReserved folded extra then folded ++ "_" else folded

def function (operationId : String) : String :=
  let folded := snakeOr "operation" operationId
  let folded := if beginsWithDigit folded then "operation_" ++ folded else folded
  if isKeyword folded || routeModuleNames.contains folded || packageExports.contains folded then
    folded ++ "_"
  else folded

def parameter (name : String) : String := identifier name routeLocalNames

def afterLastSlash (cs : List Char) : List Char :=
  (cs.reverse.takeWhile (· != '/')).reverse

def modelPath (reference : String) : String :=
  "models." ++ String.ofList (pascalChars (afterLastSlash reference.toList))

def numbered (base : String) (index : Nat) : String := base ++ "_" ++ toString index

/-- The first numbered name that is not taken. Among one more number than there are taken names,
one is free. -/
def firstFree (taken : List String) (base : String) (start : Nat) : String :=
  let candidates := (List.range' start (taken.length + 1)).map (numbered base)
  (candidates.find? fun name => !taken.contains name).getD base

end OpenApiClient.Name
