import OpenApiClient.Text.Lines

set_option autoImplicit false

namespace OpenApiClient.Code

def escapeBackslashes (cs : List Char) : List Char :=
  Text.replaceChar '\\' ['\\', '\\'] cs

def escapeTripleQuotes : List Char → List Char
  | '"' :: '"' :: '"' :: rest =>
      '\\' :: '"' :: '\\' :: '"' :: '\\' :: '"' :: escapeTripleQuotes rest
  | c :: rest => c :: escapeTripleQuotes rest
  | [] => []

def escapeDescription (description : String) : String :=
  String.ofList (escapeTripleQuotes (escapeBackslashes description.toList))

def descriptionLines (description : String) : List String :=
  Text.splitLines (Text.strip (escapeDescription description))

def tripleQuote : String := "\"\"\""

def filled : Option String → Bool
  | none => false
  | some text => text ≠ ""

def indentation : String := "    "

/-- The documentation of something with a description and described arguments, given as pairs of a
name and its description. Nothing when there is nothing to say. -/
def docstring (description : Option String) (arguments : List (String × Option String)) : String :=
  let documented := arguments.filter fun argument => filled argument.2
  if !filled description && documented.isEmpty then ""
  else
    let about := if filled description then descriptionLines (description.getD "") else []
    let separator := if filled description then [""] else []
    let args :=
      if documented.isEmpty then []
      else
        separator ++ ["Args:"] ++
          documented.map fun argument =>
            indentation ++ argument.1 ++ ": " ++ Text.collapseBlanks (argument.2.getD "")
    String.intercalate "\n" ([tripleQuote] ++ about ++ args ++ [tripleQuote])

end OpenApiClient.Code
