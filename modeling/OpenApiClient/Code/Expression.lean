set_option autoImplicit false

namespace OpenApiClient.Code

mutual

structure Expression where
  parts : List Part
  wrapper : Option String

inductive Part where
  | text (text : String)
  | nested (expression : Expression)

end

namespace Expression

def ofText (text : String) : Expression := ⟨[.text text], none⟩

def wrapText (wrapper text : String) : Expression := ⟨[.text text], some wrapper⟩

def wrap (wrapper : String) (expression : Expression) : Expression :=
  ⟨[.nested expression], some wrapper⟩

end Expression

mutual

def Expression.render : Expression → String
  | ⟨parts, wrapper⟩ =>
      let inner := String.intercalate ", " (Expression.renderParts parts)
      match wrapper with
      | none => inner
      | some name => name ++ "[" ++ inner ++ "]"

def Part.render : Part → String
  | .text text => text
  | .nested expression => expression.render

def Expression.renderParts : List Part → List String
  | [] => []
  | part :: rest => part.render :: Expression.renderParts rest

end

end OpenApiClient.Code
