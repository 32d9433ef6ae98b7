import OpenApiClient.Code.Function
import OpenApiClient.Entries

set_option autoImplicit false

namespace OpenApiClient.Code

structure Class where
  name : String
  functions : Entries String Function
  blocks : List Block
  parameters : List Parameter
  bases : List String
  description : Option String
  order : Int

def descending {α : Type} (order : α → Int) (sections : List α) : List α :=
  sections.mergeSort fun a b => decide (order b ≤ order a)

namespace Class

def body (cls : Class) : String :=
  let sections :=
    [docstring cls.description [],
      String.intercalate "\n" ((descending Block.order cls.blocks).map Block.render),
      String.intercalate "\n" (cls.parameters.map Parameter.render)] ++
      cls.functions.values.map Function.render
  let joined := Text.joinFilled "\n\n" sections
  if joined = "" then "pass" else joined

def render (cls : Class) : String :=
  let bases :=
    if cls.bases.isEmpty then "" else "(" ++ String.intercalate ", " cls.bases ++ ")"
  expandTabs ("class " ++ cls.name ++ bases ++ ":\n" ++ Text.indent indentation cls.body)

end Class

structure File where
  name : String
  imports : List String
  functions : Entries String Function
  classes : Entries String Class
  blocks : List Block

namespace File

def named (name : String) : File := ⟨name, [], [], [], []⟩

def sections (file : File) : List (Int × String) :=
  descending Prod.fst
    (file.blocks.map (fun block => (block.order, block.render)) ++
      file.functions.values.map (fun function => (function.order, function.render)) ++
      file.classes.values.map fun cls => (cls.order, cls.render))

def render (file : File) : String :=
  let text :=
    expandTabs (Text.joinFilled "\n\n\n"
      (String.intercalate "\n" file.imports :: file.sections.map Prod.snd))
  String.ofList (Text.trimTrailing '\n' text.toList) ++ "\n"

def addBlock (file : File) (block : Block) : File :=
  { file with blocks := file.blocks ++ [block] }

def addFunction (file : File) (function : Function) : File :=
  { file with functions := file.functions.put function.name function }

def addClass (file : File) (cls : Class) : File :=
  { file with classes := file.classes.put cls.name cls }

end File

abbrev Project := List File

end OpenApiClient.Code
