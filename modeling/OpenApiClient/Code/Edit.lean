import OpenApiClient.Checked
import OpenApiClient.Code.File

set_option autoImplicit false

namespace OpenApiClient.Code

inductive EditError where
  | missingFile
  | missingName
  | missingPosition
  | faulty (faults : List Fault)
  | repeatedField

abbrev Made (α : Type) := Except EditError α

def modifyEntry {α : Type} (f : α → Made α) :
    Entries String α → String → Made (Entries String α)
  | [], _ => .error .missingName
  | (k, v) :: rest, key =>
      if k = key then
        match f v with
        | .ok changed => .ok ((k, changed) :: rest)
        | .error e => .error e
      else
        match modifyEntry f rest key with
        | .ok changed => .ok ((k, v) :: changed)
        | .error e => .error e

def place? (size : Nat) (index : Int) : Option Nat :=
  let position := if index < 0 then index + size else index
  if 0 ≤ position ∧ position < size then some position.toNat else none

def modifyAt {α : Type} (f : α → Made α) (items : List α) (index : Int) : Made (List α) :=
  match (place? items.length index).bind fun position => (items[position]?).map (position, ·) with
  | none => .error .missingPosition
  | some (position, item) =>
      match f item with
      | .ok changed => .ok (items.set position changed)
      | .error e => .error e

def Class.addFunction (cls : Class) (function : Function) : Class :=
  { cls with functions := cls.functions.put function.name function }

def Class.addBlock (cls : Class) (block : Block) : Class :=
  { cls with blocks := cls.blocks ++ [block] }

namespace File

def addImport (file : File) (line : String) : File :=
  { file with imports := file.imports ++ [line] }

def modifyClass (file : File) (name : String) (f : Class → Made Class) : Made File :=
  match modifyEntry f file.classes name with
  | .ok classes => .ok { file with classes := classes }
  | .error e => .error e

def modifyFunction (file : File) (cls : Option String) (name : String)
    (f : Function → Made Function) : Made File :=
  match cls with
  | some className =>
      file.modifyClass className fun c =>
        match modifyEntry f c.functions name with
        | .ok functions => .ok { c with functions := functions }
        | .error e => .error e
  | none =>
      match modifyEntry f file.functions name with
      | .ok functions => .ok { file with functions := functions }
      | .error e => .error e

def modifyParameters (file : File) (cls function : Option String)
    (f : List Parameter → Made (List Parameter)) : Made File :=
  match function with
  | some name =>
      file.modifyFunction cls name fun fn =>
        match f fn.parameters with
        | .ok parameters => .ok { fn with parameters := parameters }
        | .error e => .error e
  | none =>
      file.modifyClass (cls.getD "") fun c =>
        match f c.parameters with
        | .ok parameters => .ok { c with parameters := parameters }
        | .error e => .error e

def setCode (file : File) (cls : Option String) (function : String) (code : Made Block) :
    Made File :=
  file.modifyFunction cls function fun fn => code.map fun block => { fn with code := block }

def addParameter (file : File) (cls function : Option String) (parameter : Made Parameter) :
    Made File :=
  file.modifyParameters cls function fun parameters =>
    parameter.map fun parameter => parameters ++ [parameter]

def modifyParameter (file : File) (cls function : Option String) (index : Int)
    (f : Parameter → Made Parameter) : Made File :=
  file.modifyParameters cls function (modifyAt f · index)

def setDefault (file : File) (cls function : Option String) (index : Int)
    (value : Made Expression) : Made File :=
  file.modifyParameter cls function index fun parameter =>
    value.map fun value => { parameter with default := some value }

def setType (file : File) (cls function : Option String) (index : Int)
    (value : Made Expression) : Made File :=
  file.modifyParameter cls function index fun parameter =>
    value.map fun value => { parameter with type := some value }

def insertFunction (file : File) (cls : Option String) (function : Made Function) : Made File :=
  match cls with
  | none => function.map file.addFunction
  | some name => file.modifyClass name fun c => function.map c.addFunction

def insertBlock (file : File) (cls : Option String) (block : Made Block) : Made File :=
  match cls with
  | none => block.map file.addBlock
  | some name => file.modifyClass name fun c => block.map c.addBlock

def insertClass (file : File) (cls : Made Class) : Made File := cls.map file.addClass

end File

namespace Project

def file? (project : Project) (name : String) : Option File :=
  project.find? fun file => file.name == name

def modifyFile (name : String) (f : File → Made File) : Project → Made Project
  | [] => .error .missingFile
  | file :: rest =>
      if file.name = name then
        match f file with
        | .ok changed => .ok (changed :: rest)
        | .error e => .error e
      else
        match modifyFile name f rest with
        | .ok changed => .ok (file :: changed)
        | .error e => .error e

def addFile (project : Project) (file : File) : Project := project ++ [file]

end Project
end OpenApiClient.Code
