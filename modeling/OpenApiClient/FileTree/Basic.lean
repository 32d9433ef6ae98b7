import OpenApiClient.Entries
import OpenApiClient.FileTree.Path
import OpenApiClient.Text.Quoted

set_option autoImplicit false

namespace OpenApiClient

inductive FileContent where
  | text (text : String)
  | bytes
  deriving DecidableEq

inductive Stored where
  | file (content : FileContent)
  | folder
  deriving DecidableEq

structure Home where
  folder : Place
  -- How many folders at the end of that way have been removed since it was taken.
  lost : Nat
  deriving DecidableEq

structure FileTree where
  stored : Entries Place Stored
  home : Home

inductive FileFault where
  | missing
  | present
  | notFolder
  | isFolder
  | busy
  | invalid
  | notEmpty
  | nameTooLong
  -- A name holds the character that ends names, so the question cannot be asked.
  | endedName
  deriving DecidableEq

def FileFault.number : FileFault → Nat
  | .missing => 2
  | .present => 17
  | .notFolder => 20
  | .isFolder => 21
  | .busy => 16
  | .invalid => 22
  | .nameTooLong => 36
  | .notEmpty => 39
  | .endedName => 0

def FileFault.text : FileFault → String
  | .missing => "No such file or directory"
  | .present => "File exists"
  | .notFolder => "Not a directory"
  | .isFolder => "Is a directory"
  | .busy => "Device or resource busy"
  | .invalid => "Invalid argument"
  | .nameTooLong => "File name too long"
  | .notEmpty => "Directory not empty"
  | .endedName => "embedded null byte"

structure FileFailure where
  fault : FileFault
  path : String

def FileFailure.message (failure : FileFailure) : String :=
  "[Errno " ++ toString failure.fault.number ++ "] " ++ failure.fault.text ++ ": " ++
    Text.quoted failure.path

namespace FileTree

def empty : FileTree := ⟨[(["work"], .folder)], ⟨["work"], 0⟩⟩

def at? (tree : FileTree) (place : Place) : Option Stored :=
  if place = [] then some .folder else tree.stored.get? place

def isFolderAt (tree : FileTree) (place : Place) : Bool := tree.at? place == some .folder

def nameLimit : Nat := 255

def enter (tree : FileTree) (place : Place) (name : String) : Except FileFault Place :=
  match tree.at? place with
  | none => .error .missing
  | some (.file _) => .error .notFolder
  | some .folder =>
      if Path.isStep name then .ok (Path.step place name)
      else if nameLimit < name.utf8ByteSize then .error .nameTooLong
      else if tree.stored.contains (place ++ [name]) then .ok (place ++ [name])
      else .error .missing

def follow (tree : FileTree) (place : Place) : List String → Except FileFault Place
  | [] => .ok place
  | name :: rest =>
      match tree.enter place name with
      | .ok next => tree.follow next rest
      | .error fault => .error fault

def start (tree : FileTree) (path : String) : Place :=
  if Path.isAbsolute path then [] else tree.home.folder

def isLost (tree : FileTree) (path : String) : Bool :=
  let place := (Path.climb (tree.start path) (Path.names path)).1
  !Path.isAbsolute path && tree.home.folder.length < place.length + tree.home.lost

-- A folder that has been removed can still be left, but nothing is found in it.
def findsNothing (tree : FileTree) (path : String) : Bool :=
  tree.isLost path && !(Path.names path).all Path.isStep

def walk (tree : FileTree) (path : String) (names : List String) : Except FileFault Place :=
  let (place, behind) := Path.climb (tree.start path) names
  tree.follow place behind

def pathLimit : Nat := 4095

def refusal? (path : String) : Option FileFault :=
  if path.toList.contains '\x00' then some .endedName
  else if pathLimit < path.utf8ByteSize then some .nameTooLong
  else if path = "" then some .missing
  else none

def locate (tree : FileTree) (path : String) : Except FileFault Place :=
  match refusal? path with
  | some fault => .error fault
  | none =>
      if tree.findsNothing path then .error .missing
      else tree.walk path (Path.names path)

def has (tree : FileTree) (path : String) : Bool :=
  match tree.locate path with
  | .ok _ => true
  | .error _ => false

def isFolder (tree : FileTree) (path : String) : Bool :=
  match tree.locate path with
  | .ok place => tree.isLost path || tree.isFolderAt place
  | .error _ => false

def isFile (tree : FileTree) (path : String) : Bool :=
  match tree.locate path with
  | .ok place => !(tree.isLost path || tree.isFolderAt place)
  | .error _ => false

def newPlace (tree : FileTree) (path : String) (names : List String) :
    Except FileFault (Place × String) :=
  let name := names.getLast?.getD ""
  if tree.findsNothing path then .error .missing
  else
    match tree.walk path names.dropLast with
    | .error fault => .error fault
    | .ok place =>
        if Path.isStep name then .ok (place, name)
        else
          match tree.at? place with
          | none => .error .missing
          | some (.file _) => .error .notFolder
          | some .folder =>
              if nameLimit < name.utf8ByteSize then .error .nameTooLong else .ok (place, name)

def put (tree : FileTree) (place : Place) (stored : Stored) : FileTree :=
  { tree with stored := tree.stored.put place stored }

def folderNames (path : String) : List String :=
  Path.names (String.ofList (Text.trimTrailing '/' path.toList))

def makeFolder (tree : FileTree) (path : String) : Except FileFault FileTree :=
  match refusal? path with
  | some fault => .error fault
  | none =>
      match tree.newPlace path (folderNames path) with
      | .error fault => .error fault
      | .ok (place, name) =>
          if Path.isStep name || tree.stored.contains (place ++ [name]) then .error .present
          else .ok (tree.put (place ++ [name]) .folder)

inductive IfPresent where
  | refuse
  | accept
  deriving DecidableEq

def parentOf (path : String) : String × String :=
  let (head, name) := Path.split path
  if name = "" then Path.split head else (head, name)

def makeFolderUnless (present : IfPresent) (tree : FileTree) (path : String) :
    FileTree × Option FileFailure :=
  match tree.makeFolder path with
  | .ok made => (made, none)
  | .error fault =>
      if present = .accept ∧ fault ≠ .endedName ∧ tree.isFolder path then (tree, none)
      else (tree, some ⟨fault, path⟩)

def makeFoldersTo (present : IfPresent) :
    Nat → FileTree → String → FileTree × Option FileFailure
  | 0, tree, path => (tree, some ⟨.missing, path⟩)
  | depth + 1, tree, path =>
      let (head, name) := parentOf path
      if head = "" ∨ name = "" ∨ tree.has head then makeFolderUnless present tree path
      else
        let (made, failure) := makeFoldersTo present depth tree head
        match failure.filter fun failure => failure.fault ≠ .present with
        | some failure => (made, some failure)
        -- The folder around may have been there under another path.
        | none => if name = "." then (made, none) else makeFolderUnless present made path

def makeFolders (present : IfPresent) (tree : FileTree) (path : String) :
    FileTree × Option FileFailure :=
  makeFoldersTo present (path.length + 1) tree path

def write (tree : FileTree) (path text : String) : Except FileFailure FileTree :=
  let fail (fault : FileFault) : Except FileFailure FileTree := .error ⟨fault, path⟩
  match refusal? path with
  | some fault => fail fault
  | none =>
      match tree.newPlace path (Path.names path) with
      | .error fault => fail fault
      | .ok (place, name) =>
          if Path.isStep name || tree.isFolderAt (place ++ [name]) then fail .isFolder
          else .ok (tree.put (place ++ [name]) (.file (.text text)))

inductive ReadFault where
  | file (failure : FileFailure)
  | undecodable

def read (tree : FileTree) (path : String) : Except ReadFault String :=
  match tree.locate path with
  | .error fault => .error (.file ⟨fault, path⟩)
  | .ok place =>
      match tree.stored.get? place with
      | some (.file (.text text)) => .ok (String.ofList (Text.unifyBreaks text.toList))
      | some (.file .bytes) => .error .undecodable
      | _ => .error (.file ⟨.isFolder, path⟩)

-- What is left of the way to a home when its folders beyond that number are removed.
def cutHome (home : Home) (place : Place) (kept : Nat) : Home :=
  if place.isPrefixOf home.folder then
    { home with lost := max home.lost (home.folder.length - kept) }
  else home

def clear (tree : FileTree) (place : Place) : FileTree :=
  { stored := tree.stored.filter fun entry =>
      !(place.isPrefixOf entry.1 && place.length < entry.1.length)
    home := cutHome tree.home place place.length }

def erase (tree : FileTree) (place : Place) : FileTree :=
  { stored := tree.stored.filter fun entry => !place.isPrefixOf entry.1
    home := cutHome tree.home place (place.length - 1) }

def stepFault (name : String) : FileFault :=
  if name = ".." then .notEmpty else if name = "." then .invalid else .busy

def removeEmpty (tree : FileTree) (path : String) : Except FileFault FileTree :=
  match tree.newPlace path (folderNames path) with
  | .error fault => .error fault
  | .ok (place, name) =>
      if Path.isStep name then .error (stepFault name) else .ok (tree.erase (place ++ [name]))

/-- Removes a folder with all it holds. All it holds is removed first, and its path may lead through
what it held. -/
def removeFolder (tree : FileTree) (path : String) : FileTree × Option FileFailure :=
  match tree.locate path with
  | .error fault => (tree, some ⟨fault, path⟩)
  | .ok place =>
      if tree.isLost path then (tree, some ⟨stepFault ((folderNames path).getLast?.getD ""), path⟩)
      else if !tree.isFolderAt place then (tree, some ⟨.notFolder, path⟩)
      else
        let cleared := tree.clear place
        match cleared.removeEmpty path with
        | .ok removed => (removed, none)
        | .error fault => (cleared, some ⟨fault, path⟩)

def placesAround (place : Place) : List Place :=
  (List.range place.length).filterMap fun count =>
    if count = 0 then none else some (place.take count)

def plant (tree : FileTree) (path : String) (stored : Stored) : FileTree :=
  let place := tree.home.folder ++ Path.normalNames true (Path.names path)
  let folders := (placesAround place).filter fun around => !tree.stored.contains around
  (folders.foldl (fun tree around => tree.put around .folder) tree).put place stored

/-- The path of every file and folder below the working directory, in the order of code points. A
slash follows a folder. -/
def paths (tree : FileTree) : List String :=
  let inside := tree.stored.filter fun (place, _) =>
    tree.home.folder.isPrefixOf place && tree.home.folder.length < place.length
  let all := inside.map fun (place, stored) =>
    String.intercalate "/" (place.drop tree.home.folder.length) ++
      (if stored = .folder then "/" else "")
  all.mergeSort fun a b => decide (a ≤ b)

end FileTree
end OpenApiClient
