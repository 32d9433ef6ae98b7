import OpenApiClient.Text.Lines

set_option autoImplicit false

namespace OpenApiClient

abbrev Place := List String

namespace Path

def names (path : String) : List String :=
  (Text.separated '/' path.toList).map String.ofList

def isAbsolute (path : String) : Bool := path.toList.head? == some '/'

def baseName (path : String) : String :=
  String.ofList (path.toList.reverse.takeWhile (· != '/')).reverse

/-- The part before the last slash, without slashes at its end unless there is nothing else, and
the name behind it. -/
def split (path : String) : String × String :=
  let head := (path.toList.reverse.dropWhile (· != '/')).reverse
  let trimmed := Text.trimTrailing '/' head
  (String.ofList (if trimmed.isEmpty then head else trimmed), baseName path)

def join (parent name : String) : String :=
  if isAbsolute name || parent = "" then name
  else if parent.toList.getLast? = some '/' then parent ++ name
  else parent ++ "/" ++ name

def normalNames (absolute : Bool) (names : List String) : List String :=
  let reversed := names.foldl
    (fun (kept : List String) name =>
      if name = "" ∨ name = "." then kept
      else if name ≠ ".." then name :: kept
      else
        match kept with
        | [] => if absolute then [] else [".."]
        | ".." :: _ => ".." :: kept
        | _ :: rest => rest) []
  reversed.reverse

def normal (path : String) : String :=
  let slashes := (path.toList.takeWhile (· == '/')).length
  let root := if slashes = 2 then "//" else if slashes = 0 then "" else "/"
  let result := root ++ String.intercalate "/" (normalNames (isAbsolute path) (names path))
  if result = "" then "." else result

-- Names that lead to a folder that is there already.
def isStep (name : String) : Bool := name = "" || name = "." || name = ".."

-- Above the outermost folder there is nothing, and two points stay in it.
def step (place : Place) (name : String) : Place :=
  if name = "" ∨ name = "." then place
  else if name = ".." then place.dropLast
  else place ++ [name]

def climb (place : Place) : List String → Place × List String
  | [] => (place, [])
  | name :: rest => if isStep name then climb (step place name) rest else (place, name :: rest)

def extension (path : String) : String :=
  let name := (baseName path).toList
  let behind := (name.reverse.takeWhile (· != '.')).reverse
  let before := name.take (name.length - behind.length - 1)
  if behind.length < name.length && before.any (· != '.') then String.ofList ('.' :: behind)
  else ""

end Path
end OpenApiClient
