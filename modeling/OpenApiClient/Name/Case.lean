import OpenApiClient.Text.Lines

set_option autoImplicit false

namespace OpenApiClient.Name

open Text

def isNameChar (c : Char) : Bool :=
  isAsciiDigit c || isAsciiLower c || isAsciiUpper c || c == '_'

def plainChars (cs : List Char) : List Char :=
  cs.map fun c => if isNameChar c then c else '_'

/-- Puts an underscore before a capitalised word that follows another character. A match takes the
character before, the capital and all small letters after it; the search goes on behind them. -/
def splitCapitalised (afterWord : Bool) : List Char → List Char
  | [] => []
  | c :: rest =>
      -- The small letters behind a capital belong to its word and begin nothing new.
      if afterWord && isAsciiLower c then c :: splitCapitalised true rest
      else
        match rest with
        | capital :: small :: more =>
            if isAsciiUpper capital && isAsciiLower small then
              c :: '_' :: capital :: small :: splitCapitalised true more
            else c :: splitCapitalised false (capital :: small :: more)
        | rest => c :: splitCapitalised false rest

def splitCapital : List Char → List Char
  | c :: capital :: rest =>
      if (isAsciiLower c || isAsciiDigit c) && isAsciiUpper capital then
        c :: '_' :: capital :: splitCapital rest
      else c :: splitCapital (capital :: rest)
  | cs => cs

def splitAcronym (inRun : Bool) : List Char → List Char
  | c :: small :: rest =>
      if inRun && isAsciiUpper c && isAsciiLower small then
        '_' :: c :: small :: splitAcronym false rest
      else c :: splitAcronym (isAsciiUpper c) (small :: rest)
  | cs => cs

def collapseUnderscores : List Char → List Char
  | '_' :: '_' :: rest => collapseUnderscores ('_' :: rest)
  | c :: rest => c :: collapseUnderscores rest
  | [] => []

def trimUnderscores (cs : List Char) : List Char :=
  ((cs.dropWhile (· == '_')).reverse.dropWhile (· == '_')).reverse

def lowerChar (c : Char) : Char :=
  if isAsciiUpper c then Char.ofNat (c.toNat + 32) else c

def upperChar (c : Char) : Char :=
  if isAsciiLower c then Char.ofNat (c.toNat - 32) else c

def snakeChars (cs : List Char) : List Char :=
  -- Each pass works on what the one before it has split.
  let words := splitAcronym false (splitCapital (splitCapitalised false (plainChars cs)))
  (trimUnderscores (collapseUnderscores words)).map lowerChar

def snake (name : String) : String :=
  String.ofList (snakeChars name.toList)

def capitalise : List Char → List Char
  | [] => []
  | c :: rest => upperChar c :: rest

def startsWithDigit : List Char → Bool
  | [] => false
  | c :: _ => isAsciiDigit c

def pascalChars (cs : List Char) : List Char :=
  let joined := (separated '_' (snakeChars cs)).flatMap capitalise
  if joined.isEmpty then "Model".toList
  else if startsWithDigit joined then "Model".toList ++ joined
  else joined

def pascal (name : String) : String :=
  String.ofList (pascalChars name.toList)

end OpenApiClient.Name
