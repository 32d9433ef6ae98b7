import OpenApiClient.Text.Blank

set_option autoImplicit false

namespace OpenApiClient.Text

structure Line where
  body : List Char
  ending : List Char

/-- The lines of a text with their endings. The text after the last line break is a line only
when it is not empty. -/
def lines : List Char → List Line
  | [] => []
  | '\r' :: '\n' :: rest => ⟨[], ['\r', '\n']⟩ :: lines rest
  | c :: rest =>
      if isLineBreak c then ⟨[], [c]⟩ :: lines rest
      else
        match lines rest with
        | [] => [⟨[c], []⟩]
        | line :: more => { line with body := c :: line.body } :: more

theorem flatMap_lines (cs : List Char) :
    (lines cs).flatMap (fun line => line.body ++ line.ending) = cs := by
  fun_induction lines cs with
  | case1 => rfl
  | case2 rest ih => simp [ih]
  | case3 c rest _ h ih => simp [ih]
  | case4 c rest _ h hnil ih => simpa [hnil] using ih
  | case5 c rest _ h line more hcons ih =>
    rw [hcons] at ih
    simpa using ih

def unifyBreaks : List Char → List Char
  | [] => []
  | '\r' :: '\n' :: rest => '\n' :: unifyBreaks rest
  | '\r' :: rest => '\n' :: unifyBreaks rest
  | c :: rest => c :: unifyBreaks rest

def splitLines (text : String) : List String :=
  (lines text.toList).map fun line => String.ofList line.body

def trimBy (isOuter : Char → Bool) (cs : List Char) : List Char :=
  ((cs.dropWhile isOuter).reverse.dropWhile isOuter).reverse

def trim (cs : List Char) : List Char := trimBy isBlank cs

def separated (separator : Char) : List Char → List (List Char)
  | [] => [[]]
  | c :: rest =>
      if c = separator then [] :: separated separator rest
      else
        match separated separator rest with
        | [] => [[c]]
        | piece :: more => (c :: piece) :: more

theorem separated_ne_nil (separator : Char) (cs : List Char) : separated separator cs ≠ [] := by
  cases cs with
  | nil => simp [separated]
  | cons c rest =>
    simp only [separated]
    split
    · simp
    · split <;> simp

theorem not_mem_of_mem_separated {separator : Char} {cs piece : List Char}
    (h : piece ∈ separated separator cs) : separator ∉ piece := by
  induction cs generalizing piece with
  | nil => simp_all [separated]
  | cons c rest ih =>
    simp only [separated] at h
    split at h
    next =>
      rcases List.mem_cons.mp h with rfl | h
      · simp
      · exact ih h
    next different =>
      split at h
      next nothing => exact absurd nothing (separated_ne_nil _ _)
      next first more found =>
        rw [found] at ih
        rcases List.mem_cons.mp h with rfl | h
        · simpa [Ne.symm different] using ih List.mem_cons_self
        · exact ih (List.mem_cons_of_mem _ h)

theorem separated_of_not_mem {separator : Char} {cs : List Char} (h : separator ∉ cs) :
    separated separator cs = [cs] := by
  induction cs with
  | nil => rfl
  | cons c rest ih =>
    simp only [List.mem_cons, not_or] at h
    simp [separated, Ne.symm h.1, ih h.2]

theorem separated_at (separator : Char) (cs rest : List Char) :
    separated separator (cs ++ separator :: rest) =
      separated separator cs ++ separated separator rest := by
  induction cs with
  | nil => simp [separated]
  | cons c cs ih =>
    by_cases same : c = separator
    · simp [separated, same, ih]
    · cases pieces : separated separator cs with
      | nil => exact absurd pieces (separated_ne_nil separator cs)
      | cons piece more => simp [separated, same, ih, pieces]

theorem separated_append {separator : Char} {cs : List Char} (rest : List Char)
    (h : separator ∉ cs) :
    separated separator (cs ++ separator :: rest) = cs :: separated separator rest := by
  rw [separated_at, separated_of_not_mem h, List.singleton_append]

def words : List Char → List (List Char)
  | [] => []
  | c :: rest =>
      if isBlank c then words rest
      else
        match rest with
        | [] => [[c]]
        | next :: _ =>
            if isBlank next then [c] :: words rest
            else
              match words rest with
              | [] => [[c]]
              | word :: more => (c :: word) :: more

def strip (text : String) : String :=
  String.ofList (trim text.toList)

def collapseBlanks (text : String) : String :=
  String.intercalate " " ((words text.toList).map String.ofList)

def indentChars (pad cs : List Char) : List Char :=
  (lines cs).flatMap fun line =>
    (if line.body.all isBlank then [] else pad) ++ line.body ++ line.ending

def indent (pad text : String) : String :=
  String.ofList (indentChars pad.toList text.toList)

def replaceChar (old : Char) (new : List Char) (cs : List Char) : List Char :=
  cs.flatMap fun c => if c = old then new else [c]

def replacePair (first second : Char) (new : List Char) : List Char → List Char
  | c :: d :: rest =>
      if c = first ∧ d = second then new ++ replacePair first second new rest
      else c :: replacePair first second new (d :: rest)
  | cs => cs

def eraseFirst (part : List Char) : List Char → List Char
  | [] => []
  | c :: rest =>
      if part.isPrefixOf (c :: rest) then (c :: rest).drop part.length
      else c :: eraseFirst part rest

def contains (part : List Char) : List Char → Bool
  | [] => part.isEmpty
  | c :: rest => part.isPrefixOf (c :: rest) || contains part rest

def trimTrailing (c : Char) (cs : List Char) : List Char :=
  (cs.reverse.dropWhile (· == c)).reverse

def joinFilled (separator : String) (sections : List String) : String :=
  String.intercalate separator (sections.filter fun part => part ≠ "")

end OpenApiClient.Text
