import OpenApiClient.Json.Literal

set_option autoImplicit false

namespace OpenApiClient.Text

inductive Segment where
  | text (chars : List Char)
  | slot (name : List Char)
  deriving DecidableEq

def closing? : List Char → Option (List Char × List Char)
  | [] => none
  | c :: rest =>
      if c = '\x7d' then some ([], rest)
      else if c = '\n' then none
      else (closing? rest).map fun found => (c :: found.1, found.2)

theorem closing?_length {cs name rest : List Char} (h : closing? cs = some (name, rest)) :
    rest.length < cs.length := by
  induction cs generalizing name with
  | nil => simp [closing?] at h
  | cons c cs ih =>
    simp only [closing?] at h
    split at h
    · simp_all
    · split at h
      · simp at h
      · obtain ⟨⟨name, after⟩, inner, same⟩ := Option.map_eq_some_iff.mp h
        obtain ⟨_, rfl⟩ := Prod.mk.inj same
        exact Nat.lt_succ_of_lt (ih inner)

def consText (c : Char) : List Segment → List Segment
  | .text cs :: rest => .text (c :: cs) :: rest
  | segments => .text [c] :: segments

def segments (cs : List Char) : List Segment :=
  match cs with
  | [] => []
  | c :: rest =>
      if c = '\x7b' then
        match _closed : closing? rest with
        | some (name, after) => .slot name :: segments after
        -- A brace that is not closed on its line is text.
        | none => consText c (segments rest)
      else consText c (segments rest)
termination_by cs.length
decreasing_by
  · have := closing?_length _closed
    simp
    omega
  · simp
  · simp

def Segment.isSlot : Segment → Bool
  | .slot _ => true
  | .text _ => false

def doubleBrace (c : Char) : List Char :=
  if c = '\x7b' ∨ c = '\x7d' then [c, c] else [c]

def Segment.formatChars : Segment → List Char
  | .text cs => cs.flatMap doubleBrace
  | .slot name => '\x7b' :: name ++ ['\x7d']

def Segment.rename (name : String → String) : Segment → Segment
  | .text cs => .text cs
  | .slot key => .slot (name (String.ofList key)).toList

structure Template where
  segments : List Segment

namespace Template

def ofText (name : String → String) (text : String) : Template :=
  ⟨(Text.segments text.toList).map (Segment.rename name)⟩

def names (template : Template) : List String :=
  template.segments.filterMap fun segment =>
    match segment with
    | .slot name => some (String.ofList name)
    | .text _ => none

def plainChars (template : Template) : List Char :=
  template.segments.flatMap fun segment =>
    match segment with
    | .text cs => cs
    | .slot name => '\x7b' :: name ++ ['\x7d']

def formatChars (template : Template) : List Char :=
  template.segments.flatMap Segment.formatChars

def literal (template : Template) : String :=
  if template.segments.any Segment.isSlot then
    "f" ++ Json.literal (String.ofList template.formatChars)
  else Json.literal (String.ofList template.plainChars)

end Template
end OpenApiClient.Text
