import OpenApiClient.Text.Quoted
import OpenApiClient.Text.Units

set_option autoImplicit false

namespace OpenApiClient.Json

def unitEscape (unit : Nat) : List Char :=
  '\\' :: 'u' :: Text.hexDigits 4 unit

def charEscape (c : Char) : List Char := (Text.units c).flatMap unitEscape

def literalChar (c : Char) : List Char :=
  if c = '"' then ['\\', '"']
  else if c = '\\' then ['\\', '\\']
  else if c = '\n' then ['\\', 'n']
  else if c = '\r' then ['\\', 'r']
  else if c = '\t' then ['\\', 't']
  else if c = '\x08' then ['\\', 'b']
  else if c = '\x0c' then ['\\', 'f']
  else if 0x20 ≤ c.toNat ∧ c.toNat < 0x7f then [c]
  else charEscape c

def shortEscapes : List (Char × Char) :=
  [('"', '"'), ('\\', '\\'), ('\n', 'n'), ('\r', 'r'), ('\t', 't'), ('\x08', 'b'), ('\x0c', 'f')]

inductive CharForm (c : Char) : List Char → Prop where
  | short {mark : Char} (escape : (c, mark) ∈ shortEscapes) : CharForm c ['\\', mark]
  | shown (visible : 0x20 ≤ c.toNat ∧ c.toNat < 0x7f) (bare : c ∉ shortEscapes.map Prod.fst) :
      CharForm c [c]
  | units (hidden : ¬ (0x20 ≤ c.toNat ∧ c.toNat < 0x7f)) : CharForm c (charEscape c)

theorem literalChar_form (c : Char) : CharForm c (literalChar c) := by
  rw [literalChar]
  by_cases short : c ∈ shortEscapes.map Prod.fst
  · simp only [shortEscapes, List.map_cons, List.map_nil, List.mem_cons, List.not_mem_nil,
      or_false] at short
    rcases short with rfl | rfl | rfl | rfl | rfl | rfl | rfl <;> exact .short (by decide)
  · have other {d : Char} (escaped : d ∈ shortEscapes.map Prod.fst) : c ≠ d :=
      fun same => short (same ▸ escaped)
    rw [if_neg (other (by decide)), if_neg (other (by decide)), if_neg (other (by decide)),
      if_neg (other (by decide)), if_neg (other (by decide)), if_neg (other (by decide)),
      if_neg (other (by decide))]
    split
    next visible => exact .shown visible short
    next hidden => exact .units hidden

def literalChars (cs : List Char) : List Char :=
  '"' :: cs.flatMap literalChar ++ ['"']

def literal (text : String) : String :=
  String.ofList (literalChars text.toList)

def literalList (texts : List String) : String :=
  "[" ++ String.intercalate ", " (texts.map literal) ++ "]"

end OpenApiClient.Json
