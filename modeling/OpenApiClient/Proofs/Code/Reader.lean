import OpenApiClient.Entries
import OpenApiClient.Name.Case

set_option autoImplicit false

namespace OpenApiClient

namespace Code

inductive Piece where
  | point (value : Nat)
  | value (name : String)
  deriving DecidableEq

inductive Mode where
  -- Outside of literals, behind these characters of a word or behind a literal.
  | code (word : List Char)
  | text (format : Bool)
  | escape (format : Bool)
  | hex (format : Bool) (left value : Nat)
  -- Behind an opening brace of a format string.
  | opened
  | slot (name : List Char)
  -- Behind a closing brace that must be one of two.
  | closed
  deriving DecidableEq

structure Reader where
  mode : Mode
  literals : List (List Piece)
  pieces : List Piece
  deriving DecidableEq

def escaped? (c : Char) : Option Nat :=
  Entries.get?
    [('\\', 92), ('\'', 39), ('"', 34), ('a', 7), ('b', 8), ('f', 12), ('n', 10), ('r', 13),
      ('t', 9), ('v', 11)]
    c

def hexWidth? (c : Char) : Option Nat := Entries.get? [('x', 2), ('u', 4), ('U', 8)] c

def hexValue? (c : Char) : Option Nat :=
  if Text.isAsciiDigit c then some (c.toNat - 48)
  else if 97 ≤ c.toNat ∧ c.toNat ≤ 102 then some (c.toNat - 87)
  else if 65 ≤ c.toNat ∧ c.toNat ≤ 70 then some (c.toNat - 55)
  else none

namespace Reader

def start : Reader := ⟨.code [], [], []⟩

def add (reader : Reader) (format : Bool) (piece : Piece) : Reader :=
  { reader with mode := .text format, pieces := reader.pieces ++ [piece] }

def step (reader : Reader) (c : Char) : Option Reader :=
  match reader.mode with
  | .code word =>
      if c = '"' then
        -- A word in front of the quote decides what kind of literal it is.
        if word = [] then some { reader with mode := .text false, pieces := [] }
        else if word = ['f'] then some { reader with mode := .text true, pieces := [] }
        else none
      else if c = '\'' ∨ c = '#' ∨ c = '\\' then none
      else some { reader with mode := .code (if Name.isNameChar c then word ++ [c] else []) }
  | .text format =>
      if c = '"' then some ⟨.code ['"'], reader.literals ++ [reader.pieces], []⟩
      else if c = '\\' then some { reader with mode := .escape format }
      else if c = '\n' ∨ c = '\r' then none
      else if format = true ∧ c = '\x7b' then some { reader with mode := .opened }
      else if format = true ∧ c = '\x7d' then some { reader with mode := .closed }
      else some (reader.add format (.point c.toNat))
  | .escape format =>
      match hexWidth? c with
      | some width => some { reader with mode := .hex format width 0 }
      | none => (escaped? c).map fun point => reader.add format (.point point)
  | .hex format left value =>
      match hexValue? c with
      | none => none
      | some digit =>
          let value := value * 16 + digit
          if 1 < left then some { reader with mode := .hex format (left - 1) value }
          else if value < 0x110000 then some (reader.add format (.point value))
          else none
  | .opened =>
      if c = '\x7b' then some (reader.add true (.point c.toNat))
      else if Name.isNameChar c then some { reader with mode := .slot [c] }
      else none
  | .slot name =>
      if c = '\x7d' then some (reader.add true (.value (String.ofList name)))
      else if Name.isNameChar c then some { reader with mode := .slot (name ++ [c]) }
      else none
  | .closed => if c = '\x7d' then some (reader.add true (.point c.toNat)) else none

def run (reader : Reader) (cs : List Char) : Option Reader := cs.foldlM step reader

theorem run_cons (reader : Reader) (c : Char) (cs : List Char) :
    reader.run (c :: cs) = (reader.step c).bind fun next => next.run cs := rfl

theorem run_append (reader : Reader) (cs more : List Char) :
    reader.run (cs ++ more) = (reader.run cs).bind fun next => next.run more :=
  List.foldlM_append

end Reader

/-- The literals in a piece of code, when it ends outside of them. -/
def literals (code : String) : Option (List (List Piece)) :=
  match Reader.start.run code.toList with
  | some ⟨.code _, literals, _⟩ => some literals
  | _ => none

def Reads (text : String) (read : List (List Piece)) : Prop :=
  ∀ word earlier, ∃ after,
    Reader.run ⟨.code word, earlier, []⟩ text.toList = some ⟨.code after, earlier ++ read, []⟩

namespace Reads

theorem empty : Reads "" [] := fun word earlier => ⟨word, by simp [Reader.run]⟩

theorem append {text more : String} {read others : List (List Piece)}
    (first : Reads text read) (rest : Reads more others) :
    Reads (text ++ more) (read ++ others) := by
  intro word earlier
  obtain ⟨between, here⟩ := first word earlier
  obtain ⟨after, there⟩ := rest between (earlier ++ read)
  refine ⟨after, ?_⟩
  rw [String.toList_append, Reader.run_append, here, Option.bind_some, there, List.append_assoc]

theorem literals_eq {code : String} {read : List (List Piece)} (reads : Reads code read) :
    literals code = some read := by
  obtain ⟨after, done⟩ := reads [] []
  rw [literals, Reader.start, done, List.nil_append]

end Reads

def isPlain (c : Char) : Bool := c != '"' && c != '\'' && c != '#' && c != '\\'

def nextWord (word : List Char) (c : Char) : List Char :=
  if Name.isNameChar c then word ++ [c] else []

theorem Reader.run_plain {text : List Char} (plain : ∀ c ∈ text, isPlain c = true)
    (word : List Char) (earlier : List (List Piece)) :
    run ⟨.code word, earlier, []⟩ text = some ⟨.code (text.foldl nextWord word), earlier, []⟩ := by
  induction text generalizing word with
  | nil => rfl
  | cons c rest ih =>
    obtain ⟨here, behind⟩ := List.forall_mem_cons.mp plain
    have stepped : step ⟨.code word, earlier, []⟩ c =
        some ⟨.code (nextWord word c), earlier, []⟩ := by
      simp only [isPlain, Bool.and_eq_true, bne_iff_ne] at here
      simp [step, nextWord, here]
    rw [run_cons, stepped, Option.bind_some, ih behind, List.foldl_cons]

theorem Reads.plain {text : String} (plain : ∀ c ∈ text.toList, isPlain c = true) :
    Reads text [] :=
  fun word earlier => ⟨_, by rw [Reader.run_plain plain, List.append_nil]⟩

end Code
end OpenApiClient
