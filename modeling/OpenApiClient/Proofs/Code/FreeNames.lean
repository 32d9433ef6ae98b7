import OpenApiClient.Code.Function
import OpenApiClient.Proofs.Code.Literals
import OpenApiClient.Proofs.Code.Types
import OpenApiClient.Proofs.Name.Folding

set_option autoImplicit false

namespace OpenApiClient.Code

open Name

inductive NameMode where
  | gap
  | word (name : List Char)
  -- Behind a word and a blank. The word may be assigned to.
  | spaced (name : List Char)
  -- Behind a dot.
  | dotted
  | text (format : Bool)
  | escape (format : Bool)
  -- Behind an opening brace of a format string.
  | opened
  | slot (name : List Char)
  deriving DecidableEq

structure NamesFound where
  mode : NameMode
  read : List String
  assigned : List String
  deriving DecidableEq

namespace NameMode

def enter (c : Char) : NameMode :=
  if c = '"' then .text false
  else if c = '.' then .dotted
  else if isNameChar c then .word [c]
  else .gap

def step (mode : NameMode) (c : Char) : NamesFound :=
  match mode with
  | .gap => ⟨enter c, [], []⟩
  | .word name =>
      if isNameChar c then ⟨.word (name ++ [c]), [], []⟩
      else if c = '"' then ⟨.text (name = ['f']), [], []⟩
      else if c = ' ' then ⟨.spaced name, [], []⟩
      else if c = '=' then ⟨.gap, [], []⟩
      else ⟨enter c, [String.ofList name], []⟩
  | .spaced name =>
      if c = '=' then ⟨.gap, [], [String.ofList name]⟩
      else ⟨enter c, [String.ofList name], []⟩
  | .dotted => ⟨if isNameChar c then .dotted else enter c, [], []⟩
  | .text format =>
      if c = '"' then ⟨.gap, [], []⟩
      else if c = '\\' then ⟨.escape format, [], []⟩
      else if format ∧ c = '\x7b' then ⟨.opened, [], []⟩
      else ⟨.text format, [], []⟩
  | .escape format => ⟨.text format, [], []⟩
  | .opened => ⟨if c = '\x7b' then .text true else .slot [c], [], []⟩
  | .slot name =>
      if c = '\x7d' then ⟨.text true, [String.ofList name], []⟩
      else ⟨.slot (name ++ [c]), [], []⟩

def run (mode : NameMode) : List Char → NamesFound
  | [] => ⟨mode, [], []⟩
  | c :: rest =>
      let here := step mode c
      let behind := run here.mode rest
      ⟨behind.mode, here.read ++ behind.read, here.assigned ++ behind.assigned⟩

end NameMode

def namesFound (code : String) : NamesFound := NameMode.gap.run (code.toList ++ ['\n'])

def readNames (code : String) : List String :=
  (namesFound code).read.filter fun name => !isKeyword name

namespace Function

def annotations (function : Function) : List String :=
  (function.parameters.filterMap fun parameter => parameter.type.map Expression.render) ++
    [function.response]

def localNames (function : Function) : List String :=
  function.parameters.map (·.name) ++ (namesFound function.code.code).assigned

/-- The names that a function takes from the module around it, or that are built in: those in its
annotations, and those in its body that are not its own. -/
def globalNames (function : Function) : List String :=
  function.annotations.flatMap readNames ++
    (readNames function.code.code).filter fun name => name ∉ function.localNames

end Function

theorem mem_readNames {code name : String} :
    name ∈ readNames code ↔ name ∈ (namesFound code).read ∧ isKeyword name = false := by
  rw [readNames, List.mem_filter, Bool.not_eq_true']

example : readNames "if limit is not None:\n\tbuilder.query(\"x\", str(limit), f=f\"\x7bid\x7d\")" =
    ["limit", "builder", "str", "limit", "id"] := by
  decide +kernel

theorem Function.mem_globalNames {function : Function} {name : String} :
    name ∈ function.globalNames ↔
      (∃ text ∈ function.annotations, name ∈ readNames text) ∨
        name ∈ readNames function.code.code ∧ name ∉ function.localNames := by
  rw [globalNames, List.mem_append, List.mem_flatMap, List.mem_filter, decide_eq_true_iff]

open NameMode

def Moves (start : NameMode) (text : List Char) (stop : NameMode)
    (read assigned : List String) : Prop :=
  start.run text = ⟨stop, read, assigned⟩

instance (start stop : NameMode) (text : List Char) (read assigned : List String) :
    Decidable (Moves start text stop read assigned) :=
  inferInstanceAs (Decidable (_ = _))

namespace Moves

variable {start between stop : NameMode} {text more : List Char}
  {read assigned others alsoAssigned : List String}

theorem append (first : Moves start text between read assigned)
    (rest : Moves between more stop others alsoAssigned) :
    Moves start (text ++ more) stop (read ++ others) (assigned ++ alsoAssigned) := by
  rw [Moves] at rest
  -- What is read next depends on nothing but the mode.
  induction text generalizing start read assigned with
  | nil =>
    cases first
    exact rest
  | cons c cs ih =>
    rw [Moves, run] at first
    injection first with mode names bound
    have behind := @ih (step start c).mode _ _ (by rw [Moves, ← mode])
    rw [Moves] at behind
    rw [Moves, List.cons_append, run, behind, ← names, ← bound]
    simp

theorem silent (first : Moves start text between read assigned)
    (rest : Moves between more stop [] []) : Moves start (text ++ more) stop read assigned := by
  simpa using first.append rest

end Moves

section Words

theorem run_word {cs : List Char} (named : ∀ c ∈ cs, isNameChar c = true) (before : List Char) :
    Moves (.word before) cs (.word (before ++ cs)) [] [] := by
  induction cs generalizing before with
  | nil => rw [List.append_nil]; rfl
  | cons c rest ih =>
    obtain ⟨here, behind⟩ := List.forall_mem_cons.mp named
    have next := ih behind (before ++ [c])
    rw [Moves] at next
    rw [Moves, run, step, if_pos here, next]
    simp

theorem run_dotted {cs : List Char} (named : ∀ c ∈ cs, isNameChar c = true) :
    Moves .dotted cs .dotted [] [] := by
  induction cs with
  | nil => rfl
  | cons c rest ih =>
    obtain ⟨here, behind⟩ := List.forall_mem_cons.mp named
    have next := ih behind
    rw [Moves] at next
    rw [Moves, run, step, if_pos here, next]
    rfl

theorem enter_of_isNameChar {c : Char} (named : isNameChar c = true) : enter c = .word [c] := by
  have quote : c ≠ '"' := by rintro rfl; cases named
  have dot : c ≠ '.' := by rintro rfl; cases named
  rw [enter, if_neg quote, if_neg dot, if_pos named]

theorem run_identifier {name : String} (identifier : IsIdentifier name) :
    Moves .gap name.toList (.word name.toList) [] [] := by
  obtain ⟨first, rest, text, named, _, tail⟩ := identifier
  have opens : Moves .gap [first] (.word [first]) [] [] := by
    rw [Moves, run, step, enter_of_isNameChar named]
    rfl
  rw [text]
  exact opens.append (run_word tail [first])

theorem run_spaced {name : String} (identifier : IsIdentifier name) (before : List Char) :
    Moves (.spaced before) name.toList (.word name.toList) [String.ofList before] [] := by
  obtain ⟨first, rest, text, named, _, tail⟩ := identifier
  have other : first ≠ '=' := by rintro rfl; cases named
  have opens : Moves (.spaced before) [first] (.word [first]) [String.ofList before] [] := by
    rw [Moves, run, step, if_neg other, enter_of_isNameChar named]
    rfl
  rw [text]
  exact opens.append (run_word tail [first])

end Words

section Texts

theorem digitChar_inside {digit : Nat} (small : digit < 16) (format : Bool) :
    Moves (.text format) [Nat.digitChar digit] (.text format) [] [] := by
  have each : ∀ digit < 16, Nat.digitChar digit ≠ '"' ∧ Nat.digitChar digit ≠ '\\' ∧
      Nat.digitChar digit ≠ '\x7b' := by decide
  obtain ⟨quote, slash, brace⟩ := each digit small
  simp [Moves, run, step, quote, slash, brace]

theorem unitEscape_inside {unit : Nat} (small : unit < 0x10000) (format : Bool) :
    Moves (.text format) (Json.unitEscape unit) (.text format) [] [] := by
  have opens : Moves (.text format) ['\\', 'u'] (.text format) [] [] := rfl
  rw [Json.unitEscape, Text.hexDigits_four small]
  exact opens.append ((digitChar_inside (by omega) format).append
    ((digitChar_inside (by omega) format).append ((digitChar_inside (by omega) format).append
      (digitChar_inside (by omega) format))))

theorem flatMap_inside {α : Type} {format : Bool} {write : α → List Char} {items : List α}
    (each : ∀ item ∈ items, Moves (.text format) (write item) (.text format) [] []) :
    Moves (.text format) (items.flatMap write) (.text format) [] [] := by
  induction items with
  | nil => rfl
  | cons item rest ih =>
    obtain ⟨here, behind⟩ := List.forall_mem_cons.mp each
    rw [List.flatMap_cons]
    exact here.append (ih behind)

theorem literalChar_inside {format : Bool} {c : Char} (plain : format = true → c ≠ '\x7b') :
    Moves (.text format) (Json.literalChar c) (.text format) [] [] := by
  have form := Json.literalChar_form c
  generalize Json.literalChar c = written at form ⊢
  cases form with
  | short escape =>
    simp only [Json.shortEscapes, List.mem_cons, Prod.mk.injEq, List.not_mem_nil,
      or_false] at escape
    rcases escape with ⟨rfl, rfl⟩ | ⟨rfl, rfl⟩ | ⟨rfl, rfl⟩ | ⟨rfl, rfl⟩ | ⟨rfl, rfl⟩ | ⟨rfl, rfl⟩ |
      ⟨rfl, rfl⟩ <;> rfl
  | shown visible bare =>
    have other {d : Char} (escaped : d ∈ Json.shortEscapes.map Prod.fst) : c ≠ d :=
      fun same => bare (same ▸ escaped)
    have open' : ¬(format = true ∧ c = '\x7b') := fun both => plain both.1 both.2
    simp [Moves, run, step, @other '"' (by decide), @other '\\' (by decide), open']
  | units hidden =>
    exact flatMap_inside fun unit member => unitEscape_inside (Text.units_lt unit member) format

theorem doubleBrace_inside (c : Char) :
    Moves (.text true) ((Text.doubleBrace c).flatMap Json.literalChar) (.text true) [] [] := by
  rw [Text.doubleBrace]
  split
  next brace => rcases brace with rfl | rfl <;> rfl
  next plain =>
    rw [List.flatMap_singleton]
    exact literalChar_inside fun _ => (not_or.mp plain).1

theorem literal_read (text : String) : Moves .gap (Json.literal text).toList .gap [] [] := by
  have opens : Moves .gap ['"'] (.text false) [] [] := rfl
  have closes : Moves (.text false) ['"'] .gap [] [] := rfl
  have inside : Moves (.text false) (text.toList.flatMap Json.literalChar) (.text false) [] [] :=
    flatMap_inside fun c _ => literalChar_inside nofun
  rw [Json.literal, String.toList_ofList]
  exact opens.append (inside.append closes)

theorem slot_inside {cs : List Char} (named : ∀ c ∈ cs, isNameChar c = true)
    (before : List Char) :
    Moves (.slot before) (cs ++ ['\x7d']) (.text true) [String.ofList (before ++ cs)] [] := by
  induction cs generalizing before with
  | nil => rw [List.append_nil]; rfl
  | cons c rest ih =>
    obtain ⟨here, behind⟩ := List.forall_mem_cons.mp named
    have other : c ≠ '\x7d' := by rintro rfl; cases here
    have first : Moves (.slot before) [c] (.slot (before ++ [c])) [] [] := by
      simp [Moves, run, step, other]
    have whole := first.append (ih behind (before ++ [c]))
    simpa using whole

theorem slot_read {name : List Char} (filled : Text.Segment.Filled (.slot name)) :
    Moves (.text true) ((Text.Segment.formatChars (.slot name)).flatMap Json.literalChar)
      (.text true) [String.ofList name] [] := by
  obtain ⟨present, named⟩ := filled
  rw [Reader.literalChars_slot named]
  cases name with
  | nil => exact absurd rfl present
  | cons first rest =>
    obtain ⟨here, behind⟩ := List.forall_mem_cons.mp named
    have other : first ≠ '\x7b' := by rintro rfl; cases here
    have opens : Moves (.text true) ['\x7b', first] (.slot [first]) [] [] := by
      simp [Moves, run, step, other]
    exact opens.append (slot_inside behind [first])

theorem formatChars_read {segments : List Text.Segment}
    (filled : ∀ segment ∈ segments, segment.Filled) :
    Moves (.text true) ((segments.flatMap Text.Segment.formatChars).flatMap Json.literalChar)
      (.text true) (Text.Template.names ⟨segments⟩) [] := by
  induction segments with
  | nil => rfl
  | cons segment rest ih =>
    obtain ⟨here, behind⟩ := List.forall_mem_cons.mp filled
    rw [List.flatMap_cons, List.flatMap_append]
    cases segment with
    | slot name => exact (slot_read here).append (ih behind)
    | text cs =>
      have quiet : Moves (.text true) ((cs.flatMap Text.doubleBrace).flatMap Json.literalChar)
          (.text true) [] [] := by
        rw [List.flatMap_assoc]
        exact flatMap_inside fun c _ => doubleBrace_inside c
      exact quiet.append (ih behind)

theorem template_read {template : Text.Template}
    (filled : ∀ segment ∈ template.segments, segment.Filled) :
    Moves .gap template.literal.toList .gap template.names [] := by
  rw [Text.Template.literal]
  split
  next =>
    have opens : Moves .gap ['f', '"'] (.text true) [] [] := rfl
    have closes : Moves (.text true) ['"'] .gap [] [] := rfl
    simp only [String.toList_append, Json.literal, String.toList_ofList]
    exact (opens.append (formatChars_read filled)).silent closes
  next plain =>
    have none : template.names = [] := by
      refine List.filterMap_eq_nil_iff.mpr fun segment member => ?_
      cases segment with
      | text cs => rfl
      | slot name => exact absurd (List.any_eq_true.mpr ⟨_, member, rfl⟩) plain
    rw [none]
    exact literal_read _

end Texts

def TypeNames (text : String) (names : List String) : Prop :=
  ∀ close ∈ [')', ']', '\n'], Moves .gap (text.toList ++ [close]) .gap names []

namespace TypeNames

theorem namesFound_read {text : String} {names : List String} (typed : TypeNames text names) :
    (namesFound text).read = names := by
  have line : namesFound text = ⟨.gap, names, []⟩ := typed '\n' (by simp)
  rw [line]

theorem identifier {name : String} (identifier : IsIdentifier name) : TypeNames name [name] := by
  intro close member
  have closes : Moves (.word name.toList) [close] .gap [String.ofList name.toList] [] := by
    simp only [List.mem_cons, List.not_mem_nil, or_false] at member
    rcases member with rfl | rfl | rfl <;> rfl
  simpa using (run_identifier identifier).append closes

theorem closing_silent {close : Char} (member : close ∈ [')', ']', '\n']) :
    Moves .gap [close] .gap [] [] ∧ Moves .dotted [close] .gap [] [] := by
  simp only [List.mem_cons, List.not_mem_nil, or_false] at member
  rcases member with rfl | rfl | rfl <;> exact ⟨rfl, rfl⟩

theorem wrap {wrapper text : String} {names : List String} (identifier : IsIdentifier wrapper)
    (inner : TypeNames text names) :
    TypeNames (wrapper ++ "[" ++ text ++ "]") (wrapper :: names) := by
  intro close member
  have opens : Moves (.word wrapper.toList) ['['] .gap [String.ofList wrapper.toList] [] := rfl
  have whole := (((run_identifier identifier).append opens).append (inner ']' (by simp))).silent
    (closing_silent member).1
  simpa using whole

theorem modelPath (pointer : String) : TypeNames (modelPath pointer) ["models"] := by
  intro close member
  have opens : Moves .gap "models.".toList .dotted ["models"] [] := rfl
  have named : ∀ c ∈ pascalChars (afterLastSlash pointer.toList), isNameChar c = true :=
    fun c inside => isNameChar_of_mem_pascalChars inside
  have whole := (opens.silent (run_dotted named)).silent (closing_silent member).2
  simpa [Name.modelPath] using whole

end TypeNames

def TypeOver (words : List String) (text : String) : Prop :=
  ∃ names, TypeNames text names ∧ names ⊆ words

namespace TypeOver

variable {words more : List String} {text name : String}

theorem mono (known : TypeOver words text) (listed : words ⊆ more) : TypeOver more text :=
  known.imp fun _ typed => ⟨typed.1, List.Subset.trans typed.2 listed⟩

theorem named (identifier : IsIdentifier name) (listed : name ∈ words) : TypeOver words name :=
  ⟨[name], .identifier identifier, List.cons_subset.mpr ⟨listed, List.nil_subset _⟩⟩

theorem ofText (identifier : IsIdentifier name) (listed : name ∈ words) :
    TypeOver words (Expression.ofText name).render := by
  rw [Expression.render_ofText]
  exact named identifier listed

theorem wrap (wrapper : String) (identifier : IsIdentifier wrapper) (listed : wrapper ∈ words)
    (known : TypeOver words text) : TypeOver words (wrapper ++ "[" ++ text ++ "]") := by
  obtain ⟨names, typed, inside⟩ := known
  exact ⟨wrapper :: names, typed.wrap identifier, List.cons_subset.mpr ⟨listed, inside⟩⟩

theorem modelPath (listed : "models" ∈ words) (pointer : String) :
    TypeOver words (modelPath pointer) :=
  ⟨["models"], .modelPath pointer, List.cons_subset.mpr ⟨listed, List.nil_subset _⟩⟩

theorem readNames_subset (known : TypeOver words text) : readNames text ⊆ words := by
  obtain ⟨names, typed, listed⟩ := known
  rw [readNames, typed.namesFound_read]
  exact List.Subset.trans (List.filter_subset_self _) listed

end TypeOver

end OpenApiClient.Code

namespace OpenApiClient.MappedType

open Code

def typeWords : List String :=
  ["None", "bool", "bytes", "str", "datetime", "models", "Any", "Dict", "List", "Base64Uuid",
    "Float32", "Float64", "Int32", "Int64", "SecureString"]

theorem Written.typeOver {mapped : MappedType} (written : mapped.Written) :
    TypeOver typeWords mapped.expression.render := by
  cases written with
  | @format format name kind known =>
    -- The names in the table of formats are identifiers and listed.
    have listed : Name.IsIdentifier name ∧ name ∈ typeWords := by
      refine (?_ : ∀ entry ∈ _, Name.IsIdentifier entry.2.1 ∧ entry.2.1 ∈ typeWords) _
        (Entries.mem_of_get? known)
      decide
    exact .ofText listed.1 listed.2
  | single type owned =>
    change TypeOver typeWords (instanceType type).1.render
    cases type with
    | null => exact .ofText (by decide) (by decide)
    | boolean => exact .ofText (by decide) (by decide)
    | number => exact .ofText (by decide) (by decide)
    | integer => exact .ofText (by decide) (by decide)
    | string => exact .ofText (by decide) (by decide)
    | array =>
      simp only [instanceType, Expression.render_wrapText]
      exact .wrap "List" (by decide) (by decide) (.named (by decide) (by decide))
    | object =>
      have text : (instanceType .object).1.render = "Dict[str, str]" := by decide +kernel
      refine ⟨["Dict", "str", "str"], ?_, by decide⟩
      rw [text]
      intro close member
      exact (show Moves .gap "Dict[str, str]".toList .gap ["Dict", "str", "str"] [] from rfl).silent
        (TypeNames.closing_silent member).1
  | records pointer =>
    rw [Expression.render_wrapText]
    exact .wrap "List" (by decide) (by decide) (.modelPath (by decide) pointer)
  | record pointer =>
    rw [MappedType.record, Expression.render_ofText]
    exact .modelPath (by decide) pointer

end OpenApiClient.MappedType
