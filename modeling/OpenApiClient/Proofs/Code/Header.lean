import OpenApiClient.Proofs.Code.Bindings
import OpenApiClient.Proofs.Code.Sections
import OpenApiClient.Proofs.Code.Types
import OpenApiClient.Proofs.Name.Folding
import OpenApiClient.Proofs.Text.Printable

set_option autoImplicit false

namespace OpenApiClient

namespace Text

theorem trim_around {front text back : List Char} (before : front.all isBlank = true)
    (behind : back.all isBlank = true) (opens : ∃ c, text.head? = some c ∧ isBlank c = false)
    (ends : ∃ c, text.getLast? = some c ∧ isBlank c = false) :
    trim (front ++ text ++ back) = text := by
  have dropped {blanks more : List Char} (blank : blanks.all isBlank = true)
      (opens : ∃ c, more.head? = some c ∧ isBlank c = false) :
      (blanks ++ more).dropWhile isBlank = more := by
    obtain ⟨c, head, visible⟩ := opens
    obtain ⟨rest, rfl⟩ := List.head?_eq_some_iff.mp head
    rw [List.dropWhile_append_of_pos (List.all_eq_true.mp blank),
      List.dropWhile_cons_of_neg (Bool.eq_false_iff.mp visible)]
  have opened : ∃ c, (text ++ back).head? = some c ∧ isBlank c = false := by
    obtain ⟨c, head, visible⟩ := opens
    exact ⟨c, by rw [List.head?_append, head, Option.some_or], visible⟩
  have reversed : ∃ c, text.reverse.head? = some c ∧ isBlank c = false := by
    rwa [List.head?_reverse]
  rw [trim, trimBy, List.append_assoc, dropped before opened, List.reverse_append,
    dropped (by rwa [List.all_reverse]) reversed, List.reverse_reverse]

end Text

namespace Code

open Text

structure ReadParameter where
  name : String
  annotation : Option String
  default : Option String
  deriving DecidableEq

def closing? (c : Char) : Option Char :=
  if c = '(' then some ')'
  else if c = '[' then some ']'
  else if c = '\x7b' then some '\x7d'
  else none

-- What closes the brackets that are open behind a character. Texts and comments are not read.
def afterChar (opened : List Char) (c : Char) : Option (List Char) :=
  match closing? c with
  | some closing => some (closing :: opened)
  | none =>
      if c ∈ [')', ']', '\x7d'] then
        if opened.head? = some c then some opened.tail else none
      else if c ∈ ['"', '\'', '#', '\\'] then none
      else some opened

def splitOutside (separator : Char) : List Char → List Char → Option (List (List Char))
  | opened, [] => if opened = [] then some [[]] else none
  | opened, c :: rest =>
      if opened = [] ∧ c = separator then (splitOutside separator [] rest).map ([] :: ·)
      else
        (afterChar opened c).bind fun next =>
          (splitOutside separator next rest).map (List.modifyHead (c :: ·))

def upTo (stop : Char) : List Char → List Char → Option (List Char × List Char)
  | _, [] => none
  | opened, c :: rest =>
      if opened = [] ∧ c = stop then some ([], rest)
      else
        (afterChar opened c).bind fun next =>
          (upTo stop next rest).map fun read => (c :: read.1, read.2)

def trimmed (cs : List Char) : String := String.ofList (trim cs)

def readParameter (piece : List Char) : Option ReadParameter :=
  (splitOutside '=' [] piece).bind fun parts =>
    (splitOutside ':' [] (parts.headD [])).bind fun front =>
      if Name.IsIdentifier (trimmed (front.headD [])) ∧ parts.length ≤ 2 ∧ front.length ≤ 2 then
        some ⟨trimmed (front.headD []), front[1]?.map trimmed, parts[1]?.map trimmed⟩
      else none

def readParameters (inside : List Char) : Option (List ReadParameter) :=
  (splitOutside ',' [] inside).bind fun pieces =>
    (if (pieces.getLastD []).all isBlank then pieces.dropLast else pieces).mapM readParameter

def readNamed (code : List Char) : Option (String × List ReadParameter) :=
  match code.dropWhile Name.isNameChar with
  | '(' :: rest =>
      (upTo ')' [] rest).bind fun read =>
        (readParameters read.1).map fun parameters =>
          (String.ofList (code.takeWhile Name.isNameChar), parameters)
  | _ => none

/-- The name and the parameters of the function that the code begins with. -/
def readHeader (code : String) : Option (String × List ReadParameter) :=
  ((code.toList.dropPrefix? "async def ".toList).or
    (code.toList.dropPrefix? "def ".toList)).bind readNamed

-- Where a text leads that holds no separator outside of brackets.
def skim (separator : Char) : List Char → List Char → Option (List Char)
  | opened, [] => some opened
  | opened, c :: rest =>
      if opened = [] ∧ c = separator then none
      else (afterChar opened c).bind fun next => skim separator next rest

section Skim

variable {separator : Char} {opened next text : List Char}

theorem skim_append (before behind : List Char) :
    skim separator opened (before ++ behind) =
      (skim separator opened before).bind fun next => skim separator next behind := by
  induction before generalizing opened with
  | nil => rfl
  | cons c rest ih =>
    rw [List.cons_append, skim, skim]
    split
    next => rfl
    next =>
      rw [Option.bind_assoc]
      exact Option.bind_congr fun next _ => ih

theorem skim_cons_eq_some {c : Char} {rest : List Char}
    (skims : skim separator opened (c :: rest) = some next) :
    ¬ (opened = [] ∧ c = separator) ∧
      ∃ between, afterChar opened c = some between ∧ skim separator between rest = some next := by
  rw [skim] at skims
  split at skims
  next => cases skims
  next inside => exact ⟨inside, Option.bind_eq_some_iff.mp skims⟩

theorem splitOutside_append (skims : skim separator opened text = some next)
    (rest : List Char) :
    splitOutside separator opened (text ++ rest) =
      (splitOutside separator next rest).map (List.modifyHead (text ++ ·)) := by
  induction text generalizing opened with
  | nil =>
    cases skims
    have same : List.modifyHead (fun piece : List Char => [] ++ piece) = id := by
      funext pieces
      cases pieces <;> rfl
    rw [same, Option.map_id]
    rfl
  | cons c more ih =>
    obtain ⟨inside, between, moved, behind⟩ := skim_cons_eq_some skims
    rw [List.cons_append, splitOutside, if_neg inside, moved, Option.bind_some, ih behind,
      Option.map_map]
    refine congrArg (Option.map · _) (funext fun pieces => ?_)
    cases pieces <;> rfl

theorem upTo_append (skims : skim separator opened text = some next) (rest : List Char) :
    upTo separator opened (text ++ rest) =
      (upTo separator next rest).map fun read => (text ++ read.1, read.2) := by
  induction text generalizing opened with
  | nil =>
    cases skims
    simp
  | cons c more ih =>
    obtain ⟨inside, between, moved, behind⟩ := skim_cons_eq_some skims
    rw [List.cons_append, upTo, if_neg inside, moved, Option.bind_some, ih behind, Option.map_map]
    rfl

theorem afterChar_append {c : Char} (moved : afterChar opened c = some next)
    (outer : List Char) : afterChar (opened ++ outer) c = some (next ++ outer) := by
  rw [afterChar] at moved ⊢
  split at moved
  next closing opens =>
    cases moved
    rfl
  next =>
    split at moved
    next closes =>
      split at moved
      next fits =>
        cases moved
        obtain ⟨rest, rfl⟩ := List.head?_eq_some_iff.mp fits
        simp [closes]
      next => cases moved
    next other =>
      split at moved
      next => cases moved
      next plain =>
        cases moved
        rw [if_neg other, if_neg plain]

theorem skim_inside (skims : skim separator opened text = some next) {outer : List Char}
    (inside : outer ≠ []) (other : Char) :
    skim other (opened ++ outer) text = some (next ++ outer) := by
  induction text generalizing opened with
  | nil =>
    cases skims
    rfl
  | cons c rest ih =>
    obtain ⟨-, between, moved, behind⟩ := skim_cons_eq_some skims
    have deep : ¬ (opened ++ outer = [] ∧ c = other) := fun both =>
      inside (List.append_eq_nil_iff.mp both.1).2
    rw [skim, if_neg deep, afterChar_append moved, Option.bind_some, ih behind]

end Skim

def separators : List Char := [')', ',', '=', ':']

def Sealed (text : List Char) : Prop :=
  ∀ separator ∈ separators, skim separator [] text = some []

instance (text : List Char) : Decidable (Sealed text) :=
  List.decidableBAll _ separators

theorem skim_both {separator : Char} {text more : List Char}
    (first : skim separator [] text = some []) (rest : skim separator [] more = some []) :
    skim separator [] (text ++ more) = some [] := by
  rw [skim_append, first, Option.bind_some, rest]

theorem Sealed.append {text more : List Char} (first : Sealed text) (rest : Sealed more) :
    Sealed (text ++ more) :=
  fun separator listed => skim_both (first separator listed) (rest separator listed)

def isPathChar (c : Char) : Bool := Name.isNameChar c || c == '.'

theorem isPathChar_iff {c : Char} : isPathChar c = true ↔ Name.isNameChar c = true ∨ c = '.' := by
  simp [isPathChar]

theorem Sealed.path {text : List Char} (chars : ∀ c ∈ text, isPathChar c = true) :
    Sealed text := by
  intro separator listed
  induction text with
  | nil => rfl
  | cons c rest ih =>
    obtain ⟨here, behind⟩ := List.forall_mem_cons.mp chars
    have marks : (separators ++ [']', '\x7d', '"', '\'', '#', '\\', '(', '[', '\x7b']).all
        (fun mark => !isPathChar mark) = true := by
      decide
    have absent : c ∉ separators ++ [']', '\x7d', '"', '\'', '#', '\\', '(', '[', '\x7b'] :=
      fun member => by simpa [here] using List.all_eq_true.mp marks c member
    have plain : afterChar [] c = some [] := by
      simp only [separators, List.mem_append, List.mem_cons, List.not_mem_nil, or_false,
        not_or] at absent
      simp [afterChar, closing?, absent]
    have inside : ¬ (([] : List Char) = [] ∧ c = separator) := fun both =>
      absent (List.mem_append_left _ (both.2 ▸ listed))
    rw [skim, if_neg inside, plain, Option.bind_some, ih behind]

theorem Sealed.bracketed {text : List Char} (whole : Sealed text) :
    Sealed ('[' :: (text ++ [']'])) := by
  intro separator listed
  have opens : skim separator [] ['['] = some [']'] := by
    have marks : (separators.all fun mark => skim mark [] ['['] == some [']']) = true := by decide
    exact eq_of_beq (List.all_eq_true.mp marks separator listed)
  have closes : skim separator [']'] [']'] = some [] := by
    simp [skim, afterChar, closing?]
  have inside : skim separator [']'] text = some [']'] :=
    skim_inside (whole separator listed) (List.cons_ne_nil ']' []) separator
  rw [← List.singleton_append, skim_append, opens, Option.bind_some, skim_append, inside,
    Option.bind_some, closes]

structure IsTerm (text : String) : Prop where
  whole : Sealed text.toList
  opens : ∃ c, text.toList.head? = some c ∧ isBlank c = false
  ends : ∃ c, text.toList.getLast? = some c ∧ isBlank c = false
  noTab : '\t' ∉ text.toList

namespace IsTerm

theorem path {text : String} (filled : text.toList ≠ [])
    (chars : ∀ c ∈ text.toList, isPathChar c = true) : IsTerm text := by
  have visible {c : Char} (member : c ∈ text.toList) : isPrintable c = true := by
    rcases isPathChar_iff.mp (chars c member) with named | rfl
    · exact isPrintable_of_isNameChar named
    · decide
  have filledAt {c : Char} (member : c ∈ text.toList) : isBlank c = false :=
    isBlank_of_isPrintable (visible member) fun space =>
      absurd (chars c member) (space ▸ by decide)
  refine ⟨.path chars, ?_, ?_, fun tab => absurd (visible tab) (by decide)⟩
  · exact ⟨_, List.head?_eq_some_head filled, filledAt (List.head_mem filled)⟩
  · exact ⟨_, List.getLast?_eq_some_getLast filled, filledAt (List.getLast_mem filled)⟩

theorem word {name : String} (identifier : Name.IsIdentifier name) : IsTerm name :=
  path identifier.toList_ne_nil fun c member =>
    isPathChar_iff.mpr (.inl (identifier.chars c member))

theorem modelPath (pointer : String) : IsTerm (Name.modelPath pointer) := by
  have opening : "models.".toList.all isPathChar = true := by decide
  have named : ∀ c ∈ Name.pascalChars (Name.afterLastSlash pointer.toList),
      isPathChar c = true := fun c member =>
    isPathChar_iff.mpr (.inl (Name.isNameChar_of_mem_pascalChars member))
  have shape : (Name.modelPath pointer).toList =
      "models.".toList ++ Name.pascalChars (Name.afterLastSlash pointer.toList) := by
    simp [Name.modelPath]
  exact path (by simp [shape])
    (shape ▸ List.forall_mem_append.mpr ⟨List.all_eq_true.mp opening, named⟩)

theorem wrap (wrapper : String) {text : String} (identifier : Name.IsIdentifier wrapper)
    (inner : IsTerm text) : IsTerm (wrapper ++ "[" ++ text ++ "]") := by
  have outer := word identifier
  obtain ⟨first, head, visible⟩ := outer.opens
  have shape : (wrapper ++ "[" ++ text ++ "]").toList =
      wrapper.toList ++ '[' :: (text.toList ++ [']']) := by
    simp
  refine ⟨?_, ⟨first, ?_, visible⟩, ⟨']', ?_, by decide⟩, ?_⟩
  · exact shape ▸ outer.whole.append inner.whole.bracketed
  · rw [shape, List.head?_append, head, Option.some_or]
  · rw [shape, ← List.cons_append, ← List.append_assoc, List.getLast?_concat]
  · simp [shape, outer.noTab, inner.noTab]

end IsTerm

/-- What a reader finds of the parameter. -/
def Parameter.found (parameter : Parameter) : ReadParameter :=
  ⟨parameter.name, parameter.type.map Expression.render, parameter.default.map Expression.render⟩

structure Parameter.Legible (parameter : Parameter) : Prop where
  name : Name.IsIdentifier parameter.name
  type : ∃ type, parameter.type = some type ∧ IsTerm type.render
  default : ∀ default, parameter.default = some default → IsTerm default.render

section Pieces

variable {separator : Char} {text : List Char}

theorem splitOutside_behind (skims : skim separator [] text = some []) (rest : List Char) :
    splitOutside separator [] (text ++ separator :: rest) =
      (splitOutside separator [] rest).map (text :: ·) := by
  rw [splitOutside_append skims, splitOutside, if_pos ⟨rfl, rfl⟩, Option.map_map]
  refine congrArg (Option.map · _) (funext fun pieces => ?_)
  exact congrArg (· :: pieces) (List.append_nil text)

theorem splitOutside_whole (skims : skim separator [] text = some []) :
    splitOutside separator [] text = some [text] := by
  have read := splitOutside_append skims []
  rw [List.append_nil, splitOutside, if_pos rfl, Option.map_some] at read
  rw [read]
  exact congrArg (fun piece => some [piece]) (List.append_nil text)

end Pieces

theorem trimmed_term {text : String} (term : IsTerm text) {front back : List Char}
    (before : front.all isBlank = true) (behind : back.all isBlank = true) :
    trimmed (front ++ text.toList ++ back) = text := by
  rw [trimmed, trim_around before behind term.opens term.ends, String.ofList_toList]

-- What stands in front of a parameter: nothing, or a new line of the list.
def leads : List (List Char) := [[], "\n    ".toList]

theorem leads_blank : ∀ lead ∈ leads, lead.all isBlank = true ∧ Sealed lead := by decide

section Parameters

variable {parameter : Parameter} {type : Expression} {lead : List Char}

theorem Parameter.toList_render (typed : parameter.type = some type) :
    parameter.render.toList =
      parameter.name.toList ++ ':' :: (' ' :: type.render.toList ++
        parameter.default.elim [] fun default => ' ' :: '=' :: ' ' :: default.render.toList) := by
  rw [Parameter.render, typed]
  cases parameter.default <;> simp

theorem readParameter_eq {piece target named typed : List Char} {values : List (List Char)}
    (parts : splitOutside '=' [] piece = some (target :: values)) (few : values.length ≤ 1)
    (front : splitOutside ':' [] target = some [named, typed])
    (identifier : Name.IsIdentifier (trimmed named)) :
    readParameter piece =
      some ⟨trimmed named, some (trimmed typed), values.head?.map trimmed⟩ := by
  have short : (target :: values).length ≤ 2 := Nat.succ_le_succ few
  rw [readParameter, parts, Option.bind_some, List.headD_cons, front, Option.bind_some,
    List.headD_cons, if_pos ⟨identifier, short, le_rfl⟩]
  cases values <;> rfl

theorem Sealed.blank : Sealed [' '] := by decide

theorem trimmed_behind {text : String} (term : IsTerm text) {back : List Char}
    (blank : back.all isBlank = true) : trimmed (' ' :: text.toList ++ back) = text :=
  @trimmed_term _ term [' '] back (by decide) blank

theorem splitOutside_typed {before type back : List Char} (opens : Sealed before)
    (term : Sealed type) (closes : Sealed back) :
    skim '=' [] (before ++ ':' :: (' ' :: type ++ back)) = some [] ∧
      splitOutside ':' [] (before ++ ':' :: (' ' :: type ++ back)) =
        some [before, ' ' :: type ++ back] := by
  have behind : Sealed (' ' :: type ++ back) := (Sealed.blank.append term).append closes
  have colon : skim '=' [] [':'] = some [] := by decide
  constructor
  · exact skim_both (opens '=' (by decide))
      (@skim_both '=' [':'] _ colon (behind '=' (by decide)))
  · rw [splitOutside_behind (opens ':' (by decide)), splitOutside_whole (behind ':' (by decide))]
    rfl

theorem Parameter.Legible.read_eq (legible : parameter.Legible) (listed : lead ∈ leads) :
    readParameter (lead ++ parameter.render.toList) = some parameter.found := by
  obtain ⟨blank, opens⟩ := leads_blank lead listed
  obtain ⟨type, typed, term⟩ := legible.type
  have word := IsTerm.word legible.name
  have named := opens.append word.whole
  have name : trimmed (lead ++ parameter.name.toList) = parameter.name := by
    simpa using trimmed_term word blank (List.all_nil : [].all isBlank = true)
  have identifier : Name.IsIdentifier (trimmed (lead ++ parameter.name.toList)) :=
    name.symm ▸ legible.name
  rw [Parameter.toList_render typed, ← List.append_assoc, Parameter.found, typed]
  cases given : parameter.default with
  | none =>
    obtain ⟨skims, split⟩ := splitOutside_typed named term.whole (by decide : Sealed [])
    rw [Option.elim_none, readParameter_eq (splitOutside_whole skims) (by decide) split identifier,
      name, trimmed_behind term rfl]
    rfl
  | some default =>
    obtain ⟨skims, split⟩ := splitOutside_typed named term.whole Sealed.blank
    have value := legible.default default given
    have spaced : Sealed (' ' :: default.render.toList) := Sealed.blank.append value.whole
    have parts := splitOutside_behind skims (' ' :: default.render.toList)
    rw [splitOutside_whole (spaced '=' (by decide))] at parts
    have shape : lead ++ parameter.name.toList ++ ':' :: (' ' :: type.render.toList ++
        ' ' :: '=' :: ' ' :: default.render.toList) =
      lead ++ parameter.name.toList ++ ':' :: (' ' :: type.render.toList ++ [' ']) ++
        '=' :: (' ' :: default.render.toList) := by simp
    rw [Option.elim_some, shape, readParameter_eq parts le_rfl split identifier, name,
      trimmed_behind term (by decide)]
    simpa using trimmed_behind value (List.all_nil : [].all isBlank = true)

theorem Parameter.Legible.skim_render (legible : parameter.Legible) {separator : Char}
    (listed : separator ∈ [')', ',']) : skim separator [] parameter.render.toList = some [] := by
  have marks : ([')', ','].all fun c => c ∈ separators ∧ skim c [] [':'] = some [] ∧
      skim c [] [' ', '='] = some []) = true := by
    decide
  obtain ⟨sealing, colon, equals⟩ :=
    of_decide_eq_true (List.all_eq_true.mp marks separator listed)
  obtain ⟨type, typed, term⟩ := legible.type
  have spaced : Sealed (' ' :: type.render.toList) := Sealed.blank.append term.whole
  rw [Parameter.toList_render typed]
  refine skim_both ((IsTerm.word legible.name).whole separator sealing)
    (@skim_both separator [':'] _ colon (skim_both (spaced separator sealing) ?_))
  cases given : parameter.default with
  | none => rfl
  | some default =>
    have value : Sealed (' ' :: default.render.toList) :=
      Sealed.blank.append (legible.default default given).whole
    exact @skim_both separator [' ', '='] _ equals (value separator sealing)

theorem mapM_readParameter {parameters : List Parameter} (legible : ∀ p ∈ parameters, p.Legible)
    (listed : lead ∈ leads) :
    (parameters.map fun parameter => lead ++ parameter.render.toList).mapM readParameter =
      some (parameters.map Parameter.found) := by
  induction parameters with
  | nil => rfl
  | cons first rest ih =>
    obtain ⟨here, behind⟩ := List.forall_mem_cons.mp legible
    rw [List.map_cons, List.mapM_cons, here.read_eq listed, ih behind]
    rfl

theorem splitOutside_lines {parameters : List Parameter} (legible : ∀ p ∈ parameters, p.Legible) :
    splitOutside ',' [] ('\n' :: (String.join (parameters.map fun parameter =>
        indentation ++ parameter.render ++ ",\n")).toList) =
      some ((parameters.map fun parameter => "\n    ".toList ++ parameter.render.toList) ++
        [['\n']]) := by
  induction parameters with
  | nil => decide
  | cons first rest ih =>
    obtain ⟨here, behind⟩ := List.forall_mem_cons.mp legible
    have opens : skim ',' [] "\n    ".toList = some [] := by decide
    have shape (more : String) : '\n' :: (indentation ++ first.render ++ ",\n" ++ more).toList =
        "\n    ".toList ++ first.render.toList ++ ',' :: '\n' :: more.toList := by
      simp [indentation]
    rw [List.map_cons, String.join_cons, shape,
      splitOutside_behind (skim_both opens (here.skim_render (by decide))), ih behind]
    rfl

def listed (parameters : List Parameter) : List Char :=
  match parameters with
  | [] => []
  | [parameter] => parameter.render.toList
  | parameters =>
      '\n' :: (String.join (parameters.map fun parameter =>
        indentation ++ parameter.render ++ ",\n")).toList

theorem listed_several (first second : Parameter) (rest : List Parameter) :
    listed (first :: second :: rest) =
      '\n' :: (String.join ((first :: second :: rest).map fun parameter =>
        indentation ++ parameter.render ++ ",\n")).toList := rfl

theorem toList_signature (parameters : List Parameter) :
    (Function.signature parameters).toList = '(' :: (listed parameters ++ [')']) := by
  rw [Function.signature.eq_def, listed.eq_def]
  rcases parameters with _ | ⟨first, _ | ⟨second, rest⟩⟩ <;> simp

theorem readParameters_listed {parameters : List Parameter}
    (legible : ∀ p ∈ parameters, p.Legible) :
    readParameters (listed parameters) = some (parameters.map Parameter.found) := by
  rcases parameters with _ | ⟨first, _ | ⟨second, rest⟩⟩
  case nil => decide
  case cons.nil =>
    obtain ⟨here, -⟩ := List.forall_mem_cons.mp legible
    obtain ⟨type, typed, -⟩ := here.type
    obtain ⟨c, head, visible⟩ := (IsTerm.word here.name).opens
    have filled : first.render.toList.all isBlank = false := by
      obtain ⟨more, same⟩ := List.head?_eq_some_iff.mp head
      rw [Parameter.toList_render typed, same, List.cons_append, List.all_cons, visible,
        Bool.false_and]
    have read := mapM_readParameter legible (by decide : [] ∈ leads)
    rw [listed, readParameters, splitOutside_whole (here.skim_render (by decide)),
      Option.bind_some, List.getLastD_cons, List.getLastD_nil, filled]
    exact read
  case cons.cons =>
    -- The last piece is the line feed behind the last comma.
    have read := mapM_readParameter legible (by decide : "\n    ".toList ∈ leads)
    rw [listed_several, readParameters, splitOutside_lines legible, Option.bind_some,
      List.getLastD_concat, if_pos (by decide), List.dropLast_concat, read]

theorem skim_lines {parameters : List Parameter} (legible : ∀ p ∈ parameters, p.Legible) :
    skim ')' [] (String.join (parameters.map fun parameter =>
      indentation ++ parameter.render ++ ",\n")).toList = some [] := by
  have pad : skim ')' [] indentation.toList = some [] := by decide
  have comma : skim ')' [] ",\n".toList = some [] := by decide
  induction parameters with
  | nil => rfl
  | cons first rest ih =>
    obtain ⟨here, behind⟩ := List.forall_mem_cons.mp legible
    have line : skim ')' [] (indentation ++ first.render ++ ",\n").toList = some [] := by
      rw [String.toList_append, String.toList_append]
      exact skim_both (skim_both pad (here.skim_render (by decide))) comma
    rw [List.map_cons, String.join_cons]
    exact String.toList_append ▸ skim_both line (ih behind)

theorem skim_listed {parameters : List Parameter} (legible : ∀ p ∈ parameters, p.Legible) :
    skim ')' [] (listed parameters) = some [] := by
  rcases parameters with _ | ⟨first, _ | ⟨second, rest⟩⟩
  case nil => rfl
  case cons.nil => exact (List.forall_mem_cons.mp legible).1.skim_render (by decide)
  case cons.cons =>
    have feed : skim ')' [] ['\n'] = some [] := by decide
    exact @skim_both ')' ['\n'] _ feed (skim_lines legible)

theorem Parameter.Legible.noTab (legible : parameter.Legible) :
    '\t' ∉ parameter.render.toList := by
  obtain ⟨type, typed, term⟩ := legible.type
  have name := (IsTerm.word legible.name).noTab
  rw [Parameter.toList_render typed]
  cases given : parameter.default with
  | none => simp [name, term.noTab]
  | some default => simp [name, term.noTab, (legible.default default given).noTab]

theorem noTab_signature {parameters : List Parameter} (legible : ∀ p ∈ parameters, p.Legible) :
    '\t' ∉ (Function.signature parameters).toList := by
  rcases parameters with _ | ⟨first, _ | ⟨second, rest⟩⟩
  case nil => decide
  case cons.nil =>
    have here := (List.forall_mem_cons.mp legible).1.noTab
    simp [Function.signature, here]
  case cons.cons =>
    rw [toList_signature, listed_several]
    generalize first :: second :: rest = parameters at legible
    have lines : ∀ p ∈ parameters, '\t' ∉ (indentation ++ p.render ++ ",\n").toList :=
      fun p member => by simp [indentation, (legible p member).noTab]
    simpa using lines

theorem readNamed_signature {name : String} (identifier : Name.IsIdentifier name)
    {parameters : List Parameter} (legible : ∀ p ∈ parameters, p.Legible) (after : List Char) :
    readNamed (name.toList ++ ((Function.signature parameters).toList ++ after)) =
      some (name, parameters.map Parameter.found) := by
  have shape : (Function.signature parameters).toList ++ after =
      '(' :: (listed parameters ++ ')' :: after) := by
    simp [toList_signature]
  have inside : upTo ')' [] (listed parameters ++ ')' :: after) =
      some (listed parameters, after) := by
    rw [upTo_append (skim_listed legible), upTo, if_pos ⟨rfl, rfl⟩, Option.map_some,
      List.append_nil]
  rw [readNamed, shape, List.dropWhile_append_of_pos identifier.chars,
    List.takeWhile_append_of_pos identifier.chars,
    List.dropWhile_cons_of_neg (by decide), List.takeWhile_cons_of_neg (by decide)]
  simp only [inside, Option.bind_some, readParameters_listed legible, Option.map_some,
    List.append_nil, String.ofList_toList]

theorem render_opens {function : Function} (undecorated : function.decorators = []) :
    ∃ opening ∈ ["async def ", "def "], ∃ rest,
      function.render = expandTabs (opening ++ function.name ++
        Function.signature (Function.sortedParameters function.parameters) ++ rest) := by
  rw [Function.render, Function.header, undecorated, List.map_nil]
  cases function.asynchronous with
  | true =>
    refine ⟨"async def ", by decide, " -> " ++ function.response ++ ":\n" ++
      indent indentation function.body, congrArg expandTabs ?_⟩
    simp only [String.append_assoc]
    rfl
  | false =>
    refine ⟨"def ", by decide, " -> " ++ function.response ++ ":\n" ++
      indent indentation function.body, congrArg expandTabs ?_⟩
    simp only [String.append_assoc]
    rfl

-- No tab stands in the header, so it is written as it is.
theorem toList_expandTabs_header {opening name : String} {parameters : List Parameter}
    (plain : '\t' ∉ opening.toList) (named : Name.IsIdentifier name)
    (legible : ∀ parameter ∈ parameters, parameter.Legible) (rest : String) :
    (expandTabs (opening ++ name ++ Function.signature parameters ++ rest)).toList =
      opening.toList ++ (name.toList ++
        ((Function.signature parameters).toList ++ (expandTabs rest).toList)) := by
  have noTab : '\t' ∉ (opening ++ name ++ Function.signature parameters).toList := by
    simp [plain, (IsTerm.word named).noTab, noTab_signature legible]
  rw [expandTabs_append, expandTabs_of_noTab noTab]
  simp

theorem readHeader_render {function : Function} (named : Name.IsIdentifier function.name)
    (undecorated : function.decorators = [])
    (legible : ∀ parameter ∈ function.parameters, parameter.Legible) :
    readHeader function.render = some (function.name,
      (Function.sortedParameters function.parameters).map Parameter.found) := by
  have sorted : ∀ p ∈ Function.sortedParameters function.parameters, p.Legible :=
    fun p member => legible p ((Function.sortedParameters_perm _).mem_iff.mp member)
  obtain ⟨opening, known, rest, text⟩ := render_opens undecorated
  rw [readHeader, text]
  rcases List.mem_pair.mp known with rfl | rfl
  · rw [toList_expandTabs_header (by decide) named sorted,
      List.dropPrefix?_append_of_beq _ (by decide), Option.some_or, Option.bind_some,
      readNamed_signature named sorted]
  · have other (more : List Char) :
        ("def ".toList ++ more).dropPrefix? "async def ".toList = none := rfl
    rw [toList_expandTabs_header (by decide) named sorted, other,
      List.dropPrefix?_append_of_beq _ (by decide), Option.none_or, Option.bind_some,
      readNamed_signature named sorted]

end Parameters

end Code

namespace MappedType

open Code

theorem Written.isTerm {mapped : MappedType} (written : mapped.Written) :
    IsTerm mapped.expression.render := by
  cases written with
  | @format format name kind known =>
    rw [Expression.render_ofText]
    refine .word ((?_ : ∀ entry ∈ _, Name.IsIdentifier entry.2.1) _ (Entries.mem_of_get? known))
    decide
  | single type owned =>
    change IsTerm (instanceType type).1.render
    cases type with
    | array =>
      rw [instanceType, Expression.render_wrapText]
      exact .wrap "List" (by decide) (.word (by decide))
    | object =>
      have text : (instanceType .object).1.render = "Dict[str, str]" := by decide +kernel
      rw [text]
      exact ⟨by decide, ⟨'D', by decide, by decide⟩, ⟨']', by decide, by decide⟩, by decide⟩
    | _ =>
      rw [instanceType, Expression.render_ofText]
      exact .word (by decide)
  | records pointer =>
    rw [Expression.render_wrapText]
    exact .wrap "List" (by decide) (.modelPath pointer)
  | record pointer =>
    rw [MappedType.record, Expression.render_ofText]
    exact .modelPath pointer

theorem Written.isTerm_wrapOptional {mapped : MappedType} (written : mapped.Written)
    (required : Bool) : IsTerm (mapped.wrapOptional required).expression.render := by
  rw [written.render_wrapOptional]
  split
  next => exact written.isTerm
  next => exact .wrap "Optional" (by decide) written.isTerm

end MappedType
end OpenApiClient
