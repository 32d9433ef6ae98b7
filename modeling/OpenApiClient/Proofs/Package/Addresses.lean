import OpenApiClient.Proofs.Package.Literals

set_option autoImplicit false

namespace OpenApiClient

namespace Text

inductive Brace where
  | outside
  -- Behind an opening brace and these characters of a name.
  | opened (name : List Char)
  -- Behind a closing brace that must be one of two.
  | closed

/-- A format string read with a value for each name: two braces are one, and a name in braces is
its value. -/
def readFormat (value : String → String) : Brace → List Char → Option (List Char)
  | .outside, [] => some []
  | .outside, c :: rest =>
      if c = '\x7b' then readFormat value (.opened []) rest
      else if c = '\x7d' then readFormat value .closed rest
      else (readFormat value .outside rest).map (c :: ·)
  | .opened name, c :: rest =>
      if c = '\x7b' then
        if name = [] then (readFormat value .outside rest).map (c :: ·) else none
      else if c = '\x7d' then
        if name = [] then none
        else (readFormat value .outside rest).map ((value (String.ofList name)).toList ++ ·)
      else readFormat value (.opened (name ++ [c])) rest
  | .closed, c :: rest =>
      if c = '\x7d' then (readFormat value .outside rest).map (c :: ·) else none
  | .opened _, [] => none
  | .closed, [] => none

def FitsBraces (name : List Char) : Prop := name ≠ [] ∧ '\x7b' ∉ name ∧ '\x7d' ∉ name

instance (name : List Char) : Decidable (FitsBraces name) :=
  inferInstanceAs (Decidable (name ≠ [] ∧ '\x7b' ∉ name ∧ '\x7d' ∉ name))

def OpensPlaceholder (cs : List Char) : Prop :=
  ∃ name rest, cs = '\x7b' :: (name ++ '\x7d' :: rest) ∧ '\n' ∉ name

def HasPlaceholder (cs : List Char) : Prop :=
  ∃ before rest, cs = before ++ rest ∧ OpensPlaceholder rest

/-- The second text is the first with its placeholders replaced: from left to right, each one up to
its first closing brace. -/
inductive Replaced (value : List Char → List Char) : List Char → List Char → Prop where
  | nil : Replaced value [] []
  | placeholder {name rest read : List Char} (short : '\x7d' ∉ name) (line : '\n' ∉ name)
      (behind : Replaced value rest read) :
      Replaced value ('\x7b' :: (name ++ '\x7d' :: rest)) (value name ++ read)
  | keep {c : Char} {rest read : List Char} (plain : ¬ OpensPlaceholder (c :: rest))
      (behind : Replaced value rest read) : Replaced value (c :: rest) (c :: read)

theorem closing?_append {name : List Char} (short : '\x7d' ∉ name) (line : '\n' ∉ name)
    (after : List Char) : closing? (name ++ '\x7d' :: after) = some (name, after) := by
  induction name with
  | nil => rfl
  | cons c rest ih =>
    simp only [List.mem_cons, not_or] at short line
    rw [List.cons_append, closing?, if_neg (Ne.symm short.1), if_neg (Ne.symm line.1),
      ih short.2 line.2]
    rfl

theorem plain_of_closing? {cs name after : List Char} (closed : closing? cs = some (name, after)) :
    '\x7d' ∉ name ∧ '\n' ∉ name := by
  induction cs generalizing name with
  | nil => cases closed
  | cons c rest ih =>
    rw [closing?] at closed
    split at closed
    next =>
      cases closed
      simp
    next noBrace =>
      split at closed
      next => cases closed
      next noFeed =>
        obtain ⟨⟨inside, behind⟩, found, same⟩ := Option.map_eq_some_iff.mp closed
        cases same
        simpa [Ne.symm noBrace, Ne.symm noFeed] using ih found

theorem closing?_ne_none {name : List Char} (line : '\n' ∉ name) (after : List Char) :
    closing? (name ++ '\x7d' :: after) ≠ none := by
  induction name with
  | nil => exact Option.some_ne_none _
  | cons c rest ih =>
    simp only [List.mem_cons, not_or] at line
    rw [List.cons_append, closing?]
    split
    next => exact Option.some_ne_none _
    next =>
      rw [if_neg (Ne.symm line.1), Ne, Option.map_eq_none_iff]
      exact ih line.2

theorem opensPlaceholder_iff {c : Char} {rest : List Char} :
    OpensPlaceholder (c :: rest) ↔ c = '\x7b' ∧ closing? rest ≠ none := by
  constructor
  · rintro ⟨name, after, same, line⟩
    obtain ⟨rfl, rfl⟩ := List.cons.inj same
    exact ⟨rfl, closing?_ne_none line after⟩
  · rintro ⟨rfl, closed⟩
    obtain ⟨⟨name, after⟩, found⟩ := Option.ne_none_iff_exists'.mp closed
    exact ⟨name, after, by rw [eq_of_closing? found], (plain_of_closing? found).2⟩

theorem hasPlaceholder_cons {c : Char} {rest : List Char} :
    HasPlaceholder (c :: rest) ↔ OpensPlaceholder (c :: rest) ∨ HasPlaceholder rest := by
  constructor
  · rintro ⟨before, behind, same, opens⟩
    cases before with
    | nil => exact .inl (same ▸ opens)
    | cons d before => exact .inr ⟨before, behind, (List.cons.inj same).2, opens⟩
  · rintro (opens | ⟨before, behind, rfl, opens⟩)
    · exact ⟨[], c :: rest, rfl, opens⟩
    · exact ⟨c :: before, behind, rfl, opens⟩

theorem any_isSlot_consText (c : Char) (segments : List Segment) :
    (consText c segments).any Segment.isSlot = segments.any Segment.isSlot := by
  cases segments with
  | nil => rfl
  | cons segment rest => cases segment <;> rfl

theorem any_isSlot_iff (cs : List Char) :
    (segments cs).any Segment.isSlot = true ↔ HasPlaceholder cs := by
  fun_induction segments cs with
  | case1 =>
    refine iff_of_false Bool.false_ne_true ?_
    rintro ⟨before, rest, same, name, after, rfl, -⟩
    simp at same
  | case2 rest name after closed =>
    refine iff_of_true rfl (hasPlaceholder_cons.mpr (.inl (opensPlaceholder_iff.mpr ⟨rfl, ?_⟩)))
    simp [closed]
  | case3 rest opened ih =>
    rw [any_isSlot_consText, ih, hasPlaceholder_cons, opensPlaceholder_iff]
    simp [opened]
  | case4 c rest other ih =>
    rw [any_isSlot_consText, ih, hasPlaceholder_cons, opensPlaceholder_iff]
    simp [other]

def Segment.fill (value : List Char → List Char) : Segment → List Char
  | .text cs => cs
  | .slot name => value name

theorem flatMap_fill_consText (value : List Char → List Char) (c : Char)
    (segments : List Segment) :
    (consText c segments).flatMap (Segment.fill value) =
      c :: segments.flatMap (Segment.fill value) := by
  cases segments with
  | nil => rfl
  | cons segment rest => cases segment <;> rfl

theorem replaced_segments (value : List Char → List Char) (cs : List Char) :
    Replaced value cs ((segments cs).flatMap (Segment.fill value)) := by
  fun_induction segments cs with
  | case1 => exact .nil
  | case2 rest name after closed ih =>
    obtain ⟨short, line⟩ := plain_of_closing? closed
    rw [eq_of_closing? closed]
    exact .placeholder short line ih
  | case3 rest opened ih =>
    rw [flatMap_fill_consText]
    exact .keep (fun opens => (opensPlaceholder_iff.mp opens).2 opened) ih
  | case4 c rest other ih =>
    rw [flatMap_fill_consText]
    exact .keep (fun opens => other (opensPlaceholder_iff.mp opens).1) ih

theorem Replaced.unique {value : List Char → List Char} {cs read other : List Char}
    (replaced : Replaced value cs read) (again : Replaced value cs other) : other = read := by
  induction replaced generalizing other with
  | nil =>
    cases again
    rfl
  | @placeholder name rest read short line behind ih =>
    generalize same : '\x7b' :: (name ++ '\x7d' :: rest) = cs at again
    cases again with
    | nil => cases same
    | @placeholder name' rest' read' short' line' behind' =>
      -- Both names end at the first closing brace.
      have one := congrArg closing? (List.cons.inj same).2
      rw [closing?_append short line, closing?_append short' line'] at one
      cases one
      rw [ih behind']
    | keep plain behind' => exact absurd ⟨name, rest, same.symm, line⟩ plain
  | @keep c rest read plain behind ih =>
    generalize same : c :: rest = cs at again plain
    cases again with
    | nil => cases same
    | @placeholder name' rest' read' short' line' behind' =>
      exact absurd ⟨name', rest', rfl, line'⟩ plain
    | keep plain' behind' =>
      cases same
      rw [ih behind']

variable {value : String → String}

theorem readFormat_text (cs rest : List Char) :
    readFormat value .outside (cs.flatMap doubleBrace ++ rest) =
      (readFormat value .outside rest).map (cs ++ ·) := by
  induction cs with
  | nil => simp
  | cons c cs ih =>
    -- A brace is written twice and read once.
    have here (more : List Char) : readFormat value .outside (doubleBrace c ++ more) =
        (readFormat value .outside more).map (c :: ·) := by
      rw [doubleBrace]
      split
      next brace => rcases brace with rfl | rfl <;> rfl
      next plain =>
        rw [not_or] at plain
        simp only [List.singleton_append, readFormat, if_neg plain.1, if_neg plain.2]
    rw [List.flatMap_cons, List.append_assoc, here, ih, Option.map_map]
    rfl

theorem readFormat_name {before name : List Char} (fits : FitsBraces (before ++ name))
    (rest : List Char) :
    readFormat value (.opened before) (name ++ '\x7d' :: rest) =
      (readFormat value .outside rest).map
        ((value (String.ofList (before ++ name))).toList ++ ·) := by
  induction name generalizing before with
  | nil =>
    rw [List.append_nil] at fits ⊢
    simp [readFormat, fits.1]
  | cons c name ih =>
    have noBrace : c ≠ '\x7b' ∧ c ≠ '\x7d' := by
      obtain ⟨-, opening, closing⟩ := fits
      simp only [List.mem_append, List.mem_cons, not_or] at opening closing
      exact ⟨Ne.symm opening.2.1, Ne.symm closing.2.1⟩
    rw [List.append_cons before c name] at fits ⊢
    rw [List.cons_append, readFormat, if_neg noBrace.1, if_neg noBrace.2, ih fits]

theorem readFormat_formatChars {segments : List Segment}
    (fits : ∀ name, .slot name ∈ segments → FitsBraces name) :
    readFormat value .outside (segments.flatMap Segment.formatChars) =
      some (segments.flatMap (Segment.fill fun name => (value (String.ofList name)).toList)) := by
  induction segments with
  | nil => rfl
  | cons segment rest ih =>
    have behind := ih fun name member => fits name (List.mem_cons_of_mem _ member)
    rw [List.flatMap_cons, List.flatMap_cons]
    cases segment with
    | text cs => rw [Segment.formatChars, readFormat_text, behind, Option.map_some, Segment.fill]
    | slot name =>
      have opens (more : List Char) : readFormat value .outside ('\x7b' :: more) =
          readFormat value (.opened []) more := rfl
      have named : FitsBraces ([] ++ name) := fits name List.mem_cons_self
      rw [Segment.formatChars, List.cons_append, List.cons_append, List.append_assoc, opens,
        List.singleton_append, readFormat_name named, behind, Option.map_some, Segment.fill,
        List.nil_append]

theorem fill_rename (name : String → String) (segments : List Segment) :
    (segments.map (Segment.rename name)).flatMap
        (Segment.fill fun slot => (value (String.ofList slot)).toList) =
      segments.flatMap (Segment.fill fun slot => (value (name (String.ofList slot))).toList) := by
  rw [List.flatMap_map]
  refine List.flatMap_congr fun segment _ => ?_
  cases segment with
  | text cs => rfl
  | slot slot => simp only [Segment.rename, Segment.fill, String.ofList_toList]

namespace Template

theorem any_isSlot_ofText (name : String → String) (text : String) :
    (ofText name text).segments.any Segment.isSlot = true ↔ HasPlaceholder text.toList := by
  have kept : Segment.isSlot ∘ Segment.rename name = Segment.isSlot := by
    funext segment
    cases segment <;> rfl
  rw [ofText, List.any_map, kept, any_isSlot_iff]

theorem readFormat_ofText {name : String → String} (fits : ∀ key, FitsBraces (name key).toList)
    (text : String) :
    ∃ read, readFormat value .outside (ofText name text).formatChars = some read ∧
      ∀ other, Replaced (fun key => (value (name (String.ofList key))).toList) text.toList other ↔
        other = read := by
  have filled :=
    replaced_segments (fun key => (value (name (String.ofList key))).toList) text.toList
  have named : ∀ slot, .slot slot ∈ (ofText name text).segments → FitsBraces slot := by
    intro slot member
    obtain ⟨source, -, same⟩ := List.mem_map.mp member
    cases source with
    | text cs => cases same
    | slot key =>
      cases same
      exact fits (String.ofList key)
  refine ⟨_, ?_, fun other => ⟨fun replaced => filled.unique replaced, fun same => same ▸ filled⟩⟩
  rw [formatChars, readFormat_formatChars named, ofText, fill_rename]

theorem literal_ofText_of_placeholder {text : String} (has : HasPlaceholder text.toList)
    (name : String → String) :
    (ofText name text).literal =
      "f" ++ Json.literal (String.ofList (ofText name text).formatChars) :=
  if_pos ((any_isSlot_ofText name text).mpr has)

theorem literal_ofText_of_plain {text : String} (plain : ¬ HasPlaceholder text.toList)
    (name : String → String) : (ofText name text).literal = Json.literal text := by
  have noSlot : (Text.segments text.toList).any Segment.isSlot = false :=
    Bool.eq_false_iff.mpr fun some => plain ((any_isSlot_iff _).mp some)
  rw [ofText_of_plain noSlot, literal, if_neg (Bool.eq_false_iff.mp noSlot), plainChars_segments,
    String.ofList_toList]

end Template

theorem fitsBraces_of_isIdentifier {name : String} (identifier : Name.IsIdentifier name) :
    FitsBraces name.toList := by
  refine ⟨identifier.toList_ne_nil, fun opening => ?_, fun closing => ?_⟩
  · exact absurd (identifier.chars _ opening) (by decide)
  · exact absurd (identifier.chars _ closing) (by decide)

end Text

namespace Package

/-- How a name is chosen for a placeholder: by the arguments of a request function for its path, and
by those of a server function for its address. -/
inductive Chooses : (String → String) → Prop where
  | path {named : List Route.Named}
      (fits : ∀ entry ∈ named, Text.FitsBraces entry.identifier.toList) :
      Chooses (Route.placeholderName named)
  | address {arguments : List Servers.Argument}
      (fits : ∀ argument ∈ arguments, Text.FitsBraces argument.identifier.toList) :
      Chooses (Servers.placeholderName arguments)

theorem Chooses.fits {name : String → String} (chooses : Chooses name) (placeholder : String) :
    Text.FitsBraces (name placeholder).toList := by
  cases chooses with
  | path fits =>
    rw [Route.placeholderName]
    split
    next entry found => exact fits entry (List.mem_of_find?_eq_some found)
    next =>
      exact Text.fitsBraces_of_isIdentifier (Route.isArgumentName_parameter placeholder).identifier
  | address fits =>
    rw [Servers.placeholderName]
    split
    next argument found => exact fits argument (List.mem_of_find?_eq_some found)
    next => exact Text.fitsBraces_of_isIdentifier (Name.identifier_word placeholder []).isIdentifier

/-- A path or an address with a placeholder is written as a format string that stands for the text
with its placeholders replaced, and for no other; one without a placeholder as it is. -/
theorem placeholders_replaced {name : String → String} (chooses : Chooses name)
    (value : String → String) (text : String) :
    (Text.HasPlaceholder text.toList →
      (Text.Template.ofText name text).literal =
        "f" ++ Json.literal (String.ofList (Text.Template.ofText name text).formatChars)) ∧
      (∃ read,
        Text.readFormat value .outside (Text.Template.ofText name text).formatChars = some read ∧
        ∀ other,
          Text.Replaced (fun key => (value (name (String.ofList key))).toList) text.toList other ↔
            other = read) ∧
      (¬ Text.HasPlaceholder text.toList →
        (Text.Template.ofText name text).literal = Json.literal text) :=
  ⟨fun has => Text.Template.literal_ofText_of_placeholder has name,
    Text.Template.readFormat_ofText chooses.fits text,
    fun plain => Text.Template.literal_ofText_of_plain plain name⟩

def bracedArguments : List Servers.Argument := [⟨"\x7bid", ⟨"1", none, none⟩, "id"⟩]

theorem placeholders_replaced_braces :
    Chooses (Servers.placeholderName bracedArguments) ∧
      Text.HasPlaceholder "\x7b\x7bid\x7d\x7d\x7b\n\x7bno\x7d".toList ∧
      Text.Replaced
        (fun key =>
          ("<" ++ Servers.placeholderName bracedArguments (String.ofList key) ++ ">").toList)
        "\x7b\x7bid\x7d\x7d\x7b\n\x7bno\x7d".toList "<id>\x7d\x7b\n<no>".toList := by
  have fits : ∀ argument ∈ bracedArguments, Text.FitsBraces argument.identifier.toList := by decide
  have chooses := Chooses.address fits
  obtain ⟨-, ⟨read, reads, unique⟩, -⟩ := placeholders_replaced chooses
    (fun name => "<" ++ name ++ ">") "\x7b\x7bid\x7d\x7d\x7b\n\x7bno\x7d"
  have computed : Text.readFormat (fun name => "<" ++ name ++ ">") .outside
      (Text.Template.ofText (Servers.placeholderName bracedArguments)
        "\x7b\x7bid\x7d\x7d\x7b\n\x7bno\x7d").formatChars = some "<id>\x7d\x7b\n<no>".toList := by
    decide +kernel
  have shown := Option.some.inj (reads.symm.trans computed)
  refine ⟨chooses, ?_, (unique _).mpr shown.symm⟩
  exact (Text.any_isSlot_iff _).mp (by decide +kernel)

end Package
end OpenApiClient
