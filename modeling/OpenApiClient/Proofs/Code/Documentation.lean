import OpenApiClient.Code.Function
import OpenApiClient.Proofs.Code.Bindings
import OpenApiClient.Proofs.Code.Sections
import OpenApiClient.Proofs.Code.TripleQuoted
import OpenApiClient.Proofs.Text.Printable

set_option autoImplicit false

namespace OpenApiClient.Code

open Text

section Escaping

def escaped : List Char → List Char
  | '\\' :: rest => '\\' :: '\\' :: escaped rest
  | '"' :: '"' :: '"' :: rest => '\\' :: '"' :: '\\' :: '"' :: '\\' :: '"' :: escaped rest
  | c :: rest => c :: escaped rest
  | [] => []

theorem not_threeQuotes_prefix_iff {c : Char} {rest : List Char} :
    ¬ threeQuotes <+: c :: rest ↔ ∀ more, c = '"' → rest = '"' :: '"' :: more → False := by
  constructor
  · rintro outside more rfl rfl
    exact outside ⟨more, rfl⟩
  · rintro other ⟨more, same⟩
    obtain ⟨rfl, rfl⟩ := List.cons.inj same
    exact other more rfl rfl

theorem escaped_cons {c : Char} {rest : List Char} (noEscape : c ≠ '\\')
    (outside : ¬ threeQuotes <+: c :: rest) : escaped (c :: rest) = c :: escaped rest :=
  escaped.eq_3 c rest noEscape (not_threeQuotes_prefix_iff.mp outside)

theorem escapeTripleQuotes_cons {c : Char} {rest : List Char}
    (outside : ¬ threeQuotes <+: c :: rest) :
    escapeTripleQuotes (c :: rest) = c :: escapeTripleQuotes rest :=
  escapeTripleQuotes.eq_2 c rest (not_threeQuotes_prefix_iff.mp outside)

theorem escapeBackslashes_cons {c : Char} (noEscape : c ≠ '\\') (rest : List Char) :
    escapeBackslashes (c :: rest) = c :: escapeBackslashes rest := by
  rw [escapeBackslashes, replaceChar, List.flatMap_cons, if_neg noEscape]
  rfl

def CopiesOrEscapes (rewrite : List Char → List Char) : Prop :=
  ∀ cs, rewrite cs = [] ∨ (rewrite cs).head? = some '\\' ∨
    ∃ c rest, cs = c :: rest ∧ rewrite cs = c :: rewrite rest

theorem CopiesOrEscapes.prefix_of_prefix {rewrite : List Char → List Char}
    (copies : CopiesOrEscapes rewrite) {part cs : List Char} (noEscape : '\\' ∉ part)
    (opens : part <+: rewrite cs) : part <+: cs := by
  induction part generalizing cs with
  | nil => exact List.nil_prefix
  | cons first part ih =>
    obtain ⟨other, later⟩ := not_or.mp (mt List.mem_cons.mpr noEscape)
    obtain nothing | escape | ⟨c, rest, rfl, same⟩ := copies cs
    · rw [nothing] at opens
      exact absurd (List.prefix_nil.mp opens) (List.cons_ne_nil _ _)
    · obtain ⟨more, shape⟩ := opens
      rw [← shape] at escape
      exact absurd (Option.some.inj escape).symm other
    · rw [same] at opens
      obtain ⟨rfl, behind⟩ := List.cons_prefix_cons.mp opens
      exact List.cons_prefix_cons.mpr ⟨rfl, ih later behind⟩

theorem copies_escapeBackslashes : CopiesOrEscapes escapeBackslashes := by
  intro cs
  cases cs with
  | nil => exact .inl rfl
  | cons c rest =>
    by_cases escape : c = '\\'
    · subst escape
      exact .inr (.inl rfl)
    · exact .inr (.inr ⟨c, rest, rfl, escapeBackslashes_cons escape rest⟩)

theorem copies_escaped : CopiesOrEscapes escaped := by
  intro cs
  fun_cases escaped cs with
  | case1 rest => exact .inr (.inl rfl)
  | case2 rest => exact .inr (.inl rfl)
  | case3 c rest noEscape noQuotes =>
    exact .inr (.inr ⟨c, rest, rfl, rfl⟩)
  | case4 => exact .inl rfl

theorem escapeTripleQuotes_escapeBackslashes (cs : List Char) :
    escapeTripleQuotes (escapeBackslashes cs) = escaped cs := by
  fun_induction escaped cs with
  | case1 rest ih =>
    rw [← ih]
    rfl
  | case2 rest ih =>
    rw [← ih]
    rfl
  | case3 c rest noEscape noQuotes ih =>
    have outside : ¬ threeQuotes <+: c :: escapeBackslashes rest := fun opens => by
      rw [← escapeBackslashes_cons noEscape] at opens
      exact not_threeQuotes_prefix_iff.mpr noQuotes
        (copies_escapeBackslashes.prefix_of_prefix (by decide) opens)
    rw [escapeBackslashes_cons noEscape, escapeTripleQuotes_cons outside, ih]
  | case4 => rfl

theorem escaped_append {c : Char} (before behind : List Char) (other : c ≠ '"')
    (noEscape : c ≠ '\\') :
    escaped (before ++ c :: behind) = escaped before ++ c :: escaped behind := by
  fun_induction escaped before with
  | case1 rest ih => exact congrArg ('\\' :: '\\' :: ·) ih
  | case2 rest ih => exact congrArg ('\\' :: '"' :: '\\' :: '"' :: '\\' :: '"' :: ·) ih
  | case3 d rest noEscape' noQuotes ih =>
    have absent : c ∉ threeQuotes := by simp [threeQuotes, other]
    have outside : ¬ threeQuotes <+: d :: (rest ++ c :: behind) := fun opens =>
      not_threeQuotes_prefix_iff.mpr noQuotes (prefix_of_prefix_append absent opens)
    rw [List.cons_append, escaped_cons noEscape' outside, ih, List.cons_append]
  | case4 =>
    exact escaped_cons noEscape fun opens => other (threeQuotes_prefix_cons opens)

theorem mem_of_mem_escaped {cs : List Char} {c : Char} (member : c ∈ escaped cs) :
    c ∈ cs ∨ c = '\\' ∨ c = '"' := by
  fun_induction escaped cs <;> simp_all <;> tauto

theorem keepsBlanks_escaped : KeepsBlanks escaped where
  nil := rfl
  around before behind blank := by
    refine escaped_append before behind ?_ ?_
    · rintro rfl
      exact absurd blank (by decide)
    · rintro rfl
      exact absurd blank (by decide)
  mem member blank := by
    obtain inside | rfl | rfl := mem_of_mem_escaped member
    · exact inside
    · exact absurd blank (by decide)
    · exact absurd blank (by decide)
  ne_nil {cs} filled := by
    fun_cases escaped cs with
    | case4 => exact absurd rfl filled
    | _ => exact List.cons_ne_nil _ _

end Escaping

section Reading

variable {named : List Char → Option Nat}

theorem readBody_escaped {text : List Char} (native : ∀ c ∈ text, isForeign c = false) {next : Char}
    (ends : next ≠ '"') (more : List Char) :
    readBody named (escaped text ++ next :: more) =
      follow (codePoints text) (readBody named (next :: more)) := by
  fun_induction escaped text with
  | case1 rest ih =>
    have tail := ih (List.forall_mem_cons.mp native).2
    rw [List.cons_append, List.cons_append, readBody_escape rfl, tail, follow_follow]
    rfl
  | case2 rest ih =>
    have tail := ih fun c member => native c (by simp [member])
    simp only [List.cons_append]
    rw [readBody_escape rfl, readBody_escape rfl, readBody_escape rfl, tail, follow_follow,
      follow_follow, follow_follow]
    rfl
  | case3 c rest noEscape noQuotes ih =>
    obtain ⟨here, later⟩ := List.forall_mem_cons.mp native
    -- Three quotes here would stand in the text, where they are escaped.
    have outside : ¬ threeQuotes <+: c :: (escaped rest ++ next :: more) := fun opens => by
      have inText : threeQuotes <+: c :: escaped rest :=
        prefix_of_prefix_append (by simp [threeQuotes, ends]) opens
      rw [← escaped.eq_3 c rest noEscape noQuotes] at inText
      exact not_threeQuotes_prefix_iff.mpr noQuotes
        (copies_escaped.prefix_of_prefix (by decide) inText)
    rw [List.cons_append, readBody_char outside noEscape here, ih later, follow_follow]
    rfl
  | case4 => exact (follow_nil _).symm

theorem readBody_escaped_line {line : List Char} (native : ∀ c ∈ line, isForeign c = false)
    (more : List Char) :
    readBody named (escaped line ++ '\n' :: more) =
      follow (codePoints (line ++ ['\n'])) (readBody named more) := by
  rw [readBody_escaped native (by decide), readBody_inert (by decide), follow_follow, codePoints,
    codePoints, List.map_append]
  rfl

theorem readBody_escaped_foreign {text : List Char} {c : Char} (inside : c ∈ text)
    (foreign : isForeign c = true) (more : List Char) :
    readBody named (escaped text ++ more) = none := by
  cases found : text.find? isForeign with
  | none => exact absurd foreign (List.find?_eq_none.mp found c inside)
  | some first =>
    obtain ⟨foreign, before, behind, rfl, native⟩ := List.find?_eq_some_iff_append.mp found
    have other {d : Char} (native : isForeign d = false) : first ≠ d := by
      rintro rfl
      exact Bool.false_ne_true (native.symm.trans foreign)
    rw [escaped_append _ _ (other (by decide)) (other (by decide)), List.append_assoc,
      List.cons_append, readBody_escaped (by simpa using native) (other (by decide)),
      readBody_foreign foreign]
    rfl

end Reading

section Docstring

def shownDescription (description : Option String) : List String :=
  if filled description then splitLines (strip (description.getD "")) else []

def argumentLine (argument : String × Option String) : String :=
  indentation ++ argument.1 ++ ": " ++ collapseBlanks (argument.2.getD "")

def described (arguments : List (String × Option String)) : List (String × Option String) :=
  arguments.filter fun argument => filled argument.2

def argumentSection (spaced : Bool) (arguments : List (String × Option String)) : List String :=
  if (described arguments).isEmpty then []
  else
    (if spaced then [""] else []) ++ ["Args:"] ++ (described arguments).map argumentLine

def shownLines (description : Option String) (arguments : List (String × Option String)) :
    List String :=
  shownDescription description ++ argumentSection (filled description) arguments

/-- What documentation is read as. -/
def shownText (description : Option String) (arguments : List (String × Option String)) :
    List Char :=
  '\n' :: unlines ((shownLines description arguments).map String.toList)

theorem toList_descriptionLines (description : String) :
    (descriptionLines description).map String.toList =
      ((splitLines (strip description)).map String.toList).map escaped := by
  simp only [descriptionLines, splitLines, strip, escapeDescription, String.toList_ofList,
    escapeTripleQuotes_escapeBackslashes, keepsBlanks_escaped.trim_rewrite,
    keepsBlanks_escaped.lines_rewrite, List.map_map, Function.comp_def]

theorem docstring_eq {description : Option String} {arguments : List (String × Option String)}
    (spoken : filled description = true ∨ described arguments ≠ []) :
    docstring description arguments =
      String.intercalate "\n" ([tripleQuote] ++
        (if filled description then descriptionLines (description.getD "") else []) ++
          argumentSection (filled description) arguments ++ [tripleQuote]) := by
  have quiet : ¬ (!filled description && (described arguments).isEmpty) = true := by
    simpa [Classical.or_iff_not_imp_left] using spoken
  rw [docstring, ← described, if_neg quiet]
  rfl

theorem toList_docstring {description : Option String} {arguments : List (String × Option String)}
    (spoken : filled description = true ∨ described arguments ≠ []) :
    (docstring description arguments).toList =
      threeQuotes ++ '\n' ::
        (unlines (((shownDescription description).map String.toList).map escaped) ++
          (unlines ((argumentSection (filled description) arguments).map String.toList) ++
            threeQuotes)) := by
  have about : (if filled description then descriptionLines (description.getD "") else []).map
      String.toList = ((shownDescription description).map String.toList).map escaped := by
    rw [shownDescription]
    split
    next => exact toList_descriptionLines _
    next => rfl
  rw [docstring_eq spoken, toList_intercalate_lines, List.map_append, List.map_append, about,
    unlines_append, unlines_append, List.append_assoc, List.append_assoc]
  rfl

theorem unbroken_shownDescription {description : Option String} :
    ∀ line ∈ shownDescription description, ∀ c ∈ line.toList, isLineBreak c = false := by
  rw [shownDescription]
  split
  next =>
    rw [splitLines, List.forall_mem_map]
    intro line inside
    rw [String.toList_ofList]
    exact unbroken_of_mem_lines line inside
  next => exact List.forall_mem_nil _

theorem native_shownDescription_iff {description : Option String} :
    (∀ line ∈ (shownDescription description).map String.toList, ∀ c ∈ line, isForeign c = false) ↔
      '\x00' ∉ (description.getD "").toList := by
  have held : '\x00' ∈ (description.getD "").toList ↔
      ∃ line ∈ shownDescription description, '\x00' ∈ line.toList := by
    rw [shownDescription]
    split
    next =>
      rw [← mem_trim_iff (by decide), ← mem_lines_iff (by decide)]
      simp [splitLines, strip]
    next absent =>
      cases description with
      | none => simp
      | some text =>
        have nothing : text = "" := by simpa [filled] using absent
        simp [nothing]
  rw [held, List.forall_mem_map]
  constructor
  · rintro native ⟨line, inside, member⟩
    exact absurd (native line inside _ member) (by decide)
  · intro absent line inside c member
    have unbroken := unbroken_shownDescription line inside c member
    refine Bool.eq_false_iff.mpr fun foreign => ?_
    simp only [isForeign, Bool.or_eq_true, beq_iff_eq] at foreign
    rcases foreign with rfl | rfl
    · exact absent ⟨line, inside, member⟩
    · exact absurd unbroken (by decide)

theorem unlines_escaped (lines : List (List Char)) :
    unlines (lines.map escaped) = escaped (unlines lines) := by
  induction lines with
  | nil => rfl
  | cons line rest ih =>
    rw [List.map_cons, unlines, unlines, escaped_append _ _ (by decide) (by decide), ih]

theorem readLiteral_docstring_null {named : List Char → Option Nat} {description : Option String}
    {arguments : List (String × Option String)}
    (spoken : filled description = true ∨ described arguments ≠ [])
    (null : '\x00' ∈ (description.getD "").toList) :
    readLiteral named (docstring description arguments).toList = none := by
  have broken := mt native_shownDescription_iff.mp (not_not_intro null)
  simp only [not_forall, Bool.not_eq_false] at broken
  obtain ⟨line, inside, c, member, foreign⟩ := broken
  obtain ⟨before, behind, shape⟩ := List.append_of_mem inside
  have text : c ∈ unlines ((shownDescription description).map String.toList) := by
    rw [shape, unlines_append, unlines]
    simp [member]
  rw [toList_docstring spoken, readLiteral_append, readBody_inert (by decide), unlines_escaped,
    readBody_escaped_foreign text foreign]
  rfl

theorem docstring_isLiteral_iff {named : List Char → Option Nat} {description : Option String}
    {arguments : List (String × Option String)}
    (spoken : filled description = true ∨ described arguments ≠ [])
    (whole : '\x00' ∉ (description.getD "").toList) :
    IsLiteral named (docstring description arguments) (shownText description arguments) ↔
      ∀ line ∈ argumentSection (filled description) arguments,
        Verbatim (line.toList ++ ['\n']) := by
  have shape : shownText description arguments =
      '\n' :: unlines ((shownDescription description).map String.toList) ++
        unlines ((argumentSection (filled description) arguments).map String.toList) := by
    rw [shownText, shownLines, List.map_append, unlines_append, List.cons_append]
  have about := @readBody_unlines named escaped _ fun line inside =>
    readBody_escaped_line (native_shownDescription_iff.mpr whole line inside)
  rw [IsLiteral, toList_docstring spoken, readLiteral_append, readBody_inert (by decide), about,
    follow_follow, shape]
  exact (follow_codePoints_iff ('\n' :: unlines _) _).trans
    (readBody_closed_iff.trans List.forall_mem_map)

/-- A description without a null character is shown line by line, whatever else it holds. -/
theorem docstring_description (named : List Char → Option Nat) {description : String}
    (present : description ≠ "") {arguments : List (String × Option String)}
    (undescribed : ∀ argument ∈ arguments, filled argument.2 = false) {text : List Char} :
    IsLiteral named (docstring (some description) arguments) text ↔
      '\x00' ∉ description.toList ∧
        text = '\n' :: unlines ((splitLines (strip description)).map String.toList) := by
  have spoken : filled (some description) = true := decide_eq_true present
  have nothing : argumentSection true arguments = [] := by
    have absent : described arguments = [] :=
      List.filter_eq_nil_iff.mpr fun argument inside =>
        Bool.eq_false_iff.mp (undescribed argument inside)
    rw [argumentSection, absent]
    rfl
  have shown : shownText (some description) arguments =
      '\n' :: unlines ((splitLines (strip description)).map String.toList) := by
    rw [shownText, shownLines, spoken, nothing, List.append_nil, shownDescription, spoken,
      if_pos rfl]
    rfl
  have read (whole : '\x00' ∉ description.toList) :
      IsLiteral named (docstring (some description) arguments)
        (shownText (some description) arguments) := by
    refine (docstring_isLiteral_iff (.inl spoken) whole).mpr fun line inside => ?_
    rw [spoken, nothing] at inside
    cases inside
  rw [shown] at read
  constructor
  · intro literal
    have whole : '\x00' ∉ description.toList := fun null => by
      rw [IsLiteral, readLiteral_docstring_null (.inl spoken) null] at literal
      cases literal
    exact ⟨whole, literal.unique (read whole)⟩
  · rintro ⟨whole, rfl⟩
    exact read whole

def quotedText : String := " Say \"\"\"\"hi\\\"\"\" \\n\r\nin C:\\dir\\ "

theorem docstring_description_quotes :
    IsLiteral (fun _ => none) (docstring (some quotedText) [("size", none)])
      "\nSay \"\"\"\"hi\\\"\"\" \\n\nin C:\\dir\\\n".toList :=
  (docstring_description (fun _ => none) (by decide) (by decide)).mpr
    ⟨by decide, by decide +kernel⟩

theorem docstring_description_null :
    ¬ ∃ named text, IsLiteral named (docstring (some "a\x00b") []) text := by
  rintro ⟨named, text, literal⟩
  rw [IsLiteral, readLiteral_docstring_null (.inl (by decide)) (by decide)] at literal
  cases literal

theorem verbatim_argumentLine_iff {argument : String × Option String}
    (identifier : Name.IsIdentifier argument.1) :
    Verbatim ((argumentLine argument).toList ++ ['\n']) ↔
      Verbatim ((collapseBlanks (argument.2.getD "")).toList ++ ['\n']) := by
  have name : argument.1.toList.all isInert = true := by
    refine List.all_eq_true.mpr fun c member => ?_
    have word := identifier.chars c member
    have other {d : Char} (outside : Name.isNameChar d = false) : c ≠ d := by
      rintro rfl
      exact Bool.false_ne_true (outside.symm.trans word)
    exact isInert_iff.mpr ⟨other (by decide), other (by decide), by
      simp [isForeign, @other '\x00' (by decide), @other '\r' (by decide)]⟩
  have inert : (indentation.toList ++ argument.1.toList ++ ": ".toList).all isInert = true := by
    rw [List.all_append, List.all_append, name]
    decide
  rw [argumentLine, String.toList_append, String.toList_append, String.toList_append,
    List.append_assoc]
  exact Verbatim.plain_append_iff inert

theorem verbatim_argumentSection_iff {spaced : Bool} {arguments : List (String × Option String)} :
    (∀ line ∈ argumentSection spaced arguments, Verbatim (line.toList ++ ['\n'])) ↔
      ∀ argument ∈ described arguments, Verbatim ((argumentLine argument).toList ++ ['\n']) := by
  rw [argumentSection]
  split
  next nothing =>
    rw [List.isEmpty_iff.mp nothing]
    exact iff_of_true (List.forall_mem_nil _) (List.forall_mem_nil _)
  next =>
    have heading : ∀ line ∈ (if spaced then [""] else []) ++ ["Args:"],
        Verbatim (line.toList ++ ['\n']) := by
      cases spaced <;> decide
    rw [List.forall_mem_append, List.forall_mem_map]
    exact and_iff_right heading

theorem isLineBreak_of_isNameChar {c : Char} (word : Name.isNameChar c = true) :
    isLineBreak c = false :=
  isLineBreak_of_isPrintable (isPrintable_of_isNameChar word)

theorem unbroken_of_all {text : String} (plain : text.toList.all (! isLineBreak ·) = true) :
    ∀ c ∈ text.toList, isLineBreak c = false := by
  simpa using plain

theorem unbroken_argumentLine {argument : String × Option String}
    (identifier : Name.IsIdentifier argument.1) :
    ∀ c ∈ (argumentLine argument).toList, isLineBreak c = false := by
  rw [argumentLine, String.toList_append, String.toList_append, String.toList_append]
  simp only [List.forall_mem_append]
  refine ⟨⟨⟨unbroken_of_all (by decide), fun c member => ?_⟩, unbroken_of_all (by decide)⟩,
    fun c member => ?_⟩
  · exact isLineBreak_of_isNameChar (identifier.chars c member)
  · obtain rfl | visible := mem_collapseBlanks member
    · rfl
    · exact Bool.eq_false_iff.mpr fun breaks =>
        Bool.false_ne_true (visible.symm.trans (isBlank_of_isLineBreak breaks))

theorem unbroken_argumentSection {spaced : Bool} {arguments : List (String × Option String)}
    (identifiers : ∀ argument ∈ arguments, Name.IsIdentifier argument.1) :
    ∀ line ∈ argumentSection spaced arguments, ∀ c ∈ line.toList, isLineBreak c = false := by
  rw [argumentSection]
  split
  next => exact List.forall_mem_nil _
  next =>
    have heading : ∀ line ∈ (if spaced then [""] else []) ++ ["Args:"],
        line.toList.all (! isLineBreak ·) = true := by
      cases spaced <;> decide
    refine List.forall_mem_append.mpr
      ⟨fun line inside => unbroken_of_all (heading line inside), List.forall_mem_map.mpr ?_⟩
    exact fun argument inside =>
      unbroken_argumentLine (identifiers argument (List.mem_filter.mp inside).1)

theorem lines_shownText {description : Option String} {arguments : List (String × Option String)}
    (identifiers : ∀ argument ∈ arguments, Name.IsIdentifier argument.1) :
    (lines (shownText description arguments)).map Line.body =
      [] :: (shownLines description arguments).map String.toList := by
  have unbroken : ∀ text ∈ [] :: (shownLines description arguments).map String.toList,
      ∀ c ∈ text, isLineBreak c = false := by
    rw [List.forall_mem_cons, List.forall_mem_map, shownLines, List.forall_mem_append]
    exact ⟨List.forall_mem_nil _, unbroken_shownDescription,
      unbroken_argumentSection identifiers⟩
  have read := lines_unlines unbroken
  rw [unlines, List.nil_append] at read
  rw [shownText, read, List.map_map, Function.comp_def, List.map_id']

end Docstring

namespace Function

def documentedArguments (function : Function) : List (String × Option String) :=
  (sortedParameters function.parameters).map fun parameter =>
    (parameter.name, parameter.description)

def documentation (function : Function) : String :=
  docstring function.description function.documentedArguments

theorem body_eq (function : Function) :
    function.body = joinFilled "\n\n" [function.documentation, function.code.render] := rfl

theorem forall_mem_documentedArguments {function : Function}
    {holds : String × Option String → Prop} :
    (∀ argument ∈ function.documentedArguments, holds argument) ↔
      ∀ parameter ∈ function.parameters, holds (parameter.name, parameter.description) := by
  simp only [documentedArguments, List.forall_mem_map, (sortedParameters_perm _).mem_iff]

/-- The documentation of a function with a described parameter is one literal that shows the
description and a line for each described parameter exactly when the description holds no null
character and each of these lines is read as itself. Where the parameters have proper names, that is
up to their descriptions, and each of the lines is a line of what is read. -/
theorem documentation_shown {named : List Char → Option Nat} {function : Function}
    (documented : ∃ parameter ∈ function.parameters, filled parameter.description = true) :
    (IsLiteral named function.documentation
        (shownText function.description function.documentedArguments) ↔
      '\x00' ∉ (function.description.getD "").toList ∧
        ∀ argument ∈ described function.documentedArguments,
          Verbatim ((argumentLine argument).toList ++ ['\n'])) ∧
    ((∀ parameter ∈ function.parameters, Name.IsIdentifier parameter.name) →
      (∀ argument ∈ described function.documentedArguments,
        (Verbatim ((argumentLine argument).toList ++ ['\n']) ↔
          Verbatim ((collapseBlanks (argument.2.getD "")).toList ++ ['\n']))) ∧
      (lines (shownText function.description function.documentedArguments)).map Line.body =
        [] :: (shownDescription function.description ++
          ((if filled function.description then [""] else []) ++ ["Args:"] ++
            (described function.documentedArguments).map argumentLine)).map String.toList) := by
  have spoken : described function.documentedArguments ≠ [] := by
    obtain ⟨parameter, inside, present⟩ := documented
    intro nothing
    exact forall_mem_documentedArguments.mp (List.filter_eq_nil_iff.mp nothing) parameter inside
      present
  have listed : argumentSection (filled function.description) function.documentedArguments =
      (if filled function.description then [""] else []) ++ ["Args:"] ++
        (described function.documentedArguments).map argumentLine := by
    rw [argumentSection, if_neg (mt List.isEmpty_iff.mp spoken)]
  refine ⟨?_, fun identifiers => ?_⟩
  · by_cases null : '\x00' ∈ (function.description.getD "").toList
    · refine iff_of_false (fun literal => ?_) fun clean => clean.1 null
      rw [documentation, IsLiteral, readLiteral_docstring_null (.inr spoken) null] at literal
      cases literal
    · rw [documentation, docstring_isLiteral_iff (.inr spoken) null, verbatim_argumentSection_iff,
        and_iff_right null]
  · have words : ∀ argument ∈ function.documentedArguments, Name.IsIdentifier argument.1 :=
      forall_mem_documentedArguments.mpr identifiers
    constructor
    · intro argument inside
      exact verbatim_argumentLine_iff (words argument (List.mem_filter.mp inside).1)
    · rw [lines_shownText words, shownLines, listed]

def withSize (description size : String) : Function :=
  ⟨"get_items", [⟨"size", none, none, some size, 0⟩], "None", true, [], some description,
    Block.standard, 0⟩

def matchingDigits : Function := withSize "All \"\"\"items\"\"\"" "Matches  \"\\d\""

theorem documentation_matchingDigits :
    IsLiteral (fun _ => none) matchingDigits.documentation
        "\nAll \"\"\"items\"\"\"\n\nArgs:\n    size: Matches \"\\d\"\n".toList ∧
      (lines "\nAll \"\"\"items\"\"\"\n\nArgs:\n    size: Matches \"\\d\"\n".toList).map Line.body =
        ["", "All \"\"\"items\"\"\"", "", "Args:", "    size: Matches \"\\d\""].map
          String.toList := by
  obtain ⟨literal, proper⟩ := @documentation_shown (fun _ => none) matchingDigits (by decide)
  have read := literal.mpr (by decide)
  have lined := (proper (by decide)).2
  have shown : shownText matchingDigits.description matchingDigits.documentedArguments =
      "\nAll \"\"\"items\"\"\"\n\nArgs:\n    size: Matches \"\\d\"\n".toList := by
    decide +kernel
  rw [shown] at read lined
  exact ⟨read, lined.trans (by decide +kernel)⟩

def pageSize : Function := withSize "All items" "Size \"\"\" of a page"

/-- Three quotes in the description of a parameter end the literal before its last character. -/
theorem documentation_pageSize :
    ¬ ∃ named value, readLiteral named pageSize.documentation.toList = some (value, []) := by
  rintro ⟨named, value, whole⟩
  have written : pageSize.documentation.toList =
      threeQuotes ++ ("\nAll items\n\nArgs:\n    size: Size ".toList ++
        (threeQuotes ++ " of a page\n\"\"\"".toList)) := by
    rw [documentation, toList_docstring (.inl (by decide))]
    decide +kernel
  rw [written, readLiteral_append, readBody_plain (by decide), readBody_closing,
    follow_eq_some_iff] at whole
  obtain ⟨later, read, -⟩ := whole
  cases read

end Function

end OpenApiClient.Code
