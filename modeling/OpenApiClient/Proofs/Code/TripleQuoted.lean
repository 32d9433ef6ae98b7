import Mathlib.Data.List.Infix
import OpenApiClient.Proofs.Code.Reader
import OpenApiClient.Proofs.Text.Blanks

set_option autoImplicit false

namespace OpenApiClient.Code

open Text

def threeQuotes : List Char := ['"', '"', '"']

def codePoints (cs : List Char) : List Nat := cs.map Char.toNat

theorem codePoints_injective : Function.Injective codePoints :=
  List.map_injective_iff.mpr fun _ _ => Char.toNat_inj.mp

abbrev Reading := Option (List Nat × List Char)

def octalValue? (c : Char) : Option Nat :=
  if 48 ≤ c.toNat ∧ c.toNat ≤ 55 then some (c.toNat - 48) else none

def numeral? (base : Nat) (digit? : Char → Option Nat) (digits : List Char) : Option Nat :=
  digits.foldlM (fun value c => (digit? c).map (value * base + ·)) 0

def hexEscape (width : Nat) (cs : List Char) : Reading :=
  if cs.length < width then none
  else
    (numeral? 16 hexValue? (cs.take width)).bind fun value =>
      if value < 0x110000 then some ([value], cs.drop width) else none

def octalDigits (cs : List Char) : List Char :=
  (cs.take 3).takeWhile fun c => (octalValue? c).isSome

def octalEscape (cs : List Char) : Reading :=
  if octalDigits cs = [] then none
  else
    (numeral? 8 octalValue? (octalDigits cs)).map fun value =>
      ([value], cs.drop (octalDigits cs).length)

-- Code with a null character is refused, and a carriage return in it is read as a line feed.
def isForeign (c : Char) : Bool := c == '\x00' || c == '\r'

def bracedName (cs : List Char) : List Char := (cs.drop 1).takeWhile (· != '\x7d')

def namedEscape (named : List Char → Option Nat) (cs : List Char) : Reading :=
  match cs.dropWhile (· != '\x7d') with
  | [] => none
  | _ :: rest =>
      if cs.head? = some '\x7b' ∧ (bracedName cs).any isForeign = false then
        (named (bracedName cs)).map fun value => ([value], rest)
      else none

def beginsEscape (c : Char) : Bool :=
  c == '\n' || isForeign c || (escaped? c).isSome || (hexWidth? c).isSome ||
    (octalValue? c).isSome || c == 'N'

def readEscape (named : List Char → Option Nat) (c : Char) (rest : List Char) : Reading :=
  -- A backslash joins its line to the next one.
  if c = '\n' then some ([], rest)
  else
    match escaped? c, hexWidth? c with
    | some value, _ => some ([value], rest)
    | none, some width => hexEscape width rest
    | none, none => if c = 'N' then namedEscape named rest else octalEscape (c :: rest)

def behindBackslash (named : List Char → Option Nat) : List Char → Reading
  | [] => none
  | c :: rest =>
      if beginsEscape c then readEscape named c rest
      -- Before any other character the backslash stands for itself.
      else some ([92, c.toNat], rest)

theorem length_hexEscape {width : Nat} {cs after : List Char} {points : List Nat}
    (read : hexEscape width cs = some (points, after)) :
    points.length + after.length ≤ cs.length + 1 := by
  rw [hexEscape] at read
  split at read
  next => cases read
  next =>
    obtain ⟨value, -, given⟩ := Option.bind_eq_some_iff.mp read
    split at given
    next =>
      cases given
      simp only [List.length_singleton, List.length_drop]
      omega
    next => cases given

theorem length_octalEscape {cs after : List Char} {points : List Nat}
    (read : octalEscape cs = some (points, after)) :
    points.length + after.length ≤ cs.length := by
  rw [octalEscape] at read
  split at read
  next => cases read
  next digits =>
    obtain ⟨value, -, given⟩ := Option.map_eq_some_iff.mp read
    cases given
    have present := List.length_pos_iff.mpr digits
    have inside : (octalDigits cs).length ≤ cs.length :=
      ((List.takeWhile_prefix _).trans (List.take_prefix 3 cs)).length_le
    simp only [List.length_singleton, List.length_drop]
    omega

theorem length_namedEscape {named : List Char → Option Nat} {cs after : List Char}
    {points : List Nat} (read : namedEscape named cs = some (points, after)) :
    points.length + after.length ≤ cs.length + 1 := by
  rw [namedEscape] at read
  split at read
  next => cases read
  next closing rest found =>
    split at read
    next =>
      obtain ⟨value, -, given⟩ := Option.map_eq_some_iff.mp read
      cases given
      have shorter := (@List.dropWhile_suffix _ cs (· != '\x7d')).length_le
      rw [found, List.length_cons] at shorter
      rw [List.length_singleton]
      omega
    next => cases read

theorem length_readEscape {named : List Char → Option Nat} {c : Char} {rest after : List Char}
    {points : List Nat} (read : readEscape named c rest = some (points, after)) :
    points.length + after.length ≤ rest.length + 1 := by
  rw [readEscape] at read
  split at read
  next =>
    cases read
    simp
  next =>
    split at read
    next =>
      cases read
      simp [Nat.add_comm]
    next => exact length_hexEscape read
    next =>
      split at read
      next => exact length_namedEscape read
      next => exact length_octalEscape read

theorem behindBackslash_cases {named : List Char → Option Nat} {cs after : List Char}
    {points : List Nat} (read : behindBackslash named cs = some (points, after)) :
    (∃ c, cs = c :: after ∧ beginsEscape c = false ∧ points = [92, c.toNat]) ∨
      points.length + after.length ≤ cs.length := by
  cases cs with
  | nil => cases read
  | cons c rest =>
    rw [behindBackslash] at read
    split at read
    next => exact .inr (length_readEscape read)
    next plain =>
      cases read
      exact .inl ⟨c, rfl, Bool.eq_false_iff.mpr plain, rfl⟩

theorem length_behindBackslash {named : List Char → Option Nat} {cs after : List Char}
    {points : List Nat} (read : behindBackslash named cs = some (points, after)) :
    after.length ≤ cs.length := by
  obtain ⟨c, rfl, -, -⟩ | shorter := behindBackslash_cases read
  · exact Nat.le_succ _
  · exact Nat.le_of_add_left_le shorter

def follow (points : List Nat) (reading : Reading) : Reading :=
  reading.map fun read => (points ++ read.1, read.2)

theorem follow_follow (points more : List Nat) (reading : Reading) :
    follow points (follow more reading) = follow (points ++ more) reading := by
  cases reading <;> simp [follow]

theorem follow_eq_some_iff {points value : List Nat} {reading : Reading} {rest : List Char} :
    follow points reading = some (value, rest) ↔
      ∃ later, reading = some (later, rest) ∧ points ++ later = value := by
  simp only [follow, Option.map_eq_some_iff, Prod.mk.injEq, Prod.exists]
  constructor
  · rintro ⟨later, rest, read, whole, rfl⟩
    exact ⟨later, read, whole⟩
  · rintro ⟨later, read, whole⟩
    exact ⟨later, rest, read, whole, rfl⟩

@[simp] theorem follow_nil (reading : Reading) : follow [] reading = reading := by
  cases reading <;> rfl

theorem follow_codePoints_iff {rest : List Char} {reading : Reading} (text more : List Char) :
    follow (codePoints text) reading = some (codePoints (text ++ more), rest) ↔
      reading = some (codePoints more, rest) := by
  simp only [follow_eq_some_iff, codePoints, List.map_append, List.append_cancel_left_eq,
    exists_eq_right]

def readBody (named : List Char → Option Nat) (cs : List Char) : Reading :=
  match cs with
  | [] => none
  | c :: rest =>
      if threeQuotes <+: c :: rest then some ([], (c :: rest).drop 3)
      else if c = '\\' then
        match _read : behindBackslash named rest with
        | none => none
        | some (points, after) => follow points (readBody named after)
      else if isForeign c then none
      else follow [c.toNat] (readBody named rest)
termination_by cs.length
decreasing_by
  · exact Nat.lt_succ_of_le (length_behindBackslash _read)
  · exact Nat.lt_succ_self _

def readLiteral (named : List Char → Option Nat) (cs : List Char) : Reading :=
  if threeQuotes <+: cs then readBody named (cs.drop 3) else none

/-- The code is one literal from its first to its last character, and stands for the text. -/
def IsLiteral (named : List Char → Option Nat) (code : String) (text : List Char) : Prop :=
  readLiteral named code.toList = some (codePoints text, [])

theorem prefix_of_prefix_append {part before behind : List Char} {c : Char} (absent : c ∉ part)
    (opens : part <+: before ++ c :: behind) : part <+: before := by
  have through : before ++ [c] <+: before ++ c :: behind := ⟨behind, by simp⟩
  obtain shorter | longer := List.prefix_or_prefix_of_prefix opens through
  · refine (List.prefix_concat_iff.mp shorter).resolve_left fun same => absent ?_
    rw [same]
    exact List.mem_concat_self
  · exact absurd (longer.subset List.mem_concat_self) absent

theorem threeQuotes_prefix_cons {c : Char} {rest : List Char} (opens : threeQuotes <+: c :: rest) :
    c = '"' :=
  (List.cons_prefix_cons.mp opens).1.symm

def isInert (c : Char) : Bool := c != '"' && c != '\\' && !isForeign c

theorem isInert_iff {c : Char} :
    isInert c = true ↔ c ≠ '"' ∧ c ≠ '\\' ∧ isForeign c = false := by
  simp [isInert, and_assoc]

theorem IsLiteral.unique {named : List Char → Option Nat} {code : String}
    {first second : List Char} (one : IsLiteral named code first)
    (other : IsLiteral named code second) : first = second :=
  codePoints_injective (Prod.mk.inj (Option.some.inj (one.symm.trans other))).1

section Reading

variable {named : List Char → Option Nat}

theorem readLiteral_append (cs : List Char) :
    readLiteral named (threeQuotes ++ cs) = readBody named cs := by
  rw [readLiteral, if_pos (List.prefix_append _ _)]
  rfl

theorem readBody_backslash (rest : List Char) :
    readBody named ('\\' :: rest) =
      (behindBackslash named rest).bind fun read => follow read.1 (readBody named read.2) := by
  rw [readBody, if_neg fun opens => absurd (threeQuotes_prefix_cons opens) (by decide), if_pos rfl]
  split
  next nothing => rw [nothing, Option.bind_none]
  next points after found => rw [found, Option.bind_some]

theorem readBody_char {c : Char} {rest : List Char} (inside : ¬ threeQuotes <+: c :: rest)
    (noEscape : c ≠ '\\') (native : isForeign c = false) :
    readBody named (c :: rest) = follow [c.toNat] (readBody named rest) := by
  rw [readBody, if_neg inside, if_neg noEscape, if_neg (Bool.eq_false_iff.mp native)]

theorem readBody_foreign {c : Char} (foreign : isForeign c = true) (rest : List Char) :
    readBody named (c :: rest) = none := by
  have other {d : Char} (native : isForeign d = false) : c ≠ d := by
    rintro rfl
    exact Bool.false_ne_true (native.symm.trans foreign)
  rw [readBody, if_neg (other (by decide) ∘ threeQuotes_prefix_cons), if_neg (other (by decide)),
    if_pos foreign]

theorem readBody_inert {c : Char} (inert : isInert c = true) (rest : List Char) :
    readBody named (c :: rest) = follow [c.toNat] (readBody named rest) := by
  obtain ⟨noQuote, noEscape, native⟩ := isInert_iff.mp inert
  exact readBody_char (noQuote ∘ threeQuotes_prefix_cons) noEscape native

theorem readBody_plain {front : List Char} (plain : front.all isInert = true)
    (more : List Char) :
    readBody named (front ++ more) = follow (codePoints front) (readBody named more) := by
  induction front with
  | nil => exact (follow_nil _).symm
  | cons c rest ih =>
    rw [List.all_cons, Bool.and_eq_true] at plain
    obtain ⟨here, behind⟩ := plain
    rw [List.cons_append, readBody_inert here, ih behind, follow_follow]
    rfl

theorem readBody_closing (rest : List Char) :
    readBody named (threeQuotes ++ rest) = some ([], rest) := by
  have opens : threeQuotes <+: '"' :: '"' :: '"' :: rest := List.prefix_append threeQuotes rest
  change readBody named ('"' :: '"' :: '"' :: rest) = _
  rw [readBody, if_pos opens]
  rfl

theorem readBody_escape {c : Char} {value : Nat} (escape : escaped? c = some value)
    (rest : List Char) :
    readBody named ('\\' :: c :: rest) = follow [value] (readBody named rest) := by
  have noBreak : c ≠ '\n' := by
    rintro rfl
    cases escape
  have begins : beginsEscape c = true := by simp [beginsEscape, escape]
  rw [readBody_backslash, behindBackslash, if_pos begins, readEscape, if_neg noBreak, escape,
    Option.bind_some]

theorem readBody_backslash_plain {c : Char} (plain : beginsEscape c = false) (rest : List Char) :
    readBody named ('\\' :: c :: rest) = follow [92] (readBody named (c :: rest)) := by
  have other {d : Char} (begins : beginsEscape d = true) : c ≠ d := by
    rintro rfl
    exact Bool.false_ne_true (plain.symm.trans begins)
  have inside : ¬ threeQuotes <+: c :: rest := fun opens =>
    other (by decide) (threeQuotes_prefix_cons opens)
  have native : isForeign c = false := by
    simp only [beginsEscape, Bool.or_eq_false_iff] at plain
    exact plain.1.1.1.1.2
  rw [readBody_backslash, behindBackslash, if_neg (Bool.eq_false_iff.mp plain), Option.bind_some,
    readBody_char inside (other (by decide)) native, follow_follow]
  rfl

theorem length_readBody {cs rest : List Char} {value : List Nat}
    (read : readBody named cs = some (value, rest)) :
    value.length + rest.length + 3 ≤ cs.length := by
  fun_induction readBody named cs generalizing value with
  | case1 => cases read
  | case2 c rest closes =>
    cases read
    have long := closes.length_le
    simp only [threeQuotes, List.length_cons, List.length_nil] at long
    simp only [List.length_nil, List.length_drop, List.length_cons]
    omega
  | case3 => cases read
  | case4 rest points after found inside ih =>
    obtain ⟨later, there, rfl⟩ := follow_eq_some_iff.mp read
    have tail := ih there
    rw [List.length_append, List.length_cons]
    -- A backslash that begins no escape stands for itself, and gives two units with what follows.
    obtain ⟨c, rfl, -, rfl⟩ | shorter := behindBackslash_cases found
    · simp only [List.length_cons, List.length_nil]
      omega
    · omega
  | case5 => cases read
  | case6 c rest inside noEscape native ih =>
    obtain ⟨later, there, rfl⟩ := follow_eq_some_iff.mp read
    have tail := ih there
    simp only [List.length_append, List.length_cons, List.length_nil]
    omega

end Reading

/-- Nothing in the text is read as anything but itself. -/
structure Verbatim (text : List Char) : Prop where
  noQuotes : ¬ threeQuotes <:+: text
  noEscape {c : Char} (inside : ['\\', c] <:+: text) : beginsEscape c = false
  native : ∀ c ∈ text, isForeign c = false

namespace Verbatim

theorem nil : Verbatim [] where
  noQuotes inside := absurd (List.infix_nil.mp inside) (by decide)
  noEscape inside := absurd (List.infix_nil.mp inside) (List.cons_ne_nil _ _)
  native := List.forall_mem_nil _

theorem of_infix {text part : List Char} (verbatim : Verbatim text) (inside : part <:+: text) :
    Verbatim part where
  noQuotes quotes := verbatim.noQuotes (quotes.trans inside)
  noEscape escape := verbatim.noEscape (escape.trans inside)
  native c member := verbatim.native c (inside.subset member)

instance (text : List Char) : Decidable (Verbatim text) :=
  decidable_of_iff
    (¬ threeQuotes <:+: text ∧
      (text.all fun c => !beginsEscape c || !decide (['\\', c] <:+: text)) = true ∧
        (text.all fun c => !isForeign c) = true) <| by
    simp only [List.all_eq_true, Bool.or_eq_true, Bool.not_eq_true', decide_eq_false_iff_not]
    constructor
    · rintro ⟨quotes, escapes, native⟩
      refine ⟨quotes, fun inside => ?_, native⟩
      exact (escapes _ (inside.subset (by simp))).resolve_right (not_not_intro inside)
    · intro verbatim
      refine ⟨verbatim.noQuotes, fun c _ => ?_, verbatim.native⟩
      exact (em (['\\', c] <:+: text)).imp verbatim.noEscape id

theorem cons {c : Char} {rest : List Char} (outside : ¬ threeQuotes <+: c :: rest)
    (native : isForeign c = false)
    (plain : c = '\\' → ∀ d, rest.head? = some d → beginsEscape d = false)
    (verbatim : Verbatim rest) : Verbatim (c :: rest) where
  noQuotes inside := (List.infix_cons_iff.mp inside).elim outside verbatim.noQuotes
  noEscape inside := by
    obtain first | later := List.infix_cons_iff.mp inside
    · obtain ⟨same, second⟩ := List.cons_prefix_cons.mp first
      obtain ⟨more, rfl⟩ := second
      exact plain same.symm _ rfl
    · exact verbatim.noEscape later
  native := List.forall_mem_cons.mpr ⟨native, verbatim.native⟩

theorem plain_append_iff {front text : List Char} (plain : front.all isInert = true) :
    Verbatim (front ++ text) ↔ Verbatim text := by
  constructor
  · exact fun verbatim => verbatim.of_infix (List.suffix_append front text).isInfix
  · intro verbatim
    induction front with
    | nil => exact verbatim
    | cons c rest ih =>
      rw [List.all_cons, Bool.and_eq_true] at plain
      obtain ⟨here, behind⟩ := plain
      obtain ⟨noQuote, noEscape, native⟩ := isInert_iff.mp here
      exact cons (noQuote ∘ threeQuotes_prefix_cons) native (absurd · noEscape) (ih behind)

theorem line_append_iff {line more : List Char} :
    Verbatim (line ++ '\n' :: more) ↔ Verbatim (line ++ ['\n']) ∧ Verbatim more := by
  constructor
  · intro verbatim
    exact ⟨verbatim.of_infix ⟨[], more, by simp⟩, verbatim.of_infix ⟨line ++ ['\n'], [], by simp⟩⟩
  · rintro ⟨here, behind⟩
    induction line with
    | nil =>
      have inert : ['\n'].all isInert = true := by decide
      exact (plain_append_iff inert).mpr behind
    | cons c rest ih =>
      have tail := ih (here.of_infix (List.suffix_cons c _).isInfix)
      refine cons (fun opens => ?_) (here.native c List.mem_cons_self) ?_ tail
      · have inLine : threeQuotes <+: c :: rest := prefix_of_prefix_append (by decide) opens
        exact here.noQuotes (inLine.trans (List.prefix_append _ _)).isInfix
      · rintro rfl d next
        have ended : (rest ++ ['\n']).head? = some d := by
          rw [List.append_eq, List.head?_append] at next
          rwa [List.head?_append]
        obtain ⟨later, shape⟩ := List.head?_eq_some_iff.mp ended
        exact here.noEscape ⟨[], later, by simp [shape]⟩

theorem unlines_iff {lines : List (List Char)} :
    Verbatim (unlines lines) ↔ ∀ line ∈ lines, Verbatim (line ++ ['\n']) := by
  induction lines with
  | nil => simp [nil, unlines]
  | cons line more ih => rw [unlines, line_append_iff, ih, List.forall_mem_cons]

end Verbatim

section Reading

variable {named : List Char → Option Nat}

theorem readBody_line {line : List Char} (verbatim : Verbatim (line ++ ['\n']))
    (more : List Char) :
    readBody named (line ++ '\n' :: more) =
      follow (codePoints (line ++ ['\n'])) (readBody named more) := by
  induction line with
  | nil => exact readBody_inert (by decide) more
  | cons c rest ih =>
    have tail := ih (verbatim.of_infix (List.suffix_cons c _).isInfix)
    have one : readBody named (c :: rest ++ '\n' :: more) =
        follow [c.toNat] (readBody named (rest ++ '\n' :: more)) := by
      by_cases escape : c = '\\'
      · -- The character behind the backslash is read once more, on its own.
        subst escape
        cases rest with
        | nil => exact absurd (verbatim.noEscape List.infix_rfl) (by decide)
        | cons d rest =>
          exact readBody_backslash_plain (verbatim.noEscape ⟨[], rest ++ ['\n'], rfl⟩) _
      · refine readBody_char (fun opens => ?_) escape (verbatim.native c List.mem_cons_self)
        have inLine : threeQuotes <+: c :: rest := prefix_of_prefix_append (by decide) opens
        exact verbatim.noQuotes (inLine.trans (List.prefix_append _ _)).isInfix
    rw [one, tail, follow_follow]
    rfl

theorem verbatim_of_readBody {text : List Char}
    (read : readBody named (text ++ threeQuotes) = some (codePoints text, [])) : Verbatim text := by
  induction text with
  | nil => exact .nil
  | cons c rest ih =>
    rw [List.cons_append] at read
    by_cases opens : threeQuotes <+: c :: (rest ++ threeQuotes)
    · rw [readBody, if_pos opens] at read
      cases read
    have outside : ¬ threeQuotes <+: c :: rest := fun quotes =>
      opens (quotes.trans (List.prefix_append (c :: rest) threeQuotes))
    by_cases escape : c = '\\'
    · subst escape
      have split := read
      rw [readBody_backslash, Option.bind_eq_some_iff] at split
      obtain ⟨⟨points, after⟩, found, followed⟩ := split
      obtain ⟨d, same, plain, -⟩ | shorter := behindBackslash_cases found
      · rw [same, readBody_backslash_plain plain, ← same] at read
        refine .cons outside (by decide) (fun _ e next => ?_)
          (ih ((follow_codePoints_iff ['\\'] rest).mp read))
        have head := congrArg List.head? same
        rw [List.head?_append, next] at head
        cases head
        exact plain
      · -- An escape is longer than what it stands for, so the text would be read as a shorter one.
        obtain ⟨later, there, whole⟩ := follow_eq_some_iff.mp followed
        have lengths := congrArg List.length whole
        have tail := length_readBody there
        simp only [List.length_append, codePoints, List.length_map, List.length_cons, threeQuotes,
          List.length_nil] at lengths tail shorter
        omega
    by_cases foreign : isForeign c = true
    · rw [readBody_foreign foreign] at read
      cases read
    have native := Bool.eq_false_iff.mpr foreign
    rw [readBody_char opens escape native] at read
    exact .cons outside native (absurd · escape) (ih ((follow_codePoints_iff [c] rest).mp read))

theorem readBody_unlines {write : List Char → List Char} {lines : List (List Char)}
    (one : ∀ line ∈ lines, ∀ more, readBody named (write line ++ '\n' :: more) =
      follow (codePoints (line ++ ['\n'])) (readBody named more)) (more : List Char) :
    readBody named (unlines (lines.map write) ++ more) =
      follow (codePoints (unlines lines)) (readBody named more) := by
  induction lines with
  | nil => exact (follow_nil _).symm
  | cons line rest ih =>
    obtain ⟨here, behind⟩ := List.forall_mem_cons.mp one
    rw [List.map_cons, unlines, List.append_assoc, List.cons_append, here, ih behind,
      follow_follow]
    simp [codePoints, unlines]

theorem readBody_closed_iff {lines : List (List Char)} :
    readBody named (unlines lines ++ threeQuotes) = some (codePoints (unlines lines), []) ↔
      ∀ line ∈ lines, Verbatim (line ++ ['\n']) := by
  constructor
  · exact fun read => Verbatim.unlines_iff.mp (verbatim_of_readBody read)
  · intro verbatim
    have closes : readBody named threeQuotes = some ([], []) := readBody_closing []
    have read := @readBody_unlines named id lines
      (fun line inside => readBody_line (verbatim line inside)) threeQuotes
    rw [List.map_id, closes] at read
    simpa [follow] using read

end Reading

end OpenApiClient.Code
