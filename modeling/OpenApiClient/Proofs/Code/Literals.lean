import OpenApiClient.Proofs.Code.Bindings
import OpenApiClient.Proofs.Code.Reader
import OpenApiClient.Text.Placeholder

set_option autoImplicit false

namespace OpenApiClient

namespace Text

theorem hexDigits_succ {width : Nat} (filled : 0 < width) (n : Nat) :
    hexDigits (width + 1) n = hexDigits width (n / 16) ++ [Nat.digitChar (n % 16)] := by
  simp only [hexDigits]
  by_cases small : n < 16
  · have zero : n / 16 = 0 := Nat.div_eq_of_lt small
    rw [Nat.toDigits_of_lt_base small, zero, Nat.mod_eq_of_lt small,
      Nat.toDigits_of_lt_base (by decide : 0 < 16)]
    have zeros : List.replicate width '0' = List.replicate (width - 1) '0' ++ ['0'] := by
      rw [← List.replicate_succ', Nat.sub_add_cancel filled]
    simp [zeros]
  · rw [Nat.toDigits_of_base_le (by decide) (by omega)]
    simp

theorem hexDigits_one {n : Nat} (small : n < 16) : hexDigits 1 n = [Nat.digitChar n] := by
  simp [hexDigits, Nat.toDigits_of_lt_base small]

theorem hexDigits_four {n : Nat} (small : n < 0x10000) :
    hexDigits 4 n = [Nat.digitChar (n / 16 / 16 / 16), Nat.digitChar (n / 16 / 16 % 16),
      Nat.digitChar (n / 16 % 16), Nat.digitChar (n % 16)] := by
  rw [hexDigits_succ (by decide), hexDigits_succ (by decide), hexDigits_succ (by decide),
    hexDigits_one (by omega)]
  rfl

theorem toNat_lt (c : Char) : c.toNat < 0x110000 := by
  have bound := c.valid
  simp only [UInt32.isValidChar, Nat.isValidChar] at bound
  change c.val.toNat < _
  omega

theorem units_lt {c : Char} : ∀ unit ∈ units c, unit < 0x10000 := by
  intro unit member
  have valid := toNat_lt c
  simp only [units] at member
  generalize c.toNat = point at valid member
  split at member
  next small => simpa [List.mem_singleton.mp member] using small
  next =>
    have high : (point - 0x10000) / 0x400 < 0x400 := by omega
    have low : (point - 0x10000) % 0x400 < 0x400 := Nat.mod_lt _ (by decide)
    rcases List.mem_pair.mp member with same | same <;> rw [same]
    · exact Nat.lt_of_lt_of_le (Nat.add_lt_add_left high 0xd800) (by decide)
    · exact Nat.lt_of_lt_of_le (Nat.add_lt_add_left low 0xdc00) (by decide)

end Text

namespace Code

theorem hexValue?_digitChar : ∀ digit < 16, hexValue? (Nat.digitChar digit) = some digit := by
  decide

namespace Reader

theorem step_hex {format : Bool} {left value digit : Nat} (small : digit < 16)
    (more : 1 < left) (earlier : List (List Piece)) (pieces : List Piece) :
    step ⟨.hex format left value, earlier, pieces⟩ (Nat.digitChar digit) =
      some ⟨.hex format (left - 1) (value * 16 + digit), earlier, pieces⟩ := by
  simp only [step, hexValue?_digitChar digit small, if_pos more]

theorem step_hex_last {format : Bool} {value digit : Nat} (small : digit < 16)
    (valid : value * 16 + digit < 0x110000) (earlier : List (List Piece)) (pieces : List Piece) :
    step ⟨.hex format 1 value, earlier, pieces⟩ (Nat.digitChar digit) =
      some ⟨.text format, earlier, pieces ++ [.point (value * 16 + digit)]⟩ := by
  simp only [step, hexValue?_digitChar digit small, if_neg (Nat.lt_irrefl 1), if_pos valid, add]

theorem run_unitEscape {unit : Nat} (small : unit < 0x10000) (format : Bool)
    (earlier : List (List Piece)) (pieces : List Piece) :
    run ⟨.text format, earlier, pieces⟩ (Json.unitEscape unit) =
      some ⟨.text format, earlier, pieces ++ [.point unit]⟩ := by
  have whole : ((unit / 16 / 16 / 16 * 16 + unit / 16 / 16 % 16) * 16 + unit / 16 % 16) * 16 +
      unit % 16 = unit := by omega
  rw [Json.unitEscape, Text.hexDigits_four small]
  rw [run_cons, show step ⟨.text format, earlier, pieces⟩ '\\' =
    some ⟨.escape format, earlier, pieces⟩ from rfl, Option.bind_some]
  rw [run_cons, show step ⟨.escape format, earlier, pieces⟩ 'u' =
    some ⟨.hex format 4 0, earlier, pieces⟩ from rfl, Option.bind_some]
  rw [run_cons, step_hex (by omega) (by decide), Option.bind_some]
  rw [run_cons, step_hex (by omega) (by decide), Option.bind_some]
  rw [run_cons, step_hex (by omega) (by decide), Option.bind_some]
  rw [run_cons, step_hex_last (by omega) (by omega), Option.bind_some, Nat.zero_mul, Nat.zero_add,
    whole]
  rfl

theorem run_units {units : List Nat} (small : ∀ unit ∈ units, unit < 0x10000) (format : Bool)
    (earlier : List (List Piece)) (pieces : List Piece) :
    run ⟨.text format, earlier, pieces⟩ (units.flatMap Json.unitEscape) =
      some ⟨.text format, earlier, pieces ++ units.map .point⟩ := by
  induction units generalizing pieces with
  | nil => simp [run]
  | cons unit rest ih =>
    obtain ⟨here, behind⟩ := List.forall_mem_cons.mp small
    rw [List.flatMap_cons, run_append, run_unitEscape here, Option.bind_some, ih behind]
    simp

theorem run_literalChar {format : Bool} {c : Char}
    (plain : format = true → c ≠ '\x7b' ∧ c ≠ '\x7d') (earlier : List (List Piece))
    (pieces : List Piece) :
    run ⟨.text format, earlier, pieces⟩ (Json.literalChar c) =
      some ⟨.text format, earlier, pieces ++ (Text.units c).map .point⟩ := by
  have form := Json.literalChar_form c
  generalize Json.literalChar c = written at form ⊢
  cases form with
  | short escape =>
    -- These escapes are the same in both languages.
    simp only [Json.shortEscapes, List.mem_cons, Prod.mk.injEq, List.not_mem_nil,
      or_false] at escape
    rcases escape with ⟨rfl, rfl⟩ | ⟨rfl, rfl⟩ | ⟨rfl, rfl⟩ | ⟨rfl, rfl⟩ | ⟨rfl, rfl⟩ | ⟨rfl, rfl⟩ |
      ⟨rfl, rfl⟩ <;> rfl
  | shown visible bare =>
    -- Nothing that is shown as itself has a meaning of its own in a literal.
    have other {d : Char} (escaped : d ∈ Json.shortEscapes.map Prod.fst) : c ≠ d :=
      fun same => bare (same ▸ escaped)
    have units : Text.units c = [c.toNat] := if_pos (by omega)
    have open' : ¬ (format = true ∧ c = '\x7b') := fun both => (plain both.1).1 both.2
    have close : ¬ (format = true ∧ c = '\x7d') := fun both => (plain both.1).2 both.2
    simp only [run_cons, step, @other '"' (by decide), @other '\\' (by decide),
      @other '\n' (by decide), @other '\r' (by decide), open', close, or_self, if_false, add, units]
    rfl
  | units hidden => exact run_units Text.units_lt format earlier pieces

theorem run_literalChars (cs : List Char) (earlier : List (List Piece)) (pieces : List Piece) :
    run ⟨.text false, earlier, pieces⟩ (cs.flatMap Json.literalChar) =
      some ⟨.text false, earlier, pieces ++ (cs.flatMap Text.units).map .point⟩ := by
  induction cs generalizing pieces with
  | nil => simp [run]
  | cons c rest ih =>
    rw [List.flatMap_cons, run_append, @run_literalChar false c (by simp) earlier pieces,
      Option.bind_some, ih]
    simp

theorem run_doubleBrace (c : Char) (earlier : List (List Piece)) (pieces : List Piece) :
    run ⟨.text true, earlier, pieces⟩ ((Text.doubleBrace c).flatMap Json.literalChar) =
      some ⟨.text true, earlier, pieces ++ (Text.units c).map .point⟩ := by
  rw [Text.doubleBrace]
  split
  next brace => rcases brace with rfl | rfl <;> rfl
  next plain =>
    rw [List.flatMap_singleton]
    exact run_literalChar (fun _ => not_or.mp plain) earlier pieces

end Reader

end Code

namespace Text

open Code

namespace Segment

def pieces (code : Char → List Nat) : Segment → List Piece
  | .text cs => (cs.flatMap code).map .point
  | .slot name => [.value (String.ofList name)]

def Filled : Segment → Prop
  | .text _ => True
  | .slot name => name ≠ [] ∧ ∀ c ∈ name, Name.isNameChar c = true

end Segment

def points (c : Char) : List Nat := [c.toNat]

def Template.pieces (code : Char → List Nat) (template : Template) : List Piece :=
  template.segments.flatMap (Segment.pieces code)

def Template.ofPlain (text : String) : Template := ⟨[.text text.toList]⟩

theorem Template.literal_ofPlain (text : String) : (ofPlain text).literal = Json.literal text := by
  simp [ofPlain, literal, Segment.isSlot, plainChars]

end Text

namespace Code

namespace Reader

theorem run_name {name : List Char} (named : ∀ c ∈ name, Name.isNameChar c = true)
    (before : List Char) (earlier : List (List Piece)) (pieces : List Piece) :
    run ⟨.slot before, earlier, pieces⟩ (name ++ ['\x7d']) =
      some ⟨.text true, earlier, pieces ++ [.value (String.ofList (before ++ name))]⟩ := by
  induction name generalizing before with
  | nil =>
    rw [List.append_nil]
    rfl
  | cons c rest ih =>
    obtain ⟨here, behind⟩ := List.forall_mem_cons.mp named
    have inside : c ≠ '\x7d' := by
      rintro rfl
      exact absurd here (by decide)
    have stepped : step ⟨.slot before, earlier, pieces⟩ c =
        some ⟨.slot (before ++ [c]), earlier, pieces⟩ := by
      simp only [step, if_neg inside, if_pos here]
    rw [List.cons_append, run_cons, stepped, Option.bind_some, ih behind, List.append_assoc]
    rfl

theorem literalChars_slot {name : List Char} (named : ∀ c ∈ name, Name.isNameChar c = true) :
    (Text.Segment.formatChars (.slot name)).flatMap Json.literalChar =
      '\x7b' :: (name ++ ['\x7d']) := by
  have inside : name.flatMap Json.literalChar = name := by
    rw [List.flatMap_congr fun c member => literalChar_of_isNameChar (named c member)]
    exact List.flatMap_singleton' name
  simp only [Text.Segment.formatChars, List.cons_append, List.flatMap_cons, List.flatMap_append,
    inside]
  rfl

theorem run_slot {name : List Char} (filled : Text.Segment.Filled (.slot name))
    (earlier : List (List Piece)) (pieces : List Piece) :
    run ⟨.text true, earlier, pieces⟩
        ((Text.Segment.formatChars (.slot name)).flatMap Json.literalChar) =
      some ⟨.text true, earlier, pieces ++ [.value (String.ofList name)]⟩ := by
  obtain ⟨present, named⟩ := filled
  rw [literalChars_slot named]
  cases name with
  | nil => exact absurd rfl present
  | cons first rest =>
    obtain ⟨here, behind⟩ := List.forall_mem_cons.mp named
    have other : first ≠ '\x7b' := by
      rintro rfl
      exact absurd here (by decide)
    have stepped : step ⟨.opened, earlier, pieces⟩ first =
        some ⟨.slot [first], earlier, pieces⟩ := by
      simp only [step, if_neg other, if_pos here]
    rw [run_cons, show step ⟨.text true, earlier, pieces⟩ '\x7b' =
      some ⟨.opened, earlier, pieces⟩ from rfl, Option.bind_some]
    rw [List.cons_append, run_cons, stepped, Option.bind_some, run_name behind]
    rfl

theorem run_segment {segment : Text.Segment} (filled : segment.Filled)
    (earlier : List (List Piece)) (pieces : List Piece) :
    run ⟨.text true, earlier, pieces⟩ (segment.formatChars.flatMap Json.literalChar) =
      some ⟨.text true, earlier, pieces ++ segment.pieces Text.units⟩ := by
  cases segment with
  | slot name => exact run_slot filled earlier pieces
  | text cs =>
    clear filled
    simp only [Text.Segment.formatChars, Text.Segment.pieces]
    -- A brace is written twice and read once, so each character is read as itself.
    induction cs generalizing pieces with
    | nil => simp [run]
    | cons c rest ih =>
      rw [List.flatMap_cons, List.flatMap_append, run_append, run_doubleBrace, Option.bind_some, ih]
      simp

theorem run_formatChars {segments : List Text.Segment}
    (filled : ∀ segment ∈ segments, segment.Filled) (earlier : List (List Piece))
    (pieces : List Piece) :
    run ⟨.text true, earlier, pieces⟩
        ((segments.flatMap Text.Segment.formatChars).flatMap Json.literalChar) =
      some ⟨.text true, earlier, pieces ++ segments.flatMap (Text.Segment.pieces Text.units)⟩ := by
  induction segments generalizing pieces with
  | nil => simp [run]
  | cons segment rest ih =>
    obtain ⟨here, behind⟩ := List.forall_mem_cons.mp filled
    rw [List.flatMap_cons, List.flatMap_append, run_append, run_segment here, Option.bind_some,
      ih behind]
    simp

theorem run_quoted {format : Bool} {body : List Char} {read : List Piece}
    {earlier : List (List Piece)}
    (inside : run ⟨.text format, earlier, []⟩ body = some ⟨.text format, earlier, read⟩) :
    run ⟨.code (if format then ['f'] else []), earlier, []⟩ ('"' :: body ++ ['"']) =
      some ⟨.code ['"'], earlier ++ [read], []⟩ := by
  have opens : step ⟨.code (if format then ['f'] else []), earlier, []⟩ '"' =
      some ⟨.text format, earlier, []⟩ := by
    cases format <;> rfl
  rw [List.cons_append, run_cons, opens, Option.bind_some, run_append, inside]
  rfl

theorem pieces_of_plain {template : Text.Template}
    (plain : template.segments.any Text.Segment.isSlot = false) (code : Char → List Nat) :
    template.pieces code = (template.plainChars.flatMap code).map .point := by
  obtain ⟨segments⟩ := template
  simp only [Text.Template.pieces, Text.Template.plainChars] at plain ⊢
  induction segments with
  | nil => rfl
  | cons segment rest ih =>
    simp only [List.any_cons, Bool.or_eq_false_iff] at plain
    cases segment with
    | slot name => cases plain.1
    | text cs => simp [Text.Segment.pieces, ih plain.2]

theorem run_template {template : Text.Template}
    (filled : ∀ segment ∈ template.segments, segment.Filled) (earlier : List (List Piece)) :
    run ⟨.code [], earlier, []⟩ template.literal.toList =
      some ⟨.code ['"'], earlier ++ [template.pieces Text.units], []⟩ := by
  rw [Text.Template.literal]
  split
  next =>
    simp only [String.toList_append, Json.literal, String.toList_ofList]
    exact @run_quoted true _ _ _ (run_formatChars filled earlier [])
  next plain =>
    rw [Json.literal, String.toList_ofList, String.toList_ofList,
      pieces_of_plain (Bool.eq_false_iff.mpr plain)]
    exact @run_quoted false _ _ _ (run_literalChars _ earlier [])

end Reader

def opensLiteral (code : String) : Bool :=
  code.toList.all isPlain && code.toList.getLast?.any fun c => !Name.isNameChar c

theorem Reads.template {before : String} (opens : opensLiteral before = true)
    {template : Text.Template} (filled : ∀ segment ∈ template.segments, segment.Filled) :
    Reads (before ++ template.literal) [template.pieces Text.units] := by
  intro word earlier
  refine ⟨['"'], ?_⟩
  rw [opensLiteral, Bool.and_eq_true, List.all_eq_true] at opens
  obtain ⟨plain, gap⟩ := opens
  -- The last character of the code before ends every word, so the quote has no prefix but its own.
  have words : before.toList.foldl nextWord word = [] := by
    cases last : before.toList.getLast? with
    | none =>
      rw [last] at gap
      cases gap
    | some c =>
      rw [last] at gap
      rw [← List.dropLast_append_getLast? c last, List.foldl_append]
      simpa [nextWord] using gap
  rw [String.toList_append, Reader.run_append, Reader.run_plain plain, words, Option.bind_some,
    Reader.run_template filled]

theorem Reads.literal {before : String} (opens : opensLiteral before = true) (text : String) :
    Reads (before ++ Json.literal text) [(Text.Template.ofPlain text).pieces Text.units] := by
  rw [← Text.Template.literal_ofPlain]
  refine Reads.template opens fun segment member => ?_
  rw [List.mem_singleton.mp member]
  trivial

theorem length_flatMap_le {α β : Type} {f g : α → List β}
    (longer : ∀ a, (g a).length ≤ (f a).length) (items : List α) :
    (items.flatMap g).length ≤ (items.flatMap f).length := by
  induction items with
  | nil => exact Nat.le_refl 0
  | cons a rest ih =>
    simp only [List.flatMap_cons, List.length_append]
    exact Nat.add_le_add (longer a) ih

theorem flatMap_eq_flatMap_iff {α β : Type} {f g : α → List β}
    (longer : ∀ a, (g a).length ≤ (f a).length) {items : List α} :
    items.flatMap f = items.flatMap g ↔ ∀ a ∈ items, f a = g a := by
  constructor
  · intro same
    induction items with
    | nil => exact fun _ absent => nomatch absent
    | cons a rest ih =>
      rw [List.flatMap_cons, List.flatMap_cons] at same
      have lengths := congrArg List.length same
      have here := longer a
      have behind := length_flatMap_le longer rest
      simp only [List.length_append] at lengths
      -- Neither part is shorter than the other one's, so both have the same length.
      obtain ⟨first, others⟩ := List.append_inj same (by omega)
      exact List.forall_mem_cons.mpr ⟨first, ih others⟩
  · exact fun same => List.flatMap_congr same

end Code

namespace Text

open Code

theorem units_eq_points_iff {c : Char} : units c = points c ↔ c.toNat < 0x10000 := by
  simp only [units, points]
  split
  next small => simp [small]
  next large => simp [large]

theorem length_points_le (c : Char) : (points c).length ≤ (units c).length := by
  simp only [units, points]
  split <;> simp

def Segment.chars : Segment → List Char
  | .text cs => cs
  | .slot _ => []

/-- The characters of a template outside of its placeholders. -/
def Template.textChars (template : Template) : List Char := template.segments.flatMap Segment.chars

theorem Template.textChars_ofPlain (text : String) : (ofPlain text).textChars = text.toList :=
  List.flatMap_singleton _ _

theorem Segment.pieces_units_iff (segment : Segment) :
    segment.pieces units = segment.pieces points ↔ ∀ c ∈ segment.chars, c.toNat < 0x10000 := by
  cases segment with
  | slot name => simp [pieces, chars]
  | text cs =>
    have injective : Function.Injective Piece.point := fun _ _ => Piece.point.inj
    simp only [pieces, (List.map_injective_iff.mpr injective).eq_iff,
      flatMap_eq_flatMap_iff length_points_le, units_eq_points_iff, chars]

theorem Template.pieces_units_iff (template : Template) :
    template.pieces units = template.pieces points ↔
      ∀ c ∈ template.textChars, c.toNat < 0x10000 := by
  have longer (segment : Segment) :
      (segment.pieces points).length ≤ (segment.pieces units).length := by
    cases segment with
    | slot name => exact Nat.le_refl 1
    | text cs =>
      simp only [Segment.pieces, List.length_map]
      exact length_flatMap_le length_points_le cs
  rw [pieces, pieces, flatMap_eq_flatMap_iff longer]
  simp only [Segment.pieces_units_iff, textChars, List.forall_mem_flatMap]

theorem eq_of_closing? {cs name after : List Char} (closed : closing? cs = some (name, after)) :
    cs = name ++ '\x7d' :: after := by
  induction cs generalizing name with
  | nil => cases closed
  | cons c rest ih =>
    rw [closing?] at closed
    split at closed
    next brace =>
      cases closed
      rw [brace, List.nil_append]
    next =>
      split at closed
      next => cases closed
      next =>
        obtain ⟨⟨inside, behind⟩, found, same⟩ := Option.map_eq_some_iff.mp closed
        cases same
        rw [ih found, List.cons_append]

theorem plainChars_consText (c : Char) (segments : List Segment) :
    (Template.mk (consText c segments)).plainChars = c :: (Template.mk segments).plainChars := by
  cases segments with
  | nil => rfl
  | cons segment rest => cases segment <;> rfl

theorem plainChars_segments (cs : List Char) : (Template.mk (segments cs)).plainChars = cs := by
  fun_induction segments cs with
  | case1 => rfl
  | case2 rest name after closed ih =>
    rw [Template.plainChars] at ih
    rw [eq_of_closing? closed, Template.plainChars, List.flatMap_cons, ih]
    simp
  | case3 rest opened ih => rw [plainChars_consText, ih]
  | case4 c rest other ih => rw [plainChars_consText, ih]

theorem Segment.rename_of_isSlot_eq_false (segment : Segment) (name : String → String)
    (plain : segment.isSlot = false) : segment.rename name = segment := by
  cases segment with
  | text cs => rfl
  | slot key => cases plain

theorem Template.ofText_of_plain {text : String}
    (plain : (Text.segments text.toList).any Segment.isSlot = false) (name : String → String) :
    ofText name text = ⟨Text.segments text.toList⟩ := by
  have kept : ∀ segment ∈ Text.segments text.toList, segment.rename name = segment := by
    intro segment member
    exact segment.rename_of_isSlot_eq_false name
      (Bool.eq_false_iff.mpr (List.any_eq_false.mp plain segment member))
  rw [ofText, List.map_congr_left kept, List.map_id']

end Text
end OpenApiClient
