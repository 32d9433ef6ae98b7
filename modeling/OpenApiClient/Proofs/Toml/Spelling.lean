import Mathlib.Data.List.Basic
import OpenApiClient.Proofs.Text.Printable
import OpenApiClient.Proofs.Text.Replaced
import OpenApiClient.Toml.Quoted

set_option autoImplicit false

namespace OpenApiClient

namespace Text

theorem plain_of_mem_hexDigits {c : Char} {width n : Nat} (member : c ∈ hexDigits width n) :
    c ≠ '\\' ∧ c ≠ '\'' ∧ c ≠ '"' ∧ c ≠ 'x' := by
  have digits : ∀ digit < 16, Nat.digitChar digit ≠ '\\' ∧ Nat.digitChar digit ≠ '\'' ∧
      Nat.digitChar digit ≠ '"' ∧ Nat.digitChar digit ≠ 'x' := by decide
  obtain ⟨digit, small, rfl⟩ := exists_digitChar_of_mem_hexDigits member
  exact digits digit small

theorem hexDigits_ne_nil (width n : Nat) : hexDigits width n ≠ [] :=
  List.append_ne_nil_of_right_ne_nil _ Nat.toDigits_ne_nil

def isShortHidden (c : Char) : Bool :=
  !isPrintable c && decide (c.toNat < 0x100) && c != '\n' && c != '\r' && c != '\t'

structure Escape (c mark : Char) (digits : List Char) : Prop where
  plain : ∀ d ∈ digits, d ≠ '\\' ∧ d ≠ '\'' ∧ d ≠ '"' ∧ d ≠ 'x'
  short : mark = 'x' ↔ isShortHidden c = true
  filled : mark = 'x' → digits ≠ []
  backslash : mark = '\\' ↔ c = '\\'
  alone : mark = '\\' → digits = []
  quote : mark = '\'' → c = '\''
  doubleQuote : mark = '"' → c = '"'

theorem escape_hidden {c : Char} (hidden : isPrintable c = false) (feed : c ≠ '\n')
    (carriage : c ≠ '\r') (tab : c ≠ '\t') :
    ∃ mark digits, hiddenEscape c = '\\' :: mark :: digits ∧ Escape c mark digits := by
  have visible : isPrintable '\\' = true := by decide
  have apart : c ≠ '\\' := by
    rintro rfl
    exact absurd (hidden.symm.trans visible) (by decide)
  have plain (width : Nat) : ∀ d ∈ hexDigits width c.toNat,
      d ≠ '\\' ∧ d ≠ '\'' ∧ d ≠ '"' ∧ d ≠ 'x' := fun _ => plain_of_mem_hexDigits
  rw [hiddenEscape]
  split
  next small =>
    refine ⟨_, _, rfl, plain 2, ?_, fun _ => hexDigits_ne_nil 2 c.toNat, ?_, ?_, ?_, ?_⟩
    all_goals simp [isShortHidden, hidden, small, feed, carriage, tab, apart]
  next large =>
    split
    next =>
      refine ⟨_, _, rfl, plain 4, ?_, ?_, ?_, ?_, ?_, ?_⟩
      all_goals simp [isShortHidden, large, apart]
    next =>
      refine ⟨_, _, rfl, plain 8, ?_, ?_, ?_, ?_, ?_, ?_⟩
      all_goals simp [isShortHidden, large, apart]

theorem escape_bare {c mark : Char} (short : mark = 'x' ↔ isShortHidden c = true)
    (other : mark ≠ 'x') (backslash : mark = '\\' ↔ c = '\\') (quote : mark = '\'' → c = '\'')
    (doubleQuote : mark = '"' → c = '"') : Escape c mark [] :=
  ⟨List.forall_mem_nil _, short, fun same => absurd same other, backslash, fun _ => rfl, quote,
    doubleQuote⟩

theorem escape_named {c mark : Char} (named : c = '\n' ∧ mark = 'n' ∨ c = '\r' ∧ mark = 'r' ∨
    c = '\t' ∧ mark = 't') : Escape c mark [] := by
  rcases named with ⟨rfl, rfl⟩ | ⟨rfl, rfl⟩ | ⟨rfl, rfl⟩ <;> apply escape_bare <;> decide

theorem quotedChar_cases {quote : Char} (isQuote : quote = '\'' ∨ quote = '"') (c : Char) :
    (quotedChar quote c = [c] ∧ c ≠ quote ∧ c ≠ '\\' ∧ isShortHidden c = false) ∨
      ∃ mark digits, quotedChar quote c = '\\' :: mark :: digits ∧ Escape c mark digits := by
  rw [quotedChar]
  split
  next special =>
    refine .inr ⟨c, [], rfl, ?_⟩
    rcases special with rfl | rfl
    · rcases isQuote with rfl | rfl <;> apply escape_bare <;> decide
    · apply escape_bare <;> decide
  next ordinary =>
    rw [not_or] at ordinary
    split
    next feed => exact .inr ⟨'n', [], rfl, escape_named (.inl ⟨feed, rfl⟩)⟩
    next feed =>
      split
      next carriage => exact .inr ⟨'r', [], rfl, escape_named (.inr (.inl ⟨carriage, rfl⟩))⟩
      next carriage =>
        split
        next tab => exact .inr ⟨'t', [], rfl, escape_named (.inr (.inr ⟨tab, rfl⟩))⟩
        next tab =>
          split
          next visible => exact .inl ⟨rfl, ordinary.1, ordinary.2, by simp [isShortHidden, visible]⟩
          next hidden =>
            exact .inr (escape_hidden (Bool.not_eq_true _ ▸ hidden) feed carriage tab)

end Text

namespace Toml

open Text

theorem head_quoted (cs : List Char) :
    (cs.flatMap (quotedChar '\'')).head? ≠ some '\'' := by
  cases cs with
  | nil => simp
  | cons c rest =>
    rcases quotedChar_cases (.inl rfl) c with ⟨written, apart, _, _⟩ | ⟨mark, digits, written, _⟩
    · simpa [written] using apart
    · simp [written]

theorem replacePair_quoted (cs : List Char) :
    replacePair '\\' '\'' ['\''] (cs.flatMap (quotedChar '\'')) =
      cs.flatMap fun c => if c = '\'' then ['\''] else quotedChar '\'' c := by
  induction cs with
  | nil => rfl
  | cons c rest ih =>
    rw [List.flatMap_cons, List.flatMap_cons, ← ih]
    by_cases quote : c = '\''
    · subst quote
      rw [if_pos rfl]
      rfl
    · rw [if_neg quote]
      rcases quotedChar_cases (.inl rfl) c with
        ⟨written, _, apart, _⟩ | ⟨mark, digits, written, escape⟩
      · rw [written]
        exact replacePair_append (List.forall_mem_singleton.mpr apart) _
      · have other : mark ≠ '\'' := fun same => quote (escape.quote same)
        have plain : ∀ d ∈ digits, d ≠ '\\' := fun d member => (escape.plain d member).1
        rw [written, List.cons_append, List.cons_append,
          replacePair_cons (by simpa using other)]
        by_cases backslash : mark = '\\'
        · -- A backslash and the escape of what follows do not make an escaped quote.
          rw [backslash, escape.alone backslash, List.nil_append,
            replacePair_cons (head_quoted rest)]
          rfl
        · have front : ∀ d ∈ mark :: digits, d ≠ '\\' :=
            List.forall_mem_cons.mpr ⟨backslash, plain⟩
          exact congrArg ('\\' :: ·) (replacePair_append front _)

theorem quotedChar_quote (c : Char) :
    ((if c = '\'' then ['\''] else quotedChar '\'' c).flatMap fun d =>
        if d = '"' then ['\\', '"'] else [d]) = quotedChar '"' c := by
  by_cases single : c = '\''
  · subst single
    decide
  · by_cases double : c = '"'
    · subst double
      decide
    · have same : quotedChar '"' c = quotedChar '\'' c := by simp [quotedChar, single, double]
      rw [if_neg single, same]
      -- No escape has a double quote in it, so the second pass keeps what is written.
      have plain : ∀ d ∈ quotedChar '\'' c, d ≠ '"' := by
        rcases quotedChar_cases (.inl rfl) c with ⟨written, _⟩ | ⟨mark, digits, written, escape⟩
        · rw [written]
          exact List.forall_mem_singleton.mpr double
        · rw [written]
          refine List.forall_mem_cons.mpr ⟨by decide, List.forall_mem_cons.mpr ⟨?_, ?_⟩⟩
          · exact fun quote => double (escape.doubleQuote quote)
          · exact fun d member => (escape.plain d member).2.2.1
      generalize quotedChar '\'' c = chunk at plain
      induction chunk with
      | nil => rfl
      | cons d rest ih =>
        obtain ⟨here, behind⟩ := List.forall_mem_cons.mp plain
        rw [List.flatMap_cons, if_neg here, ih behind]
        rfl

theorem quotedContent_eq (cs : List Char) :
    quotedContent cs = cs.flatMap (quotedChar '"') := by
  rw [quotedContent]
  split
  next single =>
    rw [single, replacePair_quoted, replaceChar, List.flatMap_assoc]
    exact congrArg cs.flatMap (funext quotedChar_quote)
  next other =>
    have double : quoteFor cs = '"' := by
      rw [quoteFor] at other ⊢
      split <;> simp_all
    rw [double]

section SplitPair

variable {first second : Char}

theorem splitPair_ne_nil (cs : List Char) : splitPair first second cs ≠ [] := by
  induction cs using splitPair.induct first second with
  | case1 => simp [splitPair, *]
  | case2 => simp [splitPair, *]
  | case3 => simp [splitPair, *]
  | case4 => simp [splitPair]
  | case5 => simp [splitPair]

theorem splitPair_cons {c : Char} {rest : List Char}
    (apart : ¬ (c = first ∧ rest.head? = some second)) :
    ∃ piece more, splitPair first second rest = piece :: more ∧
      splitPair first second (c :: rest) = (c :: piece) :: more := by
  obtain ⟨piece, more, split⟩ := List.exists_cons_of_ne_nil (splitPair_ne_nil rest)
  refine ⟨piece, more, split, ?_⟩
  cases rest with
  | nil =>
    rw [splitPair] at split
    cases split
    rfl
  | cons d rest =>
    rw [splitPair, if_neg (by simpa using apart), split]

theorem splitPair_pair (rest : List Char) :
    splitPair first second (first :: second :: rest) = [] :: splitPair first second rest := by
  rw [splitPair, if_pos ⟨rfl, rfl⟩]

theorem length_splitPair (distinct : first ≠ second) (cs : List Char) :
    (splitPair first second cs).length = 1 ↔ ¬ [first, second] <:+: cs := by
  induction cs with
  | nil => simp [splitPair]
  | cons c rest ih =>
    rw [List.infix_cons_iff, not_or]
    by_cases pair : c = first ∧ rest.head? = some second
    · obtain ⟨rfl, head⟩ := pair
      obtain ⟨more, rfl⟩ := List.head?_eq_some_iff.mp head
      have pieces : 0 < (splitPair c second more).length :=
        List.length_pos_iff.mpr (splitPair_ne_nil more)
      refine iff_of_false ?_ fun none => none.1 (List.prefix_append [c, second] more)
      rw [splitPair_pair, List.length_cons]
      omega
    · obtain ⟨piece, more, split, whole⟩ := splitPair_cons pair
      rw [whole, List.length_cons, ← List.length_cons (a := piece), ← split, ih]
      have apart : ¬ [first, second] <+: c :: rest := by
        rintro ⟨tail, same⟩
        cases same
        exact pair ⟨rfl, rfl⟩
      exact (and_iff_right apart).symm

end SplitPair

theorem joiner_ne_nil (piece : List Char) : joiner piece ≠ [] := by
  rw [joiner]
  grind

theorem joinPieces_of_filled {first : List Char} (filled : first ≠ [])
    (pieces : List (List Char)) : ∃ joined, joinPieces first pieces = .ok joined := by
  induction pieces generalizing first with
  | nil => exact ⟨first, by rw [joinPieces.eq_def]⟩
  | cons second rest ih =>
    rw [joinPieces.eq_def]
    simp only [List.isEmpty_iff, filled, if_false]
    apply ih
    exact List.append_ne_nil_of_left_ne_nil
      (List.append_ne_nil_of_right_ne_nil _ (joiner_ne_nil _)) _

theorem joinPieces_nil {second : List Char} (filled : second ≠ []) (rest : List (List Char)) :
    (∃ joined, joinPieces [] (second :: rest) = .ok joined) ↔ rest ≠ [] := by
  -- The empty first piece is dropped, so the next one needs another to be joined to.
  rw [joinPieces.eq_def]
  simp only [List.isEmpty_nil, if_true]
  cases rest with
  | nil => simp
  | cons third more =>
    simp only [List.isEmpty_iff, filled, if_false, ne_eq, List.cons_ne_nil, not_false_eq_true,
      iff_true]
    apply joinPieces_of_filled
    exact List.append_ne_nil_of_left_ne_nil
      (List.append_ne_nil_of_right_ne_nil _ (joiner_ne_nil _)) _

section Pair

variable {first second : Char}

theorem pair_infix_append {front : List Char} (plain : ∀ c ∈ front, c ≠ first)
    (rest : List Char) :
    [first, second] <:+: front ++ rest ↔ [first, second] <:+: rest := by
  induction front with
  | nil => exact Iff.rfl
  | cons c front ih =>
    obtain ⟨here, behind⟩ := List.forall_mem_cons.mp plain
    rw [List.cons_append, List.infix_cons_iff, ih behind]
    refine or_iff_right fun start => ?_
    obtain ⟨tail, same⟩ := start
    exact here (List.cons.inj same).1.symm

theorem pair_infix_reverse {cs : List Char} :
    [second, first] <:+: cs.reverse ↔ [first, second] <:+: cs := by
  rw [← List.reverse_infix, List.reverse_reverse]
  rfl

theorem pair_infix_append_left {ending : List Char} (plain : ∀ c ∈ ending, c ≠ second)
    (rest : List Char) :
    [first, second] <:+: rest ++ ending ↔ [first, second] <:+: rest := by
  -- Read from the end, the ending is a front without the first of the two.
  have front : ∀ c ∈ ending.reverse, c ≠ second := fun c member =>
    plain c (List.mem_reverse.mp member)
  rw [← pair_infix_reverse, List.reverse_append, pair_infix_append front, pair_infix_reverse]

theorem pair_prefix_cons {rest : List Char} :
    [first, second] <+: first :: rest ↔ rest.head? = some second := by
  rw [List.cons_prefix_cons]
  cases rest with
  | nil => simp
  | cons d more => simp [List.cons_prefix_cons, eq_comm]

end Pair

theorem head_quoted_x (cs : List Char) :
    (cs.flatMap (quotedChar '"')).head? = some 'x' ↔ cs.head? = some 'x' := by
  cases cs with
  | nil => exact Iff.rfl
  | cons c rest =>
    rw [List.flatMap_cons]
    rcases quotedChar_cases (.inr rfl) c with ⟨written, _⟩ | ⟨mark, digits, written, _⟩
    · rw [written]
      exact Iff.rfl
    · have apart : c ≠ 'x' := by
        rintro rfl
        have itself : quotedChar '"' 'x' = ['x'] := by decide
        rw [itself] at written
        cases written
      rw [written]
      exact iff_of_false (by simp) (by simpa using apart)

theorem pair_infix_quoted (cs : List Char) :
    ['\\', 'x'] <:+: cs.flatMap (quotedChar '"') ↔
      (∃ c ∈ cs, isShortHidden c = true) ∨ ['\\', 'x'] <:+: cs := by
  induction cs with
  | nil => simp
  | cons c rest ih =>
    have apart : ((∃ d ∈ c :: rest, isShortHidden d = true) ∨ ['\\', 'x'] <:+: c :: rest) ↔
        isShortHidden c = true ∨ ['\\', 'x'] <+: c :: rest ∨
          ['\\', 'x'] <:+: rest.flatMap (quotedChar '"') := by
      rw [ih, List.infix_cons_iff]
      simp only [List.mem_cons, exists_eq_or_imp]
      exact or_assoc.trans (or_congr_right or_left_comm)
    have start {d : Char} {more : List Char} (other : d ≠ '\\') :
        ¬ ['\\', 'x'] <+: d :: more := fun pair =>
      other (List.cons_prefix_cons.mp pair).1.symm
    rw [apart, List.flatMap_cons]
    rcases quotedChar_cases (.inr rfl) c with
      ⟨written, _, other, visible⟩ | ⟨mark, digits, written, escape⟩
    · rw [written, pair_infix_append (List.forall_mem_singleton.mpr other)]
      simp [visible, start other]
    · rw [written, List.cons_append, List.cons_append]
      by_cases short : mark = 'x'
      · refine iff_of_true ?_ (.inl (escape.short.mp short))
        rw [short]
        exact (List.prefix_append ['\\', 'x'] _).isInfix
      · have visible : ¬ isShortHidden c = true := fun hidden => short (escape.short.mpr hidden)
        have own : ¬ ['\\', 'x'] <+: '\\' :: mark :: (digits ++ rest.flatMap (quotedChar '"')) := by
          rw [pair_prefix_cons]
          simpa using short
        rw [List.infix_cons_iff, or_iff_right own, or_iff_right visible]
        by_cases backslash : mark = '\\'
        · -- Only here does what is written for the next character matter.
          rw [escape.alone backslash, backslash, escape.backslash.mp backslash, List.nil_append,
            List.infix_cons_iff, pair_prefix_cons, pair_prefix_cons, head_quoted_x]
        · have other : c ≠ '\\' := fun same => backslash (escape.backslash.mpr same)
          have front : ∀ d ∈ mark :: digits, d ≠ '\\' :=
            List.forall_mem_cons.mpr ⟨backslash, fun d member => (escape.plain d member).1⟩
          rw [or_iff_right (start other)]
          exact pair_infix_append front _

theorem quoted_of_pieces {text : String} {first : List Char} {rest : List (List Char)}
    (split : splitPair '\\' 'x' (text.toList.flatMap (quotedChar '"')) = first :: rest) :
    (∃ written, quoted text = .ok written) ↔ ∃ cs, joinPieces first rest = .ok cs := by
  simp only [quoted, quotedContent_eq, split]
  cases joinPieces first rest <;> simp

section Quoted

variable {text : String} {c : Char} {rest : List Char}

theorem quoted_of_visible (chars : text.toList = c :: rest) (visible : isShortHidden c = false) :
    ∃ written, quoted text = .ok written := by
  -- Something stands before the first escape of the text.
  have filled {d : Char} {more : List Char}
      (content : text.toList.flatMap (quotedChar '"') = d :: more)
      (apart : ¬ (d = '\\' ∧ more.head? = some 'x')) : ∃ written, quoted text = .ok written := by
    obtain ⟨piece, pieces, _, split⟩ := splitPair_cons apart
    rw [← content] at split
    exact (quoted_of_pieces split).mpr (joinPieces_of_filled (List.cons_ne_nil _ _) _)
  rw [chars, List.flatMap_cons] at filled
  rcases quotedChar_cases (.inr rfl) c with ⟨written, _, other, _⟩ | ⟨mark, digits, written, escape⟩
  · rw [written] at filled
    exact filled rfl fun pair => other pair.1
  · have other : mark ≠ 'x' := fun short => by simp [escape.short.mp short] at visible
    rw [written] at filled
    exact filled rfl fun pair => other (by simpa using pair.2)

theorem quoted_of_hidden (chars : text.toList = c :: rest) (hidden : isShortHidden c = true) :
    (∃ written, quoted text = .ok written) ↔
      (∃ d ∈ rest, isShortHidden d = true) ∨ ['\\', 'x'] <:+: rest := by
  rcases quotedChar_cases (.inr rfl) c with ⟨_, _, _, visible⟩ | ⟨mark, digits, written, escape⟩
  · rw [visible] at hidden
    cases hidden
  · have short := escape.short.mpr hidden
    have plain : ∀ d ∈ digits, d ≠ '\\' := fun d member => (escape.plain d member).1
    obtain ⟨d, more, filled⟩ := List.exists_cons_of_ne_nil (escape.filled short)
    have apart : ¬ (d = '\\' ∧ (more ++ rest.flatMap (quotedChar '"')).head? = some 'x') :=
      fun pair => plain d (filled ▸ List.mem_cons_self) pair.1
    obtain ⟨piece, pieces, _, split⟩ := splitPair_cons apart
    rw [← List.cons_append, ← filled] at split
    -- The escape at the start is cut at once, so all depends on whether there is a second cut.
    have whole : splitPair '\\' 'x' (text.toList.flatMap (quotedChar '"')) =
        [] :: (d :: piece) :: pieces := by
      rw [chars, List.flatMap_cons, written, short, List.cons_append, List.cons_append,
        splitPair_pair, split]
    have single := length_splitPair (by decide : '\\' ≠ 'x')
      (digits ++ rest.flatMap (quotedChar '"'))
    rw [pair_infix_append plain, pair_infix_quoted, split, List.length_cons, Nat.add_eq_right,
      List.length_eq_zero_iff] at single
    rw [quoted_of_pieces whole, joinPieces_nil (List.cons_ne_nil _ _), Ne, single,
      Classical.not_not]

def HasSpelling (text : String) : Prop :=
  ∀ c rest, text.toList = c :: rest → isShortHidden c = true →
    (∃ d ∈ rest, isShortHidden d = true) ∨ ['\\', 'x'] <:+: rest

theorem quoted_eq_ok_iff (text : String) :
    (∃ written, quoted text = .ok written) ↔ HasSpelling text := by
  constructor
  · intro written c rest chars hidden
    exact (quoted_of_hidden chars hidden).mp written
  · intro spelling
    cases chars : text.toList with
    | nil =>
      have whole : (∃ written, quoted text = .ok written) ↔ ∃ cs, joinPieces [] [] = .ok cs :=
        quoted_of_pieces (by rw [chars]; rfl)
      exact whole.mpr ⟨[], by rw [joinPieces.eq_def]⟩
    | cons c rest =>
      cases hidden : isShortHidden c with
      | true => exact (quoted_of_hidden chars hidden).mpr (spelling c rest chars hidden)
      | false => exact quoted_of_visible chars hidden

end Quoted

theorem pair_infix_map {f : Char → Char} (backslash : ∀ c, f c = '\\' ↔ c = '\\')
    (letter : ∀ c, f c = 'x' ↔ c = 'x') (cs : List Char) :
    ['\\', 'x'] <:+: cs.map f ↔ ['\\', 'x'] <:+: cs := by
  induction cs with
  | nil => exact Iff.rfl
  | cons c rest ih =>
    have start : ['\\', 'x'] <+: f c :: rest.map f ↔ ['\\', 'x'] <+: c :: rest := by
      rw [List.cons_prefix_cons, List.cons_prefix_cons, eq_comm, backslash, eq_comm (a := c)]
      refine and_congr_right fun _ => ?_
      cases rest with
      | nil => exact Iff.rfl
      | cons d more => simp [List.cons_prefix_cons, eq_comm, letter]
    rw [List.map_cons, List.infix_cons_iff, List.infix_cons_iff, start, ih]

theorem hasSpelling_map {f : Char → Char} (backslash : ∀ c, f c = '\\' ↔ c = '\\')
    (letter : ∀ c, f c = 'x' ↔ c = 'x') (hidden : ∀ c, isShortHidden (f c) = isShortHidden c)
    (text : String) : HasSpelling (String.ofList (text.toList.map f)) ↔ HasSpelling text := by
  rw [HasSpelling, HasSpelling, String.toList_ofList]
  cases text.toList with
  | nil => exact iff_of_true nofun nofun
  | cons c rest =>
    have behind : ((∃ d ∈ rest.map f, isShortHidden d = true) ∨ ['\\', 'x'] <:+: rest.map f) ↔
        (∃ d ∈ rest, isShortHidden d = true) ∨ ['\\', 'x'] <:+: rest := by
      simp only [List.mem_map, exists_exists_and_eq_and, hidden, pair_infix_map backslash letter]
    constructor
    · rintro spelling _ _ ⟨⟩ short
      exact behind.mp (spelling (f c) (rest.map f) rfl ((hidden c).trans short))
    · rintro spelling _ _ ⟨⟩ short
      exact behind.mpr (spelling c rest rfl ((hidden c).symm.trans short))

theorem hasSpelling_append {ending : String}
    (plain : (ending.toList.all fun c => !isShortHidden c && c != 'x') = true) (text : String) :
    HasSpelling (text ++ ending) ↔ HasSpelling text := by
  have visible : ∀ c ∈ ending.toList, isShortHidden c = false ∧ c ≠ 'x' := by simpa using plain
  rw [HasSpelling, HasSpelling, String.toList_append]
  have shown : ∀ c ∈ ending.toList, ¬ isShortHidden c = true := fun c member hidden =>
    Bool.false_ne_true ((visible c member).1.symm.trans hidden)
  cases text.toList with
  | nil =>
    refine iff_of_true (fun c rest chars hidden => ?_) nofun
    rw [List.nil_append] at chars
    exact absurd hidden (shown c (chars ▸ List.mem_cons_self))
  | cons c rest =>
    have behind : ((∃ d ∈ rest ++ ending.toList, isShortHidden d = true) ∨
        ['\\', 'x'] <:+: rest ++ ending.toList) ↔
        (∃ d ∈ rest, isShortHidden d = true) ∨ ['\\', 'x'] <:+: rest := by
      refine or_congr ?_ (pair_infix_append_left (fun d member => (visible d member).2) rest)
      simp only [List.mem_append, or_and_right, exists_or]
      refine or_iff_left ?_
      rintro ⟨d, member, hidden⟩
      exact shown d member hidden
    constructor
    · rintro spelling _ _ ⟨⟩ short
      exact behind.mp (spelling c _ rfl short)
    · rintro spelling _ _ ⟨⟩ short
      exact behind.mpr (spelling c rest rfl short)

instance (text : String) : Decidable (HasSpelling text) :=
  decidable_of_iff ((quoted text).toOption.isSome = true) <| by
    rw [← quoted_eq_ok_iff]
    cases quoted text <;> simp [Except.toOption]

end Toml
end OpenApiClient
