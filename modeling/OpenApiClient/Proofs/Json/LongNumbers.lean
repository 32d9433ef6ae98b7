import Mathlib.Data.List.TakeWhile
import OpenApiClient.Json.Read

set_option autoImplicit false

namespace OpenApiClient.Json

open Text (isAsciiDigit)

namespace Reader

def ExpectsValue (reader : Reader) : Prop :=
  reader.expected = .value ∨ reader.expected = .valueOrEnd

theorem close_ne_longInteger (stack : List Container) (token : Token) :
    close stack token ≠ .error .longInteger := by
  rw [close.eq_def]
  split <;> nofun

theorem key_ne_longInteger (stack : List Container) (token : Token) :
    key stack token ≠ .error .longInteger := by
  rw [key.eq_def]
  split <;> nofun

theorem value_longInteger_iff (stack : List Container) (token : Token) :
    value stack token = .error .longInteger ↔ token = .longInteger := by
  cases token <;> simp [value]

theorem step_longInteger_iff (reader : Reader) (token : Token) :
    reader.step token = .error .longInteger ↔ token = .longInteger ∧ reader.ExpectsValue := by
  rw [step.eq_def, ExpectsValue]
  cases expected : reader.expected with
  | value => simp [value_longInteger_iff]
  | valueOrEnd =>
    cases token
    case closeArray => simp [close_ne_longInteger]
    all_goals simp [value_longInteger_iff]
  | key => simp [key_ne_longInteger]
  | keyOrEnd =>
    cases token
    case closeObject => simp [close_ne_longInteger]
    all_goals simp [key_ne_longInteger]
  | colon => cases token <;> simp
  | separator =>
    simp only [reduceCtorEq, or_self, and_false, iff_false]
    split <;> simp [close_ne_longInteger]
  | nothing => simp

def MeetsLongInteger (reader : Reader) (tokens : List Token) : Prop :=
  ∃ before after reached, tokens = before ++ .longInteger :: after ∧
    before.foldlM step reader = .ok reached ∧ reached.ExpectsValue

theorem meetsLongInteger_nil (reader : Reader) : ¬ reader.MeetsLongInteger [] := by
  rintro ⟨before, after, _, split, _⟩
  cases before <;> cases split

theorem meetsLongInteger_cons (reader : Reader) (token : Token) (rest : List Token) :
    reader.MeetsLongInteger (token :: rest) ↔
      (token = .longInteger ∧ reader.ExpectsValue) ∨
        ∃ next, reader.step token = .ok next ∧ next.MeetsLongInteger rest := by
  constructor
  · rintro ⟨before, after, reached, split, steps, expects⟩
    cases before with
    | nil =>
      cases split
      cases steps
      exact .inl ⟨rfl, expects⟩
    | cons first before =>
      cases split
      cases stepped : reader.step token with
      | error error =>
        rw [List.foldlM_cons, stepped] at steps
        cases steps
      | ok next =>
        rw [List.foldlM_cons, stepped] at steps
        exact .inr ⟨next, rfl, before, after, reached, rfl, steps, expects⟩
  · rintro (⟨rfl, expects⟩ | ⟨next, stepped, before, after, reached, rfl, steps, expects⟩)
    · exact ⟨[], rest, reader, rfl, rfl, expects⟩
    · refine ⟨token :: before, after, reached, rfl, ?_, expects⟩
      rw [List.foldlM_cons, stepped]
      exact steps

theorem run_longInteger_iff (reader : Reader) (tokens : List Token) :
    reader.run tokens = .error .longInteger ↔ reader.MeetsLongInteger tokens := by
  induction tokens generalizing reader with
  | nil =>
    rw [run]
    refine iff_of_false ?_ reader.meetsLongInteger_nil
    split <;> nofun
  | cons token rest ih =>
    rw [run, meetsLongInteger_cons, ← step_longInteger_iff]
    cases stepped : reader.step token with
    | error error => simp
    | ok next => simpa using ih next

end Reader

def HasLongNumber (cs : List Char) : Prop :=
  ∃ digits, digits <:+: cs ∧ wholeDigitLimit < digits.length ∧ ∀ c ∈ digits, isAsciiDigit c = true

theorem HasLongNumber.mono {cs more : List Char} (has : HasLongNumber cs) (inside : cs <:+: more) :
    HasLongNumber more := by
  obtain ⟨digits, part, long, all⟩ := has
  exact ⟨digits, part.trans inside, long, all⟩

theorem hasLongNumber_of_number? {negative : Bool} {cs : List Char}
    (long : number? negative cs = some .longInteger) : HasLongNumber cs := by
  simp only [number?] at long
  split at long
  next => cases long
  next =>
    split at long
    next limit =>
      refine ⟨cs.takeWhile isAsciiDigit, (List.takeWhile_prefix _).isInfix, limit.1, ?_⟩
      exact fun c member => List.mem_takeWhile_imp member
    -- Digits that are converted give a number.
    next =>
      split at long
      next => cases long
      next =>
        split at long
        next => cases long
        next =>
          obtain ⟨_, _, same⟩ := Option.map_eq_some_iff.mp long
          cases same
      next =>
        obtain ⟨_, _, same⟩ := Option.map_eq_some_iff.mp long
        cases same

theorem hasLongNumber_of_word {cs : List Char} (long : word cs = .longInteger) :
    HasLongNumber cs := by
  delta word at long
  -- A number is read only when the word is none of the constants.
  repeat
    split at long
    next => cases long
  have found {number : Option Token} (long : number.getD .unreadable = .longInteger) :
      number = some .longInteger := by
    cases number with
    | none => cases long
    | some token => exact congrArg some long
  split at long
  next =>
    exact (hasLongNumber_of_number? (found long)).mono (List.suffix_cons _ _).isInfix
  next => exact hasLongNumber_of_number? (found long)

namespace Lexer

variable {read : List Char} {lexer next : Lexer} {c : Char}

structure Sound (read : List Char) (lexer : Lexer) : Prop where
  inside : ∀ reversed, lexer.inside = .word reversed →
    reversed.reverse <:+ read ∧ lexer.failed = false
  long : .longInteger ∈ lexer.reversed → HasLongNumber read

theorem Sound.go (sound : Sound read lexer)
    (word : ∀ reversed, next.inside = .word reversed →
      reversed.reverse <:+ read ++ [c] ∧ next.failed = false)
    (tokens : .longInteger ∈ next.reversed → .longInteger ∈ lexer.reversed) :
    Sound (read ++ [c]) next where
  inside := word
  long := fun member => (sound.long (tokens member)).mono (List.prefix_append _ _).isInfix

theorem Sound.endWord (sound : Sound read lexer) {reversed : List Char}
    (inside : lexer.inside = .word reversed) : Sound read (lexer.endWord reversed) := by
  obtain ⟨suffix, _⟩ := sound.inside reversed inside
  rw [Lexer.endWord.eq_def]
  split
  next =>
    refine ⟨nofun, fun member => sound.long ?_⟩
    simpa [fail] using member
  next token ended =>
    refine ⟨nofun, fun member => ?_⟩
    rcases List.mem_cons.mp member with long | earlier
    · exact (hasLongNumber_of_word long.symm).mono suffix.isInfix
    · exact sound.long earlier

theorem Sound.push (sound : Sound read lexer) {token : Token} (other : token ≠ .longInteger) :
    Sound (read ++ [c]) (lexer.push token) := by
  refine sound.go nofun fun member => ?_
  rcases List.mem_cons.mp member with same | earlier
  · exact absurd same.symm other
  · exact earlier

theorem Sound.fail (sound : Sound read lexer) : Sound (read ++ [c]) lexer.fail := by
  refine sound.go nofun fun member => ?_
  rcases List.mem_cons.mp member with same | earlier
  · cases same
  · exact earlier

theorem Sound.enter (sound : Sound read lexer) {inside : Inside}
    (other : ∀ reversed, inside ≠ .word reversed) :
    Sound (read ++ [c]) { lexer with inside := inside } :=
  sound.go (fun reversed same => absurd same (other reversed)) id

theorem Sound.stopped (sound : Sound read lexer) (failed : lexer.failed = true) :
    Sound (read ++ [c]) lexer := by
  refine sound.go (fun reversed inside => ?_) id
  rw [(sound.inside reversed inside).2] at failed
  cases failed

theorem Sound.between (sound : Sound read lexer) (sane : lexer.failed = false) (c : Char) :
    Sound (read ++ [c]) (lexer.between c) := by
  rw [Lexer.between.eq_def]
  split
  case h_12 =>
    split
    next =>
      refine sound.go ?_ id
      rintro reversed ⟨⟩
      exact ⟨List.suffix_append _ _, sane⟩
    next => exact sound.fail
  all_goals first | exact sound.push nofun | exact sound.enter nofun

theorem Sound.step (sound : Sound read lexer) (c : Char) :
    Sound (read ++ [c]) (lexer.step c) := by
  rw [Lexer.step.eq_def]
  split
  next failed => exact sound.stopped failed
  next sane =>
    rw [Bool.not_eq_true] at sane
    split
    case h_1 => exact sound.between sane c
    case h_2 reversed inside =>
      split
      next =>
        refine sound.go ?_ id
        rintro _ ⟨⟩
        obtain ⟨before, whole⟩ := (sound.inside reversed inside).1
        exact ⟨⟨before, by rw [List.reverse_cons, ← whole, List.append_assoc]⟩, sane⟩
      next =>
        have ended := sound.endWord inside
        simp only
        split
        next failed => exact ended.stopped failed
        next going => exact ended.between (Bool.not_eq_true _ ▸ going) c
    case h_3 =>
      split
      next => exact sound.push nofun
      next =>
        split
        next => exact sound.enter nofun
        next => split <;> first | exact sound.fail | exact sound.enter nofun
    case h_4 =>
      split
      next => exact sound.enter nofun
      next => split <;> first | exact sound.fail | exact sound.enter nofun
    case h_5 =>
      split
      next => exact sound.fail
      next =>
        simp only
        split <;> exact sound.enter nofun

theorem Sound.finish (sound : Sound read lexer) (long : .longInteger ∈ lexer.finish) :
    HasLongNumber read := by
  rw [Lexer.finish.eq_def, List.mem_reverse] at long
  split at long
  next => exact sound.long long
  next reversed inside => exact (sound.endWord inside).long long
  next =>
    rcases List.mem_cons.mp long with same | earlier
    · cases same
    · exact sound.long earlier

end Lexer

theorem hasLongNumber_of_tokens {text : String} (long : .longInteger ∈ tokens text) :
    HasLongNumber text.toList := by
  have sound (read cs : List Char) (lexer : Lexer) (start : Lexer.Sound read lexer) :
      Lexer.Sound (read ++ cs) (cs.foldl Lexer.step lexer) := by
    induction cs generalizing read lexer with
    | nil => simpa using start
    | cons c rest ih =>
      rw [List.foldl_cons]
      simpa using ih _ _ (start.step c)
  have start : Lexer.Sound [] Lexer.start := ⟨nofun, nofun⟩
  exact (sound [] text.toList Lexer.start start).finish long

def MeetsLongNumber (text : String) : Prop :=
  ∃ before after reached, tokens text = before ++ .longInteger :: after ∧
    before.foldlM Reader.step .start = .ok reached ∧ reached.ExpectsValue

theorem read_longInteger_iff (text : String) :
    read text = .error .longInteger ↔ MeetsLongNumber text :=
  Reader.run_longInteger_iff .start (tokens text)

theorem MeetsLongNumber.hasLongNumber {text : String} (meets : MeetsLongNumber text) :
    HasLongNumber text.toList := by
  obtain ⟨before, after, _, split, _⟩ := meets
  exact hasLongNumber_of_tokens (split ▸ List.mem_append_right before List.mem_cons_self)

end OpenApiClient.Json
