import Mathlib.Data.List.Chain
import Mathlib.Data.List.Nodup
import OpenApiClient.Reference.Resolve

set_option autoImplicit false

namespace OpenApiClient.Reference

variable {components : Components}

def component? (components : Components) (pointer : String) : Option (Kind × Handle Entity) :=
  match Pointer.parse pointer with
  | .error _ => none
  | .ok target =>
      match Kind.ofCategory? target.category with
      | none => none
      | some kind => (components.find? kind target.name).map fun handle => (kind, handle)

def next? (components : Components) (pointer : String) : Option String :=
  (component? components pointer).bind fun entry => entry.2.pointer?

/-- The pointers one after another, until one has no next. -/
def walk (components : Components) (pointer : String) : Nat → Option String
  | 0 => some pointer
  | steps + 1 => (walk components pointer steps).bind (next? components)

/-- What the last pointer of a walk stands for. -/
inductive Answers (components : Components) (pointer : String) :
    Except Failure (Option Resolved) → Prop
  | malformed (reason : String)
      (unread : Pointer.parse pointer = .error (.invalidReference pointer reason)) :
      Answers components pointer (.error (.invalidReference pointer reason))
  | unknownCategory (target : Pointer.Target) (read : Pointer.parse pointer = .ok target)
      (unknown : Kind.ofCategory? target.category = none) :
      Answers components pointer (.ok none)
  | missing (target : Pointer.Target) (kind : Kind) (read : Pointer.parse pointer = .ok target)
      (known : Kind.ofCategory? target.category = some kind)
      (absent : components.find? kind target.name = none) :
      Answers components pointer (.ok none)
  | present (target : Pointer.Target) (kind : Kind) (entity : Entity)
      (read : Pointer.parse pointer = .ok target)
      (known : Kind.ofCategory? target.category = some kind)
      (found : components.find? kind target.name = some (.inline entity)) :
      Answers components pointer (.ok (some ⟨kind, entity, false⟩))

structure Trail (components : Components) (pointer : String) (trail : List String) : Prop where
  head : trail.head? = some pointer
  linked : trail.IsChain fun a b => next? components a = some b
  distinct : trail.Nodup

/-- The pointers of a cycle as they are reported: the last one closes the cycle. -/
structure Closed (components : Components) (pointer : String) (chain : List String) : Prop where
  head : chain.head? = some pointer
  linked : chain.IsChain fun a b => next? components a = some b
  distinct : chain.dropLast.Nodup
  repeated : ∃ last ∈ chain.dropLast, chain.getLast? = some last

theorem parse_failure {pointer : String} {failure : Failure}
    (unread : Pointer.parse pointer = .error failure) :
    ∃ reason, failure = .invalidReference pointer reason := by
  unfold Pointer.parse at unread
  grind

theorem next?_eq_of_find? {pointer : String} {target : Pointer.Target} {kind : Kind}
    (read : Pointer.parse pointer = .ok target)
    (known : Kind.ofCategory? target.category = some kind) :
    next? components pointer =
      (components.find? kind target.name).bind Handle.pointer? := by
  simp only [next?, component?, read, known]
  cases components.find? kind target.name <;> rfl

theorem mem_storedPointers_of_next? {pointer next : String}
    (step : next? components pointer = some next) : next ∈ components.storedPointers := by
  obtain ⟨⟨kind, handle⟩, entered, held⟩ := Option.bind_eq_some_iff.mp step
  simp only [component?] at entered
  split at entered
  next => simp at entered
  next target read =>
    split at entered
    next => simp at entered
    next kind known =>
      obtain ⟨handle, found, same⟩ := Option.map_eq_some_iff.mp entered
      obtain ⟨rfl, rfl⟩ := Prod.mk.inj same
      exact Components.mem_storedPointers found held

theorem Trail.start (components : Components) (pointer : String) :
    Trail components pointer [pointer] :=
  ⟨rfl, .singleton _, List.nodup_singleton _⟩

section Step

variable {first pointer next : String} {trail : List String}

theorem Trail.head_concat (walked : Trail components first trail) :
    (trail ++ [next]).head? = some first := by
  simp [List.head?_append, walked.head]

theorem Trail.linked_concat (walked : Trail components first trail)
    (last : trail.getLast? = some pointer) (step : next? components pointer = some next) :
    (trail ++ [next]).IsChain fun a b => next? components a = some b := by
  refine List.isChain_append.mpr ⟨walked.linked, .singleton _, ?_⟩
  intro a lastA b headB
  simp_all

theorem Trail.extend (walked : Trail components first trail)
    (last : trail.getLast? = some pointer) (step : next? components pointer = some next)
    (new : next ∉ trail) : Trail components first (trail ++ [next]) where
  head := walked.head_concat
  linked := walked.linked_concat last step
  distinct := by
    refine List.nodup_append.mpr ⟨walked.distinct, List.nodup_singleton _, ?_⟩
    intro a member b single same
    simp_all

theorem Trail.close (walked : Trail components first trail)
    (last : trail.getLast? = some pointer) (step : next? components pointer = some next)
    (seen : next ∈ trail) : Closed components first (trail ++ [next]) where
  head := walked.head_concat
  linked := walked.linked_concat last step
  distinct := by simpa using walked.distinct
  repeated := ⟨next, by simpa using seen, by simp⟩

end Step

theorem follow_trail {first pointer : String} {seen : List String}
    (walked : Trail components first seen) (last : seen.getLast? = some pointer) :
    (∃ trail final, Trail components first trail ∧ trail.getLast? = some final ∧
      next? components final = none ∧
        Answers components final (follow components seen pointer).outcome) ∨
    ∃ chain, (follow components seen pointer).outcome = .error (.referenceCycle chain) ∧
      Closed components first chain := by
  -- The trail so far is the list of pointers seen: only `case5` makes it longer.
  fun_induction follow components seen pointer with
  | case1 seen pointer failure unread =>
    obtain ⟨reason, rfl⟩ := parse_failure unread
    exact .inl ⟨seen, pointer, walked, last, by simp [next?, component?, unread],
      .malformed reason unread⟩
  | case2 seen pointer target read unknown =>
    exact .inl ⟨seen, pointer, walked, last, by simp [next?, component?, read, unknown],
      .unknownCategory target read unknown⟩
  | case3 seen pointer target read kind known absent =>
    exact .inl ⟨seen, pointer, walked, last, by simp [next?_eq_of_find? read known, absent],
      .missing target kind read known absent⟩
  | case4 seen pointer target read kind known handle found next held again =>
    have step : next? components pointer = some next := by
      simp [next?_eq_of_find? read known, found, held]
    exact .inr ⟨_, rfl, walked.close last step again⟩
  | case5 seen pointer target read kind known handle found next held new ih =>
    have step : next? components pointer = some next := by
      simp [next?_eq_of_find? read known, found, held]
    exact ih (walked.extend last step new) (by simp)
  | case6 seen pointer target read kind known entity found held =>
    exact .inl ⟨seen, pointer, walked, last, by simp [next?_eq_of_find? read known, found, held],
      .present target kind entity read known found⟩
  | case7 seen pointer target read kind known other found held => simp [Handle.pointer?] at held

theorem walk_succ {pointer : String} {steps : Nat} {here : String}
    (reached : walk components pointer steps = some here) :
    walk components pointer (steps + 1) = next? components here := by
  simp [walk, reached]

theorem walk_none_of_le {pointer : String} {steps later : Nat}
    (ended : walk components pointer steps = none) (le : steps ≤ later) :
    walk components pointer later = none := by
  induction later, le using Nat.le_induction with
  | base => exact ended
  | succ later _ ih => simp [walk, ih]

theorem Trail.walk_eq {pointer : String} {trail : List String}
    (walked : Trail components pointer trail) {steps : Nat} (inside : steps < trail.length) :
    walk components pointer steps = some trail[steps] := by
  induction steps with
  | zero =>
    have head := walked.head
    rw [List.head?_eq_getElem?, List.getElem?_eq_getElem inside] at head
    simpa [walk] using head.symm
  | succ steps ih =>
    have step := List.isChain_iff_getElem.mp walked.linked steps inside
    rw [walk_succ (ih (by omega)), step]

theorem Trail.length_le {pointer : String} {trail : List String}
    (walked : Trail components pointer trail) :
    trail.length ≤ components.storedPointers.length + 1 := by
  have stored : trail.tail ⊆ components.storedPointers := by
    intro next member
    obtain ⟨index, inside, rfl⟩ := List.mem_iff_getElem.mp member
    rw [List.getElem_tail]
    rw [List.length_tail] at inside
    exact mem_storedPointers_of_next?
      (List.isChain_iff_getElem.mp walked.linked index (by omega))
  have bound := walked.distinct.tail.length_le_of_subset stored
  rw [List.length_tail] at bound
  omega

theorem Closed.trail {pointer : String} {chain : List String}
    (closed : Closed components pointer chain) : Trail components pointer chain.dropLast where
  head := by
    obtain ⟨last, member, _⟩ := closed.repeated
    have long := List.length_pos_of_mem member
    rw [List.length_dropLast] at long
    rw [List.head?_dropLast, closed.head, if_pos (by omega)]
  linked := closed.linked.dropLast
  distinct := closed.distinct

theorem Closed.next_mem {pointer here : String} {chain : List String}
    (closed : Closed components pointer chain) (member : here ∈ chain.dropLast) :
    ∃ next ∈ chain.dropLast, next? components here = some next := by
  obtain ⟨index, inside, rfl⟩ := List.mem_iff_getElem.mp member
  rw [List.length_dropLast] at inside
  have step := List.isChain_iff_getElem.mp closed.linked index (by omega)
  rw [List.getElem_dropLast]
  refine ⟨_, ?_, step⟩
  obtain ⟨last, again, ending⟩ := closed.repeated
  by_cases final : index + 1 = chain.length - 1
  · rw [List.getLast?_eq_getElem?, ← final, List.getElem?_eq_getElem (by omega)] at ending
    rw [Option.some.inj ending]
    exact again
  · exact List.mem_iff_getElem.mpr ⟨index + 1, by rw [List.length_dropLast]; omega, by simp⟩

theorem Closed.walk_mem {pointer : String} {chain : List String}
    (closed : Closed components pointer chain) (steps : Nat) :
    ∃ here ∈ chain.dropLast, walk components pointer steps = some here := by
  induction steps with
  | zero =>
    have head := closed.trail.head
    exact ⟨pointer, List.mem_of_mem_head? head, rfl⟩
  | succ steps ih =>
    obtain ⟨here, member, reached⟩ := ih
    obtain ⟨next, again, step⟩ := closed.next_mem member
    exact ⟨next, again, by rw [walk_succ reached, step]⟩

theorem resolve_cases (components : Components) (pointer : String) :
    (∃ steps last, steps ≤ components.storedPointers.length ∧
      walk components pointer steps = some last ∧ walk components pointer (steps + 1) = none ∧
      Answers components last (resolve components pointer).outcome) ∨
    ∃ chain, (resolve components pointer).outcome = .error (.referenceCycle chain) ∧
      Closed components pointer chain := by
  rcases follow_trail (Trail.start components pointer) rfl with
    ⟨trail, final, walked, last, ended, answer⟩ | cycle
  · left
    have filled : trail ≠ [] := by
      rintro rfl
      simp at last
    have positive := List.length_pos_iff.mpr filled
    have bound := walked.length_le
    have reached : walk components pointer (trail.length - 1) = some final := by
      rw [walked.walk_eq (by omega)]
      rw [List.getLast?_eq_getElem?, List.getElem?_eq_getElem (by omega)] at last
      exact last
    refine ⟨trail.length - 1, final, by omega, reached, ?_, answer⟩
    rw [walk_succ reached, ended]
  · exact .inr cycle

theorem Answers.not_cycle {pointer : String} {chain : List String} :
    ¬ Answers components pointer (.error (.referenceCycle chain)) := by
  rintro ⟨⟩

theorem Answers.unique {pointer : String} {one other : Except Failure (Option Resolved)}
    (first : Answers components pointer one) (second : Answers components pointer other) :
    one = other := by
  cases first with
  | malformed reason unread => cases second <;> simp_all
  | unknownCategory target read unknown => cases second <;> simp_all
  | missing target kind read known absent => cases second <;> simp_all
  | present target kind entity read known found => cases second <;> simp_all

theorem walk_end_unique {pointer last other : String} {steps more : Nat}
    (reached : walk components pointer steps = some last)
    (ended : walk components pointer (steps + 1) = none)
    (reachedOther : walk components pointer more = some other)
    (endedOther : walk components pointer (more + 1) = none) : steps = more := by
  rcases Nat.lt_trichotomy steps more with less | same | greater
  · rw [walk_none_of_le ended less] at reachedOther
    cases reachedOther
  · exact same
  · rw [walk_none_of_le endedOther greater] at reached
    cases reached

/-- Resolving a pointer ends, and its outcome is what the walk from the pointer gives. -/
theorem resolve_outcome (components : Components) (pointer : String) :
    (∀ steps last, walk components pointer steps = some last →
      walk components pointer (steps + 1) = none →
        steps ≤ components.storedPointers.length ∧
          Answers components last (resolve components pointer).outcome) ∧
    ((∀ steps, walk components pointer steps ≠ none) →
      ∃ chain, (resolve components pointer).outcome = .error (.referenceCycle chain) ∧
        Closed components pointer chain ∧
          chain.length ≤ components.storedPointers.length + 2) ∧
    ((∃ chain, (resolve components pointer).outcome = .error (.referenceCycle chain)) ↔
      ∀ steps, walk components pointer steps ≠ none) := by
  rcases resolve_cases components pointer with
    ⟨steps, last, bound, reached, ended, answer⟩ | ⟨chain, outcome, closed⟩
  · refine ⟨?_, fun endless => absurd ended (endless _), ?_,
      fun endless => absurd ended (endless _)⟩
    · intro more other reachedOther endedOther
      obtain rfl := walk_end_unique reached ended reachedOther endedOther
      obtain rfl := Option.some.inj (reached.symm.trans reachedOther)
      exact ⟨bound, answer⟩
    · rintro ⟨chain, outcome⟩
      rw [outcome] at answer
      exact absurd answer Answers.not_cycle
  · have endless (steps : Nat) : walk components pointer steps ≠ none := by
      obtain ⟨here, _, reached⟩ := closed.walk_mem steps
      simp [reached]
    have bound := closed.trail.length_le
    rw [List.length_dropLast] at bound
    refine ⟨fun steps last _ ended => absurd ended (endless _), fun _ => ?_, fun _ => endless, ?_⟩
    · exact ⟨chain, outcome, closed, by omega⟩
    · exact fun _ => ⟨chain, outcome⟩

def ResolvesToSchema (components : Components) (pointer : String) : Prop :=
  ∃ resolved, (resolve components pointer).outcome = .ok (some resolved) ∧ resolved.kind = .schema

/-- The walk from the pointer ends at a registered schema that is no pointer itself. -/
def LeadsToSchema (components : Components) (pointer : String) : Prop :=
  ∃ steps last name schema, walk components pointer steps = some last ∧
    Pointer.parse last = .ok ⟨"schemas", name⟩ ∧
    Entries.get? components.schemas name = some schema ∧ schema.isPointer = false

theorem find?_schema (components : Components) (name : String) :
    components.find? .schema name =
      (Entries.get? components.schemas name).map fun schema => .inline (.schema schema) := by
  rw [Components.find?, Components.registry]
  exact Entries.get?_map components.schemas (Handle.inline ∘ Entity.schema) name

theorem ofCategory?_eq_schema {category : String}
    (known : Kind.ofCategory? category = some .schema) : category = "schemas" := by
  rw [Kind.ofCategory?] at known
  split at known
  next same => exact same
  next => grind

theorem pointer?_schema (schema : Schema) :
    (Handle.inline (Entity.schema schema)).pointer? = none ↔ schema.isPointer = false := by
  simp only [Handle.pointer?, Schema.pointer?]
  split
  next pointer =>
    have set : schema.reference.isSome := by
      simp only [Schema.isPointer, Bool.and_eq_true] at pointer
      exact pointer.1.1.1.1.1.1.1.1
    simp [pointer, Option.isSome_iff_ne_none.mp set]
  next plain => simpa using plain

theorem resolvesToSchema_iff (components : Components) (pointer : String) :
    ResolvesToSchema components pointer ↔ LeadsToSchema components pointer := by
  constructor
  · rintro ⟨resolved, outcome, kind⟩
    rcases resolve_cases components pointer with
      ⟨steps, last, _, reached, ended, answer⟩ | ⟨chain, cycle, _⟩
    · rw [outcome] at answer
      cases answer with
      | present target kind' entity read known found =>
        obtain rfl : kind' = .schema := kind
        obtain ⟨category, name⟩ := target
        obtain rfl := ofCategory?_eq_schema known
        rw [find?_schema] at found
        obtain ⟨schema, entered, same⟩ := Option.map_eq_some_iff.mp found
        refine ⟨steps, last, name, schema, reached, read, entered, ?_⟩
        rw [walk_succ reached, next?_eq_of_find? read known, find?_schema, entered] at ended
        exact (pointer?_schema schema).mp ended
    · rw [outcome] at cycle
      cases cycle
  · rintro ⟨steps, last, name, schema, reached, read, entered, plain⟩
    have found : components.find? .schema name = some (.inline (.schema schema)) := by
      rw [find?_schema, entered]
      rfl
    have ended : walk components pointer (steps + 1) = none := by
      rw [walk_succ reached, next?_eq_of_find? read rfl, found]
      exact (pointer?_schema schema).mpr plain
    rcases resolve_cases components pointer with
      ⟨more, other, _, reachedOther, endedOther, answer⟩ | ⟨chain, _, closed⟩
    · -- A walk ends in one place, so it is the one that has been given.
      obtain rfl := walk_end_unique reached ended reachedOther endedOther
      obtain rfl := Option.some.inj (reached.symm.trans reachedOther)
      exact ⟨_, answer.unique (.present _ .schema _ read rfl found), rfl⟩
    · obtain ⟨_, _, endless⟩ := closed.walk_mem (steps + 1)
      rw [ended] at endless
      cases endless

end OpenApiClient.Reference
