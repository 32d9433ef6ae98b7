import OpenApiClient.Client.Route.Component
import OpenApiClient.Proofs.Reference.Walk

set_option autoImplicit false

namespace OpenApiClient

def Components.keeping (components : Components) (kept : String → Bool) : Components :=
  { components with schemas := components.schemas.filter fun entry => kept entry.1 }

def Components.KeepsPointers (components : Components) (kept : String → Bool) : Prop :=
  ∀ entry ∈ components.schemas, kept entry.1 = false → entry.2.isPointer = false

def NoSchema (found : Option Resolved) : Prop := ∀ resolved ∈ found, resolved.kind ≠ .schema

namespace Reference

variable {components : Components} {kept : String → Bool}

theorem find?_keeping_schema (components : Components) (kept : String → Bool) (name : String) :
    (components.keeping kept).find? .schema name =
      if kept name then components.find? .schema name else none := by
  rw [find?_schema, find?_schema, Components.keeping]
  simp only [Entries.get?_filter]
  split <;> rfl

theorem find?_keeping (components : Components) (kept : String → Bool) {kind : Kind}
    (other : kind ≠ .schema) (name : String) :
    (components.keeping kept).find? kind name = components.find? kind name := by
  cases kind with
  | schema => exact absurd rfl other
  | parameter => rfl
  | response => rfl
  | requestBody => rfl

theorem pointer?_keeping (keeps : components.KeepsPointers kept) (kind : Kind) (name : String) :
    ((components.keeping kept).find? kind name).bind Handle.pointer? =
      (components.find? kind name).bind Handle.pointer? := by
  by_cases same : kind = .schema
  · subst same
    rw [find?_keeping_schema]
    by_cases keep : kept name
    · rw [if_pos keep]
    · rw [if_neg keep, find?_schema]
      cases entered : Entries.get? components.schemas name with
      | none => rfl
      | some schema =>
        have plain := keeps _ (Entries.mem_of_get? entered) (by simpa using keep)
        exact ((pointer?_schema schema).mpr plain).symm
  · rw [find?_keeping components kept same]

theorem next?_keeping (keeps : components.KeepsPointers kept) (pointer : String) :
    next? (components.keeping kept) pointer = next? components pointer := by
  cases read : Pointer.parse pointer with
  | error failure => simp [next?, component?, read]
  | ok target =>
    cases known : Kind.ofCategory? target.category with
    | none => simp [next?, component?, read, known]
    | some kind =>
      rw [next?_eq_of_find? read known, next?_eq_of_find? read known, pointer?_keeping keeps]

theorem walk_keeping (keeps : components.KeepsPointers kept) (pointer : String) (steps : Nat) :
    walk (components.keeping kept) pointer steps = walk components pointer steps := by
  induction steps with
  | zero => rfl
  | succ steps ih => simp only [walk, ih, funext (next?_keeping keeps)]

theorem Answers.keeping {pointer : String} {found : Option Resolved}
    (answer : Answers components pointer (.ok found)) (other : NoSchema found) :
    Answers (components.keeping kept) pointer (.ok found) := by
  cases answer with
  | unknownCategory target read unknown => exact .unknownCategory target read unknown
  | missing target kind read known absent =>
    refine .missing target kind read known ?_
    -- A name that was missing is missing in fewer schemas too.
    by_cases same : kind = .schema
    · subst same
      rw [find?_keeping_schema, absent, ite_self]
    · rw [find?_keeping components kept same, absent]
  | present target kind entity read known found =>
    have same : kind ≠ .schema := other _ rfl
    exact .present target kind entity read known (by rw [find?_keeping components kept same, found])

theorem resolve_keeping (keeps : components.KeepsPointers kept) {pointer : String}
    {found : Option Resolved} (done : (resolve components pointer).outcome = .ok found)
    (other : NoSchema found) :
    (resolve (components.keeping kept) pointer).outcome = .ok found := by
  rcases resolve_cases components pointer with
    ⟨steps, last, _, reached, ended, answer⟩ | ⟨chain, cycle, _⟩
  · rw [done] at answer
    -- Both registries have the same walk, so they answer for the same last pointer.
    rw [← walk_keeping keeps] at reached ended
    rcases resolve_cases (components.keeping kept) pointer with
      ⟨more, final, _, reachedKept, endedKept, answerKept⟩ | ⟨chain, _, closed⟩
    · obtain rfl := walk_end_unique reached ended reachedKept endedKept
      obtain rfl := Option.some.inj (reached.symm.trans reachedKept)
      exact answerKept.unique (answer.keeping other)
    · obtain ⟨_, _, endless⟩ := closed.walk_mem (steps + 1)
      rw [ended] at endless
      cases endless
  · rw [done] at cycle
    cases cycle

end Reference

variable {components : Components} {kept : String → Bool}

theorem Handle.resolve_keeping (keeps : components.KeepsPointers kept) {expected : Kind}
    {handle : Option (Handle Entity)} {found : Option Resolved}
    (done : (Handle.resolve components expected handle).outcome = .ok found)
    (other : NoSchema found) :
    (Handle.resolve (components.keeping kept) expected handle).outcome = .ok found := by
  cases handle with
  | none => exact done
  | some handle =>
    cases handle with
    | reference pointer => exact Reference.resolve_keeping keeps done other
    | inline entity =>
      simp only [Handle.resolve] at done ⊢
      split at done
      next same =>
        rw [if_pos same]
        split at done
        next pointer held => exact Reference.resolve_keeping keeps done other
        next => exact done
      next => cases done

theorem Route.component_keeping (keeps : components.KeepsPointers kept) {expected : Kind}
    (other : expected ≠ .schema) {place : String} {handle : Option (Handle Entity)}
    {found : Option Entity}
    (done : (component components expected place handle).outcome = .ok found) :
    (component (components.keeping kept) expected place handle).outcome = .ok found := by
  obtain ⟨resolved, outcome, more⟩ := Logged.outcome_bind_eq_ok.mp done
  -- A schema would have been refused, since another kind is expected.
  have plain : NoSchema resolved := by
    intro target member schema
    obtain rfl := Option.mem_def.mp member
    simp only at more
    rw [if_neg (fun same => other (same.symm.trans schema))] at more
    cases more
  exact Logged.outcome_bind_eq_ok.mpr
    ⟨resolved, Handle.resolve_keeping keeps outcome plain, more⟩

end OpenApiClient
