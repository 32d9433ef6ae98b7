import Mathlib.Data.List.Forall2
import OpenApiClient.Proofs.Reference.Alias

set_option autoImplicit false

namespace OpenApiClient

/-- Failures that differ at most in the media types they list. -/
inductive Failure.Alike : Failure → Failure → Prop where
  | same (failure : Failure) : Alike failure failure
  | mediaTypes (place : String) (listed other : List String) :
      Alike (.unsupportedMediaType place listed) (.unsupportedMediaType place other)

def SameNotes (log other : List LogEntry) : Prop :=
  log.filter (fun entry => entry.level ≠ .warning) =
    other.filter fun entry => entry.level ≠ .warning

theorem SameNotes.refl (log : List LogEntry) : SameNotes log log := rfl

theorem SameNotes.append {first second more further : List LogEntry} (same : SameNotes first second)
    (rest : SameNotes more further) : SameNotes (first ++ more) (second ++ further) := by
  rw [SameNotes, List.filter_append, List.filter_append, same, rest]

/-- Related values or failures that are alike, after logs that differ only in warnings. -/
inductive Logged.Related {α β : Type} (R : α → β → Prop) : Logged α → Logged β → Prop where
  | value {a : α} {b : β} {log other : List LogEntry} (related : R a b)
      (notes : SameNotes log other) : Related R ⟨.ok a, log⟩ ⟨.ok b, other⟩
  | failure {told reported : Failure} {log other : List LogEntry} (alike : told.Alike reported)
      (notes : SameNotes log other) : Related R ⟨.error told, log⟩ ⟨.error reported, other⟩

namespace Logged.Related

variable {α β γ δ : Type} {R : α → β → Prop} {S : γ → δ → Prop}

theorem refl (x : Logged α) : x.Related Eq x := by
  obtain ⟨outcome, log⟩ := x
  cases outcome with
  | ok a => exact .value rfl (.refl log)
  | error failure => exact .failure (.same failure) (.refl log)

theorem pure {a : α} {b : β} (related : R a b) :
    (Pure.pure a : Logged α).Related R (Pure.pure b) :=
  .value related (.refl [])

theorem bind {x : Logged α} {y : Logged β} {f : α → Logged γ} {g : β → Logged δ}
    (first : x.Related R y) (rest : ∀ a b, R a b → (f a).Related S (g b)) :
    (x >>= f).Related S (y >>= g) := by
  cases first with
  | failure alike notes => exact .failure alike notes
  | @value a b _ _ related notes =>
    have next := rest a b related
    rw [Logged.bind_ok, Logged.bind_ok]
    generalize f a = z at next
    generalize g b = w at next
    cases next with
    | value further more => exact .value further (notes.append more)
    | failure alike more => exact .failure alike (notes.append more)

theorem bind_eq {x y : Logged α} {f : α → Logged γ} {g : α → Logged δ} (first : x.Related Eq y)
    (rest : ∀ a, (f a).Related S (g a)) : (x >>= f).Related S (y >>= g) :=
  first.bind fun a _ same => same ▸ rest a

end Logged.Related

/-- Handles with the same pointer, or with related components in place. -/
inductive Handle.Related {α β : Type} (R : α → β → Prop) : Handle α → Handle β → Prop where
  | reference (pointer : String) : Related R (.reference pointer) (.reference pointer)
  | inline {entity : α} {other : β} (related : R entity other) :
      Related R (.inline entity) (.inline other)

def Components.Related (R : Entity → Entity → Prop) (components others : Components) : Prop :=
  ∀ kind, List.Forall₂ (fun entry other => entry.1 = other.1 ∧ entry.2.Related R other.2)
    (components.registry kind) (others.registry kind)

structure Resolved.Related (R : Entity → Entity → Prop) (resolved other : Resolved) : Prop where
  kind : resolved.kind = other.kind
  entity : R resolved.entity other.entity
  owned : resolved.owned = other.owned

structure Entity.Keeps (R : Entity → Entity → Prop) : Prop where
  kind : ∀ {entity other}, R entity other → entity.kind = other.kind
  pointer : ∀ {entity other}, R entity other →
    (Handle.inline entity).pointer? = (Handle.inline other).pointer?

variable {R : Entity → Entity → Prop} {components others : Components}

theorem Handle.Related.pointer? (keeps : Entity.Keeps R) {handle other : Handle Entity}
    (related : handle.Related R other) : handle.pointer? = other.pointer? := by
  cases related with
  | reference pointer => rfl
  | inline related => exact keeps.pointer related

theorem Components.Related.find? (related : components.Related R others) (kind : Kind)
    (name : String) :
    Option.Rel (Handle.Related R) (components.find? kind name) (others.find? kind name) := by
  have entries := related kind
  rw [Components.find?, Components.find?]
  generalize components.registry kind = items at entries ⊢
  generalize others.registry kind = otherItems at entries ⊢
  induction entries with
  | nil => exact .none
  | @cons entry other _ _ first rest ih =>
    obtain ⟨same, handles⟩ := first
    by_cases here : entry.1 = name
    next =>
      simp only [Entries.get?, if_pos here, if_pos (same.symm.trans here)]
      exact .some handles
    next =>
      simp only [Entries.get?, if_neg here, if_neg (same ▸ here)]
      exact ih

theorem Components.Related.absent (related : components.Related R others) {kind : Kind}
    {name : String} (absent : components.find? kind name = none) :
    others.find? kind name = none := by
  have found := related.find? kind name
  rw [absent] at found
  generalize others.find? kind name = other at found ⊢
  cases found
  rfl

theorem Components.Related.present (related : components.Related R others) {kind : Kind}
    {name : String} {handle : Handle Entity} (present : components.find? kind name = some handle) :
    ∃ other, others.find? kind name = some other ∧ handle.Related R other := by
  have found := related.find? kind name
  rw [present] at found
  generalize others.find? kind name = other at found ⊢
  cases found with
  | some handles => exact ⟨_, rfl, handles⟩

section Follow

variable (keeps : Entity.Keeps R) (related : components.Related R others)
include keeps related

theorem Reference.follow_related (seen : List String) (pointer : String) :
    (follow components seen pointer).Related (Option.Rel (Resolved.Related R))
      (follow others seen pointer) := by
  -- The same pointers are followed in both registries, up to the last one.
  fun_induction follow components seen pointer with
  | case1 seen pointer failure unread =>
    rw [follow_eq]
    simp only [unread]
    exact .failure (.same failure) (.refl [])
  | case2 seen pointer target read unknown =>
    rw [follow_eq]
    simp only [read, unknown]
    exact .value .none (.refl _)
  | case3 seen pointer target read kind known absent =>
    rw [follow_eq]
    simp only [read, known, related.absent absent]
    exact .pure .none
  | case4 seen pointer target read kind known handle found next held again =>
    obtain ⟨other, present, handles⟩ := related.present found
    rw [follow_eq]
    simp only [read, known, present, ← handles.pointer? keeps, held, if_pos again]
    exact .failure (.same _) (.refl [])
  | case5 seen pointer target read kind known handle found next held new ih =>
    obtain ⟨other, present, handles⟩ := related.present found
    rw [follow_eq others]
    simp only [read, known, present, ← handles.pointer? keeps, held, if_neg new]
    exact ih
  | case6 seen pointer target read kind known entity found held =>
    obtain ⟨other, present, handles⟩ := related.present found
    have final := handles.pointer? keeps
    rw [held] at final
    cases handles with
    | inline same =>
      rw [follow_eq]
      simp only [read, known, present, ← final]
      exact .pure (.some ⟨rfl, same, rfl⟩)
  | case7 seen pointer target read kind known other found held => cases held

theorem Handle.resolve_related (expected : Kind) {handle other : Option (Handle Entity)}
    (handles : Option.Rel (Handle.Related R) handle other) :
    (Handle.resolve components expected handle).Related (Option.Rel (Resolved.Related R))
      (Handle.resolve others expected other) := by
  cases handles with
  | none => exact .pure .none
  | some first =>
    cases first with
    | reference pointer => exact Reference.follow_related keeps related [pointer] pointer
    | @inline entity other same =>
      simp only [Handle.resolve, ← keeps.kind same, ← keeps.pointer same]
      split
      next =>
        split
        next pointer held => exact Reference.follow_related keeps related [pointer] pointer
        next => exact .pure (.some ⟨rfl, same, rfl⟩)
      next => exact .failure (.same _) (.refl [])

end Follow
end OpenApiClient
