import OpenApiClient.Proofs.Document.Fields
import OpenApiClient.Proofs.Reference.Walk

set_option autoImplicit false

namespace OpenApiClient

/-- Whether a pointer reads as one to the entry. -/
def Pointer.Mentions (pointer : String) (kind : Kind) (name : String) : Prop :=
  ∃ target, parse pointer = .ok target ∧ Kind.ofCategory? target.category = some kind ∧
    target.name = name

instance (pointer : String) (kind : Kind) (name : String) :
    Decidable (Pointer.Mentions pointer kind name) :=
  match read : Pointer.parse pointer with
  | .error _ => isFalse fun mentions => by simp [Pointer.Mentions, read] at mentions
  | .ok target =>
      decidable_of_iff (Kind.ofCategory? target.category = some kind ∧ target.name = name) <| by
        simp [Pointer.Mentions, read]

namespace Components

/-- The components with one more entry, which holds the pointer and nothing else. -/
def withAlias (components : Components) (kind : Kind) (name pointer : String) : Components :=
  match kind with
  | .schema =>
      let entry : Schema := ⟨none, none, some pointer, none, none, [], none, none, none⟩
      { components with schemas := components.schemas ++ [(name, entry)] }
  | .parameter =>
      { components with parameters := components.parameters ++ [(name, .reference pointer)] }
  | .response =>
      { components with responses := components.responses ++ [(name, .reference pointer)] }
  | .requestBody =>
      { components with requestBodies := components.requestBodies ++ [(name, .reference pointer)] }

/-- The entry is new, and no pointer that can be followed mentions it. -/
structure Fresh (components : Components) (kind : Kind) (name pointer : String) : Prop where
  new : components.find? kind name = none
  unmentioned : ∀ stored ∈ components.storedPointers, ¬ Pointer.Mentions stored kind name
  outside : ¬ Pointer.Mentions pointer kind name

variable {components : Components} {kind : Kind} {name pointer : String}

theorem registry_withAlias (components : Components) (kind : Kind) (name pointer : String) :
    ∃ handle : Handle Entity, handle.pointer? = some pointer ∧
      (components.withAlias kind name pointer).registry kind =
        components.registry kind ++ [(name, handle)] ∧
      ∀ other, other ≠ kind →
        (components.withAlias kind name pointer).registry other = components.registry other := by
  cases kind with
  | schema =>
    refine ⟨.inline (.schema _), rfl, List.map_append, fun other differs => ?_⟩
    cases other <;> first | rfl | exact absurd rfl differs
  | parameter =>
    refine ⟨.reference pointer, rfl, List.map_append, fun other differs => ?_⟩
    cases other <;> first | rfl | exact absurd rfl differs
  | response =>
    refine ⟨.reference pointer, rfl, List.map_append, fun other differs => ?_⟩
    cases other <;> first | rfl | exact absurd rfl differs
  | requestBody =>
    refine ⟨.reference pointer, rfl, List.map_append, fun other differs => ?_⟩
    cases other <;> first | rfl | exact absurd rfl differs

theorem pointer?_withAlias (pointer : String) (new : components.find? kind name = none) :
    ∃ handle, (components.withAlias kind name pointer).find? kind name = some handle ∧
      handle.pointer? = some pointer := by
  obtain ⟨handle, held, registry, _⟩ := registry_withAlias components kind name pointer
  rw [find?] at new
  exact ⟨handle, by simp [find?, registry, new], held⟩

theorem find?_withAlias {other : Kind} {entry : String}
    (differs : ¬ (other = kind ∧ entry = name)) :
    (components.withAlias kind name pointer).find? other entry = components.find? other entry := by
  obtain ⟨handle, _, registry, others⟩ := registry_withAlias components kind name pointer
  -- In the registry of the alias the entry comes last, under another name than the one looked up.
  by_cases same : other = kind
  · subst same
    have apart : ¬ name = entry := fun equal => differs ⟨rfl, equal.symm⟩
    simp [find?, registry, apart]
  · rw [find?, others other same, find?]

end Components

def Failure.prolonged (before : List String) : Failure → Failure
  | .referenceCycle chain => .referenceCycle (before ++ chain)
  | failure => failure

def Logged.prolonged {α : Type} (before : List String) (x : Logged α) : Logged α :=
  ⟨x.outcome.mapError (Failure.prolonged before), x.log⟩

theorem Logged.prolonged_nil {α : Type} (x : Logged α) : x.prolonged [] = x := by
  obtain ⟨outcome, log⟩ := x
  cases outcome with
  | ok a => rfl
  | error failure => cases failure <;> rfl

namespace Reference

variable {components : Components} {kind : Kind} {name pointer : String}

theorem follow_eq (components : Components) (seen : List String) (pointer : String) :
    follow components seen pointer =
      match Pointer.parse pointer with
      | .error failure => .fail failure
      | .ok target =>
          match Kind.ofCategory? target.category with
          | none =>
              ⟨.ok none, [⟨.warning, .resolver, "Unsupported component type " ++ target.category⟩]⟩
          | some kind =>
              match components.find? kind target.name with
              | none => pure none
              | some handle =>
                  match handle.pointer?, handle with
                  | some next, _ =>
                      if next ∈ seen then .fail (.referenceCycle (seen ++ [next]))
                      else follow components (seen ++ [next]) next
                  | none, .inline entity => pure (some ⟨kind, entity, false⟩)
                  | none, .reference _ => pure none := by
  fun_cases follow components seen pointer with
  | case1 failure unread => simp only [unread]
  | case2 target read unknown =>
    simp only [read, unknown]
    rfl
  | case3 target read kind known absent => simp only [read, known, absent]
  | case4 target read kind known handle found next held again =>
    simp only [read, known, found, held, if_pos again]
  | case5 target read kind known handle found next held new =>
    simp only [read, known, found, held, if_neg new]
  | case6 target read kind known entity found held => simp only [read, known, found, held]
  | case7 target read kind known other found held => simp only [read, known, found, held]

theorem find?_of_not_mentions {target : Pointer.Target} {other : Kind}
    (outside : ¬ Pointer.Mentions pointer kind name) (read : Pointer.parse pointer = .ok target)
    (known : Kind.ofCategory? target.category = some other) (stored : String) :
    (components.withAlias kind name stored).find? other target.name =
      components.find? other target.name := by
  refine Components.find?_withAlias ?_
  rintro ⟨rfl, same⟩
  exact outside ⟨target, read, known, same⟩

theorem follow_withAlias {stored : String} (fresh : components.Fresh kind name stored)
    (before : List String) (aliases : ∀ other ∈ before, Pointer.Mentions other kind name)
    (seen : List String) (outside : ¬ Pointer.Mentions pointer kind name) :
    follow (components.withAlias kind name stored) (before ++ seen) pointer =
      (follow components seen pointer).prolonged before := by
  -- Along the walk: no pointer mentions the alias, so each names the same entry with it.
  fun_induction follow components seen pointer with
  | case1 seen pointer failure unread =>
    obtain ⟨reason, rfl⟩ := parse_failure unread
    rw [follow_eq]
    simp only [unread]
    rfl
  | case2 seen pointer target read unknown =>
    rw [follow_eq]
    simp only [read, unknown]
    rfl
  | case3 seen pointer target read kind' known absent =>
    rw [follow_eq]
    simp only [read, known, find?_of_not_mentions outside read known, absent]
    rfl
  | case4 seen pointer target read kind' known handle found next held again =>
    rw [follow_eq]
    simp only [read, known, find?_of_not_mentions outside read known, found, held,
      if_pos (List.mem_append_right before again), List.append_assoc]
    rfl
  | case5 seen pointer target read kind' known handle found next held new ih =>
    -- The next pointer is a stored one, and those do not mention the alias.
    have inside := fresh.unmentioned next (Components.mem_storedPointers found held)
    have unseen : next ∉ before ++ seen := by
      rw [List.mem_append]
      exact not_or.mpr ⟨fun old => inside (aliases next old), new⟩
    rw [follow_eq]
    simp only [read, known, find?_of_not_mentions outside read known, found, held, if_neg unseen,
      List.append_assoc]
    exact ih inside
  | case6 seen pointer target read kind' known entity found held =>
    rw [follow_eq]
    simp only [read, known, find?_of_not_mentions outside read known, found, held]
    rfl
  | case7 seen pointer target read kind' known other found held => simp [Handle.pointer?] at held

theorem resolve_withAlias {stored : String} (fresh : components.Fresh kind name stored)
    (outside : ¬ Pointer.Mentions pointer kind name) :
    resolve (components.withAlias kind name stored) pointer = resolve components pointer := by
  have same := follow_withAlias fresh [] (by simp) [pointer] outside
  rwa [Logged.prolonged_nil] at same

theorem resolve_alias {entry : String} (fresh : components.Fresh kind name pointer)
    (mentions : Pointer.Mentions entry kind name) :
    resolve (components.withAlias kind name pointer) entry =
      (resolve components pointer).prolonged [entry] := by
  have apart : pointer ∉ [entry] := by
    intro member
    exact fresh.outside (List.mem_singleton.mp member ▸ mentions)
  have rest := follow_withAlias fresh [entry] (by simpa using mentions) [pointer] fresh.outside
  obtain ⟨target, read, known, rfl⟩ := mentions
  obtain ⟨handle, found, held⟩ := Components.pointer?_withAlias pointer fresh.new
  -- The first step leads to the alias; from there on the alias is one of those seen before.
  rw [resolve, follow_eq]
  simp only [read, known, found, held, if_neg apart]
  exact rest

end Reference
end OpenApiClient
