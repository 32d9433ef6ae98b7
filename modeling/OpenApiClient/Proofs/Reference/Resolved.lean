import OpenApiClient.Proofs.Reference.Walk

set_option autoImplicit false

namespace OpenApiClient

variable {components : Components}

def Components.Stores (components : Components) (kind : Kind) (entity : Entity) : Prop :=
  ∃ name, components.find? kind name = some (.inline entity)

theorem Handle.map_eq_inline {α : Type} {f : α → Entity} {handle : Handle α} {entity : Entity}
    (same : handle.map f = .inline entity) : ∃ written, entity = f written := by
  cases handle with
  | reference pointer => cases same
  | inline written => exact ⟨written, (Handle.inline.inj same).symm⟩

theorem Components.kind_of_find? {kind : Kind} {name : String} {entity : Entity}
    (found : components.find? kind name = some (.inline entity)) : entity.kind = kind := by
  have member := Entries.mem_of_get? found
  -- Each registry holds components of one kind only.
  cases kind with
  | schema =>
    obtain ⟨_, _, same⟩ := List.mem_map.mp member
    exact Handle.inline.inj (Prod.mk.inj same).2 ▸ rfl
  | parameter =>
    obtain ⟨_, _, same⟩ := List.mem_map.mp member
    obtain ⟨_, rfl⟩ := Handle.map_eq_inline (Prod.mk.inj same).2
    rfl
  | response =>
    obtain ⟨_, _, same⟩ := List.mem_map.mp member
    obtain ⟨_, rfl⟩ := Handle.map_eq_inline (Prod.mk.inj same).2
    rfl
  | requestBody =>
    obtain ⟨_, _, same⟩ := List.mem_map.mp member
    obtain ⟨_, rfl⟩ := Handle.map_eq_inline (Prod.mk.inj same).2
    rfl

namespace Reference

theorem stores_of_resolve {pointer : String} {resolved : Resolved}
    (done : (resolve components pointer).outcome = .ok (some resolved)) :
    components.Stores resolved.kind resolved.entity ∧
      (Handle.inline resolved.entity).pointer? = none ∧ resolved.owned = false := by
  rcases resolve_cases components pointer with
    ⟨steps, last, _, reached, ended, answer⟩ | ⟨chain, cycle, _⟩
  · rw [done] at answer
    cases answer with
    | present target kind entity read known found =>
      -- The walk ends here, so the entry holds no pointer.
      rw [walk_succ reached, next?_eq_of_find? read known, found] at ended
      exact ⟨⟨target.name, found⟩, ended, rfl⟩
  · rw [done] at cycle
    cases cycle

theorem resolve_ne_taxonomyMismatch (components : Components) (pointer wanted actual : String)
    (place : Option String) :
    (resolve components pointer).outcome ≠ .error (.taxonomyMismatch wanted actual place) := by
  intro refused
  rcases resolve_cases components pointer with ⟨_, _, _, _, _, answer⟩ | ⟨_, cycle, _⟩
  · rw [refused] at answer
    cases answer
  · rw [refused] at cycle
    cases cycle

end Reference

namespace Handle

inductive Leads (components : Components) (expected : Kind) :
    Option (Handle Entity) → Except Failure (Option Resolved) → Prop where
  | absent : Leads components expected none (.ok none)
  | pointer {handle : Handle Entity} {pointer : String} (held : handle.pointer? = some pointer)
      (fits : ∀ entity, handle = .inline entity → entity.kind = expected) :
      Leads components expected (some handle) (Reference.resolve components pointer).outcome
  | inPlace {entity : Entity} (fits : entity.kind = expected)
      (final : (Handle.inline entity).pointer? = none) :
      Leads components expected (some (.inline entity)) (.ok (some ⟨expected, entity, true⟩))
  | mismatch {entity : Entity} (other : entity.kind ≠ expected) :
      Leads components expected (some (.inline entity))
        (.error (.taxonomyMismatch expected.name entity.kind.name none))

theorem resolve_leads (components : Components) (expected : Kind)
    (handle : Option (Handle Entity)) :
    Leads components expected handle (resolve components expected handle).outcome := by
  cases handle with
  | none => exact .absent
  | some handle =>
    cases handle with
    | reference pointer => exact .pointer rfl (fun entity same => by cases same)
    | inline entity =>
      simp only [resolve]
      split
      next fits =>
        split
        next pointer held =>
          exact .pointer held (fun other same => Handle.inline.inj same ▸ fits)
        next final => exact .inPlace fits final
      next other => exact .mismatch other

theorem resolve_inPlace {expected : Kind} {entity : Entity} (fits : entity.kind = expected)
    (final : (Handle.inline entity).pointer? = none) :
    resolve components expected (some (.inline entity)) = pure (some ⟨expected, entity, true⟩) := by
  simp only [resolve]
  rw [if_pos fits, final]

/-- The answer is what its tag says, wherever it comes from, and resolves to itself. -/
structure Faithful (components : Components) (expected : Kind) (handle : Option (Handle Entity))
    (resolved : Resolved) : Prop where
  kind : resolved.entity.kind = resolved.kind
  final : (Handle.inline resolved.entity).pointer? = none
  borrowed : resolved.owned = false → components.Stores resolved.kind resolved.entity
  owned : resolved.owned = true →
    handle = some (.inline resolved.entity) ∧ resolved.kind = expected
  again : resolve components resolved.kind (some (.inline resolved.entity)) =
    pure (some { resolved with owned := true })

theorem Leads.faithful {expected : Kind} {handle : Option (Handle Entity)} {resolved : Resolved}
    (leads : Leads components expected handle (.ok (some resolved))) :
    Faithful components expected handle resolved := by
  generalize outcome : Except.ok (some resolved) = result at leads
  cases leads with
  | absent => cases outcome
  | pointer held fits =>
    obtain ⟨stored, final, borrowed⟩ := Reference.stores_of_resolve outcome.symm
    obtain ⟨name, found⟩ := stored
    have kind := Components.kind_of_find? found
    exact ⟨kind, final, fun _ => ⟨name, found⟩,
      fun owned => absurd (borrowed.symm.trans owned) (by decide), resolve_inPlace kind final⟩
  | inPlace fits final =>
    cases outcome
    exact ⟨fits, final, (fun borrowed => by cases borrowed), fun _ => ⟨rfl, rfl⟩,
      resolve_inPlace fits final⟩
  | mismatch other => cases outcome

theorem Leads.mismatch_iff {expected : Kind} {handle : Option (Handle Entity)}
    {outcome : Except Failure (Option Resolved)} (leads : Leads components expected handle outcome)
    (wanted actual : String) (place : Option String) :
    outcome = .error (.taxonomyMismatch wanted actual place) ↔
      ∃ entity, handle = some (.inline entity) ∧ entity.kind ≠ expected ∧
        wanted = expected.name ∧ actual = entity.kind.name ∧ place = none := by
  cases leads with
  | absent => simp
  | @pointer handle pointer held fits =>
    constructor
    · exact fun refused =>
        absurd refused (Reference.resolve_ne_taxonomyMismatch components pointer _ _ _)
    · rintro ⟨entity, same, other, _⟩
      exact absurd (fits entity (Option.some.inj same)) other
  | inPlace fits final =>
    constructor
    · rintro ⟨⟩
    · rintro ⟨entity, same, other, _⟩
      cases same
      exact absurd fits other
  | @mismatch entity other =>
    constructor
    · intro refused
      cases refused
      exact ⟨entity, rfl, other, rfl, rfl, rfl⟩
    · rintro ⟨found, same, _, rfl, rfl, rfl⟩
      cases same
      rfl

/-- Every component that a handle resolves to is faithful to its tag, and a handle is refused for
its kind exactly when it is a component in place of another kind. -/
theorem resolve_faithful (components : Components) (expected : Kind)
    (handle : Option (Handle Entity)) :
    (∀ resolved, (resolve components expected handle).outcome = .ok (some resolved) →
      Faithful components expected handle resolved) ∧
    ∀ wanted actual place,
      (resolve components expected handle).outcome =
          .error (.taxonomyMismatch wanted actual place) ↔
        ∃ entity, handle = some (.inline entity) ∧ entity.kind ≠ expected ∧
          wanted = expected.name ∧ actual = entity.kind.name ∧ place = none := by
  have leads := resolve_leads components expected handle
  exact ⟨fun resolved done => (done ▸ leads).faithful, leads.mismatch_iff⟩

def crossing : Components where
  schemas := []
  parameters := [("Limit", .reference "#/components/responses/Page")]
  responses := [("Page", .inline ⟨some "One page.", []⟩)]
  requestBodies := []

theorem resolve_faithful_crossing :
    (resolve crossing .parameter (some (.reference "#/components/parameters/Limit"))).outcome =
        .ok (some ⟨.response, .response ⟨some "One page.", []⟩, false⟩) ∧
      Faithful crossing .parameter (some (.reference "#/components/parameters/Limit"))
        ⟨.response, .response ⟨some "One page.", []⟩, false⟩ := by
  have done : (resolve crossing .parameter
      (some (.reference "#/components/parameters/Limit"))).outcome =
        .ok (some ⟨.response, .response ⟨some "One page.", []⟩, false⟩) := by
    cbv
  exact ⟨done, (resolve_faithful crossing .parameter _).1 _ done⟩

end Handle
end OpenApiClient
