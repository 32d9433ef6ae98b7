import OpenApiClient.Proofs.Reference.Alias
import OpenApiClient.Proofs.Route.Parts

set_option autoImplicit false

namespace OpenApiClient

inductive Failure.Agrees (pointer entry : String) : Failure → Failure → Prop where
  | same (failure : Failure) : Agrees pointer entry failure failure
  | unresolved (place : String) :
      Agrees pointer entry (.unresolvedReference pointer place) (.unresolvedReference entry place)
  | cycle (chain : List String) :
      Agrees pointer entry (.referenceCycle chain) (.referenceCycle (entry :: chain))

inductive Logged.Agrees {α : Type} (pointer entry : String) : Logged α → Logged α → Prop where
  | value (a : α) (log : List LogEntry) : Agrees pointer entry ⟨.ok a, log⟩ ⟨.ok a, log⟩
  | failure {told other : Failure} (agrees : told.Agrees pointer entry other)
      (log : List LogEntry) : Agrees pointer entry ⟨.error told, log⟩ ⟨.error other, log⟩

theorem Failure.agrees_prolonged (pointer entry : String) (failure : Failure) :
    failure.Agrees pointer entry (failure.prolonged [entry]) := by
  cases failure with
  | referenceCycle chain => exact .cycle chain
  | _ => exact .same _

theorem Logged.outcome_bind_of_ok {α β : Type} {x : Logged α} {f : α → Logged β} {a : α}
    (done : x.outcome = .ok a) : (x >>= f).outcome = (f a).outcome := by
  obtain ⟨outcome, log⟩ := x
  obtain rfl : outcome = .ok a := done
  rfl

theorem Logged.outcome_bind_of_error {α β : Type} {x : Logged α} {f : α → Logged β}
    {failure : Failure} (stopped : x.outcome = .error failure) :
    (x >>= f).outcome = .error failure := by
  obtain ⟨outcome, log⟩ := x
  obtain rfl : outcome = .error failure := stopped
  rfl

namespace Logged.Agrees

variable {α β : Type} {pointer entry : String}

theorem refl (x : Logged α) : x.Agrees pointer entry x := by
  obtain ⟨outcome, log⟩ := x
  cases outcome with
  | ok a => exact .value a log
  | error failure => exact .failure (.same failure) log

theorem after {x y : Logged α} (agrees : x.Agrees pointer entry y) (log : List LogEntry) :
    Logged.Agrees pointer entry ⟨x.outcome, log ++ x.log⟩ ⟨y.outcome, log ++ y.log⟩ := by
  cases agrees with
  | value a more => exact .value a _
  | failure told more => exact .failure told _

theorem bind {x y : Logged α} {f g : α → Logged β} (first : x.Agrees pointer entry y)
    (rest : ∀ a, (f a).Agrees pointer entry (g a)) :
    (x >>= f).Agrees pointer entry (y >>= g) := by
  cases first with
  | failure told log => exact .failure told log
  | value a log => exact (rest a).after log

theorem outcome_ok {x y : Logged α} (agrees : x.Agrees pointer entry y) {a : α}
    (done : x.outcome = .ok a) : y.outcome = .ok a := by
  cases agrees with
  | value b log => exact done
  | failure told log => cases done

end Logged.Agrees

namespace Route

variable {components : Components} {kind : Kind} {name pointer entry : String}

theorem unresolved_of_mentions (place : String) (mentions : Pointer.Mentions entry kind name) :
    unresolved place (some (.reference entry)) = .error (.unresolvedReference entry place) := by
  obtain ⟨target, read, known, _⟩ := mentions
  simp [unresolved, Handle.pointer?, Pointer.kind?, read, known]

theorem mentions_of_resolve {found : Option Resolved}
    (done : (Reference.resolve components pointer).outcome = .ok found)
    (known : Pointer.kind? pointer ≠ .ok none) :
    ∃ kind name, Pointer.Mentions pointer kind name := by
  cases read : Pointer.parse pointer with
  | error failure =>
    rw [Reference.resolve, Reference.follow_eq, read] at done
    cases done
  | ok target =>
    cases category : Kind.ofCategory? target.category with
    | none => exact absurd (by simp [Pointer.kind?, read, category]) known
    | some kind => exact ⟨kind, target.name, target, read, category, rfl⟩

theorem component_alias (fresh : components.Fresh kind name pointer)
    (mentions : Pointer.Mentions entry kind name) (known : Pointer.kind? pointer ≠ .ok none)
    (expected : Kind) (place : String) :
    (component components expected place (some (.reference pointer))).Agrees pointer entry
      (component (components.withAlias kind name pointer) expected place
        (some (.reference entry))) := by
  simp only [component, Handle.resolve, Reference.resolve_alias fresh mentions]
  cases found : Reference.resolve components pointer with
  | mk outcome log =>
    cases outcome with
    | error failure => exact .failure (failure.agrees_prolonged pointer entry) log
    | ok resolved =>
      cases resolved with
      | some resolved => exact .refl _
      | none =>
        -- Nothing was found, so the pointer reads; its category is a known one.
        obtain ⟨other, name, mentioned⟩ := mentions_of_resolve (congrArg Logged.outcome found) known
        simp only [Logged.bind_ok, unresolved_of_mentions place mentions,
          unresolved_of_mentions place mentioned]
        exact .failure (.unresolved place) _

end Route

/-- A handle that is left as it is, or whose pointer gives way to the entry that holds it. -/
inductive Handle.Swapped {α : Type} (kind : Kind) (name pointer entry : String) :
    Handle α → Handle α → Prop where
  | kept (handle : Handle α)
      (outside : ∀ held, handle = .reference held → ¬ Pointer.Mentions held kind name) :
      Swapped kind name pointer entry handle handle
  | through : Swapped kind name pointer entry (.reference pointer) (.reference entry)

/-- An operation of which some handles are swapped. -/
structure Operation.Swapped (kind : Kind) (name pointer entry : String)
    (operation swapped : Operation) : Prop where
  others : swapped = { operation with
    parameters := swapped.parameters
    requestBody := swapped.requestBody
    responses := swapped.responses }
  parameters : List.Forall₂ (Handle.Swapped kind name pointer entry) operation.parameters
    swapped.parameters
  requestBody : Option.Rel (Handle.Swapped kind name pointer entry) operation.requestBody
    swapped.requestBody
  answer : Option.Rel (Handle.Swapped kind name pointer entry)
    (Entries.get? operation.responses "200") (Entries.get? swapped.responses "200")

namespace Route

variable {components : Components} {kind : Kind} {name pointer entry : String}

section Agrees

variable (fresh : components.Fresh kind name pointer) (mentions : Pointer.Mentions entry kind name)
  (known : Pointer.kind? pointer ≠ .ok none)

include fresh mentions known

theorem component_agrees {α : Type} {f : α → Entity}
    (plain : ∀ written, (Handle.inline (f written)).pointer? = none) {handle other : Handle α}
    (swapped : handle.Swapped kind name pointer entry other) (expected : Kind) (place : String) :
    (component components expected place (some (handle.map f))).Agrees pointer entry
      (component (components.withAlias kind name pointer) expected place
        (some (other.map f))) := by
  cases swapped with
  | through => exact component_alias fresh mentions known expected place
  | kept _ outside =>
    have same : Handle.resolve (components.withAlias kind name pointer) expected
        (some (handle.map f)) = Handle.resolve components expected (some (handle.map f)) := by
      cases handle with
      | reference held => exact Reference.resolve_withAlias fresh (outside held rfl)
      | inline written => simp only [Handle.map, Handle.resolve, plain]
    rw [component, component, same]
    exact .refl _

theorem mergeParameters_agrees {handles others : List (Handle Parameter)}
    (swapped : List.Forall₂ (Handle.Swapped kind name pointer entry) handles others)
    (place : String) (merged : Entries ParameterKey Parameter) :
    (mergeParameters components place merged handles).Agrees pointer entry
      (mergeParameters (components.withAlias kind name pointer) place merged others) := by
  induction swapped generalizing merged with
  | nil => exact .refl _
  | cons first rest ih =>
    refine (component_agrees fresh mentions known (fun _ => rfl) first .parameter place).bind
      fun found => ?_
    split
    next => exact ih merged
    next parameter _ => exact ih (merged.put (parameterKey parameter) parameter)

theorem requestPayload_agrees {operation swapped : Operation}
    (swaps : operation.Swapped kind name pointer entry swapped) (place : String) :
    (requestPayload components operation place).Agrees pointer entry
      (requestPayload (components.withAlias kind name pointer) swapped place) := by
  have body := swaps.requestBody
  simp only [requestPayload]
  generalize operation.requestBody = handle at body
  generalize swapped.requestBody = other at body
  cases body with
  | none => exact .refl _
  | some first =>
    refine (component_agrees fresh mentions known (fun _ => rfl) first .requestBody place).bind
      fun found => ?_
    exact .refl _

theorem expectedAnswer_agrees {operation swapped : Operation}
    (swaps : operation.Swapped kind name pointer entry swapped) (place : String) :
    (expectedAnswer components operation place).Agrees pointer entry
      (expectedAnswer (components.withAlias kind name pointer) swapped place) := by
  have answer := swaps.answer
  simp only [expectedAnswer]
  generalize Entries.get? operation.responses "200" = handle at answer
  generalize Entries.get? swapped.responses "200" = other at answer
  cases answer with
  | none => exact .refl _
  | some first =>
    refine (component_agrees fresh mentions known (fun _ => rfl) first .response place).bind
      fun found => ?_
    exact .refl _

theorem generate_agrees {item : PathItem} {shared : List (Handle Parameter)}
    {operation swapped : Operation}
    (parameters : List.Forall₂ (Handle.Swapped kind name pointer entry) item.parameters shared)
    (swaps : operation.Swapped kind name pointer entry swapped) (registered : Registered)
    (path method : String) :
    (generate (components.withAlias kind name pointer) registered path
        { item with parameters := shared } method swapped).1 =
      (generate components registered path item method operation).1 ∧
    (generate components registered path item method operation).2.Agrees pointer entry
      (generate (components.withAlias kind name pointer) registered path
        { item with parameters := shared } method swapped).2 := by
  have taken : register registered method path swapped =
      register registered method path operation := by
    rw [swaps.others]
    rfl
  have about' : about swapped = about operation := by
    rw [swaps.others]
    rfl
  -- The name and what is registered depend on nothing that is swapped.
  simp only [generate, taken]
  split
  next => exact ⟨rfl, .refl _⟩
  next name next _ =>
    refine ⟨rfl, ?_⟩
    have merged := mergeParameters_agrees fresh mentions known
      (List.rel_append parameters swaps.parameters) (location method path) []
    simp only [ofOperation, about']
    refine (Logged.Agrees.refl _).bind fun _ => ?_
    refine (merged.bind fun _ => .refl _).bind fun collected => ?_
    refine (Logged.Agrees.refl _).bind fun named => ?_
    refine (Logged.Agrees.refl _).bind fun arguments => ?_
    refine (requestPayload_agrees fresh mentions known swaps _).bind fun payload => ?_
    refine (expectedAnswer_agrees fresh mentions known swaps _).bind fun answer => ?_
    exact .refl _

end Agrees

section Unknown

def pointing (pointer : String) : Operation :=
  ⟨some "listPets", none, none, [], false, [.reference pointer], none, []⟩

theorem pointing_swapped (kind : Kind) (name pointer entry : String) :
    (pointing pointer).Swapped kind name pointer entry (pointing entry) where
  others := rfl
  parameters := .cons .through .nil
  requestBody := .none
  answer := .none

theorem resolve_unknown (components : Components) (unknown : Pointer.kind? pointer = .ok none) :
    (Reference.resolve components pointer).outcome = .ok none := by
  rw [Pointer.kind?] at unknown
  rw [Reference.resolve, Reference.follow_eq]
  cases read : Pointer.parse pointer with
  | error failure =>
    rw [read] at unknown
    cases unknown
  | ok target =>
    rw [read] at unknown
    simp only [Except.ok.inj unknown]

theorem component_unknown (components : Components) (unknown : Pointer.kind? pointer = .ok none)
    (expected : Kind) (place : String) :
    (component components expected place (some (.reference pointer))).outcome = .ok none := by
  have skipped : unresolved place (some (.reference pointer)) = .ok () := by
    simp [unresolved, Handle.pointer?, unknown]
  refine Logged.outcome_bind_eq_ok.mpr ⟨none, resolve_unknown components unknown, ?_⟩
  rw [skipped]
  rfl

theorem component_alias_unknown (fresh : components.Fresh kind name pointer)
    (mentions : Pointer.Mentions entry kind name) (unknown : Pointer.kind? pointer = .ok none)
    (expected : Kind) (place : String) :
    (component (components.withAlias kind name pointer) expected place
      (some (.reference entry))).outcome = .error (.unresolvedReference entry place) := by
  have nothing : (Reference.resolve (components.withAlias kind name pointer) entry).outcome =
      .ok none := by
    rw [Reference.resolve_alias fresh mentions, Logged.prolonged,
      resolve_unknown components unknown]
    rfl
  rw [component, Handle.resolve, Logged.outcome_bind_of_ok nothing]
  -- The category of the entry itself is known, so it is taken for a missing component.
  simp only [unresolved_of_mentions place mentions]
  rfl

theorem register_pointing (pointer : String) :
    ∃ name next, register .empty "GET" "/pets" (pointing pointer) = .ok (name, next) := by
  simp [register, pointing, Registered.empty, Entries.contains]

theorem generate_pointing
    (skipped : (component components .parameter (location "GET" "/pets")
      (some (.reference pointer))).outcome = .ok none) :
    ∃ route, (generate components .empty "/pets" PathItem.empty "GET"
      (pointing pointer)).2.outcome = .ok route := by
  obtain ⟨name, next, registered⟩ := register_pointing pointer
  refine ⟨⟨name, none, "GET", "/pets", [], [], none, .nothing⟩,
    generate_eq_ok_iff.mpr ⟨next, registered, [], rfl, rfl, rfl, ?_, rfl, rfl, rfl, rfl⟩⟩
  refine Logged.outcome_bind_eq_ok.mpr ⟨[], ?_, rfl⟩
  exact Logged.outcome_bind_eq_ok.mpr ⟨none, skipped, rfl⟩

theorem generate_pointing_refused {failure : Failure}
    (refused : (component components .parameter (location "GET" "/pets")
      (some (.reference pointer))).outcome = .error failure) :
    (generate components .empty "/pets" PathItem.empty "GET" (pointing pointer)).2.outcome =
      .error failure := by
  obtain ⟨name, next, registered⟩ := register_pointing pointer
  have merged : (mergeParameters components (location "GET" "/pets") []
      [.reference pointer]).outcome = .error failure := Logged.outcome_bind_of_error refused
  rw [generate, registered]
  refine (Logged.outcome_bind_of_ok rfl).trans ?_
  exact Logged.outcome_bind_of_error (Logged.outcome_bind_of_error merged)

end Unknown

/-- Swapping a pointer for an entry that holds it changes nothing about any operation, exactly when
the pointer is not one into an unknown category. -/
theorem generate_alias (fresh : components.Fresh kind name pointer)
    (mentions : Pointer.Mentions entry kind name) :
    (∀ (item : PathItem) (shared : List (Handle Parameter)) (operation swapped : Operation)
        (registered : Registered) (path method : String),
      List.Forall₂ (Handle.Swapped kind name pointer entry) item.parameters shared →
      operation.Swapped kind name pointer entry swapped →
        (generate (components.withAlias kind name pointer) registered path
            { item with parameters := shared } method swapped).1 =
          (generate components registered path item method operation).1 ∧
        (generate components registered path item method operation).2.Agrees pointer entry
          (generate (components.withAlias kind name pointer) registered path
            { item with parameters := shared } method swapped).2) ↔
      Pointer.kind? pointer ≠ .ok none := by
  constructor
  · intro transparent unknown
    -- One operation tells them apart: its parameter is skipped before, and refused after.
    obtain ⟨route, made⟩ := generate_pointing (component_unknown components unknown .parameter _)
    have agrees := (transparent PathItem.empty [] (pointing pointer) (pointing entry) .empty "/pets"
      "GET" .nil (pointing_swapped kind name pointer entry)).2
    have refused := generate_pointing_refused
      (component_alias_unknown fresh mentions unknown .parameter _)
    exact absurd ((agrees.outcome_ok made).symm.trans refused) (by simp)
  · intro known item shared operation swapped registered path method parameters swaps
    exact generate_agrees fresh mentions known parameters swaps registered path method

def limited : Components :=
  { Components.empty with
    parameters := [("Limit", .inline ⟨"limit", "query", true, none, false, none, none⟩)] }

theorem generate_alias_parameter :
    (limited.Fresh .parameter "Alias" "#/components/parameters/Limit" ∧
      Pointer.Mentions "#/components/parameters/Alias" .parameter "Alias") ∧
      Pointer.kind? "#/components/parameters/Limit" ≠ .ok none ∧
      (generate limited .empty "/pets" PathItem.empty "GET"
          (pointing "#/components/parameters/Limit")).2.Agrees
        "#/components/parameters/Limit" "#/components/parameters/Alias"
        (generate (limited.withAlias .parameter "Alias" "#/components/parameters/Limit") .empty
          "/pets" PathItem.empty "GET" (pointing "#/components/parameters/Alias")).2 := by
  have fresh : limited.Fresh .parameter "Alias" "#/components/parameters/Limit" :=
    ⟨rfl, by decide +kernel, by decide +kernel⟩
  have mentions : Pointer.Mentions "#/components/parameters/Alias" .parameter "Alias" := by
    decide +kernel
  have known : Pointer.kind? "#/components/parameters/Limit" ≠ .ok none := by
    have read : (Pointer.kind? "#/components/parameters/Limit").toOption ≠ some none := by
      decide +kernel
    exact fun unknown => read (congrArg Except.toOption unknown)
  have swapped := pointing_swapped .parameter "Alias" "#/components/parameters/Limit"
    "#/components/parameters/Alias"
  have agrees := (generate_alias fresh mentions).mpr known PathItem.empty [] _ _ .empty "/pets"
    "GET" .nil swapped
  exact ⟨⟨fresh, mentions⟩, known, agrees.2⟩

/-- The pointer into an unknown category is skipped, the alias of it is refused. -/
theorem generate_alias_examples :
    (Components.empty.Fresh .parameter "Limit" "#/components/examples/Limit" ∧
      Pointer.Mentions "#/components/parameters/Limit" .parameter "Limit") ∧
      (∃ route, (generate .empty .empty "/pets" PathItem.empty "GET"
        (pointing "#/components/examples/Limit")).2.outcome = .ok route) ∧
      (generate (Components.empty.withAlias .parameter "Limit" "#/components/examples/Limit") .empty
        "/pets" PathItem.empty "GET" (pointing "#/components/parameters/Limit")).2.outcome =
          .error (.unresolvedReference "#/components/parameters/Limit" "GET /pets") := by
  have fresh : Components.empty.Fresh .parameter "Limit" "#/components/examples/Limit" :=
    ⟨rfl, by decide +kernel, by decide +kernel⟩
  have mentions : Pointer.Mentions "#/components/parameters/Limit" .parameter "Limit" := by
    decide +kernel
  have unknown : Pointer.kind? "#/components/examples/Limit" = .ok none := by
    have read : (Pointer.kind? "#/components/examples/Limit").toOption.map id = some none := by
      decide +kernel
    obtain ⟨_, done, rfl⟩ := exists_of_toOption read
    exact done
  exact ⟨⟨fresh, mentions⟩, generate_pointing (component_unknown _ unknown .parameter _),
    generate_pointing_refused (component_alias_unknown fresh mentions unknown .parameter _)⟩

end Route
end OpenApiClient
