import Mathlib.Data.List.Forall2
import OpenApiClient.Proofs.Document.RoundTrip

set_option autoImplicit false

namespace OpenApiClient

def Schema.inner (name : String) (schema : Schema) : List (String × Subschema) :=
  (schema.properties.getD []).map fun property => (name ++ "." ++ property.1, property.2)

def nestedAt? (name : String) : Subschema → List Nat → Option (String × Schema)
  | .boolean _, _ => none
  | .schema schema, [] => some (name, schema)
  | .schema schema, position :: place =>
      match (schema.inner name)[position]? with
      | none => none
      | some (innerName, property) => nestedAt? innerName property place

def entryAt? (items : List (String × Subschema)) : List Nat → Option (String × Schema)
  | [] => none
  | position :: place => items[position]?.bind fun item => nestedAt? item.1 item.2 place

/-- The component schema, or the schema in the properties of one, at a place. -/
def Document.schemaAt? (document : Document) : List Nat → Option (String × Schema) :=
  entryAt? (document.components.schemas.map fun entry => (entry.1, .schema entry.2))

/-- What becomes of the required names of a schema. -/
structure Trims (validated accepted : String × Schema) : Prop where
  name : accepted.1 = validated.1
  declared : accepted.2.declared = validated.2.declared
  onlyDeclared : accepted.2.required ⊆ accepted.2.declared
  kept : accepted.2.required =
    validated.2.required.filter fun field => field ∈ validated.2.declared

def lostNames (name : String) (schema : Schema) : LogEntry :=
  ⟨.warning, .document,
    name ++ ": required fields " ++ (Shown.texts schema.undeclared).toText ++
      " are not declared in properties, ignoring"⟩

/-- Warnings about the schemas at the given places. An inner schema is warned of before the ones
around it. -/
structure Warns (find : List Nat → Option (String × Schema)) (places : List (List Nat))
    (warnings : List LogEntry) : Prop where
  complete : ∀ place, place ∈ places ↔
    ∃ name schema, find place = some (name, schema) ∧ ¬schema.required ⊆ schema.declared
  innerFirst : places.Pairwise fun earlier later => ¬earlier <+: later
  texts : List.Forall₂ (fun place warning => ∃ name schema,
    find place = some (name, schema) ∧ warning = lostNames name schema) places warnings

mutual

/-- A schema without the required names, at every depth of the properties. -/
def Schema.bare : Schema → Schema
  | ⟨format, type, reference, items, properties, _, title, description, enum⟩ =>
      ⟨format, type, reference, items,
        match properties with
        | none => none
        | some properties => some (Schema.bareProperties properties),
        [], title, description, enum⟩

def Subschema.bare : Subschema → Subschema
  | .schema schema => .schema schema.bare
  | .boolean admitted => .boolean admitted

def Schema.bareProperties : List (String × Subschema) → List (String × Subschema)
  | [] => []
  | (name, property) :: rest => (name, property.bare) :: Schema.bareProperties rest

end

/-- A document without the required names of its component schemas. -/
def Document.bare (document : Document) : Document :=
  { document with
    components :=
      { document.components with
        schemas := document.components.schemas.map fun entry => (entry.1, entry.2.bare) } }

section Bare

mutual

theorem Schema.bare_prune : (schema : Schema) → schema.prune.bare = schema.bare
  | ⟨format, type, reference, items, properties, required, title, description, enum⟩ => by
    cases properties with
    | none => simp [Schema.prune, Schema.bare]
    | some properties =>
      simp [Schema.prune, Schema.bare, Schema.bareProperties_pruneProperties properties]

theorem Subschema.bare_prune : (item : Subschema) → item.prune.bare = item.bare
  | .schema schema => by
    rw [Subschema.prune, Subschema.bare, Subschema.bare, Schema.bare_prune schema]
  | .boolean admitted => by rw [Subschema.prune]

theorem Schema.bareProperties_pruneProperties :
    (properties : List (String × Subschema)) →
      Schema.bareProperties (Schema.pruneProperties properties) = Schema.bareProperties properties
  | [] => by rw [Schema.pruneProperties]
  | (name, property) :: rest => by
    rw [Schema.pruneProperties, Schema.bareProperties, Schema.bareProperties,
      Subschema.bare_prune property, Schema.bareProperties_pruneProperties rest]

end

theorem Document.bare_prune (document : Document) : document.prune.bare = document.bare := by
  simp [prune, bare, Schema.bare_prune]

end Bare

theorem Schema.pruneProperties_eq (properties : List (String × Subschema)) :
    Schema.pruneProperties properties =
      properties.map fun property => (property.1, property.2.prune) := by
  induction properties with
  | nil => rw [Schema.pruneProperties, List.map_nil]
  | cons property rest ih => rw [Schema.pruneProperties, List.map_cons, ih]

theorem Schema.inner_prune (name : String) (schema : Schema) :
    schema.prune.inner name =
      (schema.inner name).map fun property => (property.1, property.2.prune) := by
  rw [Schema.inner, Schema.inner, Schema.prune_eq]
  cases schema.properties with
  | none => rfl
  | some properties => simp [Schema.pruneProperties_eq]

theorem nestedAt?_prune (name : String) (item : Subschema) (place : List Nat) :
    nestedAt? name item.prune place =
      (nestedAt? name item place).map fun found => (found.1, found.2.prune) := by
  induction place generalizing name item with
  | nil => cases item <;> simp [Subschema.prune, nestedAt?]
  | cons position place ih =>
    cases item with
    | boolean admitted => simp [Subschema.prune, nestedAt?]
    | schema schema =>
      simp only [Subschema.prune, nestedAt?, Schema.inner_prune, List.getElem?_map]
      cases (schema.inner name)[position]? with
      | none => rfl
      | some property => exact ih property.1 property.2

theorem Document.schemaAt?_prune (document : Document) (place : List Nat) :
    document.prune.schemaAt? place =
      (document.schemaAt? place).map fun found => (found.1, found.2.prune) := by
  cases place with
  | nil => rfl
  | cons position place =>
    simp only [schemaAt?, entryAt?, prune, List.getElem?_map]
    cases document.components.schemas[position]? with
    | none => rfl
    | some entry =>
      have inside := nestedAt?_prune entry.1 (.schema entry.2) place
      simpa [Subschema.prune] using inside

theorem trims_prune (found : String × Schema) : Trims found (found.1, found.2.prune) where
  name := rfl
  declared := Schema.declared_prune found.2
  onlyDeclared := by
    intro field kept
    rw [Schema.prune_eq] at kept
    rw [Schema.declared_prune]
    simpa using (List.mem_filter.mp kept).2
  kept := by simp [Schema.prune_eq]

theorem Document.trims_schemaAt? (document : Document) (place : List Nat) :
    Option.Rel Trims (document.schemaAt? place) (document.prune.schemaAt? place) := by
  rw [schemaAt?_prune]
  cases document.schemaAt? place with
  | none => exact .none
  | some found => exact .some (trims_prune found)

theorem Schema.undeclared_eq_nil (schema : Schema) :
    schema.undeclared = [] ↔ schema.required ⊆ schema.declared := by
  simp [Schema.undeclared, List.filter_eq_nil_iff, List.subset_def]

theorem nestedAt?_inner (name : String) (schema : Schema) {place : List Nat} (deeper : place ≠ []) :
    nestedAt? name (.schema schema) place = entryAt? (schema.inner name) place := by
  cases place with
  | nil => exact absurd rfl deeper
  | cons position place =>
    rw [nestedAt?, entryAt?]
    cases (schema.inner name)[position]? <;> rfl

theorem nestedAt?_of_inner {name : String} {schema : Schema} {place : List Nat}
    {found : String × Schema} (inside : entryAt? (schema.inner name) place = some found) :
    nestedAt? name (.schema schema) place = some found := by
  rw [nestedAt?_inner name schema, inside]
  rintro rfl
  cases inside

theorem entryAt?_nil (place : List Nat) : entryAt? [] place = none := by
  cases place <;> rfl

theorem Warns.once {find : List Nat → Option (String × Schema)} {places : List (List Nat)}
    {warnings : List LogEntry} (warns : Warns find places warnings) : places.Nodup := by
  apply warns.innerFirst.imp
  rintro earlier later outside rfl
  exact outside List.prefix_rfl

theorem Warns.none {find : List Nat → Option (String × Schema)}
    (nothing : ∀ place, find place = none) : Warns find [] [] where
  complete := by simp [nothing]
  innerFirst := .nil
  texts := .nil

def behind : List Nat → List Nat
  | [] => []
  | position :: place => (position + 1) :: place

@[simp] theorem behind_eq_nil {place : List Nat} : behind place = [] ↔ place = [] := by
  cases place <;> simp [behind]

@[simp] theorem behind_eq_cons {place other : List Nat} {position : Nat} :
    behind place = position :: other ↔
      ∃ earlier, earlier + 1 = position ∧ place = earlier :: other := by
  cases place <;> simp [behind]

theorem prefix_of_behind {place other : List Nat} (within : behind place <+: behind other) :
    place <+: other := by
  cases place with
  | nil => exact List.nil_prefix
  | cons position place =>
    cases other with
    | nil => exact absurd (List.prefix_nil.mp within) (List.cons_ne_nil _ _)
    | cons first other =>
      obtain ⟨same, deeper⟩ := List.cons_prefix_cons.mp within
      exact List.cons_prefix_cons.mpr ⟨Nat.succ.inj same, deeper⟩

theorem not_prefix_behind (place other : List Nat) : ¬0 :: place <+: behind other := by
  cases other with
  | nil => exact fun within => absurd (List.prefix_nil.mp within) (List.cons_ne_nil _ _)
  | cons first other => exact fun within => nomatch (List.cons_prefix_cons.mp within).1

theorem entryAt?_behind (first : String × Subschema) (rest : List (String × Subschema))
    (place : List Nat) : entryAt? (first :: rest) (behind place) = entryAt? rest place := by
  cases place with
  | nil => rfl
  | cons position place => rw [behind, entryAt?, List.getElem?_cons_succ, entryAt?]

theorem Warns.cons {name : String} {item : Subschema} {rest : List (String × Subschema)}
    {places others : List (List Nat)} {warnings more : List LogEntry}
    (first : Warns (nestedAt? name item) places warnings)
    (further : Warns (entryAt? rest) others more) :
    Warns (entryAt? ((name, item) :: rest))
      (places.map (List.cons 0) ++ others.map behind) (warnings ++ more) where
  complete := by
    intro place
    rw [List.mem_append]
    rcases place with _ | ⟨_ | position, place⟩
    next =>
      -- No entry is found without a position, so neither list has the empty place.
      simp [further.complete, entryAt?]
    next => simpa [entryAt?] using first.complete place
    next => simpa [entryAt?] using further.complete (position :: place)
  innerFirst := by
    apply List.pairwise_append.mpr
    refine ⟨?_, ?_, ?_⟩
    · exact List.pairwise_map.mpr (first.innerFirst.imp fun outside within =>
        outside (List.cons_prefix_cons.mp within).2)
    · exact List.pairwise_map.mpr (further.innerFirst.imp fun outside within =>
        outside (prefix_of_behind within))
    · intro earlier inFirst later inRest within
      obtain ⟨place, -, rfl⟩ := List.mem_map.mp inFirst
      obtain ⟨other, -, rfl⟩ := List.mem_map.mp inRest
      exact not_prefix_behind place other within
  texts := by
    apply List.rel_append
    · exact List.forall₂_map_left_iff.mpr first.texts
    · refine List.forall₂_map_left_iff.mpr (further.texts.imp fun place warning told => ?_)
      rwa [entryAt?_behind]

section Own

variable {name : String} {schema : Schema} {places : List (List Nat)} {warnings : List LogEntry}

theorem Warns.of_inner (inside : Warns (entryAt? (schema.inner name)) places warnings)
    (kept : schema.required ⊆ schema.declared) :
    Warns (nestedAt? name (.schema schema)) places warnings where
  complete := by
    intro place
    cases place with
    | nil => simp [inside.complete, entryAt?, nestedAt?, kept]
    | cons position place =>
      rw [nestedAt?_inner name schema (List.cons_ne_nil _ _)]
      exact inside.complete (position :: place)
  innerFirst := inside.innerFirst
  texts := by
    refine inside.texts.imp fun place warning told => ?_
    obtain ⟨inner, found, at_place, text⟩ := told
    exact ⟨inner, found, nestedAt?_of_inner at_place, text⟩

theorem Warns.around (inside : Warns (entryAt? (schema.inner name)) places warnings)
    (lost : ¬schema.required ⊆ schema.declared) :
    Warns (nestedAt? name (.schema schema)) (places ++ [[]])
      (warnings ++ [lostNames name schema]) where
  complete := by
    intro place
    cases place with
    | nil => simp [nestedAt?, lost]
    | cons position place =>
      rw [nestedAt?_inner name schema (List.cons_ne_nil _ _)]
      simpa using inside.complete (position :: place)
  innerFirst := by
    have deeper : [] ∉ places := by simp [inside.complete, entryAt?]
    apply List.pairwise_append.mpr
    refine ⟨inside.innerFirst, List.pairwise_singleton _ _, ?_⟩
    intro earlier member later last within
    rw [List.mem_singleton.mp last] at within
    exact deeper (List.prefix_nil.mp within ▸ member)
  texts := by
    apply List.rel_append
    · refine inside.texts.imp fun place warning told => ?_
      obtain ⟨inner, found, at_place, text⟩ := told
      exact ⟨inner, found, nestedAt?_of_inner at_place, text⟩
    · exact .cons ⟨name, schema, by rw [nestedAt?], rfl⟩ .nil

theorem Warns.of_entries (inside : Warns (entryAt? (schema.inner name)) places warnings) :
    ∃ all, Warns (nestedAt? name (.schema schema)) all
      (warnings ++ schema.undeclaredWarning name) := by
  by_cases kept : schema.required ⊆ schema.declared
  next =>
    have nothing := schema.undeclared_eq_nil.mpr kept
    rw [Schema.undeclaredWarning, if_pos (List.isEmpty_iff.mpr nothing), List.append_nil]
    exact ⟨places, inside.of_inner kept⟩
  next =>
    have lost := mt schema.undeclared_eq_nil.mp kept
    rw [Schema.undeclaredWarning, if_neg (mt List.isEmpty_iff.mp lost)]
    exact ⟨places ++ [[]], inside.around kept⟩

end Own

mutual

theorem Schema.warns (name : String) : (schema : Schema) →
    ∃ places, Warns (nestedAt? name (.schema schema)) places (schema.pruneWarnings name)
  | ⟨format, type, reference, items, properties, required, title, description, enum⟩ => by
    have inside : ∃ places, Warns
        (entryAt? (Schema.inner name
          ⟨format, type, reference, items, properties, required, title, description, enum⟩))
        places (properties.elim [] (Schema.propertyWarnings name)) := by
      cases properties with
      | none => exact ⟨[], .none entryAt?_nil⟩
      | some properties => exact Schema.properties_warn name properties
    rw [Schema.pruneWarnings_eq]
    exact inside.elim fun places warns => warns.of_entries

theorem Subschema.warns (name : String) : (item : Subschema) →
    ∃ places, Warns (nestedAt? name item) places (item.pruneWarnings name)
  | .schema schema => by
    rw [Subschema.pruneWarnings]
    exact Schema.warns name schema
  | .boolean admitted => by
    rw [Subschema.pruneWarnings]
    exact ⟨[], .none fun _ => by rw [nestedAt?]⟩

theorem Schema.properties_warn (name : String) : (properties : List (String × Subschema)) →
    ∃ places,
      Warns (entryAt? (properties.map fun property => (name ++ "." ++ property.1, property.2)))
        places (Schema.propertyWarnings name properties)
  | [] => by
    rw [Schema.propertyWarnings]
    exact ⟨[], .none entryAt?_nil⟩
  | (field, property) :: rest => by
    rw [Schema.propertyWarnings]
    obtain ⟨places, first⟩ := Subschema.warns (name ++ "." ++ field) property
    obtain ⟨others, further⟩ := Schema.properties_warn name rest
    exact ⟨_, first.cons further⟩

end

theorem Document.warns (document : Document) :
    ∃ places, Warns document.schemaAt? places document.pruneWarnings := by
  rw [pruneWarnings, Document.schemaAt?]
  induction document.components.schemas with
  | nil => exact ⟨[], .none entryAt?_nil⟩
  | cons entry rest ih =>
    obtain ⟨places, first⟩ := Schema.warns entry.1 entry.2
    obtain ⟨others, further⟩ := ih
    exact ⟨_, first.cons further⟩

theorem Warns.warning {find : List Nat → Option (String × Schema)} {places : List (List Nat)}
    {warnings : List LogEntry} (warns : Warns find places warnings) :
    ∀ entry ∈ warnings, entry.level = .warning := by
  have texts := warns.texts
  clear warns
  induction texts with
  | nil => simp
  | cons told _ ih =>
    obtain ⟨name, schema, -, rfl⟩ := told
    exact List.forall_mem_cons.mpr ⟨rfl, ih⟩

theorem Document.filter_log (document : Document) :
    (document.pruneWarnings ++ document.ignoredNotes).filter
        (fun entry => entry.level = .warning) = document.pruneWarnings := by
  obtain ⟨places, warns⟩ := document.warns
  have kept : document.pruneWarnings.filter (fun entry => entry.level = .warning) =
      document.pruneWarnings :=
    List.filter_eq_self.mpr fun entry member => decide_eq_true (warns.warning entry member)
  have dropped : document.ignoredNotes.filter (fun entry => entry.level = .warning) = [] := by
    apply List.filter_eq_nil_iff.mpr
    intro entry member
    simp [ignoredNotes_debug document entry member]
  rw [List.filter_append, kept, dropped, List.append_nil]

/-- Every accepted document is the validated input with the undeclared required names taken out of
its component schemas, at every depth of their properties. Each schema that lost a name is warned of
exactly once, after the schemas inside of it. -/
theorem Document.parse_required {spec : Value} {source : Option String} {document : Document}
    (accepted : (parse spec source).outcome = .ok document) :
    ∃ validated, read spec = .valid validated ∧ document.bare = validated.bare ∧
      (∀ place, Option.Rel Trims (validated.schemaAt? place) (document.schemaAt? place)) ∧
      ∃ places, places.Nodup ∧ Warns validated.schemaAt? places
        ((parse spec source).log.filter fun entry => entry.level = .warning) := by
  rw [parse] at accepted
  split at accepted
  next => cases accepted
  next validated valid =>
    obtain rfl := Except.ok.inj accepted
    obtain ⟨places, warns⟩ := validated.warns
    have logged : (parse spec source).log =
        validated.pruneWarnings ++ validated.ignoredNotes := by
      rw [parse, valid]
    refine ⟨validated, valid, validated.bare_prune, validated.trims_schemaAt?, places,
      warns.once, ?_⟩
    rwa [logged, filter_log]

def ownedItem : Schema :=
  ⟨none, some (.one .object), none, none,
    some
      [("any", .boolean true),
        ("owner", .schema
          ⟨none, none, none, none, none, ["name"], none, none, none⟩)],
    ["owner", "id", "owner"], none, none, none⟩

def ownedDocument : Document :=
  { version := "3.0.0"
    info := .standard
    servers := []
    paths := []
    components := { Components.empty with schemas := [("Item", ownedItem)] } }

theorem Document.parse_required_owned :
    (parse ownedDocument.dump none).outcome = .ok ownedDocument.prune ∧
      (parse ownedDocument.dump none).log.map LogEntry.text =
        ["Item.owner: required fields ['name'] are not declared in properties, ignoring",
          "Item: required fields ['id'] are not declared in properties, ignoring"] ∧
      ∃ found, ownedDocument.prune.schemaAt? [0] = some found ∧
        found.2.required = ["owner", "owner"] := by
  have valid : read ownedDocument.dump = .valid ownedDocument :=
    read_dump fun _ absent => nomatch absent
  have accepted : (parse ownedDocument.dump none).outcome = .ok ownedDocument.prune := by
    rw [parse, valid]
  obtain ⟨validated, again, -, trims, -⟩ := parse_required accepted
  obtain rfl : validated = ownedDocument := by
    rw [valid] at again
    cases again
    rfl
  refine ⟨accepted, ?_, ?_⟩
  · rw [parse, valid]
    decide
  · have outer : Option.Rel Trims (some ("Item", ownedItem))
        (ownedDocument.prune.schemaAt? [0]) := trims [0]
    generalize ownedDocument.prune.schemaAt? [0] = inside at outer ⊢
    cases outer with
    | some related => exact ⟨_, rfl, related.kept⟩

end OpenApiClient
