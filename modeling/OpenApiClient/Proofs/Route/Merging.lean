import OpenApiClient.Proofs.Route.Alias
import OpenApiClient.Proofs.Route.Body

set_option autoImplicit false

namespace OpenApiClient

theorem Entries.mem_put_of_nodup {κ α : Type} [DecidableEq κ] {entries : Entries κ α}
    (distinct : entries.keys.Nodup) {key : κ} {value : α} {entry : κ × α}
    (member : entry ∈ entries.put key value) :
    entry = (key, value) ∨ (entry.1 ≠ key ∧ entry ∈ entries) := by
  by_cases same : entry.1 = key
  next =>
    have found := get?_of_mem (nodup_keys_put distinct key value) member
    rw [same, get?_put_self] at found
    exact .inl (Prod.ext same (Option.some.inj found).symm)
  next =>
    rcases mem_put member with new | old
    · exact absurd (congrArg Prod.fst new) same
    · exact .inr ⟨same, old⟩

namespace Route

/-- What a handle adds to the parameters of an operation. It is skipped only when its own pointer
goes into an unknown category. -/
inductive Yields (components : Components) : Handle Parameter → Option Parameter → Prop where
  | parameter {handle : Handle Parameter} {parameter : Parameter} {owned : Bool}
      (resolved : (Handle.resolve components .parameter (some (handle.map .parameter))).outcome =
        .ok (some ⟨.parameter, .parameter parameter, owned⟩)) :
      Yields components handle (some parameter)
  | skipped {pointer : String} (unknown : Pointer.kind? pointer = .ok none) :
      Yields components (.reference pointer) none

def Latest (found : List Parameter) (parameter : Parameter) : Prop :=
  ∃ before after, found = before ++ parameter :: after ∧
    parameterKey parameter ∉ after.map parameterKey

def FirstBefore (found : List Parameter) (key other : ParameterKey) : Prop :=
  (found.map parameterKey).idxOf key < (found.map parameterKey).idxOf other

/-- The parameters that a list of them is merged to. -/
structure MergedTo (found merged : List Parameter) : Prop where
  distinct : (merged.map parameterKey).Nodup
  complete : ∀ key, key ∈ merged.map parameterKey ↔ key ∈ found.map parameterKey
  latest : ∀ parameter ∈ merged, Latest found parameter
  requiredFirst : merged.Pairwise fun earlier later =>
    later.required = true → earlier.required = true
  inOrder : merged.Pairwise fun earlier later => earlier.required = later.required →
    FirstBefore found (parameterKey earlier) (parameterKey later)

theorem Latest.unique {found : List Parameter} {parameter other : Parameter}
    (latest : Latest found parameter) (again : Latest found other)
    (same : parameterKey parameter = parameterKey other) : parameter = other := by
  obtain ⟨before, after, split, last⟩ := latest
  obtain ⟨before', after', split', last'⟩ := again
  rw [split, List.append_eq_append_iff] at split'
  -- One of the two would stand behind the other one, under the same name and place.
  rcases split' with ⟨between, -, behind⟩ | ⟨between, -, behind⟩
  next =>
    cases between with
    | nil => exact (List.cons.inj behind).1
    | cons first rest =>
      obtain ⟨rfl, rfl⟩ := List.cons.inj behind
      simp [same] at last
  next =>
    cases between with
    | nil => exact (List.cons.inj behind).1.symm
    | cons first rest =>
      obtain ⟨rfl, rfl⟩ := List.cons.inj behind
      simp [← same] at last'

theorem MergedTo.mem_iff {found merged : List Parameter} (merges : MergedTo found merged)
    (parameter : Parameter) : parameter ∈ merged ↔ Latest found parameter := by
  constructor
  · exact merges.latest parameter
  · intro latest
    have named : parameterKey parameter ∈ found.map parameterKey := by
      obtain ⟨before, after, rfl, -⟩ := latest
      simp
    obtain ⟨other, inside, same⟩ := List.mem_map.mp ((merges.complete _).mpr named)
    exact (merges.latest other inside).unique latest same ▸ inside

theorem MergedTo.unique {found merged other : List Parameter} (merges : MergedTo found merged)
    (again : MergedTo found other) : other = merged := by
  have members : other.Perm merged := by
    apply (List.perm_ext_iff_of_nodup again.distinct.of_map merges.distinct.of_map).mpr
    intro parameter
    rw [again.mem_iff, merges.mem_iff]
  apply List.Perm.eq_of_pairwise _ (again.requiredFirst.and again.inOrder)
    (merges.requiredFirst.and merges.inOrder) members
  rintro earlier later - - ⟨first, ordered⟩ ⟨second, reversed⟩
  have alike : earlier.required = later.required := Bool.eq_iff_iff.mpr ⟨second, first⟩
  exact absurd (ordered alike) (Nat.lt_asymm (reversed alike.symm))

structure Collects (found : List Parameter) (merged : Entries ParameterKey Parameter) : Prop where
  keyed : Keyed merged
  complete : ∀ key, key ∈ merged.keys ↔ key ∈ found.map parameterKey
  latest : ∀ entry ∈ merged, Latest found entry.2
  inOrder : merged.keys.Pairwise (FirstBefore found)

theorem Collects.empty : Collects [] [] where
  keyed := Keyed.empty
  complete := by simp [Entries.keys]
  latest := by simp
  inOrder := .nil

theorem Latest.append {found : List Parameter} {parameter next : Parameter}
    (latest : Latest found parameter) (other : parameterKey parameter ≠ parameterKey next) :
    Latest (found ++ [next]) parameter := by
  obtain ⟨before, after, rfl, last⟩ := latest
  refine ⟨before, after ++ [next], by simp, ?_⟩
  simpa [other] using last

theorem FirstBefore.append {found : List Parameter} {key other : ParameterKey}
    (before : FirstBefore found key other) (known : other ∈ found.map parameterKey)
    (next : Parameter) : FirstBefore (found ++ [next]) key other := by
  have earlier : key ∈ found.map parameterKey :=
    List.idxOf_lt_length_iff.mp (Nat.lt_trans before (List.idxOf_lt_length_iff.mpr known))
  rw [FirstBefore, List.map_append, List.idxOf_append_of_mem earlier,
    List.idxOf_append_of_mem known]
  exact before

theorem firstBefore_new {found : List Parameter} {key : ParameterKey} {next : Parameter}
    (known : key ∈ found.map parameterKey) (new : parameterKey next ∉ found.map parameterKey) :
    FirstBefore (found ++ [next]) key (parameterKey next) := by
  have early := List.idxOf_lt_length_iff.mpr known
  rw [FirstBefore, List.map_append, List.idxOf_append_of_mem known,
    List.idxOf_append_of_notMem new]
  omega

theorem Collects.put {found : List Parameter} {merged : Entries ParameterKey Parameter}
    (collects : Collects found merged) (next : Parameter) :
    Collects (found ++ [next]) (merged.put (parameterKey next) next) where
  keyed := collects.keyed.put next
  complete := by
    intro key
    rw [List.map_append, List.mem_append, ← collects.complete]
    by_cases present : parameterKey next ∈ merged.keys
    next =>
      rw [Entries.keys_put_of_mem merged _ _ present]
      simp only [List.map_cons, List.map_nil, List.mem_singleton]
      exact ⟨.inl, fun either => either.elim id fun same => same ▸ present⟩
    next => simp [Entries.keys_put_of_not_mem merged _ _ present]
  latest := by
    intro entry member
    rcases Entries.mem_put_of_nodup collects.keyed.distinct member with rfl | ⟨other, old⟩
    · exact ⟨found, [], rfl, by simp⟩
    · apply (collects.latest entry old).append
      rwa [← collects.keyed.own entry old]
  inOrder := by
    -- A known name keeps its position, a new one goes behind all others.
    have kept : merged.keys.Pairwise (FirstBefore (found ++ [next])) := by
      refine collects.inOrder.imp_of_mem fun _ known before => ?_
      exact before.append ((collects.complete _).mp known) next
    by_cases present : parameterKey next ∈ merged.keys
    next =>
      rw [Entries.keys_put_of_mem merged _ _ present]
      exact kept
    next =>
      rw [Entries.keys_put_of_not_mem merged _ _ present, List.pairwise_append]
      refine ⟨kept, List.pairwise_singleton _ _, fun key known other new => ?_⟩
      rw [List.mem_singleton.mp new]
      exact firstBefore_new ((collects.complete key).mp known)
        fun old => present ((collects.complete _).mpr old)

theorem Collects.foldl {found : List Parameter} {merged : Entries ParameterKey Parameter}
    (collects : Collects found merged) (more : List Parameter) :
    Collects (found ++ more)
      (more.foldl (fun merged next => merged.put (parameterKey next) next) merged) := by
  induction more generalizing found merged with
  | nil => simpa using collects
  | cons next rest ih => simpa using ih (collects.put next)

theorem Collects.mergedTo {found : List Parameter} {merged : Entries ParameterKey Parameter}
    (collects : Collects found merged) :
    MergedTo found (merged.values.filter (·.required) ++
      merged.values.filter fun parameter => !parameter.required) := by
  have order := List.filter_append_perm (fun parameter : Parameter => parameter.required)
    merged.values
  have keys := collects.keyed.keys_eq
  constructor
  case distinct =>
    rw [(order.map parameterKey).nodup_iff, keys]
    exact collects.keyed.distinct
  case complete =>
    intro key
    rw [(order.map parameterKey).mem_iff, keys, collects.complete]
  case latest =>
    intro parameter member
    obtain ⟨entry, inside, rfl⟩ := List.mem_map.mp (order.mem_iff.mp member)
    exact collects.latest entry inside
  case requiredFirst => exact requiredFirst_sorted merged.values
  case inOrder =>
    have ordered := collects.inOrder
    rw [← keys, List.pairwise_map] at ordered
    have alike : merged.values.Pairwise fun earlier later => earlier.required = later.required →
        FirstBefore found (parameterKey earlier) (parameterKey later) := by
      refine ordered.imp ?_
      intro earlier later before _
      exact before
    apply List.pairwise_append.mpr ⟨alike.filter _, alike.filter _, ?_⟩
    intro earlier required later optional same
    -- One of the two is required, the other one is not.
    have first := (List.mem_filter.mp required).2
    have second := (List.mem_filter.mp optional).2
    simp [← same, first] at second

section Handles

variable {components : Components} {place : String}

theorem Yields.component {handle : Handle Parameter} {found : Option Parameter}
    (yields : Yields components handle found) :
    (component components .parameter place (some (handle.map .parameter))).outcome =
      .ok (found.map .parameter) := by
  cases yields with
  | parameter resolved => exact Logged.outcome_bind_eq_ok.mpr ⟨_, resolved, rfl⟩
  | skipped unknown => exact component_unknown components unknown .parameter place

theorem mergeParameters_of_yields {handles : List (Handle Parameter)}
    {found : List (Option Parameter)} (yields : List.Forall₂ (Yields components) handles found)
    (merged : Entries ParameterKey Parameter) :
    (mergeParameters components place merged handles).outcome =
      .ok (found.reduceOption.foldl (fun merged next => merged.put (parameterKey next) next)
        merged) := by
  induction yields generalizing merged with
  | nil => rfl
  | @cons handle next handles found first rest ih =>
    rw [mergeParameters, Logged.outcome_bind_of_ok first.component]
    cases next with
    | none => exact ih merged
    | some parameter => exact ih (merged.put (parameterKey parameter) parameter)

end Handles

/-- The handles of the path and then those of the operation give exactly one list of parameters:
each name and place once, as it comes last, in the order of the first occurrences, and the required
ones before the others. -/
theorem collectParameters_merged {components : Components} {item : PathItem}
    {operation : Operation} {found : List (Option Parameter)}
    (yields : List.Forall₂ (Yields components) (item.parameters ++ operation.parameters) found)
    (place : String) :
    ∃ parameters,
      (collectParameters components item operation place).outcome = .ok parameters ∧
        ∀ other, MergedTo found.reduceOption other ↔ other = parameters := by
  have collects := Collects.empty.foldl found.reduceOption
  have merges := collects.mergedTo
  refine ⟨_, ?_, fun other => ⟨merges.unique, fun same => same ▸ merges⟩⟩
  exact Logged.outcome_bind_eq_ok.mpr ⟨_, mergeParameters_of_yields yields [], rfl⟩

section Shared

def limitParameter (required : Bool) : Parameter :=
  ⟨"limit", "query", required, none, false, none, none⟩

def idParameter (description : String) : Parameter :=
  ⟨"id", "path", true, some description, false, none, none⟩

def sharedLimit : Components where
  schemas := []
  parameters := [("Limit", .inline (limitParameter true))]
  responses := []
  requestBodies := []

def limitedItem : PathItem :=
  { PathItem.empty with
    parameters := [.reference "#/components/parameters/Limit", .inline (idParameter "shared")] }

def relaxingOperation : Operation :=
  { operationId := some "getItem"
    summary := none
    description := none
    tags := []
    deprecated := false
    parameters := [.inline (limitParameter false), .reference "#/components/headers/Trace",
      .inline (idParameter "own")]
    requestBody := none
    responses := [] }

theorem collectParameters_merged_shared :
    List.Forall₂ (Yields sharedLimit) (limitedItem.parameters ++ relaxingOperation.parameters)
        [some (limitParameter true), some (idParameter "shared"), some (limitParameter false), none,
          some (idParameter "own")] ∧
      (collectParameters sharedLimit limitedItem relaxingOperation
          "GET /items/\x7bid\x7d").outcome = .ok [idParameter "own", limitParameter false] ∧
      MergedTo [limitParameter true, idParameter "shared", limitParameter false, idParameter "own"]
        [idParameter "own", limitParameter false] := by
  have yields : List.Forall₂ (Yields sharedLimit)
      (limitedItem.parameters ++ relaxingOperation.parameters)
      [some (limitParameter true), some (idParameter "shared"), some (limitParameter false), none,
        some (idParameter "own")] := by
    have behind : (Handle.resolve sharedLimit .parameter
        (some (.reference "#/components/parameters/Limit"))).outcome =
          .ok (some ⟨.parameter, .parameter (limitParameter true), false⟩) := by
      cbv
    have unknown : Pointer.kind? "#/components/headers/Trace" = .ok none := rfl
    exact .cons (.parameter behind) (.cons (.parameter rfl) (.cons (.parameter rfl)
      (.cons (.skipped unknown) (.cons (.parameter rfl) .nil))))
  have computed : (collectParameters sharedLimit limitedItem relaxingOperation
      "GET /items/\x7bid\x7d").outcome = .ok [idParameter "own", limitParameter false] :=
    Logged.outcome_bind_eq_ok.mpr ⟨_, mergeParameters_of_yields yields [], rfl⟩
  obtain ⟨parameters, collected, only⟩ :=
    collectParameters_merged yields "GET /items/\x7bid\x7d"
  obtain rfl := Except.ok.inj (collected.symm.trans computed)
  exact ⟨yields, computed, (only _).mpr rfl⟩

end Shared

end Route
end OpenApiClient
