import Mathlib.Data.List.Forall2
import Mathlib.Data.List.Nodup
import OpenApiClient.Client.Route.Parameters
import OpenApiClient.Proofs.Name.Identifier
import OpenApiClient.Proofs.Name.Numbering

set_option autoImplicit false

namespace OpenApiClient

theorem exists_of_forall₂ {α β : Type} {R : α → β → Prop} {first : List α} {second : List β}
    (both : List.Forall₂ R first second) {a : α} (member : a ∈ first) : ∃ b ∈ second, R a b := by
  induction both with
  | nil => cases member
  | @cons x y _ _ here _ ih =>
    rcases List.mem_cons.mp member with rfl | behind
    · exact ⟨y, List.mem_cons_self, here⟩
    · obtain ⟨b, inside, related⟩ := ih behind
      exact ⟨b, List.mem_cons_of_mem _ inside, related⟩

namespace Route

structure IsArgumentName (name : String) : Prop where
  identifier : Name.IsIdentifier name
  notKeyword : Name.isKeyword name = false
  notLocal : name ∉ Name.routeLocalNames

structure Keyed (merged : Entries ParameterKey Parameter) : Prop where
  distinct : merged.keys.Nodup
  own : ∀ entry ∈ merged, entry.1 = parameterKey entry.2

theorem Keyed.empty : Keyed [] := ⟨List.nodup_nil, by simp⟩

theorem Keyed.put {merged : Entries ParameterKey Parameter} (keyed : Keyed merged)
    (parameter : Parameter) : Keyed (merged.put (parameterKey parameter) parameter) where
  distinct := Entries.nodup_keys_put keyed.distinct _ _
  own := by
    intro entry member
    rcases Entries.mem_put member with rfl | old
    · rfl
    · exact keyed.own entry old

theorem Keyed.keys_eq {merged : Entries ParameterKey Parameter} (keyed : Keyed merged) :
    merged.values.map parameterKey = merged.keys := by
  simp only [Entries.values, Entries.keys, List.map_map]
  refine List.map_congr_left fun entry member => ?_
  exact (keyed.own entry member).symm

theorem mergeParameters_keyed {components : Components} {place : String}
    {merged result : Entries ParameterKey Parameter} {handles : List (Handle Parameter)}
    (keyed : Keyed merged)
    (done : (mergeParameters components place merged handles).outcome = .ok result) :
    Keyed result := by
  induction handles generalizing merged with
  | nil => exact Except.ok.inj done ▸ keyed
  | cons handle rest ih =>
    obtain ⟨found, _, more⟩ := Logged.outcome_bind_eq_ok.mp done
    split at more
    next => exact ih keyed more
    next parameter _ => exact ih (keyed.put parameter) more

theorem collectParameters_nodup {components : Components} {item : PathItem}
    {operation : Operation} {place : String} {parameters : List Parameter}
    (collected : (collectParameters components item operation place).outcome = .ok parameters) :
    (parameters.map parameterKey).Nodup := by
  obtain ⟨merged, done, same⟩ := Logged.outcome_bind_eq_ok.mp collected
  obtain rfl := Except.ok.inj same
  have keyed := mergeParameters_keyed Keyed.empty done
  have order :=
    List.filter_append_perm (fun parameter : Parameter => parameter.required) merged.values
  refine ((order.map parameterKey).nodup_iff).mpr ?_
  rw [keyed.keys_eq]
  exact keyed.distinct

theorem isArgumentName_parameter (name : String) : IsArgumentName (Name.parameter name) := by
  have closed : ∀ word ∈ Name.routeLocalNames, ¬ Name.EndsOpen word := by decide +kernel
  have free := Name.isReserved_identifier closed name
  simp only [Name.isReserved, Bool.or_eq_false_iff, List.contains_eq_mem,
    decide_eq_false_iff_not] at free
  exact ⟨(Name.identifier_word name _).isIdentifier, free.1.1, free.2⟩

-- No keyword and no name used by a body has an underscore, so a name with a suffix is free.
theorem isArgumentName_of_underscore {name : String} (word : Name.IsFoldedWord name)
    (underscore : '_' ∈ name.toList) : IsArgumentName name := by
  have plainKeywords : ∀ word ∈ Name.keywords, '_' ∉ word.toList := by decide +kernel
  have plainLocals : ∀ word ∈ Name.routeLocalNames, '_' ∉ word.toList := by decide +kernel
  refine ⟨word.isIdentifier, ?_, fun member => plainLocals _ member underscore⟩
  simpa [Name.isKeyword] using fun member => plainKeywords _ member underscore

theorem renamed_not_mem (taken : List String) (identifier place : String) :
    renamed taken identifier place ∉ taken := by
  rw [renamed]
  split
  next =>
    obtain ⟨_, _, _, free⟩ := Name.firstFree_spec taken (identifier ++ "_" ++ Name.snake place) 2
    exact free
  next free => simpa using free

theorem isArgumentName_renamed {identifier : String} (word : Name.IsFoldedWord identifier)
    (taken : List String) (place : String) :
    IsArgumentName (renamed taken identifier place) := by
  have placed : Name.IsFoldedWord (identifier ++ "_" ++ Name.snake place) :=
    word.append_underscore.append fun c => Name.mem_snake
  rw [renamed]
  split
  next =>
    obtain ⟨index, _, same, _⟩ :=
      Name.firstFree_spec taken (identifier ++ "_" ++ Name.snake place) 2
    rw [same]
    refine isArgumentName_of_underscore (placed.numbered index) ?_
    simp [Name.toList_numbered]
  next => exact isArgumentName_of_underscore placed (by simp [String.toList_append])

def argumentName (taken : List String) (parameter : Parameter) : String :=
  if taken.contains (Name.parameter parameter.name) then
    renamed taken (Name.parameter parameter.name) parameter.location
  else Name.parameter parameter.name

theorem argumentName_not_mem (taken : List String) (parameter : Parameter) :
    argumentName taken parameter ∉ taken := by
  rw [argumentName]
  split
  next => exact renamed_not_mem _ _ _
  next free => simpa using free

theorem isArgumentName_argumentName (taken : List String) (parameter : Parameter) :
    IsArgumentName (argumentName taken parameter) := by
  rw [argumentName]
  split
  next => exact isArgumentName_renamed (Name.identifier_word _ _) _ _
  next => exact isArgumentName_parameter _

theorem outcome_nameParameter (place : String) (taken : List String) (parameter : Parameter) :
    (nameParameter place taken parameter).outcome =
      .ok ⟨parameter, argumentName taken parameter⟩ := by
  simp only [nameParameter, argumentName]
  split <;> rfl

theorem nameParameters_spec (place : String) (taken : List String) (parameters : List Parameter) :
    ∃ named, (nameParameters place taken parameters).outcome = .ok named ∧
      named.map Named.parameter = parameters ∧ (named.map Named.identifier).Nodup ∧
        ∀ entry ∈ named, entry.identifier ∉ taken ∧ IsArgumentName entry.identifier := by
  -- Every name is put among the taken ones before the next parameter is named.
  induction parameters generalizing taken with
  | nil => exact ⟨[], rfl, rfl, List.nodup_nil, by simp⟩
  | cons parameter rest ih =>
    obtain ⟨named, done, same, distinct, free⟩ := ih (argumentName taken parameter :: taken)
    refine ⟨⟨parameter, argumentName taken parameter⟩ :: named, ?_, by simp [same], ?_, ?_⟩
    · simp only [nameParameters, Logged.outcome_bind_eq_ok]
      exact ⟨_, outcome_nameParameter place taken parameter, named, done, rfl⟩
    · refine List.nodup_cons.mpr ⟨?_, distinct⟩
      intro member
      obtain ⟨entry, inside, equal⟩ := List.mem_map.mp member
      exact (free entry inside).1 (equal ▸ List.mem_cons_self)
    · intro entry member
      rcases List.mem_cons.mp member with rfl | behind
      · exact ⟨argumentName_not_mem taken parameter, isArgumentName_argumentName taken parameter⟩
      · obtain ⟨fresh, legal⟩ := free entry behind
        exact ⟨fun old => fresh (List.mem_cons_of_mem _ old), legal⟩

def Argument.named (argument : Argument) : Named := ⟨argument.parameter, argument.identifier⟩

theorem typeParameters_typed {place : String} {named : List Named} {arguments : List Argument}
    (typed : (typeParameters place named).outcome = .ok arguments) :
    List.Forall₂ (fun entry argument => entry = argument.named ∧ ∃ schema field,
        MappedType.ofSchema schema .borrowedParameter field = .ok argument.type)
      (named.filter fun entry => entry.parameter.schema.isSome) arguments := by
  induction named generalizing arguments with
  | nil => exact Except.ok.inj typed ▸ .nil
  | cons entry rest ih =>
    obtain ⟨parameter, identifier⟩ := entry
    rw [typeParameters] at typed
    split at typed
    next untyped =>
      obtain ⟨_, _, more⟩ := Logged.outcome_bind_eq_ok.mp typed
      simpa [untyped] using ih more
    next schema written =>
      obtain ⟨type, mapped, more, others, made⟩ := by
        simpa only [Logged.outcome_bind_eq_ok] using typed
      obtain rfl := Except.ok.inj made
      rw [List.filter_cons_of_pos (by simp [written])]
      exact .cons ⟨rfl, schema, _, mapped⟩ (ih others)

theorem typeParameters_named {place : String} {named : List Named} {arguments : List Argument}
    (typed : (typeParameters place named).outcome = .ok arguments) :
    arguments.map Argument.named = named.filter fun entry => entry.parameter.schema.isSome := by
  have same := (typeParameters_typed typed).imp fun _ _ => And.left
  rw [← List.forall₂_map_right_iff, List.forall₂_eq_eq_eq] at same
  exact same.symm

end Route
end OpenApiClient
