import OpenApiClient.Client.Routes

set_option autoImplicit false

namespace OpenApiClient

def PathItem.empty : PathItem :=
  ⟨none, none, [], none, none, none, none, none, none, none, none⟩

namespace Route

structure Parts (components : Components) (path : String) (item : PathItem) (method : String)
    (operation : Operation) (parameters : List Parameter) (route : Route) : Prop where
  method_eq : route.method = method
  path_eq : route.path = path
  description_eq : route.description = about operation
  collected : (collectParameters components item operation (location method path)).outcome =
    .ok parameters
  named : (nameParameters (location method path) [] parameters).outcome = .ok route.named
  typed : (typeParameters (location method path) route.named).outcome = .ok route.arguments
  payload : (requestPayload components operation (location method path)).outcome =
    .ok route.payload
  answer : (expectedAnswer components operation (location method path)).outcome = .ok route.answer

theorem outcome_warnUnknownPlaces (place : String) (arguments : List Argument) :
    (warnUnknownPlaces place arguments).outcome = .ok () := by
  induction arguments with
  | nil => rfl
  | cons argument rest ih =>
    rw [warnUnknownPlaces]
    split
    next => exact Logged.outcome_bind_eq_ok.mpr ⟨(), rfl, ih⟩
    next => exact ih

theorem ofOperation_eq_ok_iff {components : Components} {name path method : String}
    {item : PathItem} {operation : Operation} {route : Route} :
    (ofOperation components name path item method operation).outcome = .ok route ↔
      route.name = name ∧
        ∃ parameters, Parts components path item method operation parameters route := by
  simp only [ofOperation, Logged.debug, Logged.outcome_bind_eq_ok, Logged.outcome_write,
    Logged.pure_def, outcome_warnUnknownPlaces]
  constructor
  · rintro ⟨_, _, parameters, collected, named, naming, arguments, typing, payload, body, answer,
      expected, _, _, made⟩
    obtain rfl := Except.ok.inj made
    exact ⟨rfl, parameters, rfl, rfl, rfl, collected, naming, typing, body, expected⟩
  · rintro ⟨rfl, parameters, parts⟩
    refine ⟨(), trivial, parameters, parts.collected, route.named, parts.named, route.arguments,
      parts.typed, route.payload, parts.payload, route.answer, parts.answer, (), trivial, ?_⟩
    rw [← parts.method_eq, ← parts.path_eq, ← parts.description_eq]

theorem generate_eq_ok_iff {components : Components} {registered : Registered}
    {path method : String} {item : PathItem} {operation : Operation} {route : Route} :
    (generate components registered path item method operation).2.outcome = .ok route ↔
      ∃ next, register registered method path operation = .ok (route.name, next) ∧
        ∃ parameters, Parts components path item method operation parameters route := by
  rw [generate]
  split
  next failure refused => simp [refused]
  next name next accepted =>
    rw [ofOperation_eq_ok_iff]
    constructor
    · rintro ⟨rfl, parts⟩
      exact ⟨next, accepted, parts⟩
    · rintro ⟨other, again, parts⟩
      rw [accepted] at again
      obtain ⟨rfl, rfl⟩ := Prod.mk.inj (Except.ok.inj again)
      exact ⟨rfl, parts⟩

end Route
end OpenApiClient
