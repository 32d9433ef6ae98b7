import OpenApiClient.Proofs.Route.Naming
import OpenApiClient.Proofs.Route.Registration

set_option autoImplicit false

namespace OpenApiClient

namespace Route

namespace Call

variable {components : Components} {registered : Registered} {call : Call}

def ofEntry (entry : String × PathItem × Method × Operation) : Call :=
  ⟨entry.1, entry.2.1, entry.2.2.1.name, entry.2.2.2⟩

/-- What comes of an operation before which no other has taken a name. -/
def alone (components : Components) (call : Call) : Except Failure Route :=
  (call.result components .empty).2.outcome

theorem Takes.result_eq {result first : Registered × Logged Route}
    (takes : Takes components registered call result)
    (free : call.functionName ∉ registered.functionNames.keys)
    (takesFirst : Takes components .empty call first) : result.2 = first.2 := by
  cases takes with
  | missing empty =>
    cases takesFirst with
    | missing _ => rfl
    | duplicate filled _ => exact absurd empty filled
    | new filled _ => exact absurd empty filled
  | duplicate _ taken => exact absurd taken free
  | new filled _ =>
    cases takesFirst with
    | missing empty => exact absurd empty filled
    | duplicate _ taken => cases taken
    | new _ _ => rfl

theorem outcome_of_free (consistent : registered.Consistent)
    (free : call.functionName ∉ registered.functionNames.keys) :
    (call.result components registered).2.outcome = call.alone components :=
  congrArg Logged.outcome ((result_takes consistent components call).result_eq free
    (result_takes .empty components call))

theorem name_of_alone {route : Route} (made : call.alone components = .ok route) :
    route.name = call.functionName :=
  ((result_takes .empty components call).named made).1

theorem keys_of_made (consistent : registered.Consistent) {route : Route}
    (made : (call.result components registered).2.outcome = .ok route) :
    call.functionName ∉ registered.functionNames.keys ∧
      (call.result components registered).1.functionNames.keys =
        registered.functionNames.keys ++ [call.functionName] := by
  obtain ⟨named, new, keys⟩ := (result_takes consistent components call).named made
  rw [named] at new keys
  exact ⟨new, keys⟩

end Call

inductive Gives (components : Components) :
    Registered → List Call → List Route → Option Failure → Prop where
  | nil {registered : Registered} : Gives components registered [] [] none
  | stop {registered : Registered} {call : Call} {rest : List Call} {failure : Failure}
      (failed : (call.result components registered).2.outcome = .error failure) :
      Gives components registered (call :: rest) [] (some failure)
  | cons {registered : Registered} {call : Call} {rest : List Call} {route : Route}
      {routes : List Route} {failure : Option Failure}
      (made : (call.result components registered).2.outcome = .ok route)
      (later : Gives components (call.result components registered).1 rest routes failure) :
      Gives components registered (call :: rest) (route :: routes) failure

structure Given (components : Components) (registered : Registered) (calls before : List Call)
    (routes : List Route) (failure : Option Failure) : Prop where
  functions : List.Forall₂ (fun call route => call.alone components = .ok route) before routes
  names : (registered.functionNames.keys ++ before.map Call.functionName).Nodup
  all : failure = none → calls = before
  stopped : ∀ reason, failure = some reason → ∃ call after, calls = before ++ call :: after ∧
    (call.result components (registeredFrom components registered before)).2.outcome =
      .error reason

theorem Given.routeNames {components : Components} {registered : Registered}
    {calls before : List Call} {routes : List Route} {failure : Option Failure}
    (given : Given components registered calls before routes failure) :
    routes.map (·.name) = before.map Call.functionName := by
  refine Eq.symm ?_
  rw [← List.forall₂_eq_eq_eq, List.forall₂_map_left_iff, List.forall₂_map_right_iff]
  exact given.functions.imp fun _ _ made => (Call.name_of_alone made).symm

namespace Gives

variable {components : Components} {registered : Registered} {calls : List Call}
  {routes : List Route} {failure : Option Failure}

theorem given (gives : Gives components registered calls routes failure)
    (consistent : registered.Consistent) :
    ∃ before, Given components registered calls before routes failure := by
  induction gives with
  | nil => exact ⟨[], .nil, by simpa using consistent.distinct, fun _ => rfl, by simp⟩
  | @stop registered call rest reason failed =>
    refine ⟨[], .nil, by simpa using consistent.distinct, by simp, ?_⟩
    rintro _ ⟨⟩
    exact ⟨call, rest, rfl, failed⟩
  | @cons registered call rest route routes failure made later ih =>
    obtain ⟨free, keys⟩ := Call.keys_of_made consistent made
    have next := (Call.result_takes consistent components call).consistent consistent
    obtain ⟨before, given⟩ := ih next
    have names := given.names
    rw [keys] at names
    refine ⟨call :: before, .cons ?_ given.functions, by simpa using names, ?_, ?_⟩
    · exact (Call.outcome_of_free consistent free).symm.trans made
    · exact fun done => congrArg _ (given.all done)
    · intro reason stopped
      obtain ⟨failing, after, split, failed⟩ := given.stopped reason stopped
      exact ⟨failing, after, congrArg _ split, failed⟩

theorem complete (gives : Gives components registered calls routes failure)
    (consistent : registered.Consistent)
    (functions : ∀ call ∈ calls, ∃ route, call.alone components = .ok route)
    (names : (registered.functionNames.keys ++ calls.map Call.functionName).Nodup) :
    failure = none := by
  induction gives with
  | nil => rfl
  | @stop registered call rest reason failed =>
    obtain ⟨route, made⟩ := functions call List.mem_cons_self
    have free : call.functionName ∉ registered.functionNames.keys := fun taken =>
      (List.nodup_append.mp names).2.2 _ taken _ List.mem_cons_self rfl
    rw [Call.outcome_of_free consistent free, made] at failed
    cases failed
  | @cons registered call rest route routes failure made later ih =>
    have keys := (Call.keys_of_made consistent made).2
    refine ih ((Call.result_takes consistent components call).consistent consistent) ?_ ?_
    · exact fun later inside => functions later (List.mem_cons_of_mem _ inside)
    · rw [keys]
      simpa using names

end Gives

end Route

namespace Routes

open Route

theorem routesFrom_gives (components : Components) (registered : Registered)
    (operations : List (String × PathItem × Method × Operation)) :
    Gives components registered (operations.map Call.ofEntry)
      (routesFrom components registered operations).items
      (routesFrom components registered operations).failure := by
  induction operations generalizing registered with
  | nil => exact .nil
  | cons entry rest ih =>
    obtain ⟨path, item, method, operation⟩ := entry
    simp only [routesFrom]
    split
    next failure failed => exact .stop failed
    next route made => exact .cons made (ih _)

end Routes

/-- The operations of an item that functions are generated for, in a fixed order of methods. -/
def PathItem.calls (path : String) (item : PathItem) : List Route.Call :=
  [("GET", item.get), ("PUT", item.put), ("POST", item.post), ("DELETE", item.delete),
    ("PATCH", item.patch)].filterMap fun (method, operation) =>
      operation.map fun operation => ⟨path, item, method, operation⟩

theorem PathItem.calls_eq (path : String) (item : PathItem) :
    item.calls path = Method.generated.filterMap fun method =>
      (item.operation? method).map fun operation => ⟨path, item, method.name, operation⟩ := by
  have methods : [("GET", item.get), ("PUT", item.put), ("POST", item.post),
      ("DELETE", item.delete), ("PATCH", item.patch)] =
        Method.generated.map fun method => (method.name, item.operation? method) := rfl
  rw [calls, methods, List.filterMap_map]
  rfl

/-- The operations that functions are generated for, path by path. -/
def Document.calls (document : Document) : List Route.Call :=
  document.paths.flatMap fun (path, item) => item.calls path

theorem Document.calls_eq (document : Document) :
    document.calls = document.operations.map Route.Call.ofEntry := by
  rw [calls, operations, List.map_flatMap]
  refine congrArg (fun ofPath => document.paths.flatMap ofPath) (funext fun ⟨path, item⟩ => ?_)
  simp only [PathItem.calls_eq, PathItem.operations, List.map_filterMap, Option.map_map]
  rfl

namespace Routes

open Route

theorem routes_given (document : Document) :
    ∃ before, Given document.components .empty document.calls before (routes document).items
      (routes document).failure := by
  have gives := routesFrom_gives document.components .empty document.operations
  rw [← document.calls_eq] at gives
  exact gives.given .empty

theorem calls_given {document : Document} (done : (routes document).failure = none) :
    List.Forall₂ (fun call route => call.alone document.components = .ok route) document.calls
        (routes document).items ∧
      (document.calls.map Call.functionName).Nodup := by
  obtain ⟨before, given⟩ := routes_given document
  obtain rfl := given.all done
  exact ⟨given.functions, by simpa [Registered.empty, Entries.keys] using given.names⟩

theorem names_eq {document : Document} (done : (routes document).failure = none) :
    (routes document).items.map (·.name) = document.calls.map Call.functionName := by
  obtain ⟨before, given⟩ := routes_given document
  rw [given.routeNames, given.all done]

end Routes
end OpenApiClient
