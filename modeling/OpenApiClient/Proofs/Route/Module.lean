import OpenApiClient.Proofs.Code.Sections
import OpenApiClient.Proofs.Package.Contents

set_option autoImplicit false

namespace OpenApiClient

namespace Routes

open Route

theorem closed_statement (statement : Statement) : Text.Closed statement.render := by
  have bracket : Text.Closed ")" := ⟨')', by decide, rfl⟩
  cases statement with
  | request method path => exact bracket.append _
  | query wireName identifier kind required =>
    have query : Text.Closed (queryText wireName identifier kind) :=
      bracket.append
        ("builder.query(" ++ Json.literal wireName ++ ", " ++ converted kind identifier)
    cases required with
    | true => exact query
    | false => exact query.append _
  | attach format => cases format <;> exact ⟨')', by decide, by decide +kernel⟩
  | send => exact ⟨')', by decide, by decide +kernel⟩
  | returnDecoded type =>
    have call : Text.Closed ").validate_json(response.content)" :=
      ⟨')', by decide, by decide +kernel⟩
    exact call.append _
  | returnText => exact ⟨'t', by decide, by decide +kernel⟩
  | returnOctets => exact ⟨'t', by decide, by decide +kernel⟩

theorem settled_function (route : Route) (order : Int) :
    Code.Settled (route.toFunction order).render := by
  have filled : route.statements.map Statement.render ≠ [] := by simp [statements]
  refine Code.Function.settled_render (Text.Closed.intercalate _ filled ?_)
  obtain ⟨statement, -, rendered⟩ := List.mem_map.mp (List.getLast_mem filled)
  rw [← rendered]
  exact closed_statement statement

theorem sections_functionsFrom (order : Int) (routes : List Route) :
    (functionsFrom order routes).map (fun function => "\n\n\n" ++ function.render) =
      routes.map fun route => "\n\n\n" ++ (route.toFunction 0).render :=
  Code.Function.map_numberedDown Route.toFunction _ _ (fun _ _ => rfl) order routes

theorem settled_functionsFrom {order : Int} {routes : List Route} :
    ∀ function ∈ functionsFrom order routes, Code.Settled function.render := by
  intro function member
  obtain ⟨route, -, place, -, rfl⟩ := Code.Function.exists_of_mem_numberedDown member
  exact settled_function route place

/-- The text of a module with the given functions. -/
def text (routes : List Route) : String :=
  String.intercalate "\n" imports ++
    String.join (routes.map fun route => "\n\n\n" ++ (route.toFunction 0).render) ++ "\n"

theorem settled_imports : Code.Settled (String.intercalate "\n" imports) where
  closed := Text.Closed.intercalate _ (List.cons_ne_nil _ _) ⟨'g', by decide, by decide +kernel⟩
  noTab := Code.noTab_intercalate (by decide) (by decide +kernel)

theorem render_file (folder : String) (count : Nat) (document : Document) :
    (file folder count (routes document).items).render = text (routes document).items := by
  have values := functions_file folder count document ▸ values_file folder count document
  rw [file_eq, Code.File.render_of_functions rfl rfl, values, sections_functionsFrom]
  · rfl
  · rw [values]
    exact Code.Function.pairwise_numberedDown (fun _ _ => rfl) _ _
  · exact settled_imports
  · rw [values]
    exact settled_functionsFrom

/-- The module is the imports and then the functions of all operations in document order; when an
operation fails, those of the operations before it. -/
theorem generate_in_order (folder : String) (document : Document) :
    (∀ names, (generate folder document).outcome = .ok names →
      ∃ functions,
        List.Forall₂ (fun call route => call.alone document.components = .ok route)
          document.calls functions ∧
        names = functions.map (·.name) ∧ names.Nodup ∧
        (generate folder document).file.name = folder ++ "/routes.py" ∧
        (generate folder document).file.render = text functions) ∧
    (∀ failure, (generate folder document).outcome = .error failure →
      ∃ before call after functions, document.calls = before ++ call :: after ∧
        (call.result document.components
          (registeredFrom document.components .empty before)).2.outcome = .error failure ∧
        List.Forall₂ (fun call route => call.alone document.components = .ok route)
          before functions ∧
        (generate folder document).file.name = folder ++ "/routes.py" ∧
        (generate folder document).file.render = text functions) := by
  obtain ⟨before, given⟩ := routes_given document
  have rendered := render_file folder document.operations.length document
  have named : (generate folder document).file.name = folder ++ "/routes.py" := name_file _ _ _
  constructor
  · intro names made
    obtain ⟨done, rfl⟩ := generate_outcome_iff.mp made
    have all : document.calls = before := given.all done
    exact ⟨_, all ▸ given.functions, rfl, names_nodup document, named, rendered⟩
  · intro failure failed
    obtain ⟨call, after, split, stopped⟩ :=
      given.stopped failure (generate_error_iff.mp failed)
    exact ⟨before, call, after, _, split, stopped, given.functions, named, rendered⟩

def listingDocument (last : Operation) : Document :=
  { version := Document.standardVersion
    info := .standard
    servers := []
    paths :=
      [("/items", { PathItem.empty with
        patch := some last
        get := some ⟨some "listItems", none, none, [], false, [], none, []⟩ })]
    components := .empty }

theorem generate_in_order_listing :
    (∃ functions, (generate "pkg" (listingDocument Call.respelled.operation)).outcome =
        .ok ["list_items", "post_item"] ∧
      functions.map Route.name = ["list_items", "post_item"] ∧
      (generate "pkg" (listingDocument Call.respelled.operation)).file.render =
        text functions) ∧
    ∃ failure functions,
      (generate "pkg" (listingDocument Call.unsendable.operation)).outcome = .error failure ∧
      functions.length < (listingDocument Call.unsendable.operation).calls.length ∧
      (generate "pkg" (listingDocument Call.unsendable.operation)).file.render =
        text functions := by
  constructor
  · have computed : (generate "pkg" (listingDocument Call.respelled.operation)).outcome.toOption.map
        id = some ["list_items", "post_item"] := by decide +kernel
    obtain ⟨names, made, same⟩ := exists_of_toOption computed
    obtain rfl : names = _ := same
    obtain ⟨functions, _, named, _, _, rendered⟩ := (generate_in_order "pkg" _).1 _ made
    exact ⟨functions, made, named.symm, rendered⟩
  · have computed : (generate "pkg" (listingDocument Call.unsendable.operation)).outcome.toOption =
        none := by decide +kernel
    cases outcome : (generate "pkg" (listingDocument Call.unsendable.operation)).outcome with
    | ok names =>
      rw [outcome] at computed
      cases computed
    | error failure =>
      obtain ⟨before, call, after, functions, split, _, given, _, rendered⟩ :=
        (generate_in_order "pkg" _).2 failure outcome
      refine ⟨failure, functions, rfl, ?_, rendered⟩
      rw [split, ← given.length_eq, List.length_append, List.length_cons]
      omega

end Routes
end OpenApiClient
