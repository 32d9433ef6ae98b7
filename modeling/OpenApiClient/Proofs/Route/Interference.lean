import OpenApiClient.Proofs.Package.Contents
import OpenApiClient.Proofs.Route.FreeNames

set_option autoImplicit false

namespace OpenApiClient.Routes

open Route

theorem isTakenName_route {document : Document} (done : (routes document).failure = none)
    {route : Route} (member : route ∈ (routes document).items) :
    Name.isTakenName route.name = false := by
  obtain ⟨entry, -, named, -⟩ := exists_of_forall₂ (routes_operations done).flip member
  rw [named]
  exact Name.isTakenName_function _

/-- No function is called like an import of its module. It is called like something that a function
takes from outside when that is a built-in type, or a placeholder without an argument. -/
theorem generate_interference {folder : String} {document : Document} {names : List String}
    (made : (generate folder document).outcome = .ok names) :
    (generate folder document).file.functions.values.map (·.name) = names ∧
      ∀ function ∈ (generate folder document).file.functions.values,
        ∃ route ∈ (routes document).items, ∃ position, function = route.toFunction position ∧
          ∀ other ∈ (generate folder document).file.functions.values,
            other.name ∉ Name.routeModuleNames ∧
              (other.name ∈ function.globalNames ↔
                route.ReadsBuiltin other.name ∨ route.Unbound other.name) := by
  obtain ⟨done, rfl⟩ := generate_outcome_iff.mp made
  have functions : (generate folder document).file.functions.values =
      functionsFrom document.operations.length (routes document).items := values_file ..
  rw [functions]
  refine ⟨names_functionsFrom .., fun function member => ?_⟩
  obtain ⟨route, inside, position, -, rfl⟩ := Code.Function.exists_of_mem_numberedDown member
  obtain ⟨entry, -, -, parameters, parts⟩ :=
    exists_of_forall₂ (routes_operations done).flip inside
  refine ⟨route, inside, position, rfl, fun other otherMember => ?_⟩
  obtain ⟨_, otherInside, _, -, rfl⟩ := Code.Function.exists_of_mem_numberedDown otherMember
  have free := isTakenName_route done otherInside
  exact ⟨(Name.isTakenName_eq_false_iff.mp free).2.1, parts.mem_globalNames position free⟩

def pairDocument (operationId : String) : Document :=
  let integer : Schema :=
    ⟨none, some (.one .integer), none, none, none, [], none, none, none⟩
  { version := Document.standardVersion
    info := .standard
    servers := []
    paths :=
      [("/shops", { PathItem.empty with
        get := some ⟨some operationId, none, none, [], false, [], none, []⟩ }),
        ("/items", { PathItem.empty with
          get := some ⟨some "listItems", none, none, [], false,
            [.inline ⟨"limit", "query", true, none, false, some integer, none⟩], none, []⟩ })]
    components := .empty }

theorem generate_interference_shops :
    (generate "pkg" (pairDocument "listShops")).outcome = .ok ["list_shops", "list_items"] ∧
      ∀ function ∈ (generate "pkg" (pairDocument "listShops")).file.functions.values,
        ∀ other ∈ (generate "pkg" (pairDocument "listShops")).file.functions.values,
          other.name ∉ function.globalNames := by
  have computed : (generate "pkg" (pairDocument "listShops")).outcome.toOption.map id =
      some ["list_shops", "list_items"] := by
    decide +kernel
  obtain ⟨names, made, same⟩ := exists_of_toOption computed
  obtain rfl : names = _ := same
  have plain : ∀ name ∈ ["list_shops", "list_items"], name ∉ builtinNames := by decide
  have paths : ∀ route ∈ (routes (pairDocument "listShops")).items,
      route.pathTemplate.names = [] := by
    decide +kernel
  obtain ⟨named, apart⟩ := generate_interference made
  refine ⟨made, fun function member other otherMember => ?_⟩
  obtain ⟨route, inside, _, _, reads⟩ := apart function member
  rw [(reads other otherMember).2]
  rintro (builtin | unbound)
  · exact plain _ (named ▸ List.mem_map_of_mem otherMember) builtin.1
  · rw [Unbound, paths route inside] at unbound
    cases unbound.1

theorem generate_interference_str :
    (generate "pkg" (pairDocument "str")).outcome = .ok ["str", "list_items"] ∧
      ∃ function ∈ (generate "pkg" (pairDocument "str")).file.functions.values,
        function.name = "list_items" ∧ "str" ∈ function.globalNames := by
  have computed : (generate "pkg" (pairDocument "str")).outcome.toOption.map id =
      some ["str", "list_items"] := by
    decide +kernel
  obtain ⟨names, made, same⟩ := exists_of_toOption computed
  obtain rfl : names = _ := same
  have done := (generate_outcome_iff.mp made).1
  have numbers : ∃ route ∈ (routes (pairDocument "str")).items, route.name = "list_items" ∧
      ∃ argument ∈ route.sent, argument.type.kind = .integer := by
    decide +kernel
  obtain ⟨route, inside, named, argument, sent, integer⟩ := numbers
  obtain ⟨_, -, -, _, parts⟩ := exists_of_forall₂ (routes_operations done).flip inside
  obtain ⟨position, member⟩ := Code.Function.mem_numberedDown inside 2
  refine ⟨made, route.toFunction position, ?_, named, ?_⟩
  · exact values_file "pkg" 2 (pairDocument "str") ▸ member
  · exact (parts.mem_globalNames position (by decide)).mpr
      (.inl ⟨by decide, .inr ⟨rfl, argument, sent, .inl integer⟩⟩)

end OpenApiClient.Routes
