import OpenApiClient.Proofs.Code.Indentation
import OpenApiClient.Proofs.Package.Literals
import OpenApiClient.Proofs.Package.TypeLanguage

set_option autoImplicit false

namespace OpenApiClient

open Code Text

namespace Text

theorem printable_identifier {name : String} (identifier : Name.IsIdentifier name) :
    Printable name.toList :=
  fun c member => isPrintable_of_isNameChar (identifier.chars c member)

theorem Template.printable_literal (template : Template) : Printable template.literal.toList := by
  have mark : Printable "f".toList := by decide
  rw [literal]
  split
  next =>
    rw [String.toList_append]
    exact printable_append.mpr ⟨mark, Text.printable_literal _⟩
  next => exact Text.printable_literal _

end Text

namespace MappedType

theorem IsBaseType.printable {text : String} (base : IsBaseType text) : Printable text.toList := by
  have word {name : String} (capitalised : Name.IsCapitalised name) : Printable name.toList := by
    intro c member
    refine isPrintable_of_isNameChar ?_
    have letter := capitalised.chars c member
    simp only [Name.isLetterOrDigit, Name.isNameChar, Bool.or_eq_true] at letter ⊢
    tauto
  have around : Printable "models.".toList ∧ Printable "List[models.".toList ∧
      Printable "]".toList := by decide
  cases base with
  | fixed listed =>
    refine (?_ : ∀ text ∈ fixedTypes, Printable text.toList) _ listed
    decide +kernel
  | record capitalised =>
    rw [String.toList_append]
    exact printable_append.mpr ⟨around.1, word capitalised⟩
  | records capitalised =>
    rw [String.toList_append, String.toList_append]
    exact printable_append.mpr ⟨printable_append.mpr ⟨around.2.1, word capitalised⟩, around.2.2⟩

end MappedType

namespace Route

theorem bodyType_printable {schema : Schema} {usage : Usage} {field : String} {mapped : MappedType}
    (made : bodyType schema usage field = .ok mapped) :
    Printable mapped.expression.render.toList := by
  have around : Printable "List".toList ∧ Printable "[".toList ∧ Printable "]".toList := by decide
  rcases bodyType_written made with written | ⟨item, written, rfl⟩
  · exact written.isBaseType.printable
  · have inner := written.isBaseType.printable
    rw [MappedType.listOf, Expression.render_wrap]
    simp only [String.toList_append, printable_append]
    exact ⟨⟨⟨around.1, around.2.1⟩, inner⟩, around.2.2⟩

namespace Statement

/-- A statement is one line. What is only sent when it is given stands below a question for it. -/
def lines : Statement → List SourceLine
  | .query wireName identifier kind false =>
      [⟨0, "if " ++ identifier ++ " is not None:"⟩, ⟨1, queryText wireName identifier kind⟩]
  | statement => [⟨0, statement.render⟩]

theorem lines_ne_nil (statement : Statement) : statement.lines ≠ [] := by
  rw [lines.eq_def]
  split <;> exact List.cons_ne_nil _ _

theorem render_lines (statement : Statement) :
    statement.render = String.intercalate "\n" (statement.lines.map SourceLine.tabbed) := by
  rw [lines.eq_def]
  split
  next wireName identifier kind =>
    have question : " is not None:\n\t" = " is not None:" ++ "\n\t" := rfl
    have guarded : (query wireName identifier kind false).render =
        "if " ++ identifier ++ " is not None:\n\t" ++ queryText wireName identifier kind := rfl
    rw [guarded, question, ← String.append_assoc]
    exact (SourceLine.intercalate_guarded ..).symm
  next => rw [List.map_singleton, SourceLine.tabbed_zero, String.intercalate_singleton]

theorem isLine_queryText {identifier : String} (legal : Name.IsIdentifier identifier)
    (wireName : String) (kind : TypeKind) :
    IsLine (queryText wireName identifier kind).toList := by
  obtain ⟨around, member, same⟩ := queryText_eq wireName identifier kind
  have fixed : ∀ around ∈ converters, Printable around.1.toList ∧ Printable around.2.toList := by
    decide +kernel
  obtain ⟨before, behind⟩ := fixed around member
  have opens : IsLine "builder.query(".toList := by decide +kernel
  have comma : Printable ", ".toList ∧ Printable ")".toList := by decide
  have value : Printable (around.1 ++ identifier ++ around.2).toList := by
    simp only [String.toList_append, printable_append]
    exact ⟨⟨before, printable_identifier legal⟩, behind⟩
  rw [same]
  exact (((opens.followed (printable_literal wireName)).followed comma.1).followed value).followed
    comma.2

end Statement

section Parts

variable {components : Components} {path method : String} {item : PathItem}
  {operation : Operation} {parameters : List Parameter} {route : Route}

theorem Parts.areLines (parts : Parts components path item method operation parameters route) :
    ∀ statement ∈ route.statements, ∀ line ∈ statement.lines, IsLine line.text.toList := by
  have closing : Printable ")".toList := by decide
  apply parts.forall_statements fun statement => ∀ line ∈ statement.lines, IsLine line.text.toList
  case request =>
    have opens : IsLine "builder = client.request(".toList := by decide +kernel
    have comma : Printable ", ".toList := by decide
    refine List.forall_mem_singleton.mpr ?_
    exact (((opens.followed (printable_literal route.method)).followed comma).followed
      route.pathTemplate.printable_literal).followed closing
  case query =>
    intro argument inside line member
    -- The name of the parameter is in a literal; only its identifier stands in the code itself.
    have legal := (parts.isArgumentName (List.mem_filter.mp inside).1).identifier
    have asks : IsLine "if ".toList := by decide
    have given : Printable " is not None:".toList := by decide +kernel
    rw [sendStatement] at member
    cases required : argument.parameter.required <;> rw [required] at member
    case true => exact List.mem_singleton.mp member ▸ Statement.isLine_queryText legal _ _
    case false =>
      rcases List.mem_pair.mp member with rfl | rfl
      · exact (asks.followed (printable_identifier legal)).followed given
      · exact Statement.isLine_queryText legal _ _
  case attach =>
    intro payload _
    refine List.forall_mem_singleton.mpr ?_
    cases payload.format <;> decide +kernel
  case send => exact List.forall_mem_singleton.mpr (by decide +kernel)
  case decoded =>
    intro schema field type _ typed
    have opens : IsLine "return TypeAdapter(".toList := by decide +kernel
    have ends : Printable ").validate_json(response.content)".toList := by decide +kernel
    exact List.forall_mem_singleton.mpr ((opens.followed (bodyType_printable typed)).followed ends)
  case text => exact List.forall_mem_singleton.mpr (by decide +kernel)
  case octets => exact List.forall_mem_singleton.mpr (by decide +kernel)

end Parts

/-- The lines of the statements of a request function. -/
def lines (route : Route) : List SourceLine := route.statements.flatMap Statement.lines

theorem lines_ne_nil (route : Route) : route.lines ≠ [] := by
  rw [lines, statements]
  simp [Statement.lines_ne_nil]

theorem code_lines (route : Route) (order : Int) :
    (route.toFunction order).code.code =
      String.intercalate "\n" (route.lines.map SourceLine.tabbed) :=
  SourceLine.intercalate_statements Statement.lines_ne_nil Statement.render_lines
    route.statements

end Route

namespace Servers

namespace Statement

/-- A statement is one line. A standard value stands below the question whether one is missing. -/
def lines : Statement → List SourceLine
  | .standard identifier value =>
      [⟨0, "if " ++ identifier ++ " is None:"⟩, ⟨1, identifier ++ " = " ++ Json.literal value⟩]
  | statement => [⟨0, statement.render⟩]

theorem lines_ne_nil (statement : Statement) : statement.lines ≠ [] := by
  cases statement <;> exact List.cons_ne_nil _ _

theorem render_lines (statement : Statement) :
    statement.render = String.intercalate "\n" (statement.lines.map SourceLine.tabbed) := by
  rw [lines.eq_def]
  split
  next identifier value =>
    have question : " is None:\n\t" = " is None:" ++ "\n\t" := rfl
    have guarded : (standard identifier value).render =
        "if " ++ identifier ++ " is None:\n\t" ++ identifier ++ " = " ++ Json.literal value := rfl
    rw [guarded, question, ← String.append_assoc, String.append_assoc, String.append_assoc,
      ← @String.append_assoc identifier]
    exact (SourceLine.intercalate_guarded ..).symm
  next => rw [List.map_singleton, SourceLine.tabbed_zero, String.intercalate_singleton]

end Statement

section Opens

variable {earlier routes : List String} {server : Server} {client : ServerClient}

theorem Opens.areLines (opens : Opens earlier routes server client) :
    ∀ statement ∈ client.statements, ∀ line ∈ statement.lines, IsLine line.text.toList := by
  intro statement member line inside
  -- The standard values come first, and the three statements behind them are always the same.
  rcases List.mem_append.mp member with standard | fixed
  · obtain ⟨argument, listed, rfl⟩ := List.mem_map.mp standard
    have legal := printable_identifier (opens.identifiers argument listed)
    have asks : IsLine "if ".toList := by decide
    have missing : Printable " is None:".toList := by decide +kernel
    have equals : IsLine " = ".toList := by decide
    rcases List.mem_pair.mp inside with rfl | rfl
    · exact (asks.followed legal).followed missing
    · have value := equals.followed (printable_literal argument.choice.default)
      rw [String.append_assoc, String.toList_append]
      exact value.append legal
  · simp only [List.mem_cons, List.not_mem_nil, or_false] at fixed
    rcases fixed with rfl | rfl | rfl <;> obtain rfl := List.mem_singleton.mp inside
    · have address : IsLine "url = ".toList := by decide
      exact address.followed client.urlTemplate.printable_literal
    · decide +kernel
    · decide +kernel

end Opens

/-- The lines of the statements of a function for a server. -/
def ServerClient.lines (client : ServerClient) : List SourceLine :=
  client.statements.flatMap Statement.lines

theorem lines_ne_nil (client : ServerClient) : client.lines ≠ [] := by
  rw [ServerClient.lines, ServerClient.statements]
  simp [Statement.lines_ne_nil]

theorem code_lines (client : ServerClient) (order : Int) :
    (client.toFunction order).code.code =
      String.intercalate "\n" (client.lines.map SourceLine.tabbed) :=
  SourceLine.intercalate_statements Statement.lines_ne_nil Statement.render_lines
    client.statements

end Servers

namespace Package

/-- A function that is made for an operation or for a server, with the lines of its statements. -/
inductive Writes : Function → List SourceLine → Prop where
  | route {components : Components} {registered : Route.Registered} {path method : String}
      {item : PathItem} {operation : Operation} {route : Route} (order : Int)
      (made : (Route.generate components registered path item method operation).2.outcome =
        .ok route) :
      Writes (route.toFunction order) route.lines
  | client {earlier routes : List String} {server : Server} {client : Servers.ServerClient}
      (order : Int)
      (made : (Servers.serverClient earlier routes server).outcome = .ok client) :
      Writes (client.toFunction order) client.lines

section Writes

variable {function : Function} {lines : List SourceLine}

theorem Writes.code (writes : Writes function lines) :
    lines ≠ [] ∧ function.code.code = String.intercalate "\n" (lines.map SourceLine.tabbed) := by
  cases writes with
  | @route _ _ _ _ _ _ route order made => exact ⟨route.lines_ne_nil, route.code_lines order⟩
  | @client _ _ _ client order made =>
    exact ⟨Servers.lines_ne_nil client, Servers.code_lines client order⟩

theorem Writes.areLines (writes : Writes function lines) :
    ∀ line ∈ lines, IsLine line.text.toList := by
  cases writes with
  | route order made =>
    obtain ⟨_, _, _, parts⟩ := Route.generate_eq_ok_iff.mp made
    exact List.forall_mem_flatMap.mpr parts.areLines
  | client order made =>
    exact List.forall_mem_flatMap.mpr (Servers.serverClient_eq_ok made).areLines

/-- The statements of a function are the lines below its documentation, each one level deeper than
it was written, and every file that has the function has all of it as it is. -/
theorem render_writes (writes : Writes function lines) :
    function.code.code = String.intercalate "\n" (lines.map SourceLine.tabbed) ∧
      (∃ front, function.preamble = front ++ "\n") ∧
      function.render =
        function.preamble ++ String.intercalate "\n" (lines.map SourceLine.indented) ∧
      separated '\n' (String.intercalate "\n" (lines.map SourceLine.indented)).toList =
        lines.map (fun line => line.indented.toList) ∧
      ∀ file : File, function ∈ file.functions.values → StandsIn function.render file.render := by
  obtain ⟨filled, code⟩ := writes.code
  have areLines := writes.areLines
  refine ⟨code, function.preamble_ends, Function.render_of_lines filled areLines code,
    SourceLine.separated_indented filled areLines, fun file member => ?_⟩
  exact File.stands_render member (Function.settled_of_lines filled areLines code)

def brokenServer : Server :=
  ⟨"https://\x7btenant\x7d.test/\n\u2028\t", some "Main", [("tenant", ⟨"a\tb\u0085c", none, none⟩)]⟩

def brokenLines : List String :=
  ["    if tenant is None:",
    "        tenant = \"a\\tb\\u0085c\"",
    "    url = f\"https://\x7btenant\x7d.test/\\n\\u2028\\t\"",
    "    config = default_config(30.0, None, None)",
    "    return ApiClient(config, url)"]

theorem render_writes_broken :
    ∃ client, (Servers.serverClient [] [] brokenServer).outcome = .ok client ∧
      (client.toFunction 1).render =
        (client.toFunction 1).preamble ++ String.intercalate "\n" brokenLines ∧
      StandsIn (client.toFunction 1).render (Servers.clientsFile "pkg" 1 [client]).render := by
  have computed : (Servers.serverClient [] [] brokenServer).outcome.toOption.map
      (fun client => client.lines.map SourceLine.indented) = some brokenLines := by
    decide +kernel
  obtain ⟨client, made, lines⟩ := exists_of_toOption computed
  obtain ⟨-, -, render, -, stands⟩ := render_writes (Writes.client 1 made)
  exact ⟨client, made, lines ▸ render, stands _ (List.mem_singleton.mpr rfl)⟩

end Writes

end Package
end OpenApiClient
