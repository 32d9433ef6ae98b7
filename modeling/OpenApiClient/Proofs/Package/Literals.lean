import OpenApiClient.Client.Models
import OpenApiClient.Proofs.Code.Literals
import OpenApiClient.Proofs.Name.Folding
import OpenApiClient.Proofs.Package.ServerClients
import OpenApiClient.Proofs.Route.Body
import OpenApiClient.Proofs.Route.Placeholder

set_option autoImplicit false

namespace OpenApiClient

namespace Code

theorem isPlain_of_isNameChar {c : Char} (named : Name.isNameChar c = true) : isPlain c = true := by
  have other (d : Char) (outside : Name.isNameChar d = false) : c ≠ d := by
    rintro rfl
    rw [named] at outside
    cases outside
  simp [isPlain, other '"' rfl, other '\'' rfl, other '#' rfl, other '\\' rfl]

theorem Reads.identifier {name : String} (identifier : Name.IsIdentifier name) : Reads name [] :=
  .plain fun c member => isPlain_of_isNameChar (identifier.chars c member)

theorem Reads.fixed {text : String} (plain : text.toList.all isPlain = true) : Reads text [] :=
  .plain (List.all_eq_true.mp plain)

theorem Reads.intercalate {lines : List String} {read : List (List (List Piece))}
    (each : List.Forall₂ Reads lines read) :
    Reads (String.intercalate "\n" lines) read.flatten := by
  induction each with
  | nil => exact .empty
  | @cons line literals rest others first behind ih =>
    cases behind with
    | nil => simpa using first
    | cons second more =>
      rw [String.intercalate_cons_cons, List.flatten_cons]
      have gap : Reads "\n" [] := .fixed (by decide)
      simpa using (first.append gap).append ih

theorem Reads.block {σ : Type} {statements : List σ} {render : σ → String}
    {texts : σ → List Text.Template}
    (each : ∀ statement ∈ statements, Reads (render statement)
      ((texts statement).map (Text.Template.pieces Text.units))) :
    Reads (String.intercalate "\n" (statements.map render))
      ((statements.flatMap texts).map (Text.Template.pieces Text.units)) := by
  have lines : List.Forall₂ Reads (statements.map render)
      (statements.map fun statement =>
        (texts statement).map (Text.Template.pieces Text.units)) := by
    rw [List.forall₂_map_left_iff, List.forall₂_map_right_iff, List.forall₂_same]
    exact each
  rw [List.map_flatMap, List.flatMap]
  exact .intercalate lines

end Code

namespace Text

theorem Template.filled_ofText {name : String → String}
    (identifiers : ∀ key, Name.IsIdentifier (name key)) (text : String) :
    ∀ segment ∈ (ofText name text).segments, segment.Filled := by
  intro segment member
  obtain ⟨source, _, rfl⟩ := List.mem_map.mp member
  cases source with
  | text cs => trivial
  | slot key =>
    have identifier := identifiers (String.ofList key)
    exact ⟨identifier.toList_ne_nil, identifier.chars⟩

end Text

open Code

theorem Models.default_reads (field : Models.Field) :
    Reads field.default [(Text.Template.ofPlain field.wireName).pieces Text.units] := by
  have closing : Reads ")" [] := .fixed (by decide)
  rw [Models.Field.default]
  split
  next => exact (Reads.literal (by decide +kernel) field.wireName).append closing
  next => exact (Reads.literal (by decide +kernel) field.wireName).append closing

namespace MappedType

theorem modelPath_reads (pointer : String) : Reads (Name.modelPath pointer) [] := by
  have opening : Reads "models." [] := .fixed (by decide)
  refine opening.append (.plain fun c member => ?_)
  rw [String.toList_ofList] at member
  exact isPlain_of_isNameChar (Name.isNameChar_of_mem_pascalChars member)

theorem Written.reads {mapped : MappedType} (written : mapped.Written) :
    Reads mapped.expression.render [] := by
  have closing : Reads "]" [] := .fixed (by decide)
  cases written with
  | @format format name kind known =>
    rw [Expression.render_ofText]
    refine Reads.fixed ?_
    refine (?_ : ∀ entry ∈ _, entry.2.1.toList.all isPlain = true) _ (Entries.mem_of_get? known)
    decide
  | single type owned =>
    change Reads (instanceType type).1.render []
    cases type <;> exact .fixed (by decide +kernel)
  | records pointer =>
    have opening : Reads "List[" [] := .fixed (by decide)
    rw [Expression.render_wrapText]
    exact (opening.append (modelPath_reads pointer)).append closing
  | record pointer =>
    rw [MappedType.record, Expression.render_ofText]
    exact modelPath_reads pointer

end MappedType

namespace Route

theorem bodyType_reads {schema : Schema} {usage : Usage} {field : String} {mapped : MappedType}
    (made : bodyType schema usage field = .ok mapped) : Reads mapped.expression.render [] := by
  rcases bodyType_written made with written | ⟨item, written, rfl⟩
  · exact written.reads
  · have opening : Reads "List[" [] := .fixed (by decide)
    have closing : Reads "]" [] := .fixed (by decide)
    rw [MappedType.listOf, Expression.render_wrap]
    exact (opening.append written.reads).append closing

theorem converted_reads {identifier : String} (legal : Name.IsIdentifier identifier)
    (kind : TypeKind) : Reads (converted kind identifier) [] := by
  obtain ⟨around, member, same⟩ := converted_eq kind identifier
  have fixed : ∀ around ∈ converters,
      around.1.toList.all isPlain = true ∧ around.2.toList.all isPlain = true := by decide +kernel
  obtain ⟨before, behind⟩ := fixed around member
  rw [same]
  exact ((Reads.fixed before).append (.identifier legal)).append (.fixed behind)

theorem queryText_reads {identifier : String} (legal : Name.IsIdentifier identifier)
    (wireName : String) (kind : TypeKind) :
    Reads (queryText wireName identifier kind)
      [(Text.Template.ofPlain wireName).pieces Text.units] := by
  have literal : Reads ("builder.query(" ++ Json.literal wireName) _ :=
    .literal (by decide +kernel) wireName
  have comma : Reads ", " [] := .fixed (by decide)
  have closing : Reads ")" [] := .fixed (by decide)
  exact ((literal.append comma).append (converted_reads legal kind)).append closing

namespace Statement

def texts : Statement → List Text.Template
  | .request method path => [.ofPlain method, path]
  | .query wireName _ _ _ => [.ofPlain wireName]
  | .attach _ | .send | .returnDecoded _ | .returnText | .returnOctets => []

def Pasted (typed : String → Prop) : Statement → Prop
  | .request _ path => ∀ segment ∈ path.segments, segment.Filled
  | .query _ identifier _ _ => Name.IsIdentifier identifier
  | .returnDecoded type => typed type.render
  | .attach _ | .send | .returnText | .returnOctets => True

def Clean (statement : Statement) : Prop := statement.Pasted fun type => Reads type []

theorem reads {statement : Statement} (clean : statement.Clean) :
    Reads statement.render (statement.texts.map (Text.Template.pieces Text.units)) := by
  have closing : Reads ")" [] := .fixed (by decide)
  cases statement with
  | request method path =>
    have method' : Reads ("builder = client.request(" ++ Json.literal method) _ :=
      .literal (by decide +kernel) method
    have path' : Reads (", " ++ path.literal) _ := .template (by decide +kernel) clean
    change Reads ("builder = client.request(" ++ Json.literal method ++ ", " ++ path.literal ++
      ")") _
    rw [@String.append_assoc _ ", "]
    exact (method'.append path').append closing
  | query wireName identifier kind required =>
    have legal : Name.IsIdentifier identifier := clean
    have query := queryText_reads legal wireName kind
    cases required with
    | true => exact query
    | false =>
      have asks : Reads "if " [] := .fixed (by decide)
      have given : Reads " is not None:\n\t" [] := .fixed (by decide +kernel)
      exact ((asks.append (.identifier legal)).append given).append query
  | attach format => cases format <;> exact .fixed (by decide +kernel)
  | send => exact .fixed (by decide +kernel)
  | returnDecoded type =>
    have opening : Reads "return TypeAdapter(" [] := .fixed (by decide +kernel)
    exact (opening.append clean).append (.fixed (by decide +kernel))
  | returnText => exact .fixed (by decide +kernel)
  | returnOctets => exact .fixed (by decide +kernel)

end Statement

section Parts

variable {components : Components} {path method : String} {item : PathItem}
  {operation : Operation} {parameters : List Parameter} {route : Route}

theorem Parts.pasted (parts : Parts components path item method operation parameters route)
    {typed : String → Prop}
    (decoded : ∀ {schema usage field mapped}, bodyType schema usage field = .ok mapped →
      typed mapped.expression.render) :
    ∀ statement ∈ route.statements, statement.Pasted typed := by
  apply parts.forall_statements (Statement.Pasted typed)
  case request =>
    exact Text.Template.filled_ofText
      (fun placeholder => (parts.isArgumentName_placeholderName placeholder).identifier) route.path
  case query =>
    exact fun argument inside => (parts.isArgumentName (List.mem_filter.mp inside).1).identifier
  case decoded => exact fun _ _ _ _ made => decoded made
  case attach => exact fun _ _ => trivial
  all_goals trivial

theorem Parts.clean (parts : Parts components path item method operation parameters route) :
    ∀ statement ∈ route.statements, statement.Clean := parts.pasted bodyType_reads

end Parts

theorem texts_statements (route : Route) :
    route.statements.flatMap Statement.texts =
      [.ofPlain route.method, route.pathTemplate] ++
        route.sent.map fun argument => .ofPlain argument.parameter.name := by
  have answer : route.answer.statements.flatMap Statement.texts = [] := by
    cases route.answer <;> rfl
  have queries : (queryStatements route.arguments).flatMap Statement.texts =
      route.sent.map fun argument => .ofPlain argument.parameter.name := by
    rw [queryStatements_eq, List.flatMap_map, List.map_eq_flatMap]
    rfl
  simp only [statements, List.flatMap_append, answer, queries, List.append_nil]
  cases route.payload <;> simp [Statement.texts]

end Route

namespace Servers

namespace Statement

def texts : Statement → List Text.Template
  | .standard _ value => [.ofPlain value]
  | .url template => [template]
  | .config | .returnClient => []

def Clean : Statement → Prop
  | .standard identifier _ => Name.IsIdentifier identifier
  | .url template => ∀ segment ∈ template.segments, segment.Filled
  | .config | .returnClient => True

theorem reads {statement : Statement} (clean : statement.Clean) :
    Reads statement.render (statement.texts.map (Text.Template.pieces Text.units)) := by
  cases statement with
  | standard identifier value =>
    have legal : Name.IsIdentifier identifier := clean
    have asks : Reads "if " [] := .fixed (by decide)
    have missing : Reads " is None:\n\t" [] := .fixed (by decide +kernel)
    have literal : Reads (" = " ++ Json.literal value) _ := .literal (by decide +kernel) value
    change Reads ("if " ++ identifier ++ " is None:\n\t" ++ identifier ++ " = " ++
      Json.literal value) _
    rw [@String.append_assoc _ " = "]
    exact (((asks.append (.identifier legal)).append missing).append (.identifier legal)).append
      literal
  | url template => exact .template (by decide +kernel) clean
  | config => exact .fixed (by decide +kernel)
  | returnClient => exact .fixed (by decide +kernel)

end Statement

theorem placeholderName_identifier {arguments : List Argument}
    (identifiers : ∀ argument ∈ arguments, Name.IsIdentifier argument.identifier)
    (placeholder : String) : Name.IsIdentifier (placeholderName arguments placeholder) := by
  rw [placeholderName]
  split
  next argument found => exact identifiers argument (List.mem_of_find?_eq_some found)
  next => exact (Name.identifier_word placeholder []).isIdentifier

theorem Opens.identifiers {earlier routes : List String} {server : Server}
    {client : ServerClient} (opens : Opens earlier routes server client) :
    ∀ argument ∈ client.arguments, Name.IsIdentifier argument.identifier := by
  intro argument member
  rw [opens.arguments] at member
  obtain ⟨entry, _, same⟩ := List.mem_map.mp member
  have word := Name.identifier_word entry.1 ["url", "config"]
  generalize named : Name.identifier entry.1 ["url", "config"] = name at word
  have identifier : argument.identifier = name := by rw [← same, argumentOf, named]
  exact identifier ▸ word.isIdentifier

theorem Opens.clean {earlier routes : List String} {server : Server} {client : ServerClient}
    (opens : Opens earlier routes server client) :
    ∀ statement ∈ client.statements, statement.Clean := by
  intro statement member
  rcases List.mem_append.mp member with standard | fixed
  · obtain ⟨argument, inside, rfl⟩ := List.mem_map.mp standard
    exact opens.identifiers argument inside
  · simp only [List.mem_cons, List.not_mem_nil, or_false] at fixed
    rcases fixed with rfl | rfl | rfl
    · exact Text.Template.filled_ofText (placeholderName_identifier opens.identifiers) client.url
    · trivial
    · trivial

theorem texts_statements (client : ServerClient) :
    client.statements.flatMap Statement.texts =
      (client.arguments.map fun argument => .ofPlain argument.choice.default) ++
        [client.urlTemplate] := by
  rw [ServerClient.statements, List.flatMap_append, List.flatMap_map, List.map_eq_flatMap]
  rfl

end Servers

namespace Package

/-- Code of a package, with the texts of the document that are pasted into it. -/
inductive Pastes : String → List Text.Template → Prop where
  | field (field : Models.Field) : Pastes field.default [.ofPlain field.wireName]
  | route {components : Components} {registered : Route.Registered} {path method : String}
      {item : PathItem} {operation : Operation} {route : Route} (order : Int)
      (made : (Route.generate components registered path item method operation).2.outcome =
        .ok route) :
      Pastes (route.toFunction order).code.code
        ([.ofPlain method, .ofText (Route.placeholderName route.named) path] ++
          route.sent.map fun argument => .ofPlain argument.parameter.name)
  | client {earlier routes : List String} {server : Server} {client : Servers.ServerClient}
      (order : Int)
      (made : (Servers.serverClient earlier routes server).outcome = .ok client) :
      Pastes (client.toFunction order).code.code
        ((server.serverVariables.map fun entry => .ofPlain entry.2.default) ++
          [.ofText (Servers.placeholderName client.arguments) server.url])

theorem Pastes.reads {code : String} {texts : List Text.Template} (pastes : Pastes code texts) :
    Reads code (texts.map (Text.Template.pieces Text.units)) := by
  cases pastes with
  | field field => exact Models.default_reads field
  | @route components registered path method item operation route order made =>
    obtain ⟨_, _, _, parts⟩ := Route.generate_eq_ok_iff.mp made
    -- The body is a block of statements; each reads as its texts, in the order they are written.
    rw [← parts.method_eq, ← parts.path_eq]
    exact Route.texts_statements route ▸ Reads.block fun statement member =>
      Route.Statement.reads (parts.clean statement member)
  | @client earlier routes server client order made =>
    have opens := Servers.serverClient_eq_ok made
    have arguments : (server.serverVariables.map fun entry =>
        Text.Template.ofPlain entry.2.default) =
          client.arguments.map fun argument => .ofPlain argument.choice.default := by
      rw [opens.arguments, List.map_map]
      rfl
    rw [arguments, ← opens.url]
    exact Servers.texts_statements client ▸ Reads.block fun statement member =>
      Servers.Statement.reads (opens.clean statement member)

/-- The literals in the code are the pasted texts as sixteen bit units. They are the texts
themselves exactly when no character of them lies beyond the first plane. -/
theorem literals_pastes {code : String} {texts : List Text.Template} (pastes : Pastes code texts) :
    literals code = some (texts.map (Text.Template.pieces Text.units)) ∧
      (literals code = some (texts.map (Text.Template.pieces Text.points)) ↔
        ∀ template ∈ texts, ∀ c ∈ template.textChars, c.toNat < 0x10000) := by
  have read := pastes.reads.literals_eq
  refine ⟨read, ?_⟩
  rw [read, Option.some.injEq, List.map_inj_left]
  simp only [Text.Template.pieces_units_iff]

def textField (wireName : String) : Models.Field :=
  ⟨"note", wireName, ⟨.ofText "str", .string, true, false⟩, true⟩

theorem literals_pastes_quoted :
    Pastes (textField "né\"x\n").default [.ofPlain "né\"x\n"] ∧
      literals (textField "né\"x\n").default =
        some [[.point 110, .point 233, .point 34, .point 120, .point 10]] := by
  have pastes := Pastes.field (textField "né\"x\n")
  have single : "né\"x\n".toList.all (fun c => decide (c.toNat < 0x10000)) = true := by decide
  refine ⟨pastes, (literals_pastes pastes).2.mpr fun template member => ?_⟩
  rw [List.mem_singleton.mp member, textField, Text.Template.textChars_ofPlain]
  exact fun c here => of_decide_eq_true (List.all_eq_true.mp single c here)

/-- The two halves of a character beyond the first plane are not joined again. -/
theorem literals_of_halves :
    Pastes (textField "😀").default [.ofPlain "😀"] ∧
      literals (textField "😀").default = some [[.point 0xd83d, .point 0xde00]] ∧
      literals (textField "😀").default ≠ some [[.point 0x1f600]] := by
  have pastes := Pastes.field (textField "😀")
  have read : literals (textField "😀").default = some [[.point 0xd83d, .point 0xde00]] :=
    pastes.reads.literals_eq
  exact ⟨pastes, read, by rw [read]; decide⟩

end Package
end OpenApiClient
