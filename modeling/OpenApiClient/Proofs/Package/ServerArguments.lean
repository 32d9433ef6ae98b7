import OpenApiClient.Proofs.Package.ServerClients
import OpenApiClient.Proofs.Route.Placeholder

set_option autoImplicit false

namespace OpenApiClient

namespace Name

theorem getLast?_trimUnderscores (cs : List Char) : (trimUnderscores cs).getLast? ≠ some '_' := by
  rw [trimUnderscores_eq]
  intro last
  have filled : (cs.dropWhile (· == '_')).rdropWhile (· == '_') ≠ [] := by
    intro nothing
    rw [nothing] at last
    cases last
  have kept := List.rdropWhile_last_not _ _ filled
  rw [List.getLast?_eq_some_getLast filled] at last
  exact kept (by simpa using last)

theorem not_endsOpen_snake (name : String) : ¬ EndsOpen (snake name) := by
  rw [EndsOpen, snake, String.toList_ofList, snakeChars, List.getLast?_map]
  intro last
  obtain ⟨c, trimmed, lowered⟩ := Option.map_eq_some_iff.mp last
  refine lowerChar_ne_underscore (fun underscore => ?_) lowered
  exact getLast?_trimUnderscores _ (underscore ▸ trimmed)

theorem not_endsOpen_fieldWord (name : String) : ¬ EndsOpen (fieldWord name) := by
  have closed : ¬ EndsOpen (snakeOr "field" name) := by
    rw [snakeOr]
    split
    next => decide
    next => exact not_endsOpen_snake name
  rw [fieldWord, openedWord]
  split
  next digit =>
    -- The last character is that of the name, which begins with a digit and so is not empty.
    rw [EndsOpen, String.toList_append, List.getLast?_append]
    cases text : (snakeOr "field" name).toList with
    | nil => simp [beginsWithDigit, text, startsWithDigit] at digit
    | cons first rest =>
      rw [EndsOpen, text] at closed
      rw [List.getLast?_cons] at closed ⊢
      exact closed
  next => exact closed

theorem identifier_eq_iff {first second : String} {extra : List String} :
    identifier first extra = identifier second extra ↔ fieldWord first = fieldWord second := by
  constructor
  · intro same
    rw [identifier_eq, identifier_eq] at same
    -- An underscore is added to both words or to none, since no word ends with one.
    split at same <;> split at same
    next => exact String.append_left_inj "_" |>.mp same
    next => exact absurd (same ▸ endsOpen_append _) (not_endsOpen_fieldWord second)
    next => exact absurd (same ▸ endsOpen_append _) (not_endsOpen_fieldWord first)
    next => exact same
  · intro same
    rw [identifier_eq, identifier_eq, same]

end Name

namespace Servers

open Name

namespace Statement

/-- What a statement reads or assigns beside the arguments. -/
def fixedNames : Statement → List String
  | .standard _ _ => []
  | .url _ => ["url"]
  | .config => ["config", "default_config"]
  | .returnClient => ["ApiClient", "config", "url"]

end Statement

namespace ServerClient

def fixedNames (client : ServerClient) : List String :=
  client.statements.flatMap Statement.fixedNames

theorem fixedNames_eq (client : ServerClient) :
    client.fixedNames = ["url", "config", "default_config", "ApiClient", "config", "url"] := by
  rw [fixedNames, statements, List.flatMap_append, List.flatMap_map]
  simp [Statement.fixedNames]

/-- The function has an argument for the variable called like the placeholder, and the address reads
that argument. -/
def ReadsOwnArgument (client : ServerClient) (placeholder : String) : Prop :=
  ∃ argument ∈ client.arguments, argument.wireName = placeholder ∧
    argument.identifier ∈ client.signature.map (·.name) ∧
      argument.identifier = placeholderName client.arguments placeholder

end ServerClient

def variableName (name : String) : String := identifier name ["url", "config"]

theorem wireName_argumentOf (entry : String × ServerVariable) :
    (argumentOf entry).wireName = entry.1 := rfl

theorem identifier_argumentOf (entry : String × ServerVariable) :
    (argumentOf entry).identifier = variableName entry.1 := by
  simp only [argumentOf, variableName]

theorem variableName_fixed (name : String) :
    variableName name ∉ ["url", "config", "ApiClient"] := by
  intro member
  have free : isReserved (variableName name) ["url", "config"] = false :=
    isReserved_identifier (by decide) name
  have word := identifier_word name ["url", "config"]
  rw [← variableName] at word
  simp only [List.mem_cons, List.not_mem_nil, or_false] at member
  rcases member with same | same | same
  · rw [same] at free
    exact absurd free (by decide +kernel)
  · rw [same] at free
    exact absurd free (by decide +kernel)
  · rw [same] at word
    exact absurd word (by decide)

theorem variableName_eq_defaultConfig_iff {name : String} :
    variableName name = "default_config" ↔ snake name = "default_config" := by
  constructor
  · intro same
    rw [variableName, identifier_eq] at same
    split at same
    -- A word that is taken gets an underscore at its end, which this one has not.
    next => exact absurd (same ▸ endsOpen_append _) (by decide)
    next =>
      rw [fieldWord, openedWord] at same
      split at same
      next =>
        have heads := congrArg (fun text => text.toList.head?) same
        simp [String.toList_append] at heads
      next =>
        rw [snakeOr] at same
        split at same
        next => exact absurd same (by decide)
        next => exact same
  · intro same
    have word : fieldWord name = "default_config" := by
      rw [fieldWord, openedWord, snakeOr, same]
      decide
    rw [variableName, identifier_eq, word]
    decide +kernel

section Opens

variable {earlier routes : List String} {server : Server} {client : ServerClient}

theorem Opens.names_signature (opens : Opens earlier routes server client) :
    client.signature.map (·.name) =
      server.serverVariables.map fun entry => variableName entry.1 := by
  simp only [ServerClient.signature, opens.arguments, List.map_map, Function.comp_def,
    identifier_argumentOf]

theorem Opens.nodup_iff (opens : Opens earlier routes server client) :
    (client.signature.map (·.name)).Nodup ↔
      (server.serverVariables.map fun entry => fieldWord entry.1).Nodup := by
  simp only [opens.names_signature, List.Nodup, List.pairwise_map, variableName, Ne,
    identifier_eq_iff]

theorem Opens.free_iff (opens : Opens earlier routes server client) :
    (∀ name ∈ client.signature.map (·.name), name ∉ client.fixedNames) ↔
      ∀ entry ∈ server.serverVariables, snake entry.1 ≠ "default_config" := by
  rw [opens.names_signature, client.fixedNames_eq, List.forall_mem_map]
  refine forall₂_congr fun entry _ => ?_
  have fixed := variableName_fixed entry.1
  simp only [List.mem_cons, List.not_mem_nil, or_false, not_or] at fixed ⊢
  rw [Ne, ← variableName_eq_defaultConfig_iff]
  exact ⟨fun free => free.2.2.1,
    fun free => ⟨fixed.1, fixed.2.1, free, fixed.2.2, fixed.2.1, fixed.1⟩⟩

theorem Opens.placeholderName_eq (opens : Opens earlier routes server client)
    {placeholder : String} (declared : placeholder ∈ server.serverVariables.map Prod.fst) :
    placeholderName client.arguments placeholder = variableName placeholder := by
  obtain ⟨entry, member, rfl⟩ := List.mem_map.mp declared
  rw [placeholderName]
  split
  next argument found =>
    -- Whichever variable of this name is found, its argument has the same identifier.
    have called := List.find?_some found
    have inside := List.mem_of_find?_eq_some found
    rw [opens.arguments] at inside
    obtain ⟨other, -, rfl⟩ := List.mem_map.mp inside
    rw [wireName_argumentOf] at called
    rw [identifier_argumentOf, eq_of_beq called]
  next missing =>
    have absent := List.find?_eq_none.mp missing (argumentOf entry)
    rw [opens.arguments] at absent
    exact absurd (beq_self_eq_true entry.1) (absent (List.mem_map_of_mem member))

theorem Opens.readsOwnArgument_iff (opens : Opens earlier routes server client)
    (placeholder : String) :
    client.ReadsOwnArgument placeholder ↔ placeholder ∈ server.serverVariables.map Prod.fst := by
  constructor
  · rintro ⟨argument, member, rfl, -⟩
    rw [opens.arguments] at member
    obtain ⟨entry, inside, rfl⟩ := List.mem_map.mp member
    exact List.mem_map_of_mem inside
  · intro declared
    obtain ⟨entry, member, rfl⟩ := List.mem_map.mp declared
    refine ⟨argumentOf entry, ?_, rfl, ?_, ?_⟩
    · rw [opens.arguments]
      exact List.mem_map_of_mem member
    · rw [opens.names_signature, identifier_argumentOf]
      exact List.mem_map_of_mem member
    · rw [opens.placeholderName_eq declared, identifier_argumentOf]

theorem Opens.placeholderName_undeclared (opens : Opens earlier routes server client)
    {placeholder : String} (undeclared : placeholder ∉ server.serverVariables.map Prod.fst) :
    placeholderName client.arguments placeholder = identifier placeholder [] := by
  have missing :
      client.arguments.find? (fun argument => argument.wireName == placeholder) = none := by
    refine List.find?_eq_none.mpr fun argument member called => undeclared ?_
    rw [opens.arguments] at member
    obtain ⟨entry, inside, rfl⟩ := List.mem_map.mp member
    exact List.mem_map.mpr ⟨entry, inside, eq_of_beq called⟩
  rw [placeholderName, missing]

end Opens

/-- The names of the arguments are distinct exactly when the variables have distinct folded names,
and none is used for something else exactly when no variable is called `default_config` when it is
folded. The address reads the arguments of its own placeholders exactly when each of them is a
variable; for another one it reads the folded placeholder, whatever that stands for. -/
theorem client_arguments {earlier routes : List String} {server : Server} {client : ServerClient}
    (made : (serverClient earlier routes server).outcome = .ok client) :
    ((client.signature.map (·.name)).Nodup ↔
      (server.serverVariables.map fun entry => fieldWord entry.1).Nodup) ∧
    ((∀ name ∈ client.signature.map (·.name), name ∉ client.fixedNames) ↔
      ∀ entry ∈ server.serverVariables, snake entry.1 ≠ "default_config") ∧
    client.urlTemplate.names =
      (Text.placeholders server.url).map (placeholderName client.arguments) ∧
    ((∀ placeholder ∈ Text.placeholders server.url, client.ReadsOwnArgument placeholder) ↔
      ∀ placeholder ∈ Text.placeholders server.url,
        placeholder ∈ server.serverVariables.map Prod.fst) ∧
    ∀ placeholder, placeholder ∉ server.serverVariables.map Prod.fst →
      placeholderName client.arguments placeholder = identifier placeholder [] := by
  have opens := serverClient_eq_ok made
  refine ⟨opens.nodup_iff, opens.free_iff, ?_, ?_, ?_⟩
  · rw [ServerClient.urlTemplate, Text.Template.names_ofText, opens.url]
  · exact forall₂_congr fun placeholder _ => opens.readsOwnArgument_iff placeholder
  · exact fun placeholder undeclared => opens.placeholderName_undeclared undeclared

def serverWith (url : String) (names : List String) : Server :=
  ⟨url, some "Main", names.map fun name => (name, ⟨"", none, none⟩)⟩

theorem client_arguments_distinct :
    ∃ client, (serverClient [] [] (serverWith "/\x7bclass\x7d/\x7buserId\x7d"
        ["class", "userId"])).outcome = .ok client ∧
      (client.signature.map (·.name)).Nodup ∧
      (∀ name ∈ client.signature.map (·.name), name ∉ client.fixedNames) ∧
      ∀ placeholder ∈ Text.placeholders "/\x7bclass\x7d/\x7buserId\x7d",
        client.ReadsOwnArgument placeholder := by
  have computed : (serverClient [] [] (serverWith "/\x7bclass\x7d/\x7buserId\x7d"
      ["class", "userId"])).outcome.toOption.map ServerClient.name = some "main_client" := by
    decide +kernel
  obtain ⟨client, made, -⟩ := exists_of_toOption computed
  obtain ⟨distinct, free, -, own, -⟩ := client_arguments made
  exact ⟨client, made, distinct.mpr (by decide +kernel), free.mpr (by decide +kernel),
    own.mpr (by decide +kernel)⟩

/-- Two variables share an argument, and a third one hides the function for settings. -/
theorem client_arguments_shared :
    ∃ client, (serverClient [] [] (serverWith "/\x7buserId\x7d/\x7buser_id\x7d"
        ["userId", "user_id", "default_config"])).outcome = .ok client ∧
      ¬ (client.signature.map (·.name)).Nodup ∧
      "default_config" ∈ client.signature.map (·.name) ∧ "default_config" ∈ client.fixedNames := by
  have computed : (serverClient [] [] (serverWith "/\x7buserId\x7d/\x7buser_id\x7d"
      ["userId", "user_id", "default_config"])).outcome.toOption.map
        (fun client => client.signature.map (·.name)) =
          some ["user_id", "user_id", "default_config"] := by
    decide +kernel
  obtain ⟨client, made, names⟩ := exists_of_toOption computed
  refine ⟨client, made, ?_, ?_, ?_⟩
  · rw [names]
    decide
  · rw [names]
    decide
  · rw [client.fixedNames_eq]
    decide

end Servers
end OpenApiClient
