import OpenApiClient.Proofs.Name.Exported
import OpenApiClient.Proofs.Route.Listing

set_option autoImplicit false

namespace OpenApiClient.Servers

open Name

def IsClientName (server : Server) (name : String) : Prop :=
  ∃ description ∈ server.description,
    name = suggestedName description ∨ ∃ index, name = numbered (suggestedName description) index

theorem IsClientName.word {server : Server} {name : String} (named : IsClientName server name) :
    IsFoldedWord name := by
  obtain ⟨description, _, rfl | ⟨index, rfl⟩⟩ := named
  · exact suggestedName_word description
  · exact (suggestedName_word description).numbered index

theorem IsClientName.not_exported {server : Server} {name : String}
    (named : IsClientName server name) : name ∉ packageExports := by
  refine Servers.not_exported named.word ?_
  obtain ⟨description, _, rfl | ⟨index, rfl⟩⟩ := named
  · exact endsAsClient_suggestedName description
  · exact endsAsClient_numbered _ index

theorem distinctName_eq_ok {earlier routes : List String} {name chosen : String}
    (done : (distinctName earlier routes name).outcome = .ok chosen) :
    chosen ∉ earlier ∧ chosen ∉ routes ∧
      (chosen = name ∨ ∃ index, chosen = numbered name index) := by
  rw [distinctName] at done
  split at done
  next =>
    obtain ⟨_, _, same⟩ := Logged.outcome_bind_eq_ok.mp done
    obtain rfl := Except.ok.inj same
    obtain ⟨index, _, numbered, free⟩ :=
      firstFree_spec (earlier ++ routes) name (max earlier.length 1)
    rw [List.mem_append, not_or] at free
    exact ⟨free.1, free.2, .inr ⟨index, numbered⟩⟩
  next free =>
    obtain rfl := Except.ok.inj done
    rw [Bool.or_eq_true, not_or, List.contains_iff_mem, List.contains_iff_mem] at free
    exact ⟨free.1, free.2, .inl rfl⟩

structure Opens (earlier routes : List String) (server : Server) (client : ServerClient) :
    Prop where
  named : IsClientName server client.name
  notEarlier : client.name ∉ earlier
  noRoute : client.name ∉ routes
  url : client.url = server.url
  arguments : client.arguments = server.serverVariables.map argumentOf

theorem serverClient_eq_ok {earlier routes : List String} {server : Server}
    {client : ServerClient} (made : (serverClient earlier routes server).outcome = .ok client) :
    Opens earlier routes server client := by
  rw [serverClient] at made
  split at made
  next => cases made
  next => cases made
  next description _ given =>
    obtain ⟨name, chosen, same⟩ := Logged.outcome_bind_eq_ok.mp made
    obtain rfl := Except.ok.inj same
    obtain ⟨notEarlier, noRoute, numbered⟩ := distinctName_eq_ok chosen
    exact ⟨⟨description, given, numbered⟩, notEarlier, noRoute, rfl, rfl⟩

theorem clientsFrom_names {routes earlier : List String} (distinct : earlier.Nodup)
    (servers : List Server) :
    (earlier ++ (clientsFrom routes earlier servers).items.map ServerClient.name).Nodup := by
  induction servers generalizing earlier with
  | nil => simpa [clientsFrom, Collected.empty] using distinct
  | cons server rest ih =>
    simp only [clientsFrom]
    split
    next => simpa [Collected.stop] using distinct
    next client made =>
      -- A client is compared with all clients before it, which the induction carries in `earlier`.
      have opens := serverClient_eq_ok made
      have extended : (earlier ++ [client.name]).Nodup :=
        List.concat_eq_append ▸ distinct.concat opens.notEarlier
      simpa [Collected.cons] using ih extended

theorem clientsFrom_servers {routes earlier : List String} {servers : List Server}
    (done : (clientsFrom routes earlier servers).failure = none) :
    List.Forall₂ (fun server client => ∃ taken, Opens taken routes server client) servers
      (clientsFrom routes earlier servers).items := by
  induction servers generalizing earlier with
  | nil => exact .nil
  | cons server rest ih =>
    simp only [clientsFrom] at done ⊢
    split at done
    next => cases done
    next client made =>
      exact .cons ⟨earlier, serverClient_eq_ok made⟩ (ih done)

theorem clientsFrom_opens {routes earlier : List String} (servers : List Server) :
    ∀ client ∈ (clientsFrom routes earlier servers).items,
      ∃ taken server, Opens taken routes server client := by
  induction servers generalizing earlier with
  | nil => exact fun _ absent => nomatch absent
  | cons server rest ih =>
    simp only [clientsFrom]
    split
    next => exact fun _ absent => nomatch absent
    next client made =>
      exact List.forall_mem_cons.mpr ⟨⟨earlier, server, serverClient_eq_ok made⟩, ih⟩

theorem names_functionsFrom (order : Int) (clients : List ServerClient) :
    (functionsFrom order clients).map (·.name) = clients.map ServerClient.name :=
  Code.Function.map_numberedDown ServerClient.toFunction _ _ (fun _ _ => rfl) order clients

@[simp] theorem name_clientsFile (folder : String) (count : Nat) (clients : List ServerClient) :
    (clientsFile folder count clients).name = folder ++ "/clients.py" := by
  rw [clientsFile, Code.File.foldl_addFunction]
  rfl

theorem functions_clientsFile (folder : String) (count : Nat) {clients : List ServerClient}
    (distinct : (clients.map ServerClient.name).Nodup) :
    (clientsFile folder count clients).functions =
      (functionsFrom count clients).map fun function => (function.name, function) := by
  rw [clientsFile, Code.File.functions_foldl]
  · simp [Code.File.named, Code.File.addBlock]
  · simpa [Code.File.named, Code.File.addBlock, Entries.keys, names_functionsFrom] using distinct

end OpenApiClient.Servers
