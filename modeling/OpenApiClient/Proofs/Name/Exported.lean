import OpenApiClient.Client.Servers
import OpenApiClient.Proofs.Name.Numbering

set_option autoImplicit false

namespace OpenApiClient

namespace Name

def functionWord (operationId : String) : String := openedWord "operation" operationId

def isTakenName (name : String) : Bool :=
  isKeyword name || routeModuleNames.contains name || packageExports.contains name

theorem isTakenName_eq_false_iff {name : String} :
    isTakenName name = false ↔
      isKeyword name = false ∧ name ∉ routeModuleNames ∧ name ∉ packageExports := by
  simp only [isTakenName, Bool.or_eq_false_iff, List.contains_eq_mem, decide_eq_false_iff_not,
    and_assoc]

theorem function_eq (operationId : String) :
    function operationId =
      if isTakenName (functionWord operationId) then functionWord operationId ++ "_"
      else functionWord operationId := rfl

theorem function_word (operationId : String) : IsFoldedWord (function operationId) := by
  have word : IsFoldedWord (functionWord operationId) :=
    isFoldedWord_openedWord (by decide) operationId
  rw [function_eq]
  split
  next => exact word.append_underscore
  next => exact word

theorem isTakenName_function (operationId : String) :
    isTakenName (function operationId) = false := by
  have closed : ∀ word ∈ keywords ++ routeModuleNames ++ packageExports, ¬ EndsOpen word := by
    decide +kernel
  rw [function_eq]
  split
  next =>
    have free : functionWord operationId ++ "_" ∉ keywords ++ routeModuleNames ++ packageExports :=
      fun member => closed _ member (endsOpen_append _)
    simpa [isTakenName, isKeyword, and_assoc] using free
  next free => simpa using free

theorem function_not_exported (operationId : String) : function operationId ∉ packageExports :=
  (isTakenName_eq_false_iff.mp (isTakenName_function operationId)).2.2

end Name

namespace Servers

open Name

theorem suggestedName_word (description : String) : IsFoldedWord (suggestedName description) := by
  have word := isFoldedWord_openedWord (by decide : IsFoldedWord "server")
    (String.ofList (Text.eraseFirst "servers".toList description.toList))
  exact word.append (List.all_eq_true.mp (by decide))

def endsAsClient (name : String) : Bool :=
  name.toList.getLast?.any fun last => last == 't' || Text.isAsciiDigit last

theorem endsAsClient_suggestedName (description : String) :
    endsAsClient (suggestedName description) = true := by
  rw [endsAsClient, suggestedName, String.toList_append, List.getLast?_append]
  rfl

theorem endsAsClient_numbered (base : String) (index : Nat) :
    endsAsClient (numbered base index) = true := by
  have filled : Nat.toDigits 10 index ≠ [] := Nat.toDigits_ne_nil
  have digit := isAsciiDigit_of_mem_toDigits (List.getLast_mem filled)
  rw [endsAsClient, toList_numbered, ← List.singleton_append, ← List.append_assoc,
    List.getLast?_append, List.getLast?_eq_some_getLast filled]
  simp [digit]

theorem not_exported {name : String} (word : IsFoldedWord name) (ends : endsAsClient name = true) :
    name ∉ packageExports := by
  have apart : ∀ fixed ∈ packageExports, ¬ (IsFoldedWord fixed ∧ endsAsClient fixed = true) := by
    decide +kernel
  exact fun member => apart name member ⟨word, ends⟩

end Servers
end OpenApiClient
