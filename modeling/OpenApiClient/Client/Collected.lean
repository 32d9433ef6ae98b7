import OpenApiClient.Logged

set_option autoImplicit false

namespace OpenApiClient

structure Collected (α : Type) where
  items : List α
  failure : Option Failure
  log : List LogEntry

namespace Collected

variable {α : Type}

def empty : Collected α := ⟨[], none, []⟩

def stop (failure : Failure) (log : List LogEntry) : Collected α := ⟨[], some failure, log⟩

def cons (item : α) (log : List LogEntry) (rest : Collected α) : Collected α :=
  ⟨item :: rest.items, rest.failure, log ++ rest.log⟩

def outcome {β : Type} (collected : Collected α) (finish : List α → β) : Except Failure β :=
  match collected.failure with
  | some failure => .error failure
  | none => .ok (finish collected.items)

end Collected
end OpenApiClient
