import OpenApiClient.Failure

set_option autoImplicit false

namespace OpenApiClient

inductive Level where
  | debug
  | info
  | warning
  deriving DecidableEq

def Level.name : Level → String
  | .debug => "DEBUG"
  | .info => "INFO"
  | .warning => "WARNING"

inductive Component where
  | document
  | resolver
  | models
  | routes
  | servers
  | package
  deriving DecidableEq

def Component.loggerName : Component → String
  | .document => "openapi_codegen.internal.parser.openapi"
  | .resolver => "openapi_codegen.internal.types.resolver"
  | .models => "openapi_codegen.internal.generator.model_generator"
  | .routes => "openapi_codegen.internal.generator.route_generator"
  | .servers => "openapi_codegen.internal.generator.scaffold_generator"
  | .package => "openapi_codegen.internal.generator.client_generator"

structure LogEntry where
  level : Level
  component : Component
  text : String
  deriving DecidableEq

structure Logged (α : Type) where
  outcome : Except Failure α
  log : List LogEntry

namespace Logged

variable {α β : Type}

def pure (a : α) : Logged α := ⟨.ok a, []⟩

def bind (x : Logged α) (f : α → Logged β) : Logged β :=
  match x.outcome with
  | .error failure => ⟨.error failure, x.log⟩
  | .ok a =>
      let y := f a
      ⟨y.outcome, x.log ++ y.log⟩

instance : Monad Logged where
  pure := pure
  bind := bind

def fail (failure : Failure) : Logged α := ⟨.error failure, []⟩

def ofExcept (outcome : Except Failure α) : Logged α := ⟨outcome, []⟩

def write (level : Level) (component : Component) (text : String) : Logged Unit :=
  ⟨.ok (), [⟨level, component, text⟩]⟩

def debug (component : Component) (text : String) : Logged Unit := write .debug component text
def warn (component : Component) (text : String) : Logged Unit := write .warning component text

@[simp] theorem pure_def (a : α) : (Pure.pure a : Logged α) = ⟨.ok a, []⟩ := rfl

@[simp] theorem bind_ok (a : α) (log : List LogEntry) (f : α → Logged β) :
    ((⟨.ok a, log⟩ : Logged α) >>= f) = ⟨(f a).outcome, log ++ (f a).log⟩ := rfl

@[simp] theorem bind_error (failure : Failure) (log : List LogEntry) (f : α → Logged β) :
    ((⟨.error failure, log⟩ : Logged α) >>= f) = ⟨.error failure, log⟩ := rfl

@[simp] theorem outcome_ofExcept (outcome : Except Failure α) :
    (ofExcept outcome).outcome = outcome := rfl

@[simp] theorem outcome_fail (failure : Failure) :
    (fail failure : Logged α).outcome = .error failure := rfl

@[simp] theorem outcome_write (level : Level) (component : Component) (text : String) :
    (write level component text).outcome = .ok () := rfl

theorem outcome_bind_eq_ok {x : Logged α} {f : α → Logged β} {b : β} :
    (x >>= f).outcome = .ok b ↔ ∃ a, x.outcome = .ok a ∧ (f a).outcome = .ok b := by
  obtain ⟨outcome, log⟩ := x
  cases outcome <;> simp

theorem outcome_bind_eq_error {x : Logged α} {f : α → Logged β} {failure : Failure} :
    (x >>= f).outcome = .error failure ↔
      x.outcome = .error failure ∨ ∃ a, x.outcome = .ok a ∧ (f a).outcome = .error failure := by
  obtain ⟨outcome, log⟩ := x
  cases outcome <;> simp

theorem outcome_map_eq_ok {x : Logged α} {f : α → β} {b : β} :
    (f <$> x).outcome = .ok b ↔ ∃ a, x.outcome = .ok a ∧ f a = b := by
  obtain ⟨outcome, log⟩ := x
  change (Logged.bind ⟨outcome, log⟩ (Logged.pure ∘ f)).outcome = .ok b ↔ _
  cases outcome <;> simp [Logged.bind, Logged.pure]

end Logged

theorem exists_of_toOption {ε α β : Type} {outcome : Except ε α} {view : α → β} {seen : β}
    (computed : outcome.toOption.map view = some seen) :
    ∃ value, outcome = .ok value ∧ view value = seen := by
  cases outcome with
  | error failure => cases computed
  | ok value => exact ⟨value, rfl, Option.some.inj computed⟩

end OpenApiClient
