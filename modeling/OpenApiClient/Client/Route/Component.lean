import OpenApiClient.Reference.Resolve

set_option autoImplicit false

namespace OpenApiClient.Route

def location (method path : String) : String := method ++ " " ++ path

def unresolved (place : String) (handle : Option (Handle Entity)) : Except Failure Unit :=
  -- The category is that of the handle itself, not of the pointers behind it.
  match handle.bind Handle.pointer? with
  | none => .ok ()
  | some pointer =>
      match Pointer.kind? pointer with
      | .error failure => .error failure
      | .ok none => .ok ()
      | .ok (some _) => .error (.unresolvedReference pointer place)

def component (components : Components) (expected : Kind) (place : String)
    (handle : Option (Handle Entity)) : Logged (Option Entity) := do
  match ← Handle.resolve components expected handle with
  | none =>
      Logged.ofExcept (unresolved place handle)
      pure none
  | some resolved =>
      if resolved.kind = expected then pure (some resolved.entity)
      else Logged.fail (.taxonomyMismatch expected.name resolved.kind.name (some place))

end OpenApiClient.Route
