import OpenApiClient.Web.Grid.Basic

set_option autoImplicit false

namespace OpenApiClient.Web

inductive Lead where
  | read (chars : List Char) (more : Nat)
  | unknown
  | cut

namespace Lead

def decode (lead : Nat → List Nat → Lead) : List Nat → List Char
  | [] => []
  | byte :: rest =>
      match lead byte rest with
      | .read chars more => chars ++ decode lead (rest.drop more)
      | .unknown => Text.replacement :: decode lead rest
      | .cut => [Text.replacement]
termination_by bytes => bytes.length
decreasing_by
  all_goals
    simp only [List.length_cons, List.length_drop]
    omega

def ofPair (find? : Nat → Nat → Option (List Char)) (byte : Nat) : List Nat → Lead
  | [] => .cut
  | next :: _ =>
      match find? byte next with
      | some chars => .read chars 1
      | none => .unknown

def ascii (lead : Nat → List Nat → Lead) (byte : Nat) (rest : List Nat) : Lead :=
  if byte < 0x80 then .read [Char.ofNat byte] 0 else lead byte rest

def upperPair (grids : List Grid) : Nat → List Nat → Lead :=
  ofPair fun byte next => Grid.textIn? grids [] (byte - 0x80) (next - 0x80)

end Lead
end OpenApiClient.Web
