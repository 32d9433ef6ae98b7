set_option autoImplicit false

namespace OpenApiClient.Text

def base64Value? (c : Char) : Option Nat :=
  if 'A' ≤ c ∧ c ≤ 'Z' then some (c.toNat - 'A'.toNat)
  else if 'a' ≤ c ∧ c ≤ 'z' then some (c.toNat - 'a'.toNat + 26)
  else if '0' ≤ c ∧ c ≤ '9' then some (c.toNat - '0'.toNat + 52)
  else if c = '+' then some 62
  else if c = '/' then some 63
  else none

def base64Bytes : List Nat → List UInt8
  | [a, b] => [UInt8.ofNat (a * 4 + b / 16)]
  | [a, b, c] => [UInt8.ofNat (a * 4 + b / 16), UInt8.ofNat (b % 16 * 16 + c / 4)]
  | a :: b :: c :: d :: rest =>
      UInt8.ofNat (a * 4 + b / 16) :: UInt8.ofNat (b % 16 * 16 + c / 4) ::
        UInt8.ofNat (c % 4 * 64 + d) :: base64Bytes rest
  | _ => []

/-- The values of the characters up to the sign that fills up the last group. Characters without a
value are passed over. `count` says how many had one, and `signs` how many signs stand behind the
last of them. -/
def base64Values? (count signs : Nat) : List Char → Option (List Nat)
  | [] => if count % 4 = 0 then some [] else none
  | c :: rest =>
      match base64Value? c with
      | some value => (base64Values? (count + 1) 0 rest).map (value :: ·)
      | none =>
          if c = '=' ∧ 2 ≤ count % 4 then
            if 4 ≤ count % 4 + (signs + 1) then some []
            else base64Values? count (signs + 1) rest
          else base64Values? count signs rest

end OpenApiClient.Text
