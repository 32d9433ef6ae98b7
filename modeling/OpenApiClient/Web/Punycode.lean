import OpenApiClient.Text.Blank
import OpenApiClient.Text.Units

set_option autoImplicit false

namespace OpenApiClient.Web.Punycode

def digitValue? (byte : Nat) : Option Nat :=
  if 0x41 ≤ byte && byte ≤ 0x5a then some (byte - 0x41)
  else if 0x61 ≤ byte && byte ≤ 0x7a then some (byte - 0x61)
  else if 0x30 ≤ byte && byte ≤ 0x39 then some (byte - 0x30 + 26)
  else none

def threshold (index bias : Nat) : Nat := min 26 (max 1 (36 * (index + 1) - bias))

def takeNumber? (bias index weight value : Nat) : List Nat → Option (Nat × List Nat)
  | [] => none
  | byte :: rest =>
      match digitValue? byte with
      | some digit =>
          let value := value + digit * weight
          let threshold := threshold index bias
          if digit < threshold then some (value, rest)
          else takeNumber? bias (index + 1) (weight * (36 - threshold)) value rest
      | none => none

def divisions (count n : Nat) : Nat × Nat :=
  if 455 < n then divisions (count + 1) (n / 35) else (count, n)
termination_by n
decreasing_by omega

def nextBias (isFirst : Bool) (delta size : Nat) : Nat :=
  let delta := if isFirst then delta / 700 else delta / 2
  let (count, left) := divisions 0 (delta + delta / size)
  36 * count + 36 * left / (left + 38)

theorem length_takeNumber?_lt {bias index weight value n : Nat} {bytes rest : List Nat}
    (h : takeNumber? bias index weight value bytes = some (n, rest)) :
    rest.length < bytes.length := by
  induction bytes generalizing index weight value with
  | nil => simp [takeNumber?] at h
  | cons byte bytes ih =>
      rw [takeNumber?] at h
      split at h
      · dsimp only at h
        split at h
        · simp only [Option.some.injEq, Prod.mk.injEq] at h
          simp [h.2]
        · exact Nat.lt_succ_of_lt (ih h)
      · exact absurd h (by simp)

def insertAll (isFirst : Bool) (bias point place : Nat) (chars : List Char) (bytes : List Nat) :
    List Char :=
  if bytes.isEmpty then chars
  else
    match _h : takeNumber? bias 0 1 0 bytes with
    | none => chars
    | some (delta, rest) =>
        let size := chars.length + 1
        let point := point + (place + delta) / size
        let point := if 0x10ffff < point then '?'.toNat else point
        let place := (place + delta) % size
        let chars := chars.take place ++ Text.charOfPoint point :: chars.drop place
        insertAll false (nextBias isFirst delta size) point (place + 1) chars rest
termination_by bytes.length
decreasing_by exact length_takeNumber?_lt _h

def parts (bytes : List Nat) : List Nat × List Nat :=
  let behind := (bytes.reverse.takeWhile (· != 0x2d)).reverse
  (bytes.take (bytes.length - behind.length - 1), behind)

def decode? (bytes : List Nat) : Option (List Char) :=
  let (plain, numbers) := parts bytes
  let chars := plain.map fun byte => if byte < 0x80 then Char.ofNat byte else Text.replacement
  if numbers.all (· < 0x80) then some (insertAll true 72 0x80 0 chars numbers) else none

end OpenApiClient.Web.Punycode
