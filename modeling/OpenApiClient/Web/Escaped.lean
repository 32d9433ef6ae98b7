import OpenApiClient.Text.Blank
import OpenApiClient.Text.Base64
import OpenApiClient.Text.Units

set_option autoImplicit false

namespace OpenApiClient.Web.Escaped

structure Coded where
  bits : Nat := 0
  count : Nat := 0
  high : Option Nat := none

namespace Coded

def push (coded : Coded) (value : Nat) : List Char × Coded :=
  let bits := coded.bits * 64 + value
  let count := coded.count + 6
  if count < 16 then ([], { coded with bits := bits, count := count })
  else
    let unit := bits / Nat.pow 2 (count - 16)
    let left : Coded := { bits := bits % Nat.pow 2 (count - 16), count := count - 16 }
    match coded.high with
    | some high =>
        if Text.isLowHalf unit then ([Text.joinHalves high unit], left)
        else if Text.isHighHalf unit then ([Text.replacement], { left with high := some unit })
        else ([Text.replacement, Text.charOfPoint unit], left)
    | none =>
        if Text.isHighHalf unit then ([], { left with high := some unit })
        else ([Text.charOfPoint unit], left)

def isPartial (coded : Coded) : Bool := 6 ≤ coded.count || (0 < coded.count && coded.bits != 0)

end Coded

def utf7 (coded : Option Coded) (bytes : List Nat) : List Char :=
  match coded, bytes with
  | none, [] => []
  | some coded, [] => if coded.isPartial || coded.high.isSome then [Text.replacement] else []
  | none, byte :: rest =>
      if byte = 0x2b then
        match rest with
        | [] => []
        | next :: more =>
            if next = 0x2d then '+' :: utf7 none more
            else if (Text.base64Value? (Char.ofNat next)).isSome then utf7 (some {}) (next :: more)
            else Text.replacement :: utf7 none more
      else (if byte < 0x80 then Char.ofNat byte else Text.replacement) :: utf7 none rest
  | some coded, byte :: rest =>
      match Text.base64Value? (Char.ofNat byte) with
      | some value =>
          let (chars, coded) := coded.push value
          chars ++ utf7 (some coded) rest
      | none =>
          if coded.isPartial then Text.replacement :: utf7 none rest
          else
            (if coded.high.isSome && byte < 0x80 then [Text.replacement] else []) ++
              if byte = 0x2d then utf7 none rest else utf7 none (byte :: rest)
termination_by (bytes.length, if coded.isSome then 1 else 0)

def takeHex (value : Nat) : Nat → List Nat → Option Nat × List Nat
  | 0, rest => (some value, rest)
  | _ + 1, [] => (none, [])
  | count + 1, byte :: rest =>
      match if byte < 0x80 then Text.hexValue? (Char.ofNat byte) else none with
      | some digit => takeHex (value * 16 + digit) count rest
      | none => (none, byte :: rest)

def pointChar (point? : Option Nat) : Char :=
  match point? with
  | some point => Text.charOfPoint point
  | none => Text.replacement

theorem length_takeHex_le (value count : Nat) (bytes : List Nat) :
    (takeHex value count bytes).2.length ≤ bytes.length := by
  induction count generalizing value bytes with
  | zero => simp [takeHex]
  | succ count ih =>
      cases bytes with
      | nil => simp [takeHex]
      | cons byte rest =>
          rw [takeHex]
          split
          · exact Nat.le_succ_of_le (ih _ _)
          · exact Nat.le_refl _

def pointDigits? (letter : Nat) : Option Nat :=
  if letter = 0x75 then some 4 else if letter = 0x55 then some 8 else none

def pointEscapes : List Nat → List Char
  | [] => []
  | [byte] => [Char.ofNat byte]
  | byte :: letter :: rest =>
      if byte = 0x5c then
        match pointDigits? letter with
        | some count => pointChar (takeHex 0 count rest).1 :: pointEscapes (takeHex 0 count rest).2
        | none => '\\' :: Char.ofNat letter :: pointEscapes rest
      else Char.ofNat byte :: pointEscapes (letter :: rest)
termination_by bytes => bytes.length
decreasing_by
  · have := length_takeHex_le 0 count rest
    simp only [List.length_cons]
    omega
  · simp only [List.length_cons]
    omega
  · simp

def isOctal (byte : Nat) : Bool := 0x30 ≤ byte && byte ≤ 0x37

def letterChars? (letter : Nat) : Option (List Char) :=
  match Char.ofNat letter with
  | '\n' => some []
  | '\\' => some ['\\']
  | '\'' => some ['\'']
  | '"' => some ['"']
  | 'a' => some ['\x07']
  | 'b' => some ['\x08']
  | 'f' => some ['\x0c']
  | 'n' => some ['\n']
  | 'r' => some ['\r']
  | 't' => some ['\t']
  | 'v' => some ['\x0b']
  | _ => none

def behindName : List Nat → List Nat
  | 0x7b :: 0x7d :: rest => 0x7d :: rest
  | 0x7b :: rest => (rest.dropWhile (· != 0x7d)).drop 1
  | rest => rest

def escapeChars (letter : Nat) (rest : List Nat) : List Char × List Nat :=
  match if letter = 0x78 then some 2 else pointDigits? letter with
  | some count => ([pointChar (takeHex 0 count rest).1], (takeHex 0 count rest).2)
  | none =>
      if letter = 0x4e then ([Text.replacement], behindName rest)
      else if isOctal letter then
        let more := (rest.take 2).takeWhile isOctal
        let value := (letter :: more).foldl (fun n digit => n * 8 + (digit - 0x30)) 0
        ([Char.ofNat value], rest.drop more.length)
      else
        match letterChars? letter with
        | some chars => (chars, rest)
        | none => (['\\', Char.ofNat letter], rest)

theorem length_behindName_le (bytes : List Nat) : (behindName bytes).length ≤ bytes.length := by
  fun_cases behindName bytes with
  | case1 rest => simp
  | case2 rest _ =>
      have := (List.dropWhile_sublist (· != 0x7d) (l := rest)).length_le
      simp only [List.length_drop, List.length_cons]
      omega
  | case3 => exact Nat.le_refl _

theorem length_escapeChars_le (letter : Nat) (rest : List Nat) :
    (escapeChars letter rest).2.length ≤ rest.length := by
  rw [escapeChars]
  split
  · exact length_takeHex_le _ _ _
  · split
    · exact length_behindName_le rest
    · split
      · simp
      · split <;> exact Nat.le_refl _

def escapes : List Nat → List Char
  | [] => []
  | byte :: rest =>
      if byte = 0x5c then
        match rest with
        | [] => [Text.replacement]
        | letter :: behind => (escapeChars letter behind).1 ++ escapes (escapeChars letter behind).2
      else Char.ofNat byte :: escapes rest
termination_by bytes => bytes.length
decreasing_by
  · have := length_escapeChars_le letter behind
    simp only [List.length_cons]
    omega
  · simp

end OpenApiClient.Web.Escaped
