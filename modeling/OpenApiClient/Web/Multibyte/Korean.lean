import OpenApiClient.Web.Grid.Korean
import OpenApiClient.Web.Multibyte.Basic

set_option autoImplicit false

namespace OpenApiClient.Web.Lead

def syllable (first middle last : Nat) : Char :=
  Char.ofNat (0xac00 + (first * 21 + middle) * 28 + last)

def firstLetters : List Nat :=
  [0x00, 0x01, 0x03, 0x06, 0x07, 0x08, 0x10, 0x11, 0x12, 0x14, 0x15, 0x16, 0x17, 0x18, 0x19, 0x1a,
    0x1b, 0x1c, 0x1d].map (0x3131 + ·)

def lastLetters : List Nat :=
  ((List.range 30).filter fun n => n != 7 && n != 18 && n != 24).map (0x3131 + ·)

def joined? : List Nat → Option Char
  | [a, first, b, middle, c, last] =>
      if a = 0xa4 && b = 0xa4 && c = 0xa4 && 0xbf ≤ middle && middle ≤ 0xd3 then
        let first? := firstLetters.findIdx? (· == 0x3131 + first - 0xa1)
        let last? :=
          if last = 0xd4 then some 0
          else (lastLetters.findIdx? (· == 0x3131 + last - 0xa1)).map (· + 1)
        match first?, last? with
        | some first, some last => some (syllable first (middle - 0xbf) last)
        | _, _ => none
      else none
  | _ => none

def eucKr : Nat → List Nat → Lead :=
  ascii fun byte rest =>
    if byte = 0xa4 && rest.head? = some 0xd4 then
      if rest.length < 7 then .cut
      else
        match joined? ((rest.drop 1).take 6) with
        | some c => .read [c] 7
        | none => .unknown
    else upperPair [Grid.ksX1001] byte rest

def syllableIndex? (byte next : Nat) : Option Nat :=
  let cell? :=
    if 0x41 ≤ next && next ≤ 0x5a then some (next - 0x41)
    else if 0x61 ≤ next && next ≤ 0x7a then some (next - 0x61 + 26)
    else if 0x81 ≤ next && next < 0xff then some (next - 0x81 + 52)
    else none
  cell?.bind fun cell =>
    if byte < 0x81 || 0xc6 < byte then none
    else if byte < 0xa1 then some ((byte - 0x81) * 178 + cell)
    else if cell < 84 then some (32 * 178 + (byte - 0xa1) * 84 + cell)
    else none

def otherSyllables (set : Grid) : Array Nat := Grid.unlisted 0xac00 11172 set.chars

def cp949 (others : Array Nat) : Nat → List Nat → Lead :=
  ascii (ofPair fun byte next =>
    match Grid.ksX1001.find? (byte - 0x80) (next - 0x80) with
    | some c => some [c]
    | none => (syllableIndex? byte next).bind fun n => others[n]?.map fun point =>
        [Char.ofNat point])

def decodeCp949 (bytes : List Nat) : List Char :=
  decode (cp949 (otherSyllables Grid.ksX1001)) bytes

inductive Slot where
  | filler
  | letter (n : Nat)

def firstSlot? (bits : Nat) : Option Slot :=
  if bits = 1 then some .filler
  else if 2 ≤ bits && bits ≤ 20 then some (.letter (bits - 2))
  else none

def middleSlot? (bits : Nat) : Option Slot :=
  if bits = 2 then some .filler
  else if 3 ≤ bits && bits ≤ 29 && 2 ≤ bits % 8 then some (.letter (bits - 3 - bits / 8 * 2))
  else none

def lastSlot? (bits : Nat) : Option Slot :=
  if bits = 1 then some .filler
  else if 2 ≤ bits && bits ≤ 17 then some (.letter (bits - 1))
  else if 19 ≤ bits && bits ≤ 29 then some (.letter (bits - 2))
  else none

def letters? (first middle last : Slot) : Option Char :=
  match first, middle, last with
  | .filler, .filler, .filler => some '\u3000'
  | .letter n, .filler, .filler => firstLetters[n]?.map Char.ofNat
  | .filler, .letter n, .filler => some (Char.ofNat (0x314f + n))
  | .filler, .filler, .letter n => lastLetters[n - 1]?.map Char.ofNat
  | .letter n, .letter m, .filler => some (syllable n m 0)
  | .letter n, .letter m, .letter k => some (syllable n m k)
  | _, _, _ => none

def johabPlace? (byte next : Nat) : Option (Nat × Nat) :=
  if byte == 0xdf || 0xf9 < byte || next < 0x31 || next == 0x7f || (0x80 ≤ next && next < 0x91) ||
      next == 0xff || (byte == 0xda && 0xa1 ≤ next && next ≤ 0xd3) then none
  else
    let row := if byte < 0xe0 then 2 * (byte - 0xd9) + 0x21 else 2 * (byte - 0xe0) + 0x4a
    let cell := if next < 0x91 then next - 0x31 else next - 0x43
    if cell < 94 then some (row, cell + 0x21) else some (row + 1, cell - 94 + 0x21)

def johabPair? (byte next : Nat) : Option Char :=
  if byte < 0xd8 then
    match firstSlot? (byte / 4 % 32), middleSlot? ((byte * 8 + next / 32) % 32),
        lastSlot? (next % 32) with
    | some first, some middle, some last => letters? first middle last
    | _, _, _ => none
  else if byte = 0xd8 then none
  else (johabPlace? byte next).bind fun (row, cell) => Grid.ksX1001.find? row cell

def johab : Nat → List Nat → Lead :=
  ascii (ofPair fun byte next => (johabPair? byte next).map ([·]))

end OpenApiClient.Web.Lead
