import OpenApiClient.Web.Grid.Japanese
import OpenApiClient.Web.Multibyte.Basic

set_option autoImplicit false

namespace OpenApiClient.Web.Lead

inductive Edition where
  | first
  | second
  deriving DecidableEq

def laterPlaces : List (Nat × Nat) :=
  [(0x2e, 0x21), (0x2f, 0x7e), (0x4f, 0x54), (0x4f, 0x7e), (0x74, 0x27), (0x7e, 0x7a),
    (0x7e, 0x7b), (0x7e, 0x7c), (0x7e, 0x7d), (0x7e, 0x7e)]

def extended? (edition : Edition) (signs : List Grid) (row cell : Nat) : Option (List Char) :=
  if edition = .first && laterPlaces.contains (row, cell) then some [Text.replacement]
  else Grid.textIn? (signs ++ Grid.jisX0208 :: Grid.jisX0213) Grid.jisX0213Marked row cell

def extendedSecond? (edition : Edition) (row cell : Nat) : Option (List Char) :=
  if edition = .first && row == 0x7d && cell == 0x3b then some ['鬝']
  else Grid.textIn? Grid.jisX0213Second [] row cell

def halfWidth? (byte : Nat) : Option (List Char) :=
  if 0xa1 ≤ byte && byte ≤ 0xdf then some [Char.ofNat (0xfec0 + byte)] else none

def ofTriple (find? : Nat → Nat → Option (List Char)) : List Nat → Lead
  | second :: third :: _ =>
      match find? (second - 0x80) (third - 0x80) with
      | some chars => .read chars 2
      | none => .unknown
  | _ => .cut

def eucOf (pair? triple? : Nat → Nat → Option (List Char)) : Nat → List Nat → Lead :=
  ascii fun byte rest =>
    if byte = 0x8e then ofPair (fun _ next => halfWidth? next) byte rest
    else if byte = 0x8f then ofTriple triple? rest
    else ofPair (fun byte next => pair? (byte - 0x80) (next - 0x80)) byte rest

def eucJp : Nat → List Nat → Lead :=
  eucOf (Grid.textIn? [Grid.jisX0208] []) (Grid.textIn? [Grid.jisX0212] [])

def eucExtended (edition : Edition) : Nat → List Nat → Lead :=
  eucOf (extended? edition []) fun row cell =>
    match extendedSecond? edition row cell with
    | some chars => some chars
    | none => Grid.textIn? [Grid.jisX0212] [] row cell

def unshifted? (byte next : Nat) : Option (Nat × Nat) :=
  if next < 0x40 || next == 0x7f || 0xfc < next then none
  else
    let row := 0x21 + 2 * (if byte < 0xe0 then byte - 0x81 else byte - 0xc1)
    let cell := 0x21 + (if next < 0x7f then next - 0x40 else next - 0x41)
    if cell < 0x7f then some (row, cell) else some (row + 1, cell - 94)

def isShiftedByte (byte : Nat) : Bool :=
  (0x81 ≤ byte && byte ≤ 0x9f) || (0xe0 ≤ byte && byte ≤ 0xfc)

def shiftedOf (pair? : Nat → Nat → Option (List Char)) (byte : Nat) (rest : List Nat) : Lead :=
  match halfWidth? byte with
  | some chars => .read chars 0
  | none => if isShiftedByte byte then ofPair pair? byte rest else .unknown

def shiftJis : Nat → List Nat → Lead :=
  ascii (shiftedOf fun byte next =>
    (unshifted? byte next).bind fun (row, cell) => Grid.textIn? [Grid.jisX0208] [] row cell)

def cp932Pair? (byte next : Nat) : Option (List Char) :=
  match Grid.textIn? Grid.cp932Signs [] byte next, unshifted? byte next with
  | some chars, _ => some chars
  | none, some (row, cell) =>
      if 0xf0 ≤ byte then
        if byte ≤ 0xf9 then some [Char.ofNat (0xe000 + (row - 0x7f) * 94 + (cell - 0x21))] else none
      else Grid.textIn? [Grid.jisX0208] [] row cell
  | none, none => none

def cp932 : Nat → List Nat → Lead :=
  ascii fun byte rest =>
    if byte = 0x80 then .read ['\u0080'] 0
    else if byte = 0xa0 then .read ['\uf8f0'] 0
    else if 0xfd ≤ byte then .read [Char.ofNat (0xf8f1 + (byte - 0xfd))] 0
    else shiftedOf cp932Pair? byte rest

def secondRows : List Nat :=
  [0x21, 0x28, 0x23, 0x24, 0x25, 0x2c, 0x2d, 0x2e, 0x2f] ++ (List.range 17).map (0x6e + ·)

def shiftedSigns : List Grid := [⟨0x21, 0x40, ["\\"]⟩, ⟨0x22, 0x32, ["~"]⟩]

def romanChar (byte : Nat) : Char :=
  if byte = 0x5c then '¥' else if byte = 0x7e then '‾' else Char.ofNat byte

def shiftExtended (edition : Edition) (byte : Nat) (rest : List Nat) : Lead :=
  if byte < 0x80 then .read [romanChar byte] 0
  else
    shiftedOf (fun byte next =>
      (unshifted? byte next).bind fun (row, cell) =>
        if row < 0x7f then extended? edition shiftedSigns row cell
        else secondRows[row - 0x7f]?.bind fun row => extendedSecond? edition row cell) byte rest

end OpenApiClient.Web.Lead
