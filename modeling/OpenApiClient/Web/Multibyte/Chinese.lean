import OpenApiClient.Web.Grid.Simplified
import OpenApiClient.Web.Grid.Traditional
import OpenApiClient.Web.Multibyte.Basic

set_option autoImplicit false

namespace OpenApiClient.Web.Lead

def gb2312 : Nat → List Nat → Lead := ascii (upperPair [Grid.gb2312])

def ideographIndex? (byte next : Nat) : Option Nat :=
  let cell := if next < 0x7f then next - 0x40 else next - 0x41
  if next < 0x40 || next == 0x7f || next == 0xff then none
  else if 0x81 ≤ byte && byte ≤ 0xa0 then some ((byte - 0x81) * 190 + cell)
  else if 0xaa ≤ byte && byte < 0xff && next ≤ 0xa0 then some (32 * 190 + (byte - 0xaa) * 96 + cell)
  else none

def otherIdeographs (set : Grid) : Array Nat := Grid.unlisted 0x4e00 20902 set.chars

def ideograph? (signs : List Grid) (others : Array Nat) (byte next : Nat) : Option Char :=
  match Grid.findIn? signs byte next with
  | some c => some c
  | none =>
      match Grid.gb2312.find? (byte - 0x80) (next - 0x80) with
      | some c => some c
      | none => (ideographIndex? byte next).bind fun n => others[n]?.map Char.ofNat

def gbk (others : Array Nat) : Nat → List Nat → Lead :=
  ascii (ofPair fun byte next => (ideograph? Grid.gbkSigns others byte next).map ([·]))

def gb18030Pair? (others : Array Nat) : Nat → Nat → Option Char :=
  ideograph? (Grid.gbkSigns ++ Grid.gb18030Signs) others

def gb18030Rest (others : Array Nat) : Array Nat :=
  let signs := (Grid.gbkSigns ++ Grid.gb18030Signs).flatMap Grid.chars
  let listed := Grid.gb2312.chars.filter (· != '・') ++ signs ++ others.toList.map Char.ofNat
  (Grid.unlisted 0x80 0xff80 listed).filter fun point => decide point.isValidChar

def fourByteChar? (rest : Array Nat) (first second third fourth : Nat) : Option Char :=
  let number :=
    (((first - 0x81) * 10 + (second - 0x30)) * 126 + (third - 0x81)) * 10 + (fourth - 0x30)
  let point := 0x10000 + (number - (0x90 - 0x81) * 12600)
  if first < 0x81 || first == 0xff || third < 0x81 || third == 0xff then none
  else if fourth < 0x30 || 0x39 < fourth then none
  else if first < 0x85 then rest[number]?.map Char.ofNat
  else if 0x90 ≤ first && point.isValidChar then some (Char.ofNat point)
  else none

def gb18030 (others rest : Array Nat) : Nat → List Nat → Lead :=
  ascii fun byte behind =>
    match behind with
    | next :: more =>
        if 0x30 ≤ next && next ≤ 0x39 then
          match more with
          | third :: fourth :: _ =>
              match fourByteChar? rest byte next third fourth with
              | some c => .read [c] 3
              | none => .unknown
          | _ => .cut
        else ofPair (fun byte next => (gb18030Pair? others byte next).map ([·])) byte behind
    | [] => .cut

def decodeGbk (bytes : List Nat) : List Char := decode (gbk (otherIdeographs Grid.gb2312)) bytes

def decodeGb18030 (bytes : List Nat) : List Char :=
  let others := otherIdeographs Grid.gb2312
  decode (gb18030 others (gb18030Rest others)) bytes

def big5Grids : List Grid := [Grid.big5Lower, Grid.big5Upper]

def big5 : Nat → List Nat → Lead := ascii (ofPair (Grid.textIn? big5Grids []))

def cp950 : Nat → List Nat → Lead := ascii (ofPair (Grid.textIn? (Grid.cp950Signs ++ big5Grids) []))

def isHongKongRow (byte next : Nat) : Bool :=
  (byte == 0xc6 && 0xa1 ≤ next) || byte == 0xc7 || byte == 0xc8

def hongKong : Nat → List Nat → Lead :=
  ascii (ofPair fun byte next =>
    let grids := if isHongKongRow byte next then [] else big5Grids
    Grid.textIn? (grids ++ Grid.hongKong) Grid.hongKongMarked byte next)

end OpenApiClient.Web.Lead
