import OpenApiClient.Web.CodePage.Iso
import OpenApiClient.Web.Multibyte.Japanese
import OpenApiClient.Web.Grid.Korean
import OpenApiClient.Web.Grid.Simplified

set_option autoImplicit false

namespace OpenApiClient.Web.Switched

abbrev Step (State : Type) := State → Nat → List Nat → Option (List Char × Nat × State)

def decode {State : Type} (step : Step State) (state : State) : List Nat → List Char
  | [] => []
  | byte :: rest =>
      match step state byte rest with
      | some (chars, more, state) => chars ++ decode step state (rest.drop more)
      | none => [Text.replacement]
termination_by bytes => bytes.length
decreasing_by
  simp only [List.length_cons, List.length_drop]
  omega

def unknown {State : Type} (size : Nat) (state : State) : Option (List Char × Nat × State) :=
  some ([Text.replacement], size - 1, state)

def tildeStep : Step Bool := fun inside byte rest =>
  if byte = 0x7e then
    match rest with
    | [] => none
    | next :: _ =>
        if next = 0x7e && !inside then some (['~'], 1, inside)
        else if next = 0x7b && !inside then some ([], 1, true)
        else if next = 0x0a && !inside then some ([], 1, inside)
        else if next = 0x7d && inside then some ([], 1, false)
        else unknown 1 inside
  else if 0x80 ≤ byte then unknown 1 inside
  else if !inside then some ([Char.ofNat byte], 0, inside)
  else
    match rest with
    | [] => none
    | next :: _ =>
        match Grid.gb2312.find? byte next with
        | some c => some ([c], 1, inside)
        | none => unknown 1 inside

inductive CharSet where
  | ascii
  | roman
  | halfWidth
  | latin
  | greek
  | gb2312
  | ksX1001
  | jisX0208
  | jisX0212
  | extended (edition : Lead.Edition)
  | extendedSecond (edition : Lead.Edition)
  deriving DecidableEq

namespace CharSet

def width : CharSet → Nat
  | .ascii | .roman | .halfWidth | .latin | .greek => 1
  | _ => 2

def mark : CharSet → Char
  | .ascii | .jisX0208 => 'B'
  | .roman => 'J'
  | .halfWidth => 'I'
  | .latin | .gb2312 => 'A'
  | .greek => 'F'
  | .ksX1001 => 'C'
  | .jisX0212 => 'D'
  | .extended .first => 'O'
  | .extended .second => 'Q'
  | .extendedSecond _ => 'P'

def text? (set : CharSet) (byte next : Nat) : Option (List Char) :=
  match set with
  | .ascii => some [Char.ofNat byte]
  | .roman => some [Lead.romanChar byte]
  | .halfWidth => Lead.halfWidth? (byte + 0x80)
  | .latin | .greek => none
  | .gb2312 => Grid.textIn? [Grid.gb2312] [] byte next
  | .ksX1001 => Grid.textIn? [Grid.ksX1001] [] byte next
  | .jisX0208 => Grid.textIn? [Grid.jisX0208] [] byte next
  | .jisX0212 => Grid.textIn? [Grid.jisX0212] [] byte next
  | .extended edition => Lead.extended? edition [⟨0x22, 0x32, ["~"]⟩] byte next
  | .extendedSecond edition => Lead.extendedSecond? edition byte next

def upper? (set : CharSet) (byte : Nat) : Option Char :=
  match set with
  | .ascii => if byte < 0x80 then some (Char.ofNat byte) else none
  | .latin => if byte < 0x80 then some (Char.ofNat (byte + 0x80)) else none
  | .greek =>
      if byte < 0x20 || 0x80 ≤ byte then none
      else
        (isoPages.find? fun page => page.names.contains "iso8859_7").bind fun page =>
          page.chars[byte + 0x80]?.filter (· != Text.replacement)
  | _ => none

end CharSet

structure Form where
  sets : List CharSet
  hasShift : Bool := false
  hasThird : Bool := false

structure State where
  first : CharSet := .ascii
  second : CharSet := .ascii
  third : CharSet := .ascii
  isShifted : Bool := false
  isPassing : Bool := false

def escape : Nat := 0x1b

def isLast (byte : Nat) : Bool := 0x40 ≤ byte && byte ≤ 0x5a

def isSwitch (byte : Nat) : Bool :=
  byte == 0x24 || byte == 0x26 || byte == 0x28 || byte == 0x29 || byte == 0x2e

def lastIndex? (announced : Bool) (index : Nat) : Nat → List Nat → Option (Option Nat)
  | 0, _ => some none
  | _ + 1, [] => none
  | room + 1, byte :: rest =>
      if isLast byte then some (some index)
      else if announced && byte == 0x26 && rest.head? = some 0x40 then
        lastIndex? announced (index + 3) (room - 2) (rest.drop 2)
      else lastIndex? announced (index + 1) room rest
termination_by room => room
decreasing_by all_goals omega

namespace Form

def hasEarlyMark (form : Form) : Bool := form.sets.contains .roman

def set? (form : Form) (isPair : Bool) (mark : Nat) : Option CharSet :=
  let set? := form.sets.find? fun set =>
    (set.width == 2) == isPair && set.mark.toNat == mark
  if mark = 0x42 && !isPair then some .ascii
  else if set?.isNone && isPair && mark = 0x40 && form.hasEarlyMark then some .jisX0208
  else set?

def switched? (form : Form) (state : State) : List Nat → Option State
  | [0x24, mark] => (form.set? true mark).map fun set => { state with first := set }
  | [0x28, mark] => (form.set? false mark).map fun set => { state with first := set }
  | [0x29, mark] => (form.set? false mark).map fun set => { state with second := set }
  | [0x2e, mark] =>
      if form.hasThird then (form.set? false mark).map fun set => { state with third := set }
      else none
  | [0x24, 0x28, mark] => (form.set? true mark).map fun set => { state with first := set }
  | [0x24, 0x29, mark] => (form.set? true mark).map fun set => { state with second := set }
  | [_, _, 0x1b, 0x24, 0x42] =>
      if form.hasShift then none
      else (form.set? true 0x42).map fun set => { state with first := set }
  | _ => none

def escapeStep (form : Form) (state : State) (rest : List Nat) :
    Option (List Char × Nat × State) :=
  match rest with
  | [] => none
  | next :: more =>
      if isSwitch next then
        match lastIndex? (!form.hasShift) 1 15 rest with
        | none => none
        | some none => unknown 1 state
        | some (some index) =>
            match form.switched? state (rest.take index) with
            | some state => some ([], index, state)
            | none => unknown (index + 1) state
      else if form.hasThird && next == 0x4e then
        match more with
        | [] => none
        | byte :: _ =>
            match state.third.upper? byte with
            | some c => some ([c], 2, state)
            | none => unknown 3 state
      else some ([Char.ofNat escape], 0, { state with isPassing := true })

def step (form : Form) : Step State := fun state byte rest =>
  let plain (state : State) := some ([Char.ofNat byte], 0, state)
  if state.isPassing then plain { state with isPassing := !isLast byte }
  else if byte = escape then form.escapeStep state rest
  else if byte = 0x0f && form.hasShift then some ([], 0, { state with isShifted := false })
  else if byte = 0x0e && form.hasShift then some ([], 0, { state with isShifted := true })
  else if byte = 0x0a then plain { state with isShifted := false }
  else if byte < 0x20 then plain state
  else if 0x80 ≤ byte then unknown 1 state
  else
    let set := if state.isShifted then state.second else state.first
    if set.width = 2 && rest.isEmpty then none
    else
      match set.text? byte (rest.headD 0) with
      | some chars => some (chars, set.width - 1, state)
      | none => unknown set.width state

def decode (form : Form) (bytes : List Nat) : List Char := Switched.decode form.step {} bytes

end Form

def korean : Form := { sets := [.ksX1001], hasShift := true }

def japanese : Form := { sets := [.jisX0208, .roman] }

def japaneseWithSupplement : Form := { sets := [.jisX0208, .jisX0212, .roman] }

def international : Form :=
  { sets := [.jisX0208, .jisX0212, .ksX1001, .gb2312, .roman, .latin, .greek], hasThird := true }

def japaneseExtended (edition : Lead.Edition) : Form :=
  { sets := [.jisX0208, .extended edition, .extendedSecond edition] }

def japaneseWithHalfWidth : Form := { sets := [.jisX0208, .jisX0212, .roman, .halfWidth] }

end OpenApiClient.Web.Switched
