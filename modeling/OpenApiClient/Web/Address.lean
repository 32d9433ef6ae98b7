import OpenApiClient.Decimal.Read

set_option autoImplicit false

namespace OpenApiClient.Web.Address

def lengthLimit : Nat := 65536

def isControl (c : Char) : Bool := c < ' ' || c == '\x7f'

structure Authority where
  host : List Char
  portDigits : List Char

def authorityText (url : List Char) : List Char :=
  ((url.dropWhile (· != '/')).drop 2).takeWhile fun c => c != '/' && c != '?' && c != '#'

def behindLast (c : Char) (cs : List Char) : List Char :=
  (cs.reverse.takeWhile (· != c)).reverse

def takeBracketed? (cs : List Char) : Option (List Char × List Char) :=
  if cs.head? = some '[' && cs.contains ']' then
    let rest := behindLast ']' cs
    some (cs.take (cs.length - rest.length), rest)
  else none

def authority (url : List Char) : Authority :=
  let text := behindLast '@' (authorityText url)
  let (host, rest) :=
    match takeBracketed? text with
    | some parts => parts
    | none => (text.takeWhile (· != ':'), text.dropWhile (· != ':'))
  ⟨host, if rest.head? = some ':' then rest.drop 1 else rest⟩

def isByte (digits : List Char) : Bool :=
  !digits.isEmpty && digits.length ≤ 3 && digits.all Text.isAsciiDigit &&
    (digits.length == 1 || digits.head? != some '0') && digitsValue digits ≤ 255

def isFourBytes (host : List Char) : Bool :=
  let parts := Text.separated '.' host
  parts.length == 4 && parts.all isByte

def groupStates (states : List Nat) (c : Char) : List Nat :=
  (states.flatMap fun state =>
    let inside := if Text.isAsciiDigit c then [if state % 2 = 0 then state + 1 else state] else []
    if state % 2 = 1 ∧ state < 7 then (state + 1) :: inside else inside).eraseDups

def hasFourGroups (host : List Char) : Bool := (host.foldl groupStates [0]).contains 7

def isHexGroup (group : List Char) : Bool :=
  !group.isEmpty && group.length ≤ 4 && group.all fun c => (Text.hexValue? c).isSome

def withoutBytes? (groups : List (List Char)) : Option (List (List Char)) :=
  match groups.getLast? with
  | some last =>
      if !last.contains '.' then some groups
      else if isFourBytes last then some (groups.dropLast ++ [['0'], ['0']])
      else none
  | none => some groups

def areEightGroups (groups : List (List Char)) : Bool :=
  let inner := (groups.drop 1).dropLast
  if 9 < groups.length then false
  else
    match inner.filter List.isEmpty with
    | [] => groups.length == 8 && groups.all isHexGroup
    | [_] =>
        let before := groups.take (1 + (inner.takeWhile (!·.isEmpty)).length)
        let behind := groups.drop (before.length + 1)
        let before := if before = [[]] then [] else before
        let behind := if behind = [[]] then [] else behind
        before.length + behind.length < 8 && before.all isHexGroup && behind.all isHexGroup
    | _ => false

def isEightGroups (host : List Char) : Bool :=
  let text := host.takeWhile (· != '%')
  let zone := (host.dropWhile (· != '%')).drop 1
  let groups := Text.separated ':' text
  (text.length == host.length || (!zone.isEmpty && !zone.contains '%')) &&
    3 ≤ groups.length &&
    match withoutBytes? groups with
    | some groups => areEightGroups groups
    | none => false

def isLabel (label : List Char) : Bool :=
  !label.isEmpty && label.length ≤ 63 && label.head? != some '-' && label.getLast? != some '-' &&
    (label.drop 2).take 2 != ['-', '-'] &&
    label.all fun c => c == '-' || Text.isLetterOrDigit c

def isLabelPoint (c : Char) : Bool := c == '\u3002' || c == '\uff0e' || c == '\uff61'

def isForeignName (host : List Char) : Bool :=
  let labels := Text.separated '.' (host.map fun c => if isLabelPoint c then '.' else c)
  let labels := if labels.getLast? = some [] then labels.dropLast else labels
  !labels.isEmpty && labels.all isLabel

def isHost (host : List Char) : Bool :=
  if hasFourGroups host then isFourBytes host
  else if host.head? = some '[' && host.getLast? = some ']' then
    isEightGroups (host.drop 1).dropLast
  else if host.all fun c => c.toNat < 0x80 then true
  else isForeignName host

def isPortNumber (digits : List Char) : Bool :=
  digits.isEmpty || (wholeOfText? (some 10) digits).isSome

def isUsable (url : String) : Bool :=
  let cs := url.toList
  let authority := authority cs
  cs.length ≤ lengthLimit && !cs.any isControl && isHost authority.host &&
    isPortNumber authority.portDigits

end OpenApiClient.Web.Address
