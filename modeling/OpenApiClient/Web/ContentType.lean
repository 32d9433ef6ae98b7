import OpenApiClient.Decimal.Read
import OpenApiClient.Text.Blank
import OpenApiClient.Text.Lines

set_option autoImplicit false

namespace OpenApiClient.Web.ContentType

def pieces (quoted : Bool) : List Char → List (List Char)
  | [] => [[]]
  | '\\' :: '"' :: rest => prepend ['\\', '"'] (pieces quoted rest)
  | '"' :: rest => prepend ['"'] (pieces (!quoted) rest)
  | c :: rest =>
      if c = ';' && !quoted then [] :: pieces false rest
      else prepend [c] (pieces quoted rest)
where
  prepend (start : List Char) : List (List Char) → List (List Char)
    | [] => [start]
    | piece :: more => (start ++ piece) :: more

def parameter (piece : List Char) : String × List Char :=
  let name := String.ofList (Text.trim (piece.takeWhile (· != '=')))
  (name.toLower, Text.trim ((piece.dropWhile (· != '=')).drop 1))

def unquoted (value : List Char) : List Char :=
  match value with
  | first :: rest =>
      match rest.getLast? with
      | some last =>
          if first = '"' && last = '"' then
            Text.replacePair '\\' '"' ['"'] (Text.replacePair '\\' '\\' ['\\'] rest.dropLast)
          else if first = '<' && last = '>' then rest.dropLast
          else value
      | none => value
  | [] => []

structure Segment where
  number : Nat
  isEncoded : Bool
  chars : List Char

def segment? (mark value : List Char) : Option Segment :=
  match mark with
  | '*' :: rest =>
      let digits := rest.takeWhile Text.isAsciiDigit
      match rest.dropWhile Text.isAsciiDigit with
      | [] => some ⟨digitsValue digits, digits.isEmpty, value⟩
      | ['*'] => if digits.isEmpty then none else some ⟨digitsValue digits, true, value⟩
      | _ => none
  | _ => none

def percentDecoded : List Char → List Char
  | '%' :: a :: b :: rest =>
      match Text.hexValue? a, Text.hexValue? b with
      | some high, some low => Char.ofNat (high * 16 + low) :: percentDecoded rest
      | _, _ => '%' :: percentDecoded (a :: b :: rest)
  | c :: rest => c :: percentDecoded rest
  | [] => []

def withoutLanguage (chars : List Char) : List Char :=
  match Text.separated '\'' chars with
  | charset :: language :: _ :: _ => chars.drop (charset.length + language.length + 2)
  | _ => chars

def joined (segments : List Segment) : List Char :=
  let inOrder := segments.mergeSort fun a b => a.number ≤ b.number
  let chars := inOrder.flatMap fun segment =>
    if segment.isEncoded then percentDecoded segment.chars else segment.chars
  if segments.any Segment.isEncoded then withoutLanguage chars else chars

def charsetName? (line : String) : Option String :=
  let parameters := (pieces false line.toList).map parameter
  let segments := (parameters.drop 1).filterMap fun (name, value) =>
    if name.startsWith "charset" then
      segment? (name.toList.drop "charset".length) (unquoted value)
    else none
  match parameters.find? fun parameter => parameter.1 = "charset" with
  | some parameter => some (String.ofList (unquoted parameter.2))
  | none =>
      let name := joined segments
      if segments.isEmpty || name.any (0x80 ≤ ·.toNat) then none else some (String.ofList name)

end OpenApiClient.Web.ContentType
