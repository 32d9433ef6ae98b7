import OpenApiClient.Decimal.Read
import OpenApiClient.Text.Units
import OpenApiClient.Value

set_option autoImplicit false

namespace OpenApiClient.Json

inductive Token where
  | openArray
  | closeArray
  | openObject
  | closeObject
  | comma
  | colon
  | scalar (s : Scalar)
  | longInteger
  | unreadable

inductive Inside where
  | nothing
  | word (reversed : List Char)
  | text (reversed : List Nat)
  | escape (reversed : List Nat)
  | unit (reversed : List Nat) (missing value : Nat)

structure Lexer where
  inside : Inside
  reversed : List Token
  failed : Bool

namespace Lexer

def start : Lexer := ⟨.nothing, [], false⟩

def push (lexer : Lexer) (token : Token) : Lexer :=
  { lexer with inside := .nothing, reversed := token :: lexer.reversed }

def fail (lexer : Lexer) : Lexer :=
  { inside := .nothing, reversed := .unreadable :: lexer.reversed, failed := true }

end Lexer

def goesOn : List Char → Bool
  | '.' :: c :: _ => Text.isAsciiDigit c
  | mark :: rest =>
      (mark == 'e' || mark == 'E') && (takeSign rest).2.head?.any Text.isAsciiDigit
  | [] => false

def number? (negative : Bool) (cs : List Char) : Option Token :=
  let whole := cs.takeWhile Text.isAsciiDigit
  let rest := cs.dropWhile Text.isAsciiDigit
  if whole = [] ∨ (whole.length > 1 ∧ whole.head? = some '0') then none
  -- Whole digits are converted before anything else behind them is looked at.
  else if wholeDigitLimit < whole.length ∧ goesOn rest = false then some .longInteger
  else
    match rest with
    | [] =>
        let n : Int := digitsValue whole
        some (.scalar (.int (if negative then -n else n)))
    | '.' :: after =>
        let fraction := after.takeWhile Text.isAsciiDigit
        if fraction = [] then none
        else (exponentValue? (after.dropWhile Text.isAsciiDigit)).map fun e =>
          .scalar (.float (.ofDecimal negative (digitsValue (whole ++ fraction))
            (e - (fraction.length : Int))))
    | rest => (exponentValue? rest).map fun e =>
        .scalar (.float (.ofDecimal negative (digitsValue whole) e))

def word (cs : List Char) : Token :=
  if cs = "null".toList then .scalar .null
  else if cs = "true".toList then .scalar (.bool true)
  else if cs = "false".toList then .scalar (.bool false)
  else if cs = "NaN".toList then .scalar (.float .nan)
  else if cs = "Infinity".toList then .scalar (.float (.infinite false))
  else if cs = "-Infinity".toList then .scalar (.float (.infinite true))
  else
    let number :=
      match cs with
      | '-' :: digits => number? true digits
      | digits => number? false digits
    number.getD .unreadable

def isWordChar (c : Char) : Bool :=
  Text.isAsciiLower c || Text.isAsciiUpper c || Text.isAsciiDigit c || c == '-' || c == '+' ||
    c == '.'

def escapeUnit? (c : Char) : Option Nat :=
  match c with
  | '"' | '\\' | '/' => some c.toNat
  | 'b' => some 8
  | 'f' => some 12
  | 'n' => some 10
  | 'r' => some 13
  | 't' => some 9
  | _ => none

namespace Lexer

def between (lexer : Lexer) (c : Char) : Lexer :=
  match c with
  | ' ' | '\t' | '\n' | '\r' => { lexer with inside := .nothing }
  | '[' => lexer.push .openArray
  | ']' => lexer.push .closeArray
  | '\x7b' => lexer.push .openObject
  | '\x7d' => lexer.push .closeObject
  | ',' => lexer.push .comma
  | ':' => lexer.push .colon
  | '"' => { lexer with inside := .text [] }
  | c => if isWordChar c then { lexer with inside := .word [c] } else lexer.fail

def endWord (lexer : Lexer) (reversed : List Char) : Lexer :=
  match word reversed.reverse with
  | .unreadable => lexer.fail
  | token => lexer.push token

def step (lexer : Lexer) (c : Char) : Lexer :=
  if lexer.failed then lexer
  else
    match lexer.inside with
    | .nothing => lexer.between c
    | .word reversed =>
        if isWordChar c then { lexer with inside := .word (c :: reversed) }
        else
          -- The character that ends a word is a token or a blank of its own.
          let ended := lexer.endWord reversed
          if ended.failed then ended else ended.between c
    | .text reversed =>
        if c = '"' then
          lexer.push (.scalar (.text (String.ofList (Text.ofUnits reversed.reverse))))
        else if c = '\\' then { lexer with inside := .escape reversed }
        else if c.toNat < 0x20 then lexer.fail
        else { lexer with inside := .text (c.toNat :: reversed) }
    | .escape reversed =>
        if c = 'u' then { lexer with inside := .unit reversed 3 0 }
        else
          match escapeUnit? c with
          | some unit => { lexer with inside := .text (unit :: reversed) }
          | none => lexer.fail
    | .unit reversed missing value =>
        match Text.hexValue? c with
        | none => lexer.fail
        | some digit =>
            let value := value * 16 + digit
            match missing with
            | 0 => { lexer with inside := .text (value :: reversed) }
            | missing + 1 => { lexer with inside := .unit reversed missing value }

def finish (lexer : Lexer) : List Token :=
  let ended :=
    match lexer.inside with
    | .nothing => lexer
    | .word reversed => lexer.endWord reversed
    | _ => lexer.fail
  ended.reversed.reverse

end Lexer

def tokens (text : String) : List Token :=
  (text.toList.foldl Lexer.step Lexer.start).finish

end OpenApiClient.Json
