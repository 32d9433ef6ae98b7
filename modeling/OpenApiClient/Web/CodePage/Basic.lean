import OpenApiClient.Text.Units

set_option autoImplicit false

namespace OpenApiClient.Web

def codePoints (first count : Nat) : String :=
  String.ofList ((List.range count).map fun n => Char.ofNat (first + n))

def ascii : String := codePoints 0 128

def upperControls : String := codePoints 0x80 32

structure CodePage where
  names : List String
  upper : String
  lower : String := ascii

namespace CodePage

def chars (page : CodePage) : Array Char := (page.lower ++ page.upper).toList.toArray

def decode (page : CodePage) (bytes : List UInt8) : String :=
  let chars := page.chars
  String.ofList (bytes.map fun byte => chars.getD byte.toNat Text.replacement)

end CodePage
end OpenApiClient.Web
