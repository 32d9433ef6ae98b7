import OpenApiClient.Text.Blank
import OpenApiClient.Web.CodePage.Apple
import OpenApiClient.Web.CodePage.Dos
import OpenApiClient.Web.CodePage.Iso
import OpenApiClient.Web.CodePage.Mainframe
import OpenApiClient.Web.CodePage.Windows
import OpenApiClient.Web.Escaped
import OpenApiClient.Web.Multibyte.Chinese
import OpenApiClient.Web.Multibyte.Japanese
import OpenApiClient.Web.Multibyte.Korean
import OpenApiClient.Web.Multibyte.Switched
import OpenApiClient.Web.Punycode

set_option autoImplicit false

namespace OpenApiClient.Web

inductive ByteOrder where
  | little
  | big
  deriving DecidableEq

inductive CharsetError where
  | unmarked
  | noText
  | packed
  | rotated
  | notAscii
  deriving DecidableEq

inductive Charset where
  | utf8
  | markedUtf8
  | utf16 (order : Option ByteOrder)
  | utf32 (order : Option ByteOrder)
  | page (table : CodePage)
  | read (chars : List Nat → List Char)
  | punycode
  | unusable (error : CharsetError)

namespace ByteOrder

def value (order : ByteOrder) (bytes : List UInt8) : Nat :=
  let bytes :=
    match order with
    | .little => bytes.reverse
    | .big => bytes
  bytes.foldl (fun n byte => n * 256 + byte.toNat) 0

def units (order : ByteOrder) : List UInt8 → List Nat × Bool
  | a :: b :: rest =>
      let (units, odd) := order.units rest
      (order.value [a, b] :: units, odd)
  | [_] => ([], true)
  | [] => ([], false)

end ByteOrder

def charsOfUnits (units : List Nat) (odd : Bool) : List Char :=
  let isTaken := (units.getLast?.map Text.isHighHalf).getD false
  Text.ofUnits units ++ if odd && !isTaken then [Text.replacement] else []

def charsOfPoints (order : ByteOrder) : List UInt8 → List Char
  | a :: b :: c :: d :: rest =>
      Text.charOfPoint (order.value [a, b, c, d]) :: charsOfPoints order rest
  | [] => []
  | _ => [Text.replacement]

namespace Charset

def decode16 (order : ByteOrder) (bytes : List UInt8) : String :=
  let (units, odd) := order.units bytes
  String.ofList (charsOfUnits units odd)

def decode32 (order : ByteOrder) (bytes : List UInt8) : String :=
  String.ofList (charsOfPoints order bytes)

def decodeUnmarked (unitSize : Nat) (decode : ByteOrder → List UInt8 → String)
    (bytes : List UInt8) : Except CharsetError String :=
  if unitSize ≤ bytes.length then .error .unmarked else .ok (decode .little bytes)

def decode (charset : Charset) (text : String) : Except CharsetError String :=
  let bytes := text.toUTF8.toList
  if bytes.isEmpty then .ok ""
  else
    match charset with
    | .utf8 => .ok text
    | .markedUtf8 =>
        match text.toList with
        | '\ufeff' :: rest => .ok (String.ofList rest)
        | _ => .ok text
    | .utf16 (some order) => .ok (decode16 order bytes)
    | .utf16 none => decodeUnmarked 2 decode16 bytes
    | .utf32 (some order) => .ok (decode32 order bytes)
    | .utf32 none => decodeUnmarked 4 decode32 bytes
    | .page table => .ok (table.decode bytes)
    | .read chars => .ok (String.ofList (chars (bytes.map UInt8.toNat)))
    | .punycode =>
        match Punycode.decode? (bytes.map UInt8.toNat) with
        | some chars => .ok (String.ofList chars)
        | none => .error .notAscii
    | .unusable error => .error error

def named : List (List String × Charset) :=
  [(["utf_8", "cp65001", "u8", "utf", "utf8", "utf8_ucs2", "utf8_ucs4"], .utf8),
    (["utf_8_sig"], .markedUtf8),
    (["utf_16", "u16", "utf16"], .utf16 none),
    (["utf_16_le", "unicodelittleunmarked", "utf_16le"], .utf16 (some .little)),
    (["utf_16_be", "unicodebigunmarked", "utf_16be"], .utf16 (some .big)),
    (["utf_32", "u32", "utf32"], .utf32 none),
    (["utf_32_le", "utf_32le"], .utf32 (some .little)),
    (["utf_32_be", "utf_32be"], .utf32 (some .big)),
    (["utf_7", "u7", "unicode_1_1_utf_7", "utf7"], .read (Escaped.utf7 none)),
    (["unicode_escape"], .read Escaped.escapes),
    (["raw_unicode_escape"], .read Escaped.pointEscapes),
    (["punycode"], .punycode),
    (["idna"], .unusable .noText), (["undefined"], .unusable .noText),
    (["base64_codec", "base64", "base_64"], .unusable .packed),
    (["bz2_codec", "bz2"], .unusable .packed), (["hex_codec", "hex"], .unusable .packed),
    (["quopri_codec", "quopri", "quoted_printable", "quotedprintable"], .unusable .packed),
    (["uu_codec", "uu"], .unusable .packed), (["zlib_codec", "zip", "zlib"], .unusable .packed),
    (["rot_13", "rot13"], .unusable .rotated)]

def asciiPage : CodePage :=
  { names := ["ascii", "646", "ansi_x3_4_1968", "ansi_x3_4_1986", "cp367", "csascii", "ibm367",
      "iso646_us", "iso_646_irv_1991", "iso_ir_6", "us", "us_ascii"]
    upper := "" }

def latinPage : CodePage :=
  { names := ["latin_1", "8859", "charmap", "cp819", "csisolatin1", "ibm819", "iso8859",
      "iso8859_1", "iso_8859_1", "iso_8859_1_1987", "iso_ir_100", "l1", "latin", "latin1"]
    upper := codePoints 0x80 128 }

def pages : List CodePage :=
  asciiPage :: latinPage :: isoPages ++ windowsPages ++ dosPages ++ applePages ++ mainframePages

def plainChars (begun gap : Bool) : List Char → List Char
  | [] => []
  | c :: rest =>
      if Text.isAsciiLower c || Text.isAsciiUpper c || Text.isAsciiDigit c || c == '.' then
        let kept := c.toLower :: plainChars true false rest
        if begun && gap then '_' :: kept else kept
      else plainChars begun true rest

def plainName (name : String) : String := String.ofList (plainChars false false name.toList)

def isAmong (names : List String) (name : String) : Bool :=
  if name.contains '.' then (names.drop 1).contains (name.replace "." "_")
  else names.contains name

def multibyteNamed : List (List String × (List Nat → List Char)) := [
  (["gb2312", "chinese", "csiso58gb231280", "euc_cn", "euccn", "eucgb2312_cn", "gb2312_1980",
    "gb2312_80", "iso_ir_58", "x_mac_simp_chinese"], Lead.decode Lead.gb2312),
  (["gbk", "936", "cp936", "ms936"], Lead.decodeGbk),
  (["gb18030", "gb18030_2000"], Lead.decodeGb18030),
  (["hz", "hz_gb", "hz_gb_2312", "hzgb"], Switched.decode Switched.tildeStep false),
  (["big5", "big5_tw", "csbig5", "x_mac_trad_chinese"], Lead.decode Lead.big5),
  (["cp950", "950", "ms950"], Lead.decode Lead.cp950),
  (["big5hkscs", "big5_hkscs", "hkscs"], Lead.decode Lead.hongKong),
  (["euc_jp", "eucjp", "u_jis", "ujis"], Lead.decode Lead.eucJp),
  (["euc_jisx0213", "eucjisx0213"], Lead.decode (Lead.eucExtended .first)),
  (["euc_jis_2004", "euc_jis2004", "eucjis2004", "jisx0213"],
    Lead.decode (Lead.eucExtended .second)),
  (["shift_jis", "csshiftjis", "s_jis", "shiftjis", "sjis", "x_mac_japanese"],
    Lead.decode Lead.shiftJis),
  (["cp932", "932", "ms932", "ms_kanji", "mskanji"], Lead.decode Lead.cp932),
  (["shift_jisx0213", "s_jisx0213", "shiftjisx0213", "sjisx0213"],
    Lead.decode (Lead.shiftExtended .first)),
  (["shift_jis_2004", "s_jis_2004", "shiftjis2004", "sjis_2004"],
    Lead.decode (Lead.shiftExtended .second)),
  (["iso2022_jp", "csiso2022jp", "iso2022jp", "iso_2022_jp"], Switched.japanese.decode),
  (["iso2022_jp_1", "iso2022jp_1", "iso_2022_jp_1"], Switched.japaneseWithSupplement.decode),
  (["iso2022_jp_2", "iso2022jp_2", "iso_2022_jp_2"], Switched.international.decode),
  (["iso2022_jp_3", "iso2022jp_3", "iso_2022_jp_3"], (Switched.japaneseExtended .first).decode),
  (["iso2022_jp_2004", "iso2022jp_2004", "iso_2022_jp_2004"],
    (Switched.japaneseExtended .second).decode),
  (["iso2022_jp_ext", "iso2022jp_ext", "iso_2022_jp_ext"], Switched.japaneseWithHalfWidth.decode),
  (["euc_kr", "euckr", "korean", "ks_c_5601", "ks_c_5601_1987", "ks_x_1001", "ksc5601", "ksx1001",
    "x_mac_korean"], Lead.decode Lead.eucKr),
  (["cp949", "949", "ms949", "uhc"], Lead.decodeCp949),
  (["johab", "cp1361", "ms1361"], Lead.decode Lead.johab),
  (["iso2022_kr", "csiso2022kr", "iso2022kr", "iso_2022_kr"], Switched.korean.decode)]

def ofName? (name : String) : Option Charset :=
  let name := plainName name
  match named.find? fun entry => isAmong entry.1 name with
  | some entry => some entry.2
  | none =>
      match multibyteNamed.find? fun entry => isAmong entry.1 name with
      | some entry => some (.read entry.2)
      | none => (pages.find? fun table => isAmong table.names name).map .page

end Charset
end OpenApiClient.Web
