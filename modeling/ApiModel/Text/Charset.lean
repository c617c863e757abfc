import ApiModel.Text.CodePage
import ApiModel.Text.Encoding
import ApiModel.Text.Segment

/-! Character sets by name, and the text that bytes stand for in them. Bytes that stand for nothing
become replacement characters. -/
namespace ApiModel

inductive ByteOrder where
  | little
  | big
  deriving DecidableEq, Repr

inductive CharsetError where
  /-- The set needs a mark in front of the text, or reads no faulty bytes. -/
  | unreadable
  /-- The name is one of a transformation of bytes. -/
  | transformation
  /-- The name is one of a transformation of letters. -/
  | cipher
  deriving DecidableEq, Repr

inductive Charset where
  | ascii
  | latin
  | utf8
  /-- With a mark in front that is no part of the text. -/
  | markedUtf8
  | utf16 (order : ByteOrder)
  | utf32 (order : ByteOrder)
  /-- The order is told by a mark in front. -/
  | markedUtf16
  | markedUtf32
  | page (characters : String)
  | refused (e : CharsetError)

namespace Charset

def replacement : CodePoint := '\ufffd'

/-- Names of sets of more than one byte a character, which are read as far as they are ASCII. -/
def wideNames : List Text :=
  Text.split ' '
    ("big5 big5_tw csbig5 x_mac_trad_chinese big5hkscs big5_hkscs hkscs cp932 932 ms932 "
    ++ "mskanji ms_kanji cp949 949 ms949 uhc cp950 950 ms950 euc_jis_2004 jisx0213 eucjis2004 "
    ++ "euc_jis2004 euc_jisx0213 eucjisx0213 euc_jp eucjp ujis u_jis euc_kr euckr korean "
    ++ "ksc5601 ks_c_5601 ks_c_5601_1987 ksx1001 ks_x_1001 x_mac_korean gb18030 gb18030_2000 "
    ++ "gb2312 chinese csiso58gb231280 euc_cn euccn eucgb2312_cn gb2312_1980 gb2312_80 "
    ++ "iso_ir_58 x_mac_simp_chinese gbk 936 cp936 ms936 hz hzgb hz_gb hz_gb_2312 iso2022_jp "
    ++ "csiso2022jp iso2022jp iso_2022_jp iso2022_jp_1 iso2022jp_1 iso_2022_jp_1 iso2022_jp_2 "
    ++ "iso2022jp_2 iso_2022_jp_2 iso2022_jp_2004 iso_2022_jp_2004 iso2022jp_2004 "
    ++ "iso2022_jp_3 iso2022jp_3 iso_2022_jp_3 iso2022_jp_ext iso2022jp_ext iso_2022_jp_ext "
    ++ "iso2022_kr csiso2022kr iso2022kr iso_2022_kr johab cp1361 ms1361 shift_jis csshiftjis "
    ++ "shiftjis sjis s_jis x_mac_japanese shift_jis_2004 shiftjis2004 sjis_2004 s_jis_2004 "
    ++ "shift_jisx0213 shiftjisx0213 sjisx0213 s_jisx0213")

def asciiNames : List Text := [
  "ascii", "646", "ansi_x3.4_1968", "ansi_x3_4_1968", "ansi_x3.4_1986", "cp367", "csascii",
  "ibm367", "iso646_us", "iso_646.irv_1991", "iso_ir_6", "us", "us_ascii", "utf_7", "u7", "utf7",
  "unicode_1_1_utf_7"]

def named : List (List Text × Charset) := [
  (asciiNames ++ wideNames, ascii),
  (["latin_1", "8859", "cp819", "csisolatin1", "ibm819", "iso8859", "iso8859_1", "iso_8859_1",
    "iso_8859_1_1987", "iso_ir_100", "l1", "latin", "latin1", "charmap", "unicode_escape",
    "raw_unicode_escape"], latin),
  (["utf_8", "u8", "utf", "utf8", "utf8_ucs2", "utf8_ucs4", "cp65001"], utf8),
  (["utf_8_sig"], markedUtf8),
  (["utf_16", "u16", "utf16"], markedUtf16),
  (["utf_16_be", "unicodebigunmarked", "utf_16be"], utf16 .big),
  (["utf_16_le", "unicodelittleunmarked", "utf_16le"], utf16 .little),
  (["utf_32", "u32", "utf32"], markedUtf32),
  (["utf_32_be", "utf_32be"], utf32 .big),
  (["utf_32_le", "utf_32le"], utf32 .little),
  (["idna", "undefined"], refused .unreadable),
  (["rot_13", "rot13"], refused .cipher),
  (["base64_codec", "base64", "base_64", "bz2_codec", "bz2", "hex_codec", "hex", "quopri_codec",
    "quopri", "quoted_printable", "quotedprintable", "uu_codec", "uu", "zlib_codec", "zip",
    "zlib"], refused .transformation)]

/-- The name in small letters, with one underscore for all that stands between its words. -/
def plainName (gap : Bool) : Text → Text
  | [] => []
  | c :: rest =>
    if c.isLetterOrDigit ∨ c = '.' then
      (if gap then [.char '_', c.toLower] else [c.toLower]) ++ plainName false rest
    else plainName true rest

def find? (name : Text) : Option Charset :=
  (named.find? fun set => name ∈ set.1).map Prod.snd
    <|> (CodePage.all.find? fun set => name ∈ set.names).map fun set => page set.characters

def ofName? (name : Text) : Option Charset :=
  let plain := plainName false (name.dropWhile fun c => !(c.isLetterOrDigit || c = '.'))
  find? plain <|> find? (plain.map fun (c : CodePoint) => if c = '.' then '_' else c)

def units16 (order : ByteOrder) : List UInt8 → List Nat
  | a :: b :: rest =>
    (match order with
      | .little => a.toNat + 256 * b.toNat
      | .big => 256 * a.toNat + b.toNat) :: units16 order rest
  | _ => []

/-- The text of units, where pairs of halves are one character. `odd` tells whether a byte is left
behind them. -/
def ofUnits16 (odd : Bool) : List Nat → Text
  | [] => if odd then [replacement] else []
  | [u] =>
    if (CodePoint.ofNat u).isHigh then [replacement]
    else (if (CodePoint.ofNat u).isLow then replacement else .ofNat u) :: ofUnits16 odd []
  | u :: v :: rest =>
    if (CodePoint.ofNat u).isHigh then
      if (CodePoint.ofNat v).isLow then .ofPair (.ofNat u) (.ofNat v) :: ofUnits16 odd rest
      else replacement :: ofUnits16 odd (v :: rest)
    else
      (if (CodePoint.ofNat u).isLow then replacement else .ofNat u) :: ofUnits16 odd (v :: rest)

def decode16 (order : ByteOrder) (data : List UInt8) : Text :=
  ofUnits16 (data.length % 2 = 1) (units16 order data)

def decode32 (order : ByteOrder) : List UInt8 → Text
  | a :: b :: c :: d :: rest =>
    let (low, high) := match order with
      | .little => (a.toNat + 256 * b.toNat, c.toNat + 256 * d.toNat)
      | .big => (256 * c.toNat + d.toNat, 256 * a.toNat + b.toNat)
    let n := 65536 * high + low
    (if 0x110000 ≤ n ∨ (0xd800 ≤ n ∧ n < 0xe000) then replacement else .ofNat n)
      :: decode32 order rest
  | [] => []
  | _ => [replacement]

def pageCharacter (characters : List Char) (b : UInt8) : CodePoint :=
  let n := b.toNat
  if 256 ≤ characters.length then .char (characters.getD n '\ufffd')
  else if n < 128 then .ofNat n
  else .char (characters.getD (n - 128) '\ufffd')

def decode (set : Charset) (data : List UInt8) : Except CharsetError Text :=
  match set with
  | ascii => .ok (data.map fun b => if b < 128 then .ofNat b.toNat else replacement)
  | latin => .ok (data.map fun b => .ofNat b.toNat)
  | utf8 => .ok (Text.ofUtf8 data)
  | markedUtf8 =>
    match data with
    | 0xef :: 0xbb :: 0xbf :: rest => .ok (Text.ofUtf8 rest)
    | data => .ok (Text.ofUtf8 data)
  | utf16 order => .ok (decode16 order data)
  | utf32 order => .ok (decode32 order data)
  | markedUtf16 =>
    match data with
    | 0xff :: 0xfe :: rest => .ok (decode16 .little rest)
    | 0xfe :: 0xff :: rest => .ok (decode16 .big rest)
    | data => if data.length < 2 then .ok (decode16 .little data) else .error .unreadable
  | markedUtf32 =>
    match data with
    | 0xff :: 0xfe :: 0 :: 0 :: rest => .ok (decode32 .little rest)
    | 0 :: 0 :: 0xfe :: 0xff :: rest => .ok (decode32 .big rest)
    | data => if data.length < 4 then .ok (decode32 .little data) else .error .unreadable
  | page characters =>
    let characters := characters.toList
    .ok (data.map (pageCharacter characters))
  | refused e => .error e

end Charset

end ApiModel
