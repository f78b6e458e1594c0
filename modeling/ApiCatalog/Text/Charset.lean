import ApiCatalog.Text.Basic
import ApiCatalog.Text.Charset.SingleByte
import ApiCatalog.Text.Charset.Spelled
import ApiCatalog.Text.Charset.Switching

set_option autoImplicit false

namespace ApiCatalog.Text

inductive CharsetFault
  | packing
  | hiding
  | undefined
  | unmarked
  | unfinished
  | digits
  deriving DecidableEq, Repr

inductive Charset
  | utf8
  | markedUtf8
  | utf7
  | utf16 (order : Option ByteOrder)
  | utf32 (order : Option ByteOrder)
  | ascii
  | singleByte (table : String)
  | eastern (charset : EasternCharset)
  | switching (rules : EscapeRules)
  | tildes
  | escapes (raw : Bool)
  | punycode
  | unusable (fault : CharsetFault)
  deriving DecidableEq, Repr

namespace Charset

def japaneseSets : List (Bool × Char × CodedSet) :=
  [(true, 'B', .jis), (true, '@', .jis), (false, 'J', .roman)]

def moreSets : List (Bool × Char × CodedSet) := (true, 'D', .jisMore) :: japaneseSets

def escaped : List (String × EscapeRules) :=
  [("iso2022_jp csiso2022jp iso2022jp iso_2022_jp",
    { sets := japaneseSets, announces := true }),
   ("iso2022_jp_1 iso2022jp_1 iso_2022_jp_1", { sets := moreSets, announces := true }),
   ("iso2022_jp_2 iso2022jp_2 iso_2022_jp_2",
    { sets := moreSets ++ [(true, 'C', .korean), (true, 'A', .chinese), (false, 'A', .latin),
        (false, 'F', .greek)]
      third := true, announces := true }),
   ("iso2022_jp_3 iso2022jp_3 iso_2022_jp_3",
    { sets := [(true, 'B', .jis), (true, 'O', .newJis .first), (true, 'P', .secondJis)]
      announces := true }),
   ("iso2022_jp_2004 iso_2022_jp_2004 iso2022jp_2004",
    { sets := [(true, 'B', .jis), (true, 'Q', .newJis .second), (true, 'P', .secondJis)]
      announces := true }),
   ("iso2022_jp_ext iso2022jp_ext iso_2022_jp_ext",
    { sets := (false, 'I', .kana) :: moreSets, announces := true }),
   ("iso2022_kr csiso2022kr iso2022kr iso_2022_kr",
    { sets := [(true, 'C', .korean)], shifts := true })]

def named : List (String × Charset) :=
  [("utf_8 u8 utf utf8 utf8_ucs2 utf8_ucs4 cp65001", .utf8), ("utf_8_sig", .markedUtf8),
   ("utf_7 u7 utf7 unicode_1_1_utf_7", .utf7), ("utf_16 u16 utf16", .utf16 none),
   ("utf_16_le unicodelittleunmarked utf_16le", .utf16 (some .little)),
   ("utf_16_be unicodebigunmarked utf_16be", .utf16 (some .big)),
   ("utf_32 u32 utf32", .utf32 none), ("utf_32_le utf_32le", .utf32 (some .little)),
   ("utf_32_be utf_32be", .utf32 (some .big)),
   ("ascii 646 ansi_x3.4_1968 ansi_x3_4_1968 ansi_x3.4_1986 cp367 csascii ibm367 iso646_us " ++
    "iso_646.irv_1991 iso_ir_6 us us_ascii", .ascii),
   ("base64_codec base64 base_64", .unusable .packing), ("hex_codec hex", .unusable .packing),
   ("quopri_codec quopri quoted_printable quotedprintable", .unusable .packing),
   ("uu_codec uu", .unusable .packing), ("bz2_codec bz2", .unusable .packing),
   ("zlib_codec zip zlib", .unusable .packing),
   ("rot_13 rot13", .unusable .hiding), ("idna", .unusable .undefined),
   ("undefined", .unusable .undefined),
   ("gb2312 chinese csiso58gb231280 euc_cn euccn eucgb2312_cn gb2312_1980 gb2312_80 " ++
    "iso_ir_58 x_mac_simp_chinese", .eastern .gb2312),
   ("gbk 936 cp936 ms936", .eastern .gbk), ("gb18030 gb18030_2000", .eastern .gb18030),
   ("big5 big5_tw csbig5 x_mac_trad_chinese", .eastern .big5),
   ("cp950 950 ms950", .eastern .changedBig5),
   ("big5hkscs big5_hkscs hkscs", .eastern .hongKong),
   ("shift_jis csshiftjis shiftjis sjis s_jis x_mac_japanese", .eastern .shiftJis),
   ("cp932 932 ms932 mskanji ms_kanji", .eastern .vendorJis),
   ("euc_jp eucjp ujis u_jis", .eastern .eucJp),
   ("euc_kr euckr korean ksc5601 ks_c_5601 ks_c_5601_1987 ksx1001 ks_x_1001 x_mac_korean",
    .eastern .eucKr),
   ("cp949 949 ms949 uhc", .eastern .unifiedKorean),
   ("johab cp1361 ms1361", .eastern .johab),
   ("euc_jis_2004 jisx0213 eucjis2004 euc_jis2004", .eastern (.newEucJis .second)),
   ("euc_jisx0213 eucjisx0213", .eastern (.newEucJis .first)),
   ("shift_jis_2004 shiftjis2004 sjis_2004 s_jis_2004", .eastern (.newShiftJis .second)),
   ("shift_jisx0213 shiftjisx0213 sjisx0213 s_jisx0213", .eastern (.newShiftJis .first)),
   ("hz hzgb hz_gb hz_gb_2312", .tildes), ("unicode_escape", .escapes false),
   ("raw_unicode_escape", .escapes true), ("punycode", .punycode)] ++
    escaped.map (fun (names, rules) => (names, .switching rules)) ++
    singleByteTables.map fun (names, table) => (names, .singleByte table)

def plainName (name : String) : List Char :=
  let parts := name.toList.splitOnP fun c => !c.isAlphanum && c != '.'
  ['_'].intercalate (parts.filter (!·.isEmpty))

-- Case does not count, nor a dot in place of an underscore, unless it is in a main name.
def ofName? (name : String) : Option Charset :=
  let name := (plainName name).map Char.toLower
  let undotted := name.map fun c => if c = '.' then '_' else c
  (named.find? fun (names, _) =>
    let names := names.toList.splitOn ' '
    names.contains name || (names.drop 1).contains undotted).map (·.2)

def tableChar (table : Array Char) (b : UInt8) : Char :=
  if table.size = 256 then table.getD b.toNat replacement
  else if b < 128 then Char.ofNat b.toNat
  else table.getD (b.toNat - 128) replacement

-- Reads a mark in front of the bytes, which may only be missing if there is no full unit.
def readMarked (size : Nat) (decode : ByteOrder → List UInt8 → List Char) (bytes : List UInt8) :
    Except CharsetFault (List Char) :=
  let mark := bytes.take size
  if ByteOrder.number .little mark = 0xfeff ∧ mark.length = size then
    .ok (decode .little (bytes.drop size))
  else if ByteOrder.number .big mark = 0xfeff ∧ mark.length = size then
    .ok (decode .big (bytes.drop size))
  else if bytes.length < size then .ok (decode .little bytes)
  else .error .unmarked

def reread (text : String) : Charset → Except CharsetFault (List Char)
  | utf8 => .ok text.toList
  | markedUtf8 =>
    match text.toList with
    | '\ufeff' :: rest => .ok rest
    | cs => .ok cs
  | charset =>
    let bytes := text.toUTF8.toList
    if bytes.isEmpty then .ok []
    else
      match charset with
      | utf7 => .ok (decodeUtf7 bytes)
      | utf16 (some order) => .ok (decodeUtf16 order bytes)
      | utf16 none => readMarked 2 decodeUtf16 bytes
      | utf32 (some order) => .ok (decodeUtf32 order bytes)
      | utf32 none => readMarked 4 decodeUtf32 bytes
      | eastern charset => .ok (charset.decode bytes)
      | switching rules => (rules.decode? bytes).elim (.error .unfinished) .ok
      | tildes => (decodeTildes? bytes).elim (.error .unfinished) .ok
      | escapes raw => .ok (decodeEscapes raw bytes)
      | punycode => (decodePunycode? bytes).elim (.error .digits) .ok
      | singleByte table => .ok (bytes.map (tableChar table.toList.toArray))
      | unusable fault => .error fault
      | _ => .ok (bytes.map fun b => if b < 128 then Char.ofNat b.toNat else replacement)

end Charset

end ApiCatalog.Text
