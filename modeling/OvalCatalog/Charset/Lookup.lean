import OvalCatalog.Charset.Dos
import OvalCatalog.Charset.Macintosh
import OvalCatalog.Charset.National
import OvalCatalog.Charset.Standard
import OvalCatalog.Charset.Windows
import OvalCatalog.Text.Lines
import OvalCatalog.Text.Quoted

namespace OvalCatalog.Charset

inductive LookupError where
  | unknown (name : String)
  | transformation (name : String)
  | multiByte
  | incompatible
  | unreplaceable (name : String)
  | alwaysFails (name : String)
  | asciiOnly

namespace LookupError

def failure (name cause : String) : String :=
  "decoding with '" ++ name ++ "' codec failed (UnicodeError: " ++ cause ++ ")"

def message : LookupError → String
  | unknown name => "unknown encoding: " ++ name
  | transformation name =>
    "'" ++ name ++ "' is not a text encoding; use codecs.decode() to handle arbitrary codecs"
  | multiByte => "multi-byte encodings are not supported"
  | incompatible => "unknown encoding"
  | unreplaceable name => failure name "Unsupported error handling replace"
  | alwaysFails name => failure name "undefined encoding"
  | asciiOnly => "'ascii' codec can't decode byte 0x80 in position 82: ordinal not in range(128)"

end LookupError

def all : List Charset :=
  allStandard ++ allWindows ++ allDos ++ allMacintosh ++ allNational

def multiByteNames : List String :=
  ["big5", "big5hkscs", "cp932", "cp949", "cp950", "euc_jis_2004", "euc_jisx0213", "euc_jp", "euc_kr",
   "gb18030", "gb2312", "gbk", "iso2022_kr", "johab", "shift_jis", "shift_jis_2004", "shift_jisx0213",
   "utf_16", "utf_16_be", "utf_16_le", "utf_32", "utf_32_be", "utf_32_le", "utf_7"]

def multiByteAliases : List String :=
  ["big5_hkscs", "big5_tw", "chinese", "cp1361", "cp936", "csbig5", "csiso2022kr", "csiso58gb231280",
   "csshiftjis", "euc_cn", "euc_jis2004", "euccn", "eucgb2312_cn", "eucjis2004", "eucjisx0213", "eucjp",
   "euckr", "gb18030_2000", "gb2312_1980", "gb2312_80", "hkscs", "iso2022kr", "iso_2022_kr", "iso_ir_58",
   "jisx0213", "korean", "ks_c_5601", "ks_c_5601_1987", "ks_x_1001", "ksc5601", "ksx1001", "ms1361",
   "ms932", "ms936", "ms949", "ms950", "ms_kanji", "mskanji", "s_jis", "s_jis_2004", "s_jisx0213",
   "shiftjis", "shiftjis2004", "shiftjisx0213", "sjis", "sjis_2004", "sjisx0213", "u16", "u32", "u7",
   "u_jis", "uhc", "ujis", "unicode_1_1_utf_7", "unicodebigunmarked", "unicodelittleunmarked", "utf16",
   "utf32", "utf7", "utf_16be", "utf_16le", "utf_32be", "utf_32le", "x_mac_japanese", "x_mac_korean",
   "x_mac_simp_chinese", "x_mac_trad_chinese"]

def transformationNames : List String :=
  ["base64_codec", "bz2_codec", "hex_codec", "quopri_codec", "rot_13", "uu_codec", "zlib_codec"]

def transformationAliases : List String :=
  ["base64", "base_64", "bz2", "hex", "quopri", "quoted_printable", "quotedprintable", "rot13", "uu",
   "zip", "zlib"]

def incompatibleNames : List String :=
  ["cp037", "cp1026", "cp1140", "cp273", "cp424", "cp500", "cp864", "cp875", "mac_arabic", "mac_farsi"]

def incompatibleAliases : List String :=
  ["csibm037", "csibm1026", "csibm273", "csibm424", "csibm500", "csibm864", "ebcdic_cp_be", "ebcdic_cp_ca",
   "ebcdic_cp_ch", "ebcdic_cp_he", "ebcdic_cp_nl", "ebcdic_cp_us", "ebcdic_cp_wt", "ibm037", "ibm039",
   "ibm1026", "ibm1140", "ibm273", "ibm424", "ibm500", "ibm864"]

def normalName (name : String) : String :=
  let isPart := fun c => c.isAlphanum || c == '.'
  let parts := Text.words (!isPart ·) (name.toList.map Char.toLower)
  String.intercalate "_" (parts.map String.ofList)

def means (name : String) (names aliases : List String) : Bool :=
  let underscored := String.ofList (name.toList.map fun c => if c == '.' then '_' else c)
  names.contains name || aliases.contains name || aliases.contains underscored

def find (name : String) : Except LookupError Charset :=
  let key := normalName name
  match all.find? fun c => means key c.names c.aliases with
  | some c => .ok c
  | none =>
    .error
      (if means key multiByteNames multiByteAliases then .multiByte
      else if means key transformationNames transformationAliases then .transformation name
      else if means key incompatibleNames incompatibleAliases then .incompatible
      else if key == "idna" then .unreplaceable name
      else if key == "undefined" then .alwaysFails name
      else if key == "punycode" then .asciiOnly
      else .unknown name)

end OvalCatalog.Charset
