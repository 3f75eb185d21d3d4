import Mustache.Text.CodePage
import Mustache.Text.Utf16
import Mustache.Text.Utf8

/-!
# Encodings

The encodings that a template folder can be set to, found by any spelling of their names, and the
decoding of bytes under each of them; and the reading of every kind of line ending as a line feed.
-/

namespace Mustache

/-- The known encodings. -/
inductive Encoding
  | utf8
  /-- UTF-8 whose leading byte-order mark is dropped. -/
  | utf8Marked
  /-- UTF-16; without an order, a mark at the front tells it. -/
  | utf16 (order : Option ByteOrder)
  /-- UTF-32; without an order, a mark at the front tells it. -/
  | utf32 (order : Option ByteOrder)
  | ascii
  | latin1
  | page (p : CodePage)
deriving DecidableEq, Repr

/-- Why a name or some bytes do not go with an encoding. -/
inductive EncodingProblem
  /-- No encoding has the name. -/
  | unknown
  /-- An encoding has the name whose characters are not given here. -/
  | untabled
  /-- The name holds the null character. -/
  | nullInName
  /-- The bytes that should start with a byte-order mark do not. -/
  | unmarked
  | fault (f : DecodeFault)
deriving DecidableEq, Repr

namespace Encoding

/-- A name with lower-case letters and single underscores for everything between its letters, digits
and points. -/
def normalized (name : String) : List Char :=
  let keep (c : Char) : Bool := c.isAlphanum || c == '.'
  let spaced := name.toList.map fun c => if keep c then c.toLower else ' '
  let words := (spaced.splitOnP (· == ' ')).filter (· ≠ [])
  (words.intersperse ['_']).flatten

/-- The encodings that are no code pages, with their own names and their other names. -/
def named : List (Encoding × String × List String) :=
  [(.utf8, "utf_8", ["utf8", "u8", "utf", "utf8_ucs2", "utf8_ucs4", "cp65001"]),
   (.utf8Marked, "utf_8_sig", []),
   (.utf16 none, "utf_16", ["u16", "utf16"]),
   (.utf16 (some .little), "utf_16_le", ["unicodelittleunmarked", "utf_16le"]),
   (.utf16 (some .big), "utf_16_be", ["unicodebigunmarked", "utf_16be"]),
   (.utf32 none, "utf_32", ["u32", "utf32"]),
   (.utf32 (some .little), "utf_32_le", ["utf_32le"]),
   (.utf32 (some .big), "utf_32_be", ["utf_32be"]),
   (.ascii, "ascii", ["646", "ansi_x3.4_1968", "ansi_x3_4_1968", "ansi_x3.4_1986", "cp367",
     "csascii", "ibm367", "iso646_us", "iso_646.irv_1991", "iso_ir_6", "us", "us_ascii"]),
   (.latin1, "latin_1", ["8859", "cp819", "csisolatin1", "ibm819", "iso8859", "iso8859_1",
     "iso_8859_1", "iso_8859_1_1987", "iso_ir_100", "l1", "latin", "latin1"]),
   (.latin1, "charmap", [])]

/-- The encodings whose characters are not given here, with their own names and their other names.
Files in them can be read; of what is read, nothing is said. -/
def untabled : List (String × List String) :=
  [("big5", ["big5_tw", "csbig5", "x_mac_trad_chinese"]), ("big5hkscs", ["big5_hkscs", "hkscs"]),
   ("cp037", ["037", "csibm037", "ebcdic_cp_ca", "ebcdic_cp_nl", "ebcdic_cp_us", "ebcdic_cp_wt",
     "ibm037", "ibm039"]),
   ("cp1006", []), ("cp1026", ["1026", "csibm1026", "ibm1026"]),
   ("cp1125", ["1125", "cp866u", "ibm1125", "ruscii"]), ("cp1140", ["1140", "ibm1140"]),
   ("cp273", ["273", "csibm273", "ibm273"]),
   ("cp424", ["424", "csibm424", "ebcdic_cp_he", "ibm424"]),
   ("cp500", ["500", "csibm500", "ebcdic_cp_be", "ebcdic_cp_ch", "ibm500"]), ("cp720", []),
   ("cp737", []), ("cp775", ["775", "cspc775baltic", "ibm775"]), ("cp856", []),
   ("cp857", ["857", "csibm857", "ibm857"]), ("cp858", ["858", "csibm858", "ibm858"]),
   ("cp860", ["860", "csibm860", "ibm860"]), ("cp861", ["861", "cp_is", "csibm861", "ibm861"]),
   ("cp862", ["862", "cspc862latinhebrew", "ibm862"]), ("cp863", ["863", "csibm863", "ibm863"]),
   ("cp864", ["864", "csibm864", "ibm864"]), ("cp865", ["865", "csibm865", "ibm865"]),
   ("cp869", ["869", "cp_gr", "csibm869", "ibm869"]), ("cp874", []), ("cp875", []),
   ("cp932", ["932", "ms932", "ms_kanji", "mskanji"]), ("cp949", ["949", "ms949", "uhc"]),
   ("cp950", ["950", "ms950"]), ("euc_jis_2004", ["euc_jis2004", "eucjis2004", "jisx0213"]),
   ("euc_jisx0213", ["eucjisx0213"]), ("euc_jp", ["eucjp", "u_jis", "ujis"]),
   ("euc_kr", ["euckr", "korean", "ks_c_5601", "ks_c_5601_1987", "ks_x_1001", "ksc5601",
     "ksx1001", "x_mac_korean"]),
   ("gb18030", ["gb18030_2000"]),
   ("gb2312", ["chinese", "csiso58gb231280", "euc_cn", "euccn", "eucgb2312_cn", "gb2312_1980",
     "gb2312_80", "iso_ir_58", "x_mac_simp_chinese"]),
   ("gbk", ["936", "cp936", "ms936"]), ("hp_roman8", ["cp1051", "ibm1051", "r8", "roman8"]),
   ("hz", ["hz_gb", "hz_gb_2312", "hzgb"]), ("idna", []),
   ("iso2022_jp", ["csiso2022jp", "iso2022jp", "iso_2022_jp"]),
   ("iso2022_jp_1", ["iso2022jp_1", "iso_2022_jp_1"]),
   ("iso2022_jp_2", ["iso2022jp_2", "iso_2022_jp_2"]),
   ("iso2022_jp_2004", ["iso2022jp_2004", "iso_2022_jp_2004"]),
   ("iso2022_jp_3", ["iso2022jp_3", "iso_2022_jp_3"]),
   ("iso2022_jp_ext", ["iso2022jp_ext", "iso_2022_jp_ext"]),
   ("iso2022_kr", ["csiso2022kr", "iso2022kr", "iso_2022_kr"]), ("johab", ["cp1361", "ms1361"]),
   ("koi8_t", []), ("kz1048", ["kz_1048", "rk1048", "strk1048_2002"]), ("mac_arabic", []),
   ("mac_croatian", []), ("mac_farsi", []), ("mac_greek", ["macgreek"]),
   ("mac_iceland", ["maciceland"]),
   ("mac_latin2", ["mac_centeuro", "maccentraleurope", "maclatin2"]), ("mac_romanian", []),
   ("mac_turkish", ["macturkish"]), ("palmos", []),
   ("ptcp154", ["cp154", "csptcp154", "cyrillic_asian", "pt154"]), ("punycode", []),
   ("raw_unicode_escape", []),
   ("shift_jis", ["csshiftjis", "s_jis", "shiftjis", "sjis", "x_mac_japanese"]),
   ("shift_jis_2004", ["s_jis_2004", "shiftjis2004", "sjis_2004"]),
   ("shift_jisx0213", ["s_jisx0213", "shiftjisx0213", "sjisx0213"]),
   ("tis_620", ["iso_ir_166", "tis620", "tis_620_0", "tis_620_2529_0", "tis_620_2529_1"]),
   ("undefined", []), ("unicode_escape", []), ("utf_7", ["u7", "unicode_1_1_utf_7", "utf7"])]

/-- Whether a name in its normal spelling is an encoding's own name or one of its other names, in
which points may stand for underscores. -/
def isNamed (wanted : List Char) (own : String) (others : List String) : Bool :=
  let unpointed := wanted.map fun c => if c == '.' then '_' else c
  own == String.ofList wanted || others.contains (String.ofList wanted)
    || others.contains (String.ofList unpointed)

/-- The name by which the encoding of the surroundings goes, in this spelling alone. -/
def ofSurroundings : String := "locale"

/-- The encoding with a name, in any spelling. -/
def ofName (name : String) : Except EncodingProblem Encoding :=
  let wanted := normalized name
  if name = ofSurroundings then .ok .utf8
  else if name.toList.contains '\x00' then .error .nullInName
  else
    match named.find? fun entry => isNamed wanted entry.2.1 entry.2.2 with
    | some entry => .ok entry.1
    | none =>
      match CodePage.all.find? fun p => isNamed wanted p.name p.others with
      | some p => .ok (.page p)
      | none =>
        if untabled.any fun entry => isNamed wanted entry.1 entry.2 then .error .untabled
        else .error .unknown

end Encoding

namespace Text

/-- Decodes bytes of which each is a character of its own or none. -/
def decodeBytes (encoding reason : String) (char? : UInt8 → Option Char) (position : Nat) :
    List UInt8 → Decoded
  | [] => .ok []
  | b :: rest =>
    match char? b with
    | some c => (decodeBytes encoding reason char? (position + 1) rest).map (c :: ·)
    | none => .error ⟨encoding, b, position, position + 1, reason⟩

/-- Decodes UTF-8 without its byte-order mark; a part of the mark alone is no text either. -/
def decodeMarkedUtf8 : List UInt8 → Decoded
  | [0xef] | [0xef, 0xbb] => .ok []
  | 0xef :: 0xbb :: 0xbf :: rest => decodeUtf8 0 0 rest
  | bytes => decodeUtf8 0 0 bytes

/-- Decodes bytes whose order a mark of some width tells. Bytes without a mark that are in order
otherwise are refused. -/
def decodeMarked (mark? : Option ByteOrder) (width : Nat)
    (decodeFrom : ByteOrder → Nat → List UInt8 → Decoded) (bytes : List UInt8) :
    Except EncodingProblem (List Char) :=
  match mark? with
  | some order => (decodeFrom order width (bytes.drop width)).mapError .fault
  | none =>
    match decodeFrom .little 0 bytes with
    | .error f => .error (.fault f)
    | .ok _ => if bytes = [] then .ok [] else .error .unmarked

/-- Decodes bytes. -/
def decode (encoding : Encoding) (bytes : List UInt8) : Except EncodingProblem (List Char) :=
  match encoding with
  | .utf8 => (decodeUtf8 0 0 bytes).mapError .fault
  | .utf8Marked => (decodeMarkedUtf8 bytes).mapError .fault
  | .utf16 (some order) => (decodeUtf16 order 0 bytes).mapError .fault
  | .utf16 none => decodeMarked (orderOfMark16? bytes) 2 decodeUtf16 bytes
  | .utf32 (some order) => (decodeUtf32 order 0 bytes).mapError .fault
  | .utf32 none => decodeMarked (orderOfMark32? bytes) 4 decodeUtf32 bytes
  | .ascii =>
    (decodeBytes "ascii" "ordinal not in range(128)"
      (fun b => if b.toNat < 128 then some (Char.ofNat b.toNat) else none) 0 bytes).mapError .fault
  | .latin1 => .ok (bytes.map fun b => Char.ofNat b.toNat)
  | .page p =>
    (decodeBytes "charmap" "character maps to <undefined>" p.char? 0 bytes).mapError .fault

/-- A text in which every line ending is a line feed. -/
def unifyLines : List Char → List Char
  | [] => []
  | '\r' :: '\n' :: s => '\n' :: unifyLines s
  | '\r' :: s => '\n' :: unifyLines s
  | c :: s => c :: unifyLines s

end Text

end Mustache
