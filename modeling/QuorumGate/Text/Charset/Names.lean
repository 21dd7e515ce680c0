import QuorumGate.Text.Charset.Basic
import QuorumGate.Text.Charset.CodePage
import QuorumGate.Text.Charset.Ebcdic
import QuorumGate.Text.Charset.Iso8859
import QuorumGate.Text.Charset.Regional
import QuorumGate.Text.Charset.Windows

/-!
# Names of encodings

A name counts in any letter case, and whatever stands between its letters and digits counts as one
underscore. Other names come before own ones.
-/

namespace QuorumGate.Text.Charset

/-- An encoding with its own name and its other names. -/
structure Entry where
  name : String
  aliases : List String
  charset : Charset

def entries : List Entry :=
  [⟨"ascii",
     ["646", "ansi_x3.4_1968", "ansi_x3.4_1986", "ansi_x3_4_1968", "cp367", "csascii", "ibm367",
      "iso646_us", "iso_646.irv_1991", "iso_ir_6", "us", "us_ascii"], .ascii⟩,
   ⟨"base64_codec", ["base64", "base_64"], .unusable .strictOnly⟩,
   ⟨"big5", ["big5_tw", "csbig5", "x_mac_trad_chinese"], .multibyte .big5⟩,
   ⟨"bz2_codec", ["bz2"], .unusable .strictOnly⟩,
   ⟨"charmap", [], .latin1⟩,
   ⟨"cp037",
     ["037", "csibm037", "ebcdic_cp_ca", "ebcdic_cp_nl", "ebcdic_cp_us", "ebcdic_cp_wt",
      "ibm037", "ibm039"], .full Ebcdic.codePage037⟩,
   ⟨"cp1006", [], .upper CodePage.codePage1006⟩,
   ⟨"cp1026", ["1026", "csibm1026", "ibm1026"], .full Ebcdic.codePage1026⟩,
   ⟨"cp1125", ["1125", "cp866u", "ibm1125", "ruscii"], .upper CodePage.codePage1125⟩,
   ⟨"cp1140", ["1140", "ibm1140"], .full Ebcdic.codePage1140⟩,
   ⟨"cp1250", ["1250", "windows_1250"], .upper Windows.windows1250⟩,
   ⟨"cp1251", ["1251", "windows_1251"], .upper Windows.windows1251⟩,
   ⟨"cp1252", ["1252", "windows_1252"], .upper Windows.windows1252⟩,
   ⟨"cp1253", ["1253", "windows_1253"], .upper Windows.windows1253⟩,
   ⟨"cp1254", ["1254", "windows_1254"], .upper Windows.windows1254⟩,
   ⟨"cp1255", ["1255", "windows_1255"], .upper Windows.windows1255⟩,
   ⟨"cp1256", ["1256", "windows_1256"], .upper Windows.windows1256⟩,
   ⟨"cp1257", ["1257", "windows_1257"], .upper Windows.windows1257⟩,
   ⟨"cp1258", ["1258", "windows_1258"], .upper Windows.windows1258⟩,
   ⟨"cp273", ["273", "csibm273", "ibm273"], .full Ebcdic.codePage273⟩,
   ⟨"cp424", ["424", "csibm424", "ebcdic_cp_he", "ibm424"], .full Ebcdic.codePage424⟩,
   ⟨"cp437", ["437", "cspc8codepage437", "ibm437"], .upper CodePage.codePage437⟩,
   ⟨"cp500",
     ["500", "csibm500", "ebcdic_cp_be", "ebcdic_cp_ch", "ibm500"], .full Ebcdic.codePage500⟩,
   ⟨"cp720", [], .upper CodePage.codePage720⟩,
   ⟨"cp737", [], .upper CodePage.codePage737⟩,
   ⟨"cp775", ["775", "cspc775baltic", "ibm775"], .upper CodePage.codePage775⟩,
   ⟨"cp850", ["850", "cspc850multilingual", "ibm850"], .upper CodePage.codePage850⟩,
   ⟨"cp852", ["852", "cspcp852", "ibm852"], .upper CodePage.codePage852⟩,
   ⟨"cp855", ["855", "csibm855", "ibm855"], .upper CodePage.codePage855⟩,
   ⟨"cp856", [], .upper CodePage.codePage856⟩,
   ⟨"cp857", ["857", "csibm857", "ibm857"], .upper CodePage.codePage857⟩,
   ⟨"cp858", ["858", "csibm858", "ibm858"], .upper CodePage.codePage858⟩,
   ⟨"cp860", ["860", "csibm860", "ibm860"], .upper CodePage.codePage860⟩,
   ⟨"cp861", ["861", "cp_is", "csibm861", "ibm861"], .upper CodePage.codePage861⟩,
   ⟨"cp862", ["862", "cspc862latinhebrew", "ibm862"], .upper CodePage.codePage862⟩,
   ⟨"cp863", ["863", "csibm863", "ibm863"], .upper CodePage.codePage863⟩,
   ⟨"cp864", ["864", "csibm864", "ibm864"], .full CodePage.codePage864⟩,
   ⟨"cp865", ["865", "csibm865", "ibm865"], .upper CodePage.codePage865⟩,
   ⟨"cp866", ["866", "csibm866", "ibm866"], .upper CodePage.codePage866⟩,
   ⟨"cp869", ["869", "cp_gr", "csibm869", "ibm869"], .upper CodePage.codePage869⟩,
   ⟨"cp874", [], .upper Windows.codePage874⟩,
   ⟨"cp875", [], .full Ebcdic.codePage875⟩,
   ⟨"cp932", ["932", "ms932", "ms_kanji", "mskanji"], .multibyte .codePage932⟩,
   ⟨"cp949", ["949", "ms949", "uhc"], .multibyte .codePage949⟩,
   ⟨"cp950", ["950", "ms950"], .multibyte .codePage950⟩,
   ⟨"euc_jp", ["eucjp", "u_jis", "ujis"], .multibyte .eucJp⟩,
   ⟨"euc_kr",
     ["euckr", "korean", "ks_c_5601", "ks_c_5601_1987", "ks_x_1001", "ksc5601", "ksx1001",
      "x_mac_korean"], .multibyte .eucKr⟩,
   ⟨"gb18030", ["gb18030_2000"], .multibyte .gb18030⟩,
   ⟨"gb2312",
     ["chinese", "csiso58gb231280", "euc_cn", "euccn", "eucgb2312_cn", "gb2312_1980",
      "gb2312_80", "iso_ir_58", "x_mac_simp_chinese"], .multibyte .gb2312⟩,
   ⟨"gbk", ["936", "cp936", "ms936"], .multibyte .gbk⟩,
   ⟨"hex_codec", ["hex"], .unusable .strictOnly⟩,
   ⟨"hp_roman8", ["cp1051", "ibm1051", "r8", "roman8"], .upper Regional.roman8⟩,
   ⟨"idna", [], .unusable .unforgiving⟩,
   ⟨"iso8859_1", [], .latin1⟩,
   ⟨"iso8859_10",
     ["csisolatin6", "iso_8859_10", "iso_8859_10_1992", "iso_ir_157", "l6", "latin6"],
     .upper Iso8859.part10⟩,
   ⟨"iso8859_11", ["iso_8859_11", "iso_8859_11_2001", "thai"], .upper Iso8859.part11⟩,
   ⟨"iso8859_13", ["iso_8859_13", "l7", "latin7"], .upper Iso8859.part13⟩,
   ⟨"iso8859_14",
     ["iso_8859_14", "iso_8859_14_1998", "iso_celtic", "iso_ir_199", "l8", "latin8"],
     .upper Iso8859.part14⟩,
   ⟨"iso8859_15", ["iso_8859_15", "l9", "latin9"], .upper Iso8859.part15⟩,
   ⟨"iso8859_16",
     ["iso_8859_16", "iso_8859_16_2001", "iso_ir_226", "l10", "latin10"], .upper Iso8859.part16⟩,
   ⟨"iso8859_2",
     ["csisolatin2", "iso_8859_2", "iso_8859_2_1987", "iso_ir_101", "l2", "latin2"],
     .upper Iso8859.part2⟩,
   ⟨"iso8859_3",
     ["csisolatin3", "iso_8859_3", "iso_8859_3_1988", "iso_ir_109", "l3", "latin3"],
     .upper Iso8859.part3⟩,
   ⟨"iso8859_4",
     ["csisolatin4", "iso_8859_4", "iso_8859_4_1988", "iso_ir_110", "l4", "latin4"],
     .upper Iso8859.part4⟩,
   ⟨"iso8859_5",
     ["csisolatincyrillic", "cyrillic", "iso_8859_5", "iso_8859_5_1988", "iso_ir_144"],
     .upper Iso8859.part5⟩,
   ⟨"iso8859_6",
     ["arabic", "asmo_708", "csisolatinarabic", "ecma_114", "iso_8859_6", "iso_8859_6_1987",
      "iso_ir_127"], .upper Iso8859.part6⟩,
   ⟨"iso8859_7",
     ["csisolatingreek", "ecma_118", "elot_928", "greek", "greek8", "iso_8859_7",
      "iso_8859_7_1987", "iso_ir_126"], .upper Iso8859.part7⟩,
   ⟨"iso8859_8",
     ["csisolatinhebrew", "hebrew", "iso_8859_8", "iso_8859_8_1988", "iso_ir_138"],
     .upper Iso8859.part8⟩,
   ⟨"iso8859_9",
     ["csisolatin5", "iso_8859_9", "iso_8859_9_1989", "iso_ir_148", "l5", "latin5"],
     .upper Iso8859.part9⟩,
   ⟨"koi8_r", ["cskoi8r"], .upper Regional.koi8r⟩,
   ⟨"koi8_t", [], .upper Regional.koi8t⟩,
   ⟨"koi8_u", [], .upper Regional.koi8u⟩,
   ⟨"kz1048", ["kz_1048", "rk1048", "strk1048_2002"], .upper Regional.kz1048⟩,
   ⟨"latin_1",
     ["8859", "cp819", "csisolatin1", "ibm819", "iso8859", "iso8859_1", "iso_8859_1",
      "iso_8859_1_1987", "iso_ir_100", "l1", "latin", "latin1"], .latin1⟩,
   ⟨"mac_arabic", [], .upper Regional.macArabic⟩,
   ⟨"mac_croatian", [], .upper Regional.macCroatian⟩,
   ⟨"mac_cyrillic", ["maccyrillic"], .upper Regional.macCyrillic⟩,
   ⟨"mac_farsi", [], .upper Regional.macFarsi⟩,
   ⟨"mac_greek", ["macgreek"], .upper Regional.macGreek⟩,
   ⟨"mac_iceland", ["maciceland"], .upper Regional.macIceland⟩,
   ⟨"mac_latin2", ["mac_centeuro", "maccentraleurope", "maclatin2"], .upper Regional.macLatin2⟩,
   ⟨"mac_roman", ["macintosh", "macroman"], .upper Regional.macRoman⟩,
   ⟨"mac_romanian", [], .upper Regional.macRomanian⟩,
   ⟨"mac_turkish", ["macturkish"], .upper Regional.macTurkish⟩,
   ⟨"palmos", [], .upper Windows.palm⟩,
   ⟨"ptcp154", ["cp154", "csptcp154", "cyrillic_asian", "pt154"], .upper Regional.cyrillicAsian⟩,
   ⟨"quopri_codec", ["quopri", "quoted_printable", "quotedprintable"], .unusable .strictOnly⟩,
   ⟨"rot_13", ["rot13"], .unusable .textToText⟩,
   ⟨"shift_jis",
     ["csshiftjis", "s_jis", "shiftjis", "sjis", "x_mac_japanese"], .multibyte .shiftJis⟩,
   ⟨"tis_620",
     ["iso_ir_166", "tis620", "tis_620_0", "tis_620_2529_0", "tis_620_2529_1"], .upper
      Regional.tis620⟩,
   ⟨"undefined", [], .unusable .undefined⟩,
   ⟨"utf_16", ["u16", "utf16"], .utf16 none⟩,
   ⟨"utf_16_be", ["unicodebigunmarked", "utf_16be"], .utf16 (some .big)⟩,
   ⟨"utf_16_le", ["unicodelittleunmarked", "utf_16le"], .utf16 (some .little)⟩,
   ⟨"utf_32", ["u32", "utf32"], .utf32 none⟩,
   ⟨"utf_32_be", ["utf_32be"], .utf32 (some .big)⟩,
   ⟨"utf_32_le", ["utf_32le"], .utf32 (some .little)⟩,
   ⟨"utf_7", ["u7", "unicode_1_1_utf_7", "utf7"], .utf7⟩,
   ⟨"utf_8", ["cp65001", "u8", "utf", "utf8", "utf8_ucs2", "utf8_ucs4"], .utf8 false⟩,
   ⟨"utf_8_sig", [], .utf8 true⟩,
   ⟨"uu_codec", ["uu"], .unusable .strictOnly⟩,
   ⟨"zlib_codec", ["zip", "zlib"], .unusable .strictOnly⟩]

/-- Joins what is left of a name by underscores. The flag tells whether something has been left
out since the last character, and whether there has been one is told by `acc`. -/
def joinName (acc : List Char) (gap : Bool) : List Char → List Char
  | [] => acc.reverse
  | c :: rest =>
    if c.isAlphanum || c == '.' then
      joinName (c.toLower :: if gap && !acc.isEmpty then '_' :: acc else acc) false rest
    else joinName acc true rest

def normalized (name : String) : String := String.ofList (joinName [] false name.toList)

def byAlias? (name : String) : Option Charset :=
  (entries.find? (·.aliases.contains name)).map Entry.charset

/-- The encoding of a name. A point in another name may be written as an underscore. -/
def ofName? (name : String) : Option Charset :=
  let n := normalized name
  byAlias? n <|> byAlias? (n.map fun c => if c = '.' then '_' else c) <|>
    (entries.find? (·.name == n)).map Entry.charset

end QuorumGate.Text.Charset
