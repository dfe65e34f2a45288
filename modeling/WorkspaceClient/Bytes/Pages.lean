/-
  This file lists the character sets in which each byte is a
  character. The bytes below 0x80 are those of ASCII in all
  of these sets; the others are in a table for each set. A
  byte without a character is replaced.

  Key definitions include:
    * `Charset.Page`
    * `Charset.pages`
-/

namespace WorkspaceClient
namespace Charset

------------------------------------------------------------
-- Tables
------------------------------------------------------------

/-
  A character set: its names, in lower case, and the
  characters of its bytes from 0x80 on.
-/
structure Page where
  names : List String
  upper : List Char

namespace Page

/- A set with these characters, row by row. -/
def ofRows
    (names rows : List String) : Page where
  names := names
  upper := rows.flatMap String.toList

/- The control characters from 0x80 on. -/
def controls : List Char :=
  (List.range 32).map fun n => Char.ofNat (0x80 + n)

/- A set that has these characters behind the controls. -/
def withControls
    (names rows : List String) : Page where
  names := names
  upper := controls ++ rows.flatMap String.toList

end Page

------------------------------------------------------------
-- Sets
------------------------------------------------------------

/- The sets that are known by name. -/
def pages : List Page :=
  [ .ofRows
      ["866", "cp866", "csibm866", "ibm866"]
      ["АБВГДЕЖЗИЙКЛМНОПРСТУФХЦЧШЩЪЫЬЭЮЯабвгдежзийклмноп░▒▓│┤╡",
        "╢╖╕╣║╗╝╜╛┐└┴┬├─┼╞╟╚╔╩╦╠═╬╧╨╤╥╙╘╒╓╫╪┘┌█▄▌▐▀рстуфхцчшщъы",
        "ьэюяЁёЄєЇїЎў°∙·√№¤■\xa0"],
    -- Central European
    .withControls
      ["csisolatin2", "iso-8859-2", "iso-ir-101", "iso8859-2",
       "iso88592", "iso_8859-2", "iso_8859-2:1987", "l2",
       "latin2"]
      ["\xa0Ą˘Ł¤ĽŚ§¨ŠŞŤŹ\xadŽŻ°ą˛ł´ľś\u02c7¸šşťź˝žżŔÁÂĂÄĹĆÇČÉĘ",
        "ËĚÍÎĎĐŃŇÓÔŐÖ×ŘŮÚŰÜÝŢßŕáâăäĺćçčéęëěíîďđńňóôőö÷řůúűüýţ˙"],
    -- Southern European
    .withControls
      ["csisolatin3", "iso-8859-3", "iso-ir-109", "iso8859-3",
       "iso88593", "iso_8859-3", "iso_8859-3:1988", "l3",
       "latin3"]
      ["\xa0Ħ˘£¤\ufffdĤ§¨İŞĞĴ\xad\ufffdŻ°ħ²³´µĥ·¸ışğĵ½\ufffdżÀ",
        "ÁÂ\ufffdÄĊĈÇÈÉÊËÌÍÎÏ\ufffdÑÒÓÔĠÖ×ĜÙÚÛÜŬŜßàáâ\ufffdäċĉç",
        "èéêëìíîï\ufffdñòóôġö÷ĝùúûüŭŝ˙"],
    -- Northern European
    .withControls
      ["csisolatin4", "iso-8859-4", "iso-ir-110", "iso8859-4",
       "iso88594", "iso_8859-4", "iso_8859-4:1988", "l4",
       "latin4"]
      ["\xa0ĄĸŖ¤ĨĻ§¨ŠĒĢŦ\xadŽ¯°ą˛ŗ´ĩļ\u02c7¸šēģŧŊžŋĀÁÂÃÄÅÆĮČÉĘ",
        "ËĖÍÎĪĐŅŌĶÔÕÖ×ØŲÚÛÜŨŪßāáâãäåæįčéęëėíîīđņōķôõö÷øųúûüũū˙"],
    -- Cyrillic
    .withControls
      ["csisolatincyrillic", "cyrillic", "iso-8859-5",
       "iso-ir-144", "iso8859-5", "iso88595", "iso_8859-5",
       "iso_8859-5:1988"]
      ["\xa0ЁЂЃЄЅІЇЈЉЊЋЌ\xadЎЏАБВГДЕЖЗИЙКЛМНОПРСТУФХЦЧШЩЪЫЬЭЮЯ",
        "абвгдежзийклмнопрстуфхцчшщъыьэюя№ёђѓєѕіїјљњћќ§ўџ"],
    -- Arabic
    .withControls
      ["arabic", "asmo-708", "csiso88596e", "csiso88596i",
       "csisolatinarabic", "ecma-114", "iso-8859-6",
       "iso-8859-6-e", "iso-8859-6-i", "iso-ir-127",
       "iso8859-6", "iso88596", "iso_8859-6", "iso_8859-6:1987"]
      ["\xa0\ufffd\ufffd\ufffd¤\ufffd\ufffd\ufffd\ufffd\ufffd",
        "\ufffd\ufffd،\xad\ufffd\ufffd\ufffd\ufffd\ufffd\ufffd",
        "\ufffd\ufffd\ufffd\ufffd\ufffd\ufffd\ufffd\u061b\ufffd",
        "\ufffd\ufffd\u061f\ufffd\u0621\u0622\u0623\u0624\u0625",
        "\u0626\u0627\u0628\u0629\u062a\u062b\u062c\u062d\u062e",
        "\u062f\u0630\u0631\u0632\u0633\u0634\u0635\u0636\u0637",
        "\u0638\u0639\u063a\ufffd\ufffd\ufffd\ufffd\ufffd\u0640",
        "\u0641\u0642\u0643\u0644\u0645\u0646\u0647\u0648\u0649",
        "\u064a\u064b\u064c\u064d\u064e\u064f\u0650\u0651\u0652",
        "\ufffd\ufffd\ufffd\ufffd\ufffd\ufffd\ufffd\ufffd\ufffd",
        "\ufffd\ufffd\ufffd\ufffd"],
    -- Greek
    .withControls
      ["csisolatingreek", "ecma-118", "elot_928", "greek",
       "greek8", "iso-8859-7", "iso-ir-126", "iso8859-7",
       "iso88597", "iso_8859-7", "iso_8859-7:1987",
       "sun_eu_greek"]
      ["\xa0‘’£€₯¦§¨©\u037a«¬\xad\ufffd―°±²³΄΅Ά·ΈΉΊ»Ό½ΎΏΐΑΒΓΔΕ",
        "ΖΗΘΙΚΛΜΝΞΟΠΡ\ufffdΣΤΥΦΧΨΩΪΫάέήίΰαβγδεζηθικλμνξοπρςστυφ",
        "χψωϊϋόύώ\ufffd"],
    -- Hebrew
    .withControls
      ["csiso88598e", "csisolatinhebrew", "hebrew",
       "iso-8859-8", "iso-8859-8-e", "iso-ir-138", "iso8859-8",
       "iso88598", "iso_8859-8", "iso_8859-8:1988", "visual",
       "csiso88598i", "iso-8859-8-i", "logical"]
      ["\xa0\ufffd¢£¤¥¦§¨©×«¬\xad®¯°±²³´µ¶·¸¹÷»¼½¾\ufffd\ufffd",
        "\ufffd\ufffd\ufffd\ufffd\ufffd\ufffd\ufffd\ufffd\ufffd",
        "\ufffd\ufffd\ufffd\ufffd\ufffd\ufffd\ufffd\ufffd\ufffd",
        "\ufffd\ufffd\ufffd\ufffd\ufffd\ufffd\ufffd\ufffd\ufffd",
        "\ufffd\ufffd\ufffd‗\u05d0\u05d1\u05d2\u05d3\u05d4",
        "\u05d5\u05d6\u05d7\u05d8\u05d9\u05da\u05db\u05dc\u05dd",
        "\u05de\u05df\u05e0\u05e1\u05e2\u05e3\u05e4\u05e5\u05e6",
        "\u05e7\u05e8\u05e9\u05ea\ufffd\ufffd\u200e\u200f\ufffd"],
    -- Nordic
    .withControls
      ["csisolatin6", "iso-8859-10", "iso-ir-157", "iso8859-10",
       "iso885910", "l6", "latin6"]
      ["\xa0ĄĒĢĪĨĶ§ĻĐŠŦŽ\xadŪŊ°ąēģīĩķ·ļđšŧž―ūŋĀÁÂÃÄÅÆĮČÉĘËĖÍÎÏ",
        "ÐŅŌÓÔÕÖŨØŲÚÛÜÝÞßāáâãäåæįčéęëėíîïðņōóôõöũøųúûüýþĸ"],
    -- Baltic
    .withControls
      ["iso-8859-13", "iso8859-13", "iso885913"]
      ["\xa0”¢£¤„¦§Ø©Ŗ«¬\xad®Æ°±²³“µ¶·ø¹ŗ»¼½¾æĄĮĀĆÄÅĘĒČÉŹĖĢĶĪĻ",
        "ŠŃŅÓŌÕÖ×ŲŁŚŪÜŻŽßąįāćäåęēčéźėģķīļšńņóōõö÷ųłśūüżž’"],
    -- Celtic
    .withControls
      ["iso-8859-14", "iso8859-14", "iso885914"]
      ["\xa0Ḃḃ£ĊċḊ§Ẁ©ẂḋỲ\xad®ŸḞḟĠġṀṁ¶ṖẁṗẃṠỳẄẅṡÀÁÂÃÄÅÆÇÈÉÊËÌÍÎÏ",
        "ŴÑÒÓÔÕÖṪØÙÚÛÜÝŶßàáâãäåæçèéêëìíîïŵñòóôõöṫøùúûüýŷÿ"],
    -- western, with the euro
    .withControls
      ["csisolatin9", "iso-8859-15", "iso8859-15", "iso885915",
       "iso_8859-15", "l9"]
      ["\xa0¡¢£€¥Š§š©ª«¬\xad®¯°±²³Žµ¶·ž¹º»ŒœŸ¿ÀÁÂÃÄÅÆÇÈÉÊËÌÍÎÏ",
        "ÐÑÒÓÔÕÖ×ØÙÚÛÜÝÞßàáâãäåæçèéêëìíîïðñòóôõö÷øùúûüýþÿ"],
    -- Romanian
    .withControls
      ["iso-8859-16"]
      ["\xa0ĄąŁ€„Š§š©Ș«Ź\xadźŻ°±ČłŽ”¶·žčș»ŒœŸżÀÁÂĂÄĆÆÇÈÉÊËÌÍÎÏ",
        "ĐŃÒÓÔŐÖŚŰÙÚÛÜĘȚßàáâăäćæçèéêëìíîïđńòóôőöśűùúûüęțÿ"],
    -- Russian
    .ofRows
      ["cskoi8r", "koi", "koi8", "koi8-r", "koi8_r"]
      ["─│┌┐└┘├┤┬┴┼▀▄█▌▐░▒▓⌠■∙√≈≤≥\xa0⌡°²·÷═║╒ё╓╔╕╖╗╘╙╚╛╜╝╞╟╠╡",
        "Ё╢╣╤╥╦╧╨╩╪╫╬©юабцдефгхийклмнопярстужвьызшэщчъЮАБЦДЕФГХ",
        "ИЙКЛМНОПЯРСТУЖВЬЫЗШЭЩЧЪ"],
    -- Ukrainian
    .ofRows
      ["koi8-ru", "koi8-u"]
      ["─│┌┐└┘├┤┬┴┼▀▄█▌▐░▒▓⌠■∙√≈≤≥\xa0⌡°²·÷═║╒ёє╔ії╗╘╙╚╛ґў╞╟╠╡",
        "ЁЄ╣ІЇ╦╧╨╩╪ҐЎ©юабцдефгхийклмнопярстужвьызшэщчъЮАБЦДЕФГХ",
        "ИЙКЛМНОПЯРСТУЖВЬЫЗШЭЩЧЪ"],
    -- western, on other machines
    .ofRows
      ["csmacintosh", "mac", "macintosh", "x-mac-roman"]
      ["ÄÅÇÉÑÖÜáàâäãåçéèêëíìîïñóòôöõúùûü†°¢£§•¶ß®©™´¨≠ÆØ∞±≤≥¥µ",
        "∂∑∏π∫ªºΩæø¿¡¬√ƒ≈∆«»…\xa0ÀÃÕŒœ–—“”‘’÷◊ÿŸ⁄€‹›ﬁﬂ‡·‚„‰ÂÊÁË",
        "ÈÍÎÏÌÓÔ\uf8ffÒÚÛÙı\u02c6˜¯˘˙˚¸˝˛\u02c7"],
    -- Thai
    .ofRows
      ["dos-874", "iso-8859-11", "iso8859-11", "iso885911",
       "tis-620", "windows-874"]
      ["€\x81\x82\x83\x84…\x86\x87\x88\x89\x8a\x8b\x8c\x8d\x8e",
        "\x8f\x90‘’“”•–—\x98\x99\x9a\x9b\x9c\x9d\x9e\x9f\xa0",
        "\u0e01\u0e02\u0e03\u0e04\u0e05\u0e06\u0e07\u0e08\u0e09",
        "\u0e0a\u0e0b\u0e0c\u0e0d\u0e0e\u0e0f\u0e10\u0e11\u0e12",
        "\u0e13\u0e14\u0e15\u0e16\u0e17\u0e18\u0e19\u0e1a\u0e1b",
        "\u0e1c\u0e1d\u0e1e\u0e1f\u0e20\u0e21\u0e22\u0e23\u0e24",
        "\u0e25\u0e26\u0e27\u0e28\u0e29\u0e2a\u0e2b\u0e2c\u0e2d",
        "\u0e2e\u0e2f\u0e30\u0e31\u0e32\u0e33\u0e34\u0e35\u0e36",
        "\u0e37\u0e38\u0e39\u0e3a\ufffd\ufffd\ufffd\ufffd\u0e3f",
        "\u0e40\u0e41\u0e42\u0e43\u0e44\u0e45\u0e46\u0e47\u0e48",
        "\u0e49\u0e4a\u0e4b\u0e4c\u0e4d\u0e4e\u0e4f\u0e50\u0e51",
        "\u0e52\u0e53\u0e54\u0e55\u0e56\u0e57\u0e58\u0e59\u0e5a",
        "\u0e5b\ufffd\ufffd\ufffd\ufffd"],
    -- Central European, without controls
    .ofRows
      ["cp1250", "windows-1250", "x-cp1250"]
      ["€\x81‚\x83„…†‡\x88‰Š‹ŚŤŽŹ\x90‘’“”•–—\x98™š›śťžź\xa0",
        "\u02c7˘Ł¤Ą¦§¨©Ş«¬\xad®Ż°±˛ł´µ¶·¸ąş»Ľ˝ľżŔÁÂĂÄĹĆÇČÉĘËĚÍÎ",
        "ĎĐŃŇÓÔŐÖ×ŘŮÚŰÜÝŢßŕáâăäĺćçčéęëěíîďđńňóôőö÷řůúűüýţ˙"],
    -- Cyrillic, without controls
    .ofRows
      ["cp1251", "windows-1251", "x-cp1251"]
      ["ЂЃ‚ѓ„…†‡€‰Љ‹ЊЌЋЏђ‘’“”•–—\x98™љ›њќћџ\xa0ЎўЈ¤Ґ¦§Ё©Є«¬",
        "\xad®Ї°±Ііґµ¶·ё№є»јЅѕїАБВГДЕЖЗИЙКЛМНОПРСТУФХЦЧШЩЪЫЬЭЮЯ",
        "абвгдежзийклмнопрстуфхцчшщъыьэюя"],
    -- western
    .ofRows
      ["ansi_x3.4-1968", "ascii", "cp1252", "cp819",
       "csisolatin1", "ibm819", "iso-8859-1", "iso-ir-100",
       "iso8859-1", "iso88591", "iso_8859-1", "iso_8859-1:1987",
       "l1", "latin1", "us-ascii", "windows-1252", "x-cp1252"]
      ["€\x81‚ƒ„…†‡\u02c6‰Š‹Œ\x8dŽ\x8f\x90‘’“”•–—˜™š›œ\x9džŸ",
        "\xa0¡¢£¤¥¦§¨©ª«¬\xad®¯°±²³´µ¶·¸¹º»¼½¾¿ÀÁÂÃÄÅÆÇÈÉÊËÌÍÎÏ",
        "ÐÑÒÓÔÕÖ×ØÙÚÛÜÝÞßàáâãäåæçèéêëìíîïðñòóôõö÷øùúûüýþÿ"],
    -- Greek, without controls
    .ofRows
      ["cp1253", "windows-1253", "x-cp1253"]
      ["€\x81‚ƒ„…†‡\x88‰\x8a‹\x8c\x8d\x8e\x8f\x90‘’“”•–—\x98™",
        "\x9a›\x9c\x9d\x9e\x9f\xa0΅Ά£¤¥¦§¨©\ufffd«¬\xad®―°±²³΄µ",
        "¶·ΈΉΊ»Ό½ΎΏΐΑΒΓΔΕΖΗΘΙΚΛΜΝΞΟΠΡ\ufffdΣΤΥΦΧΨΩΪΫάέήίΰαβγδεζ",
        "ηθικλμνξοπρςστυφχψωϊϋόύώ\ufffd"],
    -- Turkish
    .ofRows
      ["cp1254", "csisolatin5", "iso-8859-9", "iso-ir-148",
       "iso8859-9", "iso88599", "iso_8859-9", "iso_8859-9:1989",
       "l5", "latin5", "windows-1254", "x-cp1254"]
      ["€\x81‚ƒ„…†‡\u02c6‰Š‹Œ\x8d\x8e\x8f\x90‘’“”•–—˜™š›œ\x9d",
        "\x9eŸ\xa0¡¢£¤¥¦§¨©ª«¬\xad®¯°±²³´µ¶·¸¹º»¼½¾¿ÀÁÂÃÄÅÆÇÈÉÊ",
        "ËÌÍÎÏĞÑÒÓÔÕÖ×ØÙÚÛÜİŞßàáâãäåæçèéêëìíîïğñòóôõö÷øùúûüışÿ"],
    -- Hebrew, without controls
    .ofRows
      ["cp1255", "windows-1255", "x-cp1255"]
      ["€\x81‚ƒ„…†‡\u02c6‰\x8a‹\x8c\x8d\x8e\x8f\x90‘’“”•–—˜™",
        "\x9a›\x9c\x9d\x9e\x9f\xa0¡¢£₪¥¦§¨©×«¬\xad®¯°±²³´µ¶·¸¹÷",
        "»¼½¾¿\u05b0\u05b1\u05b2\u05b3\u05b4\u05b5\u05b6\u05b7",
        "\u05b8\u05b9\u05ba\u05bb\u05bc\u05bd\u05be\u05bf\u05c0",
        "\u05c1\u05c2\u05c3\u05f0\u05f1\u05f2\u05f3\u05f4\ufffd",
        "\ufffd\ufffd\ufffd\ufffd\ufffd\ufffd\u05d0\u05d1\u05d2",
        "\u05d3\u05d4\u05d5\u05d6\u05d7\u05d8\u05d9\u05da\u05db",
        "\u05dc\u05dd\u05de\u05df\u05e0\u05e1\u05e2\u05e3\u05e4",
        "\u05e5\u05e6\u05e7\u05e8\u05e9\u05ea\ufffd\ufffd\u200e",
        "\u200f\ufffd"],
    -- Arabic, without controls
    .ofRows
      ["cp1256", "windows-1256", "x-cp1256"]
      ["€\u067e‚ƒ„…†‡\u02c6‰\u0679‹Œ\u0686\u0698\u0688\u06af‘’",
        "“”•–—\u06a9™\u0691›œ\u200c\u200d\u06ba\xa0،¢£¤¥¦§¨©",
        "\u06be«¬\xad®¯°±²³´µ¶·¸¹\u061b»¼½¾\u061f\u06c1\u0621",
        "\u0622\u0623\u0624\u0625\u0626\u0627\u0628\u0629\u062a",
        "\u062b\u062c\u062d\u062e\u062f\u0630\u0631\u0632\u0633",
        "\u0634\u0635\u0636×\u0637\u0638\u0639\u063a\u0640",
        "\u0641\u0642\u0643à\u0644â\u0645\u0646\u0647\u0648çèéê",
        "ë\u0649\u064aîï\u064b\u064c\u064d\u064eô\u064f\u0650÷",
        "\u0651ù\u0652ûü\u200e\u200f\u06d2"],
    -- Baltic, without controls
    .ofRows
      ["cp1257", "windows-1257", "x-cp1257"]
      ["€\x81‚\x83„…†‡\x88‰\x8a‹\x8c¨\u02c7¸\x90‘’“”•–—\x98™",
        "\x9a›\x9c¯˛\x9f\xa0\ufffd¢£¤\ufffd¦§Ø©Ŗ«¬\xad®Æ°±²³´µ¶",
        "·ø¹ŗ»¼½¾æĄĮĀĆÄÅĘĒČÉŹĖĢĶĪĻŠŃŅÓŌÕÖ×ŲŁŚŪÜŻŽßąįāćäåęēčéźėģ",
        "ķīļšńņóōõö÷ųłśūüżž˙"],
    -- Vietnamese
    .ofRows
      ["cp1258", "windows-1258", "x-cp1258"]
      ["€\x81‚ƒ„…†‡\u02c6‰\x8a‹Œ\x8d\x8e\x8f\x90‘’“”•–—˜™\x9a›",
        "œ\x9d\x9eŸ\xa0¡¢£¤¥¦§¨©ª«¬\xad®¯°±²³´µ¶·¸¹º»¼½¾¿ÀÁÂĂÄÅ",
        "ÆÇÈÉÊË\u0300ÍÎÏĐÑ\u0309ÓÔƠÖ×ØÙÚÛÜƯ\u0303ßàáâăäåæçèéêë",
        "\u0301íîïđñ\u0323óôơö÷øùúûüư₫ÿ"],
    -- Cyrillic, on other machines
    .ofRows
      ["x-mac-cyrillic", "x-mac-ukrainian"]
      ["АБВГДЕЖЗИЙКЛМНОПРСТУФХЦЧШЩЪЫЬЭЮЯ†°Ґ£§•¶І®©™Ђђ≠Ѓѓ∞±≤≥іµ",
        "ґЈЄєЇїЉљЊњјЅ¬√ƒ≈∆«»…\xa0ЋћЌќѕ–—“”‘’÷„ЎўЏџ№Ёёяабвгдежзи",
        "йклмнопрстуфхцчшщъыьэю€"]]

end Charset
end WorkspaceClient
