import Wdl.Text.CharSet

/-!
Blocks.

A block is a range of code points that is set aside for a purpose; most are named for a script.
-/

namespace Wdl
namespace Text

/-- A block: its range and its names. -/
structure Block where
  first : Nat
  last : Nat
  names : List String

namespace Block

/-- Reads a block: its range in hexadecimal and its names, with blanks between them. -/
def ofText? (s : String) : Option Block :=
  match words s with
  | range :: names =>
    match range.splitOn "-" with
    | [lo, hi] => some ⟨ofHex lo.toList, ofHex hi.toList, names⟩
    | _ => none
  | [] => none

def set (b : Block) : CharSet := .interval b.first b.last

/-- The blocks that are listed, with semicolons between them. -/
def table : String := "
0-7F Basic_Latin ASCII;
80-FF Latin-1_Supplement Latin_1 Latin_1_Sup;
100-17F Latin_Extended-A Latin_Ext_A;
180-24F Latin_Extended-B Latin_Ext_B;
250-2AF IPA_Extensions IPA_Ext;
2B0-2FF Spacing_Modifier_Letters Modifier_Letters;
300-36F Combining_Diacritical_Marks Diacriticals;
370-3FF Greek_and_Coptic Greek;
400-4FF Cyrillic;
500-52F Cyrillic_Supplement Cyrillic_Sup Cyrillic_Supplementary;
530-58F Armenian;
590-5FF Hebrew;
600-6FF Arabic;
700-74F Syriac;
750-77F Arabic_Supplement Arabic_Sup;
780-7BF Thaana;
7C0-7FF NKo;
800-83F Samaritan;
840-85F Mandaic;
860-86F Syriac_Supplement Syriac_Sup;
870-89F Arabic_Extended-B Arabic_Ext_B;
8A0-8FF Arabic_Extended-A Arabic_Ext_A;
900-97F Devanagari;
980-9FF Bengali;
A00-A7F Gurmukhi;
A80-AFF Gujarati;
B00-B7F Oriya;
B80-BFF Tamil;
C00-C7F Telugu;
C80-CFF Kannada;
D00-D7F Malayalam;
D80-DFF Sinhala;
E00-E7F Thai;
E80-EFF Lao;
F00-FFF Tibetan;
1000-109F Myanmar;
10A0-10FF Georgian;
1100-11FF Hangul_Jamo Jamo;
1200-137F Ethiopic;
1380-139F Ethiopic_Supplement Ethiopic_Sup;
13A0-13FF Cherokee;
1400-167F Unified_Canadian_Aboriginal_Syllabics Canadian_Syllabics UCAS;
1680-169F Ogham;
16A0-16FF Runic;
1700-171F Tagalog;
1720-173F Hanunoo;
1740-175F Buhid;
1760-177F Tagbanwa;
1780-17FF Khmer;
1800-18AF Mongolian;
18B0-18FF Unified_Canadian_Aboriginal_Syllabics_Extended UCAS_Ext;
1900-194F Limbu;
1950-197F Tai_Le;
1980-19DF New_Tai_Lue;
19E0-19FF Khmer_Symbols;
1A00-1A1F Buginese;
1A20-1AAF Tai_Tham;
1AB0-1AFF Combining_Diacritical_Marks_Extended Diacriticals_Ext;
1B00-1B7F Balinese;
1B80-1BBF Sundanese;
1BC0-1BFF Batak;
1C00-1C4F Lepcha;
1C50-1C7F Ol_Chiki;
1C80-1C8F Cyrillic_Extended-C Cyrillic_Ext_C;
1C90-1CBF Georgian_Extended Georgian_Ext;
1CC0-1CCF Sundanese_Supplement Sundanese_Sup;
1CD0-1CFF Vedic_Extensions Vedic_Ext;
1D00-1D7F Phonetic_Extensions Phonetic_Ext;
1D80-1DBF Phonetic_Extensions_Supplement Phonetic_Ext_Sup;
1DC0-1DFF Combining_Diacritical_Marks_Supplement Diacriticals_Sup;
1E00-1EFF Latin_Extended_Additional Latin_Ext_Additional;
1F00-1FFF Greek_Extended Greek_Ext;
2000-206F General_Punctuation Punctuation;
2070-209F Superscripts_and_Subscripts Super_And_Sub;
20A0-20CF Currency_Symbols;
20D0-20FF Combining_Diacritical_Marks_for_Symbols Combining_Marks_For_Symbols
  Diacriticals_For_Symbols;
2100-214F Letterlike_Symbols;
2150-218F Number_Forms;
2190-21FF Arrows;
2200-22FF Mathematical_Operators Math_Operators;
2300-23FF Miscellaneous_Technical Misc_Technical;
2400-243F Control_Pictures;
2440-245F Optical_Character_Recognition OCR;
2460-24FF Enclosed_Alphanumerics Enclosed_Alphanum;
2500-257F Box_Drawing;
2580-259F Block_Elements;
25A0-25FF Geometric_Shapes;
2600-26FF Miscellaneous_Symbols Misc_Symbols;
2700-27BF Dingbats;
27C0-27EF Miscellaneous_Mathematical_Symbols-A Misc_Math_Symbols_A;
27F0-27FF Supplemental_Arrows-A Sup_Arrows_A;
2800-28FF Braille_Patterns Braille;
2900-297F Supplemental_Arrows-B Sup_Arrows_B;
2980-29FF Miscellaneous_Mathematical_Symbols-B Misc_Math_Symbols_B;
2A00-2AFF Supplemental_Mathematical_Operators Sup_Math_Operators;
2B00-2BFF Miscellaneous_Symbols_and_Arrows Misc_Arrows;
2C00-2C5F Glagolitic;
2C60-2C7F Latin_Extended-C Latin_Ext_C;
2C80-2CFF Coptic;
2D00-2D2F Georgian_Supplement Georgian_Sup;
2D30-2D7F Tifinagh;
2D80-2DDF Ethiopic_Extended Ethiopic_Ext;
2DE0-2DFF Cyrillic_Extended-A Cyrillic_Ext_A;
2E00-2E7F Supplemental_Punctuation Sup_Punctuation;
2E80-2EFF CJK_Radicals_Supplement CJK_Radicals_Sup;
2F00-2FDF Kangxi_Radicals Kangxi;
2FF0-2FFF Ideographic_Description_Characters IDC;
3000-303F CJK_Symbols_and_Punctuation CJK_Symbols;
3040-309F Hiragana;
30A0-30FF Katakana;
3100-312F Bopomofo;
3130-318F Hangul_Compatibility_Jamo Compat_Jamo;
3190-319F Kanbun;
31A0-31BF Bopomofo_Extended Bopomofo_Ext;
31C0-31EF CJK_Strokes;
31F0-31FF Katakana_Phonetic_Extensions Katakana_Ext;
3200-32FF Enclosed_CJK_Letters_and_Months Enclosed_CJK;
3300-33FF CJK_Compatibility CJK_Compat;
3400-4DBF CJK_Unified_Ideographs_Extension_A CJK_Ext_A;
4DC0-4DFF Yijing_Hexagram_Symbols Yijing;
4E00-9FFF CJK_Unified_Ideographs CJK;
A000-A48F Yi_Syllables;
A490-A4CF Yi_Radicals;
A4D0-A4FF Lisu;
A500-A63F Vai;
A640-A69F Cyrillic_Extended-B Cyrillic_Ext_B;
A6A0-A6FF Bamum;
A700-A71F Modifier_Tone_Letters;
A720-A7FF Latin_Extended-D Latin_Ext_D;
A800-A82F Syloti_Nagri;
A830-A83F Common_Indic_Number_Forms Indic_Number_Forms;
A840-A87F Phags-pa;
A880-A8DF Saurashtra;
A8E0-A8FF Devanagari_Extended Devanagari_Ext;
A900-A92F Kayah_Li;
A930-A95F Rejang;
A960-A97F Hangul_Jamo_Extended-A Jamo_Ext_A;
A980-A9DF Javanese;
A9E0-A9FF Myanmar_Extended-B Myanmar_Ext_B;
AA00-AA5F Cham;
AA60-AA7F Myanmar_Extended-A Myanmar_Ext_A;
AA80-AADF Tai_Viet;
AAE0-AAFF Meetei_Mayek_Extensions Meetei_Mayek_Ext;
AB00-AB2F Ethiopic_Extended-A Ethiopic_Ext_A;
AB30-AB6F Latin_Extended-E Latin_Ext_E;
AB70-ABBF Cherokee_Supplement Cherokee_Sup;
ABC0-ABFF Meetei_Mayek;
AC00-D7AF Hangul_Syllables Hangul;
D7B0-D7FF Hangul_Jamo_Extended-B Jamo_Ext_B;
D800-DB7F High_Surrogates;
DB80-DBFF High_Private_Use_Surrogates High_PU_Surrogates;
DC00-DFFF Low_Surrogates;
E000-F8FF Private_Use_Area PUA Private_Use;
F900-FAFF CJK_Compatibility_Ideographs CJK_Compat_Ideographs;
FB00-FB4F Alphabetic_Presentation_Forms Alphabetic_PF;
FB50-FDFF Arabic_Presentation_Forms-A Arabic_PF_A;
FE00-FE0F Variation_Selectors VS;
FE10-FE1F Vertical_Forms;
FE20-FE2F Combining_Half_Marks Half_Marks;
FE30-FE4F CJK_Compatibility_Forms CJK_Compat_Forms;
FE50-FE6F Small_Form_Variants Small_Forms;
FE70-FEFF Arabic_Presentation_Forms-B Arabic_PF_B;
FF00-FFEF Halfwidth_and_Fullwidth_Forms Half_And_Full_Forms;
FFF0-FFFF Specials;
10000-1007F Linear_B_Syllabary;
10080-100FF Linear_B_Ideograms;
10100-1013F Aegean_Numbers;
10140-1018F Ancient_Greek_Numbers;
10190-101CF Ancient_Symbols;
101D0-101FF Phaistos_Disc Phaistos;
10280-1029F Lycian;
102A0-102DF Carian;
102E0-102FF Coptic_Epact_Numbers;
10300-1032F Old_Italic;
10330-1034F Gothic;
10350-1037F Old_Permic;
10380-1039F Ugaritic;
103A0-103DF Old_Persian;
10400-1044F Deseret;
10450-1047F Shavian;
10480-104AF Osmanya;
104B0-104FF Osage;
10500-1052F Elbasan;
10530-1056F Caucasian_Albanian;
10570-105BF Vithkuqi;
105C0-105FF Todhri;
10600-1077F Linear_A;
10780-107BF Latin_Extended-F Latin_Ext_F;
10800-1083F Cypriot_Syllabary;
10840-1085F Imperial_Aramaic;
10860-1087F Palmyrene;
10880-108AF Nabataean;
108E0-108FF Hatran;
10900-1091F Phoenician;
10920-1093F Lydian;
10940-1095F Sidetic;
10980-1099F Meroitic_Hieroglyphs;
109A0-109FF Meroitic_Cursive;
10A00-10A5F Kharoshthi;
10A60-10A7F Old_South_Arabian;
10A80-10A9F Old_North_Arabian;
10AC0-10AFF Manichaean;
10B00-10B3F Avestan;
10B40-10B5F Inscriptional_Parthian;
10B60-10B7F Inscriptional_Pahlavi;
10B80-10BAF Psalter_Pahlavi;
10C00-10C4F Old_Turkic;
10C80-10CFF Old_Hungarian;
10D00-10D3F Hanifi_Rohingya;
10D40-10D8F Garay;
10E60-10E7F Rumi_Numeral_Symbols Rumi;
10E80-10EBF Yezidi;
10EC0-10EFF Arabic_Extended-C Arabic_Ext_C;
10F00-10F2F Old_Sogdian;
10F30-10F6F Sogdian;
10F70-10FAF Old_Uyghur;
10FB0-10FDF Chorasmian;
10FE0-10FFF Elymaic;
11000-1107F Brahmi;
11080-110CF Kaithi;
110D0-110FF Sora_Sompeng;
11100-1114F Chakma;
11150-1117F Mahajani;
11180-111DF Sharada;
111E0-111FF Sinhala_Archaic_Numbers;
11200-1124F Khojki;
11280-112AF Multani;
112B0-112FF Khudawadi;
11300-1137F Grantha;
11380-113FF Tulu-Tigalari;
11400-1147F Newa;
11480-114DF Tirhuta;
11580-115FF Siddham;
11600-1165F Modi;
11660-1167F Mongolian_Supplement Mongolian_Sup;
11680-116CF Takri;
116D0-116FF Myanmar_Extended-C Myanmar_Ext_C;
11700-1174F Ahom;
11800-1184F Dogra;
118A0-118FF Warang_Citi;
11900-1195F Dives_Akuru;
119A0-119FF Nandinagari;
11A00-11A4F Zanabazar_Square;
11A50-11AAF Soyombo;
11AB0-11ABF Unified_Canadian_Aboriginal_Syllabics_Extended-A UCAS_Ext_A;
11AC0-11AFF Pau_Cin_Hau;
11B00-11B5F Devanagari_Extended-A Devanagari_Ext_A;
11B60-11B7F Sharada_Supplement Sharada_Sup;
11BC0-11BFF Sunuwar;
11C00-11C6F Bhaiksuki;
11C70-11CBF Marchen;
11D00-11D5F Masaram_Gondi;
11D60-11DAF Gunjala_Gondi;
11DB0-11DEF Tolong_Siki;
11EE0-11EFF Makasar;
11F00-11F5F Kawi;
11FB0-11FBF Lisu_Supplement Lisu_Sup;
11FC0-11FFF Tamil_Supplement Tamil_Sup;
12000-123FF Cuneiform;
12400-1247F Cuneiform_Numbers_and_Punctuation Cuneiform_Numbers;
12480-1254F Early_Dynastic_Cuneiform;
12F90-12FFF Cypro-Minoan;
13000-1342F Egyptian_Hieroglyphs;
13430-1345F Egyptian_Hieroglyph_Format_Controls;
13460-143FF Egyptian_Hieroglyphs_Extended-A Egyptian_Hieroglyphs_Ext_A;
14400-1467F Anatolian_Hieroglyphs;
16100-1613F Gurung_Khema;
16800-16A3F Bamum_Supplement Bamum_Sup;
16A40-16A6F Mro;
16A70-16ACF Tangsa;
16AD0-16AFF Bassa_Vah;
16B00-16B8F Pahawh_Hmong;
16D40-16D7F Kirat_Rai;
16E40-16E9F Medefaidrin;
16EA0-16EDF Beria_Erfe;
16F00-16F9F Miao;
16FE0-16FFF Ideographic_Symbols_and_Punctuation Ideographic_Symbols;
17000-187FF Tangut;
18800-18AFF Tangut_Components;
18B00-18CFF Khitan_Small_Script;
18D00-18D7F Tangut_Supplement Tangut_Sup;
18D80-18DFF Tangut_Components_Supplement Tangut_Components_Sup;
1AFF0-1AFFF Kana_Extended-B Kana_Ext_B;
1B000-1B0FF Kana_Supplement Kana_Sup;
1B100-1B12F Kana_Extended-A Kana_Ext_A;
1B130-1B16F Small_Kana_Extension Small_Kana_Ext;
1B170-1B2FF Nushu;
1BC00-1BC9F Duployan;
1BCA0-1BCAF Shorthand_Format_Controls;
1CC00-1CEBF Symbols_for_Legacy_Computing_Supplement Symbols_For_Legacy_Computing_Sup;
1CEC0-1CEFF Miscellaneous_Symbols_Supplement Misc_Symbols_Sup;
1CF00-1CFCF Znamenny_Musical_Notation Znamenny_Music;
1D000-1D0FF Byzantine_Musical_Symbols Byzantine_Music;
1D100-1D1FF Musical_Symbols Music;
1D200-1D24F Ancient_Greek_Musical_Notation Ancient_Greek_Music;
1D2C0-1D2DF Kaktovik_Numerals;
1D2E0-1D2FF Mayan_Numerals;
1D300-1D35F Tai_Xuan_Jing_Symbols Tai_Xuan_Jing;
1D360-1D37F Counting_Rod_Numerals Counting_Rod;
1D400-1D7FF Mathematical_Alphanumeric_Symbols Math_Alphanum;
1D800-1DAAF Sutton_SignWriting;
1DF00-1DFFF Latin_Extended-G Latin_Ext_G;
1E000-1E02F Glagolitic_Supplement Glagolitic_Sup;
1E030-1E08F Cyrillic_Extended-D Cyrillic_Ext_D;
1E100-1E14F Nyiakeng_Puachue_Hmong;
1E290-1E2BF Toto;
1E2C0-1E2FF Wancho;
1E4D0-1E4FF Nag_Mundari;
1E5D0-1E5FF Ol_Onal;
1E6C0-1E6FF Tai_Yo;
1E7E0-1E7FF Ethiopic_Extended-B Ethiopic_Ext_B;
1E800-1E8DF Mende_Kikakui;
1E900-1E95F Adlam;
1EC70-1ECBF Indic_Siyaq_Numbers;
1ED00-1ED4F Ottoman_Siyaq_Numbers;
1EE00-1EEFF Arabic_Mathematical_Alphabetic_Symbols Arabic_Math;
1F000-1F02F Mahjong_Tiles Mahjong;
1F030-1F09F Domino_Tiles Domino;
1F0A0-1F0FF Playing_Cards;
1F100-1F1FF Enclosed_Alphanumeric_Supplement Enclosed_Alphanum_Sup;
1F200-1F2FF Enclosed_Ideographic_Supplement Enclosed_Ideographic_Sup;
1F300-1F5FF Miscellaneous_Symbols_and_Pictographs Misc_Pictographs;
1F600-1F64F Emoticons;
1F650-1F67F Ornamental_Dingbats;
1F680-1F6FF Transport_and_Map_Symbols Transport_And_Map;
1F700-1F77F Alchemical_Symbols Alchemical;
1F780-1F7FF Geometric_Shapes_Extended Geometric_Shapes_Ext;
1F800-1F8FF Supplemental_Arrows-C Sup_Arrows_C;
1F900-1F9FF Supplemental_Symbols_and_Pictographs Sup_Symbols_And_Pictographs;
1FA00-1FA6F Chess_Symbols;
1FA70-1FAFF Symbols_and_Pictographs_Extended-A Symbols_And_Pictographs_Ext_A;
1FB00-1FBFF Symbols_for_Legacy_Computing;
20000-2A6DF CJK_Unified_Ideographs_Extension_B CJK_Ext_B;
2A700-2B73F CJK_Unified_Ideographs_Extension_C CJK_Ext_C;
2B740-2B81F CJK_Unified_Ideographs_Extension_D CJK_Ext_D;
2B820-2CEAF CJK_Unified_Ideographs_Extension_E CJK_Ext_E;
2CEB0-2EBEF CJK_Unified_Ideographs_Extension_F CJK_Ext_F;
2EBF0-2EE5F CJK_Unified_Ideographs_Extension_I CJK_Ext_I;
2F800-2FA1F CJK_Compatibility_Ideographs_Supplement CJK_Compat_Ideographs_Sup;
30000-3134F CJK_Unified_Ideographs_Extension_G CJK_Ext_G;
31350-323AF CJK_Unified_Ideographs_Extension_H CJK_Ext_H;
323B0-3347F CJK_Unified_Ideographs_Extension_J CJK_Ext_J;
E0000-E007F Tags;
E0100-E01EF Variation_Selectors_Supplement VS_Sup;
F0000-FFFFF Supplementary_Private_Use_Area-A Sup_PUA_A;
100000-10FFFF Supplementary_Private_Use_Area-B Sup_PUA_B"

def listed : List Block := (table.splitOn ";").filterMap ofText?

/-- The code points that are in no block. -/
def outside : CharSet := .complement (.unions (listed.map set))

end Block
end Text
end Wdl
