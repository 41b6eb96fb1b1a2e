import Wdl.Text.Valued

/-!
How characters are put together.
-/

namespace Wdl
namespace Text
namespace Valued

/-! ## Combining classes

Marks on the same letter that stand in different places have different classes, and their order does
not matter. -/

/-- Where a mark stands at its letter. -/
def combiningClass : Valued :=
  .ofText ["ccc", "Canonical_Combining_Class"] ["0", "NR", "Not_Reordered"] "
    230 A Above: 300-314 33D-344 346 34A-34C 350-352 357 35B 363-36F 483-487 592-595 597-599
    59C-5A1 5A8-5A9 5AB-5AC 5AF 5C4 610-617 653-654 657-65B 65D-65E 6D6-6DC 6DF-6E2 6E4 6E7-6E8
    6EB-6EC 730 732-733 735-736 73A 73D 73F-741 743-747/2 749-74A 7EB-7F1 7F3 816-819 81B-823
    825-827 829-82D 897-898 89C-89F 8CA-8CE 8D4-8E1 8E4-8E5 8E7-8E8 8EA-8EC 8F3-8F5 8F7-8F8
    8FB-8FF 951 953-954 9FE F82-F83 F86-F87 135D-135F 17DD 193A 1A17 1A75-1A7C 1AB0-1AB4
    1ABB-1ABC 1AC1-1AC2 1AC5-1AC9 1ACB-1ADC 1AE0-1AE5 1AE7-1AEA 1B6B 1B6D-1B73 1CD0-1CD2
    1CDA-1CDB 1CE0 1CF4 1CF8-1CF9 1DC0-1DC1 1DC3-1DC9 1DCB-1DCC 1DD1-1DF5 1DFB 1DFE 20D0-20D1
    20D4-20D7 20DB-20DC 20E1 20E7 20E9 20F0 2CEF-2CF1 2DE0-2DFF A66F A674-A67D A69E-A69F
    A6F0-A6F1 A8E0-A8F1 AAB0 AAB2-AAB3 AAB7-AAB8 AABE-AABF AAC1 FE20-FE26 FE2E-FE2F 10376-1037A
    10A0F 10A38 10AE5 10D24-10D27 10D69-10D6D 10EAB-10EAC 10F48-10F4A 10F4C 10F82 10F84
    11100-11102 11366-1136C 11370-11374 1145E 16B30-16B36 1D185-1D189 1D1AA-1D1AD 1D242-1D244
    1E000-1E006 1E008-1E018 1E01B-1E021 1E023-1E024 1E026-1E02A 1E08F 1E130-1E136 1E2AE
    1E2EC-1E2EF 1E4EF 1E5EE 1E6E3 1E6E6 1E6EE-1E6EF 1E6F5 1E944-1E949;
    228 AL Above_Left: 5AE 18A9 1DF7-1DF8 302B;
    232 AR Above_Right: 315 31A 358 1DF6 302C 1E4EC-1E4ED;
    214 ATA Attached_Above: 1DCE;
    216 ATAR Attached_Above_Right: 31B F39 1D165-1D166 1D16E-1D172;
    202 ATB Attached_Below: 321-322 327-328 1DD0;
    200 ATBL Attached_Below_Left:;
    220 B Below: 316-319 31C-320 323-326 329-333 339-33C 347-349 34D-34E 353-356 359-35A 591 596
    59B 5A2-5A7 5AA 5C5 655-656 65C 65F 6E3 6EA 6ED 731 734 737-739 73B-73C 73E 742-748/2 7F2
    7FD 859-85B 899-89B 8CF-8D3 8E3 8E6 8E9 8ED-8EF 8F6 8F9-8FA 952 F18-F19 F35 F37 FC6 108D
    193B 1A18 1A7F 1AB5-1ABA 1ABD 1ABF-1AC0 1AC3-1AC4 1ACA 1ADD 1AE6 1B6C 1CD5-1CD9 1CDC-1CDF
    1CED 1DC2 1DCA 1DCF 1DF9 1DFD 1DFF 20E8 20EC-20EF A92B-A92D AAB4 FE27-FE2D 101FD 102E0 10A0D
    10A3A 10AE6 10EFA-10EFB 10EFD-10EFF 10F46-10F47 10F4B 10F4D-10F50 10F83 10F85 1D17B-1D182
    1D18A-1D18B 1E4EE 1E5EF 1E8D0-1E8D6;
    218 BL Below_Left: 1DFA 302A;
    222 BR Below_Right: 59A 5AD 1939 302D;
    10 CCC10: 5B0;
    103 CCC103: E38-E39;
    107 CCC107: E48-E4B;
    11 CCC11: 5B1;
    118 CCC118: EB8-EB9;
    12 CCC12: 5B2;
    122 CCC122: EC8-ECB;
    129 CCC129: F71;
    13 CCC13: 5B3;
    130 CCC130: F72 F7A-F7D F80;
    132 CCC132: F74;
    133 CCC133:;
    14 CCC14: 5B4;
    15 CCC15: 5B5;
    16 CCC16: 5B6;
    17 CCC17: 5B7;
    18 CCC18: 5B8 5C7;
    19 CCC19: 5B9-5BA;
    20 CCC20: 5BB;
    21 CCC21: 5BC;
    22 CCC22: 5BD;
    23 CCC23: 5BF;
    24 CCC24: 5C1;
    25 CCC25: 5C2;
    26 CCC26: FB1E;
    27 CCC27: 64B 8F0;
    28 CCC28: 64C 8F1;
    29 CCC29: 64D 8F2;
    30 CCC30: 618 64E;
    31 CCC31: 619 64F;
    32 CCC32: 61A 650;
    33 CCC33: 651;
    34 CCC34: 652;
    35 CCC35: 670;
    36 CCC36: 711;
    84 CCC84: C55;
    91 CCC91: C56;
    234 DA Double_Above: 35D-35E 360-361 1AEB 1DCD;
    233 DB Double_Below: 35C 35F 362 1DFC;
    6 HANR Han_Reading: 16FF0-16FF1;
    240 IS Iota_Subscript: 345;
    8 KV Kana_Voicing: 3099-309A;
    224 L Left: 302E-302F;
    7 NK Nukta: 93C 9BC A3C ABC B3C C3C CBC 1037 1B34 1BE6 1C37 A9B3 110BA 11173 111CA 11236
    112E9 1133B-1133C 11446 114C3 115C0 116B7 1183A 11943 11D42 1E94A;
    1 OV Overlay: 334-338 1CD4 1CE2-1CE8 20D2-20D3 20D8-20DA 20E5-20E6 20EA-20EB 10A39
    16AF0-16AF4 1BC9E 1D167-1D169;
    226 R Right: 1D16D;
    9 VR Virama: 94D 9CD A4D ACD B4D BCD C4D CCD D3B-D3C D4D DCA E3A EBA F84 1039-103A 1714-1715
    1734 17D2 1A60 1B44 1BAA-1BAB 1BF2-1BF3 2D7F A806 A82C A8C4 A953 A9C0 AAF6 ABED 10A3F 11046
    11070 1107F 110B9 11133-11134 111C0 11235 112EA 1134D 113CE-113D0 11442 114C2 115BF 1163F
    116B6 1172B 11839 1193D-1193E 119E0 11A34 11A47 11A99 11C3F 11D44-11D45 11D97 11F41-11F42
    1612F"

/-! ## Decompositions

Some characters stand for others in a particular form: a font, a circle, a smaller size. -/

/-- The form in which a character shows those that it stands for. -/
def decomposition : Valued :=
  .ofText ["dt", "Decomposition_Type"] ["None"] "
    Can Canonical: C0-C5 C7-CF D1-D6 D9-DD E0-E5 E7-EF F1-F6 F9-FD FF-10F 112-125 128-130
    134-137 139-13E 143-148 14C-151 154-165 168-17E 1A0-1A1 1AF-1B0 1CD-1DC 1DE-1E3 1E6-1F0
    1F4-1F5 1F8-21B 21E-21F 226-233 340-341 343-344 374 37E 385-38A 38C 38E-390 3AA-3B0 3CA-3CE
    3D3-3D4 400-401 403 407 40C-40E 419 439 450-451 453 457 45C-45E 476-477 4C1-4C2 4D0-4D3
    4D6-4D7 4DA-4DF 4E2-4E7 4EA-4F5 4F8-4F9 622-626 6C0 6C2 6D3 929 931 934 958-95F 9CB-9CC
    9DC-9DD 9DF A33 A36 A59-A5B A5E B48 B4B-B4C B5C-B5D B94 BCA-BCC C48 CC0 CC7-CC8 CCA-CCB
    D4A-D4C DDA DDC-DDE F43 F4D F52 F57 F5C F69 F73 F75-F76 F78 F81 F93 F9D FA2 FA7 FAC FB9 1026
    1B06-1B0E/2 1B12 1B3B 1B3D 1B40-1B41 1B43 1E00-1E99 1E9B 1EA0-1EF9 1F00-1F15 1F18-1F1D
    1F20-1F45 1F48-1F4D 1F50-1F57 1F59-1F5D/2 1F5F-1F7D 1F80-1FB4 1FB6-1FBC 1FBE 1FC1-1FC4
    1FC6-1FD3 1FD6-1FDB 1FDD-1FEF 1FF2-1FF4 1FF6-1FFD 2000-2001 2126 212A-212B 219A-219B 21AE
    21CD-21CF 2204 2209 220C 2224 2226 2241 2244 2247 2249 2260 2262 226D-2271 2274-2275
    2278-2279 2280-2281 2284-2285 2288-2289 22AC-22AF 22E0-22E3 22EA-22ED 2329-232A 2ADC
    304C-3062/2 3065-3069/2 3070-3071 3073-3074 3076-3077 3079-307A 307C-307D 3094 309E
    30AC-30C2/2 30C5-30C9/2 30D0-30D1 30D3-30D4 30D6-30D7 30D9-30DA 30DC-30DD 30F4 30F7-30FA
    30FE AC00-D7A3 F900-FA0D FA10 FA12 FA15-FA1E FA20 FA22 FA25-FA26 FA2A-FA6D FA70-FAD9 FB1D
    FB1F FB2A-FB36 FB38-FB3C FB3E FB40-FB41 FB43-FB44 FB46-FB4E 105C9 105E4 1109A 1109C 110AB
    1112E-1112F 1134B-1134C 11383 11385 1138E 11391 113C5 113C7-113C8 114BB-114BC 114BE
    115BA-115BB 11938 16121-16128 16D68-16D6A 1D15E-1D164 1D1BB-1D1C0 2F800-2FA1D;
    Com Compat: A8 AF B4-B5 B8 132-133 13F-140 149 17F 1C4-1CC 1F1-1F3 2D8-2DD 37A 384 3D0-3D2
    3D5-3D6 3F0-3F2 3F4-3F5 3F9 587 675-678 E33 EB3 EDC-EDD F77 F79 1E9A 1FBD 1FBF-1FC0 1FFE
    2002-2006 2008-200A 2017 2024-2026 2033-2034 2036-2037 203C 203E 2047-2049 2057 205F 20A8
    2100-2101 2103 2105-2107 2109 2116 2121 2135-2138 213B 2160-217F 222C-222D 222F-2230
    2474-24B5 2A0C 2A74-2A76 2E9F 2EF3 2F00-2FD5 3036 3038-303A 309B-309C 3131-318E 3200-321E
    3220-3243 32C0-32CB 3358-3370 33E0-33FE FB00-FB06 FB13-FB17 FB4F FE49-FE4F 1F100-1F10A
    1F110-1F12A 1F240-1F248;
    Enc Circle: 2460-2473 24B6-24EA 3244-3247 3251-327E 3280-32BF 32D0-32FE 1F12B-1F12E
    1F250-1F251;
    Fin Final: FB51 FB53 FB57 FB5B FB5F FB63 FB67 FB6B FB6F FB73 FB77 FB7B FB7F FB83-FB8F/2 FB93
    FB97 FB9B FB9F FBA1 FBA5 FBA7 FBAB FBAF FBB1 FBD4 FBD8-FBDC/2 FBDF-FBE5/2 FBEB-FBF7/2 FBFA
    FBFD FC64-FC96 FD11-FD2C FD3C FD51 FD58 FD5A-FD5B FD5E-FD5F FD62 FD64 FD66-FD67 FD69-FD6A
    FD6C FD6E-FD6F FD71 FD74-FD76 FD78-FD7C FD7E-FD82 FD84-FD85 FD87 FD8B FD96-FD97 FD99-FD9C
    FD9E-FDB3 FDB6-FDB7 FDB9 FDBB-FDC2 FDC6-FDC7 FE82-FE8A/2 FE8E FE90 FE94 FE96 FE9A FE9E FEA2
    FEA6 FEAA-FEB2/2 FEB6 FEBA FEBE FEC2 FEC6 FECA FECE FED2 FED6 FEDA FEDE FEE2 FEE6 FEEA
    FEEE-FEF2/2 FEF6-FEFC/2;
    Font: 2102 210A-2113 2115 2119-211D 2124 2128 212C-212D 212F-2131 2133-2134 2139 213C-2140
    2145-2149 FB20-FB29 1CCD6-1CCF9 1D400-1D454 1D456-1D49C 1D49E-1D49F 1D4A2 1D4A5-1D4A6
    1D4A9-1D4AC 1D4AE-1D4B9 1D4BB 1D4BD-1D4C3 1D4C5-1D505 1D507-1D50A 1D50D-1D514 1D516-1D51C
    1D51E-1D539 1D53B-1D53E 1D540-1D544 1D546 1D54A-1D550 1D552-1D6A5 1D6A8-1D7CB 1D7CE-1D7FF
    1EE00-1EE03 1EE05-1EE1F 1EE21-1EE22 1EE24 1EE27 1EE29-1EE32 1EE34-1EE37 1EE39 1EE3B 1EE42
    1EE47-1EE4B/2 1EE4D-1EE4F 1EE51-1EE52 1EE54 1EE57-1EE5F/2 1EE61-1EE62 1EE64 1EE67-1EE6A
    1EE6C-1EE72 1EE74-1EE77 1EE79-1EE7C 1EE7E 1EE80-1EE89 1EE8B-1EE9B 1EEA1-1EEA3 1EEA5-1EEA9
    1EEAB-1EEBB 1FBF0-1FBF9;
    Fra Fraction: BC-BE 2150-215F 2189;
    Init Initial: FB54 FB58 FB5C FB60 FB64 FB68 FB6C FB70 FB74 FB78 FB7C FB80 FB90 FB94 FB98
    FB9C FBA2 FBA8 FBAC FBD5 FBE6 FBE8 FBF8 FBFB FBFE FC97-FCDE FD2D-FD33 FD50 FD52-FD57 FD59
    FD5C-FD5D FD60-FD61 FD63 FD65 FD68 FD6B FD6D FD70 FD72-FD73 FD77 FD7D FD83 FD86 FD88-FD8A
    FD8C-FD8F FD92-FD95 FD98 FD9D FDB4-FDB5 FDB8 FDBA FDC3-FDC5 FE8B FE91 FE97 FE9B FE9F FEA3
    FEA7 FEB3 FEB7 FEBB FEBF FEC3 FEC7 FECB FECF FED3 FED7 FEDB FEDF FEE3 FEE7 FEEB FEF3;
    Iso Isolated: FB50 FB52 FB56 FB5A FB5E FB62 FB66 FB6A FB6E FB72 FB76 FB7A FB7E FB82-FB8E/2
    FB92 FB96 FB9A FB9E FBA0 FBA4 FBA6 FBAA FBAE FBB0 FBD3 FBD7-FBDB/2 FBDD-FBDE FBE0-FBE4/2
    FBEA-FBF6/2 FBF9 FBFC FC00-FC63 FCF5-FD10 FD3D FDF0-FDFC FE70-FE7E/2 FE80-FE81 FE83-FE89/2
    FE8D FE8F FE93 FE95 FE99 FE9D FEA1 FEA5 FEA9-FEB1/2 FEB5 FEB9 FEBD FEC1 FEC5 FEC9 FECD FED1
    FED5 FED9 FEDD FEE1 FEE5 FEE9 FEED-FEF1/2 FEF5-FEFB/2;
    Med Medial: FB55 FB59 FB5D FB61 FB65 FB69 FB6D FB71 FB75 FB79 FB7D FB81 FB91 FB95 FB99 FB9D
    FBA3 FBA9 FBAD FBD6 FBE7 FBE9 FBFF FCDF-FCF4 FD34-FD3B FE71 FE77-FE7F/2 FE8C FE92 FE98 FE9C
    FEA0 FEA4 FEA8 FEB4 FEB8 FEBC FEC0 FEC4 FEC8 FECC FED0 FED4 FED8 FEDC FEE0 FEE4 FEE8 FEEC
    FEF4;
    Nar Narrow: FF61-FFBE FFC2-FFC7 FFCA-FFCF FFD2-FFD7 FFDA-FFDC FFE8-FFEE;
    Nb Nobreak: A0 F0C 2007 2011 202F;
    Sml Small: FE50-FE52 FE54-FE66 FE68-FE6B;
    Sqr Square: 3250 32CC-32CF 32FF-3357 3371-33DF 33FF 1F130-1F14F 1F190 1F200-1F202
    1F210-1F23B;
    Sub: 1D62-1D6A 2080-208E 2090-209C 2C7C 1E051-1E06A;
    Sup Super: AA B2-B3 B9-BA 2B0-2B8 2E0-2E4 10FC 1D2C-1D2E 1D30-1D3A 1D3C-1D4D 1D4F-1D61 1D78
    1D9B-1DBF 2070-2071 2074-207F 2120 2122 2C7D 2D6F 3192-319F A69C-A69D A770 A7F1-A7F4
    A7F8-A7F9 AB5C-AB5F AB69 10781-10785 10787-107B0 107B2-107BA 1E030-1E050 1E06B-1E06D
    1F16A-1F16C;
    Vert Vertical: 309F 30FF FE10-FE19 FE30-FE44 FE47-FE48;
    Wide: 3000 FF01-FF60 FFE0-FFE6"

end Valued
end Text
end Wdl
