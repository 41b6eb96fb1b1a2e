import Wdl.Text.Category
import Wdl.Text.Valued

/-!
Numbers.

Digits are decimal, or digits in another form; other characters stand for other numbers, which are
written as whole numbers or fractions in lowest terms.
-/

namespace Wdl
namespace Text
namespace Valued

/-- The kinds of numbers that are no decimal digits. -/
def otherNumbers : Valued :=
  .ofText [] [] "
    Di Digit: B2-B3 B9 1369-1371 19DA 2070 2074-2079 2080-2089 2460-2468 2474-247C 2488-2490
    24EA 24F5-24FD 24FF 2776-277E 2780-2788 278A-2792 10A40-10A43 10E60-10E68 11052-1105A
    1F100-1F10A;
    Nu Numeric: BC-BE 9F4-9F9 B72-B77 BF0-BF2 C78-C7E D58-D5E D70-D78 F2A-F33 1372-137C
    16EE-16F0 17F0-17F9 2150-2182 2185-2189 2469-2473 247D-2487 2491-249B 24EB-24F4 24FE 277F
    2789 2793 2CFD 3007 3021-3029 3038-303A 3192-3195 3220-3229 3248-324F 3251-325F 3280-3289
    32B1-32BF 3405 3483 382A 3B4D 4E00 4E03 4E07 4E09 4E24 4E5D 4E8C 4E94 4E96 4EAC 4EBF-4EC0
    4EDF 4EE8 4F0D 4F70 4FE9 5006 5104 5146 5169-516D/2 5341 5343-5345 534C 53C1-53C4 56DB 58F1
    58F9 5E7A 5EFE-5EFF 5F0C-5F0E 5F10 62D0 62FE 634C 67D2 6D1E 6F06 7396 767E 7695 79ED 8086
    842C 8CAE 8CB3 8D30 920E 94A9 9621 9646 964C 9678 96F6 A6E6-A6EF A830-A835 F96B F973 F978
    F9B2 F9D1 F9D3 F9FD 10107-10133 10140-10178 1018A-1018B 102E1-102FB 10320-10323 10341 1034A
    103D1-103D5 10858-1085F 10879-1087F 108A7-108AF 108FB-108FF 10916-1091B 109BC-109BD
    109C0-109CF 109D2-109FF 10A44-10A48 10A7D-10A7E 10A9D-10A9F 10AEB-10AEF 10B58-10B5F
    10B78-10B7F 10BA9-10BAF 10CFA-10CFF 10E69-10E7E 10F1D-10F26 10F51-10F54 10FC5-10FCB
    1105B-11065 111E1-111F4 1173A-1173B 118EA-118F2 11C5A-11C6C 11FC0-11FD4 12038-12039 12079
    12226 1222B 1230B 1230D 12399 12400-1246E 16B5B-16B61 16E80-16E96 16FF4-16FF6 1D2C0-1D2D3
    1D2E0-1D2F3 1D360-1D378 1E8C7-1E8CF 1EC71-1ECAB 1ECAD-1ECAF 1ECB1-1ECB4 1ED01-1ED2D
    1ED2F-1ED3D 1F10B-1F10C 20001 20064 200E2 20121 2092A 20983 2098C 2099C 20AEA 20AFD 20B19
    22390 22998 23B1B 2626D 2F890"

/-- What kind of number a character is. -/
def numericType : Valued where
  names := ["nt", "Numeric_Type"]
  usual := ["None"]
  values := .mk fun _ =>
    (["De", "Decimal"], Category.set .decimalNumber) :: otherNumbers.values.get

/-- The number that a character stands for. -/
def numericValue : Valued :=
  .ofText ["nv", "Numeric_Value"] ["NaN"] "
    -1/2: F33;
    0: 30 660 6F0 7C0 966 9E6 A66 AE6 B66 BE6 C66 C78 CE6 D66 DE6 E50 ED0 F20 1040 1090 17E0
    17F0 1810 1946 19D0 1A80 1A90 1B50 1BB0 1C40 1C50 2070 2080 2189 24EA 24FF 3007 6D1E 96F6
    A620 A6EF A8D0 A900 A9D0 A9F0 AA50 ABF0 F9B2 FF10 1018A 104A0 10D30 10D40 11066 110F0 11136
    111D0 112F0 11450 114D0 11650 116C0 116D0 116DA 11730 118E0 11950 11BF0 11C50 11D50 11DA0
    11DE0 11F50 16130 16A60 16AC0 16B50 16D70 16E80 1CCF0 1D2C0 1D2E0 1D7CE 1D7D8 1D7E2 1D7EC
    1D7F6 1E140 1E2F0 1E4F0 1E5F1 1E950 1F100-1F101 1F10B-1F10C 1FBF0;
    1/320: 11FC0 11FD4;
    1/160: D58 11FC1;
    1/80: 11FC2;
    1/64: 11FC3;
    1/40: D59 11FC4;
    1/32: 11FC5;
    3/80: D5A 11FC6;
    3/64: 11FC7;
    1/20: D5B 11FC8;
    1/16: 9F4 B75 D76 A833 11FC9-11FCA;
    1/12: 109F6;
    1/10: D5C 2152 11FCB;
    1/9: 2151;
    1/8: 9F5 B76 D77 215B A834 11FCC 1245F;
    1/7: 2150;
    3/20: D5D 11FCD;
    1/6: 2159 109F7 12461 1ED3D;
    3/16: 9F6 B77 D78 A835 11FCE;
    1/5: D5E 2155 11FCF;
    1/4: BC 9F7 B72 D73 A830 10140 1018B 109F8 10E7C 11FD0 12460 12462-12463 1ECAD;
    1/3: 2153 109F9 10E7D 1245A 1245D 12465;
    3/8: 215C;
    2/5: 2156;
    5/12: 109FA;
    1/2: BD B73 D74 F2A 2CFD A831 10141 10175-10176 109BD 109FB 10A48 10E7B 10F26 11FD1-11FD2
    12226 12464 1ECAE 1ED3C;
    7/12: 109FC;
    3/5: 2157;
    5/8: 215D;
    2/3: 2154 10177 109FD 10E7E 1245B 1245E 12466;
    3/4: BE 9F8 B74 D75 A832 10178 109FE 11FD3 1ECAF;
    4/5: 2158;
    5/6: 215A 109FF 1245C;
    7/8: 215E;
    11/12: 109BC;
    1: 31 B9 661 6F1 7C1 967 9E7 A67 AE7 B67 BE7 C67 C79 C7C CE7 D67 DE7 E51 ED1 F21 1041 1091
    1369 17E1 17F1 1811 1947 19D1 19DA 1A81 1A91 1B51 1BB1 1C41 1C51 2081 215F-2160 2170 2460
    2474 2488 24F5 2776 2780 278A 3021 3192 3220 3280 4E00 58F1 58F9 5E7A 5F0C A621 A6E6 A8D1
    A901 A9D1 A9F1 AA51 ABF1 FF11 10107 10142 10158-1015A 102E1 10320 103D1 104A1 10858 10879
    108A7 108FB 10916 109C0 10A40 10A7D 10A9D 10AEB 10B58 10B78 10BA9 10CFA 10D31 10D41 10E60
    10F1D 10F51 10FC5 11052 11067 110F1 11137 111D1 111E1 112F1 11451 114D1 11651 116C1 116D1
    116DB 11731 118E1 11951 11BF1 11C51 11C5A 11D51 11DA1 11DE1 11F51 12038-12039 12079 1230B
    12415 1241E 1242C 12434 1244F 12458 16131 16A61 16AC1 16B51 16D71 16E81 16E94 16FF4 1CCF1
    1D2C1 1D2E1 1D360 1D372 1D377 1D7CF 1D7D9 1D7E3 1D7ED 1D7F7 1E141 1E2F1 1E4F1 1E5F2 1E8C7
    1E951 1EC71 1ECA3 1ECB1 1ED01 1F102 1FBF1 2092A;
    3/2: F2B 16FF5;
    2: 32 B2 662 6F2 7C2 968 9E8 A68 AE8 B68 BE8 C68 C7A C7D CE8 D68 DE8 E52 ED2 F22 1042 1092
    136A 17E2 17F2 1812 1948 19D2 1A82 1A92 1B52 1BB2 1C42 1C52 2082 2161 2171 2461 2475 2489
    24F6 2777 2781 278B 3022 3193 3221 3281 3483 4E24 4E8C 4FE9 5006 5169 5F0D 5F10 8CAE 8CB3
    8D30 A622 A6E7 A8D2 A902 A9D2 A9F2 AA52 ABF2 F978 FF12 10108 1015B-1015E 102E2 103D2 104A2
    10859 1087A 108A8 1091A 109C1 10A41 10B59 10B79 10BAA 10D32 10D42 10E61 10F1E 10FC6 11053
    11068 110F2 11138 111D2 111E2 112F2 11452 114D2 11652 116C2 116D2 116DC 11732 118E2 11952
    11BF2 11C52 11C5B 11D52 11DA2 11DE2 11F52 1222B 12399 12400 12416 1241F 12423 1242D 12435
    1244A 12450 12456 12459 16132 16A62 16AC2 16B52 16D72 16E82 16E95 16FF6 1CCF2 1D2C2 1D2E2
    1D361 1D373 1D7D0 1D7DA 1D7E4 1D7EE 1D7F8 1E142 1E2F2 1E4F2 1E5F3 1E8C8 1E952 1EC72 1ECA4
    1ECB2 1ED02 1ED2F 1F103 1FBF2 22390;
    5/2: F2C;
    3: 33 B3 663 6F3 7C3 969 9E9 A69 AE9 B69 BE9 C69 C7B C7E CE9 D69 DE9 E53 ED3 F23 1043 1093
    136B 17E3 17F3 1813 1949 19D3 1A83 1A93 1B53 1BB3 1C43 1C53 2083 2162 2172 2462 2476 248A
    24F7 2778 2782 278C 3023 3194 3222 3282 4E09 4EE8 53C1-53C4 5F0E A623 A6E8 A8D3 A903 A9D3
    A9F3 AA53 ABF3 F96B FF13 10109 102E3 104A3 1085A 1087B 108A9 1091B 109C2 10A42 10B5A 10B7A
    10BAB 10D33 10D43 10E62 10F1F 10FC7 11054 11069 110F3 11139 111D3 111E3 112F3 11453 114D3
    11653 116C3 116D3 116DD 11733 118E3 11953 11BF3 11C53 11C5C 11D53 11DA3 11DE3 11F53 1230D
    12401 12408 12417 12420 12424-12425 1242E-1242F 12436-12437 1243A-1243B 1244B 12451 12457
    16133 16A63 16AC3 16B53 16D73 16E83 16E96 1CCF3 1D2C3 1D2E3 1D362 1D374 1D7D1 1D7DB 1D7E5
    1D7EF 1D7F9 1E143 1E2F3 1E4F3 1E5F4 1E8C9 1E953 1EC73 1ECA5 1ED03 1ED30 1F104 1FBF3 20AFD
    20B19 22998 23B1B;
    7/2: F2D;
    4: 34 664 6F4 7C4 96A 9EA A6A AEA B6A BEA C6A CEA D6A DEA E54 ED4 F24 1044 1094 136C 17E4
    17F4 1814 194A 19D4 1A84 1A94 1B54 1BB4 1C44 1C54 2074 2084 2163 2173 2463 2477 248B 24F8
    2779 2783 278D 3024 3195 3223 3283 4E96 56DB 8086 A624 A6E9 A8D4 A904 A9D4 A9F4 AA54 ABF4
    FF14 1010A 102E4 104A4 1087C 108AA-108AB 109C3 10A43 10B5B 10B7B 10BAC 10D34 10D44 10E63
    10F20 10FC8 11055 1106A 110F4 1113A 111D4 111E4 112F4 11454 114D4 11654 116C4 116D4 116DE
    11734 118E4 11954 11BF4 11C54 11C5D 11D54 11DA4 11DE4 11F54 12402 12409 1240F 12418 12421
    12426 12430 12438 1243C-1243F 1244C 12452-12453 12469 16134 16A64 16AC4 16B54 16D74 16E84
    1CCF4 1D2C4 1D2E4 1D363 1D375 1D7D2 1D7DC 1D7E6 1D7F0 1D7FA 1E144 1E2F4 1E4F4 1E5F5 1E8CA
    1E954 1EC74 1ECA6 1ED04 1ED31 1F105 1FBF4 20064 200E2 2626D;
    9/2: F2E;
    5: 35 665 6F5 7C5 96B 9EB A6B AEB B6B BEB C6B CEB D6B DEB E55 ED5 F25 1045 1095 136D 17E5
    17F5 1815 194B 19D5 1A85 1A95 1B55 1BB5 1C45 1C55 2075 2085 2164 2174 2464 2478 248C 24F9
    277A 2784 278E 3025 3224 3284 3405 382A 4E94 4F0D A625 A6EA A8D5 A905 A9D5 A9F5 AA55 ABF5
    FF15 1010B 10143 10148 1014F 1015F 10173 102E5 10321 104A5 1087D 108AC 108FC 109C4 10AEC
    10CFB 10D35 10D45 10E64 10F21 11056 1106B 110F5 1113B 111D5 111E5 112F5 11455 114D5 11655
    116C5 116D5 116DF 11735 118E5 11955 11BF5 11C55 11C5E 11D55 11DA5 11DE5 11F55 12403 1240A
    12410 12419 12422 12427 12431 12439 1244D 12454-12455 1246A 16135 16A65 16AC5 16B55 16D75
    16E85 1CCF5 1D2C5 1D2E5 1D364 1D376 1D378 1D7D3 1D7DD 1D7E7 1D7F1 1D7FB 1E145 1E2F5 1E4F5
    1E5F6 1E8CB 1E955 1EC75 1ECA7 1ED05 1ED32 1F106 1FBF5 20121;
    11/2: F2F;
    6: 36 666 6F6 7C6 96C 9EC A6C AEC B6C BEC C6C CEC D6C DEC E56 ED6 F26 1046 1096 136E 17E6
    17F6 1816 194C 19D6 1A86 1A96 1B56 1BB6 1C46 1C56 2076 2086 2165 2175 2185 2465 2479 248D
    24FA 277B 2785 278F 3026 3225 3285 516D 9646 9678 A626 A6EB A8D6 A906 A9D6 A9F6 AA56 ABF6
    F9D1 F9D3 FF16 1010C 102E6 104A6 109C5 10D36 10D46 10E65 11057 1106C 110F6 1113C 111D6 111E6
    112F6 11456 114D6 11656 116C6 116D6 116E0 11736 118E6 11956 11BF6 11C56 11C5F 11D56 11DA6
    11DE6 11F56 12404 1240B 12411 1241A 12428 12440 1244E 1246B 16136 16A66 16AC6 16B56 16D76
    16E86 1CCF6 1D2C6 1D2E6 1D365 1D7D4 1D7DE 1D7E8 1D7F2 1D7FC 1E146 1E2F6 1E4F6 1E5F7 1E8CC
    1E956 1EC76 1ECA8 1ED06 1ED33 1F107 1FBF6 20AEA;
    13/2: F30;
    7: 37 667 6F7 7C7 96D 9ED A6D AED B6D BED C6D CED D6D DED E57 ED7 F27 1047 1097 136F 17E7
    17F7 1817 194D 19D7 1A87 1A97 1B57 1BB7 1C47 1C57 2077 2087 2166 2176 2466 247A 248E 24FB
    277C 2786 2790 3027 3226 3286 3B4D 4E03 62D0 67D2 6F06 A627 A6EC A8D7 A907 A9D7 A9F7 AA57
    ABF7 FF17 1010D 102E7 104A7 109C6 10D37 10D47 10E66 11058 1106D 110F7 1113D 111D7 111E7
    112F7 11457 114D7 11657 116C7 116D7 116E1 11737 118E7 11957 11BF7 11C57 11C60 11D57 11DA7
    11DE7 11F57 12405 1240C 12412 1241B 12429 12441-12443 1246C 16137 16A67 16AC7 16B57 16D77
    16E87 1CCF7 1D2C7 1D2E7 1D366 1D7D5 1D7DF 1D7E9 1D7F3 1D7FD 1E147 1E2F7 1E4F7 1E5F8 1E8CD
    1E957 1EC77 1ECA9 1ED07 1ED34 1F108 1FBF7 20001;
    15/2: F31;
    8: 38 668 6F8 7C8 96E 9EE A6E AEE B6E BEE C6E CEE D6E DEE E58 ED8 F28 1048 1098 1370 17E8
    17F8 1818 194E 19D8 1A88 1A98 1B58 1BB8 1C48 1C58 2078 2088 2167 2177 2467 247B 248F 24FC
    277D 2787 2791 3028 3227 3287 516B 634C A628 A6ED A8D8 A908 A9D8 A9F8 AA58 ABF8 FF18 1010E
    102E8 104A8 109C7 10D38 10D48 10E67 11059 1106E 110F8 1113E 111D8 111E8 112F8 11458 114D8
    11658 116C8 116D8 116E2 11738 118E8 11958 11BF8 11C58 11C61 11D58 11DA8 11DE8 11F58 12406
    1240D 12413 1241C 1242A 12444-12445 1246D 16138 16A68 16AC8 16B58 16D78 16E88 1CCF8 1D2C8
    1D2E8 1D367 1D7D6 1D7E0 1D7EA 1D7F4 1D7FE 1E148 1E2F8 1E4F8 1E5F9 1E8CE 1E958 1EC78 1ECAA
    1ED08 1ED35 1F109 1FBF8;
    17/2: F32;
    9: 39 669 6F9 7C9 96F 9EF A6F AEF B6F BEF C6F CEF D6F DEF E59 ED9 F29 1049 1099 1371 17E9
    17F9 1819 194F 19D9 1A89 1A99 1B59 1BB9 1C49 1C59 2079 2089 2168 2178 2468 247C 2490 24FD
    277E 2788 2792 3029 3228 3288 4E5D 5EFE 7396 920E 94A9 A629 A6EE A8D9 A909 A9D9 A9F9 AA59
    ABF9 FF19 1010F 102E9 104A9 109C8 10D39 10D49 10E68 1105A 1106F 110F9 1113F 111D9 111E9
    112F9 11459 114D9 11659 116C9 116D9 116E3 11739 118E9 11959 11BF9 11C59 11C62 11D59 11DA9
    11DE9 11F59 12407 1240E 12414 1241D 1242B 12446-12449 1246E 16139 16A69 16AC9 16B59 16D79
    16E89 1CCF9 1D2C9 1D2E9 1D368 1D7D7 1D7E1 1D7EB 1D7F5 1D7FF 1E149 1E2F9 1E4F9 1E5FA 1E8CF
    1E959 1EC79 1ECAB 1ED09 1ED36 1F10A 1FBF9 2F890;
    10: BF0 D70 1372 2169 2179 2469 247D 2491 24FE 277F 2789 2793 3038 3229 3248 3289 4EC0 5341
    62FE F973 F9FD 10110 10149 10150 10157 10160-10164 102EA 10322 103D3 1085B 1087E 108AD 108FD
    10917 109C9 10A44 10A9E 10AED 10B5C 10B7C 10BAD 10CFC 10E69 10F22 10F52 10FC9 1105B 111EA
    1173A 118EA 11C63 16B5B 16E8A 1D2CA 1D2EA 1D369 1EC7A 1ED0A 1ED37;
    11: 216A 217A 246A 247E 2492 24EB 16E8B 1D2CB 1D2EB;
    12: 216B 217B 246B 247F 2493 24EC 16E8C 1D2CC 1D2EC;
    13: 246C 2480 2494 24ED 16E8D 1D2CD 1D2ED;
    14: 246D 2481 2495 24EE 16E8E 1D2CE 1D2EE;
    15: 246E 2482 2496 24EF 16E8F 1D2CF 1D2EF;
    16: 9F9 246F 2483 2497 24F0 16E90 1D2D0 1D2F0;
    17: 16EE 2470 2484 2498 24F1 16E91 1D2D1 1D2F1;
    18: 16EF 2471 2485 2499 24F2 16E92 1D2D2 1D2F2;
    19: 16F0 2472 2486 249A 24F3 16E93 1D2D3 1D2F3;
    20: 1373 2473 2487 249B 24F4 3039 3249 5344 5EFF 10111 102EB 103D4 1085C 1087F 108AE 108FE
    10918 109CA 10A45 10A9F 10AEE 10B5D 10B7D 10BAE 10E6A 10F23 10F53 10FCA 1105C 111EB 1173B
    118EB 11C64 1D36A 1EC7B 1ED0B;
    21: 3251;
    22: 3252;
    23: 3253;
    24: 3254;
    25: 3255;
    26: 3256;
    27: 3257;
    28: 3258;
    29: 3259;
    30: 1374 303A 324A 325A 5345 10112 10165 102EC 109CB 10E6B 10F24 1105D 111EC 118EC 11C65
    1D36B 1EC7C 1ED0C 20983;
    31: 325B;
    32: 325C;
    33: 325D;
    34: 325E;
    35: 325F;
    36: 32B1;
    37: 32B2;
    38: 32B3;
    39: 32B4;
    40: 1375 324B 32B5 534C 10113 102ED 109CC 10E6C 1105E 111ED 118ED 11C66 12467 1D36C 1EC7D
    1ED0D 2098C 2099C;
    41: 32B6;
    42: 32B7;
    43: 32B8;
    44: 32B9;
    45: 32BA;
    46: 32BB;
    47: 32BC;
    48: 32BD;
    49: 32BE;
    50: 1376 216C 217C 2186 324C 32BF 10114 10144 1014A 10151 10166-10169 10174 102EE 10323
    109CD 10A7E 10CFD 10E6D 1105F 111EE 118EE 11C67 12468 1D36D 1EC7E 1ED0E;
    60: 1377 324D 10115 102EF 109CE 10E6E 11060 111EF 118EF 11C68 1D36E 1EC7F 1ED0F;
    70: 1378 324E 10116 102F0 109CF 10E6F 11061 111F0 118F0 11C69 1D36F 1EC80 1ED10;
    80: 1379 324F 10117 102F1 10E70 11062 111F1 118F1 11C6A 1D370 1EC81 1ED11;
    90: 137A 10118 102F2 10341 10E71 11063 111F2 118F2 11C6B 1D371 1EC82 1ED12;
    100: BF1 D71 137B 216D 217D 4F70 767E 964C 10119 1014B 10152 1016A 102F3 103D5 1085D 108AF
    108FF 10919 109D2 10A46 10AEF 10B5E 10B7E 10BAF 10CFE 10E72 10F25 10F54 10FCB 11064 111F3
    11C6C 16B5C 1EC83 1ED13;
    200: 7695 1011A 102F4 109D3 10E73 1EC84 1ED14;
    300: 1011B 1016B 102F5 109D4 10E74 1EC85 1ED15;
    400: 1011C 102F6 109D5 10E75 1EC86 1ED16 1ED38;
    500: 216E 217E 1011D 10145 1014C 10153 1016C-10170 102F7 109D6 10E76 1EC87 1ED17;
    600: 1011E 102F8 109D7 10E77 1EC88 1ED18 1ED39;
    700: 1011F 102F9 109D8 10E78 1EC89 1ED19;
    800: 10120 102FA 109D9 10E79 1EC8A 1ED1A;
    900: 10121 102FB 1034A 109DA 10E7A 1EC8B 1ED1B;
    1000: BF2 D72 216F 217F-2180 4EDF 5343 9621 10122 1014D 10154 10171 1085E 109DB 10A47 10B5F
    10B7F 10CFF 11065 111F4 1EC8C 1ED1C;
    2000: 10123 109DC 1EC8D 1ED1D 1ED3A;
    3000: 10124 109DD 1EC8E 1ED1E;
    4000: 10125 109DE 1EC8F 1ED1F;
    5000: 2181 10126 10146 1014E 10172 109DF 1EC90 1ED20;
    6000: 10127 109E0 1EC91 1ED21;
    7000: 10128 109E1 1EC92 1ED22;
    8000: 10129 109E2 1EC93 1ED23;
    9000: 1012A 109E3 1EC94 1ED24;
    10000: 137C 2182 4E07 842C 1012B 10155 1085F 109E4 16B5D 1EC95 1ECB3 1ED25 1ED3B;
    20000: 1012C 109E5 1EC96 1ED26;
    30000: 1012D 109E6 1EC97 1ED27;
    40000: 1012E 109E7 1EC98 1ED28;
    50000: 2187 1012F 10147 10156 109E8 1EC99 1ED29;
    60000: 10130 109E9 1EC9A 1ED2A;
    70000: 10131 109EA 1EC9B 1ED2B;
    80000: 10132 109EB 1EC9C 1ED2C;
    90000: 10133 109EC 1EC9D 1ED2D;
    100000: 2188 109ED 1EC9E 1ECA0 1ECB4;
    200000: 109EE 1EC9F;
    216000: 12432;
    300000: 109EF;
    400000: 109F0;
    432000: 12433;
    500000: 109F1;
    600000: 109F2;
    700000: 109F3;
    800000: 109F4;
    900000: 109F5;
    1000000: 16B5E;
    10000000: 1ECA1;
    20000000: 1ECA2;
    100000000: 4EBF 5104 16B5F;
    1000000000: 79ED;
    10000000000: 16B60;
    1000000000000: 5146 16B61;
    10000000000000000: 4EAC"

end Valued
end Text
end Wdl
