import Wdl.Text.Valued

/-!
How signs are shaped by those around them.
-/

namespace Wdl
namespace Text
namespace Valued

/-! ## Syllables of the scripts of South Asia

A syllable is built around a consonant; vowels and marks have their places at it. -/

/-- Where a sign stands at its consonant. -/
def indicPosition : Valued :=
  .ofText ["InPC", "Indic_Positional_Category"] ["NA", "Not_Applicable"] "
    Bottom: 93C 941-944 94D 952 956-957 962-963 9BC 9C1-9C4 9CD 9E2-9E3 A3C A41-A42 A4D A51 A75
    ABC AC1-AC4 ACD AE2-AE3 B3C B41-B44 B4D B62-B63 C3C C56 C62-C63 CBC CE2-CE3 D41-D44 D62-D63
    DD4 DD6 E38-E3A EB8-EBA EBC F18-F19 F35 F37 F71 F74-F75 F84 F8D-F97 F99-FBC FC6 102F-1030
    1037 103D-103E 1058-1059 105E-1060 1082 108D 1713-1714 1733 1753 1773 17BB-17BD 1922 1932
    1939 193B 1A18 1A56 1A5B-1A5E 1A69-1A6A 1A6C 1A7F 1B38-1B3A 1B6C 1BA2-1BA3 1BA5 1BAC-1BAD
    1C2C 1C37 1CD5-1CD9 1CDC-1CDF 1CED A825 A82C A8C4 A92B-A92D A947-A949 A94B-A94E A9B8-A9B9
    A9BD AA2D AA32 AA35-AA36 AAB4 AAEC ABE8 ABED 10A02-10A03 10A0C-10A0E 10A39-10A3A 1103C-11041
    110B3-110B4 110B9-110BA 110C2 1112A-1112B 11131-11132 11173 111B6-111BB 111C9-111CA 111CC
    1122F 11241 112E3-112E4 112E9-112EA 1133B-1133C 113BB-113C0 113D2 113E2 11438-1143D 11442
    11446 114B3-114B8 114C2-114C3 115B2-115B5 115BF-115C0 115DC-115DD 11633-11638 1163F
    116B0-116B1 116B7 1171D 11724-11725 11728 1182F-11832 11839-1183A 11943 119D4-119D7 119E0
    11A02-11A03 11A0A 11A33-11A34 11A3B-11A3E 11A52-11A53 11A59-11A5B 11A8A-11A95 11B62-11B63
    11C32-11C36 11C3F 11C92-11CA7 11CAA-11CB0 11CB2 11D36 11D42 11D44 11D47 11EF4 11F38-11F3A
    1612E-1612F;
    Bottom_And_Left: A9BF;
    Bottom_And_Right: 1B3B A9BE A9C0 11942;
    Left: 93F 94E 9BF 9C7-9C8 A3F ABF B47 BC6-BC8 D46-D48 DD9 DDB F3F 1031 1084 17C1-17C3 1A19
    1A55 1A6E-1A72 1B3E-1B3F 1BA6 1C27-1C28 1C34-1C35 A9BA-A9BB AA2F-AA30 AA34 AAEB AAEE 110B1
    1112C 111B4 111CE 112E1 11347-11348 113C2 113C5 11436 114B1 114B9 115B0 115B8 116AE 11726
    1182D 11935 11937 119D2 119E4 11CB1 11EF5 11F3E-11F3F 1612A-1612B;
    Left_And_Right: 9CB-9CC B4B BCA-BCC D4A-D4C DDC DDE 17C0 17C4-17C5 1B40-1B41 1134B-1134C
    113C7-113C8 114BC 114BE 115BA 11938;
    Overstruck: 1CD4 1CE2-1CE8 10A01 10A06;
    Right: 903 93B 93E 940 949-94C 94F 982-983 9BE 9C0 9D7 A03 A3E A40 A83 ABE AC0 ACB-ACC
    B02-B03 B3E B40 BBE-BBF BC1-BC2 BD7 C01-C03 C41-C44 C82-C83 CBE CC1-CC4 CD5-CD6 CF3 D02-D03
    D3E-D40 D57 D82-D83 DCF-DD1 DD8 DDF DF2-DF3 E30 E32-E33 E45 EB0 EB2-EB3 F3E F7F 102B-102C
    1038 103B 1056-1057 1062-1064 1067-106D 1083 1087-108C 108F 109A-109C 1715 1734 17B6
    17C7-17C8 1923-1924 1929-192B 1930-1931 1933-1938 19B0-19B4 19B8-19B9 19BB-19C0 19C8-19C9
    1A1A 1A57 1A61 1A63-1A64 1A6D 1B04 1B35 1B44 1B82 1BA1 1BA7 1BAA 1BE7 1BEA-1BEC 1BEE
    1BF2-1BF3 1C24-1C26 1C2A-1C2B 1CE1 1CF7 A823-A824 A827 A880-A881 A8B4-A8C3 A952-A953 A983
    A9B4-A9B5 AA33 AA4D AA7B AA7D AAB1 AABA AABD AAEF AAF5 ABE3-ABE4 ABE6-ABE7 ABE9-ABEA ABEC
    11000 11002 11082 110B0 110B2 110B7-110B8 11145-11146 11182 111B3 111B5 111C0 1122C-1122E
    11235 112E0 112E2 11302-11303 1133E-1133F 11341-11344 1134D 11357 11362-11363 113B8
    113C9-113CA 113CC-113CD 113CF 11435 11437 11440-11441 11445 114B0 114B2 114BD 114C1 115AF
    115B1 115BE 11630-11632 1163B-1163C 1163E 116AC 116AF 116B6 11720-11721 1182C 1182E 11838
    11930-11934 1193D 11940 119D1 119D3 119DC-119DF 11A39 11A57-11A58 11A97 11B61 11B65 11B67
    11C2F 11C3E 11CA9 11CB4 11D46 11D8A-11D8E 11D93-11D94 11D96 11EF6 11F03 11F34-11F35 11F41
    1612C 16D40-16D42 16D63-16D6C;
    Top: 900-902 93A 945-948 951 955 981 9FE A01-A02 A47-A48 A4B-A4C A70-A71 A81-A82 AC5 AC7-AC8
    AFA-AFF B01 B3F B55-B56 B82 BC0 BCD C00 C04 C3E-C40 C46-C47 C4A-C4D C55 C81 CBF CC6 CCC-CCD
    D00-D01 D3B-D3C D4D-D4E D81 DCA DD2-DD3 E31 E34-E37 E47-E4E EB1 EB4-EB7 EBB EC8-ECE F39 F72
    F7A-F7E F80 F82-F83 F86-F87 102D-102E 1032-1036 103A 1071-1074 1085-1086 109D 1712 1732 1752
    1772 17B7-17BA 17C6 17C9-17D1 17D3 17DD 1920-1921 1927-1928 193A 1A17 1A1B 1A58-1A5A 1A62
    1A65-1A68 1A6B 1A73-1A7C 1B00-1B03 1B34 1B36-1B37 1B42 1B6B 1B6D-1B73 1B80-1B81 1BA4
    1BA8-1BA9 1BE6 1BE8-1BE9 1BED 1BEF-1BF1 1C2D-1C33 1C36 1CD0-1CD2 1CDA-1CDB 1CE0 1CF4 1DFB
    20F0 A802 A806 A80B A826 A8C5 A8E0-A8F1 A8FF A926-A92A A94A A94F-A951 A980-A982 A9B3
    A9B6-A9B7 A9BC A9E5 AA29-AA2C AA2E AA31 AA43 AA4C AA7C AAB0 AAB2-AAB3 AAB7-AAB8 AABE-AABF
    AAC1 AAED ABE5 10A05 10A0F 10A38 11001 11038-1103B 11042-11046 11070 11073-11074 11080-11081
    110B5-110B6 11100-11102 11127-11129 1112D 11130 11134 11180-11181 111BC-111BE 111C2-111C3
    111CB 111CF 11230-11231 11234 11236-11237 1123E 112DF 112E5-112E8 11300-11301 11340
    11366-1136C 11370-11374 113CE 113D1 113E1 1143E-1143F 11443-11444 1145E 114BA 114BF-114C0
    115BC-115BD 11639-1163A 1163D 11640 116AB 116AD 116B2-116B5 1171F 11722-11723 11727
    11729-1172B 11833-11837 1193B-1193C 1193F 11941 119DA-119DB 11A01 11A04-11A09 11A35-11A38
    11A51 11A54-11A56 11A84-11A89 11A96 11A98 11B60 11B64 11B66 11C30-11C31 11C38-11C3D 11CB3
    11CB5-11CB6 11D31-11D35 11D3A 11D3C-11D3D 11D3F-11D41 11D43 11D90-11D91 11D95 11EF3
    11F00-11F02 11F36-11F37 11F40 11F5A 1611E-16129 1612D;
    Top_And_Bottom: C48 F73 F76-F79 F81 1B3C 1112E-1112F;
    Top_And_Bottom_And_Left: 103C 1171E;
    Top_And_Bottom_And_Right: 1B3D;
    Top_And_Left: B48 DDA 17BE 1C29 114BB 115B9;
    Top_And_Left_And_Right: B4C DDD 17BF 115BB;
    Top_And_Right: AC9 B57 CC0 CC7-CC8 CCA-CCB 1925-1926 1B43 111BF 11232-11233 113B9-113BA;
    Visual_Order_Left: E40-E44 EC0-EC4 19B5-19B7 19BA AAB5-AAB6 AAB9 AABB-AABC"

/-- The part of a sign in a syllable. -/
def indicSyllable : Valued :=
  .ofText ["InSC", "Indic_Syllabic_Category"] ["Other"] "
    Avagraha: 93D 9BD ABD B3D C3D CBD D3D F85 17DC 1BBA 111C1 1133D 113B7 11447 114C4 119E1
    11A9D 11C40;
    Bindu: 900-902 981-982 9FC A01-A02 A70 A81-A82 B01-B02 B82 C00-C02 C04 C80-C82 CF3 D00-D02
    D04 D81-D82 E4D ECD F7E F82-F83 1036 17C6 1932 1A74 1B00-1B02 1B80 1C34-1C35 A80B A873 A880
    A8C5 A8F2-A8F3 A980-A981 10A0E 11000-11001 11080-11081 11100-11101 11180-11181 111CF 11234
    112DF 11300-11302 1135E-1135F 113CA 113CC 11443-11444 1145F 114BF-114C0 115BC-115BD 1163D
    116AB 11837 1193B-1193C 119DE 11A35-11A38 11A96 11C3C-11C3D 11CB5-11CB6 11D40 11D95
    11F00-11F01 1612D 16D40-16D41;
    Brahmi_Joining_Number: 11052-11065;
    Cantillation_Mark: 951-952 A51 AFA AFC 1CD0-1CD2 1CD4-1CE1 1CF4 1CF7-1CF9 20F0 A8E0-A8F1
    1123E 11366-1136C 11370-11374 113E1-113E2;
    Consonant: 915-939 958-95F 978-97F 995-9A8 9AA-9B0 9B2 9B6-9B9 9DC-9DD 9DF 9F0-9F1 A15-A28
    A2A-A30 A32-A33 A35-A36 A38-A39 A59-A5C A5E A95-AA8 AAA-AB0 AB2-AB3 AB5-AB9 AF9 B15-B28
    B2A-B30 B32-B33 B35-B39 B5C-B5D B5F B71 B95 B99-B9A B9C B9E-B9F BA3-BA4 BA8-BAA BAE-BB9
    C15-C28 C2A-C39 C58-C5A C95-CA8 CAA-CB3 CB5-CB9 CDE D15-D3A D9A-DB1 DB3-DBB DBD DC0-DC6
    E01-E2E E81-E82 E84 E86-E8A E8C-EA3 EA5 EA7-EAE EDC-EDF F40-F47 F49-F6C 1000-1020 103F
    1050-1051 105A-105D 1061 1065-1066 106E-1070 1075-1081 108E 1703-1711 171F 1723-1731
    1743-1751 1763-176C 176E-1770 1780-17A2 1900-191E 1950-1962 1980-19AB 1A00-1A16 1A20-1A4C
    1A53-1A54 1B13-1B33 1B45-1B4C 1B8A-1BA0 1BAE-1BAF 1BBB-1BBD 1BC0-1BE3 1C00-1C23 1C4D-1C4F
    A807-A80A A80C-A822 A840-A85D A862-A865 A869-A870 A872 A892-A8B3 A90A-A921 A930-A946
    A989-A98B A98F-A9B2 A9E0-A9E4 A9E7-A9EF A9FA-A9FE AA06-AA28 AA60-AA6F AA71-AA73 AA7A
    AA7E-AAAF AAE2-AAEA ABC0-ABCD ABD0 ABD2-ABDA 10A00 10A10-10A13 10A15-10A17 10A19-10A35
    11013-11037 11075 1108D-110AF 11107-11126 11144 11147 11155-11172 11191-111B2 11208-11211
    11213-1122B 1123F 11284-11286 11288 1128A-1128D 1128F-1129D 1129F-112A8 112BA-112DE
    11315-11328 1132A-11330 11332-11333 11335-11339 11392-113B5 1140E-11434 1148F-114AF
    1158E-115AE 1160E-1162F 1168A-116AA 116B8 11700-1171A 11740-11746 1180A-1182B 1190C-11913
    11915-11916 11918-1192F 119AE-119D0 11A00 11A0B-11A32 11A50 11A5C-11A83 11C0E-11C2E
    11C72-11C8F 11D0C-11D30 11D6C-11D89 11EE0-11EF1 11F12-11F33 16101-1611D 16D43-16D62;
    Consonant_Dead: 9CE C5D CDD D54-D56 D7A-D7F 1CF2-1CF3;
    Consonant_Final: 1930-1931 1933-1939 19C1-19C7 1A58-1A59 1B03 1B81 1BBE-1BBF 1BF0-1BF1
    1C2D-1C33 A94F-A952 A982 AA40-AA4D ABDB-ABE2 11A8A-11A95;
    Consonant_Head_Letter: F88-F8C;
    Consonant_Initial_Postfixed: 1A5A;
    Consonant_Killer: E4C 17CD;
    Consonant_Medial: A75 EBC-EBD 103B-103E 105E-1060 1082 1A55-1A56 A8B4 A9BD-A9BF AA33-AA36
    1171D-1171F 11940 11942 11A3B-11A3E 11D47 1612A-1612C 1612E;
    Consonant_Placeholder: 2D A0 D7 980 A72-A73 104B 104E 1CFA 2010-2014 25CC AA74-AA76 11A3F
    11A45 11EF2;
    Consonant_Preceding_Repha: D4E 113D1 11941 11A86 11D46 11F02;
    Consonant_Prefixed: 111C2-111C3 1193F 11A84-11A85 11A87-11A89;
    Consonant_Subjoined: F8D-F97 F99-FBC 1929-192B 1A57 1A5B-1A5E 1BA1-1BA3 1BAC-1BAD 1C24-1C25
    A867-A868 A871 11C92-11CA7 11CA9-11CAF;
    Consonant_Succeeding_Repha: 17CC;
    Consonant_With_Stacker: CF1-CF2 1CF5-1CF6 11003-11004 11460-11461 11A3A;
    Gemination_Mark: A71 AFB 11237 113D2 11A98;
    Invisible_Stacker: 1039 17D2 1A60 1BAB AAF6 10A3F 11133 113D0 1193E 11A47 11A99 11D45 11D97
    11F42;
    Joiner: 200D;
    Modifying_Letter: B83;
    Non_Joiner: 200C;
    Nukta: 93C 9BC A3C ABC AFD-AFF B3C C3C CBC F39 1B34 1BE6 1C37 A9B3 10A38-10A3A 110BA 11173
    111CA 11236 112E9 1133B-1133C 11446 114C3 115C0 116B7 1183A 11943 11D42 11F5A;
    Number: 30-39 966-96F 9E6-9EF A66-A6F AE6-AEF B66-B6F BE6-BEF C66-C6F CE6-CEF D66-D6F
    DE6-DEF E50-E59 ED0-ED9 F20-F33 1040-1049 1090-1099 17E0-17E9 1946-194F 19D0-19DA 1A80-1A89
    1A90-1A99 1B50-1B59 1BB0-1BB9 1C40-1C49 A8D0-A8D9 A900-A909 A9D0-A9D9 A9F0-A9F9 AA50-AA59
    ABF0-ABF9 10A40-10A48 11066-1106F 11136-1113F 111D0-111D9 111E1-111F4 112F0-112F9
    11450-11459 114D0-114D9 11650-11659 116C0-116C9 116D0-116E3 11730-1173B 11950-11959
    11C50-11C6C 11D50-11D59 11DA0-11DA9 11F50-11F59 16130-16139 16D70-16D79;
    Number_Joiner: 1107F;
    Pure_Killer: D3B-D3C E3A E4E EBA F84 103A 1714-1715 1734 17D1 1A7A 1BAA A82C A953 ABED 11070
    11134 112EA 113CE-113CF 1172B 1193D 11A34 11D44 11F41 1612F 16D6B-16D6C;
    Register_Shifter: 17C9-17CA;
    Reordering_Killer: 1BF2-1BF3;
    Syllable_Modifier: B2-B3 9FE ECE F35 F37 FC6 17CB 17CE-17D0 17D3 17DD 193B 1A7B-1A7C 1A7F
    1C36 1DFB 2074 2082-2084 111C9 1145E 11A33;
    Tone_Letter: 1970-1974 AAC0 AAC2;
    Tone_Mark: E48-E4B EC8-ECB 1037 1063-1064 1069-106D 1087-108D 108F 109A-109B 19C8-19C9
    1A75-1A79 A92B-A92D AA7B-AA7D AABF AAC1 ABEC;
    Virama: 94D 9CD A4D ACD B4D BCD C4D CCD D4D DCA 1B44 A806 A8C4 A9C0 11046 110B9 111C0 11235
    1134D 11442 114C2 115BF 1163F 116B6 11839 119E0 11C3F;
    Visarga: 903 983 A03 A83 B03 C03 C83 D03 D83 F7F 1038 17C7 1B04 1B82 A881 A983 AAF5 10A0F
    11002 11082 11102 11182 11303 113CD 11445 114C1 115BE 1163E 116AC 11838 119DF 11A39 11A97
    11C3E 11D41 11D96 11F03 16D42;
    Vowel: 1963-196D A85E-A861 A866 A922-A92A 11150-11154;
    Vowel_Dependent: 93A-93B 93E-94C 94E-94F 955-957 962-963 9BE-9C4 9C7-9C8 9CB-9CC 9D7 9E2-9E3
    A3E-A42 A47-A48 A4B-A4C ABE-AC5 AC7-AC9 ACB-ACC AE2-AE3 B3E-B44 B47-B48 B4B-B4C B55-B57
    B62-B63 BBE-BC2 BC6-BC8 BCA-BCC BD7 C3E-C44 C46-C48 C4A-C4C C55-C56 C62-C63 CBE-CC4 CC6-CC8
    CCA-CCC CD5-CD6 CE2-CE3 D3E-D44 D46-D48 D4A-D4C D57 D62-D63 DCF-DD4 DD6 DD8-DDF DF2-DF3
    E30-E39 E40-E45 E47 EB0-EB9 EBB EC0-EC4 F71-F7D F80-F81 102B-1035 1056-1059 1062 1067-1068
    1071-1074 1083-1086 109C-109D 1712-1713 1732-1733 1752-1753 1772-1773 17B6-17C5 17C8
    1920-1928 193A 19B0-19C0 1A17-1A1B 1A61-1A73 1B35-1B43 1BA4-1BA9 1BE7-1BEF 1C26-1C2C A802
    A823-A827 A8B5-A8C3 A8FF A947-A94E A9B4-A9BC A9E5 AA29-AA32 AAB0-AABE AAEB-AAEF ABE3-ABEA
    10A01-10A03 10A05-10A06 10A0C-10A0D 11038-11045 11073-11074 110B0-110B8 110C2 11127-11132
    11145-11146 111B3-111BF 111CB-111CC 111CE 1122C-11233 11241 112E0-112E8 1133E-11344
    11347-11348 1134B-1134C 11357 11362-11363 113B8-113C0 113C2 113C5 113C7-113C9 11435-11441
    114B0-114BE 115AF-115B5 115B8-115BB 115DC-115DD 11630-1163C 11640 116AD-116B5 11720-1172A
    1182C-11836 11930-11935 11937-11938 119D1-119D7 119DA-119DD 119E4 11A01-11A0A 11A51-11A5B
    11B60-11B67 11C2F-11C36 11C38-11C3B 11CB0-11CB4 11D31-11D36 11D3A 11D3C-11D3D 11D3F 11D43
    11D8A-11D8E 11D90-11D91 11D93-11D94 11EF3-11EF6 11F34-11F3A 11F3E-11F40 1611E-16129
    16D63-16D6A;
    Vowel_Independent: 904-914 960-961 972-977 985-98C 98F-990 993-994 9E0-9E1 A05-A0A A0F-A10
    A13-A14 A85-A8D A8F-A91 A93-A94 AE0-AE1 B05-B0C B0F-B10 B13-B14 B60-B61 B85-B8A B8E-B90
    B92-B94 C05-C0C C0E-C10 C12-C14 C60-C61 C85-C8C C8E-C90 C92-C94 CE0-CE1 D05-D0C D0E-D10
    D12-D14 D5F-D61 D85-D96 1021-102A 1052-1055 1700-1702 1720-1722 1740-1742 1760-1762
    17A3-17B3 1A4D-1A52 1B05-1B12 1B83-1B89 1BE4-1BE5 A800-A801 A803-A805 A882-A891 A8FE
    A984-A988 A98C-A98E AA00-AA05 AAE0-AAE1 ABCE-ABCF ABD1 11005-11012 11071-11072 11083-1108C
    11103-11106 11183-11190 11200-11207 11240 11280-11283 112B0-112B9 11305-1130C 1130F-11310
    11313-11314 11360-11361 11380-11389 1138B 1138E 11390-11391 11400-1140D 11481-1148E
    11580-1158D 115D8-115DB 11600-1160D 11680-11689 11800-11809 11900-11906 11909 119A0-119A7
    119AA-119AD 11C00-11C08 11C0A-11C0D 11D00-11D06 11D08-11D09 11D0B 11D60-11D65 11D67-11D68
    11D6A-11D6B 11F04-11F10 16100"

/-! ## Joined letters

The letters of some scripts have forms of their own at the start, in the middle and at the end of a
word. -/

/-- The letters whose forms are alike. -/
def joiningGroup : Valued :=
  .ofText ["jg", "Joining_Group"] ["No_Joining_Group"] "
    African_Feh: 8BB;
    African_Noon: 8BD;
    African_Qaf: 8BC 8C4;
    Ain: 639-63A 6A0 6FC 75D-75F 8B3 8C3;
    Alaph: 710;
    Alef: 622-623 625 627 671-673 675 773-774 870-882;
    Beh: 628 62A-62B 66E 679-680 750-756 8A0-8A1 8B6-8B8 8BE-8C0;
    Beth: 712 72D;
    Burushaski_Yeh_Barree: 77A-77B;
    Dal: 62F-630 688-690 6EE 759-75A 8AE 10EC2;
    Dalath_Rish: 715-716 72A 72F;
    E: 725;
    Farsi_Yeh: 63D-63F 6CC 6CE 775-776;
    Fe: 74F;
    Feh: 641 6A1-6A6 760-761 8A4;
    Final_Semkath: 724;
    Gaf: 63B-63C 6A9 6AB 6AF-6B4 762-764 88D 8B0 8C2 8C8;
    Gamal: 713-714 72E;
    Hah: 62C-62E 681-687 6BF 757-758 76E-76F 772 77C 88A 8A2 8C1 8C5-8C6;
    Hanifi_Rohingya_Kinna_Ya: 10D19 10D1E 10D20 10D23;
    Hanifi_Rohingya_Pa: 10D02 10D09 10D1C;
    He: 717;
    Heh: 647;
    Heh_Goal: 6C1-6C2;
    Heth: 71A;
    Kaf: 643 6AC-6AE 77F 8B4 10EC4;
    Kaph: 71F;
    Kashmiri_Yeh: 620;
    Khaph: 74E;
    Knotted_Heh: 6BE 6FF;
    Lam: 644 6B5-6B8 76A 8A6 8C7;
    Lamadh: 720;
    Malayalam_Bha: 866;
    Malayalam_Ja: 861;
    Malayalam_Lla: 868;
    Malayalam_Llla: 869;
    Malayalam_Nga: 860;
    Malayalam_Nna: 864;
    Malayalam_Nnna: 865;
    Malayalam_Nya: 862;
    Malayalam_Ra: 867;
    Malayalam_Ssa: 86A;
    Malayalam_Tta: 863;
    Manichaean_Aleph: 10AC0;
    Manichaean_Ayin: 10AD9-10ADA;
    Manichaean_Beth: 10AC1-10AC2;
    Manichaean_Daleth: 10AC5;
    Manichaean_Dhamedh: 10AD4;
    Manichaean_Five: 10AEC;
    Manichaean_Gimel: 10AC3-10AC4;
    Manichaean_Heth: 10ACD;
    Manichaean_Hundred: 10AEF;
    Manichaean_Kaph: 10AD0-10AD2;
    Manichaean_Lamedh: 10AD3;
    Manichaean_Mem: 10AD6;
    Manichaean_Nun: 10AD7;
    Manichaean_One: 10AEB;
    Manichaean_Pe: 10ADB-10ADC;
    Manichaean_Qoph: 10ADE-10AE0;
    Manichaean_Resh: 10AE1;
    Manichaean_Sadhe: 10ADD;
    Manichaean_Samekh: 10AD8;
    Manichaean_Taw: 10AE4;
    Manichaean_Ten: 10AED;
    Manichaean_Teth: 10ACE;
    Manichaean_Thamedh: 10AD5;
    Manichaean_Twenty: 10AEE;
    Manichaean_Waw: 10AC7;
    Manichaean_Yodh: 10ACF;
    Manichaean_Zayin: 10AC9-10ACA;
    Meem: 645 765-766 8A7;
    Mim: 721;
    Noon: 646 6B9-6BC 767-769 889 88F;
    Nun: 722;
    Nya: 6BD;
    Pe: 726;
    Qaf: 642 66F 6A7-6A8 8A5 8B5;
    Qaph: 729;
    Reh: 631-632 691-699 6EF 75B 76B-76C 771 8AA 8B2 8B9;
    Reversed_Pe: 727;
    Rohingya_Yeh: 8AC;
    Sad: 635-636 69D-69E 6FB 8AF;
    Sadhe: 728;
    Seen: 633-634 69A-69C 6FA 75C 76D 770 77D-77E;
    Semkath: 723;
    Shin: 72B;
    Straight_Waw: 8B1;
    Swash_Kaf: 6AA;
    Syriac_Waw: 718;
    Tah: 637-638 69F 88B-88C 8A3 10EC3;
    Taw: 72C;
    Teh_Marbuta: 629 6C0 6D5;
    Teh_Marbuta_Goal Hamza_On_Heh_Goal: 6C3;
    Teth: 71B-71C;
    Thin_Noon: 10EC6;
    Thin_Yeh: 886;
    Vertical_Tail: 88E;
    Waw: 624 648 676-677 6C4-6CB 6CF 778-779 8AB;
    Yeh: 626 649-64A 678 6D0-6D1 777 8A8-8A9 8BA 10EC7;
    Yeh_Barree: 6D2-6D3;
    Yeh_With_Tail: 6CD;
    Yudh: 71D;
    Yudh_He: 71E;
    Zain: 719;
    Zhain: 74D"

/-- On which sides a letter joins with its neighbours. -/
def joiningType : Valued :=
  .ofText ["jt", "Joining_Type"] ["U", "Non_Joining"] "
    C Join_Causing: 640 7FA 883-885 180A 200D;
    D Dual_Joining: 620 626 628 62A-62E 633-63F 641-647 649-64A 66E-66F 678-687 69A-6BF 6C1-6C2
    6CC 6CE 6D0-6D1 6FA-6FC 6FF 712-714 71A-71D 71F-727 729 72B 72D-72E 74E-758 75C-76A 76D-770
    772 775-777 77A-77F 7CA-7EA 841-845 848 84A-853 855 860 862-865 868 886 889-88D 88F 8A0-8A9
    8AF-8B0 8B3-8B8 8BA-8C8 1807 1820-1878 1887-18A8 18AA A840-A871 10AC0-10AC4 10AD3-10AD6
    10AD8-10ADC 10ADE-10AE0 10AEB-10AEE 10B80 10B82 10B86-10B88 10B8A-10B8B 10B8D 10B90
    10BAD-10BAE 10D01-10D21 10D23 10EC3-10EC4 10EC6-10EC7 10F30-10F32 10F34-10F44 10F51-10F53
    10F70-10F73 10F76-10F81 10FB0 10FB2-10FB3 10FB8 10FBB-10FBC 10FBE-10FBF 10FC1 10FC4 10FCA
    1E900-1E943;
    L Left_Joining: A872 10ACD 10AD7 10D00 10FCB;
    R Right_Joining: 622-625 627 629 62F-632 648 671-673 675-677 688-699 6C0 6C3-6CB 6CD 6CF
    6D2-6D3 6D5 6EE-6EF 710 715-719 71E 728-72C/2 72F 74D 759-75B 76B-76C 771 773-774 778-779
    840 846-847 849 854 856-858 867 869-86A 870-882 88E 8AA-8AC 8AE 8B1-8B2 8B9 10AC5 10AC7
    10AC9-10ACA 10ACE-10AD2 10ADD 10AE1 10AE4 10AEF 10B81 10B83-10B85 10B89 10B8C 10B8E-10B8F
    10B91 10BA9-10BAC 10D22 10EC2 10F33 10F54 10F74-10F75 10FB4-10FB6 10FB9-10FBA 10FBD
    10FC2-10FC3 10FC9;
    T Transparent: AD 300-36F 483-489 591-5BD 5BF 5C1-5C2 5C4-5C5 5C7 610-61A 61C 64B-65F 670
    6D6-6DC 6DF-6E4 6E7-6E8 6EA-6ED 70F 711 730-74A 7A6-7B0 7EB-7F3 7FD 816-819 81B-823 825-827
    829-82D 859-85B 897-89F 8CA-8E1 8E3-902 93A 93C 941-948 94D 951-957 962-963 981 9BC 9C1-9C4
    9CD 9E2-9E3 9FE A01-A02 A3C A41-A42 A47-A48 A4B-A4D A51 A70-A71 A75 A81-A82 ABC AC1-AC5
    AC7-AC8 ACD AE2-AE3 AFA-AFF B01 B3C B3F B41-B44 B4D B55-B56 B62-B63 B82 BC0 BCD C00 C04 C3C
    C3E-C40 C46-C48 C4A-C4D C55-C56 C62-C63 C81 CBC CBF CC6 CCC-CCD CE2-CE3 D00-D01 D3B-D3C
    D41-D44 D4D D62-D63 D81 DCA DD2-DD4 DD6 E31 E34-E3A E47-E4E EB1 EB4-EBC EC8-ECE F18-F19
    F35-F39/2 F71-F7E F80-F84 F86-F87 F8D-F97 F99-FBC FC6 102D-1030 1032-1037 1039-103A
    103D-103E 1058-1059 105E-1060 1071-1074 1082 1085-1086 108D 109D 135D-135F 1712-1714
    1732-1733 1752-1753 1772-1773 17B4-17B5 17B7-17BD 17C6 17C9-17D3 17DD 180B-180D 180F
    1885-1886 18A9 1920-1922 1927-1928 1932 1939-193B 1A17-1A18 1A1B 1A56 1A58-1A5E 1A60 1A62
    1A65-1A6C 1A73-1A7C 1A7F 1AB0-1ADD 1AE0-1AEB 1B00-1B03 1B34 1B36-1B3A 1B3C 1B42 1B6B-1B73
    1B80-1B81 1BA2-1BA5 1BA8-1BA9 1BAB-1BAD 1BE6 1BE8-1BE9 1BED 1BEF-1BF1 1C2C-1C33 1C36-1C37
    1CD0-1CD2 1CD4-1CE0 1CE2-1CE8 1CED 1CF4 1CF8-1CF9 1DC0-1DFF 200B 200E-200F 202A-202E
    2060-2064 206A-206F 20D0-20F0 2CEF-2CF1 2D7F 2DE0-2DFF 302A-302D 3099-309A A66F-A672
    A674-A67D A69E-A69F A6F0-A6F1 A802 A806 A80B A825-A826 A82C A8C4-A8C5 A8E0-A8F1 A8FF
    A926-A92D A947-A951 A980-A982 A9B3 A9B6-A9B9 A9BC-A9BD A9E5 AA29-AA2E AA31-AA32 AA35-AA36
    AA43 AA4C AA7C AAB0 AAB2-AAB4 AAB7-AAB8 AABE-AABF AAC1 AAEC-AAED AAF6 ABE5 ABE8 ABED FB1E
    FE00-FE0F FE20-FE2F FEFF FFF9-FFFB 101FD 102E0 10376-1037A 10A01-10A03 10A05-10A06
    10A0C-10A0F 10A38-10A3A 10A3F 10AE5-10AE6 10D24-10D27 10D69-10D6D 10EAB-10EAC 10EFA-10EFF
    10F46-10F50 10F82-10F85 11001 11038-11046 11070 11073-11074 1107F-11081 110B3-110B6
    110B9-110BA 110C2 11100-11102 11127-1112B 1112D-11134 11173 11180-11181 111B6-111BE
    111C9-111CC 111CF 1122F-11231 11234 11236-11237 1123E 11241 112DF 112E3-112EA 11300-11301
    1133B-1133C 11340 11366-1136C 11370-11374 113BB-113C0 113CE-113D2/2 113E1-113E2 11438-1143F
    11442-11444 11446 1145E 114B3-114B8 114BA 114BF-114C0 114C2-114C3 115B2-115B5 115BC-115BD
    115BF-115C0 115DC-115DD 11633-1163A 1163D 1163F-11640 116AB 116AD 116B0-116B5 116B7 1171D
    1171F 11722-11725 11727-1172B 1182F-11837 11839-1183A 1193B-1193C 1193E 11943 119D4-119D7
    119DA-119DB 119E0 11A01-11A0A 11A33-11A38 11A3B-11A3E 11A47 11A51-11A56 11A59-11A5B
    11A8A-11A96 11A98-11A99 11B60 11B62-11B64 11B66 11C30-11C36 11C38-11C3D 11C3F 11C92-11CA7
    11CAA-11CB0 11CB2-11CB3 11CB5-11CB6 11D31-11D36 11D3A 11D3C-11D3D 11D3F-11D45 11D47
    11D90-11D91 11D95 11D97 11EF3-11EF4 11F00-11F01 11F36-11F3A 11F40 11F42 11F5A 13430-13440
    13447-13455 1611E-16129 1612D-1612F 16AF0-16AF4 16B30-16B36 16F4F 16F8F-16F92 16FE4
    1BC9D-1BC9E 1BCA0-1BCA3 1CF00-1CF2D 1CF30-1CF46 1D167-1D169 1D173-1D182 1D185-1D18B
    1D1AA-1D1AD 1D242-1D244 1DA00-1DA36 1DA3B-1DA6C 1DA75 1DA84 1DA9B-1DA9F 1DAA1-1DAAF
    1E000-1E006 1E008-1E018 1E01B-1E021 1E023-1E024 1E026-1E02A 1E08F 1E130-1E136 1E2AE
    1E2EC-1E2EF 1E4EC-1E4EF 1E5EE-1E5EF 1E6E3 1E6E6 1E6EE-1E6EF 1E6F5 1E8D0-1E8D6 1E944-1E94B
    E0001 E0020-E007F E0100-E01EF"

end Valued
end Text
end Wdl
