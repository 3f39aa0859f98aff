/-
**Composed characters.**

Some characters are made of others: a letter and the marks on it may be one character or several,
and a syllable of Hangul is one character that stands for the two or three of its letters.  Marks
come in classes.  Two marks of different classes do not touch each other, so their order says
nothing; marks of one class stand in the order in which they are written.

The tables are those of the Unicode character database, version 15.1: `classLines` has the classes
of marks, and `compositeLines` what characters are made of two others, with the second of the two
at the head of a section.  Characters that are never composed again from what they are made of are
left out.

Main definitions:

* `Text.combiningClass` — the class of a mark, and nought for any other character;
* `Text.parts?`, `Text.composite?` — the two characters that a character is made of, and the
  character that is made of two.
-/

import FieldQuery.Text.Table

set_option autoImplicit false

namespace FieldQuery.Text

/-! ### Classes of marks -/

/-- The classes of marks. -/
def classLines : List String :=
  ["1= 334-338 1CD4 1CE2-1CE8 20D2-20D3 20D8-20DA 20E5-20E6 20EA-20EB 10A39 16AF0-16AF4 1BC9E",
    "1D167-1D169 6= 16FF0-16FF1 7= 93C 9BC A3C ABC B3C C3C CBC 1037 1B34 1BE6 1C37 A9B3 110BA",
    "11173 111CA 11236 112E9 1133B-1133C 11446 114C3 115C0 116B7 1183A 11943 11D42 1E94A 8=",
    "3099-309A 9= 94D 9CD A4D ACD B4D BCD C4D CCD D3B-D3C D4D DCA E3A EBA F84 1039-103A 1714-1715",
    "1734 17D2 1A60 1B44 1BAA-1BAB 1BF2-1BF3 2D7F A806 A82C A8C4 A953 A9C0 AAF6 ABED 10A3F 11046",
    "11070 1107F 110B9 11133-11134 111C0 11235 112EA 1134D 11442 114C2 115BF 1163F 116B6 1172B",
    "11839 1193D-1193E 119E0 11A34 11A47 11A99 11C3F 11D44-11D45 11D97 11F41-11F42 A= 5B0 B= 5B1",
    "C= 5B2 D= 5B3 E= 5B4 F= 5B5 10= 5B6 11= 5B7 12= 5B8 5C7 13= 5B9-5BA 14= 5BB 15= 5BC 16= 5BD",
    "17= 5BF 18= 5C1 19= 5C2 1A= FB1E 1B= 64B 8F0 1C= 64C 8F1 1D= 64D 8F2 1E= 618 64E 1F= 619 64F",
    "20= 61A 650 21= 651 22= 652 23= 670 24= 711 54= C55 5B= C56 67= E38-E39 6B= E48-E4B 76=",
    "EB8-EB9 7A= EC8-ECB 81= F71 82= F72 F7A-F7D F80 84= F74 CA= 321-322 327-328 1DD0 D6= 1DCE D8=",
    "31B F39 1D165-1D166 1D16E-1D172 DA= 1DFA 302A DC= 316-319 31C-320 323-326 329-333 339-33C",
    "347-349 34D-34E 353-356 359-35A 591 596 59B 5A2-5A7 5AA 5C5 655-656 65C 65F 6E3 6EA 6ED 731",
    "734 737-739 73B-73C 73E 742 744 746 748 7F2 7FD 859-85B 899-89B 8CF-8D3 8E3 8E6 8E9 8ED-8EF",
    "8F6 8F9-8FA 952 F18-F19 F35 F37 FC6 108D 193B 1A18 1A7F 1AB5-1ABA 1ABD 1ABF-1AC0 1AC3-1AC4",
    "1ACA 1B6C 1CD5-1CD9 1CDC-1CDF 1CED 1DC2 1DCA 1DCF 1DF9 1DFD 1DFF 20E8 20EC-20EF A92B-A92D",
    "AAB4 FE27-FE2D 101FD 102E0 10A0D 10A3A 10AE6 10EFD-10EFF 10F46-10F47 10F4B 10F4D-10F50 10F83",
    "10F85 1D17B-1D182 1D18A-1D18B 1E4EE 1E8D0-1E8D6 DE= 59A 5AD 1939 302D E0= 302E-302F E2= 1D16D",
    "E4= 5AE 18A9 1DF7-1DF8 302B E6= 300-314 33D-344 346 34A-34C 350-352 357 35B 363-36F 483-487",
    "592-595 597-599 59C-5A1 5A8-5A9 5AB-5AC 5AF 5C4 610-617 653-654 657-65B 65D-65E 6D6-6DC",
    "6DF-6E2 6E4 6E7-6E8 6EB-6EC 730 732-733 735-736 73A 73D 73F-741 743 745 747 749-74A 7EB-7F1",
    "7F3 816-819 81B-823 825-827 829-82D 898 89C-89F 8CA-8CE 8D4-8E1 8E4-8E5 8E7-8E8 8EA-8EC",
    "8F3-8F5 8F7-8F8 8FB-8FF 951 953-954 9FE F82-F83 F86-F87 135D-135F 17DD 193A 1A17 1A75-1A7C",
    "1AB0-1AB4 1ABB-1ABC 1AC1-1AC2 1AC5-1AC9 1ACB-1ACE 1B6B 1B6D-1B73 1CD0-1CD2 1CDA-1CDB 1CE0",
    "1CF4 1CF8-1CF9 1DC0-1DC1 1DC3-1DC9 1DCB-1DCC 1DD1-1DF5 1DFB 1DFE 20D0-20D1 20D4-20D7",
    "20DB-20DC 20E1 20E7 20E9 20F0 2CEF-2CF1 2DE0-2DFF A66F A674-A67D A69E-A69F A6F0-A6F1",
    "A8E0-A8F1 AAB0 AAB2-AAB3 AAB7-AAB8 AABE-AABF AAC1 FE20-FE26 FE2E-FE2F 10376-1037A 10A0F 10A38",
    "10AE5 10D24-10D27 10EAB-10EAC 10F48-10F4A 10F4C 10F82 10F84 11100-11102 11366-1136C",
    "11370-11374 1145E 16B30-16B36 1D185-1D189 1D1AA-1D1AD 1D242-1D244 1E000-1E006 1E008-1E018",
    "1E01B-1E021 1E023-1E024 1E026-1E02A 1E08F 1E130-1E136 1E2AE 1E2EC-1E2EF 1E4EF 1E944-1E949 E8=",
    "315 31A 358 1DF6 302C 1E4EC-1E4ED E9= 35C 35F 362 1DFC EA= 35D-35E 360-361 1DCD F0= 345"]

/-- The classes of marks, read. -/
def classes : List Section := sections classLines

/-- The class of a mark, and nought for any other character. -/
def combiningClass (c : Char) : Nat :=
  if c.toNat < 0x300 then 0 else (headOf? classes c.toNat).getD 0

/-! ### Pairs -/

/-- The characters that are made of two others. -/
def compositeLines : List String :=
  ["300= 41-C0 45-C8 49-CC 4E-1F8 4F-D2 55-D9 57-1E80 59-1EF2 61-E0 65-E8 69-EC 6E-1F9 6F-F2",
    "75-F9 77-1E81 79-1EF3 A8-1FED C2-1EA6 CA-1EC0 D4-1ED2 DC-1DB E2-1EA7 EA-1EC1 F4-1ED3 FC-1DC",
    "102-1EB0 103-1EB1 112-1E14 113-1E15 14C-1E50 14D-1E51 1A0-1EDC 1A1-1EDD 1AF-1EEA 1B0-1EEB",
    "391-1FBA 395-1FC8 397-1FCA 399-1FDA 39F-1FF8 3A5-1FEA 3A9-1FFA 3B1-1F70 3B5-1F72 3B7-1F74",
    "3B9-1F76 3BF-1F78 3C5-1F7A 3C9-1F7C 3CA-1FD2 3CB-1FE2 415-400 418-40D 435-450 438-45D",
    "1F00-1F02 1F01-1F03 1F08-1F0A 1F09-1F0B 1F10-1F12 1F11-1F13 1F18-1F1A 1F19-1F1B 1F20-1F22",
    "1F21-1F23 1F28-1F2A 1F29-1F2B 1F30-1F32 1F31-1F33 1F38-1F3A 1F39-1F3B 1F40-1F42 1F41-1F43",
    "1F48-1F4A 1F49-1F4B 1F50-1F52 1F51-1F53 1F59-1F5B 1F60-1F62 1F61-1F63 1F68-1F6A 1F69-1F6B",
    "1FBF-1FCD 1FFE-1FDD 301= 41-C1 43-106 45-C9 47-1F4 49-CD 4B-1E30 4C-139 4D-1E3E 4E-143 4F-D3",
    "50-1E54 52-154 53-15A 55-DA 57-1E82 59-DD 5A-179 61-E1 63-107 65-E9 67-1F5 69-ED 6B-1E31",
    "6C-13A 6D-1E3F 6E-144 6F-F3 70-1E55 72-155 73-15B 75-FA 77-1E83 79-FD 7A-17A A8-385 C2-1EA4",
    "C5-1FA C6-1FC C7-1E08 CA-1EBE CF-1E2E D4-1ED0 D5-1E4C D8-1FE DC-1D7 E2-1EA5 E5-1FB E6-1FD",
    "E7-1E09 EA-1EBF EF-1E2F F4-1ED1 F5-1E4D F8-1FF FC-1D8 102-1EAE 103-1EAF 112-1E16 113-1E17",
    "14C-1E52 14D-1E53 168-1E78 169-1E79 1A0-1EDA 1A1-1EDB 1AF-1EE8 1B0-1EE9 391-386 395-388",
    "397-389 399-38A 39F-38C 3A5-38E 3A9-38F 3B1-3AC 3B5-3AD 3B7-3AE 3B9-3AF 3BF-3CC 3C5-3CD",
    "3C9-3CE 3CA-390 3CB-3B0 3D2-3D3 413-403 41A-40C 433-453 43A-45C 1F00-1F04 1F01-1F05 1F08-1F0C",
    "1F09-1F0D 1F10-1F14 1F11-1F15 1F18-1F1C 1F19-1F1D 1F20-1F24 1F21-1F25 1F28-1F2C 1F29-1F2D",
    "1F30-1F34 1F31-1F35 1F38-1F3C 1F39-1F3D 1F40-1F44 1F41-1F45 1F48-1F4C 1F49-1F4D 1F50-1F54",
    "1F51-1F55 1F59-1F5D 1F60-1F64 1F61-1F65 1F68-1F6C 1F69-1F6D 1FBF-1FCE 1FFE-1FDE 302= 41-C2",
    "43-108 45-CA 47-11C 48-124 49-CE 4A-134 4F-D4 53-15C 55-DB 57-174 59-176 5A-1E90 61-E2 63-109",
    "65-EA 67-11D 68-125 69-EE 6A-135 6F-F4 73-15D 75-FB 77-175 79-177 7A-1E91 1EA0-1EAC 1EA1-1EAD",
    "1EB8-1EC6 1EB9-1EC7 1ECC-1ED8 1ECD-1ED9 303= 41-C3 45-1EBC 49-128 4E-D1 4F-D5 55-168 56-1E7C",
    "59-1EF8 61-E3 65-1EBD 69-129 6E-F1 6F-F5 75-169 76-1E7D 79-1EF9 C2-1EAA CA-1EC4 D4-1ED6",
    "E2-1EAB EA-1EC5 F4-1ED7 102-1EB4 103-1EB5 1A0-1EE0 1A1-1EE1 1AF-1EEE 1B0-1EEF 304= 41-100",
    "45-112 47-1E20 49-12A 4F-14C 55-16A 59-232 61-101 65-113 67-1E21 69-12B 6F-14D 75-16B 79-233",
    "C4-1DE C6-1E2 D5-22C D6-22A DC-1D5 E4-1DF E6-1E3 F5-22D F6-22B FC-1D6 1EA-1EC 1EB-1ED 226-1E0",
    "227-1E1 22E-230 22F-231 391-1FB9 399-1FD9 3A5-1FE9 3B1-1FB1 3B9-1FD1 3C5-1FE1 418-4E2 423-4EE",
    "438-4E3 443-4EF 1E36-1E38 1E37-1E39 1E5A-1E5C 1E5B-1E5D 306= 41-102 45-114 47-11E 49-12C",
    "4F-14E 55-16C 61-103 65-115 67-11F 69-12D 6F-14F 75-16D 228-1E1C 229-1E1D 391-1FB8 399-1FD8",
    "3A5-1FE8 3B1-1FB0 3B9-1FD0 3C5-1FE0 410-4D0 415-4D6 416-4C1 418-419 423-40E 430-4D1 435-4D7",
    "436-4C2 438-439 443-45E 1EA0-1EB6 1EA1-1EB7 307= 41-226 42-1E02 43-10A 44-1E0A 45-116 46-1E1E",
    "47-120 48-1E22 49-130 4D-1E40 4E-1E44 4F-22E 50-1E56 52-1E58 53-1E60 54-1E6A 57-1E86 58-1E8A",
    "59-1E8E 5A-17B 61-227 62-1E03 63-10B 64-1E0B 65-117 66-1E1F 67-121 68-1E23 6D-1E41 6E-1E45",
    "6F-22F 70-1E57 72-1E59 73-1E61 74-1E6B 77-1E87 78-1E8B 79-1E8F 7A-17C 15A-1E64 15B-1E65",
    "160-1E66 161-1E67 17F-1E9B 1E62-1E68 1E63-1E69 308= 41-C4 45-CB 48-1E26 49-CF 4F-D6 55-DC",
    "57-1E84 58-1E8C 59-178 61-E4 65-EB 68-1E27 69-EF 6F-F6 74-1E97 75-FC 77-1E85 78-1E8D 79-FF",
    "D5-1E4E F5-1E4F 16A-1E7A 16B-1E7B 399-3AA 3A5-3AB 3B9-3CA 3C5-3CB 3D2-3D4 406-407 410-4D2",
    "415-401 416-4DC 417-4DE 418-4E4 41E-4E6 423-4F0 427-4F4 42B-4F8 42D-4EC 430-4D3 435-451",
    "436-4DD 437-4DF 438-4E5 43E-4E7 443-4F1 447-4F5 44B-4F9 44D-4ED 456-457 4D8-4DA 4D9-4DB",
    "4E8-4EA 4E9-4EB 309= 41-1EA2 45-1EBA 49-1EC8 4F-1ECE 55-1EE6 59-1EF6 61-1EA3 65-1EBB 69-1EC9",
    "6F-1ECF 75-1EE7 79-1EF7 C2-1EA8 CA-1EC2 D4-1ED4 E2-1EA9 EA-1EC3 F4-1ED5 102-1EB2 103-1EB3",
    "1A0-1EDE 1A1-1EDF 1AF-1EEC 1B0-1EED 30A= 41-C5 55-16E 61-E5 75-16F 77-1E98 79-1E99 30B=",
    "4F-150 55-170 6F-151 75-171 423-4F2 443-4F3 30C= 41-1CD 43-10C 44-10E 45-11A 47-1E6 48-21E",
    "49-1CF 4B-1E8 4C-13D 4E-147 4F-1D1 52-158 53-160 54-164 55-1D3 5A-17D 61-1CE 63-10D 64-10F",
    "65-11B 67-1E7 68-21F 69-1D0 6A-1F0 6B-1E9 6C-13E 6E-148 6F-1D2 72-159 73-161 74-165 75-1D4",
    "7A-17E DC-1D9 FC-1DA 1B7-1EE 292-1EF 30F= 41-200 45-204 49-208 4F-20C 52-210 55-214 61-201",
    "65-205 69-209 6F-20D 72-211 75-215 474-476 475-477 311= 41-202 45-206 49-20A 4F-20E 52-212",
    "55-216 61-203 65-207 69-20B 6F-20F 72-213 75-217 313= 391-1F08 395-1F18 397-1F28 399-1F38",
    "39F-1F48 3A9-1F68 3B1-1F00 3B5-1F10 3B7-1F20 3B9-1F30 3BF-1F40 3C1-1FE4 3C5-1F50 3C9-1F60",
    "314= 391-1F09 395-1F19 397-1F29 399-1F39 39F-1F49 3A1-1FEC 3A5-1F59 3A9-1F69 3B1-1F01",
    "3B5-1F11 3B7-1F21 3B9-1F31 3BF-1F41 3C1-1FE5 3C5-1F51 3C9-1F61 31B= 4F-1A0 55-1AF 6F-1A1",
    "75-1B0 323= 41-1EA0 42-1E04 44-1E0C 45-1EB8 48-1E24 49-1ECA 4B-1E32 4C-1E36 4D-1E42 4E-1E46",
    "4F-1ECC 52-1E5A 53-1E62 54-1E6C 55-1EE4 56-1E7E 57-1E88 59-1EF4 5A-1E92 61-1EA1 62-1E05",
    "64-1E0D 65-1EB9 68-1E25 69-1ECB 6B-1E33 6C-1E37 6D-1E43 6E-1E47 6F-1ECD 72-1E5B 73-1E63",
    "74-1E6D 75-1EE5 76-1E7F 77-1E89 79-1EF5 7A-1E93 1A0-1EE2 1A1-1EE3 1AF-1EF0 1B0-1EF1 324=",
    "55-1E72 75-1E73 325= 41-1E00 61-1E01 326= 53-218 54-21A 73-219 74-21B 327= 43-C7 44-1E10",
    "45-228 47-122 48-1E28 4B-136 4C-13B 4E-145 52-156 53-15E 54-162 63-E7 64-1E11 65-229 67-123",
    "68-1E29 6B-137 6C-13C 6E-146 72-157 73-15F 74-163 328= 41-104 45-118 49-12E 4F-1EA 55-172",
    "61-105 65-119 69-12F 6F-1EB 75-173 32D= 44-1E12 45-1E18 4C-1E3C 4E-1E4A 54-1E70 55-1E76",
    "64-1E13 65-1E19 6C-1E3D 6E-1E4B 74-1E71 75-1E77 32E= 48-1E2A 68-1E2B 330= 45-1E1A 49-1E2C",
    "55-1E74 65-1E1B 69-1E2D 75-1E75 331= 42-1E06 44-1E0E 4B-1E34 4C-1E3A 4E-1E48 52-1E5E 54-1E6E",
    "5A-1E94 62-1E07 64-1E0F 68-1E96 6B-1E35 6C-1E3B 6E-1E49 72-1E5F 74-1E6F 7A-1E95 338= 3C-226E",
    "3D-2260 3E-226F 2190-219A 2192-219B 2194-21AE 21D0-21CD 21D2-21CF 21D4-21CE 2203-2204",
    "2208-2209 220B-220C 2223-2224 2225-2226 223C-2241 2243-2244 2245-2247 2248-2249 224D-226D",
    "2261-2262 2264-2270 2265-2271 2272-2274 2273-2275 2276-2278 2277-2279 227A-2280 227B-2281",
    "227C-22E0 227D-22E1 2282-2284 2283-2285 2286-2288 2287-2289 2291-22E2 2292-22E3 22A2-22AC",
    "22A8-22AD 22A9-22AE 22AB-22AF 22B2-22EA 22B3-22EB 22B4-22EC 22B5-22ED 342= A8-1FC1 3B1-1FB6",
    "3B7-1FC6 3B9-1FD6 3C5-1FE6 3C9-1FF6 3CA-1FD7 3CB-1FE7 1F00-1F06 1F01-1F07 1F08-1F0E 1F09-1F0F",
    "1F20-1F26 1F21-1F27 1F28-1F2E 1F29-1F2F 1F30-1F36 1F31-1F37 1F38-1F3E 1F39-1F3F 1F50-1F56",
    "1F51-1F57 1F59-1F5F 1F60-1F66 1F61-1F67 1F68-1F6E 1F69-1F6F 1FBF-1FCF 1FFE-1FDF 345= 391-1FBC",
    "397-1FCC 3A9-1FFC 3AC-1FB4 3AE-1FC4 3B1-1FB3 3B7-1FC3 3C9-1FF3 3CE-1FF4 1F00-1F80 1F01-1F81",
    "1F02-1F82 1F03-1F83 1F04-1F84 1F05-1F85 1F06-1F86 1F07-1F87 1F08-1F88 1F09-1F89 1F0A-1F8A",
    "1F0B-1F8B 1F0C-1F8C 1F0D-1F8D 1F0E-1F8E 1F0F-1F8F 1F20-1F90 1F21-1F91 1F22-1F92 1F23-1F93",
    "1F24-1F94 1F25-1F95 1F26-1F96 1F27-1F97 1F28-1F98 1F29-1F99 1F2A-1F9A 1F2B-1F9B 1F2C-1F9C",
    "1F2D-1F9D 1F2E-1F9E 1F2F-1F9F 1F60-1FA0 1F61-1FA1 1F62-1FA2 1F63-1FA3 1F64-1FA4 1F65-1FA5",
    "1F66-1FA6 1F67-1FA7 1F68-1FA8 1F69-1FA9 1F6A-1FAA 1F6B-1FAB 1F6C-1FAC 1F6D-1FAD 1F6E-1FAE",
    "1F6F-1FAF 1F70-1FB2 1F74-1FC2 1F7C-1FF2 1FB6-1FB7 1FC6-1FC7 1FF6-1FF7 653= 627-622 654=",
    "627-623 648-624 64A-626 6C1-6C2 6D2-6D3 6D5-6C0 655= 627-625 93C= 928-929 930-931 933-934",
    "9BE= 9C7-9CB 9D7= 9C7-9CC B3E= B47-B4B B56= B47-B48 B57= B47-B4C BBE= BC6-BCA BC7-BCB BD7=",
    "B92-B94 BC6-BCC C56= C46-C48 CC2= CC6-CCA CD5= CBF-CC0 CC6-CC7 CCA-CCB CD6= CC6-CC8 D3E=",
    "D46-D4A D47-D4B D57= D46-D4C DCA= DD9-DDA DDC-DDD DCF= DD9-DDC DDF= DD9-DDE 102E= 1025-1026",
    "1B35= 1B05-1B06 1B07-1B08 1B09-1B0A 1B0B-1B0C 1B0D-1B0E 1B11-1B12 1B3A-1B3B 1B3C-1B3D",
    "1B3E-1B40 1B3F-1B41 1B42-1B43 3099= 3046-3094 304B-304C 304D-304E 304F-3050 3051-3052",
    "3053-3054 3055-3056 3057-3058 3059-305A 305B-305C 305D-305E 305F-3060 3061-3062 3064-3065",
    "3066-3067 3068-3069 306F-3070 3072-3073 3075-3076 3078-3079 307B-307C 309D-309E 30A6-30F4",
    "30AB-30AC 30AD-30AE 30AF-30B0 30B1-30B2 30B3-30B4 30B5-30B6 30B7-30B8 30B9-30BA 30BB-30BC",
    "30BD-30BE 30BF-30C0 30C1-30C2 30C4-30C5 30C6-30C7 30C8-30C9 30CF-30D0 30D2-30D3 30D5-30D6",
    "30D8-30D9 30DB-30DC 30EF-30F7 30F0-30F8 30F1-30F9 30F2-30FA 30FD-30FE 309A= 306F-3071",
    "3072-3074 3075-3077 3078-307A 307B-307D 30CF-30D1 30D2-30D4 30D5-30D7 30D8-30DA 30DB-30DD",
    "110BA= 11099-1109A 1109B-1109C 110A5-110AB 11127= 11131-1112E 11132-1112F 1133E= 11347-1134B",
    "11357= 11347-1134C 114B0= 114B9-114BC 114BA= 114B9-114BB 114BD= 114B9-114BE 115AF=",
    "115B8-115BA 115B9-115BB 11930= 11935-11938"]

/-- The characters that are made of two others, read. -/
def composites : List Section := sections compositeLines

/-- The two characters that a character of the table is made of. -/
def listedParts? (n : Nat) : Option (Nat × Nat) :=
  composites.findSome? fun s => s.entries.findSome? fun e =>
    match e with
    | [a, m] => if m = n then some (a, s.head) else none
    | _ => none

/-- The character of the table that is made of two. -/
def listedComposite? (a b : Nat) : Option Nat :=
  (composites.find? fun s => s.head = b).bind fun s => s.entries.findSome? fun e =>
    match e with
    | [m, n] => if m = a then some n else none
    | _ => none

/-! ### Syllables -/

/-- The number of a syllable among those of Hangul. -/
def syllable? (n : Nat) : Option Nat := if 0xAC00 ≤ n ∧ n < 0xD7A4 then some (n - 0xAC00) else none

/-- The two parts of a syllable: its first two letters if there is a third, and else its letters. -/
def syllableParts (i : Nat) : Nat × Nat :=
  if i % 28 = 0 then (0x1100 + i / 588, 0x1161 + i % 588 / 28)
  else (0xAC00 + (i - i % 28), 0x11A7 + i % 28)

/-- The syllable of two letters, or of a syllable of two letters and a third one. -/
def syllableOf? (a b : Nat) : Option Nat :=
  if 0x1100 ≤ a ∧ a < 0x1113 ∧ 0x1161 ≤ b ∧ b < 0x1176 then
    some (0xAC00 + ((a - 0x1100) * 21 + (b - 0x1161)) * 28)
  else if 0xAC00 ≤ a ∧ a < 0xD7A4 ∧ (a - 0xAC00) % 28 = 0 ∧ 0x11A7 < b ∧ b < 0x11C3 then
    some (a + (b - 0x11A7))
  else none

/-! ### Composing -/

/-- The two characters that a character is made of. -/
def parts? (c : Char) : Option (Char × Char) :=
  if c.toNat < 0xC0 then none
  else ((syllable? c.toNat).map syllableParts).or (listedParts? c.toNat)
    |>.map fun p => (Char.ofNat p.1, Char.ofNat p.2)

/-- The character that is made of two. -/
def composite? (a b : Char) : Option Char :=
  if b.toNat < 0x300 then none
  else ((syllableOf? a.toNat b.toNat).or (listedComposite? a.toNat b.toNat)).map Char.ofNat

end FieldQuery.Text
