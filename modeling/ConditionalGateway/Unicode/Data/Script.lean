/-!
# Scripts

The script of every code point that has one. Each entry has a name and a set in the
written form of `CharSet.decode`.
-/

namespace ConditionalGateway.Unicode.Data

def scripts : List (String × String) := [
  ("adlam", "1E900-4B 4-9 4-1"),
  ("ahom", "11700-1A 2-E 4-16"),
  ("anatolianhieroglyphs", "14400-246"),
  ("arabic", "600-4 1-5 1-D 1-2 1-1F 1-9 B-19 1-6B 1-21 50-2F F0-1E 1-1 5-4A 1-1C
F250-72 10-16A 2-4F 2-35 7 20-F 70-4 1-86 F63-1E 43-2 37-3 DF00-3 1-1A 1-1 1 2 1-9 1-3 1 1 6 4 1 1
1-2 1-1 1 2 1 1 1 1 1-1 1 2-3 1-6 1-3 1-3 1 1-9 1-10 5-2 1-4 1-10 34-1"),
  ("armenian", "531-25 2-31 2-2 F583-4"),
  ("avestan", "10B00-35 3-6"),
  ("balinese", "1B00-4C 1-31"),
  ("bamum", "A6A0-57 C108-238"),
  ("bassavah", "16AD0-1D 2-5"),
  ("batak", "1BC0-33 8-3"),
  ("bengali", "980-3 1-7 2-1 2-15 1-6 1 3-3 2-8 2-1 2-3 8 4-1 1-4 2-18"),
  ("bhaiksuki", "11C00-8 1-2C 1-D A-1C"),
  ("bopomofo", "2EA-1 2E19-2A 70-1F"),
  ("brahmi", "11000-4D 4-23 9"),
  ("braille", "2800-FF"),
  ("buginese", "1A00-1B 2-1"),
  ("buhid", "1740-13"),
  ("canadianaboriginal", "1400-27F 230-45 101BA-F"),
  ("carian", "102A0-30"),
  ("caucasianalbanian", "10530-33 B"),
  ("chakma", "11100-34 1-11"),
  ("cham", "AA00-36 9-D 2-9 2-3"),
  ("cherokee", "13A0-55 2-5 9772-4F"),
  ("chorasmian", "10FB0-1B"),
  ("common", "0-40 1A-5 1A-2E 1-E 1-4 17 1F 1C1-26 5-4 2-13 74 9 6 1 27D 6 E 3 20 9C 204
81-1 4D9 195-3 122 5EF-2 47-1 CB-1 1 4CD D 7-3 1-5 1-2 2 305-B 2-56 1-A 3-A 1-E 11-20 3F-25 1-2
2-5 1-1A 1-10 29-2 4-299 16-A 15-39F 100-273 2-1F 1-68 200-5D 192-14 1 1-18 F-7 4-3 5B-1 3 5A-1
93-F 20-25 9 30-3F 1F-50 2F 58-A7 19C0-3F 5900-21 66-2 A5-9 F4 A0 18B E-1 51D2-1 D0-9 16-22 1-12
1-3 93 1-1F 1A-5 1A-A A 2D-1 40-6 1-6 A-4 102-2 4-2C 3-8 50-C 33-2C E4-1A B9A4-3 F5C-F9 6-1B3
9C-73 3C-F5 A-26 2-3D 3-10 8-1 7-1D 4-3C D5-13 C-13 C-56 9-18 87-54 1-46 1-1 2 2-1 2-3 1-B 1 1-6
1-40 1-3 2-7 1-6 1-1B 1-3 1-4 1 3-6 1-153 2-123 2-31 1471-43 4C-3C 2C2-2B 4-63 C-E 2-E 1-E 1-24
A-AD 38-19 1-1 D-2B 4-8 7-1 E-5 9A-3D7 4-10 3-C 3-76 4-5E 6-B 4 F-B 4-37 8-9 6-27 8-1D 2-B 4-1
3E-153 C-D 2-C 3-9 5-37 7-E 2-A 6-8 7-92 1-65 C0407 1E-5F"),
  ("coptic", "3E2-D 2890-73 5-6"),
  ("cuneiform", "12000-399 66-6E 1-4 B-C3"),
  ("cypriot", "10800-5 2 1-2B 1-1 3 2"),
  ("cyprominoan", "12F90-62"),
  ("cyrillic", "400-84 2-A8 1750-A A0 4C 1067-1F 7840-5F 578E-1 E200-3D 21"),
  ("deseret", "10400-4F"),
  ("devanagari", "900-50 4-E 2-19 9F60-1F 7200-9"),
  ("divesakuru", "11900-6 2 2-7 1-1 1-1D 1-1 2-B 9-9"),
  ("dogra", "11800-3B"),
  ("duployan", "1BC00-6A 5-C 3-8 7-9 2-3"),
  ("egyptianhieroglyphs", "13000-455 A-F9A"),
  ("elbasan", "10500-27"),
  ("elymaic", "10FE0-16"),
  ("ethiopic", "1200-48 1-3 2-6 1 1-3 2-28 1-3 2-20 1-3 2-6 1 1-3 2-E 1-38 1-3 2-42 2-1F
3-19 19E6-16 9-6 1-6 1-6 1-6 1-6 1-6 1-6 1-6 7D22-5 2-5 2-5 9-6 1-6 13CB1-6 1-3 1-1 1-E"),
  ("garay", "10D40-25 3-1C 8-1"),
  ("georgian", "10A0-25 1 5 2-2A 1-3 B90-2A 2-2 1040-25 1 5"),
  ("glagolitic", "2C00-5F 1B3A0-6 1-10 2-6 1-1 1-4"),
  ("gothic", "10330-1A"),
  ("grantha", "11300-3 1-7 2-1 2-15 1-6 1-1 1-4 2-8 2-1 2-2 2 6 5-6 2-6 3-4"),
  ("greek", "370-3 1-2 2-3 1 4 1 1-2 1 1-13 1-3E E-F 1926-4 32-4 4-4 54 140-15 2-5 2-25
2-5 2-7 1 1 1 1-1E 2-34 1-E 1-D 2-5 1-12 2-2 1-8 127 8A3E 55DA-4E 11 D05F-45"),
  ("gujarati", "A81-2 1-8 1-2 1-15 1-6 1-1 1-4 2-9 1-2 1-2 2 F-3 2-B 7-6"),
  ("gunjalagondi", "11D60-5 1-1 1-24 1-1 1-5 7-9"),
  ("gurmukhi", "A01-2 1-5 4-1 2-15 1-6 1-1 1-1 1-1 2 1-4 4-1 2-2 3 7-3 1 7-10"),
  ("gurungkhema", "16100-39"),
  ("han", "2E80-19 1-58 C-D5 2F 1 19-8 E-3 3C4-19BF 40-51FF 5900-16D 2-69 7508-1 C-1
900E-A6DF 20-1039 6-DD 2-1681 E-1D30 F-26D 9A2-21D 5E2-134A 5-105F"),
  ("hangul", "1100-FF 1E2E-1 101-5D 71-1E 41-1E 76E1-1C 283-2BA3 C-16 4-30 27A4-1E 3-5 2-5 2-5
2-2"),
  ("hanifirohingya", "10D00-27 8-9"),
  ("hanunoo", "1720-14"),
  ("hatran", "108E0-12 1-1 5-4"),
  ("hebrew", "591-36 8-1A 4-5 F528-19 1-4 1 1-1 1-1 1-9"),
  ("hiragana", "3041-55 6-2 17F61-11E 12 1D-2 40AD"),
  ("imperialaramaic", "10840-15 1-8"),
  ("inherited", "300-6F 115-1 1C4-A 1A 2E0-3 115B-1E 201-2 1-C 1-6 4 6 3-1 C6-3F 20C-1
C2-20 F39-3 6B-1 CD65-F 10-D 3CF E2 105A BBC4-2D 2-16 220-2 11-7 2-6 1E-3 C2F52-EF"),
  ("inscriptionalpahlavi", "10B60-12 5-7"),
  ("inscriptionalparthian", "10B40-15 2-7"),
  ("javanese", "A980-4D 2-9 4-1"),
  ("kaithi", "11080-42 A"),
  ("kannada", "C80-C 1-2 1-16 1-9 1-4 2-8 1-2 1-3 7-1 6-1 1-3 2-9 1-2"),
  ("katakana", "30A1-59 2-2 F0-F D0-2E 1-57 CC0E-9 1-2C B052-3 1-6 1-1 1 11F-2 32 E-3"),
  ("kawi", "11F00-10 1-28 3-1C"),
  ("kayahli", "A900-2D 1"),
  ("kharoshthi", "10A00-3 1-1 5-7 1-2 1-1C 2-2 4-9 7-8"),
  ("khitansmallscript", "16FE4 1B1B-1D5 29"),
  ("khmer", "1780-5D 2-9 6-9 1E6-1F"),
  ("khojki", "11200-11 1-2E"),
  ("khudawadi", "112B0-3A 5-9"),
  ("kiratrai", "16D40-39"),
  ("lao", "E81-1 1 1-4 1-17 1 1-16 2-4 1 1-6 1-9 2-3"),
  ("latin", "41-19 6-19 2F F 5-16 1-1E 1-1C0 27-4 1A1B-25 6-30 5-3 5-C 1-45 41-FF 171 D
10-C 8D-1 6 1B 11-28 AD7-1F 7AA2-65 3-42 2-1 1 1-7 15-D 330-2A 1-8 1-3 4F96-6 41A-19 6-19 825-5
1-29 1-8 D745-1E 6-5"),
  ("lepcha", "1C00-37 3-E 3-2"),
  ("limbu", "1900-1E 1-B 4-B 4 3-B"),
  ("lineara", "10600-136 9-15 A-7"),
  ("linearb", "10000-B 1-19 1-12 1-1 1-E 2-D 22-7A"),
  ("lisu", "A4D0-2F 7AB0"),
  ("lycian", "10280-1C"),
  ("lydian", "10920-19 5"),
  ("mahajani", "11150-26"),
  ("makasar", "11EE0-18"),
  ("malayalam", "D00-C 1-2 1-32 1-2 1-5 4-F 2-19"),
  ("mandaic", "840-1B 2"),
  ("manichaean", "10AC0-26 4-B"),
  ("marchen", "11C70-1F 2-15 1-D"),
  ("masaramgondi", "11D00-6 1-1 1-2B 3 1-1 1-8 8-9"),
  ("medefaidrin", "16E40-5A"),
  ("meeteimayek", "AAE0-16 C9-2D 2-9"),
  ("mendekikakui", "1E800-C4 2-F"),
  ("meroiticcursive", "109A0-17 4-13 2-2D"),
  ("meroitichieroglyphs", "10980-1F"),
  ("miao", "16F00-4A 4-38 7-10"),
  ("modi", "11600-44 B-9"),
  ("mongolian", "1800-1 2 1-13 6-58 7-2A FDB5-C"),
  ("mro", "16A40-1E 1-9 4-1"),
  ("multani", "11280-6 1 1-3 1-E 1-A"),
  ("myanmar", "1000-9F 9940-1E 61-1F 6C50-13"),
  ("nabataean", "10880-1E 8-8"),
  ("nagmundari", "1E4D0-29"),
  ("nandinagari", "119A0-7 2-2D 2-A"),
  ("newtailue", "1980-2B 4-19 6-A 3-1"),
  ("newa", "11400-5B 1-4"),
  ("nko", "7C0-3A 2-2"),
  ("nushu", "16FE1 418E-18B"),
  ("nyiakengpuachuehmong", "1E100-2C 3-D 2-9 4-1"),
  ("ogham", "1680-1C"),
  ("olchiki", "1C50-2F"),
  ("olonal", "1E5D0-2A 4"),
  ("oldhungarian", "10C80-32 D-32 7-5"),
  ("olditalic", "10300-23 9-2"),
  ("oldnortharabian", "10A80-1F"),
  ("oldpermic", "10350-2A"),
  ("oldpersian", "103A0-23 4-D"),
  ("oldsogdian", "10F00-27"),
  ("oldsoutharabian", "10A60-1F"),
  ("oldturkic", "10C00-48"),
  ("olduyghur", "10F70-19"),
  ("oriya", "B01-2 1-7 2-1 2-15 1-6 1-1 1-4 2-8 2-1 2-2 7-2 4-1 1-4 2-11"),
  ("osage", "104B0-23 4-23"),
  ("osmanya", "10480-1D 2-9"),
  ("pahawhhmong", "16B00-45 A-9 1-6 1-14 5-12"),
  ("palmyrene", "10860-1F"),
  ("paucinhau", "11AC0-38"),
  ("phagspa", "A840-37"),
  ("phoenician", "10900-1B 3"),
  ("psalterpahlavi", "10B80-11 7-3 C-6"),
  ("rejang", "A930-23 B"),
  ("runic", "16A0-4A 3-A"),
  ("samaritan", "800-2D 2-E"),
  ("saurashtra", "A880-45 8-B"),
  ("sharada", "11180-5F"),
  ("shavian", "10450-2F"),
  ("siddham", "11580-35 2-25"),
  ("signwriting", "1D800-28B F-4 1-E"),
  ("sinhala", "D81-2 1-11 3-17 1-8 1 2-6 3 4-5 1 1-7 6-9 2-2 103EC-13"),
  ("sogdian", "10F30-29"),
  ("sorasompeng", "110D0-18 7-9"),
  ("soyombo", "11A50-52"),
  ("sundanese", "1B80-3F 100-7"),
  ("sunuwar", "11BC0-21 E-9"),
  ("sylotinagri", "A800-2C"),
  ("syriac", "700-D 1-3B 2-2 110-A"),
  ("tagalog", "1700-15 9"),
  ("tagbanwa", "1760-C 1-2 1-1"),
  ("taile", "1950-1D 2-4"),
  ("taitham", "1A20-3E 1-1C 2-A 6-9 6-D"),
  ("taiviet", "AA80-42 18-4"),
  ("takri", "11680-39 6-9"),
  ("tamil", "B82-1 1-5 3-2 1-3 3-1 1 1-1 3-1 3-2 3-B 4-4 3-2 1-3 2 6 E-14 113C5-31 D"),
  ("tangsa", "16A70-4E 1-9"),
  ("tangut", "16FE0 1F-17F7 8-2FF 200-8"),
  ("telugu", "C00-C 1-2 1-16 1-F 2-8 1-2 1-3 7-1 1-2 2 2-3 2-9 7-8"),
  ("thaana", "780-31"),
  ("thai", "E01-39 5-1B"),
  ("tibetan", "F00-47 1-23 4-26 1-23 1-E 1-6 4-1"),
  ("tifinagh", "2D30-37 7-1 E"),
  ("tirhuta", "11480-47 8-9"),
  ("todhri", "105C0-33"),
  ("toto", "1E290-1E"),
  ("tulutigalari", "11380-9 1 2 1-25 1-9 1 2 1-3 1-9 1-1 8-1"),
  ("ugaritic", "10380-1D 1"),
  ("vai", "A500-12B"),
  ("vithkuqi", "10570-A 1-E 1-6 1-1 1-A 1-E 1-6 1-1"),
  ("wancho", "1E2C0-39 5"),
  ("warangciti", "118A0-52 C"),
  ("yezidi", "10E80-29 1-2 2-1"),
  ("yi", "A000-48C 3-36"),
  ("zanabazarsquare", "11A00-47")]

end ConditionalGateway.Unicode.Data
