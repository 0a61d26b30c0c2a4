/-!
# Script extensions

Scripts whose characters are used by others too, or which use characters of others. Each
entry has a name and a set in the written form of `CharSet.decode`. A script that has no
entry here uses its own characters and no others.
-/

namespace ConditionalGateway.Unicode.Data

def scriptExtensions : List (String × String) := [
  ("adlam", "61F 20 1E2BF-4B 4-9 4-1"),
  ("arabic", "600-4 1-D6 1-21 50-2F F0-1E 1-1 5-4A 1-1C F250-72 10-1BC 2-35 7 20-F 70-4
1-86 3E3-1B B64-1E 43-2 37-3 DF00-3 1-1A 1-1 1 2 1-9 1-3 1 1 6 4 1 1 1-2 1-1 1 2 1 1 1 1 1-1 1 2-3
1-6 1-3 1-3 1 1-9 1-10 5-2 1-4 1-10 34-1"),
  ("bengali", "951-1 11-1 1A-3 1-7 2-1 2-15 1-6 1 3-3 2-8 2-1 2-3 8 4-1 1-4 2-18 12D1 1
2-1 1 8 8 2 4 2-2 8BF9"),
  ("bopomofo", "2EA-1 2D15-2 4-9 1-C A-3 2 6 C3 9-2A 70-1F CC85-1 11A-4"),
  ("buginese", "1A00-1B 2-1 8FAF"),
  ("buhid", "1735-1 9-13"),
  ("chakma", "9E6-9 650-9 100B6-34 1-11"),
  ("common", "0-40 1A-5 1A-2E 1-E 1-4 17 1F 1C1-26 5-4 2-13 74 9 6 1 27D D7 204 55C
195-3 712-2 912-B 2-20 1-34 1-A 3-A 1-E 11-20 3F-25 1-2 2-5 1-1A 1-10 29-2 4-299 16-A 15-39F
100-273 2-1F 1-68 200-42 1-19 192-10 3 D D 15 1AD-1 9 58-17 1F 31-E C-3 A1-9 5-5F 1F 19C0-3F
5908-19 66-2 3D0 E-1 52A4-9 16-14 2-B 1-12 1-3 93 1-1F 1A-5 1A-5 7F-6 1-6 A-4 192-C 33-2C CA03-F9
6-1B3 9C-73 3C-F5 A-26 2-3D 3-10 8-1 7-1D 4-3C D5-13 C-13 C-56 1B-6 87-54 1-46 1-1 2 2-1 2-3 1-B 1
1-6 1-40 1-3 2-7 1-6 1-1B 1-3 1-4 1 3-6 1-153 2-123 2-31 1471-43 4C-3C 2C2-2B 4-63 C-E 2-E 1-E
1-24 A-AD 38-19 1-1 D-2B 4-8 17-5 9A-3D7 4-10 3-C 3-76 4-5E 6-B 4 F-B 4-37 8-9 6-27 8-1D 2-B 4-1
3E-153 C-D 2-C 3-9 5-37 7-E 2-A 6-8 7-92 1-65 C0407 1E-5F"),
  ("coptic", "3E2-D 2890-73 5-6 D5E0-1B"),
  ("cypriot", "10100-2 4-2C 3-8 6C0-5 2 1-2B 1-1 3 2"),
  ("cyprominoan", "10100-1 2E8E-62"),
  ("cyrillic", "400-12F 1750-A A0 4C 7F FE7-1F 43 77FC-5F 578E-1 E200-3D 21"),
  ("devanagari", "900-52 2-2A 1350-26 1-1 3F6 873F-9 A6-1F 7200-9"),
  ("dogra", "964-B 9EC0-9 6FC6-3B"),
  ("duployan", "1BC00-6A 5-C 3-8 7-9 2-7"),
  ("georgian", "10A0-25 1 5 2-2F B90-2A 2-2 1040-25 1 5"),
  ("glagolitic", "484 2 2778-5F 1E3 782B 13990-6 1-10 2-6 1-1 1-4"),
  ("grantha", "951-1 11-1 280-D 10DC 1-1 1E-2 3-1 3F6 F20F-3 1-7 2-1 2-15 1-6 1-1 1-4 1-9
2-1 2-2 2 6 5-6 2-6 3-4 C5B-1 1"),
  ("greek", "342 2 2A-3 1-2 2-3 1 4 1 1-2 1 1-13 1-3E E-F 1926-4 32-4 4-4 54-2 13E-15
2-5 2-25 2-5 2-7 1 1 1 1-1E 2-34 1-E 1-D 2-5 1-12 2-2 1-8 127 8A3E 55DA-4E 11 D05F-45"),
  ("gujarati", "951-1 11-1 11B-2 1-8 1-2 1-15 1-6 1-1 1-4 2-9 1-2 1-2 2 F-3 2-B 7-6 9D30-9"),
  ("gunjalagondi", "964-1 113FA-5 1-1 1-24 1-1 1-5 7-9"),
  ("gurmukhi", "951-1 11-1 9B-2 1-5 4-1 2-15 1-6 1-1 1-1 1-1 2 1-4 4-1 2-2 3 7-3 1 7-10 9DB9-9"),
  ("han", "2E80-19 1-58 C-D5 2B-2 1-C 1-C 1-C 2 6-8 BB 94-F 20-23 3C-27 38-30 F-B 33
58-18 A-4 60-1E 1-19BF 40-51FF 700-7 51F8-16D 2-69 36B-1 11A-4 707C-1 C-1 636E-11 1EDE-1 DAE-A6DF
20-1039 6-DD 2-1681 E-1D30 F-26D 9A2-21D 5E2-134A 5-105F"),
  ("hangul", "1100-FF 1E01-2 4-9 1-C E-2 6 C3 35-5D 71-1E 41-1E 76E1-1C 283-2BA3 C-16
4-30 2649-1 11A-4 3A-1E 3-5 2-5 2-5 2-2"),
  ("hanifirohingya", "60C E 3 20 93 1062B-27 8-9"),
  ("hanunoo", "1720-16"),
  ("hiragana", "3001-2 4-9 1-C 10-5 1 4-1 3-55 2-7 5A-1 CD48-1 11A-4 A 2D-1 B061-11E 12 1D-2
40AD"),
  ("inherited", "300-41 1-1 1-1C 5F0-1 115B-1E 2F3-35 1 1-4 20C-1 C2-1F DD10-F 10-D 3CF
CD02-2D 2-16 220-2 11-7 2-6 1E-3 C2F52-EF"),
  ("javanese", "A980-4D 1-A 4-1"),
  ("kaithi", "966-9 9EC0-9 6846-42 A"),
  ("kannada", "951-1 11-1 31A-C 1-2 1-16 1-9 1-4 2-8 1-2 1-3 7-1 6-1 1-3 2-9 1-2 FDC 1 7 17 1
8B3B-5"),
  ("katakana", "3001-2 4-9 1-C 10-5 1 4-1 5B-3 3-5F F0-F D0-2E 1-57 CAED-1 11A-3E B050-3
1-6 1-1 1 11F-2 32 E-3"),
  ("kayahli", "A900-2F"),
  ("khojki", "AE6-9 9D40-9 69C6-11 1-2E"),
  ("khudawadi", "964-1 9ECA-9 6A76-3A 5-9"),
  ("latin", "41-19 6-19 2F F 5-16 1-1E 1-1C0 27-4 7E-C 115-1 4CA-1 7A8 C04-25 6-30 5-3
5-C 1-45 41-FF 12F 41 D 10-C 53 39-1 6 1B 11-28 AD7-1F 7A80-7 1A-65 3-42 2-1 1 1-7 15-D 12E 201-2A
1-8 1-3 4F96-6 41A-19 6-19 825-5 1-29 1-8 D745-1E 6-5"),
  ("limbu", "965 F9A-1E 1-B 4-B 4 3-B"),
  ("lineara", "10107-2C 4CC-136 9-15 A-7"),
  ("linearb", "10000-B 1-19 1-12 1-1 1-E 2-D 22-7A 5-2 4-2C 3-8"),
  ("mahajani", "964-B 9EC0-9 6916-26"),
  ("malayalam", "951-1 11-1 39A-C 1-2 1-32 1-2 1-5 4-F 2-19 F5A 8B55-2"),
  ("mandaic", "640 1FF-1B 2"),
  ("manichaean", "640 1047F-26 4-B"),
  ("masaramgondi", "964-1 1139A-6 1-1 1-2B 3 1-1 1-8 8-9"),
  ("modi", "A830-9 6DC6-44 B-9"),
  ("mongolian", "1800-19 6-58 7-2A 784 F630-C"),
  ("multani", "A66-9 10810-6 1 1-3 1-E 1-A"),
  ("myanmar", "1000-9F 988E B1-1E 61-1F 6C50-13"),
  ("nandinagari", "964-1 380-9 FF9 8 7 8B35-5 716A-7 2-2D 2-A"),
  ("nko", "60C E 3 1A0-3A 2-2 F53E-1"),
  ("oldpermic", "483 FECC-2A"),
  ("olduyghur", "640 104B1 47D-19"),
  ("oriya", "951-1 11-1 19B-2 1-7 2-1 2-15 1-6 1-1 1-4 2-8 2-1 2-2 7-2 4-1 1-4 2-11 1162 17"),
  ("phagspa", "1802-1 1 903A-37"),
  ("psalterpahlavi", "640 1053F-11 7-3 C-6"),
  ("sharada", "951 1385 1 2-1 2 F49F-5F"),
  ("sinhala", "964-1 41B-2 1-11 3-17 1-8 1 2-6 3 4-5 1 1-7 6-9 2-2 103EC-13"),
  ("sogdian", "640 108EF-29"),
  ("sylotinagri", "964-1 80-9 9E10-2C"),
  ("syriac", "60C E-1 2 20 A-A 1A 8F-D 1-3B 2-2 110-A 158D 1"),
  ("tagalog", "1700-15 9 15-1"),
  ("tagbanwa", "1735-1 29-C 1-2 1-1"),
  ("taile", "1040-9 906-1D 2-4"),
  ("takri", "964-1 9ECA-9 6E46-39 6-9"),
  ("tamil", "951-1 11-1 21C-1 1-5 3-2 1-3 3-1 1 1-1 3-1 3-2 3-B 4-4 3-2 1-3 2 6 E-14
10DF 8C18 6A0D 1 37-1 C83-31 D"),
  ("telugu", "951-1 11-1 29A-C 1-2 1-16 1-F 2-8 1-2 1-3 7-1 1-2 2 2-3 2-9 7-8 105A 17"),
  ("thaana", "60C E-1 2 40-9 116-31 F640 A"),
  ("tirhuta", "951-1 11-1 138C 8B3D-9 6C46-47 8-9"),
  ("yezidi", "60C E 3 40-9 10816-29 1-2 2-1"),
  ("yi", "3001-1 5-9 2-7 DF 6F04-48C 3-36 5A9A-4")]

end ConditionalGateway.Unicode.Data
