/-!
# Directions and joining

Which way the characters of domain names run, and how letters join their neighbours. Each
entry has a name and a set in the written form of `CharSet.decode`.
-/

namespace ConditionalGateway.Unicode.Data

/-- The code points of each bidirectional class, by its short name. A code point of a domain name
in none of the sets runs from left to right. -/
def bidiClasses : List (String × String) := [
  ("R", "5BE 1 2 2 9-1A 4-5 1CB-2A 9-1 4 3-17 4 9 3 7-E 1-18 5 FFA1-5 2 1-2B 1-1 3
2-16 1-47 8-8 30-12 1-1 5-20 4-19 5 40-37 4-13 2-2E F-3 1-2 1-1C A-8 7-8 7-3F 20-24 6-B 9-35 A-15
2-1A 5-19 7-3 C-6 50-48 77-32 7-5 40-F 1F-16 8-1 F0-29 3 2-1 4E-27 48-11 4-3 26-1B 14-16 D809-C4
2-8 52-21 7 4-9 4-1"),
  ("AL", "608 2 1 D 1-2D 22-2 1-3 4-5C F-1 7-1 A-13 2 1-1D 1D-58 B AE-A 5-1E 11-29
F2E8-10 2B0 E8C-23 19E-2 6B-15 B-8 DD17-43 4C-3C"),
  ("EN", "30-9 6B6-9 FBE7-1A"),
  ("ES", "2B 1 21E4"),
  ("CS", "2C 1-1 A 5D1 1A37"),
  ("ET", "23-2 7C-3 A-1 4DD 79-1 5F 387-1 7 F5 107 245 99B 854-2 6D-7 1-17 6D E4
8624-1 77A3-3 C31E"),
  ("AN", "660-9 1-1 106C3-9 126-1E"),
  ("ON", "21-1 3-4 10-5 1A-5 1A-3 22 4-1 1 1-1 1 7-1 3 3 17 1F 1C1-1 7-D 2-5 6-1 5-8
1-10 75 80 193 2-1 77-1 6-1 CE A 10C-3 3F9-5 1 7D-6 2BB-3 452-9 66 29A-1 153-9 6-A 135 3-1 98-21
610 1-4 1-B 3 D 2-3 1 1-4 1-1 3-C 1-6 A5 3 B 2-1 5-1 3 1 1 1 10 6-3 5-3 3C-1 4-81 2-17 2 2-F7 2-A
45-19 1-93 16-A A0-1C0 1-152 100-10B 1-66 3-64 1-96 2-1F 1-68 E5-5 E-6 100-5D 22-19 1-3 1-52 10E
1-1 3-18 F 6 5-2 60 5A C4-25 1BDA-3F 5690-36 146-2 63 A-1 80-21 66 9F-3 48-3 2F2-1 51D2-11 7F 2D-2
45-1 2BA 3E-4C 3-C 3 77E 219-6 22E 2E3-13 5FA-C 968-7 4-10 4FF0 5C1D-D5 2A-1B3 335-1 15-41 3 BA-56
1B99-1 10E-2B 4-63 C-E 2-E 1-E 1-24 15-4 1F 3D-2 3D B2-5 9A-3D7 4-10 3-C 3-76 4-5E 6-B 4 F-B 4-37
8-9 6-27 8-1D 2-B 4-1 3E-153 C-D 2-C 3-9 5-37 7-E 2-A 6-8 7-92 1-5B"),
  ("BN", "0-8 5-D 63 1F8C-1"),
  ("NSM", "300-3F 2 3-8 1-1F 113-6 107-2C 1 1-1 1-1 1 48-A 30-14 10 65-6 2-5 2-1 1-3
23 1E-1A 5B-A 3A-8 9 18-3 1-8 1-2 1-4 2B-2 3B-8 2A-17 1-1F 37 1 4-7 4 3-6 A-1 1D 3A 4-3 8 14-1 1A
2-1 39 4-1 4-1 2-2 3 1E-1 3 B-1 39 4-4 1-1 4 14-1 16-5 1 3A 2 1-3 8 7-1 B-1 1E 3D C 32 3 37 1-2
5-2 1-3 7-1 B-1 1D 3A F-1 14-1 1C-1 39-1 4-3 8 14-1 1D 48 7-2 1 5A 2-6 C-7 62 2-8 B-6 49-1 1B 1 1
37-1 1 5-4 1 1-2 1-1 5-5 1-3 1-3 1-3 1-3 1-3 1-B 1-2 9 66-3 1-5 1-1 2-1 19-1 4-2 10-3 D 2-1 6 F
2BF-2 3B2-2 1D-1 1E-1 1E-1 43-6 8 2-A 9 A7-1 22 76-2 4-1 9 6-2 DB-1 2 3A 1-6 1 1 2-7 6-9 2 30-1E
31-3 30 1-4 1 5 28-8 C-1 20-3 2-1 1-2 38 1-1 3 1-2 3A-7 2-1 98-2 1-C 1-6 4 6 3-1 C6-3F 2D0-20
BFE-2 8D 60-1F 22A-3 6B-1 75D4-3 1-9 20-1 50-1 110 3 4 19-1 5 97-1 1A-11 D 26-7 19-A 2E-2 30 2-3
2-1 27 43-5 2-1 2-1 C 8 2F 33 1-2 2-1 5-1 1 2A-1 8 EE 2 4 4F30 301-F 3CD E2 95-4 686-2 1-1 5-3
28-2 4 A5-1 23D-3 41-4 13D-1 4F-3 46-A 31-3 7B 36-E 29 2-1 A-2 31-3 2-1 7 3D-2 24-4 1-7 3E C-1
34-8 A-3 2 5F-2 2 1-1 6 2 9D 3-7 15-1 39-1 3 25-6 3-4 46-5 D 1 1 E-1 55-7 2-2 1 17 54-5 1 4-1 1-1
EE-3 6-1 1-1 1B-1 55-7 2 1-1 6A 1 2-5 1 65-2 2-3 1-4 103-8 1-1 100-1 1 4 90-3 2-1 4 20-5 2-1 28-5
2-3 8 9-5 2-2 2E-C 1-1 196-6 1-5 54-15 2-6 1-1 1-1 7A-5 3 1-1 1-6 1 48-1 3 1 15B-1 B-1 34-4 5 1 17
14E5 6-E 2CC8-B 3-2 9C0-4 3B-6 418 3F-3 51 4CB8-1 1261-2D 2-16 220-2 11-7 2-6 1E-3 94-2 7BB-36
4-31 8 E 16-4 1-E 550-6 1-10 2-6 1-1 1-4 64 A0-6 177 3D-3 1FC-3 FE-1 2E0-6 6D-6")]

/-- The code points of each joining type, by its short name. All others join nothing. -/
def joiningTypes : List (String × String) := [
  ("L", "A872 625A 9 228 2CA"),
  ("R", "622-3 1 1 5-3 15 28-2 1-2 10-11 26 2-8 1 1 2-1 1 18-1 20 4-4 4 9 1 1 2 1D
B-2 F-1 4 1-1 3-1 C6 5-1 1 A 1-2 E 1-1 5-12 B 1B-2 1 2-1 6 1020B 1 1-1 3-4 A 3 2 A 91 1-2 3 2 1-1
1 17-3 175 19F 70 20 1F-1 3E-2 2-1 2 4-1 5"),
  ("D", "620 5 1 1-4 4-C 1-6 1-1 23-1 8-F 12-25 1-1 9 1 1-1 28-2 2 12-2 5-3 1-8 1 1
1-1 1F-A 3-E 2-3 1 2-2 2-5 4A-20 56-4 2 1-9 1 A 1-3 2 1D 2-4 12-9 5-1 2-5 1-E F3E 18-58 E-21 1
8F95-31 624E-4 E-3 1-4 1-2 A-3 91 1 3-2 1-1 1 2 1C-1 152-20 1 19F-1 6B-2 1-10 C-2 1C-3 2-B 2E 1-1
4 2-1 1-1 1 2 5 D935-43"),
  ("T", "AD 252-6F 113-6 107-2C 1 1-1 1-1 1 48-A 1 2E-14 10 65-6 2-5 2-1 1-3 21 1
1E-1A 5B-A 3A-8 9 18-3 1-8 1-2 1-4 2B-2 3B-8 2A-17 1-1F 37 1 4-7 4 3-6 A-1 1D 3A 4-3 8 14-1 1A 2-1
39 4-1 4-1 2-2 3 1E-1 3 B-1 39 4-4 1-1 4 14-1 16-5 1 3A 2 1-3 8 7-1 B-1 1E 3D C 32 3 37 1-2 5-2
1-3 7-1 B-1 1D 3A 2 6 5-1 14-1 1C-1 39-1 4-3 8 14-1 1D 48 7-2 1 5A 2-6 C-7 62 2-8 B-6 49-1 1B 1 1
37-D 1-4 1-1 5-A 1-23 9 66-3 1-5 1-1 2-1 19-1 4-2 10-3 D 2-1 6 F 2BF-2 3B2-2 1D-1 1E-1 1E-1 40-1
1-6 8 2-A 9 2D-2 1 75-1 22 76-2 4-1 9 6-2 DB-1 2 3A 1-6 1 1 2-7 6-9 2 30-1E 31-3 30 1-4 1 5 28-8
C-1 20-3 2-1 1-2 38 1-1 3 1-2 3A-7 2-1 98-2 1-C 1-6 4 6 3-1 C6-3F 20B 2-1 1A-4 31-4 5-5 60-20
BFE-2 8D 60-1F 22A-3 6B-1 75D4-3 1-9 20-1 50-1 110 3 4 19-1 5 97-1 1A-11 D 26-7 19-A 2E-2 30 2-3
2-1 27 43-5 2-1 2-1 C 8 2F 33 1-2 2-1 5-1 1 2A-1 8 EE 2 4 4F30 2E1-F 10-F CF F9-2 201 E2 95-4
686-2 1-1 5-3 28-2 4 A5-1 23D-3 41-4 13D-1 4F-3 46-A 31-3 7B 36-E 29 2-1 A-2 31-3 2-1 7 3D-2 24-4
1-7 3E C-1 34-8 A-3 2 5F-2 2 1-1 6 2 9D 3-7 15-1 39-1 3 25-6 3-4 46-5 D 1 1 E-1 55-7 2-2 1 17 54-5
1 4-1 1-1 EE-3 6-1 1-1 1B-1 55-7 2 1-1 6A 1 2-5 1 65 1 2-3 1-4 103-8 1-1 100-1 1 4 90-3 2-1 4 20-9
28-5 2-3 8 9-5 2-2 2E-C 1-1 196-6 1-5 1 52-15 2-6 1-1 1-1 7A-5 3 1-1 1-6 1 48-1 3 1 15B-1 B-1 34-4
5 1 17 14D5-10 6-E 2CC8-B 3-2 9C0-4 3B-6 418 3F-3 51 4CB8-1 1-3 125C-2D 2-16 220-2 9-F 2-6 1E-3
94-2 7BB-36 4-31 8 E 16-4 1-E 550-6 1-10 2-6 1-1 1-4 64 A0-6 177 3D-3 1FC-3 FE-1 2E0-6 6D-7 C16B5
1E-5F 80-EF")]

end ConditionalGateway.Unicode.Data
