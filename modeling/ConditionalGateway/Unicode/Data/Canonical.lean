/-!
# Canonical decompositions

What canonical equivalence rests on: full decompositions, Hangul syllables apart, and
combining classes.
-/

namespace ConditionalGateway.Unicode.Data

/-- The full canonical decompositions, in the written form of `Replacements.decode`. -/
def decompositions : String :=
  "C0=41,300 1=41,301 1=41,302 1=41,303 1=41,308 1=41,30A 2=43,327 1=45,300
1=45,301 1=45,302 1=45,308 1=49,300 1=49,301 1=49,302 1=49,308 2=4E,303 1=4F,300 1=4F,301 1=4F,302
1=4F,303 1=4F,308 3=55,300 1=55,301 1=55,302 1=55,308 1=59,301 3=61,300 1=61,301 1=61,302 1=61,303
1=61,308 1=61,30A 2=63,327 1=65,300 1=65,301 1=65,302 1=65,308 1=69,300 1=69,301 1=69,302 1=69,308
2=6E,303 1=6F,300 1=6F,301 1=6F,302 1=6F,303 1=6F,308 3=75,300 1=75,301 1=75,302 1=75,308 1=79,301
2=79,308 1=41,304 1=61,304 1=41,306 1=61,306 1=41,328 1=61,328 1=43,301 1=63,301 1=43,302 1=63,302
1=43,307 1=63,307 1=43,30C 1=63,30C 1=44,30C 1=64,30C 3=45,304 1=65,304 1=45,306 1=65,306 1=45,307
1=65,307 1=45,328 1=65,328 1=45,30C 1=65,30C 1=47,302 1=67,302 1=47,306 1=67,306 1=47,307 1=67,307
1=47,327 1=67,327 1=48,302 1=68,302 3=49,303 1=69,303 1=49,304 1=69,304 1=49,306 1=69,306 1=49,328
1=69,328 1=49,307 4=4A,302 1=6A,302 1=4B,327 1=6B,327 2=4C,301 1=6C,301 1=4C,327 1=6C,327 1=4C,30C
1=6C,30C 5=4E,301 1=6E,301 1=4E,327 1=6E,327 1=4E,30C 1=6E,30C 4=4F,304 1=6F,304 1=4F,306 1=6F,306
1=4F,30B 1=6F,30B 3=52,301 1=72,301 1=52,327 1=72,327 1=52,30C 1=72,30C 1=53,301 1=73,301 1=53,302
1=73,302 1=53,327 1=73,327 1=53,30C 1=73,30C 1=54,327 1=74,327 1=54,30C 1=74,30C 3=55,303 1=75,303
1=55,304 1=75,304 1=55,306 1=75,306 1=55,30A 1=75,30A 1=55,30B 1=75,30B 1=55,328 1=75,328 1=57,302
1=77,302 1=59,302 1=79,302 1=59,308 1=5A,301 1=7A,301 1=5A,307 1=7A,307 1=5A,30C 1=7A,30C
22=4F,31B 1=6F,31B E=55,31B 1=75,31B 1D=41,30C 1=61,30C 1=49,30C 1=69,30C 1=4F,30C 1=6F,30C
1=55,30C 1=75,30C 1=55,308,304 1=75,308,304 1=55,308,301 1=75,308,301 1=55,308,30C 1=75,308,30C
1=55,308,300 1=75,308,300 2=41,308,304 1=61,308,304 1=41,307,304 1=61,307,304 1=C6,304 1=E6,304
3=47,30C 1=67,30C 1=4B,30C 1=6B,30C 1=4F,328 1=6F,328 1=4F,328,304 1=6F,328,304 1=1B7,30C
1=292,30C 1=6A,30C 4=47,301 1=67,301 3=4E,300 1=6E,300 1=41,30A,301 1=61,30A,301 1=C6,301 1=E6,301
1=D8,301 1=F8,301 1=41,30F 1=61,30F 1=41,311 1=61,311 1=45,30F 1=65,30F 1=45,311 1=65,311 1=49,30F
1=69,30F 1=49,311 1=69,311 1=4F,30F 1=6F,30F 1=4F,311 1=6F,311 1=52,30F 1=72,30F 1=52,311 1=72,311
1=55,30F 1=75,30F 1=55,311 1=75,311 1=53,326 1=73,326 1=54,326 1=74,326 3=48,30C 1=68,30C 7=41,307
1=61,307 1=45,327 1=65,327 1=4F,308,304 1=6F,308,304 1=4F,303,304 1=6F,303,304 1=4F,307 1=6F,307
1=4F,307,304 1=6F,307,304 1=59,304 1=79,304 10D-1=300 3=313 1=308,301 30=2B9 A=3B 7=A8,301
1=391,301 1=B7 1=395,301 1=397,301 1=399,301 2=39F,301 2=3A5,301 1=3A9,301 1=3B9,308,301
1A=399,308 1=3A5,308 1=3B1,301 1=3B5,301 1=3B7,301 1=3B9,301 1=3C5,308,301 1A=3B9,308 1=3C5,308
1=3BF,301 1=3C5,301 1=3C9,301 5=3D2,301 1=3D2,308 2C=415,300 1=415,308 2=413,301 4=406,308
5=41A,301 1=418,300 1=423,306 B=418,306 20=438,306 17=435,300 1=435,308 2=433,301 4=456,308
5=43A,301 1=438,300 1=443,306 18=474,30F 1=475,30F 4A=416,306 1=436,306 E=410,306 1=430,306
1=410,308 1=430,308 3=415,306 1=435,306 3=4D8,308 1=4D9,308 1=416,308 1=436,308 1=417,308
1=437,308 3=418,304 1=438,304 1=418,308 1=438,308 1=41E,308 1=43E,308 3=4E8,308 1=4E9,308
1=42D,308 1=44D,308 1=423,304 1=443,304 1=423,308 1=443,308 1=423,30B 1=443,30B 1=427,308
1=447,308 3=42B,308 1=44B,308 129=627,653 1=627,654 1=648,654 1=627,655 1=64A,654 9A=6D5,654
2=6C1,654 11=6D2,654 256=928,93C 8=930,93C 3=933,93C 24=915,93C 1=916,93C 1=917,93C 1=91C,93C
1=921,93C 1=922,93C 1=92B,93C 1=92F,93C 6C=9C7,9BE 1=9C7,9D7 10=9A1,9BC 1=9A2,9BC 2=9AF,9BC
54=A32,A3C 3=A38,A3C 23=A16,A3C 1=A17,A3C 1=A1C,A3C 3=A2B,A3C EA=B47,B56 3=B47,B3E 1=B47,B57
10=B21,B3C 1=B22,B3C 37=B92,BD7 36=BC6,BBE 1=BC7,BBE 1=BC6,BD7 7C=C46,C56 78=CBF,CD5 7=CC6,CD5
1=CC6,CD6 2=CC6,CC2 1=CC6,CC2,CD5 7F=D46,D3E 1=D47,D3E 1=D46,D57 8E=DD9,DCA 2=DD9,DCF
1=DD9,DCF,DCA 1=DD9,DDF 165=F42,FB7 A=F4C,FB7 5=F51,FB7 5=F56,FB7 5=F5B,FB7 D=F40,FB5 A=F71,F72
2=F71,F74 1=FB2,F80 2=FB3,F80 9=F71,F80 12=F92,FB7 A=F9C,FB7 5=FA1,FB7 5=FA6,FB7 5=FAB,FB7
D=F90,FB5 6D=1025,102E AE0=1B05,1B35 2=1B07,1B35 2=1B09,1B35 2=1B0B,1B35 2=1B0D,1B35 4=1B11,1B35
29=1B3A,1B35 2=1B3C,1B35 3=1B3E,1B35 1=1B3F,1B35 2=1B42,1B35 2BD=41,325 1=61,325 1=42,307 1=62,307
1=42,323 1=62,323 1=42,331 1=62,331 1=43,327,301 1=63,327,301 1=44,307 1=64,307 1=44,323 1=64,323
1=44,331 1=64,331 1=44,327 1=64,327 1=44,32D 1=64,32D 1=45,304,300 1=65,304,300 1=45,304,301
1=65,304,301 1=45,32D 1=65,32D 1=45,330 1=65,330 1=45,327,306 1=65,327,306 1=46,307 1=66,307
1=47,304 1=67,304 1=48,307 1=68,307 1=48,323 1=68,323 1=48,308 1=68,308 1=48,327 1=68,327 1=48,32E
1=68,32E 1=49,330 1=69,330 1=49,308,301 1=69,308,301 1=4B,301 1=6B,301 1=4B,323 1=6B,323 1=4B,331
1=6B,331 1=4C,323 1=6C,323 1=4C,323,304 1=6C,323,304 1=4C,331 1=6C,331 1=4C,32D 1=6C,32D 1=4D,301
1=6D,301 1=4D,307 1=6D,307 1=4D,323 1=6D,323 1=4E,307 1=6E,307 1=4E,323 1=6E,323 1=4E,331 1=6E,331
1=4E,32D 1=6E,32D 1=4F,303,301 1=6F,303,301 1=4F,303,308 1=6F,303,308 1=4F,304,300 1=6F,304,300
1=4F,304,301 1=6F,304,301 1=50,301 1=70,301 1=50,307 1=70,307 1=52,307 1=72,307 1=52,323 1=72,323
1=52,323,304 1=72,323,304 1=52,331 1=72,331 1=53,307 1=73,307 1=53,323 1=73,323 1=53,301,307
1=73,301,307 1=53,30C,307 1=73,30C,307 1=53,323,307 1=73,323,307 1=54,307 1=74,307 1=54,323
1=74,323 1=54,331 1=74,331 1=54,32D 1=74,32D 1=55,324 1=75,324 1=55,330 1=75,330 1=55,32D 1=75,32D
1=55,303,301 1=75,303,301 1=55,304,308 1=75,304,308 1=56,303 1=76,303 1=56,323 1=76,323 1=57,300
1=77,300 1=57,301 1=77,301 1=57,308 1=77,308 1=57,307 1=77,307 1=57,323 1=77,323 1=58,307 1=78,307
1=58,308 1=78,308 1=59,307 1=79,307 1=5A,302 1=7A,302 1=5A,323 1=7A,323 1=5A,331 1=7A,331 1=68,331
1=74,308 1=77,30A 1=79,30A 2=17F,307 5=41,323 1=61,323 1=41,309 1=61,309 1=41,302,301 1=61,302,301
1=41,302,300 1=61,302,300 1=41,302,309 1=61,302,309 1=41,302,303 1=61,302,303 1=41,323,302
1=61,323,302 1=41,306,301 1=61,306,301 1=41,306,300 1=61,306,300 1=41,306,309 1=61,306,309
1=41,306,303 1=61,306,303 1=41,323,306 1=61,323,306 1=45,323 1=65,323 1=45,309 1=65,309 1=45,303
1=65,303 1=45,302,301 1=65,302,301 1=45,302,300 1=65,302,300 1=45,302,309 1=65,302,309
1=45,302,303 1=65,302,303 1=45,323,302 1=65,323,302 1=49,309 1=69,309 1=49,323 1=69,323 1=4F,323
1=6F,323 1=4F,309 1=6F,309 1=4F,302,301 1=6F,302,301 1=4F,302,300 1=6F,302,300 1=4F,302,309
1=6F,302,309 1=4F,302,303 1=6F,302,303 1=4F,323,302 1=6F,323,302 1=4F,31B,301 1=6F,31B,301
1=4F,31B,300 1=6F,31B,300 1=4F,31B,309 1=6F,31B,309 1=4F,31B,303 1=6F,31B,303 1=4F,31B,323
1=6F,31B,323 1=55,323 1=75,323 1=55,309 1=75,309 1=55,31B,301 1=75,31B,301 1=55,31B,300
1=75,31B,300 1=55,31B,309 1=75,31B,309 1=55,31B,303 1=75,31B,303 1=55,31B,323 1=75,31B,323
1=59,300 1=79,300 1=59,323 1=79,323 1=59,309 1=79,309 1=59,303 1=79,303 7=3B1,313 1=3B1,314
1=3B1,313,300 1=3B1,314,300 1=3B1,313,301 1=3B1,314,301 1=3B1,313,342 1=3B1,314,342 1=391,313
1=391,314 1=391,313,300 1=391,314,300 1=391,313,301 1=391,314,301 1=391,313,342 1=391,314,342
1=3B5,313 1=3B5,314 1=3B5,313,300 1=3B5,314,300 1=3B5,313,301 1=3B5,314,301 3=395,313 1=395,314
1=395,313,300 1=395,314,300 1=395,313,301 1=395,314,301 3=3B7,313 1=3B7,314 1=3B7,313,300
1=3B7,314,300 1=3B7,313,301 1=3B7,314,301 1=3B7,313,342 1=3B7,314,342 1=397,313 1=397,314
1=397,313,300 1=397,314,300 1=397,313,301 1=397,314,301 1=397,313,342 1=397,314,342 1=3B9,313
1=3B9,314 1=3B9,313,300 1=3B9,314,300 1=3B9,313,301 1=3B9,314,301 1=3B9,313,342 1=3B9,314,342
1=399,313 1=399,314 1=399,313,300 1=399,314,300 1=399,313,301 1=399,314,301 1=399,313,342
1=399,314,342 1=3BF,313 1=3BF,314 1=3BF,313,300 1=3BF,314,300 1=3BF,313,301 1=3BF,314,301
3=39F,313 1=39F,314 1=39F,313,300 1=39F,314,300 1=39F,313,301 1=39F,314,301 3=3C5,313 1=3C5,314
1=3C5,313,300 1=3C5,314,300 1=3C5,313,301 1=3C5,314,301 1=3C5,313,342 1=3C5,314,342 2=3A5,314
2=3A5,314,300 2=3A5,314,301 2=3A5,314,342 1=3C9,313 1=3C9,314 1=3C9,313,300 1=3C9,314,300
1=3C9,313,301 1=3C9,314,301 1=3C9,313,342 1=3C9,314,342 1=3A9,313 1=3A9,314 1=3A9,313,300
1=3A9,314,300 1=3A9,313,301 1=3A9,314,301 1=3A9,313,342 1=3A9,314,342 1=3B1,300 1=3B1,301
1=3B5,300 1=3B5,301 1=3B7,300 1=3B7,301 1=3B9,300 1=3B9,301 1=3BF,300 1=3BF,301 1=3C5,300
1=3C5,301 1=3C9,300 1=3C9,301 3=3B1,313,345 1=3B1,314,345 1=3B1,313,300,345 1=3B1,314,300,345
1=3B1,313,301,345 1=3B1,314,301,345 1=3B1,313,342,345 1=3B1,314,342,345 1=391,313,345
1=391,314,345 1=391,313,300,345 1=391,314,300,345 1=391,313,301,345 1=391,314,301,345
1=391,313,342,345 1=391,314,342,345 1=3B7,313,345 1=3B7,314,345 1=3B7,313,300,345
1=3B7,314,300,345 1=3B7,313,301,345 1=3B7,314,301,345 1=3B7,313,342,345 1=3B7,314,342,345
1=397,313,345 1=397,314,345 1=397,313,300,345 1=397,314,300,345 1=397,313,301,345
1=397,314,301,345 1=397,313,342,345 1=397,314,342,345 1=3C9,313,345 1=3C9,314,345
1=3C9,313,300,345 1=3C9,314,300,345 1=3C9,313,301,345 1=3C9,314,301,345 1=3C9,313,342,345
1=3C9,314,342,345 1=3A9,313,345 1=3A9,314,345 1=3A9,313,300,345 1=3A9,314,300,345
1=3A9,313,301,345 1=3A9,314,301,345 1=3A9,313,342,345 1=3A9,314,342,345 1=3B1,306 1=3B1,304
1=3B1,300,345 1=3B1,345 1=3B1,301,345 2=3B1,342 1=3B1,342,345 1=391,306 1=391,304 1=391,300
1=391,301 1=391,345 2=3B9 3=A8,342 1=3B7,300,345 1=3B7,345 1=3B7,301,345 2=3B7,342 1=3B7,342,345
1=395,300 1=395,301 1=397,300 1=397,301 1=397,345 1=1FBF,300 1=1FBF,301 1=1FBF,342 1=3B9,306
1=3B9,304 1=3B9,308,300 1=3B9,308,301 3=3B9,342 1=3B9,308,342 1=399,306 1=399,304 1=399,300
1=399,301 2=1FFE,300 1=1FFE,301 1=1FFE,342 1=3C5,306 1=3C5,304 1=3C5,308,300 1=3C5,308,301
1=3C1,313 1=3C1,314 1=3C5,342 1=3C5,308,342 1=3A5,306 1=3A5,304 1=3A5,300 1=3A5,301 1=3A1,314
1=A8,300 1=A8,301 1=60 3=3C9,300,345 1=3C9,345 1=3C9,301,345 2=3C9,342 1=3C9,342,345 1=39F,300
1=39F,301 1=3A9,300 1=3A9,301 1=3A9,345 1=B4 3-1=2002 126=3A9 4=4B 1=41,30A 6F=2190,338 1=2192,338
13=2194,338 1F=21D0,338 1=21D4,338 1=21D2,338 35=2203,338 5=2208,338 3=220B,338 18=2223,338
2=2225,338 1B=223C,338 3=2243,338 3=2245,338 2=2248,338 17=3D,338 2=2261,338 B=224D,338 1=3C,338
1=3E,338 1=2264,338 1=2265,338 3=2272,338 1=2273,338 3=2276,338 1=2277,338 7=227A,338 1=227B,338
3=2282,338 1=2283,338 3=2286,338 1=2287,338 23=22A2,338 1=22A8,338 1=22A9,338 1=22AB,338
31=227C,338 1=227D,338 1=2291,338 1=2292,338 7=22B2,338 1=22B3,338 1=22B4,338 1=22B5,338 3C-1=3008
7B3=2ADD,338 570=304B,3099 2=304D,3099 2=304F,3099 2=3051,3099 2=3053,3099 2=3055,3099 2=3057,3099
2=3059,3099 2=305B,3099 2=305D,3099 2=305F,3099 2=3061,3099 3=3064,3099 2=3066,3099 2=3068,3099
7=306F,3099 1=306F,309A 2=3072,3099 1=3072,309A 2=3075,3099 1=3075,309A 2=3078,3099 1=3078,309A
2=307B,3099 1=307B,309A 17=3046,3099 A=309D,3099 E=30AB,3099 2=30AD,3099 2=30AF,3099 2=30B1,3099
2=30B3,3099 2=30B5,3099 2=30B7,3099 2=30B9,3099 2=30BB,3099 2=30BD,3099 2=30BF,3099 2=30C1,3099
3=30C4,3099 2=30C6,3099 2=30C8,3099 7=30CF,3099 1=30CF,309A 2=30D2,3099 1=30D2,309A 2=30D5,3099
1=30D5,309A 2=30D8,3099 1=30D8,309A 2=30DB,3099 1=30DB,309A 17=30A6,3099 3=30EF,3099 1=30F0,3099
1=30F1,3099 1=30F2,3099 4=30FD,3099 C802=8C48 1=66F4 1=8ECA 1=8CC8 1=6ED1 1=4E32 1=53E5 1=9F9C
1=9F9C 1=5951 1=91D1 1=5587 1=5948 1=61F6 1=7669 1=7F85 1=863F 1=87BA 1=88F8 1=908F 1=6A02 1=6D1B
1=70D9 1=73DE 1=843D 1=916A 1=99F1 1=4E82 1=5375 1=6B04 1=721B 1=862D 1=9E1E 1=5D50 1=6FEB 1=85CD
1=8964 1=62C9 1=81D8 1=881F 1=5ECA 1=6717 1=6D6A 1=72FC 1=90CE 1=4F86 1=51B7 1=52DE 1=64C4 1=6AD3
1=7210 1=76E7 1=8001 1=8606 1=865C 1=8DEF 1=9732 1=9B6F 1=9DFA 1=788C 1=797F 1=7DA0 1=83C9 1=9304
1=9E7F 1=8AD6 1=58DF 1=5F04 1=7C60 1=807E 1=7262 1=78CA 1=8CC2 1=96F7 1=58D8 1=5C62 1=6A13 1=6DDA
1=6F0F 1=7D2F 1=7E37 1=964B 1=52D2 1=808B 1=51DC 1=51CC 1=7A1C 1=7DBE 1=83F1 1=9675 1=8B80 1=62CF
1=6A02 1=8AFE 1=4E39 1=5BE7 1=6012 1=7387 1=7570 1=5317 1=78FB 1=4FBF 1=5FA9 1=4E0D 1=6CCC 1=6578
1=7D22 1=53C3 1=585E 1=7701 1=8449 1=8AAA 1=6BBA 1=8FB0 1=6C88 1=62FE 1=82E5 1=63A0 1=7565 1=4EAE
1=5169 1=51C9 1=6881 1=7CE7 1=826F 1=8AD2 1=91CF 1=52F5 1=5442 1=5973 1=5EEC 1=65C5 1=6FFE 1=792A
1=95AD 1=9A6A 1=9E97 1=9ECE 1=529B 1=66C6 1=6B77 1=8F62 1=5E74 1=6190 1=6200 1=649A 1=6F23 1=7149
1=7489 1=79CA 1=7DF4 1=806F 1=8F26 1=84EE 1=9023 1=934A 1=5217 1=52A3 1=54BD 1=70C8 1=88C2 1=8AAA
1=5EC9 1=5FF5 1=637B 1=6BAE 1=7C3E 1=7375 1=4EE4 1=56F9 1=5BE7 1=5DBA 1=601C 1=73B2 1=7469 1=7F9A
1=8046 1=9234 1=96F6 1=9748 1=9818 1=4F8B 1=79AE 1=91B4 1=96B8 1=60E1 1=4E86 1=50DA 1=5BEE 1=5C3F
1=6599 1=6A02 1=71CE 1=7642 1=84FC 1=907C 1=9F8D 1=6688 1=962E 1=5289 1=677B 1=67F3 1=6D41 1=6E9C
1=7409 1=7559 1=786B 1=7D10 1=985E 1=516D 1=622E 1=9678 1=502B 1=5D19 1=6DEA 1=8F2A 1=5F8B 1=6144
1=6817 1=7387 1=9686 1=5229 1=540F 1=5C65 1=6613 1=674E 1=68A8 1=6CE5 1=7406 1=75E2 1=7F79 1=88CF
1=88E1 1=91CC 1=96E2 1=533F 1=6EBA 1=541D 1=71D0 1=7498 1=85FA 1=96A3 1=9C57 1=9E9F 1=6797 1=6DCB
1=81E8 1=7ACB 1=7B20 1=7C92 1=72C0 1=7099 1=8B58 1=4EC0 1=8336 1=523A 1=5207 1=5EA6 1=62D3 1=7CD6
1=5B85 1=6D1E 1=66B4 1=8F3B 1=884C 1=964D 1=898B 1=5ED3 1=5140 1=55C0 3=585A 2=6674 3=51DE 1=732A
1=76CA 1=793C 1=795E 1=7965 1=798F 1=9756 1=7CBE 1=7FBD 2=8612 2=8AF8 3=9038 1=90FD 4=98EF 1=98FC
1=9928 1=9DB4 1=90DE 1=96B7 1=4FAE 1=50E7 1=514D 1=52C9 1=52E4 1=5351 1=559D 1=5606 1=5668 1=5840
1=58A8 1=5C64 1=5C6E 1=6094 1=6168 1=618E 1=61F2 1=654F 1=65E2 1=6691 1=6885 1=6D77 1=6E1A 1=6F22
1=716E 1=722B 1=7422 1=7891 1=793E 1=7949 1=7948 1=7950 1=7956 1=795D 1-1=798D 2=7A40 1=7A81
1=7BC0 1=7DF4 1=7E09 1=7E41 1=7F72 1=8005 1=81ED 1=8279 1=8279 1=8457 1=8910 1=8996 1=8B01 1=8B39
1=8CD3 1=8D08 1=8FB6 1=9038 1=96E3 1=97FF 1=983B 1=6075 1=242EE 1=8218 3=4E26 1=51B5 1=5168 1=4F80
1=5145 1=5180 1=52C7 1=52FA 1=559D 1=5555 1=5599 1=55E2 1=585A 1=58B3 1=5944 1=5954 1=5A62 1=5B28
1=5ED2 1=5ED9 1=5F69 1=5FAD 1=60D8 1=614E 1=6108 1=618E 1=6160 1=61F2 1=6234 1=63C4 1=641C 1=6452
1=6556 1=6674 1=6717 1=671B 1=6756 1=6B79 1=6BBA 1=6D41 1=6EDB 1=6ECB 1=6F22 1=701E 1=716E 1=77A7
1=7235 1=72AF 1=732A 1=7471 1=7506 1=753B 1=761D 1=761F 1=76CA 1=76DB 1=76F4 1=774A 1=7740 1=78CC
1=7AB1 1=7BC0 1=7C7B 1=7D5B 1=7DF4 1=7F3E 1=8005 1=8352 1=83EF 1=8779 1=8941 1=8986 1=8996 1=8ABF
1=8AF8 1=8ACB 1=8B01 1=8AFE 1=8AED 1=8B39 1=8B8A 1=8D08 1=8F38 1=9072 1=9199 1=9276 1=967C 1=96E3
1=9756 1=97DB 1=97FF 1=980B 1=983B 1=9B12 1=9F9C 1=2284A 1=22844 1=233D5 1=3B9D 1=4018 1=4039
1=25249 1=25CD0 1=27ED3 1=9F43 1=9F8E 44=5D9,5B4 2=5F2,5B7 B=5E9,5C1 1=5E9,5C2 1=5E9,5BC,5C1
1=5E9,5BC,5C2 1=5D0,5B7 1=5D0,5B8 1=5D0,5BC 1=5D1,5BC 1=5D2,5BC 1=5D3,5BC 1=5D4,5BC 1=5D5,5BC
1=5D6,5BC 2=5D8,5BC 1=5D9,5BC 1=5DA,5BC 1=5DB,5BC 1=5DC,5BC 2=5DE,5BC 2=5E0,5BC 1=5E1,5BC
2=5E3,5BC 1=5E4,5BC 2=5E6,5BC 1=5E7,5BC 1=5E8,5BC 1=5E9,5BC 1=5EA,5BC 1=5D5,5B9 1=5D1,5BF
1=5DB,5BF 1=5E4,5BF A7B=105D2,307 1B=105DA,307 AB6=11099,110BA 2=1109B,110BA F=110A5,110BA
83=11131,11127 1=11132,11127 21C=11347,1133E 1=11347,11357 37=11382,113C9 2=11384,113BB
9=1138B,113C2 3=11390,113C9 34=113C2,113C2 2=113C2,113B8 1=113C2,113C9 F3=114B9,114BA
1=114B9,114B0 2=114B9,114BD FC=115B8,115AF 1=115B9,115AF 37D=11935,11930 47E9=1611E,1611E
1=1611E,16129 1=1611E,1611F 1=16129,1611F 1=1611E,16120 1=1611E,1611E,1611F 1=1611E,16129,1611F
1=1611E,1611E,16120 C40=16D67,16D67 1=16D63,16D67 1=16D63,16D67,16D67 63F4=1D157,1D165
1=1D158,1D165 1=1D158,1D165,1D16E 1=1D158,1D165,1D16F 1=1D158,1D165,1D170 1=1D158,1D165,1D171
1=1D158,1D165,1D172 57=1D1B9,1D165 1=1D1BA,1D165 1=1D1B9,1D165,1D16E 1=1D1BA,1D165,1D16E
1=1D1B9,1D165,1D16F 1=1D1BA,1D165,1D16F 12640=4E3D 1=4E38 1=4E41 1=20122 1=4F60 1=4FAE 1=4FBB
1=5002 1=507A 1=5099 1=50E7 1=50CF 1=349E 1=2063A 1=514D 1=5154 1=5164 1=5177 1=2051C 1=34B9
1=5167 1=518D 1=2054B 1=5197 1=51A4 1=4ECC 1=51AC 1=51B5 1=291DF 1=51F5 1=5203 1=34DF 1=523B
1=5246 1=5272 1=5277 1=3515 1=52C7 1=52C9 1=52E4 1=52FA 1-1=5305 2=5317 1=5349 1=5351 1=535A
1=5373 1=537D 1=537F 1=537F 1=537F 1=20A2C 1=7070 1=53CA 1=53DF 1=20B63 1=53EB 1=53F1 1=5406
1=549E 1=5438 1=5448 1=5468 1=54A2 1=54F6 1=5510 1=5553 1=5563 1=5584 1=5584 1=5599 1=55AB 1=55B3
1=55C2 1=5716 1=5606 1=5717 1=5651 1=5674 1=5207 1=58EE 1=57CE 1=57F4 1=580D 1=578B 1=5832 1=5831
1=58AC 1=214E4 1=58F2 1=58F7 1=5906 1=591A 1=5922 1=5962 1=216A8 1=216EA 1=59EC 1=5A1B 1=5A27
1=59D8 1=5A66 1=36EE 1=36FC 1=5B08 1=5B3E 1=5B3E 1=219C8 1=5BC3 1=5BD8 1=5BE7 1=5BF3 1=21B18
1=5BFF 1=5C06 1=5F53 1=5C22 1=3781 1=5C60 1=5C6E 1=5CC0 1=5C8D 1=21DE4 1=5D43 1=21DE6 1=5D6E
1=5D6B 1=5D7C 1-1=5DE1 2=382F 1=5DFD 1=5E28 1=5E3D 1=5E69 1=3862 1=22183 1=387C 1=5EB0 1=5EB3
1=5EB6 1=5ECA 1=2A392 1=5EFE 1=22331 1=22331 1=8201 1=5F22 1=5F22 1=38C7 1=232B8 1=261DA 1=5F62
1=5F6B 1=38E3 1=5F9A 1=5FCD 1=5FD7 1=5FF9 1=6081 1=393A 1=391C 1=6094 1=226D4 1=60C7 1=6148 1=614C
1=614E 1=614C 1=617A 1=618E 1=61B2 1=61A4 1=61AF 1=61DE 1=61F2 1=61F6 1=6210 1=621B 1=625D 1=62B1
1=62D4 1=6350 1=22B0C 1=633D 1=62FC 1=6368 1=6383 1=63E4 1=22BF1 1=6422 1=63C5 1=63A9 1=3A2E
1=6469 1=647E 1=649D 1=6477 1=3A6C 1=654F 1=656C 1=2300A 1=65E3 1=66F8 1=6649 1=3B19 1=6691 1=3B08
1=3AE4 1=5192 1=5195 1=6700 1=669C 1=80AD 1=43D9 1=6717 1=671B 1=6721 1=675E 1=6753 1=233C3 1=3B49
1=67FA 1=6785 1=6852 1=6885 1=2346D 1=688E 1=681F 1=6914 1=3B9D 1=6942 1=69A3 1=69EA 1=6AA8
1=236A3 1=6ADB 1=3C18 1=6B21 1=238A7 1=6B54 1=3C4E 1=6B72 1=6B9F 1-1=6BBA 2=23A8D 1=21D0B 1=23AFA
1=6C4E 1=23CBC 1=6CBF 1=6CCD 1=6C67 1=6D16 1=6D3E 1=6D77 1=6D41 1=6D69 1=6D78 1=6D85 1=23D1E
1=6D34 1=6E2F 1=6E6E 1=3D33 1=6ECB 1=6EC7 1=23ED1 1=6DF9 1=6F6E 1=23F5E 1=23F8E 1=6FC6 1=7039
1=701E 1=701B 1=3D96 1=704A 1=707D 1=7077 1=70AD 1=20525 1=7145 1=24263 1=719C 1=243AB 1=7228
1=7235 1=7250 1=24608 1=7280 1=7295 1=24735 1=24814 1=737A 1=738B 1=3EAC 1=73A5 1=3EB8 1=3EB8
1=7447 1=745C 1=7471 1=7485 1=74CA 1=3F1B 1=7524 1=24C36 1=753E 1=24C92 1=7570 1=2219F 1=7610
1=24FA1 1=24FB8 1=25044 1=3FFC 1=4008 1=76F4 1=250F3 1=250F2 1=25119 1=25133 1-1=771E 2=771F
1=774A 1=4039 1=778B 1=4046 1=4096 1=2541D 1=784E 1=788C 1=78CC 1=40E3 1=25626 1=7956 1=2569A
1=256C5 1=798F 1=79EB 1=412F 1=7A40 1=7A4A 1=7A4F 1=2597C 1=25AA7 1=25AA7 1=7AEE 1=4202 1=25BAB
1=7BC6 1=7BC9 1=4227 1=25C80 1=7CD2 1=42A0 1=7CE8 1=7CE3 1=7D00 1=25F86 1=7D63 1=4301 1=7DC7
1=7E02 1=7E45 1=4334 1=26228 1=26247 1=4359 1=262D9 1=7F7A 1=2633E 1=7F95 1=7FFA 1=8005 1=264DA
1=26523 1=8060 1=265A8 1=8070 1=2335F 1=43D5 1=80B2 1=8103 1=440B 1=813E 1=5AB5 1=267A7 1=267B5
1=23393 1=2339C 1=8201 1=8204 1=8F9E 1=446B 1=8291 1=828B 1=829D 1=52B3 1=82B1 1=82B3 1=82BD
1=82E6 1=26B3C 1=82E5 1=831D 1=8363 1=83AD 1=8323 1=83BD 1=83E7 1=8457 1=8353 1=83CA 1=83CC 1=83DC
1=26C36 1=26D6B 1=26CD5 1=452B 1=84F1 1=84F3 1=8516 1=273CA 1=8564 1=26F2C 1=455D 1=4561 1=26FB1
1=270D2 1=456B 1=8650 1=865C 1=8667 1=8669 1=86A9 1=8688 1=870E 1=86E2 1=8779 1=8728 1=876B 1=8786
1=45D7 1=87E1 1=8801 1=45F9 1=8860 1=8863 1=27667 1=88D7 1=88DE 1=4635 1=88FA 1=34BB 1=278AE
1=27966 1=46BE 1=46C7 1=8AA0 1=8AED 1=8B8A 1=8C55 1=27CA8 1=8CAB 1=8CC1 1=8D1B 1=8D77 1=27F2F
1=20804 1=8DCB 1=8DBC 1=8DF0 1=208DE 1=8ED4 1=8F38 1=285D2 1=285ED 1=9094 1=90F1 1=9111 1=2872E
1=911B 1=9238 1-1=92D7 2=927C 1=93F9 1=9415 1=28BFA 1=958B 1=4995 1=95B7 1=28D77 1=49E6 1=96C3
1=5DB2 1=9723 1=29145 1=2921A 1=4A6E 1=4A76 1=97E0 1=2940A 1=4AB2 1=29496 1=980B 1=980B 1=9829
1=295B6 1=98E2 1=4B33 1=9929 1=99A7 1=99C2 1=99FE 1=4BCE 1=29B30 1=9B12 1=9C40 1=9CFD 1=4CCE
1=4CED 1=9D67 1=2A0CE 1=4CF8 1=2A105 1=2A20E 1=2A291 1=9EBB 1=4D56 1=9EF9 1=9EFE 1=9F05 1=9F0F
1=9F16 1=9F3B 1=2A600"

/-- The composites of two code points or more that composition does not make, in the written form
of `CharSet.decode`. -/
def compositionExclusions : String :=
  "344 613-7 7C-1 1 53 2 22-2 2 FD-1 3E5 9 4 4 4 C 9 1-1 1 8 11 9 4 4 4 C FB7
1 1 1 1 1 1 3D D 1 7 7 7 7 2 A 1 12F 9B0 D040 1 A-C 1-4 1 1-1 1-1 1-8 D60F-6 56-5"

/-- The code points of each combining class but zero, in the written form of `CharSet.decode`. -/
def combiningClasses : List (Nat × String) := [
  (1, "334-4 199B D-6 3E9-1 4-2 A-1 3-1 E94D 60B6-4 51A9 14C8-2"),
  (6, "16FF0-1"),
  (7, "93C 7F 7F 7F 7F FF 7F 37A AFC B1 50 8D7B 6706 B8 56 6B B2 51-1 109 7C FC
F6 182 108 3FE CC07"),
  (8, "3099-1"),
  (9, "94D 7F 7F 7F 7F 7F 7F 7F 6D-1 10 7C 6F 7F C9 B4-1 6D9-1 1E 9D 28D E3 65-1
46-1 118B 7A86 25 97 8E 6C 135 F6 5E51 606 29 E 39 79-1 8B 74 B4 62 80-2 71 7F FC 7F 76 74 10D
103-1 A1 53 12 51 1A5 104-1 51 1A9-1 41EC"),
  (10, "5B0"),
  (11, "5B1"),
  (12, "5B2"),
  (13, "5B3"),
  (14, "5B4"),
  (15, "5B5"),
  (16, "5B6"),
  (17, "5B7"),
  (18, "5B8 E"),
  (19, "5B9-1"),
  (20, "5BB"),
  (21, "5BC"),
  (22, "5BD"),
  (23, "5BF"),
  (24, "5C1"),
  (25, "5C2"),
  (26, "FB1E"),
  (27, "64B 2A4"),
  (28, "64C 2A4"),
  (29, "64D 2A4"),
  (30, "618 35"),
  (31, "619 35"),
  (32, "61A 35"),
  (33, "651"),
  (34, "652"),
  (35, "670"),
  (36, "711"),
  (84, "C55"),
  (91, "C56"),
  (103, "E38-1"),
  (107, "E48-3"),
  (118, "EB8-1"),
  (122, "EC8-3"),
  (129, "F71"),
  (130, "F72 7-3 2"),
  (132, "F74"),
  (202, "321-1 4-1 1AA7"),
  (214, "1DCE"),
  (216, "31B C1D 1C22B-1 7-4"),
  (218, "1DFA 122F"),
  (220, "316-3 2-4 2-3 2-A 5-3 A-2 3-1 4-3 2-1 236 4 4 6-5 2 1A 8F-1 5 2 83 6 2 43
2 2-2 1-1 1 3 1 1 1 A9 A 5B-2 3D-2 33-4 F 2 2 3-2 6 2-1 57 5C5-1 1B 1 8E C6 8AD DC 66 35-5 2 1-1
2-1 5 A1 168-4 2-3 D D4 7 4 29 3 1 2E8 3-3 883B-2 186 5372-6 3CF E2 72C 2C AB 416-2 46-1 3 1-3 32
1 C1F5-7 7-1 1362 100 2E0-6"),
  (222, "59A 12 138B 16F3"),
  (224, "302E-1"),
  (226, "1D16D"),
  (228, "5AE 12FA 54D-1 1232"),
  (230, "300-14 28-7 1 3-2 3-2 4 3 7-C 113-4 10A-3 1-2 2-5 6-1 1-1 2 14 4B-7 3B-1
2-4 1-1 77-6 2-3 1 2-1 2-1 43 1-1 1-1 3 2 1-2 1 1 1 1-1 A0-6 1 22-3 1-8 1-2 1-4 69-1 3-3 2A-4 5-D
2-1 1-1 1-2 6-2 1-1 2-4 51 1-1 A9 583-1 2-1 3D5-2 47D 15C DC 5D-7 33-4 6-1 4-1 2-4 1-3 9C 1-6
15C-2 7-1 4 13 3-1 C6-1 1-6 1-1 4-24 5 2 2D1-1 2-3 3-1 4 5 1 6 BFE-2 EE-1F 786F 4-9 20-1 50-1
1EE-11 1BE 1-1 3-1 5-1 1 535E-6 7-1 546-4 694 28 AC 23E-3 41-4 13D-1 9B-2 1 35 1 17B-2 263-6 3-4
E9 56D1-6 664E-4 20-3 94-2 DBB-6 1-10 2-6 1-1 1-4 64 A0-6 177 3D-3 1FF FE 355-5"),
  (232, "315 4 3D 1A9D 1235 1B4BF-1"),
  (233, "35C 2 2 1A99"),
  (234, "35D-1 1-1 1A6B"),
  (240, "345")]

end ConditionalGateway.Unicode.Data
