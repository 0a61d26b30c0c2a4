/-!
# Characters in domain names

How a domain name is brought into its one form: what is replaced, what is left out and
what cannot stand in it.
-/

namespace ConditionalGateway.Unicode.Data

/-- What stands for a code point, where canonical composition alone does not give it, in the
written form of `Replacements.decode`. -/
def domainReplacements : String :=
  "41-19=61 5F=20 8=20,308 2=61 5=20,304 3-1=32 2=20,301 1=3BC 3=20,327 1=31
1=6F 2=31,2044,34 1=31,2044,32 1=33,2044,34 2-16=E0 18-6=F8 28+17=101 30=69,307 2=69,6A 1=69,6A
1+1=135 5+2=13A 6=6C,B7 1=6C,B7 1+3=142 8=2BC,6E 1+16=14B 2E=FF 1+2=17A 6=73 2=253 1+1=183 4=254
1=188 2-1=256 2=18C 3=1DD 1=259 1=25B 1=192 2=260 1=263 2=269 1=268 1=199 4=26F 1=272 2=275
1+2=1A1 6=280 1=1A8 2=283 3=1AD 2=288 1=1B0 2-1=28A 2+1=1B4 4=292 1=1B9 4=1BD 8=64,17E 1=64,17E
1=64,17E 1=6C,6A 1=6C,6A 1=6C,6A 1=6E,6A 1=6E,6A 1=6E,6A 1+7=1CE 11+8=1DF 13=64,7A 1=64,7A 1=64,7A
1=1F5 2=195 1=1BF 1+13=1F9 28=19E 2+8=223 18=2C65 1=23C 2=19A 1=2C66 3=242 2=180 1=289 1=28C
1+4=247 6A=68 1=266 1=6A 1=72 1=279 1=27B 1=281 1=77 1=79 20=20,306 1=20,307 1=20,30A 1=20,328
1=20,303 1=20,30B 3=263 1=6C 1=73 1=78 1=295 61=3B9 2B+1=371 6=377 4=20,3B9 5=3F3 5=20,301
1=20,308,301 1=3AC 2-2=3AD 4=3CC 2-1=3CD 3-10=3B1 12-8=3C3 2C=3D7 1=3B2 1=3B8 1=3C5 1=3CD 1=3CB
1=3C6 1=3C0 2+B=3D9 18=3BA 1=3C1 1=3C3 2=3B8 1=3B5 2=3F8 2=3C3 1=3FB 3-2=37B 3-F=450 10-1F=430
50+10=461 2A+1A=48B 36=4CF 1+6=4C2 F+2F=4D1 61-25=561 56=565,582 EE=627,674 1=648,674 1=6C7,674
1=64A,674 7BB=E4D,E32 80=ECD,EB2 29=EAB,E99 1=EAB,EA1 2F=F0B 6B=FB2,F71,F80 2=FB3,F71,F80
127-25=2D00 27=2D27 6=2D2D 2F=10DC 2FC-5=13F0 888=432 1=434 1=43E 1-1=441 2=442 1=44A 1=463 1=A64B
1=1C8A 7-2A=10D0 2D-2=10FD 6F=61 1=E6 1+1=62 3=65 1=1DD 1-7=67 9=6F 1=223 1=70 1=72 1-1=74 2=77
1=61 1-1=250 2=1D02 1=62 1-1=64 2=259 1-1=25B 2=67 2=6B 1=6D 1=14B 1=6F 1=254 1-1=1D16 2=70 1-1=74
2=1D1D 1=26F 1=76 1=1D25 1-2=3B2 3-1=3C6 2=69 1=72 1-1=75 2-1=3B2 2=3C1 1-1=3C6 F=43D 23=252 1=63
1=255 1=F0 1=25C 1=66 1=25F 1=261 1=265 1-2=268 3=1D7B 1=29D 1=26D 1=1D85 1=29F 1=271 1=270
1-3=272 4=278 1-1=282 2=1AB 1-1=289 2=1D1C 1-1=28B 2=7A 1-2=290 3=3B8 41+4A=1E01 9A=61,2BE 1=1E61
3=DF 2+2F=1EA1 68-7=1F00 10-5=1F10 10-7=1F20 10-7=1F30 10-5=1F40 11+3=1F51 F-7=1F60 18=1F00,3B9
1=1F01,3B9 1=1F02,3B9 1=1F03,3B9 1=1F04,3B9 1=1F05,3B9 1=1F06,3B9 1=1F07,3B9 1=1F00,3B9 1=1F01,3B9
1=1F02,3B9 1=1F03,3B9 1=1F04,3B9 1=1F05,3B9 1=1F06,3B9 1=1F07,3B9 1=1F20,3B9 1=1F21,3B9 1=1F22,3B9
1=1F23,3B9 1=1F24,3B9 1=1F25,3B9 1=1F26,3B9 1=1F27,3B9 1=1F20,3B9 1=1F21,3B9 1=1F22,3B9 1=1F23,3B9
1=1F24,3B9 1=1F25,3B9 1=1F26,3B9 1=1F27,3B9 1=1F60,3B9 1=1F61,3B9 1=1F62,3B9 1=1F63,3B9 1=1F64,3B9
1=1F65,3B9 1=1F66,3B9 1=1F67,3B9 1=1F60,3B9 1=1F61,3B9 1=1F62,3B9 1=1F63,3B9 1=1F64,3B9 1=1F65,3B9
1=1F66,3B9 1=1F67,3B9 3=1F70,3B9 1=3B1,3B9 1=3AC,3B9 3=1FB6,3B9 1-1=1FB0 2=1F70 1=3AC 1=3B1,3B9
1=20,313 2=20,313 1=20,342 1=20,308,342 1=1F74,3B9 1=3B7,3B9 1=3AE,3B9 3=1FC6,3B9 1=1F72 1=3AD
1=1F74 1=3AE 1=3B7,3B9 1=20,313,300 1=20,313,301 1=20,313,342 9-1=1FD0 2=1F76 1=3AF 2=20,314,300
1=20,314,301 1=20,314,342 9-1=1FE0 2=1F7A 1=3CD 1=1FE5 1=20,308,300 1=20,308,301 4=1F7C,3B9
1=3C9,3B9 1=3CE,3B9 3=1FF6,3B9 1=1F78 1=3CC 1=1F7C 1=3CE 1=3C9,3B9 1=20,301 1=20,314 2=20 1=20
1=20 1=20 1=20 1=20 1=20 1=20 1=20 1=20 1=20 7=2010 6=20,333 18=20 4=2032,2032 1=2032,2032,2032
2=2035,2035 1=2035,2035,2035 5=21,21 2=20,305 9=3F,3F 1=3F,21 1=21,3F E=2032,2032,2032,2032 8=20
11=30 1=69 3-5=34 6=2B 1=2212 1=3D 1-1=28 2=6E 1-9=30 A=2B 1=2212 1=3D 1-1=28 3=61 1=65 1=6F 1=78
1=259 1=68 1-3=6B 4=70 1-1=73 D=72,73 58=61,2F,63 1=61,2F,73 1=63 1=B0,63 2=63,2F,6F 1=63,2F,75
1=25B 2=B0,66 1-1=67 2=68 1=68 1=68 1=127 1=69 1=69 1=6C 1+1=6C 3=6E,6F 3-2=70 3=72 1=72 3=73,6D
1=74,65,6C 1=74,6D 2=7A 2=3C9 2=7A 2=6B 1=E5 1-1=62 3=65 1-1=65 2=214E 1=6D 1=6F 1-3=5D0 4=69
2=66,61,78 1=3C0 1=3B3 1=3B3 1=3C0 1=2211 5=64 1-1=64 2-1=69 8=31,2044,37 1=31,2044,39
1=31,2044,31,30 1=31,2044,33 1=32,2044,33 1=31,2044,35 1=32,2044,35 1=33,2044,35 1=34,2044,35
1=31,2044,36 1=35,2044,36 1=31,2044,38 1=33,2044,38 1=35,2044,38 1=37,2044,38 1=31,2044 1=69
1=69,69 1=69,69,69 1=69,76 1=76 1=76,69 1=76,69,69 1=76,69,69,69 1=69,78 1=78 1=78,69 1=78,69,69
1=6C 1-1=63 2=6D 1=69 1=69,69 1=69,69,69 1=69,76 1=76 1=76,69 1=76,69,69 1=76,69,69,69 1=69,78
1=78 1=78,69 1=78,69,69 1=6C 1-1=63 2=6D 4=2184 6=30,2044,33 A3=222B,222B 1=222B,222B,222B
2=222E,222E 1=222E,222E,222E 230-8=31 9=31,30 1=31,31 1=31,32 1=31,33 1=31,34 1=31,35 1=31,36
1=31,37 1=31,38 1=31,39 1=32,30 1=28,31,29 1=28,32,29 1=28,33,29 1=28,34,29 1=28,35,29 1=28,36,29
1=28,37,29 1=28,38,29 1=28,39,29 1=28,31,30,29 1=28,31,31,29 1=28,31,32,29 1=28,31,33,29
1=28,31,34,29 1=28,31,35,29 1=28,31,36,29 1=28,31,37,29 1=28,31,38,29 1=28,31,39,29 1=28,32,30,29
15=28,61,29 1=28,62,29 1=28,63,29 1=28,64,29 1=28,65,29 1=28,66,29 1=28,67,29 1=28,68,29
1=28,69,29 1=28,6A,29 1=28,6B,29 1=28,6C,29 1=28,6D,29 1=28,6E,29 1=28,6F,29 1=28,70,29 1=28,71,29
1=28,72,29 1=28,73,29 1=28,74,29 1=28,75,29 1=28,76,29 1=28,77,29 1=28,78,29 1=28,79,29 1=28,7A,29
1-19=61 1A-19=61 1A=30 522=222B,222B,222B,222B 68=3A,3A,3D 1=3D,3D 1=3D,3D,3D 18A-2F=2C30 60=2C61
2=26B 1=1D7D 1=27D 3+2=2C68 6=251 1=271 1=250 1=252 2=2C73 3=2C76 7=6A 1=76 1-1=23F 2+31=2C81
6B+1=2CEC 7=2CF3 7D=2D61 130=6BCD 54=9F9F D=4E00 1=4E28 1=4E36 1=4E3F 1=4E59 1=4E85 1=4E8C 1=4EA0
1=4EBA 1=513F 1=5165 1=516B 1=5182 1=5196 1=51AB 1=51E0 1=51F5 1=5200 1=529B 1=52F9 1=5315 1=531A
1=5338 1=5341 1=535C 1=5369 1=5382 1=53B6 1=53C8 1=53E3 1=56D7 1=571F 1=58EB 1=5902 1=590A 1=5915
1=5927 1=5973 1=5B50 1=5B80 1=5BF8 1=5C0F 1=5C22 1=5C38 1=5C6E 1=5C71 1=5DDB 1=5DE5 1=5DF1 1=5DFE
1=5E72 1=5E7A 1=5E7F 1=5EF4 1=5EFE 1=5F0B 1=5F13 1=5F50 1=5F61 1=5F73 1=5FC3 1=6208 1=6236 1=624B
1=652F 1=6534 1=6587 1=6597 1=65A4 1=65B9 1=65E0 1=65E5 1=66F0 1=6708 1=6728 1=6B20 1=6B62 1=6B79
1=6BB3 1=6BCB 1=6BD4 1=6BDB 1=6C0F 1=6C14 1=6C34 1=706B 1=722A 1=7236 1=723B 1=723F 1=7247 1=7259
1=725B 1=72AC 1=7384 1=7389 1=74DC 1=74E6 1=7518 1=751F 1=7528 1=7530 1=758B 1=7592 1=7676 1=767D
1=76AE 1=76BF 1=76EE 1=77DB 1=77E2 1=77F3 1=793A 1=79B8 1=79BE 1=7A74 1=7ACB 1=7AF9 1=7C73 1=7CF8
1=7F36 1=7F51 1=7F8A 1=7FBD 1=8001 1=800C 1=8012 1=8033 1=807F 1=8089 1=81E3 1=81EA 1=81F3 1=81FC
1=820C 1=821B 1=821F 1=826E 1=8272 1=8278 1=864D 1=866B 1=8840 1=884C 1=8863 1=897E 1=898B 1=89D2
1=8A00 1=8C37 1=8C46 1=8C55 1=8C78 1=8C9D 1=8D64 1=8D70 1=8DB3 1=8EAB 1=8ECA 1=8F9B 1=8FB0 1=8FB5
1=9091 1=9149 1=91C6 1=91CC 1=91D1 1=9577 1=9580 1=961C 1=96B6 1=96B9 1=96E8 1=9751 1=975E 1=9762
1=9769 1=97CB 1=97ED 1=97F3 1=9801 1=98A8 1=98DB 1=98DF 1=9996 1=9999 1=99AC 1=9AA8 1=9AD8 1=9ADF
1=9B25 1=9B2F 1=9B32 1=9B3C 1=9B5A 1=9CE5 1=9E75 1=9E7F 1=9EA5 1=9EBB 1=9EC3 1=9ECD 1=9ED1 1=9EF9
1=9EFD 1=9F0E 1=9F13 1=9F20 1=9F3B 1=9F4A 1=9F52 1=9F8D 1=9F9C 1=9FA0 2B=20 2=2E 34=3012 2=5341
1-1=5344 62=20,3099 1=20,309A 3=3088,308A 60=30B3,30C8 32-1=1100 2=11AA 1=1102 1-1=11AC 2-2=1103
3-5=11B0 6=111A 1-2=1106 3=1121 1-9=1109 A-14=1161 16-1=1114 2-1=11C7 2=11CC 1=11CE 1=11D3 1=11D7
1=11D9 1=111C 1=11DD 1=11DF 1-1=111D 2=1120 1-1=1122 2=1127 1=1129 1-4=112B 5=1132 1=1136 1=1140
1=1147 1=114C 1-1=11F1 2-2=1157 3-1=1184 2=1188 1-1=1191 2=1194 1=119E 1=11A1 4=4E00 1=4E8C 1=4E09
1=56DB 1=4E0A 1=4E2D 1=4E0B 1=7532 1=4E59 1=4E19 1=4E01 1=5929 1=5730 1=4EBA 61=28,1100,29
1=28,1102,29 1=28,1103,29 1=28,1105,29 1=28,1106,29 1=28,1107,29 1=28,1109,29 1=28,110B,29
1=28,110C,29 1=28,110E,29 1=28,110F,29 1=28,1110,29 1=28,1111,29 1=28,1112,29 1=28,AC00,29
1=28,B098,29 1=28,B2E4,29 1=28,B77C,29 1=28,B9C8,29 1=28,BC14,29 1=28,C0AC,29 1=28,C544,29
1=28,C790,29 1=28,CC28,29 1=28,CE74,29 1=28,D0C0,29 1=28,D30C,29 1=28,D558,29 1=28,C8FC,29
1=28,C624,C804,29 1=28,C624,D6C4,29 2=28,4E00,29 1=28,4E8C,29 1=28,4E09,29 1=28,56DB,29
1=28,4E94,29 1=28,516D,29 1=28,4E03,29 1=28,516B,29 1=28,4E5D,29 1=28,5341,29 1=28,6708,29
1=28,706B,29 1=28,6C34,29 1=28,6728,29 1=28,91D1,29 1=28,571F,29 1=28,65E5,29 1=28,682A,29
1=28,6709,29 1=28,793E,29 1=28,540D,29 1=28,7279,29 1=28,8CA1,29 1=28,795D,29 1=28,52B4,29
1=28,4EE3,29 1=28,547C,29 1=28,5B66,29 1=28,76E3,29 1=28,4F01,29 1=28,8CC7,29 1=28,5354,29
1=28,796D,29 1=28,4F11,29 1=28,81EA,29 1=28,81F3,29 1=554F 1=5E7C 1=6587 1=7B8F 9=70,74,65 1=32,31
1=32,32 1=32,33 1=32,34 1=32,35 1=32,36 1=32,37 1=32,38 1=32,39 1=33,30 1=33,31 1=33,32 1=33,33
1=33,34 1=33,35 1=1100 1-1=1102 2-2=1105 3=1109 1-1=110B 2-4=110E 5=AC00 1=B098 1=B2E4 1=B77C
1=B9C8 1=BC14 1=C0AC 1=C544 1=C790 1=CC28 1=CE74 1=D0C0 1=D30C 1=D558 1=CC38,ACE0 1=C8FC,C758
1=C6B0 2=4E00 1=4E8C 1=4E09 1=56DB 1=4E94 1=516D 1=4E03 1=516B 1=4E5D 1=5341 1=6708 1=706B 1=6C34
1=6728 1=91D1 1=571F 1=65E5 1=682A 1=6709 1=793E 1=540D 1=7279 1=8CA1 1=795D 1=52B4 1=79D8 1=7537
1=5973 1=9069 1=512A 1=5370 1=6CE8 1=9805 1=4F11 1=5199 1=6B63 1=4E0A 1=4E2D 1=4E0B 1=5DE6 1=53F3
1=533B 1=5B97 1=5B66 1=76E3 1=4F01 1=8CC7 1=5354 1=591C 1=33,36 1=33,37 1=33,38 1=33,39 1=34,30
1=34,31 1=34,32 1=34,33 1=34,34 1=34,35 1=34,36 1=34,37 1=34,38 1=34,39 1=35,30 1=31,6708
1=32,6708 1=33,6708 1=34,6708 1=35,6708 1=36,6708 1=37,6708 1=38,6708 1=39,6708 1=31,30,6708
1=31,31,6708 1=31,32,6708 1=68,67 1=65,72,67 1=65,76 1=6C,74,64 1=30A2 1=30A4 1=30A6 1=30A8
1-1=30AA 2=30AD 1=30AF 1=30B1 1=30B3 1=30B5 1=30B7 1=30B9 1=30BB 1=30BD 1=30BF 1=30C1 1=30C4
1=30C6 1=30C8 1-5=30CA 6=30D2 1=30D5 1=30D8 1=30DB 1-4=30DE 5=30E4 1=30E6 1-5=30E8 6-3=30EF
4=4EE4,548C 1=30A2,30D1,30FC,30C8 1=30A2,30EB,30D5,30A1 1=30A2,30F3,30DA,30A2 1=30A2,30FC,30EB
1=30A4,30CB,30F3,30B0 1=30A4,30F3,30C1 1=30A6,30A9,30F3 1=30A8,30B9,30AF,30FC,30C9
1=30A8,30FC,30AB,30FC 1=30AA,30F3,30B9 1=30AA,30FC,30E0 1=30AB,30A4,30EA 1=30AB,30E9,30C3,30C8
1=30AB,30ED,30EA,30FC 1=30AC,30ED,30F3 1=30AC,30F3,30DE 1=30AE,30AC 1=30AE,30CB,30FC
1=30AD,30E5,30EA,30FC 1=30AE,30EB,30C0,30FC 1=30AD,30ED 1=30AD,30ED,30B0,30E9,30E0
1=30AD,30ED,30E1,30FC,30C8,30EB 1=30AD,30ED,30EF,30C3,30C8 1=30B0,30E9,30E0
1=30B0,30E9,30E0,30C8,30F3 1=30AF,30EB,30BC,30A4,30ED 1=30AF,30ED,30FC,30CD 1=30B1,30FC,30B9
1=30B3,30EB,30CA 1=30B3,30FC,30DD 1=30B5,30A4,30AF,30EB 1=30B5,30F3,30C1,30FC,30E0
1=30B7,30EA,30F3,30B0 1=30BB,30F3,30C1 1=30BB,30F3,30C8 1=30C0,30FC,30B9 1=30C7,30B7 1=30C9,30EB
1=30C8,30F3 1=30CA,30CE 1=30CE,30C3,30C8 1=30CF,30A4,30C4 1=30D1,30FC,30BB,30F3,30C8
1=30D1,30FC,30C4 1=30D0,30FC,30EC,30EB 1=30D4,30A2,30B9,30C8,30EB 1=30D4,30AF,30EB 1=30D4,30B3
1=30D3,30EB 1=30D5,30A1,30E9,30C3,30C9 1=30D5,30A3,30FC,30C8 1=30D6,30C3,30B7,30A7,30EB
1=30D5,30E9,30F3 1=30D8,30AF,30BF,30FC,30EB 1=30DA,30BD 1=30DA,30CB,30D2 1=30D8,30EB,30C4
1=30DA,30F3,30B9 1=30DA,30FC,30B8 1=30D9,30FC,30BF 1=30DD,30A4,30F3,30C8 1=30DC,30EB,30C8
1=30DB,30F3 1=30DD,30F3,30C9 1=30DB,30FC,30EB 1=30DB,30FC,30F3 1=30DE,30A4,30AF,30ED
1=30DE,30A4,30EB 1=30DE,30C3,30CF 1=30DE,30EB,30AF 1=30DE,30F3,30B7,30E7,30F3
1=30DF,30AF,30ED,30F3 1=30DF,30EA 1=30DF,30EA,30D0,30FC,30EB 1=30E1,30AC 1=30E1,30AC,30C8,30F3
1=30E1,30FC,30C8,30EB 1=30E4,30FC,30C9 1=30E4,30FC,30EB 1=30E6,30A2,30F3 1=30EA,30C3,30C8,30EB
1=30EA,30E9 1=30EB,30D4,30FC 1=30EB,30FC,30D6,30EB 1=30EC,30E0 1=30EC,30F3,30C8,30B2,30F3
1=30EF,30C3,30C8 1=30,70B9 1=31,70B9 1=32,70B9 1=33,70B9 1=34,70B9 1=35,70B9 1=36,70B9 1=37,70B9
1=38,70B9 1=39,70B9 1=31,30,70B9 1=31,31,70B9 1=31,32,70B9 1=31,33,70B9 1=31,34,70B9 1=31,35,70B9
1=31,36,70B9 1=31,37,70B9 1=31,38,70B9 1=31,39,70B9 1=32,30,70B9 1=32,31,70B9 1=32,32,70B9
1=32,33,70B9 1=32,34,70B9 1=68,70,61 1=64,61 1=61,75 1=62,61,72 1=6F,76 1=70,63 1=64,6D 1=64,6D,32
1=64,6D,33 1=69,75 1=5E73,6210 1=662D,548C 1=5927,6B63 1=660E,6CBB 1=682A,5F0F,4F1A,793E 1=70,61
1=6E,61 1=3BC,61 1=6D,61 1=6B,61 1=6B,62 1=6D,62 1=67,62 1=63,61,6C 1=6B,63,61,6C 1=70,66 1=6E,66
1=3BC,66 1=3BC,67 1=6D,67 1=6B,67 1=68,7A 1=6B,68,7A 1=6D,68,7A 1=67,68,7A 1=74,68,7A 1=3BC,6C
1=6D,6C 1=64,6C 1=6B,6C 1=66,6D 1=6E,6D 1=3BC,6D 1=6D,6D 1=63,6D 1=6B,6D 1=6D,6D,32 1=63,6D,32
1=6D,32 1=6B,6D,32 1=6D,6D,33 1=63,6D,33 1=6D,33 1=6B,6D,33 1=6D,2215,73 1=6D,2215,73,32 1=70,61
1=6B,70,61 1=6D,70,61 1=67,70,61 1=72,61,64 1=72,61,64,2215,73 1=72,61,64,2215,73,32 1=70,73
1=6E,73 1=3BC,73 1=6D,73 1=70,76 1=6E,76 1=3BC,76 1=6D,76 1=6B,76 1=6D,76 1=70,77 1=6E,77 1=3BC,77
1=6D,77 1=6B,77 1=6D,77 1=6B,3C9 1=6D,3C9 2=62,71 1=63,63 1=63,64 1=63,2215,6B,67 2=64,62 1=67,79
1=68,61 1=68,70 1=69,6E 1=6B,6B 1=6B,6D 1=6B,74 1=6C,6D 1=6C,6E 1=6C,6F,67 1=6C,78 1=6D,62
1=6D,69,6C 1=6D,6F,6C 1=70,68 2=70,70,6D 1=70,72 1=73,72 1=73,76 1=77,62 1=76,2215,6D 1=61,2215,6D
1=31,65E5 1=32,65E5 1=33,65E5 1=34,65E5 1=35,65E5 1=36,65E5 1=37,65E5 1=38,65E5 1=39,65E5
1=31,30,65E5 1=31,31,65E5 1=31,32,65E5 1=31,33,65E5 1=31,34,65E5 1=31,35,65E5 1=31,36,65E5
1=31,37,65E5 1=31,38,65E5 1=31,39,65E5 1=32,30,65E5 1=32,31,65E5 1=32,32,65E5 1=32,33,65E5
1=32,34,65E5 1=32,35,65E5 1=32,36,65E5 1=32,37,65E5 1=32,38,65E5 1=32,39,65E5 1=33,30,65E5
1=33,31,65E5 1=67,61,6C 7241+16=A641 40+D=A681 1C=44A 1=44C 85+6=A723 10+1E=A733 3E=A76F 9+1=A77A
4=1D79 1+4=A77F D=A78C 2=265 3+1=A791 6+9=A797 14=266 1=25C 1=261 1=26C 1=26A 2=29E 1=287 1=29D
1=AB53 1+7=A7B5 10=A794 1=282 1=1D8E 1+1=A7C8 4=264 1=A7CD 4=A7D1 6+2=A7D7 6=19B 16=63 1=66 1=71
1=A7F6 3=127 1=153 363=A727 1=AB37 1=26B 1=AB52 A=28D 7-4F=13A0 4F90=66,66 1=66,69 1=66,6C
1=66,66,69 1=66,66,6C 1=73,74 1=73,74 D=574,576 1=574,565 1=574,56B 1=57E,576 1=574,56D 9=5E2
1=5D0 1-1=5D3 2-2=5DB 3=5E8 1=5EA 1=2B 26=5D0,5DC 1=671 1=671 1=67B 1=67B 1=67B 1=67B 1=67E 1=67E
1=67E 1=67E 1=680 1=680 1=680 1=680 1=67A 1=67A 1=67A 1=67A 1=67F 1=67F 1=67F 1=67F 1=679 1=679
1=679 1=679 1=6A4 1=6A4 1=6A4 1=6A4 1=6A6 1=6A6 1=6A6 1=6A6 1=684 1=684 1=684 1=684 1=683 1=683
1=683 1=683 1=686 1=686 1=686 1-1=686 2=687 1=687 1=687 1=68D 1=68D 1=68C 1=68C 1=68E 1=68E 1=688
1=688 1=698 1=698 1=691 1=691 1=6A9 1=6A9 1=6A9 1=6A9 1=6AF 1=6AF 1=6AF 1=6AF 1=6B3 1=6B3 1=6B3
1=6B3 1=6B1 1=6B1 1=6B1 1=6B1 1=6BA 1-1=6BA 2=6BB 1=6BB 1=6BB 1=6C0 1-1=6C0 2=6C1 1=6C1 1=6C1
1=6BE 1=6BE 1=6BE 1=6BE 1=6D2 1-1=6D2 2=6D3 22=6AD 1=6AD 1=6AD 1=6AD 1=6C7 1=6C7 1=6C6 1=6C6 1=6C8
1=6C8 1=6C7,674 1=6CB 1=6CB 1=6C5 1=6C5 1=6C9 1=6C9 1=6D0 1=6D0 1=6D0 1=6D0 1=649 1=649 1=626,627
1=626,627 1=626,6D5 1=626,6D5 1=626,648 1=626,648 1=626,6C7 1=626,6C7 1=626,6C6 1=626,6C6
1=626,6C8 1=626,6C8 1=626,6D0 1=626,6D0 1=626,6D0 1=626,649 1=626,649 1=626,649 1=6CC 1=6CC 1=6CC
1=6CC 1=626,62C 1=626,62D 1=626,645 1=626,649 1=626,64A 1=628,62C 1=628,62D 1=628,62E 1=628,645
1=628,649 1=628,64A 1=62A,62C 1=62A,62D 1=62A,62E 1=62A,645 1=62A,649 1=62A,64A 1=62B,62C
1=62B,645 1=62B,649 1=62B,64A 1=62C,62D 1=62C,645 1=62D,62C 1=62D,645 1=62E,62C 1=62E,62D
1=62E,645 1=633,62C 1=633,62D 1=633,62E 1=633,645 1=635,62D 1=635,645 1=636,62C 1=636,62D
1=636,62E 1=636,645 1=637,62D 1=637,645 1=638,645 1=639,62C 1=639,645 1=63A,62C 1=63A,645
1=641,62C 1=641,62D 1=641,62E 1=641,645 1=641,649 1=641,64A 1=642,62D 1=642,645 1=642,649
1=642,64A 1=643,627 1=643,62C 1=643,62D 1=643,62E 1=643,644 1=643,645 1=643,649 1=643,64A
1=644,62C 1=644,62D 1=644,62E 1=644,645 1=644,649 1=644,64A 1=645,62C 1=645,62D 1=645,62E
1=645,645 1=645,649 1=645,64A 1=646,62C 1=646,62D 1=646,62E 1=646,645 1=646,649 1=646,64A
1=647,62C 1=647,645 1=647,649 1=647,64A 1=64A,62C 1=64A,62D 1=64A,62E 1=64A,645 1=64A,649
1=64A,64A 1=630,670 1=631,670 1=649,670 1=20,64C,651 1=20,64D,651 1=20,64E,651 1=20,64F,651
1=20,650,651 1=20,651,670 1=626,631 1=626,632 1=626,645 1=626,646 1=626,649 1=626,64A 1=628,631
1=628,632 1=628,645 1=628,646 1=628,649 1=628,64A 1=62A,631 1=62A,632 1=62A,645 1=62A,646
1=62A,649 1=62A,64A 1=62B,631 1=62B,632 1=62B,645 1=62B,646 1=62B,649 1=62B,64A 1=641,649
1=641,64A 1=642,649 1=642,64A 1=643,627 1=643,644 1=643,645 1=643,649 1=643,64A 1=644,645
1=644,649 1=644,64A 1=645,627 1=645,645 1=646,631 1=646,632 1=646,645 1=646,646 1=646,649
1=646,64A 1=649,670 1=64A,631 1=64A,632 1=64A,645 1=64A,646 1=64A,649 1=64A,64A 1=626,62C
1=626,62D 1=626,62E 1=626,645 1=626,647 1=628,62C 1=628,62D 1=628,62E 1=628,645 1=628,647
1=62A,62C 1=62A,62D 1=62A,62E 1=62A,645 1=62A,647 1=62B,645 1=62C,62D 1=62C,645 1=62D,62C
1=62D,645 1=62E,62C 1=62E,645 1=633,62C 1=633,62D 1=633,62E 1=633,645 1=635,62D 1=635,62E
1=635,645 1=636,62C 1=636,62D 1=636,62E 1=636,645 1=637,62D 1=638,645 1=639,62C 1=639,645
1=63A,62C 1=63A,645 1=641,62C 1=641,62D 1=641,62E 1=641,645 1=642,62D 1=642,645 1=643,62C
1=643,62D 1=643,62E 1=643,644 1=643,645 1=644,62C 1=644,62D 1=644,62E 1=644,645 1=644,647
1=645,62C 1=645,62D 1=645,62E 1=645,645 1=646,62C 1=646,62D 1=646,62E 1=646,645 1=646,647
1=647,62C 1=647,645 1=647,670 1=64A,62C 1=64A,62D 1=64A,62E 1=64A,645 1=64A,647 1=626,645
1=626,647 1=628,645 1=628,647 1=62A,645 1=62A,647 1=62B,645 1=62B,647 1=633,645 1=633,647
1=634,645 1=634,647 1=643,644 1=643,645 1=644,645 1=646,645 1=646,647 1=64A,645 1=64A,647
1=640,64E,651 1=640,64F,651 1=640,650,651 1=637,649 1=637,64A 1=639,649 1=639,64A 1=63A,649
1=63A,64A 1=633,649 1=633,64A 1=634,649 1=634,64A 1=62D,649 1=62D,64A 1=62C,649 1=62C,64A
1=62E,649 1=62E,64A 1=635,649 1=635,64A 1=636,649 1=636,64A 1=634,62C 1=634,62D 1=634,62E
1=634,645 1=634,631 1=633,631 1=635,631 1=636,631 1=637,649 1=637,64A 1=639,649 1=639,64A
1=63A,649 1=63A,64A 1=633,649 1=633,64A 1=634,649 1=634,64A 1=62D,649 1=62D,64A 1=62C,649
1=62C,64A 1=62E,649 1=62E,64A 1=635,649 1=635,64A 1=636,649 1=636,64A 1=634,62C 1=634,62D
1=634,62E 1=634,645 1=634,631 1=633,631 1=635,631 1=636,631 1=634,62C 1=634,62D 1=634,62E
1=634,645 1=633,647 1=634,647 1=637,645 1=633,62C 1=633,62D 1=633,62E 1=634,62C 1=634,62D
1=634,62E 1=637,645 1=638,645 1=627,64B 1=627,64B 13=62A,62C,645 1=62A,62D,62C 1=62A,62D,62C
1=62A,62D,645 1=62A,62E,645 1=62A,645,62C 1=62A,645,62D 1=62A,645,62E 1=62C,645,62D 1=62C,645,62D
1=62D,645,64A 1=62D,645,649 1=633,62D,62C 1=633,62C,62D 1=633,62C,649 1=633,645,62D 1=633,645,62D
1=633,645,62C 1=633,645,645 1=633,645,645 1=635,62D,62D 1=635,62D,62D 1=635,645,645 1=634,62D,645
1=634,62D,645 1=634,62C,64A 1=634,645,62E 1=634,645,62E 1=634,645,645 1=634,645,645 1=636,62D,649
1=636,62E,645 1=636,62E,645 1=637,645,62D 1=637,645,62D 1=637,645,645 1=637,645,64A 1=639,62C,645
1=639,645,645 1=639,645,645 1=639,645,649 1=63A,645,645 1=63A,645,64A 1=63A,645,649 1=641,62E,645
1=641,62E,645 1=642,645,62D 1=642,645,645 1=644,62D,645 1=644,62D,64A 1=644,62D,649 1=644,62C,62C
1=644,62C,62C 1=644,62E,645 1=644,62E,645 1=644,645,62D 1=644,645,62D 1=645,62D,62C 1=645,62D,645
1=645,62D,64A 1=645,62C,62D 1=645,62C,645 1=645,62E,62C 1=645,62E,645 3=645,62C,62E 1=647,645,62C
1=647,645,645 1=646,62D,645 1=646,62D,649 1=646,62C,645 1=646,62C,645 1=646,62C,649 1=646,645,64A
1=646,645,649 1=64A,645,645 1=64A,645,645 1=628,62E,64A 1=62A,62C,64A 1=62A,62C,649 1=62A,62E,64A
1=62A,62E,649 1=62A,645,64A 1=62A,645,649 1=62C,645,64A 1=62C,62D,649 1=62C,645,649 1=633,62E,649
1=635,62D,64A 1=634,62D,64A 1=636,62D,64A 1=644,62C,64A 1=644,645,64A 1=64A,62D,64A 1=64A,62C,64A
1=64A,645,64A 1=645,645,64A 1=642,645,64A 1=646,62D,64A 1=642,645,62D 1=644,62D,645 1=639,645,64A
1=643,645,64A 1=646,62C,62D 1=645,62E,64A 1=644,62C,645 1=643,645,645 1=644,62C,645 1=646,62C,62D
1=62C,62D,64A 1=62D,62C,64A 1=645,62C,64A 1=641,645,64A 1=628,62D,64A 1=643,645,645 1=639,62C,645
1=635,645,645 1=633,62E,64A 1=646,62C,64A 29=635,644,6D2 1=642,644,6D2 1=627,644,644,647
1=627,643,628,631 1=645,62D,645,62F 1=635,644,639,645 1=631,633,648,644 1=639,644,64A,647
1=648,633,644,645 1=635,644,649
1=635,644,649,20,627,644,644,647,20,639,644,64A,647,20,648,633,644,645
1=62C,644,20,62C,644,627,644,647 1=631,6CC,627,644 14=2C 1=3001 2-1=3A 2=21 1=3F 1-1=3016 1A=2014
1=2013 1=5F 1=5F 1-1=28 2=7B 1=7D 1-1=3014 2-1=3010 2-1=300A 2-1=3008 2-3=300C 6=5B 1=5D 1=20,305
1=20,305 1=20,305 1=20,305 1=5F 1=5F 1=5F 1=2C 1=3001 3=3B 1=3A 1=3F 1=21 1=2014 1-1=28 2=7B 1=7D
1-1=3014 2=23 1=26 1-1=2A 2=2D 1=3C 1=3E 1=3D 2=5C 1-1=24 2=40 5=20,64B 1=640,64B 1=20,64C
2=20,64D 2=20,64E 1=640,64E 1=20,64F 1=640,64F 1=20,650 1=640,650 1=20,651 1=640,651 1=20,652
1=640,652 1-1=621 2-1=622 2-1=623 2-1=624 2-1=625 2=626 1=626 1-1=626 2-1=627 2=628 1=628 1-1=628
2-1=629 2=62A 1=62A 1-1=62A 2=62B 1=62B 1-1=62B 2=62C 1=62C 1-1=62C 2=62D 1=62D 1-1=62D 2=62E
1=62E 1-1=62E 2-1=62F 2-1=630 2-1=631 2-1=632 2=633 1=633 1-1=633 2=634 1=634 1-1=634 2=635 1=635
1-1=635 2=636 1=636 1-1=636 2=637 1=637 1-1=637 2=638 1=638 1-1=638 2=639 1=639 1-1=639 2=63A
1=63A 1=63A 1=641 1=641 1=641 1-1=641 2=642 1=642 1-1=642 2=643 1=643 1-1=643 2=644 1=644 1-1=644
2=645 1=645 1-1=645 2=646 1=646 1-1=646 2=647 1=647 1-1=647 2-1=648 2-1=649 2=64A 1=64A 1=64A
1=644,622 1=644,622 1=644,623 1=644,623 1=644,625 1=644,625 1=644,627 1=644,627 5-1F=21 20-19=61
1A-23=5B 24-1=2985 2=2E 1-1=300C 2=3001 1=30FB 1=30F2 1=30A1 1=30A3 1=30A5 1=30A7 1=30A9 1=30E3
1=30E5 1=30E7 1=30C3 1=30FC 1=30A2 1=30A4 1=30A6 1=30A8 1-1=30AA 2=30AD 1=30AF 1=30B1 1=30B3
1=30B5 1=30B7 1=30B9 1=30BB 1=30BD 1=30BF 1=30C1 1=30C4 1=30C6 1=30C8 1-5=30CA 6=30D2 1=30D5
1=30D8 1=30DB 1-4=30DE 5=30E4 1=30E6 1-5=30E8 6=30EF 1=30F3 1-1=3099 3-1=1100 2=11AA 1=1102
1-1=11AC 2-2=1103 3-5=11B0 6=111A 1-2=1106 3=1121 1-9=1109 D-5=1161 8-5=1167 8-5=116D 8-2=1173
6-1=A2 2=AC 1=20,304 1=A6 1=A5 1=20A9 2=2502 1-3=2190 4=25A0 1=25CB 412-27=10428 B0-23=104D8
C0-A=10597 C-E=105A3 10-6=105B3 8-1=105BB 1ED-1=2D0 2=E6 1=299 1=253 2=2A3 1=AB66 1=2A5 1=2A4
1-1=256 2=1D91 1=258 1=25E 1=2A9 1=264 1=262 1=260 1=29B 1=127 1=29C 1=267 1=284 1-1=2AA 2=26C
1=1DF04 1=A78E 1=26E 1=1DF05 1=28E 1=1DF06 1=F8 1-1=276 2=71 1=27A 1=1DF08 1-1=27D 2=280 1=2A8
1=2A6 1=AB67 1=2A7 1=288 1=2C71 2=28F 1-1=2A1 2=298 1-2=1C0 3=1DF0A 1=1DF1E 4C6-32=10CC0
D0-15=10D70 B50-1F=118C0 55A0-1F=16E60 5E96-19=61 1A-9=30 710-19=61 1A-19=61 1A-19=61 1A-6=61
8-11=69 12-19=61 1A-19=61 1A+1=61 3=64 3=67 3-1=6A 4-3=6E 5-7=73 8-3=61 5+1=66 3-5=69 7-A=70
B-19=61 1A-19=61 1A-1=61 3-3=64 6-7=6A 9-6=73 8-19=61 1A-1=61 3-3=64 5-4=69 6=6F 4-6=73 8-19=61
1A-19=61 1A-19=61 1A-19=61 1A-19=61 1A-19=61 1A-19=61 1A-19=61 1A-19=61 1A-19=61 1A-19=61 1A-19=61
1A-19=61 1A=131 1=237 3-10=3B1 11=3B8 1-6=3C3 7=2207 1-10=3B1 11=3C3 1-6=3C3 7=2202 1=3B5 1=3B8
1=3BA 1=3C6 1=3C1 1=3C0 1-10=3B1 11=3B8 1-6=3C3 7=2207 1-10=3B1 11=3C3 1-6=3C3 7=2202 1=3B5 1=3B8
1=3BA 1=3C6 1=3C1 1=3C0 1-10=3B1 11=3B8 1-6=3C3 7=2207 1-10=3B1 11=3C3 1-6=3C3 7=2202 1=3B5 1=3B8
1=3BA 1=3C6 1=3C1 1=3C0 1-10=3B1 11=3B8 1-6=3C3 7=2207 1-10=3B1 11=3C3 1-6=3C3 7=2202 1=3B5 1=3B8
1=3BA 1=3C6 1=3C1 1=3C0 1-10=3B1 11=3B8 1-6=3C3 7=2207 1-10=3B1 11=3C3 1-6=3C3 7=2202 1=3B5 1=3B8
1=3BA 1=3C6 1=3C1 1=3C0 1=3DD 1=3DD 3-9=30 A-9=30 A-9=30 A-9=30 A-9=30 83A-8=430 9-2=43A 3-A=43E
B=44B 1-1=44D 2=A689 1=4D9 1=456 1=458 1=4E9 1=4AF 1=4CF 1-8=430 9-1=43A 2-1=43E 2=441 1-5=443
6-1=44A 2=491 1=456 1=455 1=45F 1=4AB 1=A651 1=4B1 893-21=1E922 500-1=627 2=62C 1=62F 2=648 1=632
1=62D 1=637 1=64A 1-3=643 4=633 1=639 1=641 1=635 1=642 1=631 1=634 1-1=62A 2=62E 1=630 1=636
1=638 1=63A 1=66E 1=6BA 1=6A1 1=66F 2=628 1=62C 2=647 3=62D 2=64A 1-3=643 4=633 1=639 1=641 1=635
1=642 2=634 1-1=62A 2=62E 2=636 2=63A 7=62C 5=62D 2=64A 2+1=644 3=633 1=639 2=635 1=642 2=634
3=62E 2=636 2=63A 2=6BA 2=66F 2=628 1=62C 2=647 3=62D 1=637 1=64A 1+1=643 3=646 1=633 1=639 1=641
1=635 1=642 2=634 1-1=62A 2=62E 2=636 1=638 1=63A 1=66E 2=6A1 2-1=627 2=62C 1=62F 1-1=647 2=632
1=62D 1=637 1=64A 2-2=644 3=633 1=639 1=641 1=635 1=642 1=631 1=634 1-1=62A 2=62E 1=630 1=636
1=638 1=63A 6=628 1=62C 1=62F 2=648 1=632 1=62D 1=637 1=64A 2-2=644 3=633 1=639 1=641 1=635 1=642
1=631 1=634 1-1=62A 2=62E 1=630 1=636 1=638 1=63A 246=30,2C 1=31,2C 1=32,2C 1=33,2C 1=34,2C
1=35,2C 1=36,2C 1=37,2C 1=38,2C 1=39,2C 6=28,61,29 1=28,62,29 1=28,63,29 1=28,64,29 1=28,65,29
1=28,66,29 1=28,67,29 1=28,68,29 1=28,69,29 1=28,6A,29 1=28,6B,29 1=28,6C,29 1=28,6D,29 1=28,6E,29
1=28,6F,29 1=28,70,29 1=28,71,29 1=28,72,29 1=28,73,29 1=28,74,29 1=28,75,29 1=28,76,29 1=28,77,29
1=28,78,29 1=28,79,29 1=28,7A,29 1=3014,73,3015 1=63 1=72 1=63,64 1=77,7A 2-19=61 1A=68,76 1=6D,76
1=73,64 1=73,73 1=70,70,76 1=77,63 1B=6D,63 1=6D,64 1=6D,72 24=64,6A 70=307B,304B 1=30B3,30B3
1=30B5 E=624B 1=5B57 1=53CC 1=30C7 1=4E8C 1=591A 1=89E3 1=5929 1=4EA4 1=6620 1=7121 1=6599 1=524D
1=5F8C 1=518D 1=65B0 1=521D 1=7D42 1=751F 1=8CA9 1=58F0 1=5439 1=6F14 1=6295 1=6355 1=4E00 1=4E09
1=904A 1=5DE6 1=4E2D 1=53F3 1=6307 1=8D70 1=6253 1=7981 1=7A7A 1=5408 1=6E80 1=6709 1=6708 1=7533
1=5272 1=55B6 1=914D 5=3014,672C,3015 1=3014,4E09,3015 1=3014,4E8C,3015 1=3014,5B89,3015
1=3014,70B9,3015 1=3014,6253,3015 1=3014,76D7,3015 1=3014,52DD,3015 1=3014,6557,3015 8=5F97 1=53EF
99F-9=30"

def domainIgnored : String :=
  "AD 2A1 E0F-1 653-1 55-4 7FB 54-4 5-5 10F4 CC9B-F EF A0 BCFF-3 14CF-7 C2F85-EF"

def domainDisallowed : String :=
  "80-1F 2D8-1 6-3 7 1 14 18D 26-1 32-1 3 37-7 1B-3 6-10 16 C0 30-1 3B-1 65-D
3B-1 31-1 F 1C-1 1 B-4 1F-7 4B A1 8-1 2-1 16 7 1-2 4-1 9-1 2-1 4-7 1-3 2 5-1 19-1 3 6-3 2-1 16 7 2
2 2-1 1 5-3 2-1 3-2 1-6 4 1-6 11-9 3 9 3 16 7 2 5-1 A 3 3-1 1-E 4-1 C-6 7 3 8-1 2-1 16 7 2 5-1 9-1
2-1 3-6 3-3 2 5-1 12-9 2 6-2 3 4-2 2 1 2-2 2-2 3-2 C-3 5-2 3 4-1 1-5 1-D 15-4 D 3 17 10-1 9 3 4-6
2 3-1 1-1 4-1 A-6 16 3 17 A 5-1 9 3 4-6 2-5 2 4-1 A 3-B D 3 33 3 6-3 10-1 1A 3 12-2 18 9 1-1 7-2
1-3 6 1 8-5 A-1 3-B 3A-3 1D-24 2 1 5 18 1 17-1 5 1 7 A-1 4-1F 48 24-3 27 24 F D-24 C6 1-4 1-1 179
4-1 7 1 4-1 29 4-1 21 4-1 7 1 4-1 F 39 4-1 43-1 20-2 1A-5 56-1 6-1 280 1C-2 59-6 16-8 18-8 14-B D
3 2-B 5E-1 A-5 A-5 1A-5 59-6 2B-4 46-9 1F C-3 C-3 1-2 2A-1 5-A 2C-3 1A-5 B-2 3E-1 41 1D-1 B-5 A-5
E-1 1F-30 4D A6-7 3C-2 F-2 3E-4 2B-1 B-7 2B-4 216-1 6-1 26-1 6-1 8 1 1 1 1F-1 35 F E-1 6 13-1 3 9
E-1 14-2 1-6 36-4 8-1 1B D-2 21-E 21-E 8C-3 29A-15 B-14 28-13 6D8-1 20 15D-4 2D 1-4 1-1 38-6 2-D
18-8 7 7 7 7 7 7 7 7 7E-21 1A 59-B D6-29 40 56-1 67-4 2B 5E 56-9 2F 1A2 4 10 70B4-2 37-8 15C-13
B8-7 CE-1 2 1 8-14 3B-2 A-5 38-7 46-7 C-5 74-A 1E-2 4E B-3 21 37-8 E-1 A-1 67-17 1C-9 6-1 6-1 6-8
7 7 3C-3 7E-1 A-5 2BA4-B 17-3 31-3 800-18FF 16E-1 6A-25 7-B 5-4 1A 5 1 2 2 7D-F 1BD-1 36-6 1-1F 22
6-6 10 21-1 13 4-3 5 87-1 1 BE-2 6-1 6-1 6-1 3-2 7 7-10 C 1A 13 2 F-1 E-21 7B-4 3-3 2D-2 58 D-2
1-2E 2E-81 1D-2 31-E 1C-3 24-8 1E-4 2B-4 1E 25-3 E-29 9E-1 A-5 24-3 24-3 28-7 34-A C F 7 2 B F 7
2-2 34-B 137-8 16-9 8-17 6 2A 9-44 6-1 1 2C 2-2 1-1 17 48-7 9-2F 13 2-4 21-2 1B-4 1-3F 38-3 14-1
32 2-4 8 3 1D-1 3-3 A-6 9-6 40-1F 27-3 C-8 36-2 1D-1 1B-4 1A-6 4-B 7-4F 49-36 33-C 33-6 2E-7 A-5
26-2 1D-7 2-CF 1F 2A 3-1 2-F 3-36 2C-7 2A-15 1A-25 1C-13 17-8 4E-3 24-8 3E 5-C 19-6 A-5 35 12-7
27-8 60 14-A 12 2F-3D 7 1 4 F B-5 3B-4 A-5 4 8-1 2-1 16 7 2 5 A-1 2-1 3-1 1-5 1-4 7-1 7-2 5-A A
1-1 1 26 A 1-1 1 4 A 2-7 2-1C 5C 5-1D 48-7 A-A5 36-1 26-21 45-A A-5 D-12 3A-5 A-5 14-1B 1B-1 F-3
17-B8 3C-63 53-B 8-1 1-1 8 2 1E 2-1 C-8 A-45 8-1 2E-1 B-1A 48-7 53-C 49-6 A-B5 22-D A-5 9 2D E-9
1D-2 20-1 16 E-48 7 2 2C-2 1 2 9-7 A-5 6 2 25 2 6-6 A-135 19-6 11 29-2 1D-54 1-E 32-C 39B-65 6F
5-A C4-A4B 63-C 430-F 16-9 F9B-4 247-1AB8 3A-6C5 239-6 1F A-3 51 A-5 1E-1 6-9 46-9 A 7 15-4 13-1AF
3A-C5 5B-64 4B-3 39-6 11-3F 5-A 2-D 17F8-7 4D6-28 A-22E6 4 7 2 123-E 1-1C 3-1 1-D 4-7 18C-903 6B-4
D-2 9-6 A-1 8-F5B FA-5 1B4-4B 2E-1 17-8 74-3B F6-9 27-1 C2-14 46-79 14-B 14-B 57-8 19-86 55 47 2-1
1-1 2-1 4 C 1 7 41 4-1 8 7 1C 4 5 1-2 7 154-1 124-1 2BE-E 5 F-44F 1F-5 6-D4 7 11-1 7 2 5-4 3E-20
1-6F 2D-2 E-1 A-3 2-13F 1F-10 3A-4 1-1CF 2A-D5 2B-3 1-1DF 7 4 2 F C5-1 10-28 4C-3 A-3 2-310 44-4B
3D-C1 4 1B 2 1-1 1 A 4 1 1-5 1-3 1 1 1 3 2 1-1 1 1 1 1 1 2 1-1 4 7 4 4 1 A 11-4 3 5 11-33 2-10D
2C-3 64-B F-1 F F 25-A AD-37 1D-C 2C-3 9-6 2-D 6-99 3D8-3 11-2 D-2 77-3 5F-5 C-3 1-E C-3 38-7 A-5
28-7 1E-1 C-3 2-3D 154-B E-1 D-2 A-4 38-6 F-1 B-5 9-6 93 66-405 A6E0-1F 103A-5 DE-1 1682-D 1D31-E
26E-9A1 21E-5E1 134B-4 1060-ADD4F F0-2FE0F"

end ConditionalGateway.Unicode.Data
