import TokenAuth.Domain.CodePointTable

/-!
Writing directions of the code points that may stand in a domain name (Unicode 15.0).
-/
namespace TokenAuth.Domain

/-- The marks: `r` from right to left, `n` Arabic number, `u` European number, `m` nonspacing mark,
`o` neutral, `x` what no label may hold. All others are written from left to right. -/
def directionTable : CodePointTable := CodePointTable.ofText "0-8o 9-Dx E-1Bo 1C-20x 21-2Fo 30-39u 3A-60o 7B-D7o F7o 2B9-2BAo 2C2-2CFo 2D2-2EDo 2EF-2FFo
300-36Fm 375o 3F6o 483-489m 58A-58Fo 591-5BDm 5BEr 5BFm 5C0r 5C1-5C2m 5C3r 5C4-5C5m 5C6r 5C7m
5D0-5F4r 606-607o 608r 609-60Ao 60Br 60Co 60Dr 60E-60Fo 610-61Am 61B-64Ar 64B-65Fm 660-669n
66Ao 66B-66Cn 66D-66Fr 670m 671-6D5r 6D6-6DCm 6DEo 6DF-6E4m 6E5-6E6r 6E7-6E8m 6E9o 6EA-6EDm
6EE-6EFr 6F0-6F9u 6FA-710r 711m 712-72Fr 730-74Am 74D-7A5r 7A6-7B0m 7B1-7EAr 7EB-7F3m 7F4-7F5r
7F6-7F9o 7FAr 7FDm 7FE-815r 816-819m 81Ar 81B-823m 824r 825-827m 828r 829-82Dm 830-858r
859-85Bm 85E-88Er 898-89Fm 8A0-8C9r 8CA-902m 93Am 93Cm 941-948m 94Dm 951-957m 962-963m 981m
9BCm 9C1-9C4m 9CDm 9E2-9E3m 9F2-9F3o 9FBo 9FE-A02m A3Cm A41-A51m A70-A71m A75m A81-A82m ABCm
AC1-AC8m ACDm AE2-AE3m AF1o AFA-B01m B3Cm B3Fm B41-B44m B4D-B56m B62-B63m B82m BC0m BCDm
BF3-BFAo C00m C04m C3Cm C3E-C40m C46-C56m C62-C63m C78-C7Eo C81m CBCm CCC-CCDm CE2-CE3m
D00-D01m D3B-D3Cm D41-D44m D4Dm D62-D63m D81m DCAm DD2-DD6m E31m E34-E3Am E3Fo E47-E4Em EB1m
EB4-EBCm EC8-ECEm F18-F19m F35m F37m F39m F3A-F3Do F71-F7Em F80-F84m F86-F87m F8D-FBCm FC6m
102D-1030m 1032-1037m 1039-103Am 103D-103Em 1058-1059m 105E-1060m 1071-1074m 1082m 1085-1086m
108Dm 109Dm 135D-135Fm 1390-1399o 1400o 169B-169Co 1712-1714m 1732-1733m 1752-1753m 1772-1773m
17B7-17BDm 17C6m 17C9-17D3m 17DBo 17DDm 17F0-180Ao 1885-1886m 18A9m 1920-1922m 1927-1928m 1932m
1939-193Bm 1940-1945o 19DE-19FFo 1A17-1A18m 1A1Bm 1A56m 1A58-1A60m 1A62m 1A65-1A6Cm 1A73-1A7Fm
1AB0-1B03m 1B34m 1B36-1B3Am 1B3Cm 1B42m 1B6B-1B73m 1B80-1B81m 1BA2-1BA5m 1BA8-1BA9m 1BAB-1BADm
1BE6m 1BE8-1BE9m 1BEDm 1BEF-1BF1m 1C2C-1C33m 1C36-1C37m 1CD0-1CD2m 1CD4-1CE0m 1CE2-1CE8m 1CEDm
1CF4m 1CF8-1CF9m 1DC0-1DFFm 200C-20C0o 20D0-20F0m 2104-214Do 218A-2335o 237B-2394o 2396-26ABo
26AD-27FFo 2900-2BFFo 2CE5-2CEAo 2CEF-2CF1m 2CF9-2CFFo 2D7Fm 2DE0-2DFFm 2E00-3004o 3008-3020o
302A-302Dm 3030o 3037o 303D-303Fo 3099-309Am 30A0o 30FBo 31C0-31E3o 4DC0-4DFFo A490-A4C6o
A60D-A60Fo A66F-A672m A673o A674-A67Dm A67E-A67Fo A69E-A69Fm A6F0-A6F1m A700-A721o A788o A802m
A806m A80Bm A825-A826m A828-A82Bo A82Cm A838-A839o A874-A877o A8C4-A8C5m A8E0-A8F1m A8FFm
A926-A92Dm A947-A951m A980-A982m A9B3m A9B6-A9B9m A9BC-A9BDm A9E5m AA29-AA2Em AA31-AA32m
AA35-AA36m AA43m AA4Cm AA7Cm AAB0m AAB2-AAB4m AAB7-AAB8m AABE-AABFm AAC1m AAEC-AAEDm AAF6m
AB6A-AB6Bo ABE5m ABE8m ABEDm FB1Em FBB2-FBC2r FD3E-FDFFo FE20-FE2Fm FE45-FE46o FE73r 10101o
10140-1018Co 10190-101A0o 101FDm 102E0m 102E1-102FBu 10376-1037Am 10800-1091Br 1091Fo
10920-10A00r 10A01-10A0Fm 10A10-10A35r 10A38-10A3Fm 10A40-10AE4r 10AE5-10AE6m 10AEB-10B35r
10B39-10B3Fo 10B40-10D23r 10D24-10D27m 10D30-10E7En 10E80-10EA9r 10EAB-10EACm 10EAD-10EB1r
10EFD-10EFFm 10F00-10F45r 10F46-10F50m 10F51-10F81r 10F82-10F85m 10F86-10FF6r 11001m
11038-11046m 11052-11065o 11070m 11073-11074m 1107F-11081m 110B3-110B6m 110B9-110BAm 110C2m
11100-11102m 11127-1112Bm 1112D-11134m 11173m 11180-11181m 111B6-111BEm 111C9-111CCm 111CFm
1122F-11231m 11234m 11236-11237m 1123Em 11241m 112DFm 112E3-112EAm 11300-11301m 1133B-1133Cm
11340m 11366-11374m 11438-1143Fm 11442-11444m 11446m 1145Em 114B3-114B8m 114BAm 114BF-114C0m
114C2-114C3m 115B2-115B5m 115BC-115BDm 115BF-115C0m 115DC-115DDm 11633-1163Am 1163Dm
1163F-11640m 11660-1166Co 116ABm 116ADm 116B0-116B5m 116B7m 1171D-1171Fm 11722-11725m
11727-1172Bm 1182F-11837m 11839-1183Am 1193B-1193Cm 1193Em 11943m 119D4-119DBm 119E0m
11A01-11A06m 11A09-11A0Am 11A33-11A38m 11A3B-11A3Em 11A47m 11A51-11A56m 11A59-11A5Bm
11A8A-11A96m 11A98-11A99m 11C30-11C3Dm 11C92-11CA7m 11CAA-11CB0m 11CB2-11CB3m 11CB5-11CB6m
11D31-11D45m 11D47m 11D90-11D91m 11D95m 11D97m 11EF3-11EF4m 11F00-11F01m 11F36-11F3Am 11F40m
11F42m 11FD5-11FF1o 13440m 13447-13455m 16AF0-16AF4m 16B30-16B36m 16F4Fm 16F8F-16F92m 16FE2o
16FE4m 1BC9D-1BC9Em 1CF00-1CF46m 1D167-1D169m 1D17B-1D182m 1D185-1D18Bm 1D1AA-1D1ADm
1D1E9-1D241o 1D242-1D244m 1D245o 1D300-1D356o 1DA00-1DA36m 1DA3B-1DA6Cm 1DA75m 1DA84m
1DA9B-1DAAFm 1E000-1E08Fm 1E130-1E136m 1E2AEm 1E2EC-1E2EFm 1E2FFo 1E4EC-1E4EFm 1E800-1E8CFr
1E8D0-1E8D6m 1E922-1E943r 1E944-1E94Am 1E94B-1ED3Dr 1EEF0-1F12Fo 1F16D-1F16Fo 1F1ADo
1F260-1FBCAo"

end TokenAuth.Domain
