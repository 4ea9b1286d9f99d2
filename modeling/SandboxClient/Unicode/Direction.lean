/-
  SandboxClient/Unicode/Direction.lean
  ====================================
  **Directions of characters.** What a domain name may look like depends on which
  of its characters are written from right to left. The classes are, by number:
  1 right-to-left letters, 2 Arabic letters, 3 Arabic numbers, 4 European numbers,
  5 their separators, 6 common separators, 7 their terminators, 8 neutral
  characters, 9 boundary neutral ones and 10 marks; the rest are left-to-right.
-/
import SandboxClient.Unicode.Ranges

namespace SandboxClient.Unicode

/-- Ranges of characters with the number of their class, in hexadecimal. -/
def directionTable : String := "
  00-08:09 0E-1B:09 21-22:08 23-25:07 26-2A:08 2B:05 2C:06 2D:05 2E-2F:06 30-39:04 3A:06
  3B-40:08 5B-60:08 7B-7E:08 7F-84:09 86-9F:09 A0:06 A1:08 A2-A5:07 A6-A9:08 AB-AC:08
  AD:09 AE-AF:08 B0-B1:07 B2-B3:04 B4:08 B6-B8:08 B9:04 BB-BF:08 D7:08 F7:08 2B9-2BA:08
  2C2-2CF:08 2D2-2DF:08 2E5-2ED:08 2EF-2FF:08 300-36F:0A 374-375:08 37E:08 384-385:08
  387:08 3F6:08 483-489:0A 58A:08 58D-58E:08 58F:07 591-5BD:0A 5BE:01 5BF:0A 5C0:01
  5C1-5C2:0A 5C3:01 5C4-5C5:0A 5C6:01 5C7:0A 5D0-5EA:01 5EF-5F4:01 600-605:03 606-607:08
  608:02 609-60A:07 60B:02 60C:06 60D:02 60E-60F:08 610-61A:0A 61B-64A:02 64B-65F:0A
  660-669:03 66A:07 66B-66C:03 66D-66F:02 670:0A 671-6D5:02 6D6-6DC:0A 6DD:03 6DE:08
  6DF-6E4:0A 6E5-6E6:02 6E7-6E8:0A 6E9:08 6EA-6ED:0A 6EE-6EF:02 6F0-6F9:04 6FA-70D:02
  70F-710:02 711:0A 712-72F:02 730-74A:0A 74D-7A5:02 7A6-7B0:0A 7B1:02 7C0-7EA:01
  7EB-7F3:0A 7F4-7F5:01 7F6-7F9:08 7FA:01 7FD:0A 7FE-815:01 816-819:0A 81A:01 81B-823:0A
  824:01 825-827:0A 828:01 829-82D:0A 830-83E:01 840-858:01 859-85B:0A 85E:01 860-86A:02
  870-88F:02 890-891:03 897-89F:0A 8A0-8C9:02 8CA-8E1:0A 8E2:03 8E3-902:0A 93A:0A 93C:0A
  941-948:0A 94D:0A 951-957:0A 962-963:0A 981:0A 9BC:0A 9C1-9C4:0A 9CD:0A 9E2-9E3:0A
  9F2-9F3:07 9FB:07 9FE:0A A01-A02:0A A3C:0A A41-A42:0A A47-A48:0A A4B-A4D:0A A51:0A
  A70-A71:0A A75:0A A81-A82:0A ABC:0A AC1-AC5:0A AC7-AC8:0A ACD:0A AE2-AE3:0A AF1:07
  AFA-AFF:0A B01:0A B3C:0A B3F:0A B41-B44:0A B4D:0A B55-B56:0A B62-B63:0A B82:0A BC0:0A
  BCD:0A BF3-BF8:08 BF9:07 BFA:08 C00:0A C04:0A C3C:0A C3E-C40:0A C46-C48:0A C4A-C4D:0A
  C55-C56:0A C62-C63:0A C78-C7E:08 C81:0A CBC:0A CCC-CCD:0A CE2-CE3:0A D00-D01:0A
  D3B-D3C:0A D41-D44:0A D4D:0A D62-D63:0A D81:0A DCA:0A DD2-DD4:0A DD6:0A E31:0A
  E34-E3A:0A E3F:07 E47-E4E:0A EB1:0A EB4-EBC:0A EC8-ECE:0A F18-F19:0A F35:0A F37:0A
  F39:0A F3A-F3D:08 F71-F7E:0A F80-F84:0A F86-F87:0A F8D-F97:0A F99-FBC:0A FC6:0A
  102D-1030:0A 1032-1037:0A 1039-103A:0A 103D-103E:0A 1058-1059:0A 105E-1060:0A
  1071-1074:0A 1082:0A 1085-1086:0A 108D:0A 109D:0A 135D-135F:0A 1390-1399:08 1400:08
  169B-169C:08 1712-1714:0A 1732-1733:0A 1752-1753:0A 1772-1773:0A 17B4-17B5:0A
  17B7-17BD:0A 17C6:0A 17C9-17D3:0A 17DB:07 17DD:0A 17F0-17F9:08 1800-180A:08 180B-180D:0A
  180E:09 180F:0A 1885-1886:0A 18A9:0A 1920-1922:0A 1927-1928:0A 1932:0A 1939-193B:0A
  1940:08 1944-1945:08 19DE-19FF:08 1A17-1A18:0A 1A1B:0A 1A56:0A 1A58-1A5E:0A 1A60:0A
  1A62:0A 1A65-1A6C:0A 1A73-1A7C:0A 1A7F:0A 1AB0-1ADD:0A 1AE0-1AEB:0A 1B00-1B03:0A 1B34:0A
  1B36-1B3A:0A 1B3C:0A 1B42:0A 1B6B-1B73:0A 1B80-1B81:0A 1BA2-1BA5:0A 1BA8-1BA9:0A
  1BAB-1BAD:0A 1BE6:0A 1BE8-1BE9:0A 1BED:0A 1BEF-1BF1:0A 1C2C-1C33:0A 1C36-1C37:0A
  1CD0-1CD2:0A 1CD4-1CE0:0A 1CE2-1CE8:0A 1CED:0A 1CF4:0A 1CF8-1CF9:0A 1DC0-1DFF:0A 1FBD:08
  1FBF-1FC1:08 1FCD-1FCF:08 1FDD-1FDF:08 1FED-1FEF:08 1FFD-1FFE:08 200B-200D:09 200F:01
  2010-2027:08 202F:06 2030-2034:07 2035-2043:08 2044:06 2045-205E:08 2060-2064:09
  206A-206F:09 2070:04 2074-2079:04 207A-207B:05 207C-207E:08 2080-2089:04 208A-208B:05
  208C-208E:08 20A0-20C0:07 20C1:08 20D0-20F0:0A 2100-2101:08 2103-2106:08 2108-2109:08
  2114:08 2116-2118:08 211E-2123:08 2125:08 2127:08 2129:08 212E:07 213A-213B:08
  2140-2144:08 214A-214D:08 2150-215F:08 2189-218B:08 2190-2211:08 2212:05 2213:07
  2214-2335:08 237B-2394:08 2396-2429:08 2440-244A:08 2460-2487:08 2488-249B:04
  24EA-26AB:08 26AD-27FF:08 2900-2B73:08 2B76-2BFF:08 2CE5-2CEA:08 2CEF-2CF1:0A
  2CF9-2CFF:08 2D7F:0A 2DE0-2DFF:0A 2E00-2E5D:08 2E80-2E99:08 2E9B-2EF3:08 2F00-2FD5:08
  2FF0-2FFF:08 3001-3004:08 3008-3020:08 302A-302D:0A 3030:08 3036-3037:08 303D-303F:08
  3099-309A:0A 309B-309C:08 30A0:08 30FB:08 31C0-31E5:08 31EF:08 321D-321E:08 3250-325F:08
  327C-327E:08 32B1-32BF:08 32CC-32CF:08 3377-337A:08 33DE-33DF:08 33FF:08 4DC0-4DFF:08
  A490-A4C6:08 A60D-A60F:08 A66F-A672:0A A673:08 A674-A67D:0A A67E-A67F:08 A69E-A69F:0A
  A6F0-A6F1:0A A700-A721:08 A788:08 A802:0A A806:0A A80B:0A A825-A826:0A A828-A82B:08
  A82C:0A A838-A839:07 A874-A877:08 A8C4-A8C5:0A A8E0-A8F1:0A A8FF:0A A926-A92D:0A
  A947-A951:0A A980-A982:0A A9B3:0A A9B6-A9B9:0A A9BC-A9BD:0A A9E5:0A AA29-AA2E:0A
  AA31-AA32:0A AA35-AA36:0A AA43:0A AA4C:0A AA7C:0A AAB0:0A AAB2-AAB4:0A AAB7-AAB8:0A
  AABE-AABF:0A AAC1:0A AAEC-AAED:0A AAF6:0A AB6A-AB6B:08 ABE5:0A ABE8:0A ABED:0A FB1D:01
  FB1E:0A FB1F-FB28:01 FB29:05 FB2A-FB36:01 FB38-FB3C:01 FB3E:01 FB40-FB41:01 FB43-FB44:01
  FB46-FB4F:01 FB50-FBC2:02 FBC3-FBD2:08 FBD3-FD3D:02 FD3E-FD4F:08 FD50-FD8F:02
  FD90-FD91:08 FD92-FDC7:02 FDC8-FDCF:08 FDF0-FDFC:02 FDFD-FDFF:08 FE00-FE0F:0A
  FE10-FE19:08 FE20-FE2F:0A FE30-FE4F:08 FE50:06 FE51:08 FE52:06 FE54:08 FE55:06
  FE56-FE5E:08 FE5F:07 FE60-FE61:08 FE62-FE63:05 FE64-FE66:08 FE68:08 FE69-FE6A:07 FE6B:08
  FE70-FE74:02 FE76-FEFC:02 FEFF:09 FF01-FF02:08 FF03-FF05:07 FF06-FF0A:08 FF0B:05 FF0C:06
  FF0D:05 FF0E-FF0F:06 FF10-FF19:04 FF1A:06 FF1B-FF20:08 FF3B-FF40:08 FF5B-FF65:08
  FFE0-FFE1:07 FFE2-FFE4:08 FFE5-FFE6:07 FFE8-FFEE:08 FFF9-FFFD:08 10101:08 10140-1018C:08
  10190-1019C:08 101A0:08 101FD:0A 102E0:0A 102E1-102FB:04 10376-1037A:0A 10800-10805:01
  10808:01 1080A-10835:01 10837-10838:01 1083C:01 1083F-10855:01 10857-1089E:01
  108A7-108AF:01 108E0-108F2:01 108F4-108F5:01 108FB-1091B:01 1091F:08 10920-10939:01
  1093F-10959:01 10980-109B7:01 109BC-109CF:01 109D2-10A00:01 10A01-10A03:0A
  10A05-10A06:0A 10A0C-10A0F:0A 10A10-10A13:01 10A15-10A17:01 10A19-10A35:01
  10A38-10A3A:0A 10A3F:0A 10A40-10A48:01 10A50-10A58:01 10A60-10A9F:01 10AC0-10AE4:01
  10AE5-10AE6:0A 10AEB-10AF6:01 10B00-10B35:01 10B39-10B3F:08 10B40-10B55:01
  10B58-10B72:01 10B78-10B91:01 10B99-10B9C:01 10BA9-10BAF:01 10C00-10C48:01
  10C80-10CB2:01 10CC0-10CF2:01 10CFA-10CFF:01 10D00-10D23:02 10D24-10D27:0A
  10D30-10D39:03 10D40-10D65:01 10D69-10D6D:0A 10D6E-10D85:01 10D8E-10D8F:01
  10E60-10E7E:03 10E80-10EA9:01 10EAB-10EAC:0A 10EAD:01 10EB0-10EB1:01 10EC2-10EC7:02
  10ED0-10ED8:02 10EFA-10EFF:0A 10F00-10F27:01 10F30-10F45:02 10F46-10F50:0A
  10F51-10F59:02 10F70-10F81:01 10F82-10F85:0A 10F86-10F89:01 10FB0-10FCB:01
  10FE0-10FF6:01 11001:0A 11038-11046:0A 11052-11065:08 11070:0A 11073-11074:0A
  1107F-11081:0A 110B3-110B6:0A 110B9-110BA:0A 110C2:0A 11100-11102:0A 11127-1112B:0A
  1112D-11134:0A 11173:0A 11180-11181:0A 111B6-111BE:0A 111C9-111CC:0A 111CF:0A
  1122F-11231:0A 11234:0A 11236-11237:0A 1123E:0A 11241:0A 112DF:0A 112E3-112EA:0A
  11300-11301:0A 1133B-1133C:0A 11340:0A 11366-1136C:0A 11370-11374:0A 113BB-113C0:0A
  113CE:0A 113D0:0A 113D2:0A 113D4-113D5:08 113D7-113D8:08 113E1-113E2:0A 11438-1143F:0A
  11442-11444:0A 11446:0A 1145E:0A 114B3-114B8:0A 114BA:0A 114BF-114C0:0A 114C2-114C3:0A
  115B2-115B5:0A 115BC-115BD:0A 115BF-115C0:0A 115DC-115DD:0A 11633-1163A:0A 1163D:0A
  1163F-11640:0A 11660-1166C:08 116AB:0A 116AD:0A 116B0-116B5:0A 116B7:0A 1171D-1171F:0A
  11722-11725:0A 11727-1172B:0A 1182F-11837:0A 11839-1183A:0A 1193B-1193C:0A 1193E:0A
  11943:0A 119D4-119D7:0A 119DA-119DB:0A 119E0:0A 11A01-11A06:0A 11A09-11A0A:0A
  11A33-11A38:0A 11A3B-11A3E:0A 11A47:0A 11A51-11A56:0A 11A59-11A5B:0A 11A8A-11A96:0A
  11A98-11A99:0A 11B60:0A 11B62-11B64:0A 11B66:0A 11BE1:08 11C30-11C36:0A 11C38-11C3D:0A
  11C92-11CA7:0A 11CAA-11CB0:0A 11CB2-11CB3:0A 11CB5-11CB6:0A 11D31-11D36:0A 11D3A:0A
  11D3C-11D3D:0A 11D3F-11D45:0A 11D47:0A 11D90-11D91:0A 11D95:0A 11D97:0A 11EF3-11EF4:0A
  11F00-11F01:0A 11F36-11F3A:0A 11F40:0A 11F42:0A 11F5A:0A 11FD5-11FDC:08 11FDD-11FE0:07
  11FE1-11FF1:08 13440:0A 13447-13455:0A 1611E-16129:0A 1612D-1612F:0A 16AF0-16AF4:0A
  16B30-16B36:0A 16D6D-16D6F:08 16F4F:0A 16F8F-16F92:0A 16FE2:08 16FE4:0A 1BC9D-1BC9E:0A
  1BCA0-1BCA3:09 1CC00-1CCEF:08 1CCFA-1CCFC:08 1CD00-1CEB3:08 1CEBA-1CED0:08
  1CEE0-1CEF0:08 1CF00-1CF2D:0A 1CF30-1CF46:0A 1D167-1D169:0A 1D173-1D17A:09
  1D17B-1D182:0A 1D185-1D18B:0A 1D1AA-1D1AD:0A 1D1E9-1D1EA:08 1D200-1D241:08
  1D242-1D244:0A 1D245:08 1D300-1D356:08 1D6DB:08 1D715:08 1D74F:08 1D789:08 1D7C3:08
  1D7CE-1D7FF:04 1DA00-1DA36:0A 1DA3B-1DA6C:0A 1DA75:0A 1DA84:0A 1DA9B-1DA9F:0A
  1DAA1-1DAAF:0A 1E000-1E006:0A 1E008-1E018:0A 1E01B-1E021:0A 1E023-1E024:0A
  1E026-1E02A:0A 1E08F:0A 1E130-1E136:0A 1E2AE:0A 1E2EC-1E2EF:0A 1E2FF:07 1E4EC-1E4EF:0A
  1E5EE-1E5EF:0A 1E5FF:08 1E6E3:0A 1E6E6:0A 1E6EE-1E6EF:0A 1E6F5:0A 1E800-1E8C4:01
  1E8C7-1E8CF:01 1E8D0-1E8D6:0A 1E900-1E943:01 1E944-1E94A:0A 1E94B:01 1E950-1E959:01
  1E95E-1E95F:01 1EC71-1ECB4:02 1ED01-1ED3D:02 1EE00-1EE03:02 1EE05-1EE1F:02
  1EE21-1EE22:02 1EE24:02 1EE27:02 1EE29-1EE32:02 1EE34-1EE37:02 1EE39:02 1EE3B:02
  1EE42:02 1EE47:02 1EE49:02 1EE4B:02 1EE4D-1EE4F:02 1EE51-1EE52:02 1EE54:02 1EE57:02
  1EE59:02 1EE5B:02 1EE5D:02 1EE5F:02 1EE61-1EE62:02 1EE64:02 1EE67-1EE6A:02
  1EE6C-1EE72:02 1EE74-1EE77:02 1EE79-1EE7C:02 1EE7E:02 1EE80-1EE89:02 1EE8B-1EE9B:02
  1EEA1-1EEA3:02 1EEA5-1EEA9:02 1EEAB-1EEBB:02 1EEF0-1EEF1:08 1F000-1F02B:08
  1F030-1F093:08 1F0A0-1F0AE:08 1F0B1-1F0BF:08 1F0C1-1F0CF:08 1F0D1-1F0F5:08
  1F100-1F10A:04 1F10B-1F10F:08 1F12F:08 1F16A-1F16F:08 1F1AD:08 1F260-1F265:08
  1F300-1F6D8:08 1F6DC-1F6EC:08 1F6F0-1F6FC:08 1F700-1F7D9:08 1F7E0-1F7EB:08 1F7F0:08
  1F800-1F80B:08 1F810-1F847:08 1F850-1F859:08 1F860-1F887:08 1F890-1F8AD:08
  1F8B0-1F8BB:08 1F8C0-1F8C1:08 1F8D0-1F8D8:08 1F900-1FA57:08 1FA60-1FA6D:08
  1FA70-1FA7C:08 1FA80-1FA8A:08 1FA8E-1FAC6:08 1FAC8:08 1FACD-1FADC:08 1FADF-1FAEA:08
  1FAEF-1FAF8:08 1FB00-1FB92:08 1FB94-1FBEF:08 1FBF0-1FBF9:04 1FBFA:08 E0001:09
  E0020-E007F:09 E0100-E01EF:0A"

/-- Ranges of characters that join with their neighbours: 1 transparent ones, 2 those that join
to the left, 3 to the right, 4 to both sides. -/
def joiningTable : String := "
  AD:01 300-36F:01 483-489:01 591-5BD:01 5BF:01 5C1-5C2:01 5C4-5C5:01 5C7:01 610-61A:01
  61C:01 620:04 622-625:03 626:04 627:03 628:04 629:03 62A-62E:04 62F-632:03 633-63F:04
  641-647:04 648:03 649-64A:04 64B-65F:01 66E-66F:04 670:01 671-673:03 675-677:03
  678-687:04 688-699:03 69A-6BF:04 6C0:03 6C1-6C2:04 6C3-6CB:03 6CC:04 6CD:03 6CE:04
  6CF:03 6D0-6D1:04 6D2-6D3:03 6D5:03 6D6-6DC:01 6DF-6E4:01 6E7-6E8:01 6EA-6ED:01
  6EE-6EF:03 6FA-6FC:04 6FF:04 70F:01 710:03 711:01 712-714:04 715-719:03 71A-71D:04
  71E:03 71F-727:04 728:03 729:04 72A:03 72B:04 72C:03 72D-72E:04 72F:03 730-74A:01 74D:03
  74E-758:04 759-75B:03 75C-76A:04 76B-76C:03 76D-770:04 771:03 772:04 773-774:03
  775-777:04 778-779:03 77A-77F:04 7A6-7B0:01 7CA-7EA:04 7EB-7F3:01 7FD:01 816-819:01
  81B-823:01 825-827:01 829-82D:01 840:03 841-845:04 846-847:03 848:04 849:03 84A-853:04
  854:03 855:04 856-858:03 859-85B:01 860:04 862-865:04 867:03 868:04 869-86A:03
  870-882:03 886:04 889-88D:04 88E:03 88F:04 897-89F:01 8A0-8A9:04 8AA-8AC:03 8AE:03
  8AF-8B0:04 8B1-8B2:03 8B3-8B8:04 8B9:03 8BA-8C8:04 8CA-8E1:01 8E3-902:01 93A:01 93C:01
  941-948:01 94D:01 951-957:01 962-963:01 981:01 9BC:01 9C1-9C4:01 9CD:01 9E2-9E3:01
  9FE:01 A01-A02:01 A3C:01 A41-A42:01 A47-A48:01 A4B-A4D:01 A51:01 A70-A71:01 A75:01
  A81-A82:01 ABC:01 AC1-AC5:01 AC7-AC8:01 ACD:01 AE2-AE3:01 AFA-AFF:01 B01:01 B3C:01
  B3F:01 B41-B44:01 B4D:01 B55-B56:01 B62-B63:01 B82:01 BC0:01 BCD:01 C00:01 C04:01 C3C:01
  C3E-C40:01 C46-C48:01 C4A-C4D:01 C55-C56:01 C62-C63:01 C81:01 CBC:01 CBF:01 CC6:01
  CCC-CCD:01 CE2-CE3:01 D00-D01:01 D3B-D3C:01 D41-D44:01 D4D:01 D62-D63:01 D81:01 DCA:01
  DD2-DD4:01 DD6:01 E31:01 E34-E3A:01 E47-E4E:01 EB1:01 EB4-EBC:01 EC8-ECE:01 F18-F19:01
  F35:01 F37:01 F39:01 F71-F7E:01 F80-F84:01 F86-F87:01 F8D-F97:01 F99-FBC:01 FC6:01
  102D-1030:01 1032-1037:01 1039-103A:01 103D-103E:01 1058-1059:01 105E-1060:01
  1071-1074:01 1082:01 1085-1086:01 108D:01 109D:01 135D-135F:01 1712-1714:01 1732-1733:01
  1752-1753:01 1772-1773:01 17B4-17B5:01 17B7-17BD:01 17C6:01 17C9-17D3:01 17DD:01 1807:04
  180B-180D:01 180F:01 1820-1878:04 1885-1886:01 1887-18A8:04 18A9:01 18AA:04 1920-1922:01
  1927-1928:01 1932:01 1939-193B:01 1A17-1A18:01 1A1B:01 1A56:01 1A58-1A5E:01 1A60:01
  1A62:01 1A65-1A6C:01 1A73-1A7C:01 1A7F:01 1AB0-1ADD:01 1AE0-1AEB:01 1B00-1B03:01 1B34:01
  1B36-1B3A:01 1B3C:01 1B42:01 1B6B-1B73:01 1B80-1B81:01 1BA2-1BA5:01 1BA8-1BA9:01
  1BAB-1BAD:01 1BE6:01 1BE8-1BE9:01 1BED:01 1BEF-1BF1:01 1C2C-1C33:01 1C36-1C37:01
  1CD0-1CD2:01 1CD4-1CE0:01 1CE2-1CE8:01 1CED:01 1CF4:01 1CF8-1CF9:01 1DC0-1DFF:01 200B:01
  200E-200F:01 202A-202E:01 2060-2064:01 206A-206F:01 20D0-20F0:01 2CEF-2CF1:01 2D7F:01
  2DE0-2DFF:01 302A-302D:01 3099-309A:01 A66F-A672:01 A674-A67D:01 A69E-A69F:01
  A6F0-A6F1:01 A802:01 A806:01 A80B:01 A825-A826:01 A82C:01 A840-A871:04 A872:02
  A8C4-A8C5:01 A8E0-A8F1:01 A8FF:01 A926-A92D:01 A947-A951:01 A980-A982:01 A9B3:01
  A9B6-A9B9:01 A9BC-A9BD:01 A9E5:01 AA29-AA2E:01 AA31-AA32:01 AA35-AA36:01 AA43:01 AA4C:01
  AA7C:01 AAB0:01 AAB2-AAB4:01 AAB7-AAB8:01 AABE-AABF:01 AAC1:01 AAEC-AAED:01 AAF6:01
  ABE5:01 ABE8:01 ABED:01 FB1E:01 FE00-FE0F:01 FE20-FE2F:01 FEFF:01 FFF9-FFFB:01 101FD:01
  102E0:01 10376-1037A:01 10A01-10A03:01 10A05-10A06:01 10A0C-10A0F:01 10A38-10A3A:01
  10A3F:01 10AC0-10AC4:04 10AC5:03 10AC7:03 10AC9-10ACA:03 10ACD:02 10ACE-10AD2:03
  10AD3-10AD6:04 10AD7:02 10AD8-10ADC:04 10ADD:03 10ADE-10AE0:04 10AE1:03 10AE4:03
  10AE5-10AE6:01 10AEB-10AEE:04 10AEF:03 10B80:04 10B81:03 10B82:04 10B83-10B85:03
  10B86-10B88:04 10B89:03 10B8A-10B8B:04 10B8C:03 10B8D:04 10B8E-10B8F:03 10B90:04
  10B91:03 10BA9-10BAC:03 10BAD-10BAE:04 10D00:02 10D01-10D21:04 10D22:03 10D23:04
  10D24-10D27:01 10D69-10D6D:01 10EAB-10EAC:01 10EC2:03 10EC3-10EC4:04 10EC6-10EC7:04
  10EFA-10EFF:01 10F30-10F32:04 10F33:03 10F34-10F44:04 10F46-10F50:01 10F51-10F53:04
  10F54:03 10F70-10F73:04 10F74-10F75:03 10F76-10F81:04 10F82-10F85:01 10FB0:04
  10FB2-10FB3:04 10FB4-10FB6:03 10FB8:04 10FB9-10FBA:03 10FBB-10FBC:04 10FBD:03
  10FBE-10FBF:04 10FC1:04 10FC2-10FC3:03 10FC4:04 10FC9:03 10FCA:04 10FCB:02 11001:01
  11038-11046:01 11070:01 11073-11074:01 1107F-11081:01 110B3-110B6:01 110B9-110BA:01
  110C2:01 11100-11102:01 11127-1112B:01 1112D-11134:01 11173:01 11180-11181:01
  111B6-111BE:01 111C9-111CC:01 111CF:01 1122F-11231:01 11234:01 11236-11237:01 1123E:01
  11241:01 112DF:01 112E3-112EA:01 11300-11301:01 1133B-1133C:01 11340:01 11366-1136C:01
  11370-11374:01 113BB-113C0:01 113CE:01 113D0:01 113D2:01 113E1-113E2:01 11438-1143F:01
  11442-11444:01 11446:01 1145E:01 114B3-114B8:01 114BA:01 114BF-114C0:01 114C2-114C3:01
  115B2-115B5:01 115BC-115BD:01 115BF-115C0:01 115DC-115DD:01 11633-1163A:01 1163D:01
  1163F-11640:01 116AB:01 116AD:01 116B0-116B5:01 116B7:01 1171D:01 1171F:01
  11722-11725:01 11727-1172B:01 1182F-11837:01 11839-1183A:01 1193B-1193C:01 1193E:01
  11943:01 119D4-119D7:01 119DA-119DB:01 119E0:01 11A01-11A0A:01 11A33-11A38:01
  11A3B-11A3E:01 11A47:01 11A51-11A56:01 11A59-11A5B:01 11A8A-11A96:01 11A98-11A99:01
  11B60:01 11B62-11B64:01 11B66:01 11C30-11C36:01 11C38-11C3D:01 11C3F:01 11C92-11CA7:01
  11CAA-11CB0:01 11CB2-11CB3:01 11CB5-11CB6:01 11D31-11D36:01 11D3A:01 11D3C-11D3D:01
  11D3F-11D45:01 11D47:01 11D90-11D91:01 11D95:01 11D97:01 11EF3-11EF4:01 11F00-11F01:01
  11F36-11F3A:01 11F40:01 11F42:01 11F5A:01 13430-13440:01 13447-13455:01 1611E-16129:01
  1612D-1612F:01 16AF0-16AF4:01 16B30-16B36:01 16F4F:01 16F8F-16F92:01 16FE4:01
  1BC9D-1BC9E:01 1BCA0-1BCA3:01 1CF00-1CF2D:01 1CF30-1CF46:01 1D167-1D169:01
  1D173-1D182:01 1D185-1D18B:01 1D1AA-1D1AD:01 1D242-1D244:01 1DA00-1DA36:01
  1DA3B-1DA6C:01 1DA75:01 1DA84:01 1DA9B-1DA9F:01 1DAA1-1DAAF:01 1E000-1E006:01
  1E008-1E018:01 1E01B-1E021:01 1E023-1E024:01 1E026-1E02A:01 1E08F:01 1E130-1E136:01
  1E2AE:01 1E2EC-1E2EF:01 1E4EC-1E4EF:01 1E5EE-1E5EF:01 1E6E3:01 1E6E6:01 1E6EE-1E6EF:01
  1E6F5:01 1E8D0-1E8D6:01 1E900-1E943:04 1E944-1E94B:01 E0001:01 E0020-E007F:01
  E0100-E01EF:01"

/-- Ranges of the general categories Mn, Mc and Me. -/
def markTable : String := "
  300-36F 483-489 591-5BD 5BF 5C1-5C2 5C4-5C5 5C7 610-61A 64B-65F 670 6D6-6DC 6DF-6E4
  6E7-6E8 6EA-6ED 711 730-74A 7A6-7B0 7EB-7F3 7FD 816-819 81B-823 825-827 829-82D 859-85B
  897-89F 8CA-8E1 8E3-903 93A-93C 93E-94F 951-957 962-963 981-983 9BC 9BE-9C4 9C7-9C8
  9CB-9CD 9D7 9E2-9E3 9FE A01-A03 A3C A3E-A42 A47-A48 A4B-A4D A51 A70-A71 A75 A81-A83 ABC
  ABE-AC5 AC7-AC9 ACB-ACD AE2-AE3 AFA-AFF B01-B03 B3C B3E-B44 B47-B48 B4B-B4D B55-B57
  B62-B63 B82 BBE-BC2 BC6-BC8 BCA-BCD BD7 C00-C04 C3C C3E-C44 C46-C48 C4A-C4D C55-C56
  C62-C63 C81-C83 CBC CBE-CC4 CC6-CC8 CCA-CCD CD5-CD6 CE2-CE3 CF3 D00-D03 D3B-D3C D3E-D44
  D46-D48 D4A-D4D D57 D62-D63 D81-D83 DCA DCF-DD4 DD6 DD8-DDF DF2-DF3 E31 E34-E3A E47-E4E
  EB1 EB4-EBC EC8-ECE F18-F19 F35 F37 F39 F3E-F3F F71-F84 F86-F87 F8D-F97 F99-FBC FC6
  102B-103E 1056-1059 105E-1060 1062-1064 1067-106D 1071-1074 1082-108D 108F 109A-109D
  135D-135F 1712-1715 1732-1734 1752-1753 1772-1773 17B4-17D3 17DD 180B-180D 180F
  1885-1886 18A9 1920-192B 1930-193B 1A17-1A1B 1A55-1A5E 1A60-1A7C 1A7F 1AB0-1ADD
  1AE0-1AEB 1B00-1B04 1B34-1B44 1B6B-1B73 1B80-1B82 1BA1-1BAD 1BE6-1BF3 1C24-1C37
  1CD0-1CD2 1CD4-1CE8 1CED 1CF4 1CF7-1CF9 1DC0-1DFF 20D0-20F0 2CEF-2CF1 2D7F 2DE0-2DFF
  302A-302F 3099-309A A66F-A672 A674-A67D A69E-A69F A6F0-A6F1 A802 A806 A80B A823-A827
  A82C A880-A881 A8B4-A8C5 A8E0-A8F1 A8FF A926-A92D A947-A953 A980-A983 A9B3-A9C0 A9E5
  AA29-AA36 AA43 AA4C-AA4D AA7B-AA7D AAB0 AAB2-AAB4 AAB7-AAB8 AABE-AABF AAC1 AAEB-AAEF
  AAF5-AAF6 ABE3-ABEA ABEC-ABED FB1E FE00-FE0F FE20-FE2F 101FD 102E0 10376-1037A
  10A01-10A03 10A05-10A06 10A0C-10A0F 10A38-10A3A 10A3F 10AE5-10AE6 10D24-10D27
  10D69-10D6D 10EAB-10EAC 10EFA-10EFF 10F46-10F50 10F82-10F85 11000-11002 11038-11046
  11070 11073-11074 1107F-11082 110B0-110BA 110C2 11100-11102 11127-11134 11145-11146
  11173 11180-11182 111B3-111C0 111C9-111CC 111CE-111CF 1122C-11237 1123E 11241
  112DF-112EA 11300-11303 1133B-1133C 1133E-11344 11347-11348 1134B-1134D 11357
  11362-11363 11366-1136C 11370-11374 113B8-113C0 113C2 113C5 113C7-113CA 113CC-113D0
  113D2 113E1-113E2 11435-11446 1145E 114B0-114C3 115AF-115B5 115B8-115C0 115DC-115DD
  11630-11640 116AB-116B7 1171D-1172B 1182C-1183A 11930-11935 11937-11938 1193B-1193E
  11940 11942-11943 119D1-119D7 119DA-119E0 119E4 11A01-11A0A 11A33-11A39 11A3B-11A3E
  11A47 11A51-11A5B 11A8A-11A99 11B60-11B67 11C2F-11C36 11C38-11C3F 11C92-11CA7
  11CA9-11CB6 11D31-11D36 11D3A 11D3C-11D3D 11D3F-11D45 11D47 11D8A-11D8E 11D90-11D91
  11D93-11D97 11EF3-11EF6 11F00-11F01 11F03 11F34-11F3A 11F3E-11F42 11F5A 13440
  13447-13455 1611E-1612F 16AF0-16AF4 16B30-16B36 16F4F 16F51-16F87 16F8F-16F92 16FE4
  16FF0-16FF1 1BC9D-1BC9E 1CF00-1CF2D 1CF30-1CF46 1D165-1D169 1D16D-1D172 1D17B-1D182
  1D185-1D18B 1D1AA-1D1AD 1D242-1D244 1DA00-1DA36 1DA3B-1DA6C 1DA75 1DA84 1DA9B-1DA9F
  1DAA1-1DAAF 1E000-1E006 1E008-1E018 1E01B-1E021 1E023-1E024 1E026-1E02A 1E08F
  1E130-1E136 1E2AE 1E2EC-1E2EF 1E4EC-1E4EF 1E5EE-1E5EF 1E6E3 1E6E6 1E6EE-1E6EF 1E6F5
  1E8D0-1E8D6 1E944-1E94A E0100-E01EF"

end SandboxClient.Unicode
