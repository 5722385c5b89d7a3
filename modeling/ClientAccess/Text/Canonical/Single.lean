import ClientAccess.Text.Table
/-! The characters that stand for others and are never put together from them again. -/
namespace ClientAccess.Text.Canonical

/-- What characters stand for, in the order of their numbers from the first one on (Unicode 17). -/
def singleRows : List String := [
  "340: 300 301",
  "343: 313 308+301",
  "374: 2B9",
  "37E: 3B",
  "387: B7",
  "958: 915+93C 916+93C 917+93C 91C+93C 921+93C 922+93C 92B+93C 92F+93C",
  "9DC: 9A1+9BC 9A2+9BC",
  "9DF: 9AF+9BC",
  "A33: A32+A3C",
  "A36: A38+A3C",
  "A59: A16+A3C A17+A3C A1C+A3C",
  "A5E: A2B+A3C",
  "B5C: B21+B3C B22+B3C",
  "F43: F42+FB7",
  "F4D: F4C+FB7",
  "F52: F51+FB7",
  "F57: F56+FB7",
  "F5C: F5B+FB7",
  "F69: F40+FB5",
  "F73: F71+F72",
  "F75: F71+F74 FB2+F80",
  "F78: FB3+F80",
  "F81: F71+F80",
  "F93: F92+FB7",
  "F9D: F9C+FB7",
  "FA2: FA1+FB7",
  "FA7: FA6+FB7",
  "FAC: FAB+FB7",
  "FB9: F90+FB5",
  "1F71: 3B1+301",
  "1F73: 3B5+301",
  "1F75: 3B7+301",
  "1F77: 3B9+301",
  "1F79: 3BF+301",
  "1F7B: 3C5+301",
  "1F7D: 3C9+301",
  "1FBB: 391+301",
  "1FBE: 3B9",
  "1FC9: 395+301",
  "1FCB: 397+301",
  "1FD3: 3B9+308+301",
  "1FDB: 399+301",
  "1FE3: 3C5+308+301",
  "1FEB: 3A5+301",
  "1FEE: A8+301 60",
  "1FF9: 39F+301",
  "1FFB: 3A9+301",
  "1FFD: B4",
  "2000: 2002 2003",
  "2126: 3A9",
  "212A: 4B 41+30A",
  "2329: 3008 3009",
  "2ADC: 2ADD+338",
  "F900: 8C48 66F4 8ECA 8CC8 6ED1 4E32 53E5 9F9C 9F9C 5951 91D1 5587 5948 61F6 7669 7F85 863F",
  "F911: 87BA 88F8 908F 6A02 6D1B 70D9 73DE 843D 916A 99F1 4E82 5375 6B04 721B 862D 9E1E 5D50",
  "F922: 6FEB 85CD 8964 62C9 81D8 881F 5ECA 6717 6D6A 72FC 90CE 4F86 51B7 52DE 64C4 6AD3 7210",
  "F933: 76E7 8001 8606 865C 8DEF 9732 9B6F 9DFA 788C 797F 7DA0 83C9 9304 9E7F 8AD6 58DF 5F04",
  "F944: 7C60 807E 7262 78CA 8CC2 96F7 58D8 5C62 6A13 6DDA 6F0F 7D2F 7E37 964B 52D2 808B 51DC",
  "F955: 51CC 7A1C 7DBE 83F1 9675 8B80 62CF 6A02 8AFE 4E39 5BE7 6012 7387 7570 5317 78FB 4FBF",
  "F966: 5FA9 4E0D 6CCC 6578 7D22 53C3 585E 7701 8449 8AAA 6BBA 8FB0 6C88 62FE 82E5 63A0 7565",
  "F977: 4EAE 5169 51C9 6881 7CE7 826F 8AD2 91CF 52F5 5442 5973 5EEC 65C5 6FFE 792A 95AD 9A6A",
  "F988: 9E97 9ECE 529B 66C6 6B77 8F62 5E74 6190 6200 649A 6F23 7149 7489 79CA 7DF4 806F 8F26",
  "F999: 84EE 9023 934A 5217 52A3 54BD 70C8 88C2 8AAA 5EC9 5FF5 637B 6BAE 7C3E 7375 4EE4 56F9",
  "F9AA: 5BE7 5DBA 601C 73B2 7469 7F9A 8046 9234 96F6 9748 9818 4F8B 79AE 91B4 96B8 60E1 4E86",
  "F9BB: 50DA 5BEE 5C3F 6599 6A02 71CE 7642 84FC 907C 9F8D 6688 962E 5289 677B 67F3 6D41 6E9C",
  "F9CC: 7409 7559 786B 7D10 985E 516D 622E 9678 502B 5D19 6DEA 8F2A 5F8B 6144 6817 7387 9686",
  "F9DD: 5229 540F 5C65 6613 674E 68A8 6CE5 7406 75E2 7F79 88CF 88E1 91CC 96E2 533F 6EBA 541D",
  "F9EE: 71D0 7498 85FA 96A3 9C57 9E9F 6797 6DCB 81E8 7ACB 7B20 7C92 72C0 7099 8B58 4EC0 8336",
  "F9FF: 523A 5207 5EA6 62D3 7CD6 5B85 6D1E 66B4 8F3B 884C 964D 898B 5ED3 5140 55C0",
  "FA10: 585A",
  "FA12: 6674",
  "FA15: 51DE 732A 76CA 793C 795E 7965 798F 9756 7CBE 7FBD",
  "FA20: 8612",
  "FA22: 8AF8",
  "FA25: 9038 90FD",
  "FA2A: 98EF 98FC 9928 9DB4 90DE 96B7 4FAE 50E7 514D 52C9 52E4 5351 559D 5606 5668 5840 58A8",
  "FA3B: 5C64 5C6E 6094 6168 618E 61F2 654F 65E2 6691 6885 6D77 6E1A 6F22 716E 722B 7422 7891",
  "FA4C: 793E 7949 7948 7950 7956 795D 798D 798E 7A40 7A81 7BC0 7DF4 7E09 7E41 7F72 8005 81ED",
  "FA5D: 8279 8279 8457 8910 8996 8B01 8B39 8CD3 8D08 8FB6 9038 96E3 97FF 983B 6075 242EE 8218",
  "FA70: 4E26 51B5 5168 4F80 5145 5180 52C7 52FA 559D 5555 5599 55E2 585A 58B3 5944 5954 5A62",
  "FA81: 5B28 5ED2 5ED9 5F69 5FAD 60D8 614E 6108 618E 6160 61F2 6234 63C4 641C 6452 6556 6674",
  "FA92: 6717 671B 6756 6B79 6BBA 6D41 6EDB 6ECB 6F22 701E 716E 77A7 7235 72AF 732A 7471 7506",
  "FAA3: 753B 761D 761F 76CA 76DB 76F4 774A 7740 78CC 7AB1 7BC0 7C7B 7D5B 7DF4 7F3E 8005 8352",
  "FAB4: 83EF 8779 8941 8986 8996 8ABF 8AF8 8ACB 8B01 8AFE 8AED 8B39 8B8A 8D08 8F38 9072 9199",
  "FAC5: 9276 967C 96E3 9756 97DB 97FF 980B 983B 9B12 9F9C 2284A 22844 233D5 3B9D 4018 4039 25249",
  "FAD6: 25CD0 27ED3 9F43 9F8E",
  "FB1D: 5D9+5B4",
  "FB1F: 5F2+5B7",
  "FB2A: 5E9+5C1 5E9+5C2 5E9+5BC+5C1 5E9+5BC+5C2 5D0+5B7 5D0+5B8 5D0+5BC 5D1+5BC 5D2+5BC 5D3+5BC",
  "FB34: 5D4+5BC 5D5+5BC 5D6+5BC",
  "FB38: 5D8+5BC 5D9+5BC 5DA+5BC 5DB+5BC 5DC+5BC",
  "FB3E: 5DE+5BC",
  "FB40: 5E0+5BC 5E1+5BC",
  "FB43: 5E3+5BC 5E4+5BC",
  "FB46: 5E6+5BC 5E7+5BC 5E8+5BC 5E9+5BC 5EA+5BC 5D5+5B9 5D1+5BF 5DB+5BF 5E4+5BF",
  "1D15E: 1D157+1D165 1D158+1D165 1D158+1D165+1D16E 1D158+1D165+1D16F 1D158+1D165+1D170",
  "1D163: 1D158+1D165+1D171 1D158+1D165+1D172",
  "1D1BB: 1D1B9+1D165 1D1BA+1D165 1D1B9+1D165+1D16E 1D1BA+1D165+1D16E 1D1B9+1D165+1D16F",
  "1D1C0: 1D1BA+1D165+1D16F",
  "2F800: 4E3D 4E38 4E41 20122 4F60 4FAE 4FBB 5002 507A 5099 50E7 50CF 349E 2063A 514D 5154 5164",
  "2F811: 5177 2051C 34B9 5167 518D 2054B 5197 51A4 4ECC 51AC 51B5 291DF 51F5 5203 34DF 523B 5246",
  "2F822: 5272 5277 3515 52C7 52C9 52E4 52FA 5305 5306 5317 5349 5351 535A 5373 537D 537F 537F",
  "2F833: 537F 20A2C 7070 53CA 53DF 20B63 53EB 53F1 5406 549E 5438 5448 5468 54A2 54F6 5510 5553",
  "2F844: 5563 5584 5584 5599 55AB 55B3 55C2 5716 5606 5717 5651 5674 5207 58EE 57CE 57F4 580D",
  "2F855: 578B 5832 5831 58AC 214E4 58F2 58F7 5906 591A 5922 5962 216A8 216EA 59EC 5A1B 5A27 59D8",
  "2F866: 5A66 36EE 36FC 5B08 5B3E 5B3E 219C8 5BC3 5BD8 5BE7 5BF3 21B18 5BFF 5C06 5F53 5C22 3781",
  "2F877: 5C60 5C6E 5CC0 5C8D 21DE4 5D43 21DE6 5D6E 5D6B 5D7C 5DE1 5DE2 382F 5DFD 5E28 5E3D 5E69",
  "2F888: 3862 22183 387C 5EB0 5EB3 5EB6 5ECA 2A392 5EFE 22331 22331 8201 5F22 5F22 38C7 232B8",
  "2F898: 261DA 5F62 5F6B 38E3 5F9A 5FCD 5FD7 5FF9 6081 393A 391C 6094 226D4 60C7 6148 614C 614E",
  "2F8A9: 614C 617A 618E 61B2 61A4 61AF 61DE 61F2 61F6 6210 621B 625D 62B1 62D4 6350 22B0C 633D",
  "2F8BA: 62FC 6368 6383 63E4 22BF1 6422 63C5 63A9 3A2E 6469 647E 649D 6477 3A6C 654F 656C 2300A",
  "2F8CB: 65E3 66F8 6649 3B19 6691 3B08 3AE4 5192 5195 6700 669C 80AD 43D9 6717 671B 6721 675E",
  "2F8DC: 6753 233C3 3B49 67FA 6785 6852 6885 2346D 688E 681F 6914 3B9D 6942 69A3 69EA 6AA8 236A3",
  "2F8ED: 6ADB 3C18 6B21 238A7 6B54 3C4E 6B72 6B9F 6BBA 6BBB 23A8D 21D0B 23AFA 6C4E 23CBC 6CBF",
  "2F8FD: 6CCD 6C67 6D16 6D3E 6D77 6D41 6D69 6D78 6D85 23D1E 6D34 6E2F 6E6E 3D33 6ECB 6EC7 23ED1",
  "2F90E: 6DF9 6F6E 23F5E 23F8E 6FC6 7039 701E 701B 3D96 704A 707D 7077 70AD 20525 7145 24263",
  "2F91E: 719C 243AB 7228 7235 7250 24608 7280 7295 24735 24814 737A 738B 3EAC 73A5 3EB8 3EB8",
  "2F92E: 7447 745C 7471 7485 74CA 3F1B 7524 24C36 753E 24C92 7570 2219F 7610 24FA1 24FB8 25044",
  "2F93E: 3FFC 4008 76F4 250F3 250F2 25119 25133 771E 771F 771F 774A 4039 778B 4046 4096 2541D",
  "2F94E: 784E 788C 78CC 40E3 25626 7956 2569A 256C5 798F 79EB 412F 7A40 7A4A 7A4F 2597C 25AA7",
  "2F95E: 25AA7 7AEE 4202 25BAB 7BC6 7BC9 4227 25C80 7CD2 42A0 7CE8 7CE3 7D00 25F86 7D63 4301",
  "2F96E: 7DC7 7E02 7E45 4334 26228 26247 4359 262D9 7F7A 2633E 7F95 7FFA 8005 264DA 26523 8060",
  "2F97E: 265A8 8070 2335F 43D5 80B2 8103 440B 813E 5AB5 267A7 267B5 23393 2339C 8201 8204 8F9E",
  "2F98E: 446B 8291 828B 829D 52B3 82B1 82B3 82BD 82E6 26B3C 82E5 831D 8363 83AD 8323 83BD 83E7",
  "2F99F: 8457 8353 83CA 83CC 83DC 26C36 26D6B 26CD5 452B 84F1 84F3 8516 273CA 8564 26F2C 455D",
  "2F9AF: 4561 26FB1 270D2 456B 8650 865C 8667 8669 86A9 8688 870E 86E2 8779 8728 876B 8786 45D7",
  "2F9C0: 87E1 8801 45F9 8860 8863 27667 88D7 88DE 4635 88FA 34BB 278AE 27966 46BE 46C7 8AA0 8AED",
  "2F9D1: 8B8A 8C55 27CA8 8CAB 8CC1 8D1B 8D77 27F2F 20804 8DCB 8DBC 8DF0 208DE 8ED4 8F38 285D2",
  "2F9E1: 285ED 9094 90F1 9111 2872E 911B 9238 92D7 92D8 927C 93F9 9415 28BFA 958B 4995 95B7",
  "2F9F1: 28D77 49E6 96C3 5DB2 9723 29145 2921A 4A6E 4A76 97E0 2940A 4AB2 29496 980B 980B 9829",
  "2FA01: 295B6 98E2 4B33 9929 99A7 99C2 99FE 4BCE 29B30 9B12 9C40 9CFD 4CCE 4CED 9D67 2A0CE 4CF8",
  "2FA12: 2A105 2A20E 2A291 9EBB 4D56 9EF9 9EFE 9F05 9F0F 9F16 9F3B 2A600"]

def singles : List (Nat × List Nat) :=
  singleRows.flatMap fun row =>
    let (first, words) := Table.headed row
    words.zipIdx.map fun (word, i) => (first + i, Table.sequence word)

end ClientAccess.Text.Canonical
