/-! Versions of Unicode in which code points were assigned. -/

namespace Killfile.Unicode

/-- The code points that each version assigned, oldest version first. -/
def ageTable : List (List String × List String) := [
  (["1.1", "v11"],
    ["0-1F5 506-217 592-2A8 688-2DE 736-2E9 768-345 864-361 884-375 890 894 900-38A 908",
     "910-3A1 931-3CE 976-3D6 986 988 990 992 994-3F3 1025-40C 1038-44F 1105-45C 1118-486",
     "1168-4C4 1223-4C8 1227-4CC 1232-4EB 1262-4F5 1272-4F9 1329-556 1369-55F 1377-587 1417",
     "1456-5B9 1467-5C3 1488-5EA 1520-5F4 1548 1563 1567 1569-63A 1600-652 1632-66D 1648-6B7",
     "1722-6BE 1728-6CE 1744-6ED 1776-6F9 2305-903 2309-939 2364-94D 2384-954 2392-970",
     "2433-983 2437-98C 2447-990 2451-9A8 2474-9B0 2482 2486-9B9 2492 2494-9C4 2503-9C8",
     "2507-9CD 2519 2524-9DD 2527-9E3 2534-9FA 2562 2565-A0A 2575-A10 2579-A28 2602-A30",
     "2610-A33 2613-A36 2616-A39 2620 2622-A42 2631-A48 2635-A4D 2649-A5C 2654 2662-A74",
     "2689-A83 2693-A8B 2701 2703-A91 2707-AA8 2730-AB0 2738-AB3 2741-AB9 2748-AC5 2759-AC9",
     "2763-ACD 2768 2784 2790-AEF 2817-B03 2821-B0C 2831-B10 2835-B28 2858-B30 2866-B33",
     "2870-B39 2876-B43 2887-B48 2891-B4D 2902-B57 2908-B5D 2911-B61 2918-B70 2946-B83",
     "2949-B8A 2958-B90 2962-B95 2969-B9A 2972 2974-B9F 2979-BA4 2984-BAA 2990-BB5 2999-BB9",
     "3006-BC2 3014-BC8 3018-BCD 3031 3047-BF2 3073-C03 3077-C0C 3086-C10 3090-C28 3114-C33",
     "3125-C39 3134-C44 3142-C48 3146-C4D 3157-C56 3168-C61 3174-C6F 3202-C83 3205-C8C",
     "3214-C90 3218-CA8 3242-CB3 3253-CB9 3262-CC4 3270-CC8 3274-CCD 3285-CD6 3294 3296-CE1",
     "3302-CEF 3330-D03 3333-D0C 3342-D10 3346-D28 3370-D39 3390-D43 3398-D48 3402-D4D 3415",
     "3424-D61 3430-D6F 3585-E3A 3647-E5B 3713-E82 3716 3719-E88 3722 3725 3732-E97 3737-E9F",
     "3745-EA3 3749 3751 3754-EAB 3757-EB9 3771-EBD 3776-EC4 3782 3784-ECD 3792-ED9 3804-EDD",
     "4256-10C5 4304-10F6 4347 4352-1159 4447-11A2 4520-11F9 7680-1E9A 7840-1EF9 7936-1F15",
     "7960-1F1D 7968-1F45 8008-1F4D 8016-1F57 8025 8027 8029 8031-1F7D 8064-1FB4 8118-1FC4",
     "8134-1FD3 8150-1FDB 8157-1FEF 8178-1FF4 8182-1FFE 8192-202E 8240-2046 8298-2070",
     "8308-208E 8352-20AA 8400-20E1 8448-2138 8531-2182 8592-21EA 8704-22F1 8960 8962-237A",
     "9216-2424 9280-244A 9312-24EA 9472-2595 9632-25EF 9728-2613 9754-266F 9985-2704",
     "9990-2709 9996-2727 10025-274B 10061 10063-2752 10070 10072-275E 10081-2767 10102-2794",
     "10136-27AF 10161-27BE 12288-3037 12351 12353-3094 12441-309E 12449-30FE 12549-312C",
     "12593-318E 12688-319F 12800-321C 12832-3243 12896-327B 12927-32B0 12992-32CB 13008-32FE",
     "13056-3376 13179-33DD 13280-33FE 19968-9FA5 57344-FA2D 64256-FB06 64275-FB17 64286-FB36",
     "64312-FB3C 64318 64320-FB41 64323-FB44 64326-FBB1 64467-FD3F 64848-FD8F 64914-FDC7",
     "65008-FDFB 65056-FE23 65072-FE44 65097-FE52 65108-FE66 65128-FE6B 65136-FE72 65140",
     "65142-FEFC 65279 65281-FF5E 65377-FFBE 65474-FFC7 65482-FFCF 65490-FFD7 65498-FFDC",
     "65504-FFE6 65512-FFEE 65533-FFFF"]),
  (["2.0", "v20"],
    ["1425-5A1 1443-5AF 1476 3840-F47 3913-F69 3953-F8B 3984-F95 3991 3993-FAD 4017-FB7 4025",
     "7835 8363 44032-D7A3 55296-DFFF 131070-1FFFF 196606-2FFFF 262142-3FFFF 327678-4FFFF",
     "393214-5FFFF 458750-6FFFF 524286-7FFFF 589822-8FFFF 655358-9FFFF 720894-AFFFF",
     "786430-BFFFF 851966-CFFFF 917502-DFFFF 983038-10FFFF"]),
  (["2.1", "v21"],
    ["8364 65532"]),
  (["3.0", "v30"],
    ["502-1F9 536-21F 546-233 681-2AD 735 746-2EE 838-34E 866 983 987 989 991 993 1024 1037",
     "1104 1117 1160-489 1164-48F 1260-4ED 1418 1619-655 1720-6B9 1727 1743 1786-6FE 1792-70D",
     "1807-72C 1840-74A 1920-7B0 3458-D83 3461-D96 3482-DB1 3507-DBB 3517 3520-DC6 3530",
     "3535-DD4 3542 3544-DDF 3570-DF4 3946 3990 4014-FB0 4024 4026-FBC 4030-FCC 4047 4096-1021",
     "4131-1027 4137-102A 4140-1032 4150-1039 4160-1059 4608-1206 4616-1246 4680 4682-124D",
     "4688-1256 4696 4698-125D 4704-1286 4744 4746-128D 4752-12AE 4784 4786-12B5 4792-12BE",
     "4800 4802-12C5 4808-12CE 4816-12D6 4824-12EE 4848-130E 4880 4882-1315 4888-131E",
     "4896-1346 4936-135A 4961-137C 5024-13F4 5121-1676 5760-169C 5792-16F0 6016-17DC",
     "6112-17E9 6144-180E 6160-1819 6176-1877 6272-18A9 8239 8264-204D 8365-20AF 8418-20E3",
     "8505-213A 8579 8683-21F3 8961 9083 9085-239A 9253-2426 9712-25F7 9753 9840-2671",
     "10240-28FF 11904-2E99 11931-2EF3 12032-2FD5 12272-2FFB 12344-303A 12350 12704-31B7",
     "13312-4DB5 40960-A48C 42128-A4A1 42148-A4B3 42165-A4C0 42178-A4C4 42182 64285 65529-FFFB"]),
  (["3.1", "v31"],
    ["1012-3F5 64976-FDEF 66304-1031E 66336-10323 66352-1034A 66560-10425 66600-1044D",
     "118784-1D0F5 119040-1D126 119082-1D1DD 119808-1D454 119894-1D49C 119966-1D49F 119970",
     "119973-1D4A6 119977-1D4AC 119982-1D4B9 119995 119997-1D4C0 120002-1D4C3 120005-1D505",
     "120071-1D50A 120077-1D514 120086-1D51C 120094-1D539 120123-1D53E 120128-1D544 120134",
     "120138-1D550 120146-1D6A3 120488-1D7C9 120782-1D7FF 131072-2A6D6 194560-2FA1D 917505",
     "917536-E007F"]),
  (["3.2", "v32"],
    ["544 847 867-36F 984-3D9 1014 1162-48B 1221-4C6 1225-4CA 1229-4CE 1280-50F 1646-66F 1969",
     "4343-10F8 5888-170C 5902-1714 5920-1736 5952-1753 5984-176C 5998-1770 6002-1773 8263",
     "8270-2052 8279 8287-2063 8305 8368-20B1 8420-20EA 8509-214B 8692-21FF 8946-22FF 9084",
     "9115-23CE 9451-24FE 9622-259F 9720-25FF 9750-2617 9842-267D 9856-2689 10088-2775",
     "10192-27EB 10224-27FF 10496-2AFF 12347-303D 12437-3096 12447-30A0 12543 12784-31FF",
     "12881-325F 12977-32BF 42146-A4A3 42164 42177 42181 64048-FA6A 65020 65024-FE0F",
     "65093-FE46 65139 65375-FF60"]),
  (["4.0", "v40"],
    ["545 564-236 686-2AF 751-2FF 848-357 861-35F 1015-3FB 1536-603 1549-615 1622-658 1774-6EF",
     "1791 1837-72F 1869-74F 2308 2493 2561 2563 2700 2785-AE3 2801 2869 2929 3059-BFA",
     "3260-CBD 6109 6128-17F9 6400-191C 6432-192B 6448-193B 6464 6468-196D 6512-1974 6624-19FF",
     "7424-1D6B 8275-2054 8507 9167-23D0 9471 9748-2615 9866-2691 9888-26A1 11008-2B0D",
     "12829-321E 12880 12924-327D 13004-32CF 13175-337A 13278-33DF 13311 19904-4DFF 65021",
     "65095-FE48 65536-1000B 65549-10026 65576-1003A 65596-1003D 65599-1004D 65616-1005D",
     "65664-100FA 65792-10102 65799-10133 65847-1013F 66432-1039D 66463 66598-10427",
     "66638-1049D 66720-104A9 67584-10805 67592 67594-10835 67639-10838 67644 67647",
     "119552-1D356 120001 917760-E01EF"]),
  (["4.1", "v41"],
    ["567-241 856-35C 1020-3FF 1270-4F7 1442 1477-5C7 1547 1566 1625-65E 1872-76D 2429 2510",
     "2998 3046 4048-FD1 4345-10FA 4348 4615 4679 4743 4783 4815 4847 4879 4895 4935 4959-1360",
     "4992-1399 6528-19A9 6576-19C9 6608-19D9 6622-19DF 6656-1A1B 6686-1A1F 7532-1DC3",
     "8277-2056 8280-205E 8336-2094 8370-20B5 8427 8508 8524 9169-23DB 9752 9854-267F",
     "9874-269C 9890-26B1 10176-27C6 11022-2B13 11264-2C2E 11312-2C5E 11392-2CEA 11513-2D25",
     "11568-2D65 11631 11648-2D96 11680-2DA6 11688-2DAE 11696-2DB6 11704-2DBE 11712-2DC6",
     "11720-2DCE 11728-2DD6 11736-2DDE 11776-2E17 11804-2E1D 12736-31CF 12926 40870-9FBB",
     "42752-A716 43008-A82B 64112-FAD9 65040-FE19 65856-1018A 66464-103C3 66504-103D5",
     "68096-10A03 68101-10A06 68108-10A13 68117-10A17 68121-10A33 68152-10A3A 68159-10A47",
     "68176-10A58 119296-1D245 120484-1D6A5"]),
  (["5.0", "v50"],
    ["578-24F 891-37D 1231 1274-4FF 1296-513 1466 1984-7FA 2427-97C 2430-97F 3298-CE3 3313-CF2",
     "6912-1B4B 6992-1B7C 7620-1DCA 7678-1DFF 8428-20EF 8525-214E 8580 9180-23E7 9906",
     "10183-27CA 11028-2B1A 11040-2B23 11360-2C6C 11380-2C77 42775-A71A 42784-A721 43072-A877",
     "67840-10919 67871 73728-1236E 74752-12462 74864-12473 119648-1D371 120778-1D7CB"]),
  (["5.1", "v51"],
    ["880-373 886-377 975 1159 1300-523 1542-60A 1558-61A 1595-63F 1902-77F 2417-972 2641 2677",
     "2884 2914-B63 3024 3133 3160-C59 3170-C63 3192-C7F 3389 3396 3426-D63 3440-D75 3449-D7F",
     "3947-F6C 4046 4050-FD4 4130 4136 4139 4147-1035 4154-103F 4186-1099 4254-109F 6314",
     "7040-1BAA 7086-1BB9 7168-1C37 7227-1C49 7245-1C7F 7627-1DE6 7836-1E9F 7930-1EFF 8292",
     "8432 8527 8581-2188 9885 9907-26BC 9920-26C3 10188 10220-27EF 11035-2B1F 11044-2B4C",
     "11088-2B54 11373-2C6F 11377-2C73 11384-2C7D 11744-2DFF 11800-2E1B 11806-2E30 12589",
     "12752-31E3 40892-9FC3 42240-A62B 42560-A65F 42594-A673 42620-A697 42779-A71F 42786-A78C",
     "43003-A7FF 43136-A8C4 43214-A8D9 43264-A953 43359 43520-AA36 43584-AA4D 43600-AA59",
     "43612-AA5F 65060-FE26 65936-1019B 66000-101FD 66176-1029C 66208-102D0 67872-10939 67903",
     "119081 126976-1F02B 127024-1F093"]),
  (["5.2", "v52"],
    ["1316-525 2048-82D 2096-83E 2304 2382 2389 2425-97A 2555 4053-FD8 4250-109D 4442-115E",
     "4515-11A7 4602-11FF 5120 5751-167F 6320-18F5 6570-19AB 6618 6688-1A5E 6752-1A7C",
     "6783-1A89 6800-1A99 6816-1AAD 7376-1CF2 7677 8374-20B8 8528-2152 8585 9192 9886-269F",
     "9917-26BF 9924-26CD 9935-26E1 9955 9960-26FF 10071 11093-2B59 11376 11390-2C7F",
     "11499-2CF1 11825 12868-324F 40900-9FCB 42192-A4FF 42656-A6F7 43056-A839 43232-A8FB",
     "43360-A97C 43392-A9CD 43471-A9D9 43486-A9DF 43616-AA7B 43648-AAC2 43739-AADF 43968-ABED",
     "44016-ABF9 55216-D7C6 55243-D7FB 64107-FA6D 67648-10855 67671-1085F 67866-1091B",
     "68192-10A7F 68352-10B35 68409-10B55 68440-10B72 68472-10B7F 68608-10C48 69216-10E7E",
     "69760-110C1 77824-1342E 127232-1F10A 127248-1F12E 127281 127293 127295 127298 127302",
     "127306-1F14E 127319 127327 127353 127355-1F17C 127359 127370-1F18D 127376 127488",
     "127504-1F231 127552-1F248 173824-2B734"]),
  (["6.0", "v60"],
    ["1318-527 1568 1631 2112-85B 2142 2362-93B 2383 2390-957 2419-977 2930-B77 3369 3386 3406",
     "3980-F8F 4057-FDA 4957-135E 7104-1BF3 7164-1BFF 7676 8341-209C 8377 9193-23F3 9934 9954",
     "9956-26E7 9989 9994-270B 10024 10060 10062 10067-2755 10079-2760 10133-2797 10160 10175",
     "10190-27CF 11632 11647 12728-31BA 42592-A661 42893-A78E 42896-A791 42912-A7A9 43002",
     "43777-AB06 43785-AB0E 43793-AB16 43808-AB26 43816-AB2E 64434-FBC1 69632-1104D",
     "69714-1106F 92160-16A38 110592-1B001 127136-1F0AE 127153-1F0BE 127169-1F0CF 127185-1F0DF",
     "127280 127282-1F13C 127294 127296-1F141 127299-1F145 127303-1F149 127311-1F156",
     "127320-1F15E 127328-1F169 127344-1F178 127354 127357-1F17E 127360-1F189 127374-1F18F",
     "127377-1F19A 127462-1F1FF 127489-1F202 127538-1F23A 127568-1F251 127744-1F320",
     "127792-1F335 127799-1F37C 127872-1F393 127904-1F3C4 127942-1F3CA 127968-1F3F0",
     "128000-1F43E 128064 128066-1F4F7 128249-1F4FC 128256-1F53D 128336-1F567 128507-1F5FF",
     "128513-1F610 128530-1F614 128534 128536 128538 128540-1F61E 128544-1F625 128552-1F62B",
     "128557 128560-1F633 128565-1F640 128581-1F64F 128640-1F6C5 128768-1F773 177984-2B81D"]),
  (["6.1", "v61"],
    ["1423 1540 2208 2210-8AC 2276-8FE 2800 3806-EDF 4295 4301 4349-10FF 7083-1BAD 7098-1BBF",
     "7360-1CC7 7411-1CF6 10187 10189 11506-2CF3 11559 11565 11622-2D67 11826-2E3B 40908",
     "42612-A67B 42655 42898-A793 42922 43000-A7F9 43744-AAF6 64046-FA2F 67968-109B7",
     "68030-109BF 69840-110E8 69872-110F9 69888-11134 69942-11143 70016-111C8 70096-111D9",
     "71296-116B7 71360-116C9 93952-16F44 94032-16F7E 94095-16F9F 126464-1EE03 126469-1EE1F",
     "126497-1EE22 126500 126503 126505-1EE32 126516-1EE37 126521 126523 126530 126535 126537",
     "126539 126541-1EE4F 126545-1EE52 126548 126551 126553 126555 126557 126559 126561-1EE62",
     "126564 126567-1EE6A 126572-1EE72 126580-1EE77 126585-1EE7C 126590 126592-1EE89",
     "126603-1EE9B 126625-1EEA3 126629-1EEA9 126635-1EEBB 126704-1EEF1 127338-1F16B",
     "128320-1F543 128512 128529 128533 128535 128537 128539 128543 128550-1F627 128556",
     "128558-1F62F 128564"]),
  (["6.2", "v62"],
    ["8378"]),
  (["6.3", "v63"],
    ["1564 8294-2069"]),
  (["7.0", "v70"],
    ["895 1320-52F 1421-58E 1541 2209 2221-8B2 2303 2424 2432 3072 3124 3201 3329 3558-DEF",
     "5873-16F8 6429-191E 6832-1ABE 7416-1CF9 7655-1DF5 8379-20BD 9204-23FA 9984 11085-2B4F",
     "11098-2B73 11126-2B95 11160-2BB9 11197-2BC8 11210-2BD1 11836-2E42 42648-A69D 42900-A79F",
     "42923-A7AD 42928-A7B1 42999 43488-A9FE 43644-AA7F 43824-AB5F 43876-AB65 65063-FE2D",
     "65931-1018C 65952 66272-102FB 66335 66384-1037A 66816-10527 66864-10563 66927",
     "67072-10736 67392-10755 67424-10767 67680-1089E 67751-108AF 68224-10A9F 68288-10AE6",
     "68331-10AF6 68480-10B91 68505-10B9C 68521-10BAF 69759 69968-11176 70093 70106",
     "70113-111F4 70144-11211 70163-1123D 70320-112EA 70384-112F9 70401-11303 70405-1130C",
     "70415-11310 70419-11328 70442-11330 70450-11333 70453-11339 70460-11344 70471-11348",
     "70475-1134D 70487 70493-11363 70502-1136C 70512-11374 70784-114C7 70864-114D9",
     "71040-115B5 71096-115C9 71168-11644 71248-11659 71840-118F2 71935 72384-11AF8",
     "74607-12398 74851-1246E 74868 92736-16A5E 92768-16A69 92782-16A6F 92880-16AED",
     "92912-16AF5 92928-16B45 93008-16B59 93019-16B61 93027-16B77 93053-16B8F 113664-1BC6A",
     "113776-1BC7C 113792-1BC88 113808-1BC99 113820-1BCA3 124928-1E8C4 125127-1E8D6 127167",
     "127200-1F0F5 127243-1F10C 127777-1F32C 127798 127869 127892-1F39F 127941 127947-1F3CE",
     "127956-1F3DF 127985-1F3F7 128063 128065 128248 128253-1F4FE 128318-1F53F 128324-1F54A",
     "128360-1F579 128379-1F5A3 128421-1F5FA 128577-1F642 128592-1F67F 128710-1F6CF",
     "128736-1F6EC 128752-1F6F3 128896-1F7D4 129024-1F80B 129040-1F847 129104-1F859",
     "129120-1F887 129168-1F8AD"]),
  (["8.0", "v80"],
    ["2227-8B4 2275 2809 3162 3423 5109 5112-13FD 8382 8586-218B 11244-2BEF 40909-9FD5 42654",
     "42895 42930-A7B7 43260-A8FD 43872-AB63 43888-ABBF 65070-FE2F 67808-108F2 67828-108F5",
     "67835-108FF 68028-109BD 68032-109CF 68050-109FF 68736-10CB2 68800-10CF2 68858-10CFF",
     "70089-111CC 70107-111DF 70272-11286 70280 70282-1128D 70287-1129D 70303-112A9 70400",
     "70480 71114-115DD 71424-11719 71453-1172B 71472-1173F 74649 74880-12543 82944-14646",
     "119262-1D1E8 120832-1DA8B 121499-1DA9F 121505-1DAAF 127789-1F32F 127870-1F37F",
     "127951-1F3D3 127992-1F3FF 128255 128331-1F54F 128579-1F644 128720 129296-1F918",
     "129408-1F984 129472 178208-2CEA1"]),
  (["9.0", "v90"],
    ["2230-8BD 2260-8E2 3200 3407 3412-D56 3416-D5E 3446-D78 7296-1C88 7675 9211-23FE",
     "11843-2E44 42926 43205 65933-1018E 66736-104D3 66776-104FB 70206 70656-11459 70747 70749",
     "71264-1166C 72704-11C08 72714-11C36 72760-11C45 72784-11C6C 72816-11C8F 72850-11CA7",
     "72873-11CB6 94176 94208-187EC 100352-18AF2 122880-1E006 122888-1E018 122907-1E021",
     "122915-1E024 122918-1E02A 125184-1E94A 125264-1E959 125278-1E95F 127387-1F1AC 127547",
     "128378 128420 128721-1F6D2 128756-1F6F6 129305-1F91E 129312-1F927 129328 129331-1F93E",
     "129344-1F94B 129360-1F95E 129413-1F991"]),
  (["10.0", "v100"],
    ["2144-86A 2556-9FD 2810-AFF 3328 3387-D3C 7415 7670-1DF9 8383 9215 11218 11845-2E49 12590",
     "40918-9FEA 66349-1032F 72192-11A47 72272-11A83 72326-11A9C 72350-11AA2 72960-11D06",
     "72968-11D09 72971-11D36 73018 73020-11D3D 73023-11D47 73040-11D59 94177 110594-1B11E",
     "110960-1B2FB 127584-1F265 128723-1F6D4 128759-1F6F8 129280-1F90B 129311 129320-1F92F",
     "129329-1F932 129356 129375-1F96B 129426-1F997 129488-1F9E6 183984-2EBE0"]),
  (["11.0", "v110"],
    ["1376 1416 1519 2045-7FF 2259 2558 2678 3076 3204 6264 7312-1CBA 7357-1CBF 11194-2BBC",
     "11219-2BEB 11248-2BFE 11850-2E4E 12591 40939-9FEF 42927 42936-A7B9 43262-A8FF",
     "68148-10A35 68168 68864-10D27 68912-10D39 69376-10F27 69424-10F59 69837 69956-11146",
     "70459 70750 71450 71680-1183B 72349 73056-11D65 73063-11D68 73066-11D8E 73104-11D91",
     "73107-11D98 73120-11DA9 73440-11EF8 93760-16E9A 100333-187F1 119520-1D2F3 119666-1D378",
     "126065-1ECB4 127279 128761 128981-1F7D8 129357-1F94F 129388-1F970 129395-1F976 129402",
     "129404-1F97F 129432-1F9A2 129456-1F9B9 129473-1F9C2 129511-1F9FF 129632-1FA6D"]),
  (["12.0", "v120"],
    ["3191 3718 3721 3724 3726-E93 3736 3744 3752-EA9 3756 3770 7418 11209 11263 11855",
     "42938-A7BF 42946-A7C6 43878-AB67 69600-10FF6 70751 71352 72096-119A7 72106-119D7",
     "72154-119E4 72324-11A85 73664-11FF1 73727 78896-13438 94021-16F4A 94031 94079-16F87",
     "94178-16FE3 100338-187F7 110928-1B152 110948-1B167 123136-1E12C 123184-1E13D",
     "123200-1E149 123214-1E14F 123584-1E2F9 123647 125259 126209-1ED3D 127340 128725 128762",
     "128992-1F7EB 129293-1F90F 129343 129393 129403 129445-1F9AA 129454-1F9AF 129466-1F9BF",
     "129475-1F9CA 129485-1F9CF 129536-1FA53 129648-1FA73 129656-1FA7A 129664-1FA82",
     "129680-1FA95"]),
  (["12.1", "v121"],
    ["13055"]),
  (["13.0", "v130"],
    ["2238-8C7 2901 3332 3457 6847-1AC0 11159 11856-2E52 12731-31BF 19894-4DBF 40944-9FFC",
     "42951-A7CA 42997-A7F6 43052 43880-AB6B 65948 69248-10EA9 69291-10EAD 69296-10EB1",
     "69552-10FCB 69959 70094-111CF 70746 70752-11461 71936-11906 71945 71948-11913",
     "71957-11916 71960-11935 71991-11938 71995-11946 72016-11959 73648 94180 94192-16FF1",
     "101107-18CD5 101632-18D08 127245-1F10F 127341-1F16F 127405 128726-1F6D7 128763-1F6FC",
     "129200-1F8B1 129292 129394 129399-1F978 129443-1F9A4 129451-1F9AD 129483 129652",
     "129667-1FA86 129686-1FAA8 129712-1FAB6 129728-1FAC2 129744-1FAD6 129792-1FB92",
     "129940-1FBCA 130032-1FBF9 173783-2A6DD 196608-3134A"]),
  (["14.0", "v140"],
    ["1565 2160-88E 2192-891 2200-89F 2229 2248-8D2 3132 3165 3293 5901 5909 5919 6159",
     "6849-1ACE 6988 7037-1B7E 7674 8384 11311 11359 11859-2E5D 40957-9FFF 42944-A7C1",
     "42960-A7D1 42963 42965-A7D9 42994-A7F4 64450 64832-FD4F 64975 65022-FDFF 66928-1057A",
     "66940-1058A 66956-10592 66964-10595 66967-105A1 66979-105B1 66995-105B9 67003-105BC",
     "67456-10785 67463-107B0 67506-107BA 69488-10F89 69744-11075 69826 71353 71488-11746",
     "72368-11ABF 77712-12FF2 92784-16ABE 92864-16AC9 110576-1AFF3 110581-1AFFB 110589-1AFFE",
     "110879-1B122 118528-1CF2D 118576-1CF46 118608-1CFC3 119273-1D1EA 122624-1DF1E",
     "123536-1E2AE 124896-1E7E6 124904-1E7EB 124909-1E7EE 124912-1E7FE 128733-1F6DF 129008",
     "129401 129484 129659-1FA7C 129705-1FAAC 129719-1FABA 129731-1FAC5 129751-1FAD9",
     "129760-1FAE7 129776-1FAF6 173790-2A6DF 177973-2B738"]),
  (["15.0", "v150"],
    ["3315 3790 69373-10EFF 70207-11241 72448-11B09 73472-11F10 73490-11F3A 73534-11F59 78895",
     "78905-13455 110898 110933 119488-1D2D3 122661-1DF2A 122928-1E06D 123023 124112-1E4F9",
     "128732 128884-1F776 128891-1F77F 128985 129653-1FA77 129671-1FA88 129709-1FAAF",
     "129723-1FABD 129727 129742-1FACF 129754-1FADB 129768 129783-1FAF8 177977 201552-323AF"]),
  (["v151", "15.1"],
    ["2FFC-2FFF 31EF 2EBF0-2EE5D"]),
  (["v160", "16.0"],
    ["897 1B4E-1B4F 1B7F 1C89-1C8A 2427-2429 31E4-31E5 A7CB-A7CD A7DA-A7DC 105C0-105F3",
     "10D40-10D65 10D69-10D85 10D8E-10D8F 10EC2-10EC4 10EFC 11380-11389 1138B 1138E",
     "11390-113B5 113B7-113C0 113C2 113C5 113C7-113CA 113CC-113D5 113D7-113D8 113E1-113E2",
     "116D0-116E3 11BC0-11BE1 11BF0-11BF9 11F5A 13460-143FA 16100-16139 16D40-16D79 18CFF",
     "1CC00-1CCF9 1CD00-1CEB3 1E5D0-1E5FA 1E5FF 1F8B2-1F8BB 1F8C0-1F8C1 1FA89 1FA8F 1FABE",
     "1FAC6 1FADC 1FADF 1FAE9 1FBCB-1FBEF"]),
  (["v170", "17.0"],
    ["88F C5C CDC 1ACF-1ADD 1AE0-1AEB 20C1 2B96 A7CE-A7CF A7D2 A7D4 A7F1 FBC3-FBD2 FD90-FD91",
     "FDC8-FDCE 10940-10959 10EC5-10EC7 10ED0-10ED8 10EFA-10EFB 11B60-11B67 11DB0-11DDB",
     "11DE0-11DE9 16EA0-16EB8 16EBB-16ED3 16FF2-16FF6 187F8-187FF 18D09-18D1E 18D80-18DF2",
     "1CCFA-1CCFC 1CEBA-1CED0 1CEE0-1CEF0 1E6C0-1E6DE 1E6E0-1E6F5 1E6FE-1E6FF 1F6D8",
     "1F777-1F77A 1F8D0-1F8D8 1FA54-1FA57 1FA8A 1FA8E 1FAC8 1FACD 1FAEA 1FAEF 1FBFA",
     "2B73A-2B73F 2CEA2-2CEAD 323B0-33479"])]

end Killfile.Unicode
