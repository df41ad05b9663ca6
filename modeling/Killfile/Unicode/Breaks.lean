/-! Break classes of Unicode text segmentation: grapheme clusters, words and sentences. -/

namespace Killfile.Unicode

/-- Grapheme cluster break classes other than Other. -/
def graphemeBreakTable : List (List String × List String) := [
  (["cr"],
    ["13"]),
  (["cn", "control"],
    ["0-9 11-C 14-1F 127-9F 173 1564 6158 8203 8206-200F 8232-202E 8288-206F 65279 65520-FFFB",
     "78896-1343F 113824-1BCA3 119155-1D17A 917504-E001F 917632-E00FF 918000-E0FFF"]),
  (["ex", "extend"],
    ["768-36F 1155-489 1425-5BD 1471 1473-5C2 1476-5C5 1479 1552-61A 1611-65F 1648 1750-6DC",
     "1759-6E4 1767-6E8 1770-6ED 1809 1840-74A 1958-7B0 2027-7F3 2045 2070-819 2075-823",
     "2085-827 2089-82D 2137-85B 2200-89F 2250-8E1 2275-902 2362 2364 2369-948 2381 2385-957",
     "2402-963 2433 2492 2494 2497-9C4 2509 2519 2530-9E3 2558 2561-A02 2620 2625-A42 2631-A48",
     "2635-A4D 2641 2672-A71 2677 2689-A82 2748 2753-AC5 2759-AC8 2765 2786-AE3 2810-AFF 2817",
     "2876 2878-B3F 2881-B44 2893 2901-B57 2914-B63 2946 3006 3008 3021 3031 3072 3076 3132",
     "3134-C40 3142-C48 3146-C4D 3157-C56 3170-C63 3201 3260 3263 3266 3270 3276-CCD 3285-CD6",
     "3298-CE3 3328-D01 3387-D3C 3390 3393-D44 3405 3415 3426-D63 3457 3530 3535 3538-DD4 3542",
     "3551 3633 3636-E3A 3655-E4E 3761 3764-EBC 3784-ECE 3864-F19 3893 3895 3897 3953-F7E",
     "3968-F84 3974-F87 3981-F97 3993-FBC 4038 4141-1030 4146-1037 4153-103A 4157-103E",
     "4184-1059 4190-1060 4209-1074 4226 4229-1086 4237 4253 4957-135F 5906-1714 5938-1733",
     "5970-1753 6002-1773 6068-17B5 6071-17BD 6086 6089-17D3 6109 6155-180D 6159 6277-1886",
     "6313 6432-1922 6439-1928 6450 6457-193B 6679-1A18 6683 6742 6744-1A5E 6752 6754",
     "6757-1A6C 6771-1A7C 6783 6832-1ACE 6912-1B03 6964-1B3A 6972 6978 7019-1B73 7040-1B81",
     "7074-1BA5 7080-1BA9 7083-1BAD 7142 7144-1BE9 7149 7151-1BF1 7212-1C33 7222-1C37",
     "7376-1CD2 7380-1CE0 7394-1CE8 7405 7412 7416-1CF9 7616-1DFF 8204 8400-20F0 11503-2CF1",
     "11647 11744-2DFF 12330-302F 12441-309A 42607-A672 42612-A67D 42654-A69F 42736-A6F1 43010",
     "43014 43019 43045-A826 43052 43204-A8C5 43232-A8F1 43263 43302-A92D 43335-A951",
     "43392-A982 43443 43446-A9B9 43452-A9BD 43493 43561-AA2E 43569-AA32 43573-AA36 43587",
     "43596 43644 43696 43698-AAB4 43703-AAB8 43710-AABF 43713 43756-AAED 43766 44005 44008",
     "44013 64286 65024-FE0F 65056-FE2F 65438-FF9F 66045 66272 66422-1037A 68097-10A03",
     "68101-10A06 68108-10A0F 68152-10A3A 68159 68325-10AE6 68900-10D27 69291-10EAC",
     "69373-10EFF 69446-10F50 69506-10F85 69633 69688-11046 69744 69747-11074 69759-11081",
     "69811-110B6 69817-110BA 69826 69888-11102 69927-1112B 69933-11134 70003 70016-11181",
     "70070-111BE 70089-111CC 70095 70191-11231 70196 70198-11237 70206 70209 70367",
     "70371-112EA 70400-11301 70459-1133C 70462 70464 70487 70502-1136C 70512-11374",
     "70712-1143F 70722-11444 70726 70750 70832 70835-114B8 70842 70845 70847-114C0",
     "70850-114C3 71087 71090-115B5 71100-115BD 71103-115C0 71132-115DD 71219-1163A 71229",
     "71231-11640 71339 71341 71344-116B5 71351 71453-1171F 71458-11725 71463-1172B",
     "71727-11837 71737-1183A 71984 71995-1193C 71998 72003 72148-119D7 72154-119DB 72160",
     "72193-11A0A 72243-11A38 72251-11A3E 72263 72273-11A56 72281-11A5B 72330-11A96",
     "72344-11A99 72752-11C36 72760-11C3D 72767 72850-11CA7 72874-11CB0 72882-11CB3",
     "72885-11CB6 73009-11D36 73018 73020-11D3D 73023-11D45 73031 73104-11D91 73109 73111",
     "73459-11EF4 73472-11F01 73526-11F3A 73536 73538 78912 78919-13455 92912-16AF4",
     "92976-16B36 94031 94095-16F92 94180 113821-1BC9E 118528-1CF2D 118576-1CF46 119141",
     "119143-1D169 119150-1D172 119163-1D182 119173-1D18B 119210-1D1AD 119362-1D244",
     "121344-1DA36 121403-1DA6C 121461 121476 121499-1DA9F 121505-1DAAF 122880-1E006",
     "122888-1E018 122907-1E021 122915-1E024 122918-1E02A 123023 123184-1E136 123566",
     "123628-1E2EF 124140-1E4EF 125136-1E8D6 125252-1E94A 127995-1F3FF 917536-E007F",
     "917760-E01EF"]),
  (["l"],
    ["4352-115F 43360-A97C"]),
  (["lf"],
    ["10"]),
  (["lv"],
    ["44032 44060 44088 44116 44144 44172 44200 44228 44256 44284 44312 44340 44368 44396",
     "44424 44452 44480 44508 44536 44564 44592 44620 44648 44676 44704 44732 44760 44788",
     "44816 44844 44872 44900 44928 44956 44984 45012 45040 45068 45096 45124 45152 45180",
     "45208 45236 45264 45292 45320 45348 45376 45404 45432 45460 45488 45516 45544 45572",
     "45600 45628 45656 45684 45712 45740 45768 45796 45824 45852 45880 45908 45936 45964",
     "45992 46020 46048 46076 46104 46132 46160 46188 46216 46244 46272 46300 46328 46356",
     "46384 46412 46440 46468 46496 46524 46552 46580 46608 46636 46664 46692 46720 46748",
     "46776 46804 46832 46860 46888 46916 46944 46972 47000 47028 47056 47084 47112 47140",
     "47168 47196 47224 47252 47280 47308 47336 47364 47392 47420 47448 47476 47504 47532",
     "47560 47588 47616 47644 47672 47700 47728 47756 47784 47812 47840 47868 47896 47924",
     "47952 47980 48008 48036 48064 48092 48120 48148 48176 48204 48232 48260 48288 48316",
     "48344 48372 48400 48428 48456 48484 48512 48540 48568 48596 48624 48652 48680 48708",
     "48736 48764 48792 48820 48848 48876 48904 48932 48960 48988 49016 49044 49072 49100",
     "49128 49156 49184 49212 49240 49268 49296 49324 49352 49380 49408 49436 49464 49492",
     "49520 49548 49576 49604 49632 49660 49688 49716 49744 49772 49800 49828 49856 49884",
     "49912 49940 49968 49996 50024 50052 50080 50108 50136 50164 50192 50220 50248 50276",
     "50304 50332 50360 50388 50416 50444 50472 50500 50528 50556 50584 50612 50640 50668",
     "50696 50724 50752 50780 50808 50836 50864 50892 50920 50948 50976 51004 51032 51060",
     "51088 51116 51144 51172 51200 51228 51256 51284 51312 51340 51368 51396 51424 51452",
     "51480 51508 51536 51564 51592 51620 51648 51676 51704 51732 51760 51788 51816 51844",
     "51872 51900 51928 51956 51984 52012 52040 52068 52096 52124 52152 52180 52208 52236",
     "52264 52292 52320 52348 52376 52404 52432 52460 52488 52516 52544 52572 52600 52628",
     "52656 52684 52712 52740 52768 52796 52824 52852 52880 52908 52936 52964 52992 53020",
     "53048 53076 53104 53132 53160 53188 53216 53244 53272 53300 53328 53356 53384 53412",
     "53440 53468 53496 53524 53552 53580 53608 53636 53664 53692 53720 53748 53776 53804",
     "53832 53860 53888 53916 53944 53972 54000 54028 54056 54084 54112 54140 54168 54196",
     "54224 54252 54280 54308 54336 54364 54392 54420 54448 54476 54504 54532 54560 54588",
     "54616 54644 54672 54700 54728 54756 54784 54812 54840 54868 54896 54924 54952 54980",
     "55008 55036 55064 55092 55120 55148 55176"]),
  (["lvt"],
    ["44033-AC1B 44061-AC37 44089-AC53 44117-AC6F 44145-AC8B 44173-ACA7 44201-ACC3 44229-ACDF",
     "44257-ACFB 44285-AD17 44313-AD33 44341-AD4F 44369-AD6B 44397-AD87 44425-ADA3 44453-ADBF",
     "44481-ADDB 44509-ADF7 44537-AE13 44565-AE2F 44593-AE4B 44621-AE67 44649-AE83 44677-AE9F",
     "44705-AEBB 44733-AED7 44761-AEF3 44789-AF0F 44817-AF2B 44845-AF47 44873-AF63 44901-AF7F",
     "44929-AF9B 44957-AFB7 44985-AFD3 45013-AFEF 45041-B00B 45069-B027 45097-B043 45125-B05F",
     "45153-B07B 45181-B097 45209-B0B3 45237-B0CF 45265-B0EB 45293-B107 45321-B123 45349-B13F",
     "45377-B15B 45405-B177 45433-B193 45461-B1AF 45489-B1CB 45517-B1E7 45545-B203 45573-B21F",
     "45601-B23B 45629-B257 45657-B273 45685-B28F 45713-B2AB 45741-B2C7 45769-B2E3 45797-B2FF",
     "45825-B31B 45853-B337 45881-B353 45909-B36F 45937-B38B 45965-B3A7 45993-B3C3 46021-B3DF",
     "46049-B3FB 46077-B417 46105-B433 46133-B44F 46161-B46B 46189-B487 46217-B4A3 46245-B4BF",
     "46273-B4DB 46301-B4F7 46329-B513 46357-B52F 46385-B54B 46413-B567 46441-B583 46469-B59F",
     "46497-B5BB 46525-B5D7 46553-B5F3 46581-B60F 46609-B62B 46637-B647 46665-B663 46693-B67F",
     "46721-B69B 46749-B6B7 46777-B6D3 46805-B6EF 46833-B70B 46861-B727 46889-B743 46917-B75F",
     "46945-B77B 46973-B797 47001-B7B3 47029-B7CF 47057-B7EB 47085-B807 47113-B823 47141-B83F",
     "47169-B85B 47197-B877 47225-B893 47253-B8AF 47281-B8CB 47309-B8E7 47337-B903 47365-B91F",
     "47393-B93B 47421-B957 47449-B973 47477-B98F 47505-B9AB 47533-B9C7 47561-B9E3 47589-B9FF",
     "47617-BA1B 47645-BA37 47673-BA53 47701-BA6F 47729-BA8B 47757-BAA7 47785-BAC3 47813-BADF",
     "47841-BAFB 47869-BB17 47897-BB33 47925-BB4F 47953-BB6B 47981-BB87 48009-BBA3 48037-BBBF",
     "48065-BBDB 48093-BBF7 48121-BC13 48149-BC2F 48177-BC4B 48205-BC67 48233-BC83 48261-BC9F",
     "48289-BCBB 48317-BCD7 48345-BCF3 48373-BD0F 48401-BD2B 48429-BD47 48457-BD63 48485-BD7F",
     "48513-BD9B 48541-BDB7 48569-BDD3 48597-BDEF 48625-BE0B 48653-BE27 48681-BE43 48709-BE5F",
     "48737-BE7B 48765-BE97 48793-BEB3 48821-BECF 48849-BEEB 48877-BF07 48905-BF23 48933-BF3F",
     "48961-BF5B 48989-BF77 49017-BF93 49045-BFAF 49073-BFCB 49101-BFE7 49129-C003 49157-C01F",
     "49185-C03B 49213-C057 49241-C073 49269-C08F 49297-C0AB 49325-C0C7 49353-C0E3 49381-C0FF",
     "49409-C11B 49437-C137 49465-C153 49493-C16F 49521-C18B 49549-C1A7 49577-C1C3 49605-C1DF",
     "49633-C1FB 49661-C217 49689-C233 49717-C24F 49745-C26B 49773-C287 49801-C2A3 49829-C2BF",
     "49857-C2DB 49885-C2F7 49913-C313 49941-C32F 49969-C34B 49997-C367 50025-C383 50053-C39F",
     "50081-C3BB 50109-C3D7 50137-C3F3 50165-C40F 50193-C42B 50221-C447 50249-C463 50277-C47F",
     "50305-C49B 50333-C4B7 50361-C4D3 50389-C4EF 50417-C50B 50445-C527 50473-C543 50501-C55F",
     "50529-C57B 50557-C597 50585-C5B3 50613-C5CF 50641-C5EB 50669-C607 50697-C623 50725-C63F",
     "50753-C65B 50781-C677 50809-C693 50837-C6AF 50865-C6CB 50893-C6E7 50921-C703 50949-C71F",
     "50977-C73B 51005-C757 51033-C773 51061-C78F 51089-C7AB 51117-C7C7 51145-C7E3 51173-C7FF",
     "51201-C81B 51229-C837 51257-C853 51285-C86F 51313-C88B 51341-C8A7 51369-C8C3 51397-C8DF",
     "51425-C8FB 51453-C917 51481-C933 51509-C94F 51537-C96B 51565-C987 51593-C9A3 51621-C9BF",
     "51649-C9DB 51677-C9F7 51705-CA13 51733-CA2F 51761-CA4B 51789-CA67 51817-CA83 51845-CA9F",
     "51873-CABB 51901-CAD7 51929-CAF3 51957-CB0F 51985-CB2B 52013-CB47 52041-CB63 52069-CB7F",
     "52097-CB9B 52125-CBB7 52153-CBD3 52181-CBEF 52209-CC0B 52237-CC27 52265-CC43 52293-CC5F",
     "52321-CC7B 52349-CC97 52377-CCB3 52405-CCCF 52433-CCEB 52461-CD07 52489-CD23 52517-CD3F",
     "52545-CD5B 52573-CD77 52601-CD93 52629-CDAF 52657-CDCB 52685-CDE7 52713-CE03 52741-CE1F",
     "52769-CE3B 52797-CE57 52825-CE73 52853-CE8F 52881-CEAB 52909-CEC7 52937-CEE3 52965-CEFF",
     "52993-CF1B 53021-CF37 53049-CF53 53077-CF6F 53105-CF8B 53133-CFA7 53161-CFC3 53189-CFDF",
     "53217-CFFB 53245-D017 53273-D033 53301-D04F 53329-D06B 53357-D087 53385-D0A3 53413-D0BF",
     "53441-D0DB 53469-D0F7 53497-D113 53525-D12F 53553-D14B 53581-D167 53609-D183 53637-D19F",
     "53665-D1BB 53693-D1D7 53721-D1F3 53749-D20F 53777-D22B 53805-D247 53833-D263 53861-D27F",
     "53889-D29B 53917-D2B7 53945-D2D3 53973-D2EF 54001-D30B 54029-D327 54057-D343 54085-D35F",
     "54113-D37B 54141-D397 54169-D3B3 54197-D3CF 54225-D3EB 54253-D407 54281-D423 54309-D43F",
     "54337-D45B 54365-D477 54393-D493 54421-D4AF 54449-D4CB 54477-D4E7 54505-D503 54533-D51F",
     "54561-D53B 54589-D557 54617-D573 54645-D58F 54673-D5AB 54701-D5C7 54729-D5E3 54757-D5FF",
     "54785-D61B 54813-D637 54841-D653 54869-D66F 54897-D68B 54925-D6A7 54953-D6C3 54981-D6DF",
     "55009-D6FB 55037-D717 55065-D733 55093-D74F 55121-D76B 55149-D787 55177-D7A3"]),
  (["pp", "prepend"],
    ["1536-605 1757 1807 2192-891 2274 3406 69821 69837 70082-111C3 71999 72001 72250",
     "72324-11A89 73030 73474"]),
  (["ri", "regionalindicator"],
    ["127462-1F1FF"]),
  (["sm", "spacingmark"],
    ["2307 2363 2366-940 2377-94C 2382-94F 2434-983 2495-9C0 2503-9C8 2507-9CC 2563 2622-A40",
     "2691 2750-AC0 2761 2763-ACC 2818-B03 2880 2887-B48 2891-B4C 3007 3009-BC2 3014-BC8",
     "3018-BCC 3073-C03 3137-C44 3202-C83 3262 3264-CC1 3267-CC4 3271-CC8 3274-CCB 3315",
     "3330-D03 3391-D40 3398-D48 3402-D4C 3458-D83 3536-DD1 3544-DDE 3570-DF3 3635 3763",
     "3902-F3F 3967 4145 4155-103C 4182-1057 4228 5909 5940 6070 6078-17C5 6087-17C8 6435-1926",
     "6441-192B 6448-1931 6451-1938 6681-1A1A 6741 6743 6765-1A72 6916 6971 6973-1B41",
     "6979-1B44 7042 7073 7078-1BA7 7082 7143 7146-1BEC 7150 7154-1BF3 7204-1C2B 7220-1C35",
     "7393 7415 43043-A824 43047 43136-A881 43188-A8C3 43346-A953 43395 43444-A9B5 43450-A9BB",
     "43454-A9C0 43567-AA30 43571-AA34 43597 43755 43758-AAEF 43765 44003-ABE4 44006-ABE7",
     "44009-ABEA 44012 69632 69634 69762 69808-110B2 69815-110B8 69932 69957-11146 70018",
     "70067-111B5 70079-111C0 70094 70188-1122E 70194-11233 70197 70368-112E2 70402-11303",
     "70463 70465-11344 70471-11348 70475-1134D 70498-11363 70709-11437 70720-11441 70725",
     "70833-114B2 70841 70843-114BC 70846 70849 71088-115B1 71096-115BB 71102 71216-11632",
     "71227-1163C 71230 71340 71342-116AF 71350 71462 71724-1182E 71736 71985-11935",
     "71991-11938 71997 72000 72002 72145-119D3 72156-119DF 72164 72249 72279-11A58 72343",
     "72751 72766 72873 72881 72884 73098-11D8E 73107-11D94 73110 73461-11EF6 73475",
     "73524-11F35 73534-11F3F 73537 94033-16F87 94192-16FF1 119142 119149"]),
  (["t"],
    ["4520-11FF 55243-D7FB"]),
  (["v"],
    ["4448-11A7 55216-D7C6"]),
  (["zwj"],
    ["8205"])]

/-- Word break classes other than Other. -/
def wordBreakTable : List (List String × List String) := [
  (["le", "aletter"],
    ["65-5A 97-7A 170 181 186 192-D6 216-F6 248-2D7 734-2FF 880-374 886-377 890-37D 895 902",
     "904-38A 908 910-3A1 931-3F5 1015-481 1162-52F 1329-556 1369-55C 1374 1376-588 1418 1523",
     "1568-64A 1646-66F 1649-6D3 1749 1765-6E6 1774-6EF 1786-6FC 1791 1808 1810-72F 1869-7A5",
     "1969 1994-7EA 2036-7F5 2042 2048-815 2074 2084 2088 2112-858 2144-86A 2160-887 2185-88E",
     "2208-8C9 2308-939 2365 2384 2392-961 2417-980 2437-98C 2447-990 2451-9A8 2474-9B0 2482",
     "2486-9B9 2493 2510 2524-9DD 2527-9E1 2544-9F1 2556 2565-A0A 2575-A10 2579-A28 2602-A30",
     "2610-A33 2613-A36 2616-A39 2649-A5C 2654 2674-A74 2693-A8D 2703-A91 2707-AA8 2730-AB0",
     "2738-AB3 2741-AB9 2749 2768 2784-AE1 2809 2821-B0C 2831-B10 2835-B28 2858-B30 2866-B33",
     "2869-B39 2877 2908-B5D 2911-B61 2929 2947 2949-B8A 2958-B90 2962-B95 2969-B9A 2972",
     "2974-B9F 2979-BA4 2984-BAA 2990-BB9 3024 3077-C0C 3086-C10 3090-C28 3114-C39 3133",
     "3160-C5A 3165 3168-C61 3200 3205-C8C 3214-C90 3218-CA8 3242-CB3 3253-CB9 3261 3293-CDE",
     "3296-CE1 3313-CF2 3332-D0C 3342-D10 3346-D3A 3389 3406 3412-D56 3423-D61 3450-D7F",
     "3461-D96 3482-DB1 3507-DBB 3517 3520-DC6 3840 3904-F47 3913-F6C 3976-F8C 4256-10C5 4295",
     "4301 4304-10FA 4348-1248 4682-124D 4688-1256 4696 4698-125D 4704-1288 4746-128D",
     "4752-12B0 4786-12B5 4792-12BE 4800 4802-12C5 4808-12D6 4824-1310 4882-1315 4888-135A",
     "4992-138F 5024-13F5 5112-13FD 5121-166C 5743-167F 5761-169A 5792-16EA 5870-16F8",
     "5888-1711 5919-1731 5952-1751 5984-176C 5998-1770 6176-1878 6272-1884 6279-18A8 6314",
     "6320-18F5 6400-191E 6656-1A16 6917-1B33 6981-1B4C 7043-1BA0 7086-1BAF 7098-1BE5",
     "7168-1C23 7245-1C4F 7258-1C7D 7296-1C88 7312-1CBA 7357-1CBF 7401-1CEC 7406-1CF3",
     "7413-1CF6 7418 7424-1DBF 7680-1F15 7960-1F1D 7968-1F45 8008-1F4D 8016-1F57 8025 8027",
     "8029 8031-1F7D 8064-1FB4 8118-1FBC 8126 8130-1FC4 8134-1FCC 8144-1FD3 8150-1FDB",
     "8160-1FEC 8178-1FF4 8182-1FFC 8305 8319 8336-209C 8450 8455 8458-2113 8469 8473-211D",
     "8484 8486 8488 8490-212D 8495-2139 8508-213F 8517-2149 8526 8544-2188 9398-24E9",
     "11264-2CE4 11499-2CEE 11506-2CF3 11520-2D25 11559 11565 11568-2D67 11631 11648-2D96",
     "11680-2DA6 11688-2DAE 11696-2DB6 11704-2DBE 11712-2DC6 11720-2DCE 11728-2DD6 11736-2DDE",
     "11823 12293 12347-303C 12549-312F 12593-318E 12704-31BF 40960-A48C 42192-A4FD 42240-A60C",
     "42512-A61F 42538-A62B 42560-A66E 42623-A69D 42656-A6EF 42760-A7CA 42960-A7D1 42963",
     "42965-A7D9 42994-A801 43011-A805 43015-A80A 43020-A822 43072-A873 43138-A8B3 43250-A8F7",
     "43259 43261-A8FE 43274-A925 43312-A946 43360-A97C 43396-A9B2 43471 43520-AA28 43584-AA42",
     "43588-AA4B 43744-AAEA 43762-AAF4 43777-AB06 43785-AB0E 43793-AB16 43808-AB26 43816-AB2E",
     "43824-AB69 43888-ABE2 44032-D7A3 55216-D7C6 55243-D7FB 64256-FB06 64275-FB17 64336-FBB1",
     "64467-FD3D 64848-FD8F 64914-FDC7 65008-FDFB 65136-FE74 65142-FEFC 65313-FF3A 65345-FF5A",
     "65440-FFBE 65474-FFC7 65482-FFCF 65490-FFD7 65498-FFDC 65536-1000B 65549-10026",
     "65576-1003A 65596-1003D 65599-1004D 65616-1005D 65664-100FA 65856-10174 66176-1029C",
     "66208-102D0 66304-1031F 66349-1034A 66384-10375 66432-1039D 66464-103C3 66504-103CF",
     "66513-103D5 66560-1049D 66736-104D3 66776-104FB 66816-10527 66864-10563 66928-1057A",
     "66940-1058A 66956-10592 66964-10595 66967-105A1 66979-105B1 66995-105B9 67003-105BC",
     "67072-10736 67392-10755 67424-10767 67456-10785 67463-107B0 67506-107BA 67584-10805",
     "67592 67594-10835 67639-10838 67644 67647-10855 67680-10876 67712-1089E 67808-108F2",
     "67828-108F5 67840-10915 67872-10939 67968-109B7 68030-109BF 68096 68112-10A13",
     "68117-10A17 68121-10A35 68192-10A7C 68224-10A9C 68288-10AC7 68297-10AE4 68352-10B35",
     "68416-10B55 68448-10B72 68480-10B91 68608-10C48 68736-10CB2 68800-10CF2 68864-10D23",
     "69248-10EA9 69296-10EB1 69376-10F1C 69415 69424-10F45 69488-10F81 69552-10FC4",
     "69600-10FF6 69635-11037 69745-11072 69749 69763-110AF 69840-110E8 69891-11126 69956",
     "69959 69968-11172 70006 70019-111B2 70081-111C4 70106 70108 70144-11211 70163-1122B",
     "70207-11240 70272-11286 70280 70282-1128D 70287-1129D 70303-112A8 70320-112DE",
     "70405-1130C 70415-11310 70419-11328 70442-11330 70450-11333 70453-11339 70461 70480",
     "70493-11361 70656-11434 70727-1144A 70751-11461 70784-114AF 70852-114C5 70855",
     "71040-115AE 71128-115DB 71168-1162F 71236 71296-116AA 71352 71680-1182B 71840-118DF",
     "71935-11906 71945 71948-11913 71957-11916 71960-1192F 71999 72001 72096-119A7",
     "72106-119D0 72161 72163 72192 72203-11A32 72250 72272 72284-11A89 72349 72368-11AF8",
     "72704-11C08 72714-11C2E 72768 72818-11C8F 72960-11D06 72968-11D09 72971-11D30 73030",
     "73056-11D65 73063-11D68 73066-11D89 73112 73440-11EF2 73474 73476-11F10 73490-11F33",
     "73648 73728-12399 74752-1246E 74880-12543 77712-12FF0 77824-1342F 78913-13446",
     "82944-14646 92160-16A38 92736-16A5E 92784-16ABE 92880-16AED 92928-16B2F 92992-16B43",
     "93027-16B77 93053-16B8F 93760-16E7F 93952-16F4A 94032 94099-16F9F 94176-16FE1 94179",
     "113664-1BC6A 113776-1BC7C 113792-1BC88 113808-1BC99 119808-1D454 119894-1D49C",
     "119966-1D49F 119970 119973-1D4A6 119977-1D4AC 119982-1D4B9 119995 119997-1D4C3",
     "120005-1D505 120071-1D50A 120077-1D514 120086-1D51C 120094-1D539 120123-1D53E",
     "120128-1D544 120134 120138-1D550 120146-1D6A5 120488-1D6C0 120514-1D6DA 120540-1D6FA",
     "120572-1D714 120598-1D734 120630-1D74E 120656-1D76E 120688-1D788 120714-1D7A8",
     "120746-1D7C2 120772-1D7CB 122624-1DF1E 122661-1DF2A 122928-1E06D 123136-1E12C",
     "123191-1E13D 123214 123536-1E2AD 123584-1E2EB 124112-1E4EB 124896-1E7E6 124904-1E7EB",
     "124909-1E7EE 124912-1E7FE 124928-1E8C4 125184-1E943 125259 126464-1EE03 126469-1EE1F",
     "126497-1EE22 126500 126503 126505-1EE32 126516-1EE37 126521 126523 126530 126535 126537",
     "126539 126541-1EE4F 126545-1EE52 126548 126551 126553 126555 126557 126559 126561-1EE62",
     "126564 126567-1EE6A 126572-1EE72 126580-1EE77 126585-1EE7C 126590 126592-1EE89",
     "126603-1EE9B 126625-1EEA3 126629-1EEA9 126635-1EEBB 127280-1F149 127312-1F169",
     "127344-1F189"]),
  (["cr"],
    ["13"]),
  (["dq", "doublequote"],
    ["34"]),
  (["extend"],
    ["768-36F 1155-489 1425-5BD 1471 1473-5C2 1476-5C5 1479 1552-61A 1611-65F 1648 1750-6DC",
     "1759-6E4 1767-6E8 1770-6ED 1809 1840-74A 1958-7B0 2027-7F3 2045 2070-819 2075-823",
     "2085-827 2089-82D 2137-85B 2200-89F 2250-8E1 2275-903 2362-93C 2366-94F 2385-957",
     "2402-963 2433-983 2492 2494-9C4 2503-9C8 2507-9CD 2519 2530-9E3 2558 2561-A03 2620",
     "2622-A42 2631-A48 2635-A4D 2641 2672-A71 2677 2689-A83 2748 2750-AC5 2759-AC9 2763-ACD",
     "2786-AE3 2810-AFF 2817-B03 2876 2878-B44 2887-B48 2891-B4D 2901-B57 2914-B63 2946",
     "3006-BC2 3014-BC8 3018-BCD 3031 3072-C04 3132 3134-C44 3142-C48 3146-C4D 3157-C56",
     "3170-C63 3201-C83 3260 3262-CC4 3270-CC8 3274-CCD 3285-CD6 3298-CE3 3315 3328-D03",
     "3387-D3C 3390-D44 3398-D48 3402-D4D 3415 3426-D63 3457-D83 3530 3535-DD4 3542 3544-DDF",
     "3570-DF3 3633 3636-E3A 3655-E4E 3761 3764-EBC 3784-ECE 3864-F19 3893 3895 3897 3902-F3F",
     "3953-F84 3974-F87 3981-F97 3993-FBC 4038 4139-103E 4182-1059 4190-1060 4194-1064",
     "4199-106D 4209-1074 4226-108D 4239 4250-109D 4957-135F 5906-1715 5938-1734 5970-1753",
     "6002-1773 6068-17D3 6109 6155-180D 6159 6277-1886 6313 6432-192B 6448-193B 6679-1A1B",
     "6741-1A5E 6752-1A7C 6783 6832-1ACE 6912-1B04 6964-1B44 7019-1B73 7040-1B82 7073-1BAD",
     "7142-1BF3 7204-1C37 7376-1CD2 7380-1CE8 7405 7412 7415-1CF9 7616-1DFF 8204 8400-20F0",
     "11503-2CF1 11647 11744-2DFF 12330-302F 12441-309A 42607-A672 42612-A67D 42654-A69F",
     "42736-A6F1 43010 43014 43019 43043-A827 43052 43136-A881 43188-A8C5 43232-A8F1 43263",
     "43302-A92D 43335-A953 43392-A983 43443-A9C0 43493 43561-AA36 43587 43596-AA4D 43643-AA7D",
     "43696 43698-AAB4 43703-AAB8 43710-AABF 43713 43755-AAEF 43765-AAF6 44003-ABEA 44012-ABED",
     "64286 65024-FE0F 65056-FE2F 65438-FF9F 66045 66272 66422-1037A 68097-10A03 68101-10A06",
     "68108-10A0F 68152-10A3A 68159 68325-10AE6 68900-10D27 69291-10EAC 69373-10EFF",
     "69446-10F50 69506-10F85 69632-11002 69688-11046 69744 69747-11074 69759-11082",
     "69808-110BA 69826 69888-11102 69927-11134 69957-11146 70003 70016-11182 70067-111C0",
     "70089-111CC 70094-111CF 70188-11237 70206 70209 70367-112EA 70400-11303 70459-1133C",
     "70462-11344 70471-11348 70475-1134D 70487 70498-11363 70502-1136C 70512-11374",
     "70709-11446 70750 70832-114C3 71087-115B5 71096-115C0 71132-115DD 71216-11640",
     "71339-116B7 71453-1172B 71724-1183A 71984-11935 71991-11938 71995-1193E 72000",
     "72002-11943 72145-119D7 72154-119E0 72164 72193-11A0A 72243-11A39 72251-11A3E 72263",
     "72273-11A5B 72330-11A99 72751-11C36 72760-11C3F 72850-11CA7 72873-11CB6 73009-11D36",
     "73018 73020-11D3D 73023-11D45 73031 73098-11D8E 73104-11D91 73107-11D97 73459-11EF6",
     "73472-11F01 73475 73524-11F3A 73534-11F42 78912 78919-13455 92912-16AF4 92976-16B36",
     "94031 94033-16F87 94095-16F92 94180 94192-16FF1 113821-1BC9E 118528-1CF2D 118576-1CF46",
     "119141-1D169 119149-1D172 119163-1D182 119173-1D18B 119210-1D1AD 119362-1D244",
     "121344-1DA36 121403-1DA6C 121461 121476 121499-1DA9F 121505-1DAAF 122880-1E006",
     "122888-1E018 122907-1E021 122915-1E024 122918-1E02A 123023 123184-1E136 123566",
     "123628-1E2EF 124140-1E4EF 125136-1E8D6 125252-1E94A 127995-1F3FF 917536-E007F",
     "917760-E01EF"]),
  (["ex", "extendnumlet"],
    ["95 8239 8255-2040 8276 65075-FE34 65101-FE4F 65343"]),
  (["fo", "format"],
    ["173 1536-605 1564 1757 1807 2192-891 2274 6158 8206-200F 8234-202E 8288-2064 8294-206F",
     "65279 65529-FFFB 69821 69837 78896-1343F 113824-1BCA3 119155-1D17A 917505"]),
  (["hl", "hebrewletter"],
    ["1488-5EA 1519-5F2 64285 64287-FB28 64298-FB36 64312-FB3C 64318 64320-FB41 64323-FB44",
     "64326-FB4F"]),
  (["ka", "katakana"],
    ["12337-3035 12443-309C 12448-30FA 12540-30FF 12784-31FF 13008-32FE 13056-3357 65382-FF9D",
     "110576-1AFF3 110581-1AFFB 110589-1AFFE 110592 110880-1B122 110933 110948-1B167"]),
  (["lf"],
    ["10"]),
  (["ml", "midletter"],
    ["58 183 903 1375 1524 8231 65043 65109 65306"]),
  (["mn", "midnum"],
    ["44 59 894 1417 1548-60D 1644 2040 8260 65040 65044 65104 65108 65292 65307"]),
  (["mb", "midnumlet"],
    ["46 8216-2019 8228 65106 65287 65294"]),
  (["nl", "newline"],
    ["11-C 133 8232-2029"]),
  (["nu", "numeric"],
    ["48-39 1632-669 1643 1776-6F9 1984-7C9 2406-96F 2534-9EF 2662-A6F 2790-AEF 2918-B6F",
     "3046-BEF 3174-C6F 3302-CEF 3430-D6F 3558-DEF 3664-E59 3792-ED9 3872-F29 4160-1049",
     "4240-1099 6112-17E9 6160-1819 6470-194F 6608-19D9 6784-1A89 6800-1A99 6992-1B59",
     "7088-1BB9 7232-1C49 7248-1C59 42528-A629 43216-A8D9 43264-A909 43472-A9D9 43504-A9F9",
     "43600-AA59 44016-ABF9 65296-FF19 66720-104A9 68912-10D39 69734-1106F 69872-110F9",
     "69942-1113F 70096-111D9 70384-112F9 70736-11459 70864-114D9 71248-11659 71360-116C9",
     "71472-11739 71904-118E9 72016-11959 72784-11C59 73040-11D59 73120-11DA9 73552-11F59",
     "92768-16A69 92864-16AC9 93008-16B59 120782-1D7FF 123200-1E149 123632-1E2F9 124144-1E4F9",
     "125264-1E959 130032-1FBF9"]),
  (["ri", "regionalindicator"],
    ["127462-1F1FF"]),
  (["sq", "singlequote"],
    ["39"]),
  (["wsegspace"],
    ["32 5760 8192-2006 8200-200A 8287 12288"]),
  (["zwj"],
    ["8205"])]

/-- Sentence break classes other than Other. -/
def sentenceBreakTable : List (List String × List String) := [
  (["at", "aterm"],
    ["46 8228 65106 65294"]),
  (["cr"],
    ["13"]),
  (["cl", "close"],
    ["34 39-29 91 93 123 125 171 187 3898-F3D 5787-169C 8216-201F 8249-203A 8261-2046",
     "8317-207E 8333-208E 8968-230B 9001-232A 10075-2760 10088-2775 10181-27C6 10214-27EF",
     "10627-2998 10712-29DB 10748-29FD 11776-2E0D 11804-2E1D 11808-2E29 11842 11861-2E5C",
     "12296-3011 12308-301B 12317-301F 64830-FD3F 65047-FE18 65077-FE44 65095-FE48 65113-FE5E",
     "65288-FF09 65339 65341 65371 65373 65375-FF60 65378-FF63 128630-1F678"]),
  (["ex", "extend"],
    ["768-36F 1155-489 1425-5BD 1471 1473-5C2 1476-5C5 1479 1552-61A 1611-65F 1648 1750-6DC",
     "1759-6E4 1767-6E8 1770-6ED 1809 1840-74A 1958-7B0 2027-7F3 2045 2070-819 2075-823",
     "2085-827 2089-82D 2137-85B 2200-89F 2250-8E1 2275-903 2362-93C 2366-94F 2385-957",
     "2402-963 2433-983 2492 2494-9C4 2503-9C8 2507-9CD 2519 2530-9E3 2558 2561-A03 2620",
     "2622-A42 2631-A48 2635-A4D 2641 2672-A71 2677 2689-A83 2748 2750-AC5 2759-AC9 2763-ACD",
     "2786-AE3 2810-AFF 2817-B03 2876 2878-B44 2887-B48 2891-B4D 2901-B57 2914-B63 2946",
     "3006-BC2 3014-BC8 3018-BCD 3031 3072-C04 3132 3134-C44 3142-C48 3146-C4D 3157-C56",
     "3170-C63 3201-C83 3260 3262-CC4 3270-CC8 3274-CCD 3285-CD6 3298-CE3 3315 3328-D03",
     "3387-D3C 3390-D44 3398-D48 3402-D4D 3415 3426-D63 3457-D83 3530 3535-DD4 3542 3544-DDF",
     "3570-DF3 3633 3636-E3A 3655-E4E 3761 3764-EBC 3784-ECE 3864-F19 3893 3895 3897 3902-F3F",
     "3953-F84 3974-F87 3981-F97 3993-FBC 4038 4139-103E 4182-1059 4190-1060 4194-1064",
     "4199-106D 4209-1074 4226-108D 4239 4250-109D 4957-135F 5906-1715 5938-1734 5970-1753",
     "6002-1773 6068-17D3 6109 6155-180D 6159 6277-1886 6313 6432-192B 6448-193B 6679-1A1B",
     "6741-1A5E 6752-1A7C 6783 6832-1ACE 6912-1B04 6964-1B44 7019-1B73 7040-1B82 7073-1BAD",
     "7142-1BF3 7204-1C37 7376-1CD2 7380-1CE8 7405 7412 7415-1CF9 7616-1DFF 8204-200D",
     "8400-20F0 11503-2CF1 11647 11744-2DFF 12330-302F 12441-309A 42607-A672 42612-A67D",
     "42654-A69F 42736-A6F1 43010 43014 43019 43043-A827 43052 43136-A881 43188-A8C5",
     "43232-A8F1 43263 43302-A92D 43335-A953 43392-A983 43443-A9C0 43493 43561-AA36 43587",
     "43596-AA4D 43643-AA7D 43696 43698-AAB4 43703-AAB8 43710-AABF 43713 43755-AAEF 43765-AAF6",
     "44003-ABEA 44012-ABED 64286 65024-FE0F 65056-FE2F 65438-FF9F 66045 66272 66422-1037A",
     "68097-10A03 68101-10A06 68108-10A0F 68152-10A3A 68159 68325-10AE6 68900-10D27",
     "69291-10EAC 69373-10EFF 69446-10F50 69506-10F85 69632-11002 69688-11046 69744",
     "69747-11074 69759-11082 69808-110BA 69826 69888-11102 69927-11134 69957-11146 70003",
     "70016-11182 70067-111C0 70089-111CC 70094-111CF 70188-11237 70206 70209 70367-112EA",
     "70400-11303 70459-1133C 70462-11344 70471-11348 70475-1134D 70487 70498-11363",
     "70502-1136C 70512-11374 70709-11446 70750 70832-114C3 71087-115B5 71096-115C0",
     "71132-115DD 71216-11640 71339-116B7 71453-1172B 71724-1183A 71984-11935 71991-11938",
     "71995-1193E 72000 72002-11943 72145-119D7 72154-119E0 72164 72193-11A0A 72243-11A39",
     "72251-11A3E 72263 72273-11A5B 72330-11A99 72751-11C36 72760-11C3F 72850-11CA7",
     "72873-11CB6 73009-11D36 73018 73020-11D3D 73023-11D45 73031 73098-11D8E 73104-11D91",
     "73107-11D97 73459-11EF6 73472-11F01 73475 73524-11F3A 73534-11F42 78912 78919-13455",
     "92912-16AF4 92976-16B36 94031 94033-16F87 94095-16F92 94180 94192-16FF1 113821-1BC9E",
     "118528-1CF2D 118576-1CF46 119141-1D169 119149-1D172 119163-1D182 119173-1D18B",
     "119210-1D1AD 119362-1D244 121344-1DA36 121403-1DA6C 121461 121476 121499-1DA9F",
     "121505-1DAAF 122880-1E006 122888-1E018 122907-1E021 122915-1E024 122918-1E02A 123023",
     "123184-1E136 123566 123628-1E2EF 124140-1E4EF 125136-1E8D6 125252-1E94A 917536-E007F",
     "917760-E01EF"]),
  (["fo", "format"],
    ["173 1536-605 1564 1757 1807 2192-891 2274 6158 8203 8206-200F 8234-202E 8288-2064",
     "8294-206F 65279 65529-FFFB 69821 69837 78896-1343F 113824-1BCA3 119155-1D17A 917505"]),
  (["lf"],
    ["10"]),
  (["lo", "lower"],
    ["97-7A 170 181 186 223-F6 248-FF 257 259 261 263 265 267 269 271 273 275 277 279 281 283",
     "285 287 289 291 293 295 297 299 301 303 305 307 309 311-138 314 316 318 320 322 324 326",
     "328-149 331 333 335 337 339 341 343 345 347 349 351 353 355 357 359 361 363 365 367 369",
     "371 373 375 378 380 382-180 387 389 392 396-18D 402 405 409-19B 414 417 419 421 424",
     "426-1AB 429 432 436 438 441-1BA 445-1BF 454 457 460 462 464 466 468 470 472 474 476-1DD",
     "479 481 483 485 487 489 491 493 495-1F0 499 501 505 507 509 511 513 515 517 519 521 523",
     "525 527 529 531 533 535 537 539 541 543 545 547 549 551 553 555 557 559 561 563-239 572",
     "575-240 578 583 585 587 589 591-293 661-2B8 704-2C1 736-2E4 881 883 887 890-37D 912",
     "940-3CE 976-3D1 981-3D7 985 987 989 991 993 995 997 999 1001 1003 1005 1007-3F3 1013",
     "1016 1019-3FC 1072-45F 1121 1123 1125 1127 1129 1131 1133 1135 1137 1139 1141 1143 1145",
     "1147 1149 1151 1153 1163 1165 1167 1169 1171 1173 1175 1177 1179 1181 1183 1185 1187",
     "1189 1191 1193 1195 1197 1199 1201 1203 1205 1207 1209 1211 1213 1215 1218 1220 1222",
     "1224 1226 1228 1230-4CF 1233 1235 1237 1239 1241 1243 1245 1247 1249 1251 1253 1255 1257",
     "1259 1261 1263 1265 1267 1269 1271 1273 1275 1277 1279 1281 1283 1285 1287 1289 1291",
     "1293 1295 1297 1299 1301 1303 1305 1307 1309 1311 1313 1315 1317 1319 1321 1323 1325",
     "1327 1376-588 4348 5112-13FD 7296-1C88 7424-1DBF 7681 7683 7685 7687 7689 7691 7693 7695",
     "7697 7699 7701 7703 7705 7707 7709 7711 7713 7715 7717 7719 7721 7723 7725 7727 7729",
     "7731 7733 7735 7737 7739 7741 7743 7745 7747 7749 7751 7753 7755 7757 7759 7761 7763",
     "7765 7767 7769 7771 7773 7775 7777 7779 7781 7783 7785 7787 7789 7791 7793 7795 7797",
     "7799 7801 7803 7805 7807 7809 7811 7813 7815 7817 7819 7821 7823 7825 7827 7829-1E9D",
     "7839 7841 7843 7845 7847 7849 7851 7853 7855 7857 7859 7861 7863 7865 7867 7869 7871",
     "7873 7875 7877 7879 7881 7883 7885 7887 7889 7891 7893 7895 7897 7899 7901 7903 7905",
     "7907 7909 7911 7913 7915 7917 7919 7921 7923 7925 7927 7929 7931 7933 7935-1F07",
     "7952-1F15 7968-1F27 7984-1F37 8000-1F45 8016-1F57 8032-1F67 8048-1F7D 8064-1F87",
     "8080-1F97 8096-1FA7 8112-1FB4 8118-1FB7 8126 8130-1FC4 8134-1FC7 8144-1FD3 8150-1FD7",
     "8160-1FE7 8178-1FF4 8182-1FF7 8305 8319 8336-209C 8458 8462-210F 8467 8495 8500 8505",
     "8508-213D 8518-2149 8526 8560-217F 8580 9424-24E9 11312-2C5F 11361 11365-2C66 11368",
     "11370 11372 11377 11379-2C74 11382-2C7D 11393 11395 11397 11399 11401 11403 11405 11407",
     "11409 11411 11413 11415 11417 11419 11421 11423 11425 11427 11429 11431 11433 11435",
     "11437 11439 11441 11443 11445 11447 11449 11451 11453 11455 11457 11459 11461 11463",
     "11465 11467 11469 11471 11473 11475 11477 11479 11481 11483 11485 11487 11489 11491-2CE4",
     "11500 11502 11507 11520-2D25 11559 11565 42561 42563 42565 42567 42569 42571 42573 42575",
     "42577 42579 42581 42583 42585 42587 42589 42591 42593 42595 42597 42599 42601 42603",
     "42605 42625 42627 42629 42631 42633 42635 42637 42639 42641 42643 42645 42647 42649",
     "42651-A69D 42787 42789 42791 42793 42795 42797 42799-A731 42803 42805 42807 42809 42811",
     "42813 42815 42817 42819 42821 42823 42825 42827 42829 42831 42833 42835 42837 42839",
     "42841 42843 42845 42847 42849 42851 42853 42855 42857 42859 42861 42863-A778 42874 42876",
     "42879 42881 42883 42885 42887 42892 42894 42897 42899-A795 42903 42905 42907 42909 42911",
     "42913 42915 42917 42919 42921 42927 42933 42935 42937 42939 42941 42943 42945 42947",
     "42952 42954 42961 42963 42965 42967 42969 42994-A7F4 42998 43000-A7FA 43824-AB5A",
     "43868-AB69 43888-ABBF 64256-FB06 64275-FB17 65345-FF5A 66600-1044F 66776-104FB",
     "66967-105A1 66979-105B1 66995-105B9 67003-105BC 67456 67459-10785 67463-107B0",
     "67506-107BA 68800-10CF2 71872-118DF 93792-16E7F 119834-1D433 119886-1D454 119894-1D467",
     "119938-1D49B 119990-1D4B9 119995 119997-1D4C3 120005-1D4CF 120042-1D503 120094-1D537",
     "120146-1D56B 120198-1D59F 120250-1D5D3 120302-1D607 120354-1D63B 120406-1D66F",
     "120458-1D6A5 120514-1D6DA 120540-1D6E1 120572-1D714 120598-1D71B 120630-1D74E",
     "120656-1D755 120688-1D788 120714-1D78F 120746-1D7C2 120772-1D7C9 120779 122624-1DF09",
     "122635-1DF1E 122661-1DF2A 122928-1E06D 125218-1E943"]),
  (["nu", "numeric"],
    ["48-39 1632-669 1643-66C 1776-6F9 1984-7C9 2406-96F 2534-9EF 2662-A6F 2790-AEF 2918-B6F",
     "3046-BEF 3174-C6F 3302-CEF 3430-D6F 3558-DEF 3664-E59 3792-ED9 3872-F29 4160-1049",
     "4240-1099 6112-17E9 6160-1819 6470-194F 6608-19D9 6784-1A89 6800-1A99 6992-1B59",
     "7088-1BB9 7232-1C49 7248-1C59 42528-A629 43216-A8D9 43264-A909 43472-A9D9 43504-A9F9",
     "43600-AA59 44016-ABF9 65296-FF19 66720-104A9 68912-10D39 69734-1106F 69872-110F9",
     "69942-1113F 70096-111D9 70384-112F9 70736-11459 70864-114D9 71248-11659 71360-116C9",
     "71472-11739 71904-118E9 72016-11959 72784-11C59 73040-11D59 73120-11DA9 73552-11F59",
     "92768-16A69 92864-16AC9 93008-16B59 120782-1D7FF 123200-1E149 123632-1E2F9 124144-1E4F9",
     "125264-1E959 130032-1FBF9"]),
  (["le", "oletter"],
    ["443 448-1C3 660 697-2BF 710-2D1 748 750 884 1369 1488-5EA 1519-5F3 1568-64A 1646-66F",
     "1649-6D3 1749 1765-6E6 1774-6EF 1786-6FC 1791 1808 1810-72F 1869-7A5 1969 1994-7EA",
     "2036-7F5 2042 2048-815 2074 2084 2088 2112-858 2144-86A 2160-887 2185-88E 2208-8C9",
     "2308-939 2365 2384 2392-961 2417-980 2437-98C 2447-990 2451-9A8 2474-9B0 2482 2486-9B9",
     "2493 2510 2524-9DD 2527-9E1 2544-9F1 2556 2565-A0A 2575-A10 2579-A28 2602-A30 2610-A33",
     "2613-A36 2616-A39 2649-A5C 2654 2674-A74 2693-A8D 2703-A91 2707-AA8 2730-AB0 2738-AB3",
     "2741-AB9 2749 2768 2784-AE1 2809 2821-B0C 2831-B10 2835-B28 2858-B30 2866-B33 2869-B39",
     "2877 2908-B5D 2911-B61 2929 2947 2949-B8A 2958-B90 2962-B95 2969-B9A 2972 2974-B9F",
     "2979-BA4 2984-BAA 2990-BB9 3024 3077-C0C 3086-C10 3090-C28 3114-C39 3133 3160-C5A 3165",
     "3168-C61 3200 3205-C8C 3214-C90 3218-CA8 3242-CB3 3253-CB9 3261 3293-CDE 3296-CE1",
     "3313-CF2 3332-D0C 3342-D10 3346-D3A 3389 3406 3412-D56 3423-D61 3450-D7F 3461-D96",
     "3482-DB1 3507-DBB 3517 3520-DC6 3585-E30 3634-E33 3648-E46 3713-E82 3716 3718-E8A",
     "3724-EA3 3749 3751-EB0 3762-EB3 3773 3776-EC4 3782 3804-EDF 3840 3904-F47 3913-F6C",
     "3976-F8C 4096-102A 4159 4176-1055 4186-105D 4193 4197-1066 4206-1070 4213-1081 4238",
     "4304-10FA 4349-1248 4682-124D 4688-1256 4696 4698-125D 4704-1288 4746-128D 4752-12B0",
     "4786-12B5 4792-12BE 4800 4802-12C5 4808-12D6 4824-1310 4882-1315 4888-135A 4992-138F",
     "5121-166C 5743-167F 5761-169A 5792-16EA 5870-16F8 5888-1711 5919-1731 5952-1751",
     "5984-176C 5998-1770 6016-17B3 6103 6108 6176-1878 6272-1884 6279-18A8 6314 6320-18F5",
     "6400-191E 6480-196D 6512-1974 6528-19AB 6576-19C9 6656-1A16 6688-1A54 6823 6917-1B33",
     "6981-1B4C 7043-1BA0 7086-1BAF 7098-1BE5 7168-1C23 7245-1C4F 7258-1C7D 7312-1CBA",
     "7357-1CBF 7401-1CEC 7406-1CF3 7413-1CF6 7418 8501-2138 8576-2182 8581-2188 11568-2D67",
     "11631 11648-2D96 11680-2DA6 11688-2DAE 11696-2DB6 11704-2DBE 11712-2DC6 11720-2DCE",
     "11728-2DD6 11736-2DDE 11823 12293-3007 12321-3029 12337-3035 12344-303C 12353-3096",
     "12445-309F 12449-30FA 12540-30FF 12549-312F 12593-318E 12704-31BF 12784-31FF 13312-4DBF",
     "19968-A48C 42192-A4FD 42240-A60C 42512-A61F 42538-A62B 42606 42623 42656-A6EF 42775-A71F",
     "42888 42895 42999 43003-A801 43011-A805 43015-A80A 43020-A822 43072-A873 43138-A8B3",
     "43250-A8F7 43259 43261-A8FE 43274-A925 43312-A946 43360-A97C 43396-A9B2 43471 43488-A9E4",
     "43494-A9EF 43514-A9FE 43520-AA28 43584-AA42 43588-AA4B 43616-AA76 43642 43646-AAAF 43697",
     "43701-AAB6 43705-AABD 43712 43714 43739-AADD 43744-AAEA 43762-AAF4 43777-AB06 43785-AB0E",
     "43793-AB16 43808-AB26 43816-AB2E 43968-ABE2 44032-D7A3 55216-D7C6 55243-D7FB 63744-FA6D",
     "64112-FAD9 64285 64287-FB28 64298-FB36 64312-FB3C 64318 64320-FB41 64323-FB44 64326-FBB1",
     "64467-FD3D 64848-FD8F 64914-FDC7 65008-FDFB 65136-FE74 65142-FEFC 65382-FF9D 65440-FFBE",
     "65474-FFC7 65482-FFCF 65490-FFD7 65498-FFDC 65536-1000B 65549-10026 65576-1003A",
     "65596-1003D 65599-1004D 65616-1005D 65664-100FA 65856-10174 66176-1029C 66208-102D0",
     "66304-1031F 66349-1034A 66384-10375 66432-1039D 66464-103C3 66504-103CF 66513-103D5",
     "66640-1049D 66816-10527 66864-10563 67072-10736 67392-10755 67424-10767 67457-10782",
     "67584-10805 67592 67594-10835 67639-10838 67644 67647-10855 67680-10876 67712-1089E",
     "67808-108F2 67828-108F5 67840-10915 67872-10939 67968-109B7 68030-109BF 68096",
     "68112-10A13 68117-10A17 68121-10A35 68192-10A7C 68224-10A9C 68288-10AC7 68297-10AE4",
     "68352-10B35 68416-10B55 68448-10B72 68480-10B91 68608-10C48 68864-10D23 69248-10EA9",
     "69296-10EB1 69376-10F1C 69415 69424-10F45 69488-10F81 69552-10FC4 69600-10FF6",
     "69635-11037 69745-11072 69749 69763-110AF 69840-110E8 69891-11126 69956 69959",
     "69968-11172 70006 70019-111B2 70081-111C4 70106 70108 70144-11211 70163-1122B",
     "70207-11240 70272-11286 70280 70282-1128D 70287-1129D 70303-112A8 70320-112DE",
     "70405-1130C 70415-11310 70419-11328 70442-11330 70450-11333 70453-11339 70461 70480",
     "70493-11361 70656-11434 70727-1144A 70751-11461 70784-114AF 70852-114C5 70855",
     "71040-115AE 71128-115DB 71168-1162F 71236 71296-116AA 71352 71424-1171A 71488-11746",
     "71680-1182B 71935-11906 71945 71948-11913 71957-11916 71960-1192F 71999 72001",
     "72096-119A7 72106-119D0 72161 72163 72192 72203-11A32 72250 72272 72284-11A89 72349",
     "72368-11AF8 72704-11C08 72714-11C2E 72768 72818-11C8F 72960-11D06 72968-11D09",
     "72971-11D30 73030 73056-11D65 73063-11D68 73066-11D89 73112 73440-11EF2 73474",
     "73476-11F10 73490-11F33 73648 73728-12399 74752-1246E 74880-12543 77712-12FF0",
     "77824-1342F 78913-13446 82944-14646 92160-16A38 92736-16A5E 92784-16ABE 92880-16AED",
     "92928-16B2F 92992-16B43 93027-16B77 93053-16B8F 93952-16F4A 94032 94099-16F9F",
     "94176-16FE1 94179 94208-187F7 100352-18CD5 101632-18D08 110576-1AFF3 110581-1AFFB",
     "110589-1AFFE 110592-1B122 110898 110928-1B152 110933 110948-1B167 110960-1B2FB",
     "113664-1BC6A 113776-1BC7C 113792-1BC88 113808-1BC99 122634 123136-1E12C 123191-1E13D",
     "123214 123536-1E2AD 123584-1E2EB 124112-1E4EB 124896-1E7E6 124904-1E7EB 124909-1E7EE",
     "124912-1E7FE 124928-1E8C4 125259 126464-1EE03 126469-1EE1F 126497-1EE22 126500 126503",
     "126505-1EE32 126516-1EE37 126521 126523 126530 126535 126537 126539 126541-1EE4F",
     "126545-1EE52 126548 126551 126553 126555 126557 126559 126561-1EE62 126564 126567-1EE6A",
     "126572-1EE72 126580-1EE77 126585-1EE7C 126590 126592-1EE89 126603-1EE9B 126625-1EEA3",
     "126629-1EEA9 126635-1EEBB 131072-2A6DF 173824-2B739 177984-2B81D 178208-2CEA1",
     "183984-2EBE0 194560-2FA1D 196608-3134A 201552-323AF"]),
  (["sc", "scontinue"],
    ["44-2D 58 1373 1548-60D 2040 6146 6152 8211-2014 12289 65040-FE11 65043 65073-FE32",
     "65104-FE51 65109 65112 65123 65292-FF0D 65306 65380"]),
  (["st", "sterm"],
    ["33 63 1417 1565-61F 1748 1792-702 2041 2103 2105 2109-83E 2404-965 4170-104B 4962",
     "4967-1368 5742 5941-1736 6147 6153 6468-1945 6824-1AAB 7002-1B5B 7006-1B5F 7037-1B7E",
     "7227-1C3C 7294-1C7F 8252-203D 8263-2049 11822 11836 11859-2E54 12290 42239 42510-A60F",
     "42739 42743 43126-A877 43214-A8CF 43311 43464-A9C9 43613-AA5F 43760-AAF1 44011",
     "65110-FE57 65281 65311 65377 68182-10A57 69461-10F59 69510-10F89 69703-11048 69822-110C1",
     "69953-11143 70085-111C6 70093 70110-111DF 70200-11239 70203-1123C 70313 70731-1144C",
     "71106-115C3 71113-115D7 71233-11642 71484-1173E 72004 72006 72258-11A43 72347-11A9C",
     "72769-11C42 73463-11EF8 73539-11F44 92782-16A6F 92917 92983-16B38 92996 93848 113823",
     "121480"]),
  (["se", "sep"],
    ["133 8232-2029"]),
  (["sp"],
    ["9 11-C 32 160 5760 8192-200A 8239 8287 12288"]),
  (["up", "upper"],
    ["65-5A 192-D6 216-DE 256 258 260 262 264 266 268 270 272 274 276 278 280 282 284 286 288",
     "290 292 294 296 298 300 302 304 306 308 310 313 315 317 319 321 323 325 327 330 332 334",
     "336 338 340 342 344 346 348 350 352 354 356 358 360 362 364 366 368 370 372 374 376-179",
     "379 381 385-182 388 390-187 393-18B 398-191 403-194 406-198 412-19D 415-1A0 418 420",
     "422-1A7 425 428 430-1AF 433-1B3 437 439-1B8 444 452-1C5 455-1C8 458-1CB 461 463 465 467",
     "469 471 473 475 478 480 482 484 486 488 490 492 494 497-1F2 500 502-1F8 506 508 510 512",
     "514 516 518 520 522 524 526 528 530 532 534 536 538 540 542 544 546 548 550 552 554 556",
     "558 560 562 570-23B 573-23E 577 579-246 584 586 588 590 880 882 886 895 902 904-38A 908",
     "910-38F 913-3A1 931-3AB 975 978-3D4 984 986 988 990 992 994 996 998 1000 1002 1004 1006",
     "1012 1015 1017-3FA 1021-42F 1120 1122 1124 1126 1128 1130 1132 1134 1136 1138 1140 1142",
     "1144 1146 1148 1150 1152 1162 1164 1166 1168 1170 1172 1174 1176 1178 1180 1182 1184",
     "1186 1188 1190 1192 1194 1196 1198 1200 1202 1204 1206 1208 1210 1212 1214 1216-4C1 1219",
     "1221 1223 1225 1227 1229 1232 1234 1236 1238 1240 1242 1244 1246 1248 1250 1252 1254",
     "1256 1258 1260 1262 1264 1266 1268 1270 1272 1274 1276 1278 1280 1282 1284 1286 1288",
     "1290 1292 1294 1296 1298 1300 1302 1304 1306 1308 1310 1312 1314 1316 1318 1320 1322",
     "1324 1326 1329-556 4256-10C5 4295 4301 5024-13F5 7680 7682 7684 7686 7688 7690 7692 7694",
     "7696 7698 7700 7702 7704 7706 7708 7710 7712 7714 7716 7718 7720 7722 7724 7726 7728",
     "7730 7732 7734 7736 7738 7740 7742 7744 7746 7748 7750 7752 7754 7756 7758 7760 7762",
     "7764 7766 7768 7770 7772 7774 7776 7778 7780 7782 7784 7786 7788 7790 7792 7794 7796",
     "7798 7800 7802 7804 7806 7808 7810 7812 7814 7816 7818 7820 7822 7824 7826 7828 7838",
     "7840 7842 7844 7846 7848 7850 7852 7854 7856 7858 7860 7862 7864 7866 7868 7870 7872",
     "7874 7876 7878 7880 7882 7884 7886 7888 7890 7892 7894 7896 7898 7900 7902 7904 7906",
     "7908 7910 7912 7914 7916 7918 7920 7922 7924 7926 7928 7930 7932 7934 7944-1F0F",
     "7960-1F1D 7976-1F2F 7992-1F3F 8008-1F4D 8025 8027 8029 8031 8040-1F6F 8072-1F8F",
     "8088-1F9F 8104-1FAF 8120-1FBC 8136-1FCC 8152-1FDB 8168-1FEC 8184-1FFC 8450 8455",
     "8459-210D 8464-2112 8469 8473-211D 8484 8486 8488 8490-212D 8496-2133 8510-213F 8517",
     "8544-216F 8579 9398-24CF 11264-2C2F 11360 11362-2C64 11367 11369 11371 11373-2C70 11378",
     "11381 11390-2C80 11394 11396 11398 11400 11402 11404 11406 11408 11410 11412 11414 11416",
     "11418 11420 11422 11424 11426 11428 11430 11432 11434 11436 11438 11440 11442 11444",
     "11446 11448 11450 11452 11454 11456 11458 11460 11462 11464 11466 11468 11470 11472",
     "11474 11476 11478 11480 11482 11484 11486 11488 11490 11499 11501 11506 42560 42562",
     "42564 42566 42568 42570 42572 42574 42576 42578 42580 42582 42584 42586 42588 42590",
     "42592 42594 42596 42598 42600 42602 42604 42624 42626 42628 42630 42632 42634 42636",
     "42638 42640 42642 42644 42646 42648 42650 42786 42788 42790 42792 42794 42796 42798",
     "42802 42804 42806 42808 42810 42812 42814 42816 42818 42820 42822 42824 42826 42828",
     "42830 42832 42834 42836 42838 42840 42842 42844 42846 42848 42850 42852 42854 42856",
     "42858 42860 42862 42873 42875 42877-A77E 42880 42882 42884 42886 42891 42893 42896 42898",
     "42902 42904 42906 42908 42910 42912 42914 42916 42918 42920 42922-A7AE 42928-A7B4 42934",
     "42936 42938 42940 42942 42944 42946 42948-A7C7 42953 42960 42966 42968 42997 65313-FF3A",
     "66560-10427 66736-104D3 66928-1057A 66940-1058A 66956-10592 66964-10595 68736-10CB2",
     "71840-118BF 93760-16E5F 119808-1D419 119860-1D44D 119912-1D481 119964 119966-1D49F",
     "119970 119973-1D4A6 119977-1D4AC 119982-1D4B5 120016-1D4E9 120068-1D505 120071-1D50A",
     "120077-1D514 120086-1D51C 120120-1D539 120123-1D53E 120128-1D544 120134 120138-1D550",
     "120172-1D585 120224-1D5B9 120276-1D5ED 120328-1D621 120380-1D655 120432-1D689",
     "120488-1D6C0 120546-1D6FA 120604-1D734 120662-1D76E 120720-1D7A8 120778 125184-1E921",
     "127280-1F149 127312-1F169 127344-1F189"])]

end Killfile.Unicode
