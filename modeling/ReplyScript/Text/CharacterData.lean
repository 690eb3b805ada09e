/-! # Characters, as data

What the standard says of characters, in tables that are read where they are needed. A table of runs
is in increasing order, and a run ends where the next one starts; code points without a character
belong to the run that they happen to lie in. Code points are in hexadecimal.
-/

namespace ReplyScript.Text

/-! ## General categories

The runs of code points that share a Unicode general category. A run is written as its first code
point and its category. Two categories in one word alternate, the first of them on the first code
point of the run.
-/

/-- The runs of the general category over all code points, in edition 17.0 of the standard. -/
def categoryRuns : String :=
  "0 Cc 20 Zs 21 Po 24 Sc 25 Po 28 PsPe 2A PoSm 2D Pd 2E Po 30 Nd 3A Po 3C Sm 3F Po 41 Lu 5B PsPo
    5D PeSk 5F PcSk 61 Ll 7B PsSm 7D PeSm 7F Cc A0 ZsPo A2 Sc A6 SoPo A8 SkSo AA LoPi AC SmCf AE
    SoSk B1 Sm B2 No B4 SkLl B6 Po B8 SkNo BA LoPf BC No BF Po C0 Lu D7 Sm D8 Lu DF Ll F7 Sm F8
    Ll 100 LuLl 137 Ll 139 LuLl 148 Ll 14A LuLl 178 Lu 17A LlLu 17E Ll 181 Lu 183 LlLu 186 Lu
    188 Ll 189 Lu 18C Ll 18E Lu 192 Ll 193 Lu 195 Ll 196 Lu 199 Ll 19C Lu 19E Ll 19F Lu 1A1 LlLu
    1A6 Lu 1A8 LlLu 1AA Ll 1AC LuLl 1AE Lu 1B0 Ll 1B1 Lu 1B4 LlLu 1B7 Lu 1B9 Ll 1BB LoLu 1BD Ll
    1C0 Lo 1C4 LuLt 1C6 LlLu 1C8 LtLl 1CA LuLt 1CC LlLu 1DC Ll 1DE LuLl 1EF Ll 1F1 LuLt 1F3 LlLu
    1F6 Lu 1F9 LlLu 233 Ll 23A Lu 23C Ll 23D Lu 23F Ll 241 LuLl 243 Lu 247 LlLu 24F Ll 294 Lo
    295 Ll 2B0 Lm 2C2 Sk 2C6 Lm 2D2 Sk 2E0 Lm 2E5 Sk 2EC LmSk 2EF Sk 300 Mn 370 LuLl 374 LmSk
    376 LuLl 378 Cn 37A Lm 37B Ll 37E PoLu 380 Cn 384 Sk 386 LuPo 388 Lu 38B CnLu 38E Lu 390 Ll
    391 Lu 3A2 Cn 3A3 Lu 3AC Ll 3CF Lu 3D0 Ll 3D2 Lu 3D5 Ll 3D8 LuLl 3EF Ll 3F4 LuLl 3F6 SmLu
    3F8 Ll 3F9 Lu 3FB Ll 3FD Lu 430 Ll 460 LuLl 482 So 483 Mn 488 Me 48A LuLl 4C0 Lu 4C2 LlLu
    4CE Ll 4D0 LuLl 530 Cn 531 Lu 557 Cn 559 Lm 55A Po 560 Ll 589 PoPd 58B Cn 58D So 58F ScCn
    591 Mn 5BE PdMn 5C0 Po 5C1 Mn 5C3 Po 5C4 Mn 5C6 PoMn 5C8 Cn 5D0 Lo 5EB Cn 5EF Lo 5F3 Po 5F5
    Cn 600 Cf 606 Sm 609 Po 60B Sc 60C Po 60E So 610 Mn 61B PoCf 61D Po 620 Lo 640 Lm 641 Lo 64B
    Mn 660 Nd 66A Po 66E Lo 670 Mn 671 Lo 6D4 PoLo 6D6 Mn 6DD CfSo 6DF Mn 6E5 Lm 6E7 Mn 6E9 So
    6EA Mn 6EE Lo 6F0 Nd 6FA Lo 6FD So 6FF Lo 700 Po 70E CnCf 710 LoMn 712 Lo 730 Mn 74B Cn 74D
    Lo 7A6 Mn 7B1 Lo 7B2 Cn 7C0 Nd 7CA Lo 7EB Mn 7F4 Lm 7F6 So 7F7 Po 7FA Lm 7FB Cn 7FD Mn 7FE
    Sc 800 Lo 816 Mn 81A Lm 81B Mn 824 Lm 825 Mn 828 Lm 829 Mn 82E Cn 830 Po 83F Cn 840 Lo 859
    Mn 85C Cn 85E PoCn 860 Lo 86B Cn 870 Lo 888 Sk 889 Lo 890 Cf 892 Cn 897 Mn 8A0 Lo 8C9 Lm 8CA
    Mn 8E2 Cf 8E3 Mn 903 Mc 904 Lo 93A MnMc 93D Lo 93E Mc 941 Mn 949 Mc 94D Mn 94E Mc 950 Lo 951
    Mn 958 Lo 962 Mn 964 Po 966 Nd 970 PoLm 972 Lo 981 Mn 982 Mc 984 Cn 985 Lo 98D Cn 98F Lo 991
    Cn 993 Lo 9A9 Cn 9AA Lo 9B1 CnLo 9B3 Cn 9B6 Lo 9BA Cn 9BC MnLo 9BE Mc 9C1 Mn 9C5 Cn 9C7 Mc
    9C9 Cn 9CB Mc 9CD MnLo 9CF Cn 9D7 Mc 9D8 Cn 9DC Lo 9DE Cn 9DF Lo 9E2 Mn 9E4 Cn 9E6 Nd 9F0 Lo
    9F2 Sc 9F4 No 9FA SoSc 9FC LoPo 9FE Mn 9FF Cn A01 Mn A03 McCn A05 Lo A0B Cn A0F Lo A11 Cn
    A13 Lo A29 Cn A2A Lo A31 Cn A32 Lo A34 Cn A35 Lo A37 Cn A38 Lo A3A Cn A3C MnCn A3E Mc A41 Mn
    A43 Cn A47 Mn A49 Cn A4B Mn A4E Cn A51 Mn A52 Cn A59 Lo A5D CnLo A5F Cn A66 Nd A70 Mn A72 Lo
    A75 MnPo A77 Cn A81 Mn A83 McCn A85 Lo A8E Cn A8F Lo A92 Cn A93 Lo AA9 Cn AAA Lo AB1 Cn AB2
    Lo AB4 Cn AB5 Lo ABA Cn ABC MnLo ABE Mc AC1 Mn AC6 Cn AC7 Mn AC9 McCn ACB Mc ACD Mn ACE Cn
    AD0 Lo AD1 Cn AE0 Lo AE2 Mn AE4 Cn AE6 Nd AF0 PoSc AF2 Cn AF9 Lo AFA Mn B00 CnMn B02 Mc B04
    Cn B05 Lo B0D Cn B0F Lo B11 Cn B13 Lo B29 Cn B2A Lo B31 Cn B32 Lo B34 Cn B35 Lo B3A Cn B3C
    MnLo B3E McMn B41 Mn B45 Cn B47 Mc B49 Cn B4B Mc B4D Mn B4E Cn B55 Mn B57 Mc B58 Cn B5C Lo
    B5E Cn B5F Lo B62 Mn B64 Cn B66 Nd B70 SoLo B72 No B78 Cn B82 MnLo B84 Cn B85 Lo B8B Cn B8E
    Lo B91 Cn B92 Lo B96 Cn B99 Lo B9B CnLo B9E Lo BA0 Cn BA3 Lo BA5 Cn BA8 Lo BAB Cn BAE Lo BBA
    Cn BBE Mc BC0 Mn BC1 Mc BC3 Cn BC6 Mc BC9 Cn BCA Mc BCD Mn BCE Cn BD0 Lo BD1 Cn BD7 Mc BD8
    Cn BE6 Nd BF0 No BF3 So BF9 ScSo BFB Cn C00 Mn C01 Mc C04 Mn C05 Lo C0D Cn C0E Lo C11 Cn C12
    Lo C29 Cn C2A Lo C3A Cn C3C MnLo C3E Mn C41 Mc C45 Cn C46 Mn C49 Cn C4A Mn C4E Cn C55 Mn C57
    Cn C58 Lo C5B Cn C5C Lo C5E Cn C60 Lo C62 Mn C64 Cn C66 Nd C70 Cn C77 Po C78 No C7F SoLo C81
    Mn C82 Mc C84 Po C85 Lo C8D Cn C8E Lo C91 Cn C92 Lo CA9 Cn CAA Lo CB4 Cn CB5 Lo CBA Cn CBC
    MnLo CBE McMn CC0 Mc CC5 CnMn CC7 Mc CC9 Cn CCA Mc CCC Mn CCE Cn CD5 Mc CD7 Cn CDC Lo CDF Cn
    CE0 Lo CE2 Mn CE4 Cn CE6 Nd CF0 Cn CF1 Lo CF3 Mc CF4 Cn D00 Mn D02 Mc D04 Lo D0D Cn D0E Lo
    D11 Cn D12 Lo D3B Mn D3D Lo D3E Mc D41 Mn D45 Cn D46 Mc D49 Cn D4A Mc D4D MnLo D4F So D50 Cn
    D54 Lo D57 Mc D58 No D5F Lo D62 Mn D64 Cn D66 Nd D70 No D79 So D7A Lo D80 CnMn D82 Mc D84 Cn
    D85 Lo D97 Cn D9A Lo DB2 Cn DB3 Lo DBC CnLo DBE Cn DC0 Lo DC7 Cn DCA Mn DCB Cn DCF Mc DD2 Mn
    DD5 CnMn DD8 Mc DE0 Cn DE6 Nd DF0 Cn DF2 Mc DF4 Po DF5 Cn E01 Lo E31 Mn E32 Lo E34 Mn E3B Cn
    E3F Sc E40 Lo E46 Lm E47 Mn E4F Po E50 Nd E5A Po E5C Cn E81 Lo E83 CnLo E86 Lo E8B Cn E8C Lo
    EA4 CnLo EA7 Lo EB1 Mn EB2 Lo EB4 Mn EBD Lo EBE Cn EC0 Lo EC5 CnLm EC8 Mn ECF Cn ED0 Nd EDA
    Cn EDC Lo EE0 Cn F00 Lo F01 So F04 Po F13 SoPo F15 So F18 Mn F1A So F20 Nd F2A No F34 SoMn
    F3A PsPe F3E Mc F40 Lo F48 Cn F49 Lo F6D Cn F71 Mn F7F Mc F80 Mn F85 Po F86 Mn F88 Lo F8D Mn
    F98 Cn F99 Mn FBD Cn FBE So FC6 Mn FC7 So FCD Cn FCE So FD0 Po FD5 So FD9 Po FDB Cn 1000 Lo
    102B Mc 102D Mn 1031 Mc 1032 Mn 1038 Mc 1039 Mn 103B Mc 103D Mn 103F Lo 1040 Nd 104A Po 1050
    Lo 1056 Mc 1058 Mn 105A Lo 105E Mn 1061 Lo 1062 Mc 1065 Lo 1067 Mc 106E Lo 1071 Mn 1075 Lo
    1082 Mn 1083 Mc 1085 Mn 1087 Mc 108D MnLo 108F Mc 1090 Nd 109A Mc 109D Mn 109E So 10A0 Lu
    10C6 CnLu 10C8 Cn 10CD Lu 10CE Cn 10D0 Ll 10FB PoLm 10FD Ll 1100 Lo 1249 Cn 124A Lo 124E Cn
    1250 Lo 1257 CnLo 125A Lo 125E Cn 1260 Lo 1289 Cn 128A Lo 128E Cn 1290 Lo 12B1 Cn 12B2 Lo
    12B6 Cn 12B8 Lo 12BF CnLo 12C2 Lo 12C6 Cn 12C8 Lo 12D7 Cn 12D8 Lo 1311 Cn 1312 Lo 1316 Cn
    1318 Lo 135B Cn 135D Mn 1360 Po 1369 No 137D Cn 1380 Lo 1390 So 139A Cn 13A0 Lu 13F6 Cn 13F8
    Ll 13FE Cn 1400 Pd 1401 Lo 166D SoPo 166F Lo 1680 Zs 1681 Lo 169B PsPe 169D Cn 16A0 Lo 16EB
    Po 16EE Nl 16F1 Lo 16F9 Cn 1700 Lo 1712 Mn 1715 Mc 1716 Cn 171F Lo 1732 Mn 1734 Mc 1735 Po
    1737 Cn 1740 Lo 1752 Mn 1754 Cn 1760 Lo 176D Cn 176E Lo 1771 Cn 1772 Mn 1774 Cn 1780 Lo 17B4
    Mn 17B6 Mc 17B7 Mn 17BE Mc 17C6 Mn 17C7 Mc 17C9 Mn 17D4 Po 17D7 Lm 17D8 Po 17DB ScLo 17DD Mn
    17DE Cn 17E0 Nd 17EA Cn 17F0 No 17FA Cn 1800 Po 1806 Pd 1807 Po 180B Mn 180E CfMn 1810 Nd
    181A Cn 1820 Lo 1843 Lm 1844 Lo 1879 Cn 1880 Lo 1885 Mn 1887 Lo 18A9 MnLo 18AB Cn 18B0 Lo
    18F6 Cn 1900 Lo 191F Cn 1920 Mn 1923 Mc 1927 Mn 1929 Mc 192C Cn 1930 Mc 1932 Mn 1933 Mc 1939
    Mn 193C Cn 1940 So 1941 Cn 1944 Po 1946 Nd 1950 Lo 196E Cn 1970 Lo 1975 Cn 1980 Lo 19AC Cn
    19B0 Lo 19CA Cn 19D0 Nd 19DA No 19DB Cn 19DE So 1A00 Lo 1A17 Mn 1A19 Mc 1A1B Mn 1A1C Cn 1A1E
    Po 1A20 Lo 1A55 McMn 1A58 Mn 1A5F CnMn 1A61 McMn 1A63 Mc 1A65 Mn 1A6D Mc 1A73 Mn 1A7D Cn
    1A7F Mn 1A80 Nd 1A8A Cn 1A90 Nd 1A9A Cn 1AA0 Po 1AA7 Lm 1AA8 Po 1AAE Cn 1AB0 Mn 1ABE Me 1ABF
    Mn 1ADE Cn 1AE0 Mn 1AEC Cn 1B00 Mn 1B04 Mc 1B05 Lo 1B34 MnMc 1B36 Mn 1B3B McMn 1B3D Mc 1B42
    Mn 1B43 Mc 1B45 Lo 1B4D Cn 1B4E Po 1B50 Nd 1B5A Po 1B61 So 1B6B Mn 1B74 So 1B7D Po 1B80 Mn
    1B82 Mc 1B83 Lo 1BA1 Mc 1BA2 Mn 1BA6 Mc 1BA8 Mn 1BAA Mc 1BAB Mn 1BAE Lo 1BB0 Nd 1BBA Lo 1BE6
    MnMc 1BE8 Mn 1BEA Mc 1BED MnMc 1BEF Mn 1BF2 Mc 1BF4 Cn 1BFC Po 1C00 Lo 1C24 Mc 1C2C Mn 1C34
    Mc 1C36 Mn 1C38 Cn 1C3B Po 1C40 Nd 1C4A Cn 1C4D Lo 1C50 Nd 1C5A Lo 1C78 Lm 1C7E Po 1C80 Ll
    1C89 LuLl 1C8B Cn 1C90 Lu 1CBB Cn 1CBD Lu 1CC0 Po 1CC8 Cn 1CD0 Mn 1CD3 Po 1CD4 Mn 1CE1 Mc
    1CE2 Mn 1CE9 Lo 1CED Mn 1CEE Lo 1CF4 Mn 1CF5 Lo 1CF7 Mc 1CF8 Mn 1CFA Lo 1CFB Cn 1D00 Ll 1D2C
    Lm 1D6B Ll 1D78 Lm 1D79 Ll 1D9B Lm 1DC0 Mn 1E00 LuLl 1E95 Ll 1E9E LuLl 1EFF Ll 1F08 Lu 1F10
    Ll 1F16 Cn 1F18 Lu 1F1E Cn 1F20 Ll 1F28 Lu 1F30 Ll 1F38 Lu 1F40 Ll 1F46 Cn 1F48 Lu 1F4E Cn
    1F50 Ll 1F58 CnLu 1F60 Ll 1F68 Lu 1F70 Ll 1F7E Cn 1F80 Ll 1F88 Lt 1F90 Ll 1F98 Lt 1FA0 Ll
    1FA8 Lt 1FB0 Ll 1FB5 Cn 1FB6 Ll 1FB8 Lu 1FBC LtSk 1FBE Ll 1FBF Sk 1FC2 Ll 1FC5 Cn 1FC6 Ll
    1FC8 Lu 1FCC Lt 1FCD Sk 1FD0 Ll 1FD4 Cn 1FD6 Ll 1FD8 Lu 1FDC Cn 1FDD Sk 1FE0 Ll 1FE8 Lu 1FED
    Sk 1FF0 Cn 1FF2 Ll 1FF5 Cn 1FF6 Ll 1FF8 Lu 1FFC Lt 1FFD Sk 1FFF Cn 2000 Zs 200B Cf 2010 Pd
    2016 Po 2018 PiPf 201A Ps 201B Pi 201D PfPs 201F Pi 2020 Po 2028 ZlZp 202A Cf 202F Zs 2030
    Po 2039 PiPf 203B Po 203F Pc 2041 Po 2044 SmPs 2046 Pe 2047 Po 2052 SmPo 2054 Pc 2055 Po
    205F Zs 2060 Cf 2065 Cn 2066 Cf 2070 NoLm 2072 Cn 2074 No 207A Sm 207D PsPe 207F Lm 2080 No
    208A Sm 208D PsPe 208F Cn 2090 Lm 209D Cn 20A0 Sc 20C2 Cn 20D0 Mn 20DD Me 20E1 Mn 20E2 Me
    20E5 Mn 20F1 Cn 2100 So 2102 Lu 2103 So 2107 Lu 2108 So 210A Ll 210B Lu 210E Ll 2110 Lu 2113
    LlSo 2115 Lu 2116 So 2118 Sm 2119 Lu 211E So 2124 LuSo 212A Lu 212E SoLl 2130 Lu 2134 Ll
    2135 Lo 2139 Ll 213A So 213C Ll 213E Lu 2140 Sm 2145 Lu 2146 Ll 214A SoSm 214C So 214E LlSo
    2150 No 2160 Nl 2183 LuLl 2185 Nl 2189 No 218A So 218C Cn 2190 Sm 2195 So 219A Sm 219C So
    21A0 Sm 21A1 So 21A3 Sm 21A4 So 21A6 Sm 21A7 So 21AE Sm 21AF So 21CE Sm 21D0 So 21D2 SmSo
    21D5 So 21F4 Sm 2300 So 2308 PsPe 230C So 2320 Sm 2322 So 2329 PsPe 232B So 237C Sm 237D So
    239B Sm 23B4 So 23DC Sm 23E2 So 242A Cn 2440 So 244B Cn 2460 No 249C So 24EA No 2500 So 25B7
    Sm 25B8 So 25C1 Sm 25C2 So 25F8 Sm 2600 So 266F Sm 2670 So 2768 PsPe 2776 No 2794 So 27C0 Sm
    27C5 PsPe 27C7 Sm 27E6 PsPe 27F0 Sm 2800 So 2900 Sm 2983 PsPe 2999 Sm 29D8 PsPe 29DC Sm 29FC
    PsPe 29FE Sm 2B00 So 2B30 Sm 2B45 So 2B47 Sm 2B4D So 2B74 Cn 2B76 So 2C00 Lu 2C30 Ll 2C60
    LuLl 2C62 Lu 2C65 Ll 2C67 LuLl 2C6D Lu 2C71 LlLu 2C73 Ll 2C75 Lu 2C76 Ll 2C7C Lm 2C7E Lu
    2C81 LlLu 2CE3 Ll 2CE5 So 2CEB LuLl 2CEF Mn 2CF2 LuLl 2CF4 Cn 2CF9 Po 2CFD No 2CFE Po 2D00
    Ll 2D26 CnLl 2D28 Cn 2D2D Ll 2D2E Cn 2D30 Lo 2D68 Cn 2D6F LmPo 2D71 Cn 2D7F Mn 2D80 Lo 2D97
    Cn 2DA0 Lo 2DA7 Cn 2DA8 Lo 2DAF Cn 2DB0 Lo 2DB7 Cn 2DB8 Lo 2DBF Cn 2DC0 Lo 2DC7 Cn 2DC8 Lo
    2DCF Cn 2DD0 Lo 2DD7 Cn 2DD8 Lo 2DDF Cn 2DE0 Mn 2E00 Po 2E02 PiPf 2E06 Po 2E09 PiPf 2E0B
    PoPi 2E0D Pf 2E0E Po 2E17 Pd 2E18 Po 2E1A PdPo 2E1C PiPf 2E1E Po 2E20 PiPf 2E22 PsPe 2E2A Po
    2E2F Lm 2E30 Po 2E3A Pd 2E3C Po 2E40 PdPo 2E42 Ps 2E43 Po 2E50 So 2E52 Po 2E55 PsPe 2E5D Pd
    2E5E Cn 2E80 So 2E9A Cn 2E9B So 2EF4 Cn 2F00 So 2FD6 Cn 2FF0 So 3000 Zs 3001 Po 3004 SoLm
    3006 LoNl 3008 PsPe 3012 So 3014 PsPe 301C PdPs 301E Pe 3020 So 3021 Nl 302A Mn 302E Mc 3030
    Pd 3031 Lm 3036 So 3038 Nl 303B LmLo 303D Po 303E So 3040 Cn 3041 Lo 3097 Cn 3099 Mn 309B Sk
    309D Lm 309F LoPd 30A1 Lo 30FB Po 30FC Lm 30FF Lo 3100 Cn 3105 Lo 3130 Cn 3131 Lo 318F Cn
    3190 So 3192 No 3196 So 31A0 Lo 31C0 So 31E6 Cn 31EF So 31F0 Lo 3200 So 321F Cn 3220 No 322A
    So 3248 No 3250 So 3251 No 3260 So 3280 No 328A So 32B1 No 32C0 So 3400 Lo 4DC0 So 4E00 Lo
    A015 Lm A016 Lo A48D Cn A490 So A4C7 Cn A4D0 Lo A4F8 Lm A4FE Po A500 Lo A60C Lm A60D Po A610
    Lo A620 Nd A62A Lo A62C Cn A640 LuLl A66E LoMn A670 Me A673 Po A674 Mn A67E PoLm A680 LuLl
    A69C Lm A69E Mn A6A0 Lo A6E6 Nl A6F0 Mn A6F2 Po A6F8 Cn A700 Sk A717 Lm A720 Sk A722 LuLl
    A72F Ll A732 LuLl A770 Lm A771 Ll A779 LuLl A77D Lu A77F LlLu A788 Lm A789 Sk A78B LuLl A78F
    LoLu A791 LlLu A793 Ll A796 LuLl A7AA Lu A7AF Ll A7B0 Lu A7B5 LlLu A7C4 Lu A7C8 LlLu A7CB Lu
    A7CD LlLu A7DD Cn A7F1 Lm A7F5 LuLl A7F7 Lo A7F8 Lm A7FA Ll A7FB Lo A802 Mn A803 Lo A806 Mn
    A807 Lo A80B Mn A80C Lo A823 Mc A825 Mn A827 Mc A828 So A82C Mn A82D Cn A830 No A836 So A838
    ScSo A83A Cn A840 Lo A874 Po A878 Cn A880 Mc A882 Lo A8B4 Mc A8C4 Mn A8C6 Cn A8CE Po A8D0 Nd
    A8DA Cn A8E0 Mn A8F2 Lo A8F8 Po A8FB LoPo A8FD Lo A8FF Mn A900 Nd A90A Lo A926 Mn A92E Po
    A930 Lo A947 Mn A952 Mc A954 Cn A95F Po A960 Lo A97D Cn A980 Mn A983 Mc A984 Lo A9B3 Mn A9B4
    Mc A9B6 Mn A9BA Mc A9BC Mn A9BE Mc A9C1 Po A9CE CnLm A9D0 Nd A9DA Cn A9DE Po A9E0 Lo A9E5
    MnLm A9E7 Lo A9F0 Nd A9FA Lo A9FF Cn AA00 Lo AA29 Mn AA2F Mc AA31 Mn AA33 Mc AA35 Mn AA37 Cn
    AA40 Lo AA43 Mn AA44 Lo AA4C MnMc AA4E Cn AA50 Nd AA5A Cn AA5C Po AA60 Lo AA70 Lm AA71 Lo
    AA77 So AA7A LoMc AA7C MnMc AA7E Lo AAB0 MnLo AAB2 Mn AAB5 Lo AAB7 Mn AAB9 Lo AABE Mn AAC0
    LoMn AAC3 Cn AADB Lo AADD Lm AADE Po AAE0 Lo AAEB Mc AAEC Mn AAEE Mc AAF0 Po AAF2 Lo AAF3 Lm
    AAF5 McMn AAF7 Cn AB01 Lo AB07 Cn AB09 Lo AB0F Cn AB11 Lo AB17 Cn AB20 Lo AB27 Cn AB28 Lo
    AB2F Cn AB30 Ll AB5B Sk AB5C Lm AB60 Ll AB69 Lm AB6A Sk AB6C Cn AB70 Ll ABC0 Lo ABE3 Mc ABE5
    Mn ABE6 Mc ABE8 Mn ABE9 Mc ABEB PoMc ABED Mn ABEE Cn ABF0 Nd ABFA Cn AC00 Lo D7A4 Cn D7B0 Lo
    D7C7 Cn D7CB Lo D7FC Cn D800 Cs E000 Co F900 Lo FA6E Cn FA70 Lo FADA Cn FB00 Ll FB07 Cn FB13
    Ll FB18 Cn FB1D LoMn FB1F Lo FB29 Sm FB2A Lo FB37 Cn FB38 Lo FB3D CnLo FB40 Lo FB42 Cn FB43
    Lo FB45 Cn FB46 Lo FBB2 Sk FBC3 So FBD3 Lo FD3E PePs FD40 So FD50 Lo FD90 So FD92 Lo FDC8 So
    FDD0 Cn FDF0 Lo FDFC Sc FDFD So FE00 Mn FE10 Po FE17 PsPe FE19 Po FE1A Cn FE20 Mn FE30 Po
    FE31 Pd FE33 Pc FE35 PsPe FE45 Po FE47 PsPe FE49 Po FE4D Pc FE50 Po FE53 Cn FE54 Po FE58
    PdPs FE5A PePs FE5F Po FE62 SmPd FE64 Sm FE67 CnPo FE69 Sc FE6A Po FE6C Cn FE70 Lo FE75 Cn
    FE76 Lo FEFD Cn FEFF CfCn FF01 Po FF04 Sc FF05 Po FF08 PsPe FF0A PoSm FF0D Pd FF0E Po FF10
    Nd FF1A Po FF1C Sm FF1F Po FF21 Lu FF3B PsPo FF3D PeSk FF3F PcSk FF41 Ll FF5B PsSm FF5D PeSm
    FF5F PsPe FF61 PoPs FF63 Pe FF64 Po FF66 Lo FF70 Lm FF71 Lo FF9E Lm FFA0 Lo FFBF Cn FFC2 Lo
    FFC8 Cn FFCA Lo FFD0 Cn FFD2 Lo FFD8 Cn FFDA Lo FFDD Cn FFE0 Sc FFE2 SmSk FFE4 So FFE5 Sc
    FFE7 CnSo FFE9 Sm FFED So FFEF Cn FFF9 Cf FFFC So FFFE Cn 10000 Lo 1000C Cn 1000D Lo 10027
    Cn 10028 Lo 1003B Cn 1003C Lo 1003E Cn 1003F Lo 1004E Cn 10050 Lo 1005E Cn 10080 Lo 100FB Cn
    10100 Po 10103 Cn 10107 No 10134 Cn 10137 So 10140 Nl 10175 No 10179 So 1018A No 1018C So
    1018F Cn 10190 So 1019D Cn 101A0 So 101A1 Cn 101D0 So 101FD Mn 101FE Cn 10280 Lo 1029D Cn
    102A0 Lo 102D1 Cn 102E0 Mn 102E1 No 102FC Cn 10300 Lo 10320 No 10324 Cn 1032D Lo 10341 Nl
    10342 Lo 1034A Nl 1034B Cn 10350 Lo 10376 Mn 1037B Cn 10380 Lo 1039E CnPo 103A0 Lo 103C4 Cn
    103C8 Lo 103D0 Po 103D1 Nl 103D6 Cn 10400 Lu 10428 Ll 10450 Lo 1049E Cn 104A0 Nd 104AA Cn
    104B0 Lu 104D4 Cn 104D8 Ll 104FC Cn 10500 Lo 10528 Cn 10530 Lo 10564 Cn 1056F Po 10570 Lu
    1057B Cn 1057C Lu 1058B Cn 1058C Lu 10593 Cn 10594 Lu 10596 Cn 10597 Ll 105A2 Cn 105A3 Ll
    105B2 Cn 105B3 Ll 105BA Cn 105BB Ll 105BD Cn 105C0 Lo 105F4 Cn 10600 Lo 10737 Cn 10740 Lo
    10756 Cn 10760 Lo 10768 Cn 10780 Lm 10786 Cn 10787 Lm 107B1 Cn 107B2 Lm 107BB Cn 10800 Lo
    10806 Cn 10808 LoCn 1080A Lo 10836 Cn 10837 Lo 10839 Cn 1083C Lo 1083D Cn 1083F Lo 10856
    CnPo 10858 No 10860 Lo 10877 So 10879 No 10880 Lo 1089F Cn 108A7 No 108B0 Cn 108E0 Lo 108F3
    Cn 108F4 Lo 108F6 Cn 108FB No 10900 Lo 10916 No 1091C Cn 1091F Po 10920 Lo 1093A Cn 1093F Po
    10940 Lo 1095A Cn 10980 Lo 109B8 Cn 109BC No 109BE Lo 109C0 No 109D0 Cn 109D2 No 10A00 Lo
    10A01 Mn 10A04 Cn 10A05 Mn 10A07 Cn 10A0C Mn 10A10 Lo 10A14 Cn 10A15 Lo 10A18 Cn 10A19 Lo
    10A36 Cn 10A38 Mn 10A3B Cn 10A3F Mn 10A40 No 10A49 Cn 10A50 Po 10A59 Cn 10A60 Lo 10A7D No
    10A7F Po 10A80 Lo 10A9D No 10AA0 Cn 10AC0 Lo 10AC8 So 10AC9 Lo 10AE5 Mn 10AE7 Cn 10AEB No
    10AF0 Po 10AF7 Cn 10B00 Lo 10B36 Cn 10B39 Po 10B40 Lo 10B56 Cn 10B58 No 10B60 Lo 10B73 Cn
    10B78 No 10B80 Lo 10B92 Cn 10B99 Po 10B9D Cn 10BA9 No 10BB0 Cn 10C00 Lo 10C49 Cn 10C80 Lu
    10CB3 Cn 10CC0 Ll 10CF3 Cn 10CFA No 10D00 Lo 10D24 Mn 10D28 Cn 10D30 Nd 10D3A Cn 10D40 Nd
    10D4A Lo 10D4E LmLo 10D50 Lu 10D66 Cn 10D69 Mn 10D6E PdLm 10D70 Ll 10D86 Cn 10D8E Sm 10D90
    Cn 10E60 No 10E7F Cn 10E80 Lo 10EAA Cn 10EAB Mn 10EAD Pd 10EAE Cn 10EB0 Lo 10EB2 Cn 10EC2 Lo
    10EC5 Lm 10EC6 Lo 10EC8 Cn 10ED0 Po 10ED1 So 10ED9 Cn 10EFA Mn 10F00 Lo 10F1D No 10F27 Lo
    10F28 Cn 10F30 Lo 10F46 Mn 10F51 No 10F55 Po 10F5A Cn 10F70 Lo 10F82 Mn 10F86 Po 10F8A Cn
    10FB0 Lo 10FC5 No 10FCC Cn 10FE0 Lo 10FF7 Cn 11000 McMn 11003 Lo 11038 Mn 11047 Po 1104E Cn
    11052 No 11066 Nd 11070 Mn 11071 Lo 11073 Mn 11075 Lo 11076 Cn 1107F Mn 11082 Mc 11083 Lo
    110B0 Mc 110B3 Mn 110B7 Mc 110B9 Mn 110BB Po 110BD Cf 110BE Po 110C2 Mn 110C3 Cn 110CD Cf
    110CE Cn 110D0 Lo 110E9 Cn 110F0 Nd 110FA Cn 11100 Mn 11103 Lo 11127 Mn 1112C Mc 1112D Mn
    11135 Cn 11136 Nd 11140 Po 11144 Lo 11145 Mc 11147 Lo 11148 Cn 11150 Lo 11173 Mn 11174 Po
    11176 Lo 11177 Cn 11180 Mn 11182 Mc 11183 Lo 111B3 Mc 111B6 Mn 111BF Mc 111C1 Lo 111C5 Po
    111C9 Mn 111CD PoMc 111CF Mn 111D0 Nd 111DA LoPo 111DD Po 111E0 Cn 111E1 No 111F5 Cn 11200
    Lo 11212 Cn 11213 Lo 1122C Mc 1122F Mn 11232 Mc 11234 MnMc 11236 Mn 11238 Po 1123E Mn 1123F
    Lo 11241 Mn 11242 Cn 11280 Lo 11287 CnLo 1128A Lo 1128E Cn 1128F Lo 1129E Cn 1129F Lo 112A9
    Po 112AA Cn 112B0 Lo 112DF Mn 112E0 Mc 112E3 Mn 112EB Cn 112F0 Nd 112FA Cn 11300 Mn 11302 Mc
    11304 Cn 11305 Lo 1130D Cn 1130F Lo 11311 Cn 11313 Lo 11329 Cn 1132A Lo 11331 Cn 11332 Lo
    11334 Cn 11335 Lo 1133A Cn 1133B Mn 1133D Lo 1133E Mc 11340 Mn 11341 Mc 11345 Cn 11347 Mc
    11349 Cn 1134B Mc 1134E Cn 11350 Lo 11351 Cn 11357 Mc 11358 Cn 1135D Lo 11362 Mc 11364 Cn
    11366 Mn 1136D Cn 11370 Mn 11375 Cn 11380 Lo 1138A CnLo 1138C Cn 1138E LoCn 11390 Lo 113B6
    CnLo 113B8 Mc 113BB Mn 113C1 CnMc 113C3 Cn 113C5 McCn 113C7 Mc 113CB Cn 113CC Mc 113CE MnMc
    113D1 LoMn 113D4 Po 113D6 Cn 113D7 Po 113D9 Cn 113E1 Mn 113E3 Cn 11400 Lo 11435 Mc 11438 Mn
    11440 Mc 11442 Mn 11445 McMn 11447 Lo 1144B Po 11450 Nd 1145A Po 1145C CnPo 1145E Mn 1145F
    Lo 11462 Cn 11480 Lo 114B0 Mc 114B3 Mn 114B9 McMn 114BB Mc 114BF Mn 114C1 Mc 114C2 Mn 114C4
    Lo 114C6 PoLo 114C8 Cn 114D0 Nd 114DA Cn 11580 Lo 115AF Mc 115B2 Mn 115B6 Cn 115B8 Mc 115BC
    Mn 115BE Mc 115BF Mn 115C1 Po 115D8 Lo 115DC Mn 115DE Cn 11600 Lo 11630 Mc 11633 Mn 1163B Mc
    1163D MnMc 1163F Mn 11641 Po 11644 Lo 11645 Cn 11650 Nd 1165A Cn 11660 Po 1166D Cn 11680 Lo
    116AB MnMc 116AE Mc 116B0 Mn 116B6 McMn 116B8 LoPo 116BA Cn 116C0 Nd 116CA Cn 116D0 Nd 116E4
    Cn 11700 Lo 1171B Cn 1171D MnMc 11720 Mc 11722 Mn 11726 Mc 11727 Mn 1172C Cn 11730 Nd 1173A
    No 1173C Po 1173F So 11740 Lo 11747 Cn 11800 Lo 1182C Mc 1182F Mn 11838 Mc 11839 Mn 1183B Po
    1183C Cn 118A0 Lu 118C0 Ll 118E0 Nd 118EA No 118F3 Cn 118FF Lo 11907 Cn 11909 Lo 1190A Cn
    1190C Lo 11914 Cn 11915 Lo 11917 Cn 11918 Lo 11930 Mc 11936 Cn 11937 Mc 11939 Cn 1193B Mn
    1193D McMn 1193F LoMc 11943 Mn 11944 Po 11947 Cn 11950 Nd 1195A Cn 119A0 Lo 119A8 Cn 119AA
    Lo 119D1 Mc 119D4 Mn 119D8 Cn 119DA Mn 119DC Mc 119E0 MnLo 119E2 PoLo 119E4 Mc 119E5 Cn
    11A00 Lo 11A01 Mn 11A0B Lo 11A33 Mn 11A39 McLo 11A3B Mn 11A3F Po 11A47 Mn 11A48 Cn 11A50 Lo
    11A51 Mn 11A57 Mc 11A59 Mn 11A5C Lo 11A8A Mn 11A97 Mc 11A98 Mn 11A9A Po 11A9D Lo 11A9E Po
    11AA3 Cn 11AB0 Lo 11AF9 Cn 11B00 Po 11B0A Cn 11B60 MnMc 11B62 Mn 11B65 McMn 11B68 Cn 11BC0
    Lo 11BE1 Po 11BE2 Cn 11BF0 Nd 11BFA Cn 11C00 Lo 11C09 Cn 11C0A Lo 11C2F Mc 11C30 Mn 11C37 Cn
    11C38 Mn 11C3E McMn 11C40 Lo 11C41 Po 11C46 Cn 11C50 Nd 11C5A No 11C6D Cn 11C70 Po 11C72 Lo
    11C90 Cn 11C92 Mn 11CA8 CnMc 11CAA Mn 11CB1 Mc 11CB2 Mn 11CB4 Mc 11CB5 Mn 11CB7 Cn 11D00 Lo
    11D07 Cn 11D08 Lo 11D0A Cn 11D0B Lo 11D31 Mn 11D37 Cn 11D3A MnCn 11D3C Mn 11D3E Cn 11D3F Mn
    11D46 LoMn 11D48 Cn 11D50 Nd 11D5A Cn 11D60 Lo 11D66 Cn 11D67 Lo 11D69 Cn 11D6A Lo 11D8A Mc
    11D8F Cn 11D90 Mn 11D92 Cn 11D93 Mc 11D95 MnMc 11D98 Lo 11D99 Cn 11DA0 Nd 11DAA Cn 11DB0 Lo
    11DD9 Lm 11DDA Lo 11DDC Cn 11DE0 Nd 11DEA Cn 11EE0 Lo 11EF3 Mn 11EF5 Mc 11EF7 Po 11EF9 Cn
    11F00 Mn 11F02 LoMc 11F04 Lo 11F11 Cn 11F12 Lo 11F34 Mc 11F36 Mn 11F3B Cn 11F3E Mc 11F40
    MnMc 11F43 Po 11F50 Nd 11F5A Cn 11FB0 Lo 11FB1 Cn 11FC0 No 11FD5 So 11FDD Sc 11FE1 So 11FF2
    Cn 11FFF Po 12000 Lo 1239A Cn 12400 Nl 1246F Cn 12470 Po 12475 Cn 12480 Lo 12544 Cn 12F90 Lo
    12FF1 Po 12FF3 Cn 13000 Lo 13430 Cf 13440 Mn 13441 Lo 13447 Mn 13456 Cn 13460 Lo 143FB Cn
    14400 Lo 14647 Cn 16100 Lo 1611E Mn 1612A Mc 1612D Mn 16130 Nd 1613A Cn 16800 Lo 16A39 Cn
    16A40 Lo 16A5F Cn 16A60 Nd 16A6A Cn 16A6E Po 16A70 Lo 16ABF Cn 16AC0 Nd 16ACA Cn 16AD0 Lo
    16AEE Cn 16AF0 Mn 16AF5 Po 16AF6 Cn 16B00 Lo 16B30 Mn 16B37 Po 16B3C So 16B40 Lm 16B44 PoSo
    16B46 Cn 16B50 Nd 16B5A Cn 16B5B No 16B62 Cn 16B63 Lo 16B78 Cn 16B7D Lo 16B90 Cn 16D40 Lm
    16D43 Lo 16D6B Lm 16D6D Po 16D70 Nd 16D7A Cn 16E40 Lu 16E60 Ll 16E80 No 16E97 Po 16E9B Cn
    16EA0 Lu 16EB9 Cn 16EBB Ll 16ED4 Cn 16F00 Lo 16F4B Cn 16F4F MnLo 16F51 Mc 16F88 Cn 16F8F Mn
    16F93 Lm 16FA0 Cn 16FE0 Lm 16FE2 PoLm 16FE4 Mn 16FE5 Cn 16FF0 Mc 16FF2 Lm 16FF4 Nl 16FF7 Cn
    17000 Lo 18CD6 Cn 18CFF Lo 18D1F Cn 18D80 Lo 18DF3 Cn 1AFF0 Lm 1AFF4 Cn 1AFF5 Lm 1AFFC Cn
    1AFFD Lm 1AFFF Cn 1B000 Lo 1B123 Cn 1B132 Lo 1B133 Cn 1B150 Lo 1B153 Cn 1B155 Lo 1B156 Cn
    1B164 Lo 1B168 Cn 1B170 Lo 1B2FC Cn 1BC00 Lo 1BC6B Cn 1BC70 Lo 1BC7D Cn 1BC80 Lo 1BC89 Cn
    1BC90 Lo 1BC9A Cn 1BC9C So 1BC9D Mn 1BC9F Po 1BCA0 Cf 1BCA4 Cn 1CC00 So 1CCF0 Nd 1CCFA So
    1CCFD Cn 1CD00 So 1CEB4 Cn 1CEBA So 1CED1 Cn 1CEE0 So 1CEF0 Sm 1CEF1 Cn 1CF00 Mn 1CF2E Cn
    1CF30 Mn 1CF47 Cn 1CF50 So 1CFC4 Cn 1D000 So 1D0F6 Cn 1D100 So 1D127 Cn 1D129 So 1D165 Mc
    1D167 Mn 1D16A So 1D16D Mc 1D173 Cf 1D17B Mn 1D183 So 1D185 Mn 1D18C So 1D1AA Mn 1D1AE So
    1D1EB Cn 1D200 So 1D242 Mn 1D245 So 1D246 Cn 1D2C0 No 1D2D4 Cn 1D2E0 No 1D2F4 Cn 1D300 So
    1D357 Cn 1D360 No 1D379 Cn 1D400 Lu 1D41A Ll 1D434 Lu 1D44E Ll 1D455 Cn 1D456 Ll 1D468 Lu
    1D482 Ll 1D49C LuCn 1D49E Lu 1D4A0 Cn 1D4A2 Lu 1D4A3 Cn 1D4A5 Lu 1D4A7 Cn 1D4A9 Lu 1D4AD Cn
    1D4AE Lu 1D4B6 Ll 1D4BA CnLl 1D4BD Ll 1D4C4 Cn 1D4C5 Ll 1D4D0 Lu 1D4EA Ll 1D504 Lu 1D506 Cn
    1D507 Lu 1D50B Cn 1D50D Lu 1D515 Cn 1D516 Lu 1D51D Cn 1D51E Ll 1D538 Lu 1D53A Cn 1D53B Lu
    1D53F Cn 1D540 Lu 1D545 CnLu 1D547 Cn 1D54A Lu 1D551 Cn 1D552 Ll 1D56C Lu 1D586 Ll 1D5A0 Lu
    1D5BA Ll 1D5D4 Lu 1D5EE Ll 1D608 Lu 1D622 Ll 1D63C Lu 1D656 Ll 1D670 Lu 1D68A Ll 1D6A6 Cn
    1D6A8 Lu 1D6C1 Sm 1D6C2 Ll 1D6DB Sm 1D6DC Ll 1D6E2 Lu 1D6FB Sm 1D6FC Ll 1D715 Sm 1D716 Ll
    1D71C Lu 1D735 Sm 1D736 Ll 1D74F Sm 1D750 Ll 1D756 Lu 1D76F Sm 1D770 Ll 1D789 Sm 1D78A Ll
    1D790 Lu 1D7A9 Sm 1D7AA Ll 1D7C3 Sm 1D7C4 Ll 1D7CA LuLl 1D7CC Cn 1D7CE Nd 1D800 So 1DA00 Mn
    1DA37 So 1DA3B Mn 1DA6D So 1DA75 Mn 1DA76 So 1DA84 Mn 1DA85 So 1DA87 Po 1DA8C Cn 1DA9B Mn
    1DAA0 Cn 1DAA1 Mn 1DAB0 Cn 1DF00 Ll 1DF0A Lo 1DF0B Ll 1DF1F Cn 1DF25 Ll 1DF2B Cn 1E000 Mn
    1E007 Cn 1E008 Mn 1E019 Cn 1E01B Mn 1E022 Cn 1E023 Mn 1E025 Cn 1E026 Mn 1E02B Cn 1E030 Lm
    1E06E Cn 1E08F Mn 1E090 Cn 1E100 Lo 1E12D Cn 1E130 Mn 1E137 Lm 1E13E Cn 1E140 Nd 1E14A Cn
    1E14E LoSo 1E150 Cn 1E290 Lo 1E2AE Mn 1E2AF Cn 1E2C0 Lo 1E2EC Mn 1E2F0 Nd 1E2FA Cn 1E2FF Sc
    1E300 Cn 1E4D0 Lo 1E4EB Lm 1E4EC Mn 1E4F0 Nd 1E4FA Cn 1E5D0 Lo 1E5EE Mn 1E5F0 Lo 1E5F1 Nd
    1E5FB Cn 1E5FF Po 1E600 Cn 1E6C0 Lo 1E6DF Cn 1E6E0 Lo 1E6E3 Mn 1E6E4 Lo 1E6E6 Mn 1E6E7 Lo
    1E6EE Mn 1E6F0 Lo 1E6F5 Mn 1E6F6 Cn 1E6FE LoLm 1E700 Cn 1E7E0 Lo 1E7E7 Cn 1E7E8 Lo 1E7EC Cn
    1E7ED Lo 1E7EF Cn 1E7F0 Lo 1E7FF Cn 1E800 Lo 1E8C5 Cn 1E8C7 No 1E8D0 Mn 1E8D7 Cn 1E900 Lu
    1E922 Ll 1E944 Mn 1E94B Lm 1E94C Cn 1E950 Nd 1E95A Cn 1E95E Po 1E960 Cn 1EC71 No 1ECAC So
    1ECAD No 1ECB0 Sc 1ECB1 No 1ECB5 Cn 1ED01 No 1ED2E So 1ED2F No 1ED3E Cn 1EE00 Lo 1EE04 Cn
    1EE05 Lo 1EE20 Cn 1EE21 Lo 1EE23 CnLo 1EE25 Cn 1EE27 LoCn 1EE29 Lo 1EE33 Cn 1EE34 Lo 1EE38
    CnLo 1EE3C Cn 1EE42 Lo 1EE43 Cn 1EE47 LoCn 1EE4D Lo 1EE50 Cn 1EE51 Lo 1EE53 CnLo 1EE55 Cn
    1EE57 LoCn 1EE61 Lo 1EE63 CnLo 1EE65 Cn 1EE67 Lo 1EE6B Cn 1EE6C Lo 1EE73 Cn 1EE74 Lo 1EE78
    Cn 1EE79 Lo 1EE7D CnLo 1EE80 Lo 1EE8A Cn 1EE8B Lo 1EE9C Cn 1EEA1 Lo 1EEA4 Cn 1EEA5 Lo 1EEAA
    Cn 1EEAB Lo 1EEBC Cn 1EEF0 Sm 1EEF2 Cn 1F000 So 1F02C Cn 1F030 So 1F094 Cn 1F0A0 So 1F0AF Cn
    1F0B1 So 1F0C0 Cn 1F0C1 So 1F0D0 Cn 1F0D1 So 1F0F6 Cn 1F100 No 1F10D So 1F1AE Cn 1F1E6 So
    1F203 Cn 1F210 So 1F23C Cn 1F240 So 1F249 Cn 1F250 So 1F252 Cn 1F260 So 1F266 Cn 1F300 So
    1F3FB Sk 1F400 So 1F6D9 Cn 1F6DC So 1F6ED Cn 1F6F0 So 1F6FD Cn 1F700 So 1F7DA Cn 1F7E0 So
    1F7EC Cn 1F7F0 So 1F7F1 Cn 1F800 So 1F80C Cn 1F810 So 1F848 Cn 1F850 So 1F85A Cn 1F860 So
    1F888 Cn 1F890 So 1F8AE Cn 1F8B0 So 1F8BC Cn 1F8C0 So 1F8C2 Cn 1F8D0 Sm 1F8D9 Cn 1F900 So
    1FA58 Cn 1FA60 So 1FA6E Cn 1FA70 So 1FA7D Cn 1FA80 So 1FA8B Cn 1FA8E So 1FAC7 CnSo 1FAC9 Cn
    1FACD So 1FADD Cn 1FADF So 1FAEB Cn 1FAEF So 1FAF9 Cn 1FB00 So 1FB93 Cn 1FB94 So 1FBF0 Nd
    1FBFA So 1FBFB Cn 20000 Lo 2A6E0 Cn 2A700 Lo 2B81F Cn 2B820 Lo 2CEAE Cn 2CEB0 Lo 2EBE1 Cn
    2EBF0 Lo 2EE5E Cn 2F800 Lo 2FA1E Cn 30000 Lo 3134B Cn 31350 Lo 3347A Cn E0001 Cf E0002 Cn
    E0020 Cf E0080 Cn E0100 Mn E01F0 Cn F0000 Co FFFFE Cn 100000 Co 10FFFE Cn"

/-! ## Ages

The edition of the standard in which each character came in. A run is written as its first code
point and the edition.
-/

/-- The runs of editions over the code points. -/
def ageRuns : String :=
  "0 1.1 1F6 3.0 1FA 1.1 218 3.0 220 3.2 221 4.0 222 3.0 234 4.0 237 4.1 242 5.0 250 1.1 2A9 3.0
    2AE 4.0 2B0 1.1 2DF 3.0 2E0 1.1 2EA 3.0 2EF 4.0 300 1.1 346 3.0 34F 3.2 350 4.0 358 4.1 35D
    4.0 360 1.1 362 3.0 363 3.2 370 5.1 374 1.1 376 5.1 37A 1.1 37B 5.0 37E 1.1 37F 7.0 384 1.1
    3CF 5.1 3D0 1.1 3D7 3.0 3D8 3.2 3DA 1.1 3DB 3.0 3DC 1.1 3DD 3.0 3DE 1.1 3DF 3.0 3E0 1.1 3E1
    3.0 3E2 1.1 3F4 3.1 3F6 3.2 3F7 4.0 3FC 4.1 400 3.0 401 1.1 40D 3.0 40E 1.1 450 3.0 451 1.1
    45D 3.0 45E 1.1 487 5.1 488 3.0 48A 3.2 48C 3.0 490 1.1 4C5 3.2 4C7 1.1 4C9 3.2 4CB 1.1 4CD
    3.2 4CF 5.0 4D0 1.1 4EC 3.0 4EE 1.1 4F6 4.1 4F8 1.1 4FA 5.0 500 3.2 510 5.0 514 5.1 524 5.2
    526 6.0 528 7.0 531 1.1 560 11.0 561 1.1 588 11.0 589 1.1 58A 3.0 58D 7.0 58F 6.1 591 2.0
    5A2 4.1 5A3 2.0 5B0 1.1 5BA 5.0 5BB 1.1 5C4 2.0 5C5 4.1 5D0 1.1 5EF 11.0 5F0 1.1 600 4.0 604
    6.1 605 7.0 606 5.1 60B 4.1 60C 1.1 60D 4.0 616 5.1 61B 1.1 61C 6.3 61D 14.0 61E 4.1 61F 1.1
    620 6.0 621 1.1 63B 5.1 640 1.1 653 3.0 656 4.0 659 4.1 65F 6.0 660 1.1 66E 3.2 670 1.1 6B8
    3.0 6BA 1.1 6BF 3.0 6C0 1.1 6CF 3.0 6D0 1.1 6EE 4.0 6F0 1.1 6FA 3.0 6FF 4.0 700 3.0 72D 4.0
    730 3.0 74D 4.0 750 4.1 76E 5.1 780 3.0 7B1 3.2 7C0 5.0 7FD 11.0 800 5.2 840 6.0 860 10.0
    870 14.0 88F 17.0 890 14.0 897 16.0 898 14.0 8A0 6.1 8A1 7.0 8A2 6.1 8AD 7.0 8B3 8.0 8B5
    14.0 8B6 9.0 8BE 13.0 8C8 14.0 8D3 11.0 8D4 9.0 8E3 8.0 8E4 6.1 8FF 7.0 900 5.2 901 1.1 904
    4.0 905 1.1 93A 6.0 93C 1.1 94E 5.2 94F 6.0 950 1.1 955 5.2 956 6.0 958 1.1 971 5.1 973 6.0
    978 7.0 979 5.2 97B 5.0 97D 4.1 97E 5.0 980 7.0 981 1.1 9BD 4.0 9BE 1.1 9CE 4.1 9D7 1.1 9FB
    5.2 9FC 10.0 9FE 11.0 A01 4.0 A02 1.1 A03 4.0 A05 1.1 A51 5.1 A59 1.1 A75 5.1 A76 11.0 A81
    1.1 A8C 4.0 A8D 1.1 AE1 4.0 AE6 1.1 AF0 6.1 AF1 4.0 AF9 8.0 AFA 10.0 B01 1.1 B35 4.0 B36 1.1
    B44 5.1 B47 1.1 B55 13.0 B56 1.1 B62 5.1 B66 1.1 B71 4.0 B72 6.0 B82 1.1 BB6 4.1 BB7 1.1 BD0
    5.1 BD7 1.1 BE6 4.1 BE7 1.1 BF3 4.0 C00 7.0 C01 1.1 C04 11.0 C05 1.1 C34 7.0 C35 1.1 C3C
    14.0 C3D 5.1 C3E 1.1 C58 5.1 C5A 8.0 C5C 17.0 C5D 14.0 C60 1.1 C62 5.1 C66 1.1 C77 12.0 C78
    5.1 C80 9.0 C81 7.0 C82 1.1 C84 11.0 C85 1.1 CBC 4.0 CBE 1.1 CDC 17.0 CDD 14.0 CDE 1.1 CE2
    5.0 CE6 1.1 CF1 5.0 CF3 15.0 D00 10.0 D01 7.0 D02 1.1 D04 13.0 D05 1.1 D29 6.0 D2A 1.1 D3A
    6.0 D3B 10.0 D3D 5.1 D3E 1.1 D44 5.1 D46 1.1 D4E 6.0 D4F 9.0 D57 1.1 D58 9.0 D5F 8.0 D60 1.1
    D62 5.1 D66 1.1 D70 5.1 D76 9.0 D79 5.1 D81 13.0 D82 3.0 DE6 7.0 DF2 3.0 E01 1.1 E86 12.0
    E87 1.1 E89 12.0 E8A 1.1 E8C 12.0 E8D 1.1 E8E 12.0 E94 1.1 E98 12.0 E99 1.1 EA0 12.0 EA1 1.1
    EA8 12.0 EAA 1.1 EAC 12.0 EAD 1.1 EBA 12.0 EBB 1.1 ECE 15.0 ED0 1.1 EDE 6.1 F00 2.0 F6A 3.0
    F6B 5.1 F71 2.0 F8C 6.0 F90 2.0 F96 3.0 F97 2.0 FAE 3.0 FB1 2.0 FB8 3.0 FB9 2.0 FBA 3.0 FCE
    5.1 FCF 3.0 FD0 4.1 FD2 5.1 FD5 5.2 FD9 6.0 1000 3.0 1022 5.1 1023 3.0 1028 5.1 1029 3.0
    102B 5.1 102C 3.0 1033 5.1 1036 3.0 103A 5.1 1040 3.0 105A 5.1 109A 5.2 109E 5.1 10A0 1.1
    10C7 6.1 10D0 1.1 10F7 3.2 10F9 4.1 10FB 1.1 10FC 4.1 10FD 6.1 1100 1.1 115A 5.2 115F 1.1
    11A3 5.2 11A8 1.1 11FA 5.2 1200 3.0 1207 4.1 1208 3.0 1247 4.1 1248 3.0 1287 4.1 1288 3.0
    12AF 4.1 12B0 3.0 12CF 4.1 12D0 3.0 12EF 4.1 12F0 3.0 130F 4.1 1310 3.0 131F 4.1 1320 3.0
    1347 4.1 1348 3.0 135D 6.0 135F 4.1 1361 3.0 1380 4.1 13A0 3.0 13F5 8.0 1400 5.2 1401 3.0
    1677 5.2 1680 3.0 16F1 7.0 1700 3.2 170D 14.0 170E 3.2 1715 14.0 1720 3.2 1780 3.0 17DD 4.0
    17E0 3.0 17F0 4.0 1800 3.0 180F 14.0 1810 3.0 1878 11.0 1880 3.0 18AA 5.1 18B0 5.2 1900 4.0
    191D 7.0 1920 4.0 1980 4.1 19AA 5.2 19B0 4.1 19DA 5.2 19DE 4.1 19E0 4.0 1A00 4.1 1A20 5.2
    1AB0 7.0 1ABF 13.0 1AC1 14.0 1ACF 17.0 1B00 5.0 1B4C 14.0 1B4E 16.0 1B50 5.0 1B7D 14.0 1B7F
    16.0 1B80 5.1 1BAB 6.1 1BAE 5.1 1BBA 6.1 1BC0 6.0 1C00 5.1 1C80 9.0 1C89 16.0 1C90 11.0 1CC0
    6.1 1CD0 5.2 1CF3 6.1 1CF7 10.0 1CF8 7.0 1CFA 12.0 1D00 4.0 1D6C 4.1 1DC4 5.0 1DCB 5.1 1DE7
    7.0 1DF6 10.0 1DFA 14.0 1DFB 9.0 1DFC 6.0 1DFD 5.2 1DFE 5.0 1E00 1.1 1E9B 2.0 1E9C 5.1 1EA0
    1.1 1EFA 5.1 1F00 1.1 202F 3.0 2030 1.1 2047 3.2 2048 3.0 204E 3.2 2053 4.0 2055 4.1 2057
    3.2 2058 4.1 205F 3.2 2064 5.1 2066 6.3 206A 1.1 2071 3.2 2074 1.1 2090 4.1 2095 6.0 20A0
    1.1 20AB 2.0 20AC 2.1 20AD 3.0 20B0 3.2 20B2 4.1 20B6 5.2 20B9 6.0 20BA 6.2 20BB 7.0 20BE
    8.0 20BF 10.0 20C0 14.0 20C1 17.0 20D0 1.1 20E2 3.0 20E4 3.2 20EB 4.1 20EC 5.0 20F0 5.1 2100
    1.1 2139 3.0 213B 4.0 213C 4.1 213D 3.2 214C 4.1 214D 5.0 214F 5.1 2150 5.2 2153 1.1 2183
    3.0 2184 5.0 2185 5.1 2189 5.2 218A 8.0 2190 1.1 21EB 3.0 21F4 3.2 2200 1.1 22F2 3.2 2300
    1.1 2301 3.0 2302 1.1 237B 3.0 237C 3.2 237D 3.0 239B 3.2 23CF 4.0 23D1 4.1 23DC 5.0 23E8
    5.2 23E9 6.0 23F4 7.0 23FB 9.0 23FF 10.0 2400 1.1 2425 3.0 2427 16.0 2440 1.1 24EB 3.2 24FF
    4.0 2500 1.1 2596 3.2 25A0 1.1 25F0 3.0 25F8 3.2 2600 1.1 2614 4.0 2616 3.2 2618 4.1 2619
    3.0 261A 1.1 2670 3.0 2672 3.2 267E 4.1 2680 3.2 268A 4.0 2692 4.1 269D 5.1 269E 5.2 26A0
    4.0 26A2 4.1 26B2 5.0 26B3 5.1 26BD 5.2 26C0 5.1 26C4 5.2 26CE 6.0 26CF 5.2 26E2 6.0 26E3
    5.2 26E4 6.0 26E8 5.2 2700 7.0 2701 1.1 2705 6.0 2706 1.1 270A 6.0 270C 1.1 2728 6.0 2729
    1.1 274C 6.0 274D 1.1 274E 6.0 274F 1.1 2753 6.0 2756 1.1 2757 5.2 2758 1.1 275F 6.0 2761
    1.1 2768 3.2 2776 1.1 2795 6.0 2798 1.1 27B0 6.0 27B1 1.1 27BF 6.0 27C0 4.1 27C7 5.0 27CB
    6.1 27CC 5.1 27CD 6.1 27CE 6.0 27D0 3.2 27EC 5.1 27F0 3.2 2800 3.0 2900 3.2 2B00 4.0 2B0E
    4.1 2B14 5.0 2B1B 5.1 2B20 5.0 2B24 5.1 2B4D 7.0 2B50 5.1 2B55 5.2 2B5A 7.0 2B96 17.0 2B97
    13.0 2B98 7.0 2BBA 11.0 2BBD 7.0 2BC9 12.0 2BCA 7.0 2BD2 10.0 2BD3 11.0 2BEC 8.0 2BF0 11.0
    2BFF 12.0 2C00 4.1 2C2F 14.0 2C30 4.1 2C5F 14.0 2C60 5.0 2C6D 5.1 2C70 5.2 2C71 5.1 2C74 5.0
    2C78 5.1 2C7E 5.2 2C80 4.1 2CEB 5.2 2CF2 6.1 2CF9 4.1 2D27 6.1 2D30 4.1 2D66 6.1 2D6F 4.1
    2D70 6.0 2D80 4.1 2DE0 5.1 2E00 4.1 2E18 5.1 2E1C 4.1 2E1E 5.1 2E31 5.2 2E32 6.1 2E3C 7.0
    2E43 9.0 2E45 10.0 2E4A 11.0 2E4F 12.0 2E50 13.0 2E53 14.0 2E80 3.0 2FFC 15.1 3000 1.1 3038
    3.0 303B 3.2 303E 3.0 303F 1.1 3095 3.2 3099 1.1 309F 3.2 30A1 1.1 30FF 3.2 3105 1.1 312D
    5.1 312E 10.0 312F 11.0 3131 1.1 31A0 3.0 31B8 6.0 31BB 13.0 31C0 4.1 31D0 5.1 31E4 16.0
    31EF 15.1 31F0 3.2 3200 1.1 321D 4.0 3220 1.1 3244 5.2 3250 4.0 3251 3.2 3260 1.1 327C 4.0
    327E 4.1 327F 1.1 32B1 3.2 32C0 1.1 32CC 4.0 32D0 1.1 32FF 12.1 3300 1.1 3377 4.0 337B 1.1
    33DE 4.0 33E0 1.1 33FF 4.0 3400 3.0 4DB6 13.0 4DC0 4.0 4E00 1.1 9FA6 4.1 9FBC 5.1 9FC4 5.2
    9FCC 6.1 9FCD 8.0 9FD6 10.0 9FEB 11.0 9FF0 13.0 9FFD 14.0 A000 3.0 A4A2 3.2 A4A4 3.0 A4B4
    3.2 A4B5 3.0 A4C1 3.2 A4C2 3.0 A4C5 3.2 A4C6 3.0 A4D0 5.2 A500 5.1 A660 6.0 A662 5.1 A674
    6.1 A67C 5.1 A698 7.0 A69E 8.0 A69F 6.1 A6A0 5.2 A700 4.1 A717 5.0 A71B 5.1 A720 5.0 A722
    5.1 A78D 6.0 A78F 8.0 A790 6.0 A792 6.1 A794 7.0 A7A0 6.0 A7AA 6.1 A7AB 7.0 A7AE 9.0 A7AF
    11.0 A7B0 7.0 A7B2 8.0 A7B8 11.0 A7BA 12.0 A7C0 14.0 A7C2 12.0 A7C7 13.0 A7CB 16.0 A7CE 17.0
    A7D0 14.0 A7D2 17.0 A7D3 14.0 A7D4 17.0 A7D5 14.0 A7DA 16.0 A7F1 17.0 A7F2 14.0 A7F5 13.0
    A7F7 7.0 A7F8 6.1 A7FA 6.0 A7FB 5.1 A800 4.1 A82C 13.0 A830 5.2 A840 5.0 A880 5.1 A8C5 9.0
    A8CE 5.1 A8E0 5.2 A8FC 8.0 A8FE 11.0 A900 5.1 A960 5.2 A9E0 7.0 AA00 5.1 AA60 5.2 AA7C 7.0
    AA80 5.2 AAE0 6.1 AB01 6.0 AB30 7.0 AB60 8.0 AB64 7.0 AB66 12.0 AB68 13.0 AB70 8.0 ABC0 5.2
    AC00 2.0 D7B0 5.2 D800 2.0 E000 1.1 FA2E 6.1 FA30 3.2 FA6B 5.2 FA70 4.1 FB00 1.1 FB1D 3.0
    FB1E 1.1 FBB2 6.0 FBC2 14.0 FBC3 17.0 FBD3 1.1 FD40 14.0 FD50 1.1 FD90 17.0 FD92 1.1 FDC8
    17.0 FDCF 14.0 FDD0 3.1 FDF0 1.1 FDFC 3.2 FDFD 4.0 FDFE 14.0 FE00 3.2 FE10 4.1 FE20 1.1 FE24
    5.1 FE27 7.0 FE2E 8.0 FE30 1.1 FE45 3.2 FE47 4.0 FE49 1.1 FE73 3.2 FE74 1.1 FF5F 3.2 FF61
    1.1 FFF9 3.0 FFFC 2.1 FFFD 1.1 10000 4.0 10140 4.1 1018B 7.0 1018D 9.0 10190 5.1 1019C 13.0
    101A0 7.0 101D0 5.1 102E0 7.0 10300 3.1 1031F 7.0 10320 3.1 1032D 10.0 10330 3.1 10350 7.0
    10380 4.0 103A0 4.1 10400 3.1 10426 4.0 10428 3.1 1044E 4.0 104B0 9.0 10500 7.0 10570 14.0
    105C0 16.0 10600 7.0 10780 14.0 10800 4.0 10840 5.2 10860 7.0 108E0 8.0 10900 5.0 1091A 5.2
    1091F 5.0 10920 5.1 10940 17.0 10980 6.1 109BC 8.0 109BE 6.1 109C0 8.0 10A00 4.1 10A34 11.0
    10A38 4.1 10A48 11.0 10A50 4.1 10A60 5.2 10A80 7.0 10B00 5.2 10B80 7.0 10C00 5.2 10C80 8.0
    10D00 11.0 10D40 16.0 10E60 5.2 10E80 13.0 10EC2 16.0 10EC5 17.0 10EFC 16.0 10EFD 15.0 10F00
    11.0 10F70 14.0 10FB0 13.0 10FE0 12.0 11000 6.0 11070 14.0 1107F 7.0 11080 5.2 110C2 14.0
    110CD 11.0 110D0 6.1 11144 11.0 11147 13.0 11150 7.0 11180 6.1 111C9 8.0 111CD 7.0 111CE
    13.0 111D0 6.1 111DA 7.0 111DB 8.0 111E1 7.0 1123E 9.0 1123F 15.0 11280 8.0 112B0 7.0 11300
    8.0 11301 7.0 1133B 11.0 1133C 7.0 11350 8.0 11357 7.0 11380 16.0 11400 9.0 1145A 13.0 1145B
    9.0 1145E 11.0 1145F 12.0 11460 13.0 11480 7.0 115CA 8.0 11600 7.0 11660 9.0 11680 6.1 116B8
    12.0 116B9 14.0 116C0 6.1 116D0 16.0 11700 8.0 1171A 11.0 1171D 8.0 11740 14.0 11800 11.0
    118A0 7.0 11900 13.0 119A0 12.0 11A00 10.0 11A84 12.0 11A86 10.0 11A9D 11.0 11A9E 10.0 11AB0
    14.0 11AC0 7.0 11B00 15.0 11B60 17.0 11BC0 16.0 11C00 9.0 11D00 10.0 11D60 11.0 11DB0 17.0
    11EE0 11.0 11F00 15.0 11FB0 13.0 11FC0 12.0 12000 5.0 1236F 7.0 12399 8.0 12400 5.0 12463
    7.0 12470 5.0 12474 7.0 12480 8.0 12F90 14.0 13000 5.2 1342F 15.0 13430 12.0 13439 15.0
    13460 16.0 14400 8.0 16100 16.0 16800 6.0 16A40 7.0 16A70 14.0 16AD0 7.0 16D40 16.0 16E40
    11.0 16EA0 17.0 16F00 6.1 16F45 12.0 16F50 6.1 16F7F 12.0 16F8F 6.1 16FE0 9.0 16FE1 10.0
    16FE2 12.0 16FE4 13.0 16FF2 17.0 17000 9.0 187ED 11.0 187F2 12.0 187F8 17.0 18800 9.0 18AF3
    13.0 18CFF 16.0 18D00 13.0 18D09 17.0 1AFF0 14.0 1B000 6.0 1B002 10.0 1B11F 14.0 1B132 15.0
    1B150 12.0 1B155 15.0 1B164 12.0 1B170 10.0 1BC00 7.0 1CC00 16.0 1CCFA 17.0 1CD00 16.0 1CEBA
    17.0 1CF00 14.0 1D000 3.1 1D129 5.1 1D12A 3.1 1D1DE 8.0 1D1E9 14.0 1D200 4.1 1D2C0 15.0
    1D2E0 11.0 1D300 4.0 1D360 5.0 1D372 11.0 1D400 3.1 1D4C1 4.0 1D4C2 3.1 1D6A4 4.1 1D6A8 3.1
    1D7CA 5.0 1D7CE 3.1 1D800 8.0 1DF00 14.0 1DF25 15.0 1E000 9.0 1E030 15.0 1E100 12.0 1E290
    14.0 1E2C0 12.0 1E4D0 15.0 1E5D0 16.0 1E6C0 17.0 1E7E0 14.0 1E800 7.0 1E900 9.0 1E94B 12.0
    1E950 9.0 1EC71 11.0 1ED01 12.0 1EE00 6.1 1F000 5.1 1F0A0 6.0 1F0BF 7.0 1F0C1 6.0 1F0E0 7.0
    1F100 5.2 1F10B 7.0 1F10D 13.0 1F110 5.2 1F12F 11.0 1F130 6.0 1F131 5.2 1F132 6.0 1F13D 5.2
    1F13E 6.0 1F13F 5.2 1F140 6.0 1F142 5.2 1F143 6.0 1F146 5.2 1F147 6.0 1F14A 5.2 1F14F 6.0
    1F157 5.2 1F158 6.0 1F15F 5.2 1F160 6.0 1F16A 6.1 1F16C 12.0 1F16D 13.0 1F170 6.0 1F179 5.2
    1F17A 6.0 1F17B 5.2 1F17D 6.0 1F17F 5.2 1F180 6.0 1F18A 5.2 1F18E 6.0 1F190 5.2 1F191 6.0
    1F19B 9.0 1F1AD 13.0 1F1E6 6.0 1F200 5.2 1F201 6.0 1F210 5.2 1F232 6.0 1F23B 9.0 1F240 5.2
    1F250 6.0 1F260 10.0 1F300 6.0 1F321 7.0 1F32D 8.0 1F330 6.0 1F336 7.0 1F337 6.0 1F37D 7.0
    1F37E 8.0 1F380 6.0 1F394 7.0 1F3A0 6.0 1F3C5 7.0 1F3C6 6.0 1F3CB 7.0 1F3CF 8.0 1F3D4 7.0
    1F3E0 6.0 1F3F1 7.0 1F3F8 8.0 1F400 6.0 1F43F 7.0 1F440 6.0 1F441 7.0 1F442 6.0 1F4F8 7.0
    1F4F9 6.0 1F4FD 7.0 1F4FF 8.0 1F500 6.0 1F53E 7.0 1F540 6.1 1F544 7.0 1F54B 8.0 1F550 6.0
    1F568 7.0 1F57A 9.0 1F57B 7.0 1F5A4 9.0 1F5A5 7.0 1F5FB 6.0 1F600 6.1 1F601 6.0 1F611 6.1
    1F612 6.0 1F615 6.1 1F616 6.0 1F617 6.1 1F618 6.0 1F619 6.1 1F61A 6.0 1F61B 6.1 1F61C 6.0
    1F61F 6.1 1F620 6.0 1F626 6.1 1F628 6.0 1F62C 6.1 1F62D 6.0 1F62E 6.1 1F630 6.0 1F634 6.1
    1F635 6.0 1F641 7.0 1F643 8.0 1F645 6.0 1F650 7.0 1F680 6.0 1F6C6 7.0 1F6D0 8.0 1F6D1 9.0
    1F6D3 10.0 1F6D5 12.0 1F6D6 13.0 1F6D8 17.0 1F6DC 15.0 1F6DD 14.0 1F6E0 7.0 1F6F4 9.0 1F6F7
    10.0 1F6F9 11.0 1F6FA 12.0 1F6FB 13.0 1F700 6.0 1F774 15.0 1F777 17.0 1F77B 15.0 1F780 7.0
    1F7D5 11.0 1F7D9 15.0 1F7E0 12.0 1F7F0 14.0 1F800 7.0 1F8B0 13.0 1F8B2 16.0 1F8D0 17.0 1F900
    10.0 1F90C 13.0 1F90D 12.0 1F910 8.0 1F919 9.0 1F91F 10.0 1F920 9.0 1F928 10.0 1F930 9.0
    1F931 10.0 1F933 9.0 1F93F 12.0 1F940 9.0 1F94C 10.0 1F94D 11.0 1F950 9.0 1F95F 10.0 1F96C
    11.0 1F971 12.0 1F972 13.0 1F973 11.0 1F977 13.0 1F979 14.0 1F97A 11.0 1F97B 12.0 1F97C 11.0
    1F980 8.0 1F985 9.0 1F992 10.0 1F998 11.0 1F9A3 13.0 1F9A5 12.0 1F9AB 13.0 1F9AE 12.0 1F9B0
    11.0 1F9BA 12.0 1F9C0 8.0 1F9C1 11.0 1F9C3 12.0 1F9CB 13.0 1F9CC 14.0 1F9CD 12.0 1F9D0 10.0
    1F9E7 11.0 1FA00 12.0 1FA54 17.0 1FA60 11.0 1FA70 12.0 1FA74 13.0 1FA75 15.0 1FA78 12.0
    1FA7B 14.0 1FA80 12.0 1FA83 13.0 1FA87 15.0 1FA89 16.0 1FA8A 17.0 1FA8F 16.0 1FA90 12.0
    1FA96 13.0 1FAA9 14.0 1FAAD 15.0 1FAB0 13.0 1FAB7 14.0 1FABB 15.0 1FABE 16.0 1FABF 15.0
    1FAC0 13.0 1FAC3 14.0 1FAC6 16.0 1FAC8 17.0 1FACE 15.0 1FAD0 13.0 1FAD7 14.0 1FADA 15.0
    1FADC 16.0 1FAE0 14.0 1FAE8 15.0 1FAE9 16.0 1FAEA 17.0 1FAF0 14.0 1FAF7 15.0 1FB00 13.0
    1FBCB 16.0 1FBF0 13.0 1FBFA 17.0 1FFFE 2.0 20000 3.1 2A6D7 13.0 2A6DE 14.0 2A700 5.2 2B735
    14.0 2B739 15.0 2B73A 17.0 2B740 6.0 2B81E 17.0 2B820 8.0 2CEA2 17.0 2CEB0 10.0 2EBF0 15.1
    2F800 3.1 2FFFE 2.0 30000 13.0 31350 15.0 323B0 17.0 3FFFE 2.0 E0001 3.1 E0100 4.0 EFFFE 2.0"

/-! ## Scripts

The script of each character. A run is written as its first code point and the four-letter code of
the script. Characters that are used with several scripts are listed with all of them.
-/

def scriptNames : String :=
  "Adlm=Adlam Aghb=Caucasian_Albanian Ahom Arab=Arabic Armi=Imperial_Aramaic Armn=Armenian
    Avst=Avestan Bali=Balinese Bamu=Bamum Bass=Bassa_Vah Batk=Batak Beng=Bengali Bhks=Bhaiksuki
    Bopo=Bopomofo Brah=Brahmi Brai=Braille Bugi=Buginese Buhd=Buhid Cakm=Chakma
    Cans=Canadian_Aboriginal Cari=Carian Cham Cher=Cherokee Chrs=Chorasmian Copt=Coptic=Qaac
    Cpmn=Cypro_Minoan Cprt=Cypriot Cyrl=Cyrillic Deva=Devanagari Diak=Dives_Akuru Dogr=Dogra
    Dsrt=Deseret Dupl=Duployan Egyp=Egyptian_Hieroglyphs Elba=Elbasan Elym=Elymaic Ethi=Ethiopic
    Gara=Garay Geor=Georgian Glag=Glagolitic Gong=Gunjala_Gondi Gonm=Masaram_Gondi Goth=Gothic
    Gran=Grantha Grek=Greek Gujr=Gujarati Gukh=Gurung_Khema Guru=Gurmukhi Hang=Hangul Hani=Han
    Hano=Hanunoo Hatr=Hatran Hebr=Hebrew Hira=Hiragana Hluw=Anatolian_Hieroglyphs
    Hmng=Pahawh_Hmong Hmnp=Nyiakeng_Puachue_Hmong Hrkt=Katakana_Or_Hiragana Hung=Old_Hungarian
    Ital=Old_Italic Java=Javanese Kali=Kayah_Li Kana=Katakana Kawi Khar=Kharoshthi Khmr=Khmer
    Khoj=Khojki Kits=Khitan_Small_Script Knda=Kannada Krai=Kirat_Rai Kthi=Kaithi Lana=Tai_Tham
    Laoo=Lao Latn=Latin Lepc=Lepcha Limb=Limbu Lina=Linear_A Linb=Linear_B Lisu Lyci=Lycian
    Lydi=Lydian Mahj=Mahajani Maka=Makasar Mand=Mandaic Mani=Manichaean Marc=Marchen
    Medf=Medefaidrin Mend=Mende_Kikakui Merc=Meroitic_Cursive Mero=Meroitic_Hieroglyphs
    Mlym=Malayalam Modi Mong=Mongolian Mroo=Mro Mtei=Meetei_Mayek Mult=Multani Mymr=Myanmar
    Nagm=Nag_Mundari Nand=Nandinagari Narb=Old_North_Arabian Nbat=Nabataean Newa Nkoo=Nko
    Nshu=Nushu Ogam=Ogham Olck=Ol_Chiki Onao=Ol_Onal Orkh=Old_Turkic Orya=Oriya Osge=Osage
    Osma=Osmanya Ougr=Old_Uyghur Palm=Palmyrene Pauc=Pau_Cin_Hau Perm=Old_Permic Phag=Phags_Pa
    Phli=Inscriptional_Pahlavi Phlp=Psalter_Pahlavi Phnx=Phoenician Plrd=Miao
    Prti=Inscriptional_Parthian Rjng=Rejang Rohg=Hanifi_Rohingya Runr=Runic Samr=Samaritan
    Sarb=Old_South_Arabian Saur=Saurashtra Sgnw=SignWriting Shaw=Shavian Shrd=Sharada
    Sidd=Siddham Sind=Khudawadi Sinh=Sinhala Sogd=Sogdian Sogo=Old_Sogdian Sora=Sora_Sompeng
    Soyo=Soyombo Sund=Sundanese Sunu=Sunuwar Sylo=Syloti_Nagri Syrc=Syriac Tagb=Tagbanwa
    Takr=Takri Tale=Tai_Le Talu=New_Tai_Lue Taml=Tamil Tang=Tangut Tavt=Tai_Viet Telu=Telugu
    Tfng=Tifinagh Tglg=Tagalog Thaa=Thaana Thai Tibt=Tibetan Tirh=Tirhuta Tnsa=Tangsa
    Todr=Todhri Toto Tutg=Tulu_Tigalari Ugar=Ugaritic Vaii=Vai Vith=Vithkuqi Wara=Warang_Citi
    Wcho=Wancho Xpeo=Old_Persian Xsux=Cuneiform Yezi=Yezidi Yiii=Yi Zanb=Zanabazar_Square
    Zinh=Inherited=Qaai Zyyy=Common Zzzz=Unknown"

def scriptRuns : String :=
  "0 Zyyy 41 Latn 5B Zyyy 61 Latn 7B Zyyy AA Latn AB Zyyy BA Latn BB Zyyy C0 Latn D7 Zyyy D8 Latn
    F7 Zyyy F8 Latn 2B9 Zyyy 2E0 Latn 2E5 Zyyy 2EA Bopo 2EC Zyyy 300 Zinh 370 Grek 374 Zyyy 375
    Grek 37E Zyyy 37F Grek 385 Zyyy 386 Grek 387 Zyyy 388 Grek 3E2 Copt 3F0 Grek 400 Cyrl 485
    Zinh 487 Cyrl 531 Armn 591 Hebr 600 Arab 605 Zyyy 606 Arab 60C Zyyy 60D Arab 61B Zyyy 61C
    Arab 61F Zyyy 620 Arab 640 Zyyy 641 Arab 64B Zinh 656 Arab 670 Zinh 671 Arab 6DD Zyyy 6DE
    Arab 700 Syrc 750 Arab 780 Thaa 7C0 Nkoo 800 Samr 840 Mand 860 Syrc 870 Arab 8E2 Zyyy 8E3
    Arab 900 Deva 951 Zinh 955 Deva 964 Zyyy 966 Deva 980 Beng A01 Guru A81 Gujr B01 Orya B82
    Taml C00 Telu C80 Knda D00 Mlym D81 Sinh E01 Thai E3F Zyyy E40 Thai E81 Laoo F00 Tibt FD5
    Zyyy FD9 Tibt 1000 Mymr 10A0 Geor 10FB Zyyy 10FC Geor 1100 Hang 1200 Ethi 13A0 Cher 1400
    Cans 1680 Ogam 16A0 Runr 16EB Zyyy 16EE Runr 1700 Tglg 1720 Hano 1735 Zyyy 1740 Buhd 1760
    Tagb 1780 Khmr 1800 Mong 1802 Zyyy 1804 Mong 1805 Zyyy 1806 Mong 18B0 Cans 1900 Limb 1950
    Tale 1980 Talu 19E0 Khmr 1A00 Bugi 1A20 Lana 1AB0 Zinh 1B00 Bali 1B80 Sund 1BC0 Batk 1C00
    Lepc 1C50 Olck 1C80 Cyrl 1C90 Geor 1CC0 Sund 1CD0 Zinh 1CD3 Zyyy 1CD4 Zinh 1CE1 Zyyy 1CE2
    Zinh 1CE9 Zyyy 1CED Zinh 1CEE Zyyy 1CF4 Zinh 1CF5 Zyyy 1CF8 Zinh 1CFA Zyyy 1D00 Latn 1D26
    Grek 1D2B Cyrl 1D2C Latn 1D5D Grek 1D62 Latn 1D66 Grek 1D6B Latn 1D78 Cyrl 1D79 Latn 1DBF
    Grek 1DC0 Zinh 1E00 Latn 1F00 Grek 2000 Zyyy 200C Zinh 200E Zyyy 2071 Latn 2074 Zyyy 207F
    Latn 2080 Zyyy 2090 Latn 20A0 Zyyy 20D0 Zinh 2100 Zyyy 2126 Grek 2127 Zyyy 212A Latn 212C
    Zyyy 2132 Latn 2133 Zyyy 214E Latn 214F Zyyy 2160 Latn 2189 Zyyy 2800 Brai 2900 Zyyy 2C00
    Glag 2C60 Latn 2C80 Copt 2D00 Geor 2D30 Tfng 2D80 Ethi 2DE0 Cyrl 2E00 Zyyy 2E80 Hani 2FF0
    Zyyy 3005 Hani 3006 Zyyy 3007 Hani 3008 Zyyy 3021 Hani 302A Zinh 302E Hang 3030 Zyyy 3038
    Hani 303C Zyyy 3041 Hira 3099 Zinh 309B Zyyy 309D Hira 30A0 Zyyy 30A1 Kana 30FB Zyyy 30FD
    Kana 3105 Bopo 3131 Hang 3190 Zyyy 31A0 Bopo 31C0 Zyyy 31F0 Kana 3200 Hang 3220 Zyyy 3260
    Hang 327F Zyyy 32D0 Kana 32FF Zyyy 3300 Kana 3358 Zyyy 3400 Hani 4DC0 Zyyy 4E00 Hani A000
    Yiii A4D0 Lisu A500 Vaii A640 Cyrl A6A0 Bamu A700 Zyyy A722 Latn A788 Zyyy A78B Latn A800
    Sylo A830 Zyyy A840 Phag A880 Saur A8E0 Deva A900 Kali A92E Zyyy A92F Kali A930 Rjng A960
    Hang A980 Java A9CF Zyyy A9D0 Java A9E0 Mymr AA00 Cham AA60 Mymr AA80 Tavt AAE0 Mtei AB01
    Ethi AB30 Latn AB5B Zyyy AB5C Latn AB65 Grek AB66 Latn AB6A Zyyy AB70 Cher ABC0 Mtei AC00
    Hang F900 Hani FB00 Latn FB13 Armn FB1D Hebr FB50 Arab FD3E Zyyy FD40 Arab FE00 Zinh FE10
    Zyyy FE20 Zinh FE2E Cyrl FE30 Zyyy FE70 Arab FEFF Zyyy FF21 Latn FF3B Zyyy FF41 Latn FF5B
    Zyyy FF66 Kana FF70 Zyyy FF71 Kana FF9E Zyyy FFA0 Hang FFE0 Zyyy 10000 Linb 10100 Zyyy 10140
    Grek 10190 Zyyy 101A0 Grek 101D0 Zyyy 101FD Zinh 10280 Lyci 102A0 Cari 102E0 Zinh 102E1 Zyyy
    10300 Ital 10330 Goth 10350 Perm 10380 Ugar 103A0 Xpeo 10400 Dsrt 10450 Shaw 10480 Osma
    104B0 Osge 10500 Elba 10530 Aghb 10570 Vith 105C0 Todr 10600 Lina 10780 Latn 10800 Cprt
    10840 Armi 10860 Palm 10880 Nbat 108E0 Hatr 10900 Phnx 10920 Lydi 10940 Sidt 10980 Mero
    109A0 Merc 10A00 Khar 10A60 Sarb 10A80 Narb 10AC0 Mani 10B00 Avst 10B40 Prti 10B60 Phli
    10B80 Phlp 10C00 Orkh 10C80 Hung 10D00 Rohg 10D40 Gara 10E60 Arab 10E80 Yezi 10EC2 Arab
    10F00 Sogo 10F30 Sogd 10F70 Ougr 10FB0 Chrs 10FE0 Elym 11000 Brah 11080 Kthi 110D0 Sora
    11100 Cakm 11150 Mahj 11180 Shrd 111E1 Sinh 11200 Khoj 11280 Mult 112B0 Sind 11300 Gran
    1133B Zinh 1133C Gran 11380 Tutg 11400 Newa 11480 Tirh 11580 Sidd 11600 Modi 11660 Mong
    11680 Takr 116D0 Mymr 11700 Ahom 11800 Dogr 118A0 Wara 11900 Diak 119A0 Nand 11A00 Zanb
    11A50 Soyo 11AB0 Cans 11AC0 Pauc 11B00 Deva 11B60 Shrd 11BC0 Sunu 11C00 Bhks 11C70 Marc
    11D00 Gonm 11D60 Gong 11DB0 Tols 11EE0 Maka 11F00 Kawi 11FB0 Lisu 11FC0 Taml 12000 Xsux
    12F90 Cpmn 13000 Egyp 14400 Hluw 16100 Gukh 16800 Bamu 16A40 Mroo 16A70 Tnsa 16AD0 Bass
    16B00 Hmng 16D40 Krai 16E40 Medf 16EA0 Berf 16F00 Plrd 16FE0 Tang 16FE1 Nshu 16FE2 Hani
    16FE4 Kits 16FF0 Hani 17000 Tang 18B00 Kits 18D00 Tang 1AFF0 Kana 1B001 Hira 1B120 Kana
    1B132 Hira 1B155 Kana 1B170 Nshu 1BC00 Dupl 1BCA0 Zyyy 1CF00 Zinh 1CF50 Zyyy 1D167 Zinh
    1D16A Zyyy 1D17B Zinh 1D183 Zyyy 1D185 Zinh 1D18C Zyyy 1D1AA Zinh 1D1AE Zyyy 1D200 Grek
    1D2C0 Zyyy 1D800 Sgnw 1DF00 Latn 1E000 Glag 1E030 Cyrl 1E100 Hmnp 1E290 Toto 1E2C0 Wcho
    1E4D0 Nagm 1E5D0 Onao 1E6C0 Tayo 1E7E0 Ethi 1E800 Mend 1E900 Adlm 1EC71 Zyyy 1EE00 Arab
    1F000 Zyyy 1F200 Hira 1F201 Zyyy 20000 Hani E0001 Zyyy E0100 Zinh"

/-- The ranges of characters that are used with other scripts than their own. -/
def sharedScripts : String :=
  "B7 Avst+Cari+Copt+Dupl+Elba+Geor+Glag+Gong+Goth+Grek+Hani+Latn+Lydi+Mahj+Perm+Shaw 2BC
    Beng+Cyrl+Deva+Latn+Lisu+Thai+Toto 2C7 Bopo+Latn 2C9-2CB Bopo+Latn 2CD Latn+Lisu 2D7
    Latn+Thai 2D9 Bopo+Latn 300 Cher+Copt+Cyrl+Grek+Latn+Perm+Sunu+Tale 301
    Cher+Cyrl+Grek+Latn+Osge+Sunu+Tale+Todr 302 Cher+Cyrl+Latn+Tfng 303 Glag+Latn+Sunu+Syrc+Thai
    304 Aghb+Cher+Copt+Cyrl+Goth+Grek+Latn+Osge+Syrc+Tfng+Todr 305 Copt+Elba+Glag+Goth+Kana+Latn
    306 Cyrl+Grek+Latn+Perm 307 Copt+Dupl+Hebr+Latn+Perm+Syrc+Tale+Tfng+Todr 308
    Armn+Cyrl+Dupl+Goth+Grek+Hebr+Latn+Perm+Syrc+Tale 309 Latn+Tfng 30A Dupl+Latn+Syrc 30B
    Cher+Cyrl+Latn+Osge 30C Cher+Latn+Tale 30D Latn+Sunu 30E Ethi+Latn 310 Latn+Sunu 311
    Cyrl+Latn+Todr 313 Grek+Latn+Perm+Todr 320 Latn+Syrc 323 Cher+Dupl+Kana+Latn+Syrc 324
    Cher+Dupl+Latn+Syrc 325 Latn+Syrc 32D Latn+Sunu+Syrc 32E Latn+Syrc 330 Cher+Latn+Syrc 331
    Aghb+Cher+Goth+Latn+Sunu+Thai 342 Grek 345 Grek 358 Latn+Osge 35E Aghb+Latn+Todr 363-36F
    Latn 483 Cyrl+Perm 484 Cyrl+Glag 485-486 Cyrl+Latn 487 Cyrl+Glag 60C
    Arab+Nkoo+Rohg+Syrc+Thaa+Yezi 61B Arab+Nkoo+Rohg+Syrc+Thaa+Yezi 61C Arab+Syrc+Thaa 61F
    Adlm+Arab+Nkoo+Rohg+Syrc+Thaa+Yezi 640 Adlm+Arab+Mand+Mani+Ougr+Phlp+Rohg+Sogd+Syrc 64B-655
    Arab+Syrc 660-669 Arab+Thaa+Yezi 670 Arab+Syrc 6D4 Arab+Rohg 951
    Beng+Deva+Gran+Gujr+Guru+Knda+Latn+Mlym+Orya+Shrd+Taml+Telu+Tirh 952
    Beng+Deva+Gran+Gujr+Guru+Knda+Latn+Mlym+Orya+Taml+Telu+Tirh 964
    Beng+Deva+Dogr+Gong+Gonm+Gran+Gujr+Guru+Knda+Mahj+Mlym+Nand+Orya+Sind+Sinh+Sylo+Takr+Taml+Telu+Tirh
    965
    Beng+Deva+Dogr+Gong+Gonm+Gran+Gujr+Guru+Knda+Limb+Mahj+Mlym+Nand+Orya+Sind+Sinh+Sylo+Takr+Taml+Telu+Tirh
    966-96F Deva+Dogr+Kthi+Mahj 9E6-9EF Beng+Cakm+Sylo A66-A6F Guru+Mult AE6-AEF Gujr+Khoj
    BE6-BF3 Gran+Taml CE6-CEF Knda+Nand 1040-1049 Cakm+Mymr+Tale 10FB Geor+Latn 1735-1736
    Buhd+Hano+Tagb+Tglg 1802-1803 Mong+Phag 1805 Mong+Phag 1CD0 Beng+Deva+Gran+Knda 1CD1 Deva
    1CD2 Beng+Deva+Gran+Knda 1CD3 Deva+Gran 1CD4 Deva 1CD5-1CD6 Beng+Deva 1CD7 Deva+Shrd 1CD8
    Beng+Deva 1CD9 Deva+Shrd 1CDA Deva+Knda+Mlym+Orya+Taml+Telu 1CDB Deva 1CDC-1CDD Deva+Shrd
    1CDE-1CDF Deva 1CE0 Deva+Shrd 1CE1 Beng+Deva 1CE2-1CE8 Deva 1CE9 Deva+Nand 1CEA Beng+Deva
    1CEB-1CEC Deva 1CED Beng+Deva 1CEE-1CF1 Deva 1CF2 Beng+Deva+Gran+Knda+Nand+Orya+Telu+Tirh
    1CF3 Deva+Gran 1CF4 Deva+Gran+Knda 1CF5-1CF6 Beng+Deva 1CF7 Beng 1CF8-1CF9 Deva+Gran 1CFA
    Nand 1DC0-1DC1 Grek 1DF8 Cyrl+Syrc 1DFA Syrc 202F Latn+Mong 20F0 Deva+Gran+Latn 2E43
    Cyrl+Glag 2FF0-2FFF Hani+Tang 3001-3002 Bopo+Hang+Hani+Hira+Kana+Yiii 3003
    Bopo+Hang+Hani+Hira+Kana 3006 Hani 3008-3011 Bopo+Hang+Hani+Hira+Kana+Yiii 3013
    Bopo+Hang+Hani+Hira+Kana 3014-301B Bopo+Hang+Hani+Hira+Kana+Yiii 301C-301F
    Bopo+Hang+Hani+Hira+Kana 302A-302D Bopo+Hani 3030 Bopo+Hang+Hani+Hira+Kana 3031-3035
    Hira+Kana 3037 Bopo+Hang+Hani+Hira+Kana 303C-303D Hani+Hira+Kana 303E-303F Hani 3099-309C
    Hira+Kana 30A0 Hira+Kana 30FB Bopo+Hang+Hani+Hira+Kana+Yiii 30FC Hira+Kana 3190-319F Hani
    31C0-31E5 Hani 31EF Hani+Tang 3220-3247 Hani 3280-32B0 Hani 32C0-32CB Hani 32FF Hani
    3358-3370 Hani 337B-337F Hani 33E0-33FE Hani A66F Cyrl+Glag A700-A707 Hani+Latn A830-A832
    Deva+Dogr+Gujr+Guru+Khoj+Knda+Kthi+Mahj+Mlym+Modi+Nand+Sind+Takr+Tirh A833-A835
    Deva+Dogr+Gujr+Guru+Khoj+Knda+Kthi+Mahj+Modi+Nand+Sind+Takr+Tirh A836-A839
    Deva+Dogr+Gujr+Guru+Khoj+Kthi+Mahj+Modi+Sind+Takr+Tirh A8F1 Beng+Deva A8F3 Deva+Taml A92E
    Kali+Latn+Mymr A9CF Bugi+Java FD3E-FD3F Arab+Nkoo FDF2 Arab+Thaa FDFD Arab+Thaa FE45-FE46
    Bopo+Hang+Hani+Hira+Kana FF61-FF65 Bopo+Hang+Hani+Hira+Kana+Yiii FF70 Hira+Kana FF9E-FF9F
    Hira+Kana 10100-10101 Cpmn+Cprt+Linb 10102 Cprt+Linb 10107-10133 Cprt+Lina+Linb 10137-1013F
    Cprt+Linb 102E0-102FB Arab+Copt 10AF2 Mani+Ougr 11301 Gran+Taml 11303 Gran+Taml 1133B-1133C
    Gran+Taml 11FD0-11FD1 Gran+Taml 11FD3 Gran+Taml 1BCA0-1BCA3 Dupl 1D360-1D371 Hani
    1F250-1F251 Hani"

/-! ## Simple case folding

The characters that fold to another character, in runs with a common distance. A run is written as
its first and last code point, the step between its members and, in decimal, the distance to their
foldings.
-/

def caseFoldRuns : String :=
  "41 5A 1 32 B5 B5 1 775 C0 D6 1 32 D8 DE 1 32 100 12E 2 1 132 136 2 1 139 147 2 1 14A 176 2 1 178
    178 1 -121 179 17D 2 1 17F 17F 1 -268 181 181 1 210 182 184 2 1 186 186 1 206 187 187 1 1
    189 18A 1 205 18B 18B 1 1 18E 18E 1 79 18F 18F 1 202 190 190 1 203 191 191 1 1 193 193 1 205
    194 194 1 207 196 196 1 211 197 197 1 209 198 198 1 1 19C 19C 1 211 19D 19D 1 213 19F 19F 1
    214 1A0 1A4 2 1 1A6 1A6 1 218 1A7 1A7 1 1 1A9 1A9 1 218 1AC 1AC 1 1 1AE 1AE 1 218 1AF 1AF 1
    1 1B1 1B2 1 217 1B3 1B5 2 1 1B7 1B7 1 219 1B8 1B8 1 1 1BC 1BC 1 1 1C4 1C4 1 2 1C5 1C5 1 1
    1C7 1C7 1 2 1C8 1C8 1 1 1CA 1CA 1 2 1CB 1DB 2 1 1DE 1EE 2 1 1F1 1F1 1 2 1F2 1F4 2 1 1F6 1F6
    1 -97 1F7 1F7 1 -56 1F8 21E 2 1 220 220 1 -130 222 232 2 1 23A 23A 1 10795 23B 23B 1 1 23D
    23D 1 -163 23E 23E 1 10792 241 241 1 1 243 243 1 -195 244 244 1 69 245 245 1 71 246 24E 2 1
    345 345 1 116 370 372 2 1 376 376 1 1 37F 37F 1 116 386 386 1 38 388 38A 1 37 38C 38C 1 64
    38E 38F 1 63 391 3A1 1 32 3A3 3AB 1 32 3C2 3C2 1 1 3CF 3CF 1 8 3D0 3D0 1 -30 3D1 3D1 1 -25
    3D5 3D5 1 -15 3D6 3D6 1 -22 3D8 3EE 2 1 3F0 3F0 1 -54 3F1 3F1 1 -48 3F4 3F4 1 -60 3F5 3F5 1
    -64 3F7 3F7 1 1 3F9 3F9 1 -7 3FA 3FA 1 1 3FD 3FF 1 -130 400 40F 1 80 410 42F 1 32 460 480 2
    1 48A 4BE 2 1 4C0 4C0 1 15 4C1 4CD 2 1 4D0 52E 2 1 531 556 1 48 10A0 10C5 1 7264 10C7 10C7 1
    7264 10CD 10CD 1 7264 13F8 13FD 1 -8 1C80 1C80 1 -6222 1C81 1C81 1 -6221 1C82 1C82 1 -6212
    1C83 1C84 1 -6210 1C85 1C85 1 -6211 1C86 1C86 1 -6204 1C87 1C87 1 -6180 1C88 1C88 1 35267
    1C89 1C89 1 1 1C90 1CBA 1 -3008 1CBD 1CBF 1 -3008 1E00 1E94 2 1 1E9B 1E9B 1 -58 1E9E 1E9E 1
    -7615 1EA0 1EFE 2 1 1F08 1F0F 1 -8 1F18 1F1D 1 -8 1F28 1F2F 1 -8 1F38 1F3F 1 -8 1F48 1F4D 1
    -8 1F59 1F5F 2 -8 1F68 1F6F 1 -8 1F88 1F8F 1 -8 1F98 1F9F 1 -8 1FA8 1FAF 1 -8 1FB8 1FB9 1 -8
    1FBA 1FBB 1 -74 1FBC 1FBC 1 -9 1FBE 1FBE 1 -7173 1FC8 1FCB 1 -86 1FCC 1FCC 1 -9 1FD3 1FD3 1
    -7235 1FD8 1FD9 1 -8 1FDA 1FDB 1 -100 1FE3 1FE3 1 -7219 1FE8 1FE9 1 -8 1FEA 1FEB 1 -112 1FEC
    1FEC 1 -7 1FF8 1FF9 1 -128 1FFA 1FFB 1 -126 1FFC 1FFC 1 -9 2126 2126 1 -7517 212A 212A 1
    -8383 212B 212B 1 -8262 2132 2132 1 28 2160 216F 1 16 2183 2183 1 1 24B6 24CF 1 26 2C00 2C2F
    1 48 2C60 2C60 1 1 2C62 2C62 1 -10743 2C63 2C63 1 -3814 2C64 2C64 1 -10727 2C67 2C6B 2 1
    2C6D 2C6D 1 -10780 2C6E 2C6E 1 -10749 2C6F 2C6F 1 -10783 2C70 2C70 1 -10782 2C72 2C72 1 1
    2C75 2C75 1 1 2C7E 2C7F 1 -10815 2C80 2CE2 2 1 2CEB 2CED 2 1 2CF2 2CF2 1 1 A640 A66C 2 1
    A680 A69A 2 1 A722 A72E 2 1 A732 A76E 2 1 A779 A77B 2 1 A77D A77D 1 -35332 A77E A786 2 1
    A78B A78B 1 1 A78D A78D 1 -42280 A790 A792 2 1 A796 A7A8 2 1 A7AA A7AA 1 -42308 A7AB A7AB 1
    -42319 A7AC A7AC 1 -42315 A7AD A7AD 1 -42305 A7AE A7AE 1 -42308 A7B0 A7B0 1 -42258 A7B1 A7B1
    1 -42282 A7B2 A7B2 1 -42261 A7B3 A7B3 1 928 A7B4 A7C2 2 1 A7C4 A7C4 1 -48 A7C5 A7C5 1 -42307
    A7C6 A7C6 1 -35384 A7C7 A7C9 2 1 A7CB A7CB 1 -42343 A7CC A7CC 1 1 A7D0 A7D0 1 1 A7D6 A7DA 2
    1 A7DC A7DC 1 -42561 A7F5 A7F5 1 1 AB70 ABBF 1 -38864 FB05 FB05 1 1 FF21 FF3A 1 32 10400
    10427 1 40 104B0 104D3 1 40 10570 1057A 1 39 1057C 1058A 1 39 1058C 10592 1 39 10594 10595 1
    39 10C80 10CB2 1 64 10D50 10D65 1 32 118A0 118BF 1 32 16E40 16E5F 1 32 1E900 1E921 1 34"

/-! ## Other properties

Sets of code points that follow from no other property. A range is written as its first and last
code point with a hyphen between them; where a slash and a number follow, only every so many code
points belong.
-/

/-- Characters that are mirrored in text from right to left. -/
def bidiMirroredRanges : String :=
  "28-29 3C 3E 5B 5D 7B 7D AB BB F3A-F3D 169B-169C 2039-203A 2045-2046 207D-207E 208D-208E 2140
    2201-2204 2208-220D 2211 2215-2216 221A-221D 221F-2222 2224 2226 222B-2233 2239 223B-224C
    2252-2255 225F-2260 2262 2264-226B 226E-228C 228F-2292 2298 22A2-22A3 22A6-22B8 22BE-22BF
    22C9-22CD 22D0-22D1 22D6-22ED 22F0-22FF 2308-230B 2320-2321 2329-232A 2768-2775 27C0
    27C3-27C6 27C8-27C9 27CB-27CD 27D3-27D6 27DC-27DE 27E2-27EF 2983-2998 299B-29A0 29A2-29AF
    29B8 29C0-29C5 29C9 29CE-29D2 29D4-29D5 29D8-29DC 29E1 29E3-29E5 29E8-29E9 29F4-29F9
    29FC-29FD 2A0A-2A1C 2A1E-2A21 2A24 2A26 2A29 2A2B-2A2E 2A34-2A35 2A3C-2A3E 2A57-2A58
    2A64-2A65 2A6A-2A6D 2A6F-2A70 2A73-2A74 2A79-2AA3 2AA6-2AAD 2AAF-2AD6 2ADC 2ADE 2AE2-2AE6
    2AEC-2AEE 2AF3 2AF7-2AFB 2AFD 2BFE 2E02-2E05 2E09-2E0A 2E0C-2E0D 2E1C-2E1D 2E20-2E29
    2E55-2E5C 3008-3011 3014-301B FE59-FE5E FE64-FE65 FF08-FF09 FF1C FF1E FF3B FF3D FF5B FF5D
    FF5F-FF60 FF62-FF63 1D6DB 1D715 1D74F 1D789 1D7C3"

/-- Characters that case folding changes. -/
def foldingRanges : String :=
  "41-5A B5 C0-D6 D8-DF 100-136/2 139-147/2 149-14A 14C-176/2 178-179 17B-17F/2 181-182 184 186-187
    189-18B 18E-191 193-194 196-198 19C-19D 19F-1A0 1A2 1A4 1A6-1A7 1A9 1AC 1AE-1AF 1B1-1B3 1B5
    1B7-1B8 1BC 1C4-1C5 1C7-1C8 1CA-1CB 1CD-1DB/2 1DE-1EE/2 1F1-1F2 1F4 1F6-1F8 1FA-232/2
    23A-23B 23D-23E 241 243-246 248-24E/2 345 370 372 376 37F 386 388-38A 38C 38E-38F 391-3A1
    3A3-3AB 3C2 3CF-3D1 3D5-3D6 3D8-3EE/2 3F0-3F1 3F4-3F5 3F7 3F9-3FA 3FD-42F 460-480/2
    48A-4BE/2 4C0-4C1 4C3-4CD/2 4D0-52E/2 531-556 587 10A0-10C5 10C7 10CD 13F8-13FD 1C80-1C89
    1C90-1CBA 1CBD-1CBF 1E00-1E94/2 1E9A-1E9B 1E9E-1EFE/2 1F08-1F0F 1F18-1F1D 1F28-1F2F
    1F38-1F3F 1F48-1F4D 1F59-1F5F/2 1F68-1F6F 1F80-1FAF 1FB2-1FB4 1FB7-1FBC 1FC2-1FC4 1FC7-1FCC
    1FD8-1FDB 1FE8-1FEC 1FF2-1FF4 1FF7-1FFC 2126 212A-212B 2132 2160-216F 2183 24B6-24CF
    2C00-2C2F 2C60 2C62-2C64 2C67-2C6B/2 2C6D-2C70 2C72 2C75 2C7E-2C80 2C82-2CE2/2 2CEB 2CED
    2CF2 A640-A66C/2 A680-A69A/2 A722-A72E/2 A732-A76E/2 A779 A77B A77D-A77E A780-A786/2 A78B
    A78D A790 A792 A796-A7A8/2 A7AA-A7AE A7B0-A7B4 A7B6-A7C2/2 A7C4-A7C7 A7C9 A7CB-A7CC
    A7CE-A7DC/2 A7F5 AB70-ABBF FB00-FB06 FB13-FB17 FF21-FF3A 10400-10427 104B0-104D3 10570-1057A
    1057C-1058A 1058C-10592 10594-10595 10C80-10CB2 10D50-10D65 118A0-118BF 16E40-16E5F
    16EA0-16EB8 1E900-1E921"

/-- Characters that have a lowercase form. -/
def lowercasingRanges : String :=
  "41-5A C0-D6 D8-DE 100-136/2 139-147/2 14A-176/2 178-179 17B 17D 181-182 184 186-187 189-18B
    18E-191 193-194 196-198 19C-19D 19F-1A0 1A2 1A4 1A6-1A7 1A9 1AC 1AE-1AF 1B1-1B3 1B5 1B7-1B8
    1BC 1C4-1C5 1C7-1C8 1CA-1CB 1CD-1DB/2 1DE-1EE/2 1F1-1F2 1F4 1F6-1F8 1FA-232/2 23A-23B
    23D-23E 241 243-246 248-24E/2 370 372 376 37F 386 388-38A 38C 38E-38F 391-3A1 3A3-3AB 3CF
    3D8-3EE/2 3F4 3F7 3F9-3FA 3FD-42F 460-480/2 48A-4BE/2 4C0-4C1 4C3-4CD/2 4D0-52E/2 531-556
    10A0-10C5 10C7 10CD 13A0-13F5 1C89 1C90-1CBA 1CBD-1CBF 1E00-1E94/2 1E9E-1EFE/2 1F08-1F0F
    1F18-1F1D 1F28-1F2F 1F38-1F3F 1F48-1F4D 1F59-1F5F/2 1F68-1F6F 1F88-1F8F 1F98-1F9F 1FA8-1FAF
    1FB8-1FBC 1FC8-1FCC 1FD8-1FDB 1FE8-1FEC 1FF8-1FFC 2126 212A-212B 2132 2160-216F 2183
    24B6-24CF 2C00-2C2F 2C60 2C62-2C64 2C67-2C6B/2 2C6D-2C70 2C72 2C75 2C7E-2C80 2C82-2CE2/2
    2CEB 2CED 2CF2 A640-A66C/2 A680-A69A/2 A722-A72E/2 A732-A76E/2 A779 A77B A77D-A77E
    A780-A786/2 A78B A78D A790 A792 A796-A7A8/2 A7AA-A7AE A7B0-A7B4 A7B6-A7C2/2 A7C4-A7C7 A7C9
    A7CB-A7CC A7CE-A7DC/2 A7F5 FF21-FF3A 10400-10427 104B0-104D3 10570-1057A 1057C-1058A
    1058C-10592 10594-10595 10C80-10CB2 10D50-10D65 118A0-118BF 16E40-16E5F 16EA0-16EB8
    1E900-1E921"

/-- Characters that have a titlecase form. -/
def titlecasingRanges : String :=
  "61-7A B5 DF-F6 F8-FF 101-137/2 13A-146/2 148-149 14B-177/2 17A 17C 17E-180 183 185 188 18C 192
    195 199-19B 19E 1A1-1A5/2 1A8 1AD 1B0 1B4 1B6 1B9 1BD 1BF 1C4 1C6-1C7 1C9-1CA 1CC-1DA/2
    1DC-1DD 1DF-1ED/2 1EF-1F1 1F3 1F5 1F9-21F/2 223-233/2 23C 23F-240 242 247-24D/2 24F-254
    256-257 259 25B-25C 260-261 263-266 268-26C 26F 271-272 275 27D 280 282-283 287-28C 292
    29D-29E 345 371 373 377 37B-37D 390 3AC-3CE 3D0-3D1 3D5-3D7 3D9-3ED/2 3EF-3F3 3F5 3F8 3FB
    430-45F 461-481/2 48B-4BF/2 4C2-4CC/2 4CE-4CF 4D1-52F/2 561-587 13F8-13FD 1C80-1C88 1C8A
    1D79 1D7D 1D8E 1E01-1E93/2 1E95-1E9B 1EA1-1EFD/2 1EFF-1F07 1F10-1F15 1F20-1F27 1F30-1F37
    1F40-1F45 1F50-1F57 1F60-1F67 1F70-1F7D 1F80-1F87 1F90-1F97 1FA0-1FA7 1FB0-1FB4 1FB6-1FB7
    1FBE 1FC2-1FC4 1FC6-1FC7 1FD0-1FD3 1FD6-1FD7 1FE0-1FE7 1FF2-1FF4 1FF6-1FF7 214E 2170-217F
    2184 24D0-24E9 2C30-2C5F 2C61 2C65-2C66 2C68-2C6C/2 2C73 2C76 2C81-2CE3/2 2CEC 2CEE 2CF3
    2D00-2D25 2D27 2D2D A641-A66D/2 A681-A69B/2 A723-A72F/2 A733-A76F/2 A77A A77C A77F-A787/2
    A78C A791 A793-A794 A797-A7A9/2 A7B5-A7C3/2 A7C8 A7CA A7CD-A7D1/2 A7D7-A7DB/2 A7F6 AB53
    AB70-ABBF FB00-FB06 FB13-FB17 FF41-FF5A 10428-1044F 104D8-104FB 10597-105A1 105A3-105B1
    105B3-105B9 105BB-105BC 10CC0-10CF2 10D70-10D85 118C0-118DF 16E60-16E7F 16EBB-16ED3
    1E922-1E943"

/-- Characters that have an uppercase form. -/
def uppercasingRanges : String :=
  "61-7A B5 DF-F6 F8-FF 101-137/2 13A-146/2 148-149 14B-177/2 17A 17C 17E-180 183 185 188 18C 192
    195 199-19B 19E 1A1-1A5/2 1A8 1AD 1B0 1B4 1B6 1B9 1BD 1BF 1C5-1C6 1C8-1C9 1CB-1CC 1CE-1DA/2
    1DC-1DD 1DF-1ED/2 1EF-1F0 1F2-1F3 1F5 1F9-21F/2 223-233/2 23C 23F-240 242 247-24D/2 24F-254
    256-257 259 25B-25C 260-261 263-266 268-26C 26F 271-272 275 27D 280 282-283 287-28C 292
    29D-29E 345 371 373 377 37B-37D 390 3AC-3CE 3D0-3D1 3D5-3D7 3D9-3ED/2 3EF-3F3 3F5 3F8 3FB
    430-45F 461-481/2 48B-4BF/2 4C2-4CC/2 4CE-4CF 4D1-52F/2 561-587 10D0-10FA 10FD-10FF
    13F8-13FD 1C80-1C88 1C8A 1D79 1D7D 1D8E 1E01-1E93/2 1E95-1E9B 1EA1-1EFD/2 1EFF-1F07
    1F10-1F15 1F20-1F27 1F30-1F37 1F40-1F45 1F50-1F57 1F60-1F67 1F70-1F7D 1F80-1FB4 1FB6-1FB7
    1FBC 1FBE 1FC2-1FC4 1FC6-1FC7 1FCC 1FD0-1FD3 1FD6-1FD7 1FE0-1FE7 1FF2-1FF4 1FF6-1FF7 1FFC
    214E 2170-217F 2184 24D0-24E9 2C30-2C5F 2C61 2C65-2C66 2C68-2C6C/2 2C73 2C76 2C81-2CE3/2
    2CEC 2CEE 2CF3 2D00-2D25 2D27 2D2D A641-A66D/2 A681-A69B/2 A723-A72F/2 A733-A76F/2 A77A A77C
    A77F-A787/2 A78C A791 A793-A794 A797-A7A9/2 A7B5-A7C3/2 A7C8 A7CA A7CD-A7D1/2 A7D7-A7DB/2
    A7F6 AB53 AB70-ABBF FB00-FB06 FB13-FB17 FF41-FF5A 10428-1044F 104D8-104FB 10597-105A1
    105A3-105B1 105B3-105B9 105BB-105BC 10CC0-10CF2 10D70-10D85 118C0-118DF 16E60-16E7F
    16EBB-16ED3 1E922-1E943"

def dashRanges : String :=
  "2D 58A 5BE 1400 1806 2010-2015 2053 207B 208B 2212 2E17 2E1A 2E3A-2E3B 2E40 2E5D 301C 3030 30A0
    FE31-FE32 FE58 FE63 FF0D 10D6E 10EAD"

/-- Characters that should no longer be used. -/
def deprecatedRanges : String :=
  "149 673 F77 F79 17A3-17A4 206A-206F 2329-232A E0001"

def diacriticRanges : String :=
  "5E 60 A8 AF B4 B7-B8 2B0-34E 350-357 35D-362 374-375 37A 384-385 483-487 559 591-5A1 5A3-5BD 5BF
    5C1-5C2 5C4 64B-652 657-658 6DF-6E0 6E5-6E6 6EA-6EC 730-74A 7A6-7B0 7EB-7F5 818-819 898-89F
    8C9-8D2 8E3-8FE 93C 94D 951-954 971 9BC 9CD A3C A4D ABC ACD AFD-AFF B3C B4D B55 BCD C3C C4D
    CBC CCD D3B-D3C D4D DCA E47-E4C E4E EBA EC8-ECC F18-F19 F35-F39/2 F3E-F3F F82-F84 F86-F87
    FC6 1037 1039-103A 1063-1064 1069-106D 1087-108D 108F 109A-109B 135D-135F 1714-1715
    17C9-17D3 17DD 1939-193B 1A75-1A7C 1A7F 1AB0-1ABE 1AC1-1ACB 1B34 1B44 1B6B-1B73 1BAA-1BAB
    1C36-1C37 1C78-1C7D 1CD0-1CE8 1CED 1CF4 1CF7-1CF9 1D2C-1D6A 1DC4-1DCF 1DF5-1DFF 1FBD
    1FBF-1FC1 1FCD-1FCF 1FDD-1FDF 1FED-1FEF 1FFD-1FFE 2CEF-2CF1 2E2F 302A-302F 3099-309C 30FC
    A66F A67C-A67D A67F A69C-A69D A6F0-A6F1 A700-A721 A788-A78A A7F8-A7F9 A8C4 A8E0-A8F1
    A92B-A92E A953 A9B3 A9C0 A9E5 AA7B-AA7D AABF-AAC2 AAF6 AB5B-AB5F AB69-AB6B ABEC-ABED FB1E
    FE20-FE2F FF3E FF40 FF70 FF9E-FF9F FFE3 102E0 10780-10785 10787-107B0 107B2-107BA
    10AE5-10AE6 10D22-10D27 10D4E 10D69-10D6D 10EFD-10EFF 10F46-10F50 10F82-10F85 11046 11070
    110B9-110BA 11133-11134 11173 111C0 111CA-111CC 11235-11236 112E9-112EA 1133C 1134D
    11366-1136C 11370-11374 113CE-113D0 113D2-113D3 113E1-113E2 11442 11446 114C2-114C3
    115BF-115C0 1163F 116B6-116B7 1172B 11839-1183A 1193D-1193E 11943 119E0 11A34 11A47 11A99
    11C3F 11D42 11D44-11D45 11D97 13447-13455 1612F 16AF0-16AF4 16B30-16B36 16D6B-16D6C
    16F8F-16F9F 16FF0-16FF1 1AFF0-1AFF3 1AFF5-1AFFB 1AFFD-1AFFE 1CF00-1CF2D 1CF30-1CF46
    1D167-1D169 1D16D-1D172 1D17B-1D182 1D185-1D18B 1D1AA-1D1AD 1E030-1E06D 1E130-1E136 1E2AE
    1E2EC-1E2EF 1E5EE-1E5EF 1E8D0-1E8D6 1E944-1E946 1E948-1E94A"

def emojiRanges : String :=
  "23 2A 30-39 A9 AE 203C 2049 2122 2139 2194-2199 21A9-21AA 231A-231B 2328 23CF 23E9-23F3
    23F8-23FA 24C2 25AA-25AB 25B6 25C0 25FB-25FE 2600-2604 260E 2611 2614-2615 2618 261D 2620
    2622-2623 2626 262A 262E-262F 2638-263A 2640 2642 2648-2653 265F-2660 2663 2665-2666 2668
    267B 267E-267F 2692-2697 2699 269B-269C 26A0-26A1 26A7 26AA-26AB 26B0-26B1 26BD-26BE
    26C4-26C5 26C8 26CE-26CF 26D1 26D3-26D4 26E9-26EA 26F0-26F5 26F7-26FA 26FD 2702 2705
    2708-270D 270F 2712-2716/2 271D 2721 2728 2733-2734 2744 2747 274C 274E 2753-2755 2757
    2763-2764 2795-2797 27A1 27B0 27BF 2934-2935 2B05-2B07 2B1B-2B1C 2B50 2B55 3030 303D 3297
    3299 1F004 1F0CF 1F170-1F171 1F17E-1F17F 1F18E 1F191-1F19A 1F1E6-1F1FF 1F201-1F202 1F21A
    1F22F 1F232-1F23A 1F250-1F251 1F300-1F321 1F324-1F393 1F396-1F397 1F399-1F39B 1F39E-1F3F0
    1F3F3-1F3F5 1F3F7-1F4FD 1F4FF-1F53D 1F549-1F54E 1F550-1F567 1F56F-1F570 1F573-1F57A 1F587
    1F58A-1F58D 1F590 1F595-1F596 1F5A4-1F5A5 1F5A8 1F5B1-1F5B2 1F5BC 1F5C2-1F5C4 1F5D1-1F5D3
    1F5DC-1F5DE 1F5E1 1F5E3 1F5E8 1F5EF 1F5F3 1F5FA-1F64F 1F680-1F6C5 1F6CB-1F6D2 1F6D5-1F6D8
    1F6DC-1F6E5 1F6E9 1F6EB-1F6EC 1F6F0 1F6F3-1F6FC 1F7E0-1F7EB 1F7F0 1F90C-1F93A 1F93C-1F945
    1F947-1F9FF 1FA70-1FA7C 1FA80-1FA8A 1FA8E-1FAC6 1FAC8 1FACD-1FADC 1FADF-1FAEA 1FAEF-1FAF8"

/-- Parts of emoji sequences. -/
def emojiComponentRanges : String :=
  "23 2A 30-39 200D 20E3 FE0F 1F1E6-1F1FF 1F3FB-1F3FF 1F9B0-1F9B3 E0020-E007F"

/-- Emoji that a skin tone can follow. -/
def emojiModifierBaseRanges : String :=
  "261D 26F9 270A-270D 1F385 1F3C2-1F3C4 1F3C7 1F3CA-1F3CC 1F442-1F443 1F446-1F450 1F466-1F478
    1F47C 1F481-1F483 1F485-1F487 1F48F 1F491 1F4AA 1F574-1F575 1F57A 1F590 1F595-1F596
    1F645-1F647 1F64B-1F64F 1F6A3 1F6B4-1F6B6 1F6C0 1F6CC 1F90C 1F90F 1F918-1F91F 1F926
    1F930-1F939 1F93C-1F93E 1F977 1F9B5-1F9B6 1F9B8-1F9B9 1F9BB 1F9CD-1F9CF 1F9D1-1F9DD
    1FAC3-1FAC5 1FAF0-1FAF8"

/-- Emoji that are shown as pictures. -/
def emojiPresentationRanges : String :=
  "231A-231B 23E9-23EC 23F0 23F3 25FD-25FE 2614-2615 2648-2653 267F 2693 26A1 26AA-26AB 26BD-26BE
    26C4-26C5 26CE 26D4 26EA 26F2-26F3 26F5 26FA 26FD 2705 270A-270B 2728 274C 274E 2753-2755
    2757 2795-2797 27B0 27BF 2B1B-2B1C 2B50 2B55 1F004 1F0CF 1F18E 1F191-1F19A 1F1E6-1F1FF 1F201
    1F21A 1F22F 1F232-1F236 1F238-1F23A 1F250-1F251 1F300-1F320 1F32D-1F335 1F337-1F37C
    1F37E-1F393 1F3A0-1F3CA 1F3CF-1F3D3 1F3E0-1F3F0 1F3F4 1F3F8-1F43E 1F440 1F442-1F4FC
    1F4FF-1F53D 1F54B-1F54E 1F550-1F567 1F57A 1F595-1F596 1F5A4 1F5FB-1F64F 1F680-1F6C5 1F6CC
    1F6D0-1F6D2 1F6D5-1F6D8 1F6DC-1F6DF 1F6EB-1F6EC 1F6F4-1F6FC 1F7E0-1F7EB 1F7F0 1F90C-1F93A
    1F93C-1F945 1F947-1F9FF 1FA70-1FA7C 1FA80-1FA8A 1FA8E-1FAC6 1FAC8 1FACD-1FADC 1FADF-1FAEA
    1FAEF-1FAF8"

/-- Emoji and code points kept for emoji. -/
def pictographRanges : String :=
  "A9 AE 203C 2049 2122 2139 2194-2199 21A9-21AA 231A-231B 2328 2388 23CF 23E9-23F3 23F8-23FA 24C2
    25AA-25AB 25B6 25C0 25FB-25FE 2600-2605 2607-2612 2614-2685 2690-2705 2708-2712 2714 2716
    271D 2721 2728 2733-2734 2744 2747 274C 274E 2753-2755 2757 2763-2767 2795-2797 27A1 27B0
    27BF 2934-2935 2B05-2B07 2B1B-2B1C 2B50 2B55 3030 303D 3297 3299 1F000-1F0FF 1F10D-1F10F
    1F12F 1F16C-1F171 1F17E-1F17F 1F18E 1F191-1F19A 1F1AD-1F1E5 1F201-1F20F 1F21A 1F22F
    1F232-1F23A 1F23C-1F23F 1F249-1F3FA 1F400-1F53D 1F546-1F64F 1F680-1F6FF 1F774-1F77F
    1F7D5-1F7FF 1F80C-1F80F 1F848-1F84F 1F85A-1F85F 1F888-1F88F 1F8AE-1F8FF 1F90C-1F93A
    1F93C-1F945 1F947-1FAFF 1FC00-1FFFD"

/-- Characters that extend or repeat the one before. -/
def extenderRanges : String :=
  "B7 2D0-2D1 640 7FA A71 AFB B55 E46 EC6 180A 1843 1AA7 1C36 1C7B 3005 3031-3035 309D-309E
    30FC-30FE A015 A60C A9CF A9E6 AA70 AADD AAF3-AAF4 FF70 10781-10782 10D4E 10D6A 10D6F 11237
    1135D 113D2-113D3 115C6-115C8 11A98 16B42-16B43 16D40 16FE0-16FE1 16FE3 1E13C-1E13D 1E5EF
    1E944-1E946"

/-- Digits of base sixteen. -/
def hexDigitRanges : String :=
  "30-39 41-46 61-66 FF10-FF19 FF21-FF26 FF41-FF46"

def hyphenRanges : String :=
  "2D AD 58A 1806 2010-2011 2E17 30FB FE63 FF0D FF65"

def ideographRanges : String :=
  "3006-3007 3021-3029 3038-303A 3400-4DBF 4E00-9FFF F900-FA6D FA70-FAD9 16FE4 16FF2-16FF6
    17000-18CD5 18CFF-18D1E 18D80-18DF2 1B170-1B2FB 20000-2A6DF 2A700-2B81E 2B820-2CEAD
    2CEB0-2EBE0 2EBF0-2EE5D 2F800-2FA1D 30000-3134A 31350-33479"

/-- Viramas, which join consonants. -/
def linkRanges : String :=
  "94D 9CD A4D ACD B4D BCD C4D CCD D3B-D3C D4D DCA E3A EBA F84 1039-103A 1714-1715 1734 17D2 1A60
    1B44 1BAA-1BAB 1BF2-1BF3 2D7F A806 A82C A8C4 A953 A9C0 AAF6 ABED 10A3F 11046 11070 1107F
    110B9 11133-11134 111C0 11235 112EA 1134D 113CE-113D0 11442 114C2 115BF 1163F 116B6 1172B
    11839 1193D-1193E 119E0 11A34 11A47 11A99 11C3F 11D44-11D45 11D97 11F41-11F42 1612F"

/-- Vowels that are written before the consonant they follow. -/
def logicalExceptionRanges : String :=
  "E40-E44 EC0-EC4 19B5-19B7 19BA AAB5-AAB6 AAB9 AABB-AABC"

/-- Alphabetic characters whose category does not say so. -/
def otherAlphabeticRanges : String :=
  "5B0-5BD 5BF 5C1-5C2 5C4-5C5 5C7 610-61A 64B-657 659-65F 670 6D6-6DC 6E1-6E4 6E7-6E8 6ED 711
    730-73F 7A6-7B0 816-817 81B-823 825-827 829-82C 897 8D4-8DF 8E3-8E9 8F0-903 93A-93B 93E-94C
    94E-94F 955-957 962-963 981-983 9BE-9C4 9C7-9C8 9CB-9CC 9D7 9E2-9E3 A01-A03 A3E-A42 A47-A48
    A4B-A4C A51 A70-A71 A75 A81-A83 ABE-AC5 AC7-AC9 ACB-ACC AE2-AE3 AFA-AFC B01-B03 B3E-B44
    B47-B48 B4B-B4C B56-B57 B62-B63 B82 BBE-BC2 BC6-BC8 BCA-BCC BD7 C00-C04 C3E-C44 C46-C48
    C4A-C4C C55-C56 C62-C63 C81-C83 CBE-CC4 CC6-CC8 CCA-CCC CD5-CD6 CE2-CE3 CF3 D00-D03 D3E-D44
    D46-D48 D4A-D4C D57 D62-D63 D81-D83 DCF-DD4 DD6 DD8-DDF DF2-DF3 E31 E34-E3A E4D EB1 EB4-EB9
    EBB-EBC ECD F71-F83 F8D-F97 F99-FBC 102B-1036 1038 103B-103E 1056-1059 105E-1060 1062-1064
    1067-106D 1071-1074 1082-108D 108F 109A-109D 1712-1713 1732-1733 1752-1753 1772-1773
    17B6-17C8 1885-1886 18A9 1920-192B 1930-1938 1A17-1A1B 1A55-1A5E 1A61-1A74 1ABF-1AC0
    1ACC-1ACE 1B00-1B04 1B35-1B43 1B80-1B82 1BA1-1BA9 1BAC-1BAD 1BE7-1BF1 1C24-1C36 1DE7-1DF4
    2DE0-2DFF A674-A67B A69E-A69F A802 A80B A823-A827 A880-A881 A8B4-A8C3 A8C5 A8FF A926-A92A
    A947-A952 A980-A983 A9B4-A9BF A9E5 AA29-AA36 AA43 AA4C-AA4D AA7B-AA7D AAB0 AAB2-AAB4
    AAB7-AAB8 AABE AAEB-AAEF AAF5 ABE3-ABEA FB1E 10376-1037A 10A01-10A03 10A05-10A06 10A0C-10A0F
    10D24-10D27 10D69 10EAB-10EAC 10EFC 11000-11002 11038-11045 11073-11074 11080-11082
    110B0-110B8 110C2 11100-11102 11127-11132 11145-11146 11180-11182 111B3-111BF 111CE-111CF
    1122C-11234 11237 1123E 11241 112DF-112E8 11300-11303 1133E-11344 11347-11348 1134B-1134C
    11357 11362-11363 113B8-113C0 113C2 113C5 113C7-113CA 113CC-113CD 11435-11441 11443-11445
    114B0-114C1 115AF-115B5 115B8-115BE 115DC-115DD 11630-1163E 11640 116AB-116B5 1171D-1172A
    1182C-11838 11930-11935 11937-11938 1193B-1193C 11940 11942 119D1-119D7 119DA-119DF 119E4
    11A01-11A0A 11A35-11A39 11A3B-11A3E 11A51-11A5B 11A8A-11A97 11B60-11B67 11C2F-11C36
    11C38-11C3E 11C92-11CA7 11CA9-11CB6 11D31-11D36 11D3A 11D3C-11D3D 11D3F-11D41 11D43 11D47
    11D8A-11D8E 11D90-11D91 11D93-11D96 11EF3-11EF6 11F00-11F01 11F03 11F34-11F3A 11F3E-11F40
    1611E-1612E 16F4F 16F51-16F87 16F8F-16F92 16FF0-16FF1 1BC9E 1E000-1E006 1E008-1E018
    1E01B-1E021 1E023-1E024 1E026-1E02A 1E08F 1E6E3 1E6E6 1E6EE-1E6EF 1E6F5 1E947"

/-- Ignorable code points whose category does not say so. -/
def otherIgnorableRanges : String :=
  "34F 115F-1160 17B4-17B5 2065 3164 FFA0 FFF0-FFF8 E0000 E0002-E001F E0080-E00FF E01F0-E0FFF"

/-- Characters that extend a grapheme though their category does not say so. -/
def otherExtendRanges : String :=
  "9BE 9D7 B3E B57 BBE BD7 CC0 CC2 CC7-CC8 CCA-CCB CD5-CD6 D3E D57 DCF DDF 1715 1734 1B35 1B3B 1B3D
    1B43-1B44 1BAA 1BF2-1BF3 200C 302E-302F A953 A9C0 FF9E-FF9F 111C0 11235 1133E 1134D 11357
    113B8 113C2 113C5 113C7-113C9 113CF 114B0 114BD 115AF 116B6 11930 1193D 16FF0-16FF1
    1D165-1D166 1D16D-1D172 E0020-E007F"

/-- Characters that may start identifiers for old times' sake. -/
def otherIdStartRanges : String :=
  "1885-1886 2118 212E 309B-309C"

/-- Characters that may go on in identifiers though their category does not say so. -/
def otherIdContinueRanges : String :=
  "B7 387 1369-1371 19DA 200C-200D 30FB FF65"

/-- Lowercase characters whose category does not say so. -/
def otherLowercaseRanges : String :=
  "AA BA 2B0-2B8 2C0-2C1 2E0-2E4 345 37A 10FC 1D2C-1D6A 1D78 1D9B-1DBF 2071 207F 2090-209C
    2170-217F 24D0-24E9 2C7C-2C7D A69C-A69D A770 A7F2-A7F4 A7F8-A7F9 AB5C-AB5F AB69 10780
    10783-10785 10787-107B0 107B2-107BA 1E030-1E06D"

/-- Mathematical characters whose category does not say so. -/
def otherMathRanges : String :=
  "5E 3D0-3D2 3D5 3F0-3F1 3F4-3F5 2016 2032-2034 2040 2061-2064 207D-207E 208D-208E 20D0-20DC 20E1
    20E5-20E6 20EB-20EF 2102 2107 210A-2113 2115 2119-211D 2124 2128-2129 212C-212D 212F-2131
    2133-2138 213C-213F 2145-2149 2195-2199 219C-219F 21A1-21A2 21A4-21A5 21A7 21A9-21AD
    21B0-21B1 21B6-21B7 21BC-21CD 21D0-21D1 21D3 21D5-21DB 21DD 21E4-21E5 2308-230B 23B4-23B5
    23B7 23D0 23E2 25A0-25A1 25AE-25B6 25BC-25C0 25C6-25C7 25CA-25CB 25CF-25D3 25E2 25E4
    25E7-25EC 2605-2606 2640 2642 2660-2663 266D-266E 27C5-27C6 27E6-27EF 2983-2998 29D8-29DB
    29FC-29FD FE61 FE63 FE68 FF3C FF3E 1D400-1D454 1D456-1D49C 1D49E-1D49F 1D4A2 1D4A5-1D4A6
    1D4A9-1D4AC 1D4AE-1D4B9 1D4BB 1D4BD-1D4C3 1D4C5-1D505 1D507-1D50A 1D50D-1D514 1D516-1D51C
    1D51E-1D539 1D53B-1D53E 1D540-1D544 1D546 1D54A-1D550 1D552-1D6A5 1D6A8-1D6C0 1D6C2-1D6DA
    1D6DC-1D6FA 1D6FC-1D714 1D716-1D734 1D736-1D74E 1D750-1D76E 1D770-1D788 1D78A-1D7A8
    1D7AA-1D7C2 1D7C4-1D7CB 1D7CE-1D7FF 1EE00-1EE03 1EE05-1EE1F 1EE21-1EE22 1EE24 1EE27
    1EE29-1EE32 1EE34-1EE37 1EE39 1EE3B 1EE42 1EE47-1EE4B/2 1EE4D-1EE4F 1EE51-1EE52 1EE54
    1EE57-1EE5F/2 1EE61-1EE62 1EE64 1EE67-1EE6A 1EE6C-1EE72 1EE74-1EE77 1EE79-1EE7C 1EE7E
    1EE80-1EE89 1EE8B-1EE9B 1EEA1-1EEA3 1EEA5-1EEA9 1EEAB-1EEBB"

/-- Uppercase characters whose category does not say so. -/
def otherUppercaseRanges : String :=
  "2160-216F 24B6-24CF 1F130-1F149 1F150-1F169 1F170-1F189"

/-- Marks that are laid out before other marks. -/
def modifierMarkRanges : String :=
  "654-655 658 6DC 6E3 6E7-6E8 8CA-8CB 8CD-8CF 8D3 8F3"

/-- Characters kept for the syntax of patterns. -/
def patternSyntaxRanges : String :=
  "21-2F 3A-40 5B-5E 60 7B-7E A1-A7 A9 AB-AC AE B0-B1 B6 BB BF D7 F7 2010-2027 2030-203E 2041-2053
    2055-205E 2190-245F 2500-2775 2794-2BFF 2E00-2E7F 3001-3003 3008-3020 3030 FD3E-FD3F
    FE45-FE46"

/-- Marks that stand before the digits they enclose. -/
def prependedMarkRanges : String :=
  "600-605 6DD 70F 890-891 8E2 110BD 110CD"

def quotationRanges : String :=
  "22 27 AB BB 2018-201F 2039-203A 2E42 300C-300F 301D-301F FE41-FE44 FF02 FF07 FF62-FF63"

def radicalRanges : String :=
  "2E80-2E99 2E9B-2EF3 2F00-2FD5"

/-- Marks that end sentences. -/
def sentenceEndRanges : String :=
  "21 2E 3F 589 61D-61F 6D4 700-702 7F9 837 839 83D-83E 964-965 104A-104B 1362 1367-1368 166E
    1735-1736 1803 1809 1944-1945 1AA8-1AAB 1B4E-1B4F 1B5A-1B5B 1B5E-1B5F 1B7D-1B7F 1C3B-1C3C
    1C7E-1C7F 203C-203D 2047-2049 2E2E 2E3C 2E53-2E54 3002 A4FF A60E-A60F A6F3 A6F7 A876-A877
    A8CE-A8CF A92F A9C8-A9C9 AA5D-AA5F AAF0-AAF1 ABEB FE52 FE56-FE57 FF01 FF0E FF1F FF61
    10A56-10A57 10F55-10F59 10F86-10F89 11047-11048 110BE-110C1 11141-11143 111C5-111C6 111CD
    111DE-111DF 11238-11239 1123B-1123C 112A9 113D4-113D5 1144B-1144C 115C2-115C3 115C9-115D7
    11641-11642 1173C-1173E 11944 11946 11A42-11A43 11A9B-11A9C 11C41-11C42 11EF7-11EF8
    11F43-11F44 16A6E-16A6F 16AF5 16B37-16B38 16B44 16D6E-16D6F 16E98 1BC9F 1DA88 1E5FF"

/-- Characters that lose their dot under an accent. -/
def softDottedRanges : String :=
  "69-6A 12F 249 268 29D 2B2 3F3 456 458 1D62 1D96 1DA4 1DA8 1E2D 1ECB 2071 2148-2149 2C7C
    1D422-1D423 1D456-1D457 1D48A-1D48B 1D4BE-1D4BF 1D4F2-1D4F3 1D526-1D527 1D55A-1D55B
    1D58E-1D58F 1D5C2-1D5C3 1D5F6-1D5F7 1D62A-1D62B 1D65E-1D65F 1D692-1D693 1DF1A 1E04C-1E04D
    1E068"

/-- Marks that end units of text. -/
def terminalRanges : String :=
  "21 2C 2E 3A-3B 3F 37E 387 589 5C3 60C 61B 61D-61F 6D4 700-70A 70C 7F8-7F9 830-83E 85E 964-965
    E5A-E5B F08 F0D-F12 104A-104B 1361-1368 166E 16EB-16ED 1735-1736 17D4-17D6 17DA 1802-1805
    1808-1809 1944-1945 1AA8-1AAB 1B4E-1B4F 1B5A-1B5B 1B5D-1B5F 1B7D-1B7F 1C3B-1C3F 1C7E-1C7F
    203C-203D 2047-2049 2E2E 2E3C 2E41 2E4C 2E4E-2E4F 2E53-2E54 3001-3002 A4FE-A4FF A60D-A60F
    A6F3-A6F7 A876-A877 A8CE-A8CF A92F A9C7-A9C9 AA5D-AA5F AADF AAF0-AAF1 ABEB FE50-FE52
    FE54-FE57 FF01 FF0C FF0E FF1A-FF1B FF1F FF61 FF64 1039F 103D0 10857 1091F 10A56-10A57
    10AF0-10AF5 10B3A-10B3F 10B99-10B9C 10F55-10F59 10F86-10F89 11047-1104D 110BE-110C1
    11141-11143 111C5-111C6 111CD 111DE-111DF 11238-1123C 112A9 113D4-113D5 1144B-1144D
    1145A-1145B 115C2-115C5 115C9-115D7 11641-11642 1173C-1173E 11944 11946 11A42-11A43
    11A9B-11A9C 11AA1-11AA2 11C41-11C43 11C71 11EF7-11EF8 11F43-11F44 12470-12474 16A6E-16A6F
    16AF5 16B37-16B39 16B44 16D6E-16D6F 16E97-16E98 1BC9F 1DA87-1DA8A 1E5FF"

def unifiedIdeographRanges : String :=
  "3400-4DBF 4E00-9FFF FA0E-FA0F FA11 FA13-FA14 FA1F FA21 FA23-FA24 FA27-FA29 20000-2A6DF
    2A700-2B81E 2B820-2CEAD 2CEB0-2EBE0 2EBF0-2EE5D 30000-3134A 31350-33479"

/-- Selectors of variants. -/
def variationRanges : String :=
  "180B-180D 180F FE00-FE0F E0100-E01EF"

/-- Mathematical symbols that may start identifiers. -/
def compatMathStartRanges : String :=
  "2202 2207 221E 1D6C1 1D6DB 1D6FB 1D715 1D735 1D74F 1D76F 1D789 1D7A9 1D7C3"

/-- Mathematical symbols that may go on in identifiers. -/
def compatMathContinueRanges : String :=
  "B2-B3 B9 2070 2074-207E 2080-208E 2202 2207 221E 1D6C1 1D6DB 1D6FB 1D715 1D735 1D74F 1D76F 1D789
    1D7A9 1D7C3"

end ReplyScript.Text
