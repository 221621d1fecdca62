import TextFeatures.Unicode.Table

namespace TextFeatures.Unicode.Script

def adlam : CodeSet := [
  setRow 0x1e900 0x1e95f "1e900-1e94b 1e950-1e959 1e95e-1e95f"]

def ahom : CodeSet := [
  setRow 0x11700 0x11746 "11700-1171a 1171d-1172b 11730-11746"]

def anatolianHieroglyphs : CodeSet := [
  setRow 0x14400 0x14646 "14400-14646"]

def arabic : CodeSet := [
  setRow 0x600 0x6ff "600-604 606-60b 60d-61a 61c-61e 620-63f 641-64a 656-66f 671-6dc 6de-6ff",
  setRow 0x750 0xfd8f "750-77f 870-88e 890-891 897-8e1 8e3-8ff fb50-fbc2 fbd3-fd3d fd40-fd8f",
  setRow 0xfd92 0x10ec4 "fd92-fdc7 fdcf fdf0-fdff fe70-fe74 fe76-fefc 10e60-10e7e 10ec2-10ec4",
  setRow 0x10efc 0x1ee32 "10efc-10eff 1ee00-1ee03 1ee05-1ee1f 1ee21-1ee22 1ee24 1ee27 1ee29-1ee32",
  setRow 0x1ee34 0x1ee52 "1ee34-1ee37 1ee39 1ee3b 1ee42 1ee47 1ee49 1ee4b 1ee4d-1ee4f 1ee51-1ee52",
  setRow 0x1ee54 0x1ee6a "1ee54 1ee57 1ee59 1ee5b 1ee5d 1ee5f 1ee61-1ee62 1ee64 1ee67-1ee6a",
  setRow 0x1ee6c 0x1ee9b "1ee6c-1ee72 1ee74-1ee77 1ee79-1ee7c 1ee7e 1ee80-1ee89 1ee8b-1ee9b",
  setRow 0x1eea1 0x1eef1 "1eea1-1eea3 1eea5-1eea9 1eeab-1eebb 1eef0-1eef1"]

def armenian : CodeSet := [
  setRow 0x531 0xfb17 "531-556 559-58a 58d-58f fb13-fb17"]

def avestan : CodeSet := [
  setRow 0x10b00 0x10b3f "10b00-10b35 10b39-10b3f"]

def balinese : CodeSet := [
  setRow 0x1b00 0x1b7f "1b00-1b4c 1b4e-1b7f"]

def bamum : CodeSet := [
  setRow 0xa6a0 0x16a38 "a6a0-a6f7 16800-16a38"]

def bassaVah : CodeSet := [
  setRow 0x16ad0 0x16af5 "16ad0-16aed 16af0-16af5"]

def batak : CodeSet := [
  setRow 0x1bc0 0x1bff "1bc0-1bf3 1bfc-1bff"]

def bengali : CodeSet := [
  setRow 0x980 0x9c8 "980-983 985-98c 98f-990 993-9a8 9aa-9b0 9b2 9b6-9b9 9bc-9c4 9c7-9c8",
  setRow 0x9cb 0x9fe "9cb-9ce 9d7 9dc-9dd 9df-9e3 9e6-9fe"]

def bhaiksuki : CodeSet := [
  setRow 0x11c00 0x11c6c "11c00-11c08 11c0a-11c36 11c38-11c45 11c50-11c6c"]

def bopomofo : CodeSet := [
  setRow 0x2ea 0x31bf "2ea-2eb 3105-312f 31a0-31bf"]

def brahmi : CodeSet := [
  setRow 0x11000 0x1107f "11000-1104d 11052-11075 1107f"]

def braille : CodeSet := [
  setRow 0x2800 0x28ff "2800-28ff"]

def buginese : CodeSet := [
  setRow 0x1a00 0x1a1f "1a00-1a1b 1a1e-1a1f"]

def buhid : CodeSet := [
  setRow 0x1740 0x1753 "1740-1753"]

def canadianAboriginal : CodeSet := [
  setRow 0x1400 0x11abf "1400-167f 18b0-18f5 11ab0-11abf"]

def carian : CodeSet := [
  setRow 0x102a0 0x102d0 "102a0-102d0"]

def caucasianAlbanian : CodeSet := [
  setRow 0x10530 0x1056f "10530-10563 1056f"]

def chakma : CodeSet := [
  setRow 0x11100 0x11147 "11100-11134 11136-11147"]

def cham : CodeSet := [
  setRow 0xaa00 0xaa5f "aa00-aa36 aa40-aa4d aa50-aa59 aa5c-aa5f"]

def cherokee : CodeSet := [
  setRow 0x13a0 0xabbf "13a0-13f5 13f8-13fd ab70-abbf"]

def chorasmian : CodeSet := [
  setRow 0x10fb0 0x10fcb "10fb0-10fcb"]

def common : CodeSet := [
  setRow 0x0 0x385 "0-40 5b-60 7b-a9 ab-b9 bb-bf d7 f7 2b9-2df 2e5-2e9 2ec-2ff 374 37e 385",
  setRow 0x387 0x16ed "387 605 60c 61b 61f 640 6dd 8e2 964-965 e3f fd5-fd8 10fb 16eb-16ed",
  setRow 0x1735 0x1cfa "1735-1736 1802-1803 1805 1cd3 1ce1 1ce9-1cec 1cee-1cf3 1cf5-1cf7 1cfa",
  setRow 0x2000 0x2125 "2000-200b 200e-2064 2066-2070 2074-207e 2080-208e 20a0-20c0 2100-2125",
  setRow 0x2127 0x244a "2127-2129 212c-2131 2133-214d 214f-215f 2189-218b 2190-2429 2440-244a",
  setRow 0x2460 0x3006 "2460-27ff 2900-2b73 2b76-2b95 2b97-2bff 2e00-2e5d 2ff0-3004 3006",
  setRow 0x3008 0x319f "3008-3020 3030-3037 303c-303f 309b-309c 30a0 30fb-30fc 3190-319f",
  setRow 0x31c0 0xa721 "31c0-31e5 31ef 3220-325f 327f-32cf 32ff 3358-33ff 4dc0-4dff a700-a721",
  setRow 0xa788 0xfe19 "a788-a78a a830-a839 a92e a9cf ab5b ab6a-ab6b fd3e-fd3f fe10-fe19",
  setRow 0xfe30 0xff70 "fe30-fe52 fe54-fe66 fe68-fe6b feff ff01-ff20 ff3b-ff40 ff5b-ff65 ff70",
  setRow 0xff9e 0x10133 "ff9e-ff9f ffe0-ffe6 ffe8-ffee fff9-fffd 10100-10102 10107-10133",
  setRow 0x10137 0x1ccf9 "10137-1013f 10190-1019c 101d0-101fc 102e1-102fb 1bca0-1bca3 1cc00-1ccf9",
  setRow 0x1cd00 0x1d17a "1cd00-1ceb3 1cf50-1cfc3 1d000-1d0f5 1d100-1d126 1d129-1d166 1d16a-1d17a",
  setRow 0x1d183 0x1d356 "1d183-1d184 1d18c-1d1a9 1d1ae-1d1ea 1d2c0-1d2d3 1d2e0-1d2f3 1d300-1d356",
  setRow 0x1d360 0x1d4a6 "1d360-1d378 1d400-1d454 1d456-1d49c 1d49e-1d49f 1d4a2 1d4a5-1d4a6",
  setRow 0x1d4a9 0x1d50a "1d4a9-1d4ac 1d4ae-1d4b9 1d4bb 1d4bd-1d4c3 1d4c5-1d505 1d507-1d50a",
  setRow 0x1d50d 0x1d546 "1d50d-1d514 1d516-1d51c 1d51e-1d539 1d53b-1d53e 1d540-1d544 1d546",
  setRow 0x1d54a 0x1ed3d "1d54a-1d550 1d552-1d6a5 1d6a8-1d7cb 1d7ce-1d7ff 1ec71-1ecb4 1ed01-1ed3d",
  setRow 0x1f000 0x1f0f5 "1f000-1f02b 1f030-1f093 1f0a0-1f0ae 1f0b1-1f0bf 1f0c1-1f0cf 1f0d1-1f0f5",
  setRow 0x1f100 0x1f251 "1f100-1f1ad 1f1e6-1f1ff 1f201-1f202 1f210-1f23b 1f240-1f248 1f250-1f251",
  setRow 0x1f260 0x1f7d9 "1f260-1f265 1f300-1f6d7 1f6dc-1f6ec 1f6f0-1f6fc 1f700-1f776 1f77b-1f7d9",
  setRow 0x1f7e0 0x1f887 "1f7e0-1f7eb 1f7f0 1f800-1f80b 1f810-1f847 1f850-1f859 1f860-1f887",
  setRow 0x1f890 0x1fa7c "1f890-1f8ad 1f8b0-1f8bb 1f8c0-1f8c1 1f900-1fa53 1fa60-1fa6d 1fa70-1fa7c",
  setRow 0x1fa80 0x1fb92 "1fa80-1fa89 1fa8f-1fac6 1face-1fadc 1fadf-1fae9 1faf0-1faf8 1fb00-1fb92",
  setRow 0x1fb94 0xe007f "1fb94-1fbf9 e0001 e0020-e007f"]

def coptic : CodeSet := [
  setRow 0x3e2 0x2cff "3e2-3ef 2c80-2cf3 2cf9-2cff"]

def cuneiform : CodeSet := [
  setRow 0x12000 0x12543 "12000-12399 12400-1246e 12470-12474 12480-12543"]

def cypriot : CodeSet := [
  setRow 0x10800 0x1083f "10800-10805 10808 1080a-10835 10837-10838 1083c 1083f"]

def cyproMinoan : CodeSet := [
  setRow 0x12f90 0x12ff2 "12f90-12ff2"]

def cyrillic : CodeSet := [
  setRow 0x400 0xfe2f "400-484 487-52f 1c80-1c8a 1d2b 1d78 2de0-2dff a640-a69f fe2e-fe2f",
  setRow 0x1e030 0x1e08f "1e030-1e06d 1e08f"]

def deseret : CodeSet := [
  setRow 0x10400 0x1044f "10400-1044f"]

def devanagari : CodeSet := [
  setRow 0x900 0x11b09 "900-950 955-963 966-97f a8e0-a8ff 11b00-11b09"]

def divesAkuru : CodeSet := [
  setRow 0x11900 0x11938 "11900-11906 11909 1190c-11913 11915-11916 11918-11935 11937-11938",
  setRow 0x1193b 0x11959 "1193b-11946 11950-11959"]

def dogra : CodeSet := [
  setRow 0x11800 0x1183b "11800-1183b"]

def duployan : CodeSet := [
  setRow 0x1bc00 0x1bc9f "1bc00-1bc6a 1bc70-1bc7c 1bc80-1bc88 1bc90-1bc99 1bc9c-1bc9f"]

def egyptianHieroglyphs : CodeSet := [
  setRow 0x13000 0x143fa "13000-13455 13460-143fa"]

def elbasan : CodeSet := [
  setRow 0x10500 0x10527 "10500-10527"]

def elymaic : CodeSet := [
  setRow 0x10fe0 0x10ff6 "10fe0-10ff6"]

def ethiopic : CodeSet := [
  setRow 0x1200 0x128d "1200-1248 124a-124d 1250-1256 1258 125a-125d 1260-1288 128a-128d",
  setRow 0x1290 0x1310 "1290-12b0 12b2-12b5 12b8-12be 12c0 12c2-12c5 12c8-12d6 12d8-1310",
  setRow 0x1312 0x2dae "1312-1315 1318-135a 135d-137c 1380-1399 2d80-2d96 2da0-2da6 2da8-2dae",
  setRow 0x2db0 0xab06 "2db0-2db6 2db8-2dbe 2dc0-2dc6 2dc8-2dce 2dd0-2dd6 2dd8-2dde ab01-ab06",
  setRow 0xab09 0x1e7eb "ab09-ab0e ab11-ab16 ab20-ab26 ab28-ab2e 1e7e0-1e7e6 1e7e8-1e7eb",
  setRow 0x1e7ed 0x1e7fe "1e7ed-1e7ee 1e7f0-1e7fe"]

def garay : CodeSet := [
  setRow 0x10d40 0x10d8f "10d40-10d65 10d69-10d85 10d8e-10d8f"]

def georgian : CodeSet := [
  setRow 0x10a0 0x2d25 "10a0-10c5 10c7 10cd 10d0-10fa 10fc-10ff 1c90-1cba 1cbd-1cbf 2d00-2d25",
  setRow 0x2d27 0x2d2d "2d27 2d2d"]

def glagolitic : CodeSet := [
  setRow 0x2c00 0x1e02a "2c00-2c5f 1e000-1e006 1e008-1e018 1e01b-1e021 1e023-1e024 1e026-1e02a"]

def gothic : CodeSet := [
  setRow 0x10330 0x1034a "10330-1034a"]

def grantha : CodeSet := [
  setRow 0x11300 0x11333 "11300-11303 11305-1130c 1130f-11310 11313-11328 1132a-11330 11332-11333",
  setRow 0x11335 0x11363 "11335-11339 1133c-11344 11347-11348 1134b-1134d 11350 11357 1135d-11363",
  setRow 0x11366 0x11374 "11366-1136c 11370-11374"]

def greek : CodeSet := [
  setRow 0x370 0x3ff "370-373 375-377 37a-37d 37f 384 386 388-38a 38c 38e-3a1 3a3-3e1 3f0-3ff",
  setRow 0x1d26 0x1f45 "1d26-1d2a 1d5d-1d61 1d66-1d6a 1dbf 1f00-1f15 1f18-1f1d 1f20-1f45",
  setRow 0x1f48 0x1fc4 "1f48-1f4d 1f50-1f57 1f59 1f5b 1f5d 1f5f-1f7d 1f80-1fb4 1fb6-1fc4",
  setRow 0x1fc6 0x1018e "1fc6-1fd3 1fd6-1fdb 1fdd-1fef 1ff2-1ff4 1ff6-1ffe 2126 ab65 10140-1018e",
  setRow 0x101a0 0x1d245 "101a0 1d200-1d245"]

def gujarati : CodeSet := [
  setRow 0xa81 0xac9 "a81-a83 a85-a8d a8f-a91 a93-aa8 aaa-ab0 ab2-ab3 ab5-ab9 abc-ac5 ac7-ac9",
  setRow 0xacb 0xaff "acb-acd ad0 ae0-ae3 ae6-af1 af9-aff"]

def gunjalaGondi : CodeSet := [
  setRow 0x11d60 0x11da9 "11d60-11d65 11d67-11d68 11d6a-11d8e 11d90-11d91 11d93-11d98 11da0-11da9"]

def gurmukhi : CodeSet := [
  setRow 0xa01 0xa3c "a01-a03 a05-a0a a0f-a10 a13-a28 a2a-a30 a32-a33 a35-a36 a38-a39 a3c",
  setRow 0xa3e 0xa76 "a3e-a42 a47-a48 a4b-a4d a51 a59-a5c a5e a66-a76"]

def gurungKhema : CodeSet := [
  setRow 0x16100 0x16139 "16100-16139"]

def han : CodeSet := [
  setRow 0x2e80 0x4dbf "2e80-2e99 2e9b-2ef3 2f00-2fd5 3005 3007 3021-3029 3038-303b 3400-4dbf",
  setRow 0x4e00 0x2a6df "4e00-9fff f900-fa6d fa70-fad9 16fe2-16fe3 16ff0-16ff1 20000-2a6df",
  setRow 0x2a700 0x2fa1d "2a700-2b739 2b740-2b81d 2b820-2cea1 2ceb0-2ebe0 2ebf0-2ee5d 2f800-2fa1d",
  setRow 0x30000 0x323af "30000-3134a 31350-323af"]

def hangul : CodeSet := [
  setRow 0x1100 0xd7a3 "1100-11ff 302e-302f 3131-318e 3200-321e 3260-327e a960-a97c ac00-d7a3",
  setRow 0xd7b0 0xffdc "d7b0-d7c6 d7cb-d7fb ffa0-ffbe ffc2-ffc7 ffca-ffcf ffd2-ffd7 ffda-ffdc"]

def hanifiRohingya : CodeSet := [
  setRow 0x10d00 0x10d39 "10d00-10d27 10d30-10d39"]

def hanunoo : CodeSet := [
  setRow 0x1720 0x1734 "1720-1734"]

def hatran : CodeSet := [
  setRow 0x108e0 0x108ff "108e0-108f2 108f4-108f5 108fb-108ff"]

def hebrew : CodeSet := [
  setRow 0x591 0xfb44 "591-5c7 5d0-5ea 5ef-5f4 fb1d-fb36 fb38-fb3c fb3e fb40-fb41 fb43-fb44",
  setRow 0xfb46 0xfb4f "fb46-fb4f"]

def hiragana : CodeSet := [
  setRow 0x3041 0x1f200 "3041-3096 309d-309f 1b001-1b11f 1b132 1b150-1b152 1f200"]

def imperialAramaic : CodeSet := [
  setRow 0x10840 0x1085f "10840-10855 10857-1085f"]

def inherited : CodeSet := [
  setRow 0x300 0x1ce0 "300-36f 485-486 64b-655 670 951-954 1ab0-1ace 1cd0-1cd2 1cd4-1ce0",
  setRow 0x1ce2 0x302d "1ce2-1ce8 1ced 1cf4 1cf8-1cf9 1dc0-1dff 200c-200d 20d0-20f0 302a-302d",
  setRow 0x3099 0x1cf46 "3099-309a fe00-fe0f fe20-fe2d 101fd 102e0 1133b 1cf00-1cf2d 1cf30-1cf46",
  setRow 0x1d167 0xe01ef "1d167-1d169 1d17b-1d182 1d185-1d18b 1d1aa-1d1ad e0100-e01ef"]

def inscriptionalPahlavi : CodeSet := [
  setRow 0x10b60 0x10b7f "10b60-10b72 10b78-10b7f"]

def inscriptionalParthian : CodeSet := [
  setRow 0x10b40 0x10b5f "10b40-10b55 10b58-10b5f"]

def javanese : CodeSet := [
  setRow 0xa980 0xa9df "a980-a9cd a9d0-a9d9 a9de-a9df"]

def kaithi : CodeSet := [
  setRow 0x11080 0x110cd "11080-110c2 110cd"]

def kannada : CodeSet := [
  setRow 0xc80 0xcd6 "c80-c8c c8e-c90 c92-ca8 caa-cb3 cb5-cb9 cbc-cc4 cc6-cc8 cca-ccd cd5-cd6",
  setRow 0xcdd 0xcf3 "cdd-cde ce0-ce3 ce6-cef cf1-cf3"]

def katakana : CodeSet := [
  setRow 0x30a1 0xff9d "30a1-30fa 30fd-30ff 31f0-31ff 32d0-32fe 3300-3357 ff66-ff6f ff71-ff9d",
  setRow 0x1aff0 0x1b167 "1aff0-1aff3 1aff5-1affb 1affd-1affe 1b000 1b120-1b122 1b155 1b164-1b167"]

def kawi : CodeSet := [
  setRow 0x11f00 0x11f5a "11f00-11f10 11f12-11f3a 11f3e-11f5a"]

def kayahLi : CodeSet := [
  setRow 0xa900 0xa92f "a900-a92d a92f"]

def kharoshthi : CodeSet := [
  setRow 0x10a00 0x10a3a "10a00-10a03 10a05-10a06 10a0c-10a13 10a15-10a17 10a19-10a35 10a38-10a3a",
  setRow 0x10a3f 0x10a58 "10a3f-10a48 10a50-10a58"]

def khitanSmallScript : CodeSet := [
  setRow 0x16fe4 0x18cff "16fe4 18b00-18cd5 18cff"]

def khmer : CodeSet := [
  setRow 0x1780 0x19ff "1780-17dd 17e0-17e9 17f0-17f9 19e0-19ff"]

def khojki : CodeSet := [
  setRow 0x11200 0x11241 "11200-11211 11213-11241"]

def khudawadi : CodeSet := [
  setRow 0x112b0 0x112f9 "112b0-112ea 112f0-112f9"]

def kiratRai : CodeSet := [
  setRow 0x16d40 0x16d79 "16d40-16d79"]

def lao : CodeSet := [
  setRow 0xe81 0xed9 "e81-e82 e84 e86-e8a e8c-ea3 ea5 ea7-ebd ec0-ec4 ec6 ec8-ece ed0-ed9",
  setRow 0xedc 0xedf "edc-edf"]

def latin : CodeSet := [
  setRow 0x41 0x1d5c "41-5a 61-7a aa ba c0-d6 d8-f6 f8-2b8 2e0-2e4 1d00-1d25 1d2c-1d5c",
  setRow 0x1d62 0x212b "1d62-1d65 1d6b-1d77 1d79-1dbe 1e00-1eff 2071 207f 2090-209c 212a-212b",
  setRow 0x2132 0xa7d3 "2132 214e 2160-2188 2c60-2c7f a722-a787 a78b-a7cd a7d0-a7d1 a7d3",
  setRow 0xa7d5 0xff3a "a7d5-a7dc a7f2-a7ff ab30-ab5a ab5c-ab64 ab66-ab69 fb00-fb06 ff21-ff3a",
  setRow 0xff41 0x1df2a "ff41-ff5a 10780-10785 10787-107b0 107b2-107ba 1df00-1df1e 1df25-1df2a"]

def lepcha : CodeSet := [
  setRow 0x1c00 0x1c4f "1c00-1c37 1c3b-1c49 1c4d-1c4f"]

def limbu : CodeSet := [
  setRow 0x1900 0x194f "1900-191e 1920-192b 1930-193b 1940 1944-194f"]

def linearA : CodeSet := [
  setRow 0x10600 0x10767 "10600-10736 10740-10755 10760-10767"]

def linearB : CodeSet := [
  setRow 0x10000 0x1005d "10000-1000b 1000d-10026 10028-1003a 1003c-1003d 1003f-1004d 10050-1005d",
  setRow 0x10080 0x100fa "10080-100fa"]

def lisu : CodeSet := [
  setRow 0xa4d0 0x11fb0 "a4d0-a4ff 11fb0"]

def lycian : CodeSet := [
  setRow 0x10280 0x1029c "10280-1029c"]

def lydian : CodeSet := [
  setRow 0x10920 0x1093f "10920-10939 1093f"]

def mahajani : CodeSet := [
  setRow 0x11150 0x11176 "11150-11176"]

def makasar : CodeSet := [
  setRow 0x11ee0 0x11ef8 "11ee0-11ef8"]

def malayalam : CodeSet := [
  setRow 0xd00 0xd7f "d00-d0c d0e-d10 d12-d44 d46-d48 d4a-d4f d54-d63 d66-d7f"]

def mandaic : CodeSet := [
  setRow 0x840 0x85e "840-85b 85e"]

def manichaean : CodeSet := [
  setRow 0x10ac0 0x10af6 "10ac0-10ae6 10aeb-10af6"]

def marchen : CodeSet := [
  setRow 0x11c70 0x11cb6 "11c70-11c8f 11c92-11ca7 11ca9-11cb6"]

def masaramGondi : CodeSet := [
  setRow 0x11d00 0x11d47 "11d00-11d06 11d08-11d09 11d0b-11d36 11d3a 11d3c-11d3d 11d3f-11d47",
  setRow 0x11d50 0x11d59 "11d50-11d59"]

def medefaidrin : CodeSet := [
  setRow 0x16e40 0x16e9a "16e40-16e9a"]

def meeteiMayek : CodeSet := [
  setRow 0xaae0 0xabf9 "aae0-aaf6 abc0-abed abf0-abf9"]

def mendeKikakui : CodeSet := [
  setRow 0x1e800 0x1e8d6 "1e800-1e8c4 1e8c7-1e8d6"]

def meroiticCursive : CodeSet := [
  setRow 0x109a0 0x109ff "109a0-109b7 109bc-109cf 109d2-109ff"]

def meroiticHieroglyphs : CodeSet := [
  setRow 0x10980 0x1099f "10980-1099f"]

def miao : CodeSet := [
  setRow 0x16f00 0x16f9f "16f00-16f4a 16f4f-16f87 16f8f-16f9f"]

def modi : CodeSet := [
  setRow 0x11600 0x11659 "11600-11644 11650-11659"]

def mongolian : CodeSet := [
  setRow 0x1800 0x1166c "1800-1801 1804 1806-1819 1820-1878 1880-18aa 11660-1166c"]

def mro : CodeSet := [
  setRow 0x16a40 0x16a6f "16a40-16a5e 16a60-16a69 16a6e-16a6f"]

def multani : CodeSet := [
  setRow 0x11280 0x112a9 "11280-11286 11288 1128a-1128d 1128f-1129d 1129f-112a9"]

def myanmar : CodeSet := [
  setRow 0x1000 0x116e3 "1000-109f a9e0-a9fe aa60-aa7f 116d0-116e3"]

def nabataean : CodeSet := [
  setRow 0x10880 0x108af "10880-1089e 108a7-108af"]

def nagMundari : CodeSet := [
  setRow 0x1e4d0 0x1e4f9 "1e4d0-1e4f9"]

def nandinagari : CodeSet := [
  setRow 0x119a0 0x119e4 "119a0-119a7 119aa-119d7 119da-119e4"]

def newTaiLue : CodeSet := [
  setRow 0x1980 0x19df "1980-19ab 19b0-19c9 19d0-19da 19de-19df"]

def newa : CodeSet := [
  setRow 0x11400 0x11461 "11400-1145b 1145d-11461"]

def nko : CodeSet := [
  setRow 0x7c0 0x7ff "7c0-7fa 7fd-7ff"]

def nushu : CodeSet := [
  setRow 0x16fe1 0x1b2fb "16fe1 1b170-1b2fb"]

def nyiakengPuachueHmong : CodeSet := [
  setRow 0x1e100 0x1e14f "1e100-1e12c 1e130-1e13d 1e140-1e149 1e14e-1e14f"]

def ogham : CodeSet := [
  setRow 0x1680 0x169c "1680-169c"]

def olChiki : CodeSet := [
  setRow 0x1c50 0x1c7f "1c50-1c7f"]

def olOnal : CodeSet := [
  setRow 0x1e5d0 0x1e5ff "1e5d0-1e5fa 1e5ff"]

def oldHungarian : CodeSet := [
  setRow 0x10c80 0x10cff "10c80-10cb2 10cc0-10cf2 10cfa-10cff"]

def oldItalic : CodeSet := [
  setRow 0x10300 0x1032f "10300-10323 1032d-1032f"]

def oldNorthArabian : CodeSet := [
  setRow 0x10a80 0x10a9f "10a80-10a9f"]

def oldPermic : CodeSet := [
  setRow 0x10350 0x1037a "10350-1037a"]

def oldPersian : CodeSet := [
  setRow 0x103a0 0x103d5 "103a0-103c3 103c8-103d5"]

def oldSogdian : CodeSet := [
  setRow 0x10f00 0x10f27 "10f00-10f27"]

def oldSouthArabian : CodeSet := [
  setRow 0x10a60 0x10a7f "10a60-10a7f"]

def oldTurkic : CodeSet := [
  setRow 0x10c00 0x10c48 "10c00-10c48"]

def oldUyghur : CodeSet := [
  setRow 0x10f70 0x10f89 "10f70-10f89"]

def oriya : CodeSet := [
  setRow 0xb01 0xb48 "b01-b03 b05-b0c b0f-b10 b13-b28 b2a-b30 b32-b33 b35-b39 b3c-b44 b47-b48",
  setRow 0xb4b 0xb77 "b4b-b4d b55-b57 b5c-b5d b5f-b63 b66-b77"]

def osage : CodeSet := [
  setRow 0x104b0 0x104fb "104b0-104d3 104d8-104fb"]

def osmanya : CodeSet := [
  setRow 0x10480 0x104a9 "10480-1049d 104a0-104a9"]

def pahawhHmong : CodeSet := [
  setRow 0x16b00 0x16b8f "16b00-16b45 16b50-16b59 16b5b-16b61 16b63-16b77 16b7d-16b8f"]

def palmyrene : CodeSet := [
  setRow 0x10860 0x1087f "10860-1087f"]

def pauCinHau : CodeSet := [
  setRow 0x11ac0 0x11af8 "11ac0-11af8"]

def phagsPa : CodeSet := [
  setRow 0xa840 0xa877 "a840-a877"]

def phoenician : CodeSet := [
  setRow 0x10900 0x1091f "10900-1091b 1091f"]

def psalterPahlavi : CodeSet := [
  setRow 0x10b80 0x10baf "10b80-10b91 10b99-10b9c 10ba9-10baf"]

def rejang : CodeSet := [
  setRow 0xa930 0xa95f "a930-a953 a95f"]

def runic : CodeSet := [
  setRow 0x16a0 0x16f8 "16a0-16ea 16ee-16f8"]

def samaritan : CodeSet := [
  setRow 0x800 0x83e "800-82d 830-83e"]

def saurashtra : CodeSet := [
  setRow 0xa880 0xa8d9 "a880-a8c5 a8ce-a8d9"]

def sharada : CodeSet := [
  setRow 0x11180 0x111df "11180-111df"]

def shavian : CodeSet := [
  setRow 0x10450 0x1047f "10450-1047f"]

def siddham : CodeSet := [
  setRow 0x11580 0x115dd "11580-115b5 115b8-115dd"]

def signwriting : CodeSet := [
  setRow 0x1d800 0x1daaf "1d800-1da8b 1da9b-1da9f 1daa1-1daaf"]

def sinhala : CodeSet := [
  setRow 0xd81 0xddf "d81-d83 d85-d96 d9a-db1 db3-dbb dbd dc0-dc6 dca dcf-dd4 dd6 dd8-ddf",
  setRow 0xde6 0x111f4 "de6-def df2-df4 111e1-111f4"]

def sogdian : CodeSet := [
  setRow 0x10f30 0x10f59 "10f30-10f59"]

def soraSompeng : CodeSet := [
  setRow 0x110d0 0x110f9 "110d0-110e8 110f0-110f9"]

def soyombo : CodeSet := [
  setRow 0x11a50 0x11aa2 "11a50-11aa2"]

def sundanese : CodeSet := [
  setRow 0x1b80 0x1cc7 "1b80-1bbf 1cc0-1cc7"]

def sunuwar : CodeSet := [
  setRow 0x11bc0 0x11bf9 "11bc0-11be1 11bf0-11bf9"]

def sylotiNagri : CodeSet := [
  setRow 0xa800 0xa82c "a800-a82c"]

def syriac : CodeSet := [
  setRow 0x700 0x86a "700-70d 70f-74a 74d-74f 860-86a"]

def tagalog : CodeSet := [
  setRow 0x1700 0x171f "1700-1715 171f"]

def tagbanwa : CodeSet := [
  setRow 0x1760 0x1773 "1760-176c 176e-1770 1772-1773"]

def taiLe : CodeSet := [
  setRow 0x1950 0x1974 "1950-196d 1970-1974"]

def taiTham : CodeSet := [
  setRow 0x1a20 0x1aad "1a20-1a5e 1a60-1a7c 1a7f-1a89 1a90-1a99 1aa0-1aad"]

def taiViet : CodeSet := [
  setRow 0xaa80 0xaadf "aa80-aac2 aadb-aadf"]

def takri : CodeSet := [
  setRow 0x11680 0x116c9 "11680-116b9 116c0-116c9"]

def tamil : CodeSet := [
  setRow 0xb82 0xbaa "b82-b83 b85-b8a b8e-b90 b92-b95 b99-b9a b9c b9e-b9f ba3-ba4 ba8-baa",
  setRow 0xbae 0x11fff "bae-bb9 bbe-bc2 bc6-bc8 bca-bcd bd0 bd7 be6-bfa 11fc0-11ff1 11fff"]

def tangsa : CodeSet := [
  setRow 0x16a70 0x16ac9 "16a70-16abe 16ac0-16ac9"]

def tangut : CodeSet := [
  setRow 0x16fe0 0x18d08 "16fe0 17000-187f7 18800-18aff 18d00-18d08"]

def telugu : CodeSet := [
  setRow 0xc00 0xc5a "c00-c0c c0e-c10 c12-c28 c2a-c39 c3c-c44 c46-c48 c4a-c4d c55-c56 c58-c5a",
  setRow 0xc5d 0xc7f "c5d c60-c63 c66-c6f c77-c7f"]

def thaana : CodeSet := [
  setRow 0x780 0x7b1 "780-7b1"]

def thai : CodeSet := [
  setRow 0xe01 0xe5b "e01-e3a e40-e5b"]

def tibetan : CodeSet := [
  setRow 0xf00 0xfda "f00-f47 f49-f6c f71-f97 f99-fbc fbe-fcc fce-fd4 fd9-fda"]

def tifinagh : CodeSet := [
  setRow 0x2d30 0x2d7f "2d30-2d67 2d6f-2d70 2d7f"]

def tirhuta : CodeSet := [
  setRow 0x11480 0x114d9 "11480-114c7 114d0-114d9"]

def todhri : CodeSet := [
  setRow 0x105c0 0x105f3 "105c0-105f3"]

def toto : CodeSet := [
  setRow 0x1e290 0x1e2ae "1e290-1e2ae"]

def tuluTigalari : CodeSet := [
  setRow 0x11380 0x113ca "11380-11389 1138b 1138e 11390-113b5 113b7-113c0 113c2 113c5 113c7-113ca",
  setRow 0x113cc 0x113e2 "113cc-113d5 113d7-113d8 113e1-113e2"]

def ugaritic : CodeSet := [
  setRow 0x10380 0x1039f "10380-1039d 1039f"]

def vai : CodeSet := [
  setRow 0xa500 0xa62b "a500-a62b"]

def vithkuqi : CodeSet := [
  setRow 0x10570 0x105b1 "10570-1057a 1057c-1058a 1058c-10592 10594-10595 10597-105a1 105a3-105b1",
  setRow 0x105b3 0x105bc "105b3-105b9 105bb-105bc"]

def wancho : CodeSet := [
  setRow 0x1e2c0 0x1e2ff "1e2c0-1e2f9 1e2ff"]

def warangCiti : CodeSet := [
  setRow 0x118a0 0x118ff "118a0-118f2 118ff"]

def yezidi : CodeSet := [
  setRow 0x10e80 0x10eb1 "10e80-10ea9 10eab-10ead 10eb0-10eb1"]

def yi : CodeSet := [
  setRow 0xa000 0xa4c6 "a000-a48c a490-a4c6"]

def zanabazarSquare : CodeSet := [
  setRow 0x11a00 0x11a47 "11a00-11a47"]

def named : List (List String × CodeSet) := [
  (["adlam", "adlm"], adlam),
  (["ahom"], ahom),
  (["anatolianhieroglyphs", "hluw"], anatolianHieroglyphs),
  (["arab", "arabic"], arabic),
  (["armenian", "armn"], armenian),
  (["avestan", "avst"], avestan),
  (["bali", "balinese"], balinese),
  (["bamu", "bamum"], bamum),
  (["bass", "bassavah"], bassaVah),
  (["batak", "batk"], batak),
  (["beng", "bengali"], bengali),
  (["bhaiksuki", "bhks"], bhaiksuki),
  (["bopo", "bopomofo"], bopomofo),
  (["brah", "brahmi"], brahmi),
  (["brai", "braille"], braille),
  (["bugi", "buginese"], buginese),
  (["buhd", "buhid"], buhid),
  (["canadianaboriginal", "cans"], canadianAboriginal),
  (["cari", "carian"], carian),
  (["aghb", "caucasianalbanian"], caucasianAlbanian),
  (["cakm", "chakma"], chakma),
  (["cham"], cham),
  (["cher", "cherokee"], cherokee),
  (["chorasmian", "chrs"], chorasmian),
  (["common", "zyyy"], common),
  (["copt", "coptic", "qaac"], coptic),
  (["cuneiform", "xsux"], cuneiform),
  (["cprt", "cypriot"], cypriot),
  (["cpmn", "cyprominoan"], cyproMinoan),
  (["cyrillic", "cyrl"], cyrillic),
  (["deseret", "dsrt"], deseret),
  (["deva", "devanagari"], devanagari),
  (["diak", "divesakuru"], divesAkuru),
  (["dogr", "dogra"], dogra),
  (["dupl", "duployan"], duployan),
  (["egyp", "egyptianhieroglyphs"], egyptianHieroglyphs),
  (["elba", "elbasan"], elbasan),
  (["elym", "elymaic"], elymaic),
  (["ethi", "ethiopic"], ethiopic),
  (["gara", "garay"], garay),
  (["geor", "georgian"], georgian),
  (["glag", "glagolitic"], glagolitic),
  (["goth", "gothic"], gothic),
  (["gran", "grantha"], grantha),
  (["greek", "grek"], greek),
  (["gujarati", "gujr"], gujarati),
  (["gong", "gunjalagondi"], gunjalaGondi),
  (["gurmukhi", "guru"], gurmukhi),
  (["gukh", "gurungkhema"], gurungKhema),
  (["han", "hani"], han),
  (["hang", "hangul"], hangul),
  (["hanifirohingya", "rohg"], hanifiRohingya),
  (["hano", "hanunoo"], hanunoo),
  (["hatr", "hatran"], hatran),
  (["hebr", "hebrew"], hebrew),
  (["hira", "hiragana"], hiragana),
  (["armi", "imperialaramaic"], imperialAramaic),
  (["inherited", "qaai", "zinh"], inherited),
  (["inscriptionalpahlavi", "phli"], inscriptionalPahlavi),
  (["inscriptionalparthian", "prti"], inscriptionalParthian),
  (["java", "javanese"], javanese),
  (["kaithi", "kthi"], kaithi),
  (["kannada", "knda"], kannada),
  (["kana", "katakana"], katakana),
  (["kawi"], kawi),
  (["kali", "kayahli"], kayahLi),
  (["khar", "kharoshthi"], kharoshthi),
  (["khitansmallscript", "kits"], khitanSmallScript),
  (["khmer", "khmr"], khmer),
  (["khoj", "khojki"], khojki),
  (["khudawadi", "sind"], khudawadi),
  (["kiratrai", "krai"], kiratRai),
  (["lao", "laoo"], lao),
  (["latin", "latn"], latin),
  (["lepc", "lepcha"], lepcha),
  (["limb", "limbu"], limbu),
  (["lina", "lineara"], linearA),
  (["linb", "linearb"], linearB),
  (["lisu"], lisu),
  (["lyci", "lycian"], lycian),
  (["lydi", "lydian"], lydian),
  (["mahajani", "mahj"], mahajani),
  (["maka", "makasar"], makasar),
  (["malayalam", "mlym"], malayalam),
  (["mand", "mandaic"], mandaic),
  (["mani", "manichaean"], manichaean),
  (["marc", "marchen"], marchen),
  (["gonm", "masaramgondi"], masaramGondi),
  (["medefaidrin", "medf"], medefaidrin),
  (["meeteimayek", "mtei"], meeteiMayek),
  (["mend", "mendekikakui"], mendeKikakui),
  (["merc", "meroiticcursive"], meroiticCursive),
  (["mero", "meroitichieroglyphs"], meroiticHieroglyphs),
  (["miao", "plrd"], miao),
  (["modi"], modi),
  (["mong", "mongolian"], mongolian),
  (["mro", "mroo"], mro),
  (["mult", "multani"], multani),
  (["myanmar", "mymr"], myanmar),
  (["nabataean", "nbat"], nabataean),
  (["nagm", "nagmundari"], nagMundari),
  (["nand", "nandinagari"], nandinagari),
  (["newtailue", "talu"], newTaiLue),
  (["newa"], newa),
  (["nko", "nkoo"], nko),
  (["nshu", "nushu"], nushu),
  (["hmnp", "nyiakengpuachuehmong"], nyiakengPuachueHmong),
  (["ogam", "ogham"], ogham),
  (["olchiki", "olck"], olChiki),
  (["olonal", "onao"], olOnal),
  (["hung", "oldhungarian"], oldHungarian),
  (["ital", "olditalic"], oldItalic),
  (["narb", "oldnortharabian"], oldNorthArabian),
  (["oldpermic", "perm"], oldPermic),
  (["oldpersian", "xpeo"], oldPersian),
  (["oldsogdian", "sogo"], oldSogdian),
  (["oldsoutharabian", "sarb"], oldSouthArabian),
  (["oldturkic", "orkh"], oldTurkic),
  (["olduyghur", "ougr"], oldUyghur),
  (["oriya", "orya"], oriya),
  (["osage", "osge"], osage),
  (["osma", "osmanya"], osmanya),
  (["hmng", "pahawhhmong"], pahawhHmong),
  (["palm", "palmyrene"], palmyrene),
  (["pauc", "paucinhau"], pauCinHau),
  (["phag", "phagspa"], phagsPa),
  (["phnx", "phoenician"], phoenician),
  (["phlp", "psalterpahlavi"], psalterPahlavi),
  (["rejang", "rjng"], rejang),
  (["runic", "runr"], runic),
  (["samaritan", "samr"], samaritan),
  (["saur", "saurashtra"], saurashtra),
  (["sharada", "shrd"], sharada),
  (["shavian", "shaw"], shavian),
  (["sidd", "siddham"], siddham),
  (["sgnw", "signwriting"], signwriting),
  (["sinh", "sinhala"], sinhala),
  (["sogd", "sogdian"], sogdian),
  (["sora", "sorasompeng"], soraSompeng),
  (["soyo", "soyombo"], soyombo),
  (["sund", "sundanese"], sundanese),
  (["sunu", "sunuwar"], sunuwar),
  (["sylo", "sylotinagri"], sylotiNagri),
  (["syrc", "syriac"], syriac),
  (["tagalog", "tglg"], tagalog),
  (["tagb", "tagbanwa"], tagbanwa),
  (["taile", "tale"], taiLe),
  (["lana", "taitham"], taiTham),
  (["taiviet", "tavt"], taiViet),
  (["takr", "takri"], takri),
  (["tamil", "taml"], tamil),
  (["tangsa", "tnsa"], tangsa),
  (["tang", "tangut"], tangut),
  (["telu", "telugu"], telugu),
  (["thaa", "thaana"], thaana),
  (["thai"], thai),
  (["tibetan", "tibt"], tibetan),
  (["tfng", "tifinagh"], tifinagh),
  (["tirh", "tirhuta"], tirhuta),
  (["todhri", "todr"], todhri),
  (["toto"], toto),
  (["tulutigalari", "tutg"], tuluTigalari),
  (["ugar", "ugaritic"], ugaritic),
  (["vai", "vaii"], vai),
  (["vith", "vithkuqi"], vithkuqi),
  (["wancho", "wcho"], wancho),
  (["wara", "warangciti"], warangCiti),
  (["yezi", "yezidi"], yezidi),
  (["yi", "yiii"], yi),
  (["zanabazarsquare", "zanb"], zanabazarSquare)]

end TextFeatures.Unicode.Script
