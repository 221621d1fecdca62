import TextFeatures.Unicode.Table

namespace TextFeatures.Unicode.SentenceBreak

def aterm : CodeSet := [
  setRow 0x2e 0xff0e "2e 2024 fe52 ff0e"]

def cr : CodeSet := [
  setRow 0xd 0xd "d"]

def close : CodeSet := [
  setRow 0x22 0x203a "22 27-29 5b 5d 7b 7d ab bb f3a-f3d 169b-169c 2018-201f 2039-203a",
  setRow 0x2045 0x2775 "2045-2046 207d-207e 208d-208e 2308-230b 2329-232a 275b-2760 2768-2775",
  setRow 0x27c5 0x2e1d "27c5-27c6 27e6-27ef 2983-2998 29d8-29db 29fc-29fd 2e00-2e0d 2e1c-2e1d",
  setRow 0x2e20 0xfd3f "2e20-2e29 2e42 2e55-2e5c 3008-3011 3014-301b 301d-301f fd3e-fd3f",
  setRow 0xfe17 0xff5d "fe17-fe18 fe35-fe44 fe47-fe48 fe59-fe5e ff08-ff09 ff3b ff3d ff5b ff5d",
  setRow 0xff5f 0x1f678 "ff5f-ff60 ff62-ff63 1f676-1f678"]

def extend : CodeSet := [
  setRow 0x300 0x670 "300-36f 483-489 591-5bd 5bf 5c1-5c2 5c4-5c5 5c7 610-61a 64b-65f 670",
  setRow 0x6d6 0x819 "6d6-6dc 6df-6e4 6e7-6e8 6ea-6ed 711 730-74a 7a6-7b0 7eb-7f3 7fd 816-819",
  setRow 0x81b 0x94f "81b-823 825-827 829-82d 859-85b 897-89f 8ca-8e1 8e3-903 93a-93c 93e-94f",
  setRow 0x951 0x9fe "951-957 962-963 981-983 9bc 9be-9c4 9c7-9c8 9cb-9cd 9d7 9e2-9e3 9fe",
  setRow 0xa01 0xac5 "a01-a03 a3c a3e-a42 a47-a48 a4b-a4d a51 a70-a71 a75 a81-a83 abc abe-ac5",
  setRow 0xac7 0xb4d "ac7-ac9 acb-acd ae2-ae3 afa-aff b01-b03 b3c b3e-b44 b47-b48 b4b-b4d",
  setRow 0xb55 0xc44 "b55-b57 b62-b63 b82 bbe-bc2 bc6-bc8 bca-bcd bd7 c00-c04 c3c c3e-c44",
  setRow 0xc46 0xccd "c46-c48 c4a-c4d c55-c56 c62-c63 c81-c83 cbc cbe-cc4 cc6-cc8 cca-ccd",
  setRow 0xcd5 0xd63 "cd5-cd6 ce2-ce3 cf3 d00-d03 d3b-d3c d3e-d44 d46-d48 d4a-d4d d57 d62-d63",
  setRow 0xd81 0xebc "d81-d83 dca dcf-dd4 dd6 dd8-ddf df2-df3 e31 e34-e3a e47-e4e eb1 eb4-ebc",
  setRow 0xec8 0xfc6 "ec8-ece f18-f19 f35 f37 f39 f3e-f3f f71-f84 f86-f87 f8d-f97 f99-fbc fc6",
  setRow 0x102b 0x108d "102b-103e 1056-1059 105e-1060 1062-1064 1067-106d 1071-1074 1082-108d",
  setRow 0x108f 0x1773 "108f 109a-109d 135d-135f 1712-1715 1732-1734 1752-1753 1772-1773",
  setRow 0x17b4 0x193b "17b4-17d3 17dd 180b-180d 180f 1885-1886 18a9 1920-192b 1930-193b",
  setRow 0x1a17 0x1b44 "1a17-1a1b 1a55-1a5e 1a60-1a7c 1a7f 1ab0-1ace 1b00-1b04 1b34-1b44",
  setRow 0x1b6b 0x1ce8 "1b6b-1b73 1b80-1b82 1ba1-1bad 1be6-1bf3 1c24-1c37 1cd0-1cd2 1cd4-1ce8",
  setRow 0x1ced 0x2d7f "1ced 1cf4 1cf7-1cf9 1dc0-1dff 200c-200d 20d0-20f0 2cef-2cf1 2d7f",
  setRow 0x2de0 0xa6f1 "2de0-2dff 302a-302f 3099-309a a66f-a672 a674-a67d a69e-a69f a6f0-a6f1",
  setRow 0xa802 0xa8ff "a802 a806 a80b a823-a827 a82c a880-a881 a8b4-a8c5 a8e0-a8f1 a8ff",
  setRow 0xa926 0xaa4d "a926-a92d a947-a953 a980-a983 a9b3-a9c0 a9e5 aa29-aa36 aa43 aa4c-aa4d",
  setRow 0xaa7b 0xaaf6 "aa7b-aa7d aab0 aab2-aab4 aab7-aab8 aabe-aabf aac1 aaeb-aaef aaf5-aaf6",
  setRow 0xabe3 0x102e0 "abe3-abea abec-abed fb1e fe00-fe0f fe20-fe2f ff9e-ff9f 101fd 102e0",
  setRow 0x10376 0x10a3f "10376-1037a 10a01-10a03 10a05-10a06 10a0c-10a0f 10a38-10a3a 10a3f",
  setRow 0x10ae5 0x10f50 "10ae5-10ae6 10d24-10d27 10d69-10d6d 10eab-10eac 10efc-10eff 10f46-10f50",
  setRow 0x10f82 0x11082 "10f82-10f85 11000-11002 11038-11046 11070 11073-11074 1107f-11082",
  setRow 0x110b0 0x11182 "110b0-110ba 110c2 11100-11102 11127-11134 11145-11146 11173 11180-11182",
  setRow 0x111b3 0x112ea "111b3-111c0 111c9-111cc 111ce-111cf 1122c-11237 1123e 11241 112df-112ea",
  setRow 0x11300 0x11357 "11300-11303 1133b-1133c 1133e-11344 11347-11348 1134b-1134d 11357",
  setRow 0x11362 0x113ca "11362-11363 11366-1136c 11370-11374 113b8-113c0 113c2 113c5 113c7-113ca",
  setRow 0x113cc 0x115b5 "113cc-113d0 113d2 113e1-113e2 11435-11446 1145e 114b0-114c3 115af-115b5",
  setRow 0x115b8 0x1183a "115b8-115c0 115dc-115dd 11630-11640 116ab-116b7 1171d-1172b 1182c-1183a",
  setRow 0x11930 0x119d7 "11930-11935 11937-11938 1193b-1193e 11940 11942-11943 119d1-119d7",
  setRow 0x119da 0x11a5b "119da-119e0 119e4 11a01-11a0a 11a33-11a39 11a3b-11a3e 11a47 11a51-11a5b",
  setRow 0x11a8a 0x11d36 "11a8a-11a99 11c2f-11c36 11c38-11c3f 11c92-11ca7 11ca9-11cb6 11d31-11d36",
  setRow 0x11d3a 0x11d97 "11d3a 11d3c-11d3d 11d3f-11d45 11d47 11d8a-11d8e 11d90-11d91 11d93-11d97",
  setRow 0x11ef3 0x13440 "11ef3-11ef6 11f00-11f01 11f03 11f34-11f3a 11f3e-11f42 11f5a 13440",
  setRow 0x13447 0x16f87 "13447-13455 1611e-1612f 16af0-16af4 16b30-16b36 16f4f 16f51-16f87",
  setRow 0x16f8f 0x1cf46 "16f8f-16f92 16fe4 16ff0-16ff1 1bc9d-1bc9e 1cf00-1cf2d 1cf30-1cf46",
  setRow 0x1d165 0x1d244 "1d165-1d169 1d16d-1d172 1d17b-1d182 1d185-1d18b 1d1aa-1d1ad 1d242-1d244",
  setRow 0x1da00 0x1e006 "1da00-1da36 1da3b-1da6c 1da75 1da84 1da9b-1da9f 1daa1-1daaf 1e000-1e006",
  setRow 0x1e008 0x1e2ae "1e008-1e018 1e01b-1e021 1e023-1e024 1e026-1e02a 1e08f 1e130-1e136 1e2ae",
  setRow 0x1e2ec 0xe007f "1e2ec-1e2ef 1e4ec-1e4ef 1e5ee-1e5ef 1e8d0-1e8d6 1e944-1e94a e0020-e007f",
  setRow 0xe0100 0xe01ef "e0100-e01ef"]

def format : CodeSet := [
  setRow 0xad 0xfeff "ad 61c 70f 180e 200b 200e-200f 202a-202e 2060-2064 2066-206f feff",
  setRow 0xfff9 0xe0001 "fff9-fffb 13430-1343f 1bca0-1bca3 1d173-1d17a e0001"]

def lf : CodeSet := [
  setRow 0xa 0xa "a"]

def lower : CodeSet := [
  setRow 0x61 0x115 "61-7a aa b5 ba df-f6 f8-ff 101 103 105 107 109 10b 10d 10f 111 113 115",
  setRow 0x117 0x138 "117 119 11b 11d 11f 121 123 125 127 129 12b 12d 12f 131 133 135 137-138",
  setRow 0x13a 0x15b "13a 13c 13e 140 142 144 146 148-149 14b 14d 14f 151 153 155 157 159 15b",
  setRow 0x15d 0x180 "15d 15f 161 163 165 167 169 16b 16d 16f 171 173 175 177 17a 17c 17e-180",
  setRow 0x183 0x1b0 "183 185 188 18c-18d 192 195 199-19b 19e 1a1 1a3 1a5 1a8 1aa-1ab 1ad 1b0",
  setRow 0x1b4 0x1dd "1b4 1b6 1b9-1ba 1bd-1bf 1c6 1c9 1cc 1ce 1d0 1d2 1d4 1d6 1d8 1da 1dc-1dd",
  setRow 0x1df 0x203 "1df 1e1 1e3 1e5 1e7 1e9 1eb 1ed 1ef-1f0 1f3 1f5 1f9 1fb 1fd 1ff 201 203",
  setRow 0x205 0x227 "205 207 209 20b 20d 20f 211 213 215 217 219 21b 21d 21f 221 223 225 227",
  setRow 0x229 0x293 "229 22b 22d 22f 231 233-239 23c 23f-240 242 247 249 24b 24d 24f-293",
  setRow 0x295 0x3d7 "295-2b8 2c0-2c1 2e0-2e4 371 373 377 37a-37d 390 3ac-3ce 3d0-3d1 3d5-3d7",
  setRow 0x3d9 0x3fc "3d9 3db 3dd 3df 3e1 3e3 3e5 3e7 3e9 3eb 3ed 3ef-3f3 3f5 3f8 3fb-3fc",
  setRow 0x430 0x47f "430-45f 461 463 465 467 469 46b 46d 46f 471 473 475 477 479 47b 47d 47f",
  setRow 0x481 0x4ab "481 48b 48d 48f 491 493 495 497 499 49b 49d 49f 4a1 4a3 4a5 4a7 4a9 4ab",
  setRow 0x4ad 0x4cf "4ad 4af 4b1 4b3 4b5 4b7 4b9 4bb 4bd 4bf 4c2 4c4 4c6 4c8 4ca 4cc 4ce-4cf",
  setRow 0x4d1 0x4f3 "4d1 4d3 4d5 4d7 4d9 4db 4dd 4df 4e1 4e3 4e5 4e7 4e9 4eb 4ed 4ef 4f1 4f3",
  setRow 0x4f5 0x517 "4f5 4f7 4f9 4fb 4fd 4ff 501 503 505 507 509 50b 50d 50f 511 513 515 517",
  setRow 0x519 0x13fd "519 51b 51d 51f 521 523 525 527 529 52b 52d 52f 560-588 10fc 13f8-13fd",
  setRow 0x1c80 0x1e11 "1c80-1c88 1c8a 1d00-1dbf 1e01 1e03 1e05 1e07 1e09 1e0b 1e0d 1e0f 1e11",
  setRow 0x1e13 0x1e2d "1e13 1e15 1e17 1e19 1e1b 1e1d 1e1f 1e21 1e23 1e25 1e27 1e29 1e2b 1e2d",
  setRow 0x1e2f 0x1e49 "1e2f 1e31 1e33 1e35 1e37 1e39 1e3b 1e3d 1e3f 1e41 1e43 1e45 1e47 1e49",
  setRow 0x1e4b 0x1e65 "1e4b 1e4d 1e4f 1e51 1e53 1e55 1e57 1e59 1e5b 1e5d 1e5f 1e61 1e63 1e65",
  setRow 0x1e67 0x1e81 "1e67 1e69 1e6b 1e6d 1e6f 1e71 1e73 1e75 1e77 1e79 1e7b 1e7d 1e7f 1e81",
  setRow 0x1e83 0x1ea3 "1e83 1e85 1e87 1e89 1e8b 1e8d 1e8f 1e91 1e93 1e95-1e9d 1e9f 1ea1 1ea3",
  setRow 0x1ea5 0x1ebf "1ea5 1ea7 1ea9 1eab 1ead 1eaf 1eb1 1eb3 1eb5 1eb7 1eb9 1ebb 1ebd 1ebf",
  setRow 0x1ec1 0x1edb "1ec1 1ec3 1ec5 1ec7 1ec9 1ecb 1ecd 1ecf 1ed1 1ed3 1ed5 1ed7 1ed9 1edb",
  setRow 0x1edd 0x1ef7 "1edd 1edf 1ee1 1ee3 1ee5 1ee7 1ee9 1eeb 1eed 1eef 1ef1 1ef3 1ef5 1ef7",
  setRow 0x1ef9 0x1f45 "1ef9 1efb 1efd 1eff-1f07 1f10-1f15 1f20-1f27 1f30-1f37 1f40-1f45",
  setRow 0x1f50 0x1fb4 "1f50-1f57 1f60-1f67 1f70-1f7d 1f80-1f87 1f90-1f97 1fa0-1fa7 1fb0-1fb4",
  setRow 0x1fb6 0x1fe7 "1fb6-1fb7 1fbe 1fc2-1fc4 1fc6-1fc7 1fd0-1fd3 1fd6-1fd7 1fe0-1fe7",
  setRow 0x1ff2 0x2134 "1ff2-1ff4 1ff6-1ff7 2071 207f 2090-209c 210a 210e-210f 2113 212f 2134",
  setRow 0x2139 0x2c61 "2139 213c-213d 2146-2149 214e 2170-217f 2184 24d0-24e9 2c30-2c5f 2c61",
  setRow 0x2c65 0x2c87 "2c65-2c66 2c68 2c6a 2c6c 2c71 2c73-2c74 2c76-2c7d 2c81 2c83 2c85 2c87",
  setRow 0x2c89 0x2ca3 "2c89 2c8b 2c8d 2c8f 2c91 2c93 2c95 2c97 2c99 2c9b 2c9d 2c9f 2ca1 2ca3",
  setRow 0x2ca5 0x2cbf "2ca5 2ca7 2ca9 2cab 2cad 2caf 2cb1 2cb3 2cb5 2cb7 2cb9 2cbb 2cbd 2cbf",
  setRow 0x2cc1 0x2cdb "2cc1 2cc3 2cc5 2cc7 2cc9 2ccb 2ccd 2ccf 2cd1 2cd3 2cd5 2cd7 2cd9 2cdb",
  setRow 0x2cdd 0xa643 "2cdd 2cdf 2ce1 2ce3-2ce4 2cec 2cee 2cf3 2d00-2d25 2d27 2d2d a641 a643",
  setRow 0xa645 0xa65f "a645 a647 a649 a64b a64d a64f a651 a653 a655 a657 a659 a65b a65d a65f",
  setRow 0xa661 0xa68d "a661 a663 a665 a667 a669 a66b a66d a681 a683 a685 a687 a689 a68b a68d",
  setRow 0xa68f 0xa72d "a68f a691 a693 a695 a697 a699 a69b-a69d a723 a725 a727 a729 a72b a72d",
  setRow 0xa72f 0xa749 "a72f-a731 a733 a735 a737 a739 a73b a73d a73f a741 a743 a745 a747 a749",
  setRow 0xa74b 0xa765 "a74b a74d a74f a751 a753 a755 a757 a759 a75b a75d a75f a761 a763 a765",
  setRow 0xa767 0xa78c "a767 a769 a76b a76d a76f-a778 a77a a77c a77f a781 a783 a785 a787 a78c",
  setRow 0xa78e 0xa7a9 "a78e a791 a793-a795 a797 a799 a79b a79d a79f a7a1 a7a3 a7a5 a7a7 a7a9",
  setRow 0xa7af 0xa7d3 "a7af a7b5 a7b7 a7b9 a7bb a7bd a7bf a7c1 a7c3 a7c8 a7ca a7cd a7d1 a7d3",
  setRow 0xa7d5 0xab69 "a7d5 a7d7 a7d9 a7db a7f2-a7f4 a7f6 a7f8-a7fa ab30-ab5a ab5c-ab69",
  setRow 0xab70 0x104fb "ab70-abbf fb00-fb06 fb13-fb17 ff41-ff5a 10428-1044f 104d8-104fb",
  setRow 0x10597 0x10785 "10597-105a1 105a3-105b1 105b3-105b9 105bb-105bc 10780 10783-10785",
  setRow 0x10787 0x16e7f "10787-107b0 107b2-107ba 10cc0-10cf2 10d70-10d85 118c0-118df 16e60-16e7f",
  setRow 0x1d41a 0x1d4bb "1d41a-1d433 1d44e-1d454 1d456-1d467 1d482-1d49b 1d4b6-1d4b9 1d4bb",
  setRow 0x1d4bd 0x1d59f "1d4bd-1d4c3 1d4c5-1d4cf 1d4ea-1d503 1d51e-1d537 1d552-1d56b 1d586-1d59f",
  setRow 0x1d5ba 0x1d6da "1d5ba-1d5d3 1d5ee-1d607 1d622-1d63b 1d656-1d66f 1d68a-1d6a5 1d6c2-1d6da",
  setRow 0x1d6dc 0x1d788 "1d6dc-1d6e1 1d6fc-1d714 1d716-1d71b 1d736-1d74e 1d750-1d755 1d770-1d788",
  setRow 0x1d78a 0x1df1e "1d78a-1d78f 1d7aa-1d7c2 1d7c4-1d7c9 1d7cb 1df00-1df09 1df0b-1df1e",
  setRow 0x1df25 0x1e943 "1df25-1df2a 1e030-1e06d 1e922-1e943"]

def numeric : CodeSet := [
  setRow 0x30 0x96f "30-39 600-605 660-669 66b-66c 6dd 6f0-6f9 7c0-7c9 890-891 8e2 966-96f",
  setRow 0x9e6 0xdef "9e6-9ef a66-a6f ae6-aef b66-b6f be6-bef c66-c6f ce6-cef d66-d6f de6-def",
  setRow 0xe50 0x1819 "e50-e59 ed0-ed9 f20-f29 1040-1049 1090-1099 17e0-17e9 1810-1819",
  setRow 0x1946 0x1c49 "1946-194f 19d0-19da 1a80-1a89 1a90-1a99 1b50-1b59 1bb0-1bb9 1c40-1c49",
  setRow 0x1c50 0xaa59 "1c50-1c59 a620-a629 a8d0-a8d9 a900-a909 a9d0-a9d9 a9f0-a9f9 aa50-aa59",
  setRow 0xabf0 0x1106f "abf0-abf9 ff10-ff19 104a0-104a9 10d30-10d39 10d40-10d49 11066-1106f",
  setRow 0x110bd 0x11459 "110bd 110cd 110f0-110f9 11136-1113f 111d0-111d9 112f0-112f9 11450-11459",
  setRow 0x114d0 0x118e9 "114d0-114d9 11650-11659 116c0-116c9 116d0-116e3 11730-11739 118e0-118e9",
  setRow 0x11950 0x11f59 "11950-11959 11bf0-11bf9 11c50-11c59 11d50-11d59 11da0-11da9 11f50-11f59",
  setRow 0x16130 0x1ccf9 "16130-16139 16a60-16a69 16ac0-16ac9 16b50-16b59 16d70-16d79 1ccf0-1ccf9",
  setRow 0x1d7ce 0x1e959 "1d7ce-1d7ff 1e140-1e149 1e2f0-1e2f9 1e4f0-1e4f9 1e5f1-1e5fa 1e950-1e959",
  setRow 0x1fbf0 0x1fbf9 "1fbf0-1fbf9"]

def oletter : CodeSet := [
  setRow 0x1bb 0x64a "1bb 1c0-1c3 294 2b9-2bf 2c6-2d1 2ec 2ee 374 559 5d0-5ea 5ef-5f3 620-64a",
  setRow 0x66e 0x7b1 "66e-66f 671-6d3 6d5 6e5-6e6 6ee-6ef 6fa-6fc 6ff 710 712-72f 74d-7a5 7b1",
  setRow 0x7ca 0x88e "7ca-7ea 7f4-7f5 7fa 800-815 81a 824 828 840-858 860-86a 870-887 889-88e",
  setRow 0x8a0 0x9b0 "8a0-8c9 904-939 93d 950 958-961 971-980 985-98c 98f-990 993-9a8 9aa-9b0",
  setRow 0x9b2 0xa28 "9b2 9b6-9b9 9bd 9ce 9dc-9dd 9df-9e1 9f0-9f1 9fc a05-a0a a0f-a10 a13-a28",
  setRow 0xa2a 0xa91 "a2a-a30 a32-a33 a35-a36 a38-a39 a59-a5c a5e a72-a74 a85-a8d a8f-a91",
  setRow 0xa93 0xb10 "a93-aa8 aaa-ab0 ab2-ab3 ab5-ab9 abd ad0 ae0-ae1 af9 b05-b0c b0f-b10",
  setRow 0xb13 0xb8a "b13-b28 b2a-b30 b32-b33 b35-b39 b3d b5c-b5d b5f-b61 b71 b83 b85-b8a",
  setRow 0xb8e 0xc0c "b8e-b90 b92-b95 b99-b9a b9c b9e-b9f ba3-ba4 ba8-baa bae-bb9 bd0 c05-c0c",
  setRow 0xc0e 0xc90 "c0e-c10 c12-c28 c2a-c39 c3d c58-c5a c5d c60-c61 c80 c85-c8c c8e-c90",
  setRow 0xc92 0xd10 "c92-ca8 caa-cb3 cb5-cb9 cbd cdd-cde ce0-ce1 cf1-cf2 d04-d0c d0e-d10",
  setRow 0xd12 0xdbd "d12-d3a d3d d4e d54-d56 d5f-d61 d7a-d7f d85-d96 d9a-db1 db3-dbb dbd",
  setRow 0xdc0 0xeb0 "dc0-dc6 e01-e30 e32-e33 e40-e46 e81-e82 e84 e86-e8a e8c-ea3 ea5 ea7-eb0",
  setRow 0xeb2 0x102a "eb2-eb3 ebd ec0-ec4 ec6 edc-edf f00 f40-f47 f49-f6c f88-f8c 1000-102a",
  setRow 0x103f 0x108e "103f 1050-1055 105a-105d 1061 1065-1066 106e-1070 1075-1081 108e",
  setRow 0x10d0 0x1288 "10d0-10fa 10fd-1248 124a-124d 1250-1256 1258 125a-125d 1260-1288",
  setRow 0x128a 0x12d6 "128a-128d 1290-12b0 12b2-12b5 12b8-12be 12c0 12c2-12c5 12c8-12d6",
  setRow 0x12d8 0x169a "12d8-1310 1312-1315 1318-135a 1380-138f 1401-166c 166f-167f 1681-169a",
  setRow 0x16a0 0x1770 "16a0-16ea 16ee-16f8 1700-1711 171f-1731 1740-1751 1760-176c 176e-1770",
  setRow 0x1780 0x18f5 "1780-17b3 17d7 17dc 1820-1878 1880-1884 1887-18a8 18aa 18b0-18f5",
  setRow 0x1900 0x1a54 "1900-191e 1950-196d 1970-1974 1980-19ab 19b0-19c9 1a00-1a16 1a20-1a54",
  setRow 0x1aa7 0x1c23 "1aa7 1b05-1b33 1b45-1b4c 1b83-1ba0 1bae-1baf 1bba-1be5 1c00-1c23",
  setRow 0x1c4d 0x1cf6 "1c4d-1c4f 1c5a-1c7d 1c90-1cba 1cbd-1cbf 1ce9-1cec 1cee-1cf3 1cf5-1cf6",
  setRow 0x1cfa 0x2da6 "1cfa 2135-2138 2180-2182 2185-2188 2d30-2d67 2d6f 2d80-2d96 2da0-2da6",
  setRow 0x2da8 0x2dde "2da8-2dae 2db0-2db6 2db8-2dbe 2dc0-2dc6 2dc8-2dce 2dd0-2dd6 2dd8-2dde",
  setRow 0x2e2f 0x309f "2e2f 3005-3007 3021-3029 3031-3035 3038-303c 3041-3096 309d-309f",
  setRow 0x30a1 0x4dbf "30a1-30fa 30fc-30ff 3105-312f 3131-318e 31a0-31bf 31f0-31ff 3400-4dbf",
  setRow 0x4e00 0xa6ef "4e00-a48c a4d0-a4fd a500-a60c a610-a61f a62a-a62b a66e a67f a6a0-a6ef",
  setRow 0xa717 0xa822 "a717-a71f a788 a78f a7f7 a7fb-a801 a803-a805 a807-a80a a80c-a822",
  setRow 0xa840 0xa946 "a840-a873 a882-a8b3 a8f2-a8f7 a8fb a8fd-a8fe a90a-a925 a930-a946",
  setRow 0xa960 0xaa28 "a960-a97c a984-a9b2 a9cf a9e0-a9e4 a9e6-a9ef a9fa-a9fe aa00-aa28",
  setRow 0xaa40 0xaabd "aa40-aa42 aa44-aa4b aa60-aa76 aa7a aa7e-aaaf aab1 aab5-aab6 aab9-aabd",
  setRow 0xaac0 0xab16 "aac0 aac2 aadb-aadd aae0-aaea aaf2-aaf4 ab01-ab06 ab09-ab0e ab11-ab16",
  setRow 0xab20 0xfa6d "ab20-ab26 ab28-ab2e abc0-abe2 ac00-d7a3 d7b0-d7c6 d7cb-d7fb f900-fa6d",
  setRow 0xfa70 0xfb44 "fa70-fad9 fb1d fb1f-fb28 fb2a-fb36 fb38-fb3c fb3e fb40-fb41 fb43-fb44",
  setRow 0xfb46 0xfefc "fb46-fbb1 fbd3-fd3d fd50-fd8f fd92-fdc7 fdf0-fdfb fe70-fe74 fe76-fefc",
  setRow 0xff66 0x1000b "ff66-ff9d ffa0-ffbe ffc2-ffc7 ffca-ffcf ffd2-ffd7 ffda-ffdc 10000-1000b",
  setRow 0x1000d 0x100fa "1000d-10026 10028-1003a 1003c-1003d 1003f-1004d 10050-1005d 10080-100fa",
  setRow 0x10140 0x10375 "10140-10174 10280-1029c 102a0-102d0 10300-1031f 1032d-1034a 10350-10375",
  setRow 0x10380 0x10527 "10380-1039d 103a0-103c3 103c8-103cf 103d1-103d5 10450-1049d 10500-10527",
  setRow 0x10530 0x10782 "10530-10563 105c0-105f3 10600-10736 10740-10755 10760-10767 10781-10782",
  setRow 0x10800 0x10876 "10800-10805 10808 1080a-10835 10837-10838 1083c 1083f-10855 10860-10876",
  setRow 0x10880 0x109b7 "10880-1089e 108e0-108f2 108f4-108f5 10900-10915 10920-10939 10980-109b7",
  setRow 0x109be 0x10a7c "109be-109bf 10a00 10a10-10a13 10a15-10a17 10a19-10a35 10a60-10a7c",
  setRow 0x10a80 0x10b72 "10a80-10a9c 10ac0-10ac7 10ac9-10ae4 10b00-10b35 10b40-10b55 10b60-10b72",
  setRow 0x10b80 0x10ea9 "10b80-10b91 10c00-10c48 10d00-10d23 10d4a-10d4f 10d6f 10e80-10ea9",
  setRow 0x10eb0 0x10f81 "10eb0-10eb1 10ec2-10ec4 10f00-10f1c 10f27 10f30-10f45 10f70-10f81",
  setRow 0x10fb0 0x110af "10fb0-10fc4 10fe0-10ff6 11003-11037 11071-11072 11075 11083-110af",
  setRow 0x110d0 0x111b2 "110d0-110e8 11103-11126 11144 11147 11150-11172 11176 11183-111b2",
  setRow 0x111c1 0x11286 "111c1-111c4 111da 111dc 11200-11211 11213-1122b 1123f-11240 11280-11286",
  setRow 0x11288 0x1130c "11288 1128a-1128d 1128f-1129d 1129f-112a8 112b0-112de 11305-1130c",
  setRow 0x1130f 0x11350 "1130f-11310 11313-11328 1132a-11330 11332-11333 11335-11339 1133d 11350",
  setRow 0x1135d 0x113d3 "1135d-11361 11380-11389 1138b 1138e 11390-113b5 113b7 113d1 113d3",
  setRow 0x11400 0x114c7 "11400-11434 11447-1144a 1145f-11461 11480-114af 114c4-114c5 114c7",
  setRow 0x11580 0x1171a "11580-115ae 115d8-115db 11600-1162f 11644 11680-116aa 116b8 11700-1171a",
  setRow 0x11740 0x11916 "11740-11746 11800-1182b 118ff-11906 11909 1190c-11913 11915-11916",
  setRow 0x11918 0x11a00 "11918-1192f 1193f 11941 119a0-119a7 119aa-119d0 119e1 119e3 11a00",
  setRow 0x11a0b 0x11be0 "11a0b-11a32 11a3a 11a50 11a5c-11a89 11a9d 11ab0-11af8 11bc0-11be0",
  setRow 0x11c00 0x11d09 "11c00-11c08 11c0a-11c2e 11c40 11c72-11c8f 11d00-11d06 11d08-11d09",
  setRow 0x11d0b 0x11ef2 "11d0b-11d30 11d46 11d60-11d65 11d67-11d68 11d6a-11d89 11d98 11ee0-11ef2",
  setRow 0x11f02 0x12543 "11f02 11f04-11f10 11f12-11f33 11fb0 12000-12399 12400-1246e 12480-12543",
  setRow 0x12f90 0x1611d "12f90-12ff0 13000-1342f 13441-13446 13460-143fa 14400-14646 16100-1611d",
  setRow 0x16800 0x16b43 "16800-16a38 16a40-16a5e 16a70-16abe 16ad0-16aed 16b00-16b2f 16b40-16b43",
  setRow 0x16b63 0x16f9f "16b63-16b77 16b7d-16b8f 16d40-16d6c 16f00-16f4a 16f50 16f93-16f9f",
  setRow 0x16fe0 0x1aff3 "16fe0-16fe1 16fe3 17000-187f7 18800-18cd5 18cff-18d08 1aff0-1aff3",
  setRow 0x1aff5 0x1b167 "1aff5-1affb 1affd-1affe 1b000-1b122 1b132 1b150-1b152 1b155 1b164-1b167",
  setRow 0x1b170 0x1df0a "1b170-1b2fb 1bc00-1bc6a 1bc70-1bc7c 1bc80-1bc88 1bc90-1bc99 1df0a",
  setRow 0x1e100 0x1e4eb "1e100-1e12c 1e137-1e13d 1e14e 1e290-1e2ad 1e2c0-1e2eb 1e4d0-1e4eb",
  setRow 0x1e5d0 0x1e7fe "1e5d0-1e5ed 1e5f0 1e7e0-1e7e6 1e7e8-1e7eb 1e7ed-1e7ee 1e7f0-1e7fe",
  setRow 0x1e800 0x1ee27 "1e800-1e8c4 1e94b 1ee00-1ee03 1ee05-1ee1f 1ee21-1ee22 1ee24 1ee27",
  setRow 0x1ee29 0x1ee4f "1ee29-1ee32 1ee34-1ee37 1ee39 1ee3b 1ee42 1ee47 1ee49 1ee4b 1ee4d-1ee4f",
  setRow 0x1ee51 0x1ee64 "1ee51-1ee52 1ee54 1ee57 1ee59 1ee5b 1ee5d 1ee5f 1ee61-1ee62 1ee64",
  setRow 0x1ee67 0x1ee89 "1ee67-1ee6a 1ee6c-1ee72 1ee74-1ee77 1ee79-1ee7c 1ee7e 1ee80-1ee89",
  setRow 0x1ee8b 0x2b739 "1ee8b-1ee9b 1eea1-1eea3 1eea5-1eea9 1eeab-1eebb 20000-2a6df 2a700-2b739",
  setRow 0x2b740 0x3134a "2b740-2b81d 2b820-2cea1 2ceb0-2ebe0 2ebf0-2ee5d 2f800-2fa1d 30000-3134a",
  setRow 0x31350 0x323af "31350-323af"]

def scontinue : CodeSet := [
  setRow 0x2c 0xfe11 "2c-2d 3a-3b 37e 55d 60c-60d 7f8 1802 1808 2013-2014 3001 fe10-fe11",
  setRow 0xfe13 0xff1b "fe13-fe14 fe31-fe32 fe50-fe51 fe54-fe55 fe58 fe63 ff0c-ff0d ff1a-ff1b",
  setRow 0xff64 0xff64 "ff64"]

def sterm : CodeSet := [
  setRow 0x21 0x1362 "21 3f 589 61d-61f 6d4 700-702 7f9 837 839 83d-83e 964-965 104a-104b 1362",
  setRow 0x1367 0x1aab "1367-1368 166e 1735-1736 17d4-17d5 1803 1809 1944-1945 1aa8-1aab",
  setRow 0x1b4e 0x203d "1b4e-1b4f 1b5a-1b5b 1b5e-1b5f 1b7d-1b7f 1c3b-1c3c 1c7e-1c7f 203c-203d",
  setRow 0x2047 0xa6f7 "2047-2049 2cf9-2cfb 2e2e 2e3c 2e53-2e54 3002 a4ff a60e-a60f a6f3 a6f7",
  setRow 0xa876 0xfe12 "a876-a877 a8ce-a8cf a92f a9c8-a9c9 aa5d-aa5f aaf0-aaf1 abeb fe12",
  setRow 0xfe15 0x10f89 "fe15-fe16 fe56-fe57 ff01 ff1f ff61 10a56-10a57 10f55-10f59 10f86-10f89",
  setRow 0x11047 0x111df "11047-11048 110be-110c1 11141-11143 111c5-111c6 111cd 111de-111df",
  setRow 0x11238 0x115c3 "11238-11239 1123b-1123c 112a9 113d4-113d5 1144b-1144c 115c2-115c3",
  setRow 0x115c9 0x11a9c "115c9-115d7 11641-11642 1173c-1173e 11944 11946 11a42-11a43 11a9b-11a9c",
  setRow 0x11c41 0x16b44 "11c41-11c42 11ef7-11ef8 11f43-11f44 16a6e-16a6f 16af5 16b37-16b38 16b44",
  setRow 0x16d6e 0x1da88 "16d6e-16d6f 16e98 1bc9f 1da88"]

def sep : CodeSet := [
  setRow 0x85 0x2029 "85 2028-2029"]

def sp : CodeSet := [
  setRow 0x9 0x3000 "9 b-c 20 a0 1680 2000-200a 202f 205f 3000"]

def upper : CodeSet := [
  setRow 0x41 0x118 "41-5a c0-d6 d8-de 100 102 104 106 108 10a 10c 10e 110 112 114 116 118",
  setRow 0x11a 0x13d "11a 11c 11e 120 122 124 126 128 12a 12c 12e 130 132 134 136 139 13b 13d",
  setRow 0x13f 0x162 "13f 141 143 145 147 14a 14c 14e 150 152 154 156 158 15a 15c 15e 160 162",
  setRow 0x164 0x184 "164 166 168 16a 16c 16e 170 172 174 176 178-179 17b 17d 181-182 184",
  setRow 0x186 0x1a7 "186-187 189-18b 18e-191 193-194 196-198 19c-19d 19f-1a0 1a2 1a4 1a6-1a7",
  setRow 0x1a9 0x1cf "1a9 1ac 1ae-1af 1b1-1b3 1b5 1b7-1b8 1bc 1c4-1c5 1c7-1c8 1ca-1cb 1cd 1cf",
  setRow 0x1d1 0x1f4 "1d1 1d3 1d5 1d7 1d9 1db 1de 1e0 1e2 1e4 1e6 1e8 1ea 1ec 1ee 1f1-1f2 1f4",
  setRow 0x1f6 0x218 "1f6-1f8 1fa 1fc 1fe 200 202 204 206 208 20a 20c 20e 210 212 214 216 218",
  setRow 0x21a 0x241 "21a 21c 21e 220 222 224 226 228 22a 22c 22e 230 232 23a-23b 23d-23e 241",
  setRow 0x243 0x3a1 "243-246 248 24a 24c 24e 370 372 376 37f 386 388-38a 38c 38e-38f 391-3a1",
  setRow 0x3a3 0x3f4 "3a3-3ab 3cf 3d2-3d4 3d8 3da 3dc 3de 3e0 3e2 3e4 3e6 3e8 3ea 3ec 3ee 3f4",
  setRow 0x3f7 0x478 "3f7 3f9-3fa 3fd-42f 460 462 464 466 468 46a 46c 46e 470 472 474 476 478",
  setRow 0x47a 0x4a4 "47a 47c 47e 480 48a 48c 48e 490 492 494 496 498 49a 49c 49e 4a0 4a2 4a4",
  setRow 0x4a6 0x4c7 "4a6 4a8 4aa 4ac 4ae 4b0 4b2 4b4 4b6 4b8 4ba 4bc 4be 4c0-4c1 4c3 4c5 4c7",
  setRow 0x4c9 0x4ec "4c9 4cb 4cd 4d0 4d2 4d4 4d6 4d8 4da 4dc 4de 4e0 4e2 4e4 4e6 4e8 4ea 4ec",
  setRow 0x4ee 0x510 "4ee 4f0 4f2 4f4 4f6 4f8 4fa 4fc 4fe 500 502 504 506 508 50a 50c 50e 510",
  setRow 0x512 0x556 "512 514 516 518 51a 51c 51e 520 522 524 526 528 52a 52c 52e 531-556",
  setRow 0x10a0 0x1e0c "10a0-10c5 10c7 10cd 13a0-13f5 1c89 1e00 1e02 1e04 1e06 1e08 1e0a 1e0c",
  setRow 0x1e0e 0x1e28 "1e0e 1e10 1e12 1e14 1e16 1e18 1e1a 1e1c 1e1e 1e20 1e22 1e24 1e26 1e28",
  setRow 0x1e2a 0x1e44 "1e2a 1e2c 1e2e 1e30 1e32 1e34 1e36 1e38 1e3a 1e3c 1e3e 1e40 1e42 1e44",
  setRow 0x1e46 0x1e60 "1e46 1e48 1e4a 1e4c 1e4e 1e50 1e52 1e54 1e56 1e58 1e5a 1e5c 1e5e 1e60",
  setRow 0x1e62 0x1e7c "1e62 1e64 1e66 1e68 1e6a 1e6c 1e6e 1e70 1e72 1e74 1e76 1e78 1e7a 1e7c",
  setRow 0x1e7e 0x1ea0 "1e7e 1e80 1e82 1e84 1e86 1e88 1e8a 1e8c 1e8e 1e90 1e92 1e94 1e9e 1ea0",
  setRow 0x1ea2 0x1ebc "1ea2 1ea4 1ea6 1ea8 1eaa 1eac 1eae 1eb0 1eb2 1eb4 1eb6 1eb8 1eba 1ebc",
  setRow 0x1ebe 0x1ed8 "1ebe 1ec0 1ec2 1ec4 1ec6 1ec8 1eca 1ecc 1ece 1ed0 1ed2 1ed4 1ed6 1ed8",
  setRow 0x1eda 0x1ef4 "1eda 1edc 1ede 1ee0 1ee2 1ee4 1ee6 1ee8 1eea 1eec 1eee 1ef0 1ef2 1ef4",
  setRow 0x1ef6 0x1f3f "1ef6 1ef8 1efa 1efc 1efe 1f08-1f0f 1f18-1f1d 1f28-1f2f 1f38-1f3f",
  setRow 0x1f48 0x1faf "1f48-1f4d 1f59 1f5b 1f5d 1f5f 1f68-1f6f 1f88-1f8f 1f98-1f9f 1fa8-1faf",
  setRow 0x1fb8 0x210d "1fb8-1fbc 1fc8-1fcc 1fd8-1fdb 1fe8-1fec 1ff8-1ffc 2102 2107 210b-210d",
  setRow 0x2110 0x213f "2110-2112 2115 2119-211d 2124 2126 2128 212a-212d 2130-2133 213e-213f",
  setRow 0x2145 0x2c6b "2145 2160-216f 2183 24b6-24cf 2c00-2c2f 2c60 2c62-2c64 2c67 2c69 2c6b",
  setRow 0x2c6d 0x2c90 "2c6d-2c70 2c72 2c75 2c7e-2c80 2c82 2c84 2c86 2c88 2c8a 2c8c 2c8e 2c90",
  setRow 0x2c92 0x2cac "2c92 2c94 2c96 2c98 2c9a 2c9c 2c9e 2ca0 2ca2 2ca4 2ca6 2ca8 2caa 2cac",
  setRow 0x2cae 0x2cc8 "2cae 2cb0 2cb2 2cb4 2cb6 2cb8 2cba 2cbc 2cbe 2cc0 2cc2 2cc4 2cc6 2cc8",
  setRow 0x2cca 0x2ceb "2cca 2ccc 2cce 2cd0 2cd2 2cd4 2cd6 2cd8 2cda 2cdc 2cde 2ce0 2ce2 2ceb",
  setRow 0x2ced 0xa656 "2ced 2cf2 a640 a642 a644 a646 a648 a64a a64c a64e a650 a652 a654 a656",
  setRow 0xa658 0xa684 "a658 a65a a65c a65e a660 a662 a664 a666 a668 a66a a66c a680 a682 a684",
  setRow 0xa686 0xa726 "a686 a688 a68a a68c a68e a690 a692 a694 a696 a698 a69a a722 a724 a726",
  setRow 0xa728 0xa744 "a728 a72a a72c a72e a732 a734 a736 a738 a73a a73c a73e a740 a742 a744",
  setRow 0xa746 0xa760 "a746 a748 a74a a74c a74e a750 a752 a754 a756 a758 a75a a75c a75e a760",
  setRow 0xa762 0xa784 "a762 a764 a766 a768 a76a a76c a76e a779 a77b a77d-a77e a780 a782 a784",
  setRow 0xa786 0xa7a6 "a786 a78b a78d a790 a792 a796 a798 a79a a79c a79e a7a0 a7a2 a7a4 a7a6",
  setRow 0xa7a8 0xa7c7 "a7a8 a7aa-a7ae a7b0-a7b4 a7b6 a7b8 a7ba a7bc a7be a7c0 a7c2 a7c4-a7c7",
  setRow 0xa7c9 0x10427 "a7c9 a7cb-a7cc a7d0 a7d6 a7d8 a7da a7dc a7f5 ff21-ff3a 10400-10427",
  setRow 0x104b0 0x10cb2 "104b0-104d3 10570-1057a 1057c-1058a 1058c-10592 10594-10595 10c80-10cb2",
  setRow 0x10d50 0x1d481 "10d50-10d65 118a0-118bf 16e40-16e5f 1d400-1d419 1d434-1d44d 1d468-1d481",
  setRow 0x1d49c 0x1d4e9 "1d49c 1d49e-1d49f 1d4a2 1d4a5-1d4a6 1d4a9-1d4ac 1d4ae-1d4b5 1d4d0-1d4e9",
  setRow 0x1d504 0x1d53e "1d504-1d505 1d507-1d50a 1d50d-1d514 1d516-1d51c 1d538-1d539 1d53b-1d53e",
  setRow 0x1d540 0x1d5ed "1d540-1d544 1d546 1d54a-1d550 1d56c-1d585 1d5a0-1d5b9 1d5d4-1d5ed",
  setRow 0x1d608 0x1d734 "1d608-1d621 1d63c-1d655 1d670-1d689 1d6a8-1d6c0 1d6e2-1d6fa 1d71c-1d734",
  setRow 0x1d756 0x1f169 "1d756-1d76e 1d790-1d7a8 1d7ca 1e900-1e921 1f130-1f149 1f150-1f169",
  setRow 0x1f170 0x1f189 "1f170-1f189"]

def named : List (List String × CodeSet) := [
  (["at", "aterm"], aterm),
  (["cr"], cr),
  (["cl", "close"], close),
  (["ex", "extend"], extend),
  (["fo", "format"], format),
  (["lf"], lf),
  (["lo", "lower"], lower),
  (["nu", "numeric"], numeric),
  (["le", "oletter"], oletter),
  (["sc", "scontinue"], scontinue),
  (["st", "sterm"], sterm),
  (["se", "sep"], sep),
  (["sp"], sp),
  (["up", "upper"], upper)]

end TextFeatures.Unicode.SentenceBreak
