import TextFeatures.Unicode.Table

namespace TextFeatures.Unicode.BinaryProperty

def asciiHexDigit : CodeSet := [
  setRow 0x30 0x66 "30-39 41-46 61-66"]

def bidiControl : CodeSet := [
  setRow 0x61c 0x2069 "61c 200e-200f 202a-202e 2066-2069"]

def bidiMirrored : CodeSet := [
  setRow 0x28 0x2046 "28-29 3c 3e 5b 5d 7b 7d ab bb f3a-f3d 169b-169c 2039-203a 2045-2046",
  setRow 0x207d 0x221d "207d-207e 208d-208e 2140 2201-2204 2208-220d 2211 2215-2216 221a-221d",
  setRow 0x221f 0x2262 "221f-2222 2224 2226 222b-2233 2239 223b-224c 2252-2255 225f-2260 2262",
  setRow 0x2264 0x22bf "2264-226b 226d-228c 228f-2292 2298 22a2-22a3 22a6-22b8 22be-22bf",
  setRow 0x22c9 0x232a "22c9-22cd 22d0-22d1 22d6-22ed 22f0-22ff 2308-230b 2320-2321 2329-232a",
  setRow 0x2768 0x27de "2768-2775 27c0 27c3-27c6 27c8-27c9 27cb-27cd 27d3-27d6 27dc-27de",
  setRow 0x27e2 0x29d2 "27e2-27ef 2983-2998 299b-29a0 29a2-29af 29b8 29c0-29c5 29c9 29ce-29d2",
  setRow 0x29d4 0x29fd "29d4-29d5 29d8-29dc 29e1 29e3-29e5 29e8-29e9 29f4-29f9 29fc-29fd",
  setRow 0x2a0a 0x2a3e "2a0a-2a1c 2a1e-2a21 2a24 2a26 2a29 2a2b-2a2e 2a34-2a35 2a3c-2a3e",
  setRow 0x2a57 0x2aad "2a57-2a58 2a64-2a65 2a6a-2a6d 2a6f-2a70 2a73-2a74 2a79-2aa3 2aa6-2aad",
  setRow 0x2aaf 0x2bfe "2aaf-2ad6 2adc 2ade 2ae2-2ae6 2aec-2aee 2af3 2af7-2afb 2afd 2bfe",
  setRow 0x2e02 0x3011 "2e02-2e05 2e09-2e0a 2e0c-2e0d 2e1c-2e1d 2e20-2e29 2e55-2e5c 3008-3011",
  setRow 0x3014 0xff5d "3014-301b fe59-fe5e fe64-fe65 ff08-ff09 ff1c ff1e ff3b ff3d ff5b ff5d",
  setRow 0xff5f 0x1d7c3 "ff5f-ff60 ff62-ff63 1d6db 1d715 1d74f 1d789 1d7c3"]

def changesWhenCasefolded : CodeSet := [
  setRow 0x41 0x118 "41-5a b5 c0-d6 d8-df 100 102 104 106 108 10a 10c 10e 110 112 114 116 118",
  setRow 0x11a 0x13d "11a 11c 11e 120 122 124 126 128 12a 12c 12e 130 132 134 136 139 13b 13d",
  setRow 0x13f 0x160 "13f 141 143 145 147 149-14a 14c 14e 150 152 154 156 158 15a 15c 15e 160",
  setRow 0x162 0x182 "162 164 166 168 16a 16c 16e 170 172 174 176 178-179 17b 17d 17f 181-182",
  setRow 0x184 0x1a4 "184 186-187 189-18b 18e-191 193-194 196-198 19c-19d 19f-1a0 1a2 1a4",
  setRow 0x1a6 0x1cb "1a6-1a7 1a9 1ac 1ae-1af 1b1-1b3 1b5 1b7-1b8 1bc 1c4-1c5 1c7-1c8 1ca-1cb",
  setRow 0x1cd 0x1ee "1cd 1cf 1d1 1d3 1d5 1d7 1d9 1db 1de 1e0 1e2 1e4 1e6 1e8 1ea 1ec 1ee",
  setRow 0x1f1 0x212 "1f1-1f2 1f4 1f6-1f8 1fa 1fc 1fe 200 202 204 206 208 20a 20c 20e 210 212",
  setRow 0x214 0x23b "214 216 218 21a 21c 21e 220 222 224 226 228 22a 22c 22e 230 232 23a-23b",
  setRow 0x23d 0x38c "23d-23e 241 243-246 248 24a 24c 24e 345 370 372 376 37f 386 388-38a 38c",
  setRow 0x38e 0x3e4 "38e-38f 391-3a1 3a3-3ab 3c2 3cf-3d1 3d5-3d6 3d8 3da 3dc 3de 3e0 3e2 3e4",
  setRow 0x3e6 0x466 "3e6 3e8 3ea 3ec 3ee 3f0-3f1 3f4-3f5 3f7 3f9-3fa 3fd-42f 460 462 464 466",
  setRow 0x468 0x492 "468 46a 46c 46e 470 472 474 476 478 47a 47c 47e 480 48a 48c 48e 490 492",
  setRow 0x494 0x4b6 "494 496 498 49a 49c 49e 4a0 4a2 4a4 4a6 4a8 4aa 4ac 4ae 4b0 4b2 4b4 4b6",
  setRow 0x4b8 0x4da "4b8 4ba 4bc 4be 4c0-4c1 4c3 4c5 4c7 4c9 4cb 4cd 4d0 4d2 4d4 4d6 4d8 4da",
  setRow 0x4dc 0x4fe "4dc 4de 4e0 4e2 4e4 4e6 4e8 4ea 4ec 4ee 4f0 4f2 4f4 4f6 4f8 4fa 4fc 4fe",
  setRow 0x500 0x522 "500 502 504 506 508 50a 50c 50e 510 512 514 516 518 51a 51c 51e 520 522",
  setRow 0x524 0x13fd "524 526 528 52a 52c 52e 531-556 587 10a0-10c5 10c7 10cd 13f8-13fd",
  setRow 0x1c80 0x1e0e "1c80-1c89 1c90-1cba 1cbd-1cbf 1e00 1e02 1e04 1e06 1e08 1e0a 1e0c 1e0e",
  setRow 0x1e10 0x1e2a "1e10 1e12 1e14 1e16 1e18 1e1a 1e1c 1e1e 1e20 1e22 1e24 1e26 1e28 1e2a",
  setRow 0x1e2c 0x1e46 "1e2c 1e2e 1e30 1e32 1e34 1e36 1e38 1e3a 1e3c 1e3e 1e40 1e42 1e44 1e46",
  setRow 0x1e48 0x1e62 "1e48 1e4a 1e4c 1e4e 1e50 1e52 1e54 1e56 1e58 1e5a 1e5c 1e5e 1e60 1e62",
  setRow 0x1e64 0x1e7e "1e64 1e66 1e68 1e6a 1e6c 1e6e 1e70 1e72 1e74 1e76 1e78 1e7a 1e7c 1e7e",
  setRow 0x1e80 0x1e9e "1e80 1e82 1e84 1e86 1e88 1e8a 1e8c 1e8e 1e90 1e92 1e94 1e9a-1e9b 1e9e",
  setRow 0x1ea0 0x1eba "1ea0 1ea2 1ea4 1ea6 1ea8 1eaa 1eac 1eae 1eb0 1eb2 1eb4 1eb6 1eb8 1eba",
  setRow 0x1ebc 0x1ed6 "1ebc 1ebe 1ec0 1ec2 1ec4 1ec6 1ec8 1eca 1ecc 1ece 1ed0 1ed2 1ed4 1ed6",
  setRow 0x1ed8 0x1ef2 "1ed8 1eda 1edc 1ede 1ee0 1ee2 1ee4 1ee6 1ee8 1eea 1eec 1eee 1ef0 1ef2",
  setRow 0x1ef4 0x1f3f "1ef4 1ef6 1ef8 1efa 1efc 1efe 1f08-1f0f 1f18-1f1d 1f28-1f2f 1f38-1f3f",
  setRow 0x1f48 0x1fbc "1f48-1f4d 1f59 1f5b 1f5d 1f5f 1f68-1f6f 1f80-1faf 1fb2-1fb4 1fb7-1fbc",
  setRow 0x1fc2 0x2126 "1fc2-1fc4 1fc7-1fcc 1fd8-1fdb 1fe8-1fec 1ff2-1ff4 1ff7-1ffc 2126",
  setRow 0x212a 0x2c67 "212a-212b 2132 2160-216f 2183 24b6-24cf 2c00-2c2f 2c60 2c62-2c64 2c67",
  setRow 0x2c69 0x2c8c "2c69 2c6b 2c6d-2c70 2c72 2c75 2c7e-2c80 2c82 2c84 2c86 2c88 2c8a 2c8c",
  setRow 0x2c8e 0x2ca8 "2c8e 2c90 2c92 2c94 2c96 2c98 2c9a 2c9c 2c9e 2ca0 2ca2 2ca4 2ca6 2ca8",
  setRow 0x2caa 0x2cc4 "2caa 2cac 2cae 2cb0 2cb2 2cb4 2cb6 2cb8 2cba 2cbc 2cbe 2cc0 2cc2 2cc4",
  setRow 0x2cc6 0x2ce0 "2cc6 2cc8 2cca 2ccc 2cce 2cd0 2cd2 2cd4 2cd6 2cd8 2cda 2cdc 2cde 2ce0",
  setRow 0x2ce2 0xa652 "2ce2 2ceb 2ced 2cf2 a640 a642 a644 a646 a648 a64a a64c a64e a650 a652",
  setRow 0xa654 0xa680 "a654 a656 a658 a65a a65c a65e a660 a662 a664 a666 a668 a66a a66c a680",
  setRow 0xa682 0xa722 "a682 a684 a686 a688 a68a a68c a68e a690 a692 a694 a696 a698 a69a a722",
  setRow 0xa724 0xa740 "a724 a726 a728 a72a a72c a72e a732 a734 a736 a738 a73a a73c a73e a740",
  setRow 0xa742 0xa75c "a742 a744 a746 a748 a74a a74c a74e a750 a752 a754 a756 a758 a75a a75c",
  setRow 0xa75e 0xa780 "a75e a760 a762 a764 a766 a768 a76a a76c a76e a779 a77b a77d-a77e a780",
  setRow 0xa782 0xa7a2 "a782 a784 a786 a78b a78d a790 a792 a796 a798 a79a a79c a79e a7a0 a7a2",
  setRow 0xa7a4 0xa7c2 "a7a4 a7a6 a7a8 a7aa-a7ae a7b0-a7b4 a7b6 a7b8 a7ba a7bc a7be a7c0 a7c2",
  setRow 0xa7c4 0xabbf "a7c4-a7c7 a7c9 a7cb-a7cc a7d0 a7d6 a7d8 a7da a7dc a7f5 ab70-abbf",
  setRow 0xfb00 0x1057a "fb00-fb06 fb13-fb17 ff21-ff3a 10400-10427 104b0-104d3 10570-1057a",
  setRow 0x1057c 0x118bf "1057c-1058a 1058c-10592 10594-10595 10c80-10cb2 10d50-10d65 118a0-118bf",
  setRow 0x16e40 0x1e921 "16e40-16e5f 1e900-1e921"]

def changesWhenCasemapped : CodeSet := [
  setRow 0x41 0x1bf "41-5a 61-7a b5 c0-d6 d8-f6 f8-137 139-18c 18e-1a9 1ac-1b9 1bc-1bd 1bf",
  setRow 0x1c4 0x26f "1c4-220 222-233 23a-254 256-257 259 25b-25c 260-261 263-266 268-26c 26f",
  setRow 0x271 0x377 "271-272 275 27d 280 282-283 287-28c 292 29d-29e 345 370-373 376-377",
  setRow 0x37b 0x481 "37b-37d 37f 386 388-38a 38c 38e-3a1 3a3-3d1 3d5-3f5 3f7-3fb 3fd-481",
  setRow 0x48a 0x10ff "48a-52f 531-556 561-587 10a0-10c5 10c7 10cd 10d0-10fa 10fd-10ff",
  setRow 0x13a0 0x1d8e "13a0-13f5 13f8-13fd 1c80-1c8a 1c90-1cba 1cbd-1cbf 1d79 1d7d 1d8e",
  setRow 0x1e00 0x1f59 "1e00-1e9b 1e9e 1ea0-1f15 1f18-1f1d 1f20-1f45 1f48-1f4d 1f50-1f57 1f59",
  setRow 0x1f5b 0x1fcc "1f5b 1f5d 1f5f-1f7d 1f80-1fb4 1fb6-1fbc 1fbe 1fc2-1fc4 1fc6-1fcc",
  setRow 0x1fd0 0x2132 "1fd0-1fd3 1fd6-1fdb 1fe0-1fec 1ff2-1ff4 1ff6-1ffc 2126 212a-212b 2132",
  setRow 0x214e 0x2c76 "214e 2160-217f 2183-2184 24b6-24e9 2c00-2c70 2c72-2c73 2c75-2c76",
  setRow 0x2c7e 0xa69b "2c7e-2ce3 2ceb-2cee 2cf2-2cf3 2d00-2d25 2d27 2d2d a640-a66d a680-a69b",
  setRow 0xa722 0xa7cd "a722-a72f a732-a76f a779-a787 a78b-a78d a790-a794 a796-a7ae a7b0-a7cd",
  setRow 0xa7d0 0xfb17 "a7d0-a7d1 a7d6-a7dc a7f5-a7f6 ab53 ab70-abbf fb00-fb06 fb13-fb17",
  setRow 0xff21 0x1057a "ff21-ff3a ff41-ff5a 10400-1044f 104b0-104d3 104d8-104fb 10570-1057a",
  setRow 0x1057c 0x105b9 "1057c-1058a 1058c-10592 10594-10595 10597-105a1 105a3-105b1 105b3-105b9",
  setRow 0x105bb 0x118df "105bb-105bc 10c80-10cb2 10cc0-10cf2 10d50-10d65 10d70-10d85 118a0-118df",
  setRow 0x16e40 0x1e943 "16e40-16e7f 1e900-1e943"]

def changesWhenLowercased : CodeSet := [
  setRow 0x41 0x118 "41-5a c0-d6 d8-de 100 102 104 106 108 10a 10c 10e 110 112 114 116 118",
  setRow 0x11a 0x13d "11a 11c 11e 120 122 124 126 128 12a 12c 12e 130 132 134 136 139 13b 13d",
  setRow 0x13f 0x162 "13f 141 143 145 147 14a 14c 14e 150 152 154 156 158 15a 15c 15e 160 162",
  setRow 0x164 0x184 "164 166 168 16a 16c 16e 170 172 174 176 178-179 17b 17d 181-182 184",
  setRow 0x186 0x1a7 "186-187 189-18b 18e-191 193-194 196-198 19c-19d 19f-1a0 1a2 1a4 1a6-1a7",
  setRow 0x1a9 0x1cf "1a9 1ac 1ae-1af 1b1-1b3 1b5 1b7-1b8 1bc 1c4-1c5 1c7-1c8 1ca-1cb 1cd 1cf",
  setRow 0x1d1 0x1f4 "1d1 1d3 1d5 1d7 1d9 1db 1de 1e0 1e2 1e4 1e6 1e8 1ea 1ec 1ee 1f1-1f2 1f4",
  setRow 0x1f6 0x218 "1f6-1f8 1fa 1fc 1fe 200 202 204 206 208 20a 20c 20e 210 212 214 216 218",
  setRow 0x21a 0x241 "21a 21c 21e 220 222 224 226 228 22a 22c 22e 230 232 23a-23b 23d-23e 241",
  setRow 0x243 0x3a1 "243-246 248 24a 24c 24e 370 372 376 37f 386 388-38a 38c 38e-38f 391-3a1",
  setRow 0x3a3 0x3f7 "3a3-3ab 3cf 3d8 3da 3dc 3de 3e0 3e2 3e4 3e6 3e8 3ea 3ec 3ee 3f4 3f7",
  setRow 0x3f9 0x47a "3f9-3fa 3fd-42f 460 462 464 466 468 46a 46c 46e 470 472 474 476 478 47a",
  setRow 0x47c 0x4a6 "47c 47e 480 48a 48c 48e 490 492 494 496 498 49a 49c 49e 4a0 4a2 4a4 4a6",
  setRow 0x4a8 0x4c9 "4a8 4aa 4ac 4ae 4b0 4b2 4b4 4b6 4b8 4ba 4bc 4be 4c0-4c1 4c3 4c5 4c7 4c9",
  setRow 0x4cb 0x4ee "4cb 4cd 4d0 4d2 4d4 4d6 4d8 4da 4dc 4de 4e0 4e2 4e4 4e6 4e8 4ea 4ec 4ee",
  setRow 0x4f0 0x512 "4f0 4f2 4f4 4f6 4f8 4fa 4fc 4fe 500 502 504 506 508 50a 50c 50e 510 512",
  setRow 0x514 0x556 "514 516 518 51a 51c 51e 520 522 524 526 528 52a 52c 52e 531-556",
  setRow 0x10a0 0x1e04 "10a0-10c5 10c7 10cd 13a0-13f5 1c89 1c90-1cba 1cbd-1cbf 1e00 1e02 1e04",
  setRow 0x1e06 0x1e20 "1e06 1e08 1e0a 1e0c 1e0e 1e10 1e12 1e14 1e16 1e18 1e1a 1e1c 1e1e 1e20",
  setRow 0x1e22 0x1e3c "1e22 1e24 1e26 1e28 1e2a 1e2c 1e2e 1e30 1e32 1e34 1e36 1e38 1e3a 1e3c",
  setRow 0x1e3e 0x1e58 "1e3e 1e40 1e42 1e44 1e46 1e48 1e4a 1e4c 1e4e 1e50 1e52 1e54 1e56 1e58",
  setRow 0x1e5a 0x1e74 "1e5a 1e5c 1e5e 1e60 1e62 1e64 1e66 1e68 1e6a 1e6c 1e6e 1e70 1e72 1e74",
  setRow 0x1e76 0x1e90 "1e76 1e78 1e7a 1e7c 1e7e 1e80 1e82 1e84 1e86 1e88 1e8a 1e8c 1e8e 1e90",
  setRow 0x1e92 0x1eb4 "1e92 1e94 1e9e 1ea0 1ea2 1ea4 1ea6 1ea8 1eaa 1eac 1eae 1eb0 1eb2 1eb4",
  setRow 0x1eb6 0x1ed0 "1eb6 1eb8 1eba 1ebc 1ebe 1ec0 1ec2 1ec4 1ec6 1ec8 1eca 1ecc 1ece 1ed0",
  setRow 0x1ed2 0x1eec "1ed2 1ed4 1ed6 1ed8 1eda 1edc 1ede 1ee0 1ee2 1ee4 1ee6 1ee8 1eea 1eec",
  setRow 0x1eee 0x1f1d "1eee 1ef0 1ef2 1ef4 1ef6 1ef8 1efa 1efc 1efe 1f08-1f0f 1f18-1f1d",
  setRow 0x1f28 0x1f8f "1f28-1f2f 1f38-1f3f 1f48-1f4d 1f59 1f5b 1f5d 1f5f 1f68-1f6f 1f88-1f8f",
  setRow 0x1f98 0x1ffc "1f98-1f9f 1fa8-1faf 1fb8-1fbc 1fc8-1fcc 1fd8-1fdb 1fe8-1fec 1ff8-1ffc",
  setRow 0x2126 0x2c64 "2126 212a-212b 2132 2160-216f 2183 24b6-24cf 2c00-2c2f 2c60 2c62-2c64",
  setRow 0x2c67 0x2c8a "2c67 2c69 2c6b 2c6d-2c70 2c72 2c75 2c7e-2c80 2c82 2c84 2c86 2c88 2c8a",
  setRow 0x2c8c 0x2ca6 "2c8c 2c8e 2c90 2c92 2c94 2c96 2c98 2c9a 2c9c 2c9e 2ca0 2ca2 2ca4 2ca6",
  setRow 0x2ca8 0x2cc2 "2ca8 2caa 2cac 2cae 2cb0 2cb2 2cb4 2cb6 2cb8 2cba 2cbc 2cbe 2cc0 2cc2",
  setRow 0x2cc4 0x2cde "2cc4 2cc6 2cc8 2cca 2ccc 2cce 2cd0 2cd2 2cd4 2cd6 2cd8 2cda 2cdc 2cde",
  setRow 0x2ce0 0xa650 "2ce0 2ce2 2ceb 2ced 2cf2 a640 a642 a644 a646 a648 a64a a64c a64e a650",
  setRow 0xa652 0xa66c "a652 a654 a656 a658 a65a a65c a65e a660 a662 a664 a666 a668 a66a a66c",
  setRow 0xa680 0xa69a "a680 a682 a684 a686 a688 a68a a68c a68e a690 a692 a694 a696 a698 a69a",
  setRow 0xa722 0xa73e "a722 a724 a726 a728 a72a a72c a72e a732 a734 a736 a738 a73a a73c a73e",
  setRow 0xa740 0xa75a "a740 a742 a744 a746 a748 a74a a74c a74e a750 a752 a754 a756 a758 a75a",
  setRow 0xa75c 0xa77e "a75c a75e a760 a762 a764 a766 a768 a76a a76c a76e a779 a77b a77d-a77e",
  setRow 0xa780 0xa7a0 "a780 a782 a784 a786 a78b a78d a790 a792 a796 a798 a79a a79c a79e a7a0",
  setRow 0xa7a2 0xa7c0 "a7a2 a7a4 a7a6 a7a8 a7aa-a7ae a7b0-a7b4 a7b6 a7b8 a7ba a7bc a7be a7c0",
  setRow 0xa7c2 0xff3a "a7c2 a7c4-a7c7 a7c9 a7cb-a7cc a7d0 a7d6 a7d8 a7da a7dc a7f5 ff21-ff3a",
  setRow 0x10400 0x10595 "10400-10427 104b0-104d3 10570-1057a 1057c-1058a 1058c-10592 10594-10595",
  setRow 0x10c80 0x1e921 "10c80-10cb2 10d50-10d65 118a0-118bf 16e40-16e5f 1e900-1e921"]

def changesWhenTitlecased : CodeSet := [
  setRow 0x61 0x119 "61-7a b5 df-f6 f8-ff 101 103 105 107 109 10b 10d 10f 111 113 115 117 119",
  setRow 0x11b 0x13e "11b 11d 11f 121 123 125 127 129 12b 12d 12f 131 133 135 137 13a 13c 13e",
  setRow 0x140 0x161 "140 142 144 146 148-149 14b 14d 14f 151 153 155 157 159 15b 15d 15f 161",
  setRow 0x163 0x188 "163 165 167 169 16b 16d 16f 171 173 175 177 17a 17c 17e-180 183 185 188",
  setRow 0x18c 0x1c4 "18c 192 195 199-19b 19e 1a1 1a3 1a5 1a8 1ad 1b0 1b4 1b6 1b9 1bd 1bf 1c4",
  setRow 0x1c6 0x1e5 "1c6-1c7 1c9-1ca 1cc 1ce 1d0 1d2 1d4 1d6 1d8 1da 1dc-1dd 1df 1e1 1e3 1e5",
  setRow 0x1e7 0x20b "1e7 1e9 1eb 1ed 1ef-1f1 1f3 1f5 1f9 1fb 1fd 1ff 201 203 205 207 209 20b",
  setRow 0x20d 0x231 "20d 20f 211 213 215 217 219 21b 21d 21f 223 225 227 229 22b 22d 22f 231",
  setRow 0x233 0x261 "233 23c 23f-240 242 247 249 24b 24d 24f-254 256-257 259 25b-25c 260-261",
  setRow 0x263 0x345 "263-266 268-26c 26f 271-272 275 27d 280 282-283 287-28c 292 29d-29e 345",
  setRow 0x371 0x3e3 "371 373 377 37b-37d 390 3ac-3ce 3d0-3d1 3d5-3d7 3d9 3db 3dd 3df 3e1 3e3",
  setRow 0x3e5 0x46b "3e5 3e7 3e9 3eb 3ed 3ef-3f3 3f5 3f8 3fb 430-45f 461 463 465 467 469 46b",
  setRow 0x46d 0x497 "46d 46f 471 473 475 477 479 47b 47d 47f 481 48b 48d 48f 491 493 495 497",
  setRow 0x499 0x4bb "499 49b 49d 49f 4a1 4a3 4a5 4a7 4a9 4ab 4ad 4af 4b1 4b3 4b5 4b7 4b9 4bb",
  setRow 0x4bd 0x4df "4bd 4bf 4c2 4c4 4c6 4c8 4ca 4cc 4ce-4cf 4d1 4d3 4d5 4d7 4d9 4db 4dd 4df",
  setRow 0x4e1 0x503 "4e1 4e3 4e5 4e7 4e9 4eb 4ed 4ef 4f1 4f3 4f5 4f7 4f9 4fb 4fd 4ff 501 503",
  setRow 0x505 0x527 "505 507 509 50b 50d 50f 511 513 515 517 519 51b 51d 51f 521 523 525 527",
  setRow 0x529 0x1e01 "529 52b 52d 52f 561-587 13f8-13fd 1c80-1c88 1c8a 1d79 1d7d 1d8e 1e01",
  setRow 0x1e03 0x1e1d "1e03 1e05 1e07 1e09 1e0b 1e0d 1e0f 1e11 1e13 1e15 1e17 1e19 1e1b 1e1d",
  setRow 0x1e1f 0x1e39 "1e1f 1e21 1e23 1e25 1e27 1e29 1e2b 1e2d 1e2f 1e31 1e33 1e35 1e37 1e39",
  setRow 0x1e3b 0x1e55 "1e3b 1e3d 1e3f 1e41 1e43 1e45 1e47 1e49 1e4b 1e4d 1e4f 1e51 1e53 1e55",
  setRow 0x1e57 0x1e71 "1e57 1e59 1e5b 1e5d 1e5f 1e61 1e63 1e65 1e67 1e69 1e6b 1e6d 1e6f 1e71",
  setRow 0x1e73 0x1e8d "1e73 1e75 1e77 1e79 1e7b 1e7d 1e7f 1e81 1e83 1e85 1e87 1e89 1e8b 1e8d",
  setRow 0x1e8f 0x1eb1 "1e8f 1e91 1e93 1e95-1e9b 1ea1 1ea3 1ea5 1ea7 1ea9 1eab 1ead 1eaf 1eb1",
  setRow 0x1eb3 0x1ecd "1eb3 1eb5 1eb7 1eb9 1ebb 1ebd 1ebf 1ec1 1ec3 1ec5 1ec7 1ec9 1ecb 1ecd",
  setRow 0x1ecf 0x1ee9 "1ecf 1ed1 1ed3 1ed5 1ed7 1ed9 1edb 1edd 1edf 1ee1 1ee3 1ee5 1ee7 1ee9",
  setRow 0x1eeb 0x1f15 "1eeb 1eed 1eef 1ef1 1ef3 1ef5 1ef7 1ef9 1efb 1efd 1eff-1f07 1f10-1f15",
  setRow 0x1f20 0x1f87 "1f20-1f27 1f30-1f37 1f40-1f45 1f50-1f57 1f60-1f67 1f70-1f7d 1f80-1f87",
  setRow 0x1f90 0x1fc7 "1f90-1f97 1fa0-1fa7 1fb0-1fb4 1fb6-1fb7 1fbe 1fc2-1fc4 1fc6-1fc7",
  setRow 0x1fd0 0x2184 "1fd0-1fd3 1fd6-1fd7 1fe0-1fe7 1ff2-1ff4 1ff6-1ff7 214e 2170-217f 2184",
  setRow 0x24d0 0x2c83 "24d0-24e9 2c30-2c5f 2c61 2c65-2c66 2c68 2c6a 2c6c 2c73 2c76 2c81 2c83",
  setRow 0x2c85 0x2c9f "2c85 2c87 2c89 2c8b 2c8d 2c8f 2c91 2c93 2c95 2c97 2c99 2c9b 2c9d 2c9f",
  setRow 0x2ca1 0x2cbb "2ca1 2ca3 2ca5 2ca7 2ca9 2cab 2cad 2caf 2cb1 2cb3 2cb5 2cb7 2cb9 2cbb",
  setRow 0x2cbd 0x2cd7 "2cbd 2cbf 2cc1 2cc3 2cc5 2cc7 2cc9 2ccb 2ccd 2ccf 2cd1 2cd3 2cd5 2cd7",
  setRow 0x2cd9 0xa641 "2cd9 2cdb 2cdd 2cdf 2ce1 2ce3 2cec 2cee 2cf3 2d00-2d25 2d27 2d2d a641",
  setRow 0xa643 0xa65d "a643 a645 a647 a649 a64b a64d a64f a651 a653 a655 a657 a659 a65b a65d",
  setRow 0xa65f 0xa68b "a65f a661 a663 a665 a667 a669 a66b a66d a681 a683 a685 a687 a689 a68b",
  setRow 0xa68d 0xa72d "a68d a68f a691 a693 a695 a697 a699 a69b a723 a725 a727 a729 a72b a72d",
  setRow 0xa72f 0xa74b "a72f a733 a735 a737 a739 a73b a73d a73f a741 a743 a745 a747 a749 a74b",
  setRow 0xa74d 0xa767 "a74d a74f a751 a753 a755 a757 a759 a75b a75d a75f a761 a763 a765 a767",
  setRow 0xa769 0xa791 "a769 a76b a76d a76f a77a a77c a77f a781 a783 a785 a787 a78c a791",
  setRow 0xa793 0xa7b7 "a793-a794 a797 a799 a79b a79d a79f a7a1 a7a3 a7a5 a7a7 a7a9 a7b5 a7b7",
  setRow 0xa7b9 0xa7f6 "a7b9 a7bb a7bd a7bf a7c1 a7c3 a7c8 a7ca a7cd a7d1 a7d7 a7d9 a7db a7f6",
  setRow 0xab53 0x104fb "ab53 ab70-abbf fb00-fb06 fb13-fb17 ff41-ff5a 10428-1044f 104d8-104fb",
  setRow 0x10597 0x10d85 "10597-105a1 105a3-105b1 105b3-105b9 105bb-105bc 10cc0-10cf2 10d70-10d85",
  setRow 0x118c0 0x1e943 "118c0-118df 16e60-16e7f 1e922-1e943"]

def changesWhenUppercased : CodeSet := [
  setRow 0x61 0x119 "61-7a b5 df-f6 f8-ff 101 103 105 107 109 10b 10d 10f 111 113 115 117 119",
  setRow 0x11b 0x13e "11b 11d 11f 121 123 125 127 129 12b 12d 12f 131 133 135 137 13a 13c 13e",
  setRow 0x140 0x161 "140 142 144 146 148-149 14b 14d 14f 151 153 155 157 159 15b 15d 15f 161",
  setRow 0x163 0x188 "163 165 167 169 16b 16d 16f 171 173 175 177 17a 17c 17e-180 183 185 188",
  setRow 0x18c 0x1bf "18c 192 195 199-19b 19e 1a1 1a3 1a5 1a8 1ad 1b0 1b4 1b6 1b9 1bd 1bf",
  setRow 0x1c5 0x1e3 "1c5-1c6 1c8-1c9 1cb-1cc 1ce 1d0 1d2 1d4 1d6 1d8 1da 1dc-1dd 1df 1e1 1e3",
  setRow 0x1e5 0x207 "1e5 1e7 1e9 1eb 1ed 1ef-1f0 1f2-1f3 1f5 1f9 1fb 1fd 1ff 201 203 205 207",
  setRow 0x209 0x22d "209 20b 20d 20f 211 213 215 217 219 21b 21d 21f 223 225 227 229 22b 22d",
  setRow 0x22f 0x25c "22f 231 233 23c 23f-240 242 247 249 24b 24d 24f-254 256-257 259 25b-25c",
  setRow 0x260 0x292 "260-261 263-266 268-26c 26f 271-272 275 27d 280 282-283 287-28c 292",
  setRow 0x29d 0x3dd "29d-29e 345 371 373 377 37b-37d 390 3ac-3ce 3d0-3d1 3d5-3d7 3d9 3db 3dd",
  setRow 0x3df 0x465 "3df 3e1 3e3 3e5 3e7 3e9 3eb 3ed 3ef-3f3 3f5 3f8 3fb 430-45f 461 463 465",
  setRow 0x467 0x491 "467 469 46b 46d 46f 471 473 475 477 479 47b 47d 47f 481 48b 48d 48f 491",
  setRow 0x493 0x4b5 "493 495 497 499 49b 49d 49f 4a1 4a3 4a5 4a7 4a9 4ab 4ad 4af 4b1 4b3 4b5",
  setRow 0x4b7 0x4d9 "4b7 4b9 4bb 4bd 4bf 4c2 4c4 4c6 4c8 4ca 4cc 4ce-4cf 4d1 4d3 4d5 4d7 4d9",
  setRow 0x4db 0x4fd "4db 4dd 4df 4e1 4e3 4e5 4e7 4e9 4eb 4ed 4ef 4f1 4f3 4f5 4f7 4f9 4fb 4fd",
  setRow 0x4ff 0x521 "4ff 501 503 505 507 509 50b 50d 50f 511 513 515 517 519 51b 51d 51f 521",
  setRow 0x523 0x13fd "523 525 527 529 52b 52d 52f 561-587 10d0-10fa 10fd-10ff 13f8-13fd",
  setRow 0x1c80 0x1e0f "1c80-1c88 1c8a 1d79 1d7d 1d8e 1e01 1e03 1e05 1e07 1e09 1e0b 1e0d 1e0f",
  setRow 0x1e11 0x1e2b "1e11 1e13 1e15 1e17 1e19 1e1b 1e1d 1e1f 1e21 1e23 1e25 1e27 1e29 1e2b",
  setRow 0x1e2d 0x1e47 "1e2d 1e2f 1e31 1e33 1e35 1e37 1e39 1e3b 1e3d 1e3f 1e41 1e43 1e45 1e47",
  setRow 0x1e49 0x1e63 "1e49 1e4b 1e4d 1e4f 1e51 1e53 1e55 1e57 1e59 1e5b 1e5d 1e5f 1e61 1e63",
  setRow 0x1e65 0x1e7f "1e65 1e67 1e69 1e6b 1e6d 1e6f 1e71 1e73 1e75 1e77 1e79 1e7b 1e7d 1e7f",
  setRow 0x1e81 0x1ea3 "1e81 1e83 1e85 1e87 1e89 1e8b 1e8d 1e8f 1e91 1e93 1e95-1e9b 1ea1 1ea3",
  setRow 0x1ea5 0x1ebf "1ea5 1ea7 1ea9 1eab 1ead 1eaf 1eb1 1eb3 1eb5 1eb7 1eb9 1ebb 1ebd 1ebf",
  setRow 0x1ec1 0x1edb "1ec1 1ec3 1ec5 1ec7 1ec9 1ecb 1ecd 1ecf 1ed1 1ed3 1ed5 1ed7 1ed9 1edb",
  setRow 0x1edd 0x1ef7 "1edd 1edf 1ee1 1ee3 1ee5 1ee7 1ee9 1eeb 1eed 1eef 1ef1 1ef3 1ef5 1ef7",
  setRow 0x1ef9 0x1f45 "1ef9 1efb 1efd 1eff-1f07 1f10-1f15 1f20-1f27 1f30-1f37 1f40-1f45",
  setRow 0x1f50 0x1fc4 "1f50-1f57 1f60-1f67 1f70-1f7d 1f80-1fb4 1fb6-1fb7 1fbc 1fbe 1fc2-1fc4",
  setRow 0x1fc6 0x1ffc "1fc6-1fc7 1fcc 1fd0-1fd3 1fd6-1fd7 1fe0-1fe7 1ff2-1ff4 1ff6-1ff7 1ffc",
  setRow 0x214e 0x2c6c "214e 2170-217f 2184 24d0-24e9 2c30-2c5f 2c61 2c65-2c66 2c68 2c6a 2c6c",
  setRow 0x2c73 0x2c97 "2c73 2c76 2c81 2c83 2c85 2c87 2c89 2c8b 2c8d 2c8f 2c91 2c93 2c95 2c97",
  setRow 0x2c99 0x2cb3 "2c99 2c9b 2c9d 2c9f 2ca1 2ca3 2ca5 2ca7 2ca9 2cab 2cad 2caf 2cb1 2cb3",
  setRow 0x2cb5 0x2ccf "2cb5 2cb7 2cb9 2cbb 2cbd 2cbf 2cc1 2cc3 2cc5 2cc7 2cc9 2ccb 2ccd 2ccf",
  setRow 0x2cd1 0x2cf3 "2cd1 2cd3 2cd5 2cd7 2cd9 2cdb 2cdd 2cdf 2ce1 2ce3 2cec 2cee 2cf3",
  setRow 0x2d00 0xa653 "2d00-2d25 2d27 2d2d a641 a643 a645 a647 a649 a64b a64d a64f a651 a653",
  setRow 0xa655 0xa681 "a655 a657 a659 a65b a65d a65f a661 a663 a665 a667 a669 a66b a66d a681",
  setRow 0xa683 0xa723 "a683 a685 a687 a689 a68b a68d a68f a691 a693 a695 a697 a699 a69b a723",
  setRow 0xa725 0xa741 "a725 a727 a729 a72b a72d a72f a733 a735 a737 a739 a73b a73d a73f a741",
  setRow 0xa743 0xa75d "a743 a745 a747 a749 a74b a74d a74f a751 a753 a755 a757 a759 a75b a75d",
  setRow 0xa75f 0xa783 "a75f a761 a763 a765 a767 a769 a76b a76d a76f a77a a77c a77f a781 a783",
  setRow 0xa785 0xa7a5 "a785 a787 a78c a791 a793-a794 a797 a799 a79b a79d a79f a7a1 a7a3 a7a5",
  setRow 0xa7a7 0xa7d1 "a7a7 a7a9 a7b5 a7b7 a7b9 a7bb a7bd a7bf a7c1 a7c3 a7c8 a7ca a7cd a7d1",
  setRow 0xa7d7 0xff5a "a7d7 a7d9 a7db a7f6 ab53 ab70-abbf fb00-fb06 fb13-fb17 ff41-ff5a",
  setRow 0x10428 0x105bc "10428-1044f 104d8-104fb 10597-105a1 105a3-105b1 105b3-105b9 105bb-105bc",
  setRow 0x10cc0 0x1e943 "10cc0-10cf2 10d70-10d85 118c0-118df 16e60-16e7f 1e922-1e943"]

def dash : CodeSet := [
  setRow 0x2d 0x2e3b "2d 58a 5be 1400 1806 2010-2015 2053 207b 208b 2212 2e17 2e1a 2e3a-2e3b",
  setRow 0x2e40 0x10ead "2e40 2e5d 301c 3030 30a0 fe31-fe32 fe58 fe63 ff0d 10d6e 10ead"]

def deprecated : CodeSet := [
  setRow 0x149 0xe0001 "149 673 f77 f79 17a3-17a4 206a-206f 2329-232a e0001"]

def diacritic : CodeSet := [
  setRow 0x5e 0x487 "5e 60 a8 af b4 b7-b8 2b0-34e 350-357 35d-362 374-375 37a 384-385 483-487",
  setRow 0x559 0x6e6 "559 591-5a1 5a3-5bd 5bf 5c1-5c2 5c4 64b-652 657-658 6df-6e0 6e5-6e6",
  setRow 0x6ea 0x94d "6ea-6ec 730-74a 7a6-7b0 7eb-7f5 818-819 898-89f 8c9-8d2 8e3-8fe 93c 94d",
  setRow 0x951 0xcbc "951-954 971 9bc 9cd a3c a4d abc acd afd-aff b3c b4d b55 bcd c3c c4d cbc",
  setRow 0xccd 0xf39 "ccd d3b-d3c d4d dca e3a e47-e4c e4e eba ec8-ecc f18-f19 f35 f37 f39",
  setRow 0xf3e 0x108d "f3e-f3f f82-f84 f86-f87 fc6 1037 1039-103a 1063-1064 1069-106d 1087-108d",
  setRow 0x108f 0x1a60 "108f 109a-109b 135d-135f 1714-1715 1734 17c9-17d3 17dd 1939-193b 1a60",
  setRow 0x1a75 0x1be6 "1a75-1a7c 1a7f 1ab0-1abe 1ac1-1acb 1b34 1b44 1b6b-1b73 1baa-1bab 1be6",
  setRow 0x1bf2 0x1d6a "1bf2-1bf3 1c36-1c37 1c78-1c7d 1cd0-1ce8 1ced 1cf4 1cf7-1cf9 1d2c-1d6a",
  setRow 0x1dc4 0x1fef "1dc4-1dcf 1df5-1dff 1fbd 1fbf-1fc1 1fcd-1fcf 1fdd-1fdf 1fed-1fef",
  setRow 0x1ffd 0xa67f "1ffd-1ffe 2cef-2cf1 2e2f 302a-302f 3099-309c 30fc a66f a67c-a67d a67f",
  setRow 0xa69c 0xa8c4 "a69c-a69d a6f0-a6f1 a700-a721 a788-a78a a7f8-a7f9 a806 a82c a8c4",
  setRow 0xa8e0 0xaaf6 "a8e0-a8f1 a92b-a92e a953 a9b3 a9c0 a9e5 aa7b-aa7d aabf-aac2 aaf6",
  setRow 0xab5b 0xff9f "ab5b-ab5f ab69-ab6b abec-abed fb1e fe20-fe2f ff3e ff40 ff70 ff9e-ff9f",
  setRow 0xffe3 0x10a3f "ffe3 102e0 10780-10785 10787-107b0 107b2-107ba 10a38-10a3a 10a3f",
  setRow 0x10ae5 0x10f50 "10ae5-10ae6 10d22-10d27 10d4e 10d69-10d6d 10efd-10eff 10f46-10f50",
  setRow 0x10f82 0x111cc "10f82-10f85 11046 11070 110b9-110ba 11133-11134 11173 111c0 111ca-111cc",
  setRow 0x11235 0x11374 "11235-11236 112e9-112ea 1133b-1133c 1134d 11366-1136c 11370-11374",
  setRow 0x113ce 0x115c0 "113ce-113d0 113d2-113d3 113e1-113e2 11442 11446 114c2-114c3 115bf-115c0",
  setRow 0x1163f 0x11a47 "1163f 116b6-116b7 1172b 11839-1183a 1193d-1193e 11943 119e0 11a34 11a47",
  setRow 0x11a99 0x1612f "11a99 11c3f 11d42 11d44-11d45 11d97 11f41-11f42 11f5a 13447-13455 1612f",
  setRow 0x16af0 0x1aff3 "16af0-16af4 16b30-16b36 16d6b-16d6c 16f8f-16f9f 16ff0-16ff1 1aff0-1aff3",
  setRow 0x1aff5 0x1d172 "1aff5-1affb 1affd-1affe 1cf00-1cf2d 1cf30-1cf46 1d167-1d169 1d16d-1d172",
  setRow 0x1d17b 0x1e2ae "1d17b-1d182 1d185-1d18b 1d1aa-1d1ad 1e030-1e06d 1e130-1e136 1e2ae",
  setRow 0x1e2ec 0x1e94a "1e2ec-1e2ef 1e5ee-1e5ef 1e8d0-1e8d6 1e944-1e946 1e948-1e94a"]

def emoji : CodeSet := [
  setRow 0x23 0x2328 "23 2a 30-39 a9 ae 203c 2049 2122 2139 2194-2199 21a9-21aa 231a-231b 2328",
  setRow 0x23cf 0x2604 "23cf 23e9-23f3 23f8-23fa 24c2 25aa-25ab 25b6 25c0 25fb-25fe 2600-2604",
  setRow 0x260e 0x262f "260e 2611 2614-2615 2618 261d 2620 2622-2623 2626 262a 262e-262f",
  setRow 0x2638 0x267b "2638-263a 2640 2642 2648-2653 265f-2660 2663 2665-2666 2668 267b",
  setRow 0x267e 0x26b1 "267e-267f 2692-2697 2699 269b-269c 26a0-26a1 26a7 26aa-26ab 26b0-26b1",
  setRow 0x26bd 0x26f5 "26bd-26be 26c4-26c5 26c8 26ce-26cf 26d1 26d3-26d4 26e9-26ea 26f0-26f5",
  setRow 0x26f7 0x2728 "26f7-26fa 26fd 2702 2705 2708-270d 270f 2712 2714 2716 271d 2721 2728",
  setRow 0x2733 0x27a1 "2733-2734 2744 2747 274c 274e 2753-2755 2757 2763-2764 2795-2797 27a1",
  setRow 0x27b0 0x3299 "27b0 27bf 2934-2935 2b05-2b07 2b1b-2b1c 2b50 2b55 3030 303d 3297 3299",
  setRow 0x1f004 0x1f1ff "1f004 1f0cf 1f170-1f171 1f17e-1f17f 1f18e 1f191-1f19a 1f1e6-1f1ff",
  setRow 0x1f201 0x1f393 "1f201-1f202 1f21a 1f22f 1f232-1f23a 1f250-1f251 1f300-1f321 1f324-1f393",
  setRow 0x1f396 0x1f53d "1f396-1f397 1f399-1f39b 1f39e-1f3f0 1f3f3-1f3f5 1f3f7-1f4fd 1f4ff-1f53d",
  setRow 0x1f549 0x1f590 "1f549-1f54e 1f550-1f567 1f56f-1f570 1f573-1f57a 1f587 1f58a-1f58d 1f590",
  setRow 0x1f595 0x1f5d3 "1f595-1f596 1f5a4-1f5a5 1f5a8 1f5b1-1f5b2 1f5bc 1f5c2-1f5c4 1f5d1-1f5d3",
  setRow 0x1f5dc 0x1f6c5 "1f5dc-1f5de 1f5e1 1f5e3 1f5e8 1f5ef 1f5f3 1f5fa-1f64f 1f680-1f6c5",
  setRow 0x1f6cb 0x1f6fc "1f6cb-1f6d2 1f6d5-1f6d7 1f6dc-1f6e5 1f6e9 1f6eb-1f6ec 1f6f0 1f6f3-1f6fc",
  setRow 0x1f7e0 0x1fa7c "1f7e0-1f7eb 1f7f0 1f90c-1f93a 1f93c-1f945 1f947-1f9ff 1fa70-1fa7c",
  setRow 0x1fa80 0x1faf8 "1fa80-1fa89 1fa8f-1fac6 1face-1fadc 1fadf-1fae9 1faf0-1faf8"]

def emojiComponent : CodeSet := [
  setRow 0x23 0x1f9b3 "23 2a 30-39 200d 20e3 fe0f 1f1e6-1f1ff 1f3fb-1f3ff 1f9b0-1f9b3",
  setRow 0xe0020 0xe007f "e0020-e007f"]

def emojiModifier : CodeSet := [
  setRow 0x1f3fb 0x1f3ff "1f3fb-1f3ff"]

def emojiModifierBase : CodeSet := [
  setRow 0x261d 0x1f443 "261d 26f9 270a-270d 1f385 1f3c2-1f3c4 1f3c7 1f3ca-1f3cc 1f442-1f443",
  setRow 0x1f446 0x1f4aa "1f446-1f450 1f466-1f478 1f47c 1f481-1f483 1f485-1f487 1f48f 1f491 1f4aa",
  setRow 0x1f574 0x1f6a3 "1f574-1f575 1f57a 1f590 1f595-1f596 1f645-1f647 1f64b-1f64f 1f6a3",
  setRow 0x1f6b4 0x1f939 "1f6b4-1f6b6 1f6c0 1f6cc 1f90c 1f90f 1f918-1f91f 1f926 1f930-1f939",
  setRow 0x1f93c 0x1f9dd "1f93c-1f93e 1f977 1f9b5-1f9b6 1f9b8-1f9b9 1f9bb 1f9cd-1f9cf 1f9d1-1f9dd",
  setRow 0x1fac3 0x1faf8 "1fac3-1fac5 1faf0-1faf8"]

def emojiPresentation : CodeSet := [
  setRow 0x231a 0x2693 "231a-231b 23e9-23ec 23f0 23f3 25fd-25fe 2614-2615 2648-2653 267f 2693",
  setRow 0x26a1 0x26fa "26a1 26aa-26ab 26bd-26be 26c4-26c5 26ce 26d4 26ea 26f2-26f3 26f5 26fa",
  setRow 0x26fd 0x27bf "26fd 2705 270a-270b 2728 274c 274e 2753-2755 2757 2795-2797 27b0 27bf",
  setRow 0x2b1b 0x1f201 "2b1b-2b1c 2b50 2b55 1f004 1f0cf 1f18e 1f191-1f19a 1f1e6-1f1ff 1f201",
  setRow 0x1f21a 0x1f335 "1f21a 1f22f 1f232-1f236 1f238-1f23a 1f250-1f251 1f300-1f320 1f32d-1f335",
  setRow 0x1f337 0x1f3f4 "1f337-1f37c 1f37e-1f393 1f3a0-1f3ca 1f3cf-1f3d3 1f3e0-1f3f0 1f3f4",
  setRow 0x1f3f8 0x1f57a "1f3f8-1f43e 1f440 1f442-1f4fc 1f4ff-1f53d 1f54b-1f54e 1f550-1f567 1f57a",
  setRow 0x1f595 0x1f6d7 "1f595-1f596 1f5a4 1f5fb-1f64f 1f680-1f6c5 1f6cc 1f6d0-1f6d2 1f6d5-1f6d7",
  setRow 0x1f6dc 0x1f93a "1f6dc-1f6df 1f6eb-1f6ec 1f6f4-1f6fc 1f7e0-1f7eb 1f7f0 1f90c-1f93a",
  setRow 0x1f93c 0x1fadc "1f93c-1f945 1f947-1f9ff 1fa70-1fa7c 1fa80-1fa89 1fa8f-1fac6 1face-1fadc",
  setRow 0x1fadf 0x1faf8 "1fadf-1fae9 1faf0-1faf8"]

def extendedPictographic : CodeSet := [
  setRow 0xa9 0x23cf "a9 ae 203c 2049 2122 2139 2194-2199 21a9-21aa 231a-231b 2328 2388 23cf",
  setRow 0x23e9 0x2605 "23e9-23f3 23f8-23fa 24c2 25aa-25ab 25b6 25c0 25fb-25fe 2600-2605",
  setRow 0x2607 0x2728 "2607-2612 2614-2685 2690-2705 2708-2712 2714 2716 271d 2721 2728",
  setRow 0x2733 0x27a1 "2733-2734 2744 2747 274c 274e 2753-2755 2757 2763-2767 2795-2797 27a1",
  setRow 0x27b0 0x3299 "27b0 27bf 2934-2935 2b05-2b07 2b1b-2b1c 2b50 2b55 3030 303d 3297 3299",
  setRow 0x1f000 0x1f19a "1f000-1f0ff 1f10d-1f10f 1f12f 1f16c-1f171 1f17e-1f17f 1f18e 1f191-1f19a",
  setRow 0x1f1ad 0x1f3fa "1f1ad-1f1e5 1f201-1f20f 1f21a 1f22f 1f232-1f23a 1f23c-1f23f 1f249-1f3fa",
  setRow 0x1f400 0x1f80f "1f400-1f53d 1f546-1f64f 1f680-1f6ff 1f774-1f77f 1f7d5-1f7ff 1f80c-1f80f",
  setRow 0x1f848 0x1f945 "1f848-1f84f 1f85a-1f85f 1f888-1f88f 1f8ae-1f8ff 1f90c-1f93a 1f93c-1f945",
  setRow 0x1f947 0x1fffd "1f947-1faff 1fc00-1fffd"]

def extender : CodeSet := [
  setRow 0xb7 0x3005 "b7 2d0-2d1 640 7fa a71 afb b55 e46 ec6 180a 1843 1aa7 1c36 1c7b 3005",
  setRow 0x3031 0xaaf4 "3031-3035 309d-309e 30fc-30fe a015 a60c a9cf a9e6 aa70 aadd aaf3-aaf4",
  setRow 0xff70 0x115c8 "ff70 10781-10782 10d4e 10d6a 10d6f 11237 1135d 113d2-113d3 115c6-115c8",
  setRow 0x11a98 0x1e946 "11a98 16b42-16b43 16fe0-16fe1 16fe3 1e13c-1e13d 1e5ef 1e944-1e946"]

def graphemeBase : CodeSet := [
  setRow 0x20 0x52f "20-7e a0-ac ae-2ff 370-377 37a-37f 384-38a 38c 38e-3a1 3a3-482 48a-52f",
  setRow 0x531 0x61b "531-556 559-58a 58d-58f 5be 5c0 5c3 5c6 5d0-5ea 5ef-5f4 606-60f 61b",
  setRow 0x61d 0x7b1 "61d-64a 660-66f 671-6d5 6de 6e5-6e6 6e9 6ee-70d 710 712-72f 74d-7a5 7b1",
  setRow 0x7c0 0x88e "7c0-7ea 7f4-7fa 7fe-815 81a 824 828 830-83e 840-858 85e 860-86a 870-88e",
  setRow 0x8a0 0x983 "8a0-8c9 903-939 93b 93d-940 949-94c 94e-950 958-961 964-980 982-983",
  setRow 0x985 0x9cc "985-98c 98f-990 993-9a8 9aa-9b0 9b2 9b6-9b9 9bd 9bf-9c0 9c7-9c8 9cb-9cc",
  setRow 0x9ce 0xa33 "9ce 9dc-9dd 9df-9e1 9e6-9fd a03 a05-a0a a0f-a10 a13-a28 a2a-a30 a32-a33",
  setRow 0xa35 0xa8d "a35-a36 a38-a39 a3e-a40 a59-a5c a5e a66-a6f a72-a74 a76 a83 a85-a8d",
  setRow 0xa8f 0xae1 "a8f-a91 a93-aa8 aaa-ab0 ab2-ab3 ab5-ab9 abd-ac0 ac9 acb-acc ad0 ae0-ae1",
  setRow 0xae6 0xb3d "ae6-af1 af9 b02-b03 b05-b0c b0f-b10 b13-b28 b2a-b30 b32-b33 b35-b39 b3d",
  setRow 0xb40 0xb95 "b40 b47-b48 b4b-b4c b5c-b5d b5f-b61 b66-b77 b83 b85-b8a b8e-b90 b92-b95",
  setRow 0xb99 0xbcc "b99-b9a b9c b9e-b9f ba3-ba4 ba8-baa bae-bb9 bbf bc1-bc2 bc6-bc8 bca-bcc",
  setRow 0xbd0 0xc5a "bd0 be6-bfa c01-c03 c05-c0c c0e-c10 c12-c28 c2a-c39 c3d c41-c44 c58-c5a",
  setRow 0xc5d 0xcb9 "c5d c60-c61 c66-c6f c77-c80 c82-c8c c8e-c90 c92-ca8 caa-cb3 cb5-cb9",
  setRow 0xcbd 0xd10 "cbd-cbe cc1 cc3-cc4 cdd-cde ce0-ce1 ce6-cef cf1-cf3 d02-d0c d0e-d10",
  setRow 0xd12 0xd7f "d12-d3a d3d d3f-d40 d46-d48 d4a-d4c d4e-d4f d54-d56 d58-d61 d66-d7f",
  setRow 0xd82 0xdef "d82-d83 d85-d96 d9a-db1 db3-dbb dbd dc0-dc6 dd0-dd1 dd8-dde de6-def",
  setRow 0xdf2 0xea5 "df2-df4 e01-e30 e32-e33 e3f-e46 e4f-e5b e81-e82 e84 e86-e8a e8c-ea3 ea5",
  setRow 0xea7 0xf38 "ea7-eb0 eb2-eb3 ebd ec0-ec4 ec6 ed0-ed9 edc-edf f00-f17 f1a-f34 f36 f38",
  setRow 0xf3a 0x1031 "f3a-f47 f49-f6c f7f f85 f88-f8c fbe-fc5 fc7-fcc fce-fda 1000-102c 1031",
  setRow 0x1038 0x1084 "1038 103b-103c 103f-1057 105a-105d 1061-1070 1075-1081 1083-1084",
  setRow 0x1087 0x1256 "1087-108c 108e-109c 109e-10c5 10c7 10cd 10d0-1248 124a-124d 1250-1256",
  setRow 0x1258 0x12c0 "1258 125a-125d 1260-1288 128a-128d 1290-12b0 12b2-12b5 12b8-12be 12c0",
  setRow 0x12c2 0x1399 "12c2-12c5 12c8-12d6 12d8-1310 1312-1315 1318-135a 1360-137c 1380-1399",
  setRow 0x13a0 0x1736 "13a0-13f5 13f8-13fd 1400-169c 16a0-16f8 1700-1711 171f-1731 1735-1736",
  setRow 0x1740 0x17c8 "1740-1751 1760-176c 176e-1770 1780-17b3 17b6 17be-17c5 17c7-17c8",
  setRow 0x17d4 0x1884 "17d4-17dc 17e0-17e9 17f0-17f9 1800-180a 1810-1819 1820-1878 1880-1884",
  setRow 0x1887 0x1931 "1887-18a8 18aa 18b0-18f5 1900-191e 1923-1926 1929-192b 1930-1931",
  setRow 0x1933 0x19da "1933-1938 1940 1944-196d 1970-1974 1980-19ab 19b0-19c9 19d0-19da",
  setRow 0x19de 0x1a89 "19de-1a16 1a19-1a1a 1a1e-1a55 1a57 1a61 1a63-1a64 1a6d-1a72 1a80-1a89",
  setRow 0x1a90 0x1b7f "1a90-1a99 1aa0-1aad 1b04-1b33 1b3e-1b41 1b45-1b4c 1b4e-1b6a 1b74-1b7f",
  setRow 0x1b82 0x1c35 "1b82-1ba1 1ba6-1ba7 1bae-1be5 1be7 1bea-1bec 1bee 1bfc-1c2b 1c34-1c35",
  setRow 0x1c3b 0x1cf3 "1c3b-1c49 1c4d-1c8a 1c90-1cba 1cbd-1cc7 1cd3 1ce1 1ce9-1cec 1cee-1cf3",
  setRow 0x1cf5 0x1f4d "1cf5-1cf7 1cfa 1d00-1dbf 1e00-1f15 1f18-1f1d 1f20-1f45 1f48-1f4d",
  setRow 0x1f50 0x1fd3 "1f50-1f57 1f59 1f5b 1f5d 1f5f-1f7d 1f80-1fb4 1fb6-1fc4 1fc6-1fd3",
  setRow 0x1fd6 0x205f "1fd6-1fdb 1fdd-1fef 1ff2-1ff4 1ff6-1ffe 2000-200a 2010-2027 202f-205f",
  setRow 0x2070 0x244a "2070-2071 2074-208e 2090-209c 20a0-20c0 2100-218b 2190-2429 2440-244a",
  setRow 0x2460 0x2d67 "2460-2b73 2b76-2b95 2b97-2cee 2cf2-2cf3 2cf9-2d25 2d27 2d2d 2d30-2d67",
  setRow 0x2d6f 0x2dc6 "2d6f-2d70 2d80-2d96 2da0-2da6 2da8-2dae 2db0-2db6 2db8-2dbe 2dc0-2dc6",
  setRow 0x2dc8 0x2fd5 "2dc8-2dce 2dd0-2dd6 2dd8-2dde 2e00-2e5d 2e80-2e99 2e9b-2ef3 2f00-2fd5",
  setRow 0x2ff0 0x31e5 "2ff0-3029 3030-303f 3041-3096 309b-30ff 3105-312f 3131-318e 3190-31e5",
  setRow 0x31ef 0xa69d "31ef-321e 3220-a48c a490-a4c6 a4d0-a62b a640-a66e a673 a67e-a69d",
  setRow 0xa6a0 0xa801 "a6a0-a6ef a6f2-a6f7 a700-a7cd a7d0-a7d1 a7d3 a7d5-a7dc a7f2-a801",
  setRow 0xa803 0xa8c3 "a803-a805 a807-a80a a80c-a824 a827-a82b a830-a839 a840-a877 a880-a8c3",
  setRow 0xa8ce 0xa9b2 "a8ce-a8d9 a8f2-a8fe a900-a925 a92e-a946 a952 a95f-a97c a983-a9b2",
  setRow 0xa9b4 0xa9fe "a9b4-a9b5 a9ba-a9bb a9be-a9bf a9c1-a9cd a9cf-a9d9 a9de-a9e4 a9e6-a9fe",
  setRow 0xaa00 0xaa59 "aa00-aa28 aa2f-aa30 aa33-aa34 aa40-aa42 aa44-aa4b aa4d aa50-aa59",
  setRow 0xaa5c 0xaaeb "aa5c-aa7b aa7d-aaaf aab1 aab5-aab6 aab9-aabd aac0 aac2 aadb-aaeb",
  setRow 0xaaee 0xab6b "aaee-aaf5 ab01-ab06 ab09-ab0e ab11-ab16 ab20-ab26 ab28-ab2e ab30-ab6b",
  setRow 0xab70 0xd7fb "ab70-abe4 abe6-abe7 abe9-abec abf0-abf9 ac00-d7a3 d7b0-d7c6 d7cb-d7fb",
  setRow 0xf900 0xfb3e "f900-fa6d fa70-fad9 fb00-fb06 fb13-fb17 fb1d fb1f-fb36 fb38-fb3c fb3e",
  setRow 0xfb40 0xfdff "fb40-fb41 fb43-fb44 fb46-fbc2 fbd3-fd8f fd92-fdc7 fdcf fdf0-fdff",
  setRow 0xfe10 0xff9d "fe10-fe19 fe30-fe52 fe54-fe66 fe68-fe6b fe70-fe74 fe76-fefc ff01-ff9d",
  setRow 0xffa0 0xffee "ffa0-ffbe ffc2-ffc7 ffca-ffcf ffd2-ffd7 ffda-ffdc ffe0-ffe6 ffe8-ffee",
  setRow 0xfffc 0x1004d "fffc-fffd 10000-1000b 1000d-10026 10028-1003a 1003c-1003d 1003f-1004d",
  setRow 0x10050 0x1019c "10050-1005d 10080-100fa 10100-10102 10107-10133 10137-1018e 10190-1019c",
  setRow 0x101a0 0x10323 "101a0 101d0-101fc 10280-1029c 102a0-102d0 102e1-102fb 10300-10323",
  setRow 0x1032d 0x1049d "1032d-1034a 10350-10375 10380-1039d 1039f-103c3 103c8-103d5 10400-1049d",
  setRow 0x104a0 0x1057a "104a0-104a9 104b0-104d3 104d8-104fb 10500-10527 10530-10563 1056f-1057a",
  setRow 0x1057c 0x105b9 "1057c-1058a 1058c-10592 10594-10595 10597-105a1 105a3-105b1 105b3-105b9",
  setRow 0x105bb 0x10785 "105bb-105bc 105c0-105f3 10600-10736 10740-10755 10760-10767 10780-10785",
  setRow 0x10787 0x1083c "10787-107b0 107b2-107ba 10800-10805 10808 1080a-10835 10837-10838 1083c",
  setRow 0x1083f 0x1091b "1083f-10855 10857-1089e 108a7-108af 108e0-108f2 108f4-108f5 108fb-1091b",
  setRow 0x1091f 0x10a13 "1091f-10939 1093f 10980-109b7 109bc-109cf 109d2-10a00 10a10-10a13",
  setRow 0x10a15 0x10ae4 "10a15-10a17 10a19-10a35 10a40-10a48 10a50-10a58 10a60-10a9f 10ac0-10ae4",
  setRow 0x10aeb 0x10b9c "10aeb-10af6 10b00-10b35 10b39-10b55 10b58-10b72 10b78-10b91 10b99-10b9c",
  setRow 0x10ba9 0x10d39 "10ba9-10baf 10c00-10c48 10c80-10cb2 10cc0-10cf2 10cfa-10d23 10d30-10d39",
  setRow 0x10d40 0x10ead "10d40-10d65 10d6e-10d85 10d8e-10d8f 10e60-10e7e 10e80-10ea9 10ead",
  setRow 0x10eb0 0x10f81 "10eb0-10eb1 10ec2-10ec4 10f00-10f27 10f30-10f45 10f51-10f59 10f70-10f81",
  setRow 0x10f86 0x1104d "10f86-10f89 10fb0-10fcb 10fe0-10ff6 11000 11002-11037 11047-1104d",
  setRow 0x11052 0x110bc "11052-1106f 11071-11072 11075 11082-110b2 110b7-110b8 110bb-110bc",
  setRow 0x110be 0x11147 "110be-110c1 110d0-110e8 110f0-110f9 11103-11126 1112c 11136-11147",
  setRow 0x11150 0x111ce "11150-11172 11174-11176 11182-111b5 111bf 111c1-111c8 111cd-111ce",
  setRow 0x111d0 0x1123d "111d0-111df 111e1-111f4 11200-11211 11213-1122e 11232-11233 11238-1123d",
  setRow 0x1123f 0x112a9 "1123f-11240 11280-11286 11288 1128a-1128d 1128f-1129d 1129f-112a9",
  setRow 0x112b0 0x11310 "112b0-112de 112e0-112e2 112f0-112f9 11302-11303 11305-1130c 1130f-11310",
  setRow 0x11313 0x11344 "11313-11328 1132a-11330 11332-11333 11335-11339 1133d 1133f 11341-11344",
  setRow 0x11347 0x1138e "11347-11348 1134b-1134c 11350 1135d-11363 11380-11389 1138b 1138e",
  setRow 0x11390 0x113d5 "11390-113b5 113b7 113b9-113ba 113ca 113cc-113cd 113d1 113d3-113d5",
  setRow 0x113d7 0x11461 "113d7-113d8 11400-11437 11440-11441 11445 11447-1145b 1145d 1145f-11461",
  setRow 0x11480 0x114c7 "11480-114af 114b1-114b2 114b9 114bb-114bc 114be 114c1 114c4-114c7",
  setRow 0x114d0 0x115db "114d0-114d9 11580-115ae 115b0-115b1 115b8-115bb 115be 115c1-115db",
  setRow 0x11600 0x1166c "11600-11632 1163b-1163c 1163e 11641-11644 11650-11659 11660-1166c",
  setRow 0x11680 0x116e3 "11680-116aa 116ac 116ae-116af 116b8-116b9 116c0-116c9 116d0-116e3",
  setRow 0x11700 0x1183b "11700-1171a 1171e 11720-11721 11726 11730-11746 11800-1182e 11838 1183b",
  setRow 0x118a0 0x1192f "118a0-118f2 118ff-11906 11909 1190c-11913 11915-11916 11918-1192f",
  setRow 0x11931 0x119a7 "11931-11935 11937-11938 1193f-11942 11944-11946 11950-11959 119a0-119a7",
  setRow 0x119aa 0x11a3a "119aa-119d3 119dc-119df 119e1-119e4 11a00 11a0b-11a32 11a39-11a3a",
  setRow 0x11a3f 0x11af8 "11a3f-11a46 11a50 11a57-11a58 11a5c-11a89 11a97 11a9a-11aa2 11ab0-11af8",
  setRow 0x11b00 0x11c3e "11b00-11b09 11bc0-11be1 11bf0-11bf9 11c00-11c08 11c0a-11c2f 11c3e",
  setRow 0x11c40 0x11d06 "11c40-11c45 11c50-11c6c 11c70-11c8f 11ca9 11cb1 11cb4 11d00-11d06",
  setRow 0x11d08 0x11d68 "11d08-11d09 11d0b-11d30 11d46 11d50-11d59 11d60-11d65 11d67-11d68",
  setRow 0x11d6a 0x11ef8 "11d6a-11d8e 11d93-11d94 11d96 11d98 11da0-11da9 11ee0-11ef2 11ef5-11ef8",
  setRow 0x11f02 0x11ff1 "11f02-11f10 11f12-11f35 11f3e-11f3f 11f43-11f59 11fb0 11fc0-11ff1",
  setRow 0x11fff 0x1342f "11fff-12399 12400-1246e 12470-12474 12480-12543 12f90-12ff2 13000-1342f",
  setRow 0x13441 0x16139 "13441-13446 13460-143fa 14400-14646 16100-1611d 1612a-1612c 16130-16139",
  setRow 0x16800 0x16aed "16800-16a38 16a40-16a5e 16a60-16a69 16a6e-16abe 16ac0-16ac9 16ad0-16aed",
  setRow 0x16af5 0x16b77 "16af5 16b00-16b2f 16b37-16b45 16b50-16b59 16b5b-16b61 16b63-16b77",
  setRow 0x16b7d 0x16f9f "16b7d-16b8f 16d40-16d79 16e40-16e9a 16f00-16f4a 16f50-16f87 16f93-16f9f",
  setRow 0x16fe0 0x1affb "16fe0-16fe3 17000-187f7 18800-18cd5 18cff-18d08 1aff0-1aff3 1aff5-1affb",
  setRow 0x1affd 0x1b2fb "1affd-1affe 1b000-1b122 1b132 1b150-1b152 1b155 1b164-1b167 1b170-1b2fb",
  setRow 0x1bc00 0x1ccf9 "1bc00-1bc6a 1bc70-1bc7c 1bc80-1bc88 1bc90-1bc99 1bc9c 1bc9f 1cc00-1ccf9",
  setRow 0x1cd00 0x1d16c "1cd00-1ceb3 1cf50-1cfc3 1d000-1d0f5 1d100-1d126 1d129-1d164 1d16a-1d16c",
  setRow 0x1d183 0x1d2d3 "1d183-1d184 1d18c-1d1a9 1d1ae-1d1ea 1d200-1d241 1d245 1d2c0-1d2d3",
  setRow 0x1d2e0 0x1d49f "1d2e0-1d2f3 1d300-1d356 1d360-1d378 1d400-1d454 1d456-1d49c 1d49e-1d49f",
  setRow 0x1d4a2 0x1d505 "1d4a2 1d4a5-1d4a6 1d4a9-1d4ac 1d4ae-1d4b9 1d4bb 1d4bd-1d4c3 1d4c5-1d505",
  setRow 0x1d507 0x1d544 "1d507-1d50a 1d50d-1d514 1d516-1d51c 1d51e-1d539 1d53b-1d53e 1d540-1d544",
  setRow 0x1d546 0x1da3a "1d546 1d54a-1d550 1d552-1d6a5 1d6a8-1d7cb 1d7ce-1d9ff 1da37-1da3a",
  setRow 0x1da6d 0x1e06d "1da6d-1da74 1da76-1da83 1da85-1da8b 1df00-1df1e 1df25-1df2a 1e030-1e06d",
  setRow 0x1e100 0x1e2eb "1e100-1e12c 1e137-1e13d 1e140-1e149 1e14e-1e14f 1e290-1e2ad 1e2c0-1e2eb",
  setRow 0x1e2f0 0x1e5ff "1e2f0-1e2f9 1e2ff 1e4d0-1e4eb 1e4f0-1e4f9 1e5d0-1e5ed 1e5f0-1e5fa 1e5ff",
  setRow 0x1e7e0 0x1e8cf "1e7e0-1e7e6 1e7e8-1e7eb 1e7ed-1e7ee 1e7f0-1e7fe 1e800-1e8c4 1e8c7-1e8cf",
  setRow 0x1e900 0x1ed3d "1e900-1e943 1e94b 1e950-1e959 1e95e-1e95f 1ec71-1ecb4 1ed01-1ed3d",
  setRow 0x1ee00 0x1ee37 "1ee00-1ee03 1ee05-1ee1f 1ee21-1ee22 1ee24 1ee27 1ee29-1ee32 1ee34-1ee37",
  setRow 0x1ee39 0x1ee57 "1ee39 1ee3b 1ee42 1ee47 1ee49 1ee4b 1ee4d-1ee4f 1ee51-1ee52 1ee54 1ee57",
  setRow 0x1ee59 0x1ee72 "1ee59 1ee5b 1ee5d 1ee5f 1ee61-1ee62 1ee64 1ee67-1ee6a 1ee6c-1ee72",
  setRow 0x1ee74 0x1eea3 "1ee74-1ee77 1ee79-1ee7c 1ee7e 1ee80-1ee89 1ee8b-1ee9b 1eea1-1eea3",
  setRow 0x1eea5 0x1f0ae "1eea5-1eea9 1eeab-1eebb 1eef0-1eef1 1f000-1f02b 1f030-1f093 1f0a0-1f0ae",
  setRow 0x1f0b1 0x1f23b "1f0b1-1f0bf 1f0c1-1f0cf 1f0d1-1f0f5 1f100-1f1ad 1f1e6-1f202 1f210-1f23b",
  setRow 0x1f240 0x1f6fc "1f240-1f248 1f250-1f251 1f260-1f265 1f300-1f6d7 1f6dc-1f6ec 1f6f0-1f6fc",
  setRow 0x1f700 0x1f847 "1f700-1f776 1f77b-1f7d9 1f7e0-1f7eb 1f7f0 1f800-1f80b 1f810-1f847",
  setRow 0x1f850 0x1fa53 "1f850-1f859 1f860-1f887 1f890-1f8ad 1f8b0-1f8bb 1f8c0-1f8c1 1f900-1fa53",
  setRow 0x1fa60 0x1fae9 "1fa60-1fa6d 1fa70-1fa7c 1fa80-1fa89 1fa8f-1fac6 1face-1fadc 1fadf-1fae9",
  setRow 0x1faf0 0x2b81d "1faf0-1faf8 1fb00-1fb92 1fb94-1fbf9 20000-2a6df 2a700-2b739 2b740-2b81d",
  setRow 0x2b820 0x323af "2b820-2cea1 2ceb0-2ebe0 2ebf0-2ee5d 2f800-2fa1d 30000-3134a 31350-323af"]

def graphemeLink : CodeSet := [
  setRow 0x94d 0x103a "94d 9cd a4d acd b4d bcd c4d ccd d3b-d3c d4d dca e3a eba f84 1039-103a",
  setRow 0x1714 0xa8c4 "1714-1715 1734 17d2 1a60 1b44 1baa-1bab 1bf2-1bf3 2d7f a806 a82c a8c4",
  setRow 0xa953 0x111c0 "a953 a9c0 aaf6 abed 10a3f 11046 11070 1107f 110b9 11133-11134 111c0",
  setRow 0x11235 0x11839 "11235 112ea 1134d 113ce-113d0 11442 114c2 115bf 1163f 116b6 1172b 11839",
  setRow 0x1193d 0x11f42 "1193d-1193e 119e0 11a34 11a47 11a99 11c3f 11d44-11d45 11d97 11f41-11f42",
  setRow 0x1612f 0x1612f "1612f"]

def hexDigit : CodeSet := [
  setRow 0x30 0xff46 "30-39 41-46 61-66 ff10-ff19 ff21-ff26 ff41-ff46"]

def hyphen : CodeSet := [
  setRow 0x2d 0xff65 "2d ad 58a 1806 2010-2011 2e17 30fb fe63 ff0d ff65"]

def idsBinaryOperator : CodeSet := [
  setRow 0x2ff0 0x31ef "2ff0-2ff1 2ff4-2ffd 31ef"]

def idsTrinaryOperator : CodeSet := [
  setRow 0x2ff2 0x2ff3 "2ff2-2ff3"]

def idsUnaryOperator : CodeSet := [
  setRow 0x2ffe 0x2fff "2ffe-2fff"]

def idCompatMathContinue : CodeSet := [
  setRow 0xb2 0x1d715 "b2-b3 b9 2070 2074-207e 2080-208e 2202 2207 221e 1d6c1 1d6db 1d6fb 1d715",
  setRow 0x1d735 0x1d7c3 "1d735 1d74f 1d76f 1d789 1d7a9 1d7c3"]

def idCompatMathStart : CodeSet := [
  setRow 0x2202 0x1d7a9 "2202 2207 221e 1d6c1 1d6db 1d6fb 1d715 1d735 1d74f 1d76f 1d789 1d7a9",
  setRow 0x1d7c3 0x1d7c3 "1d7c3"]

def idContinue : CodeSet := [
  setRow 0x30 0x2ec "30-39 41-5a 5f 61-7a aa b5 b7 ba c0-d6 d8-f6 f8-2c1 2c6-2d1 2e0-2e4 2ec",
  setRow 0x2ee 0x481 "2ee 300-374 376-377 37a-37d 37f 386-38a 38c 38e-3a1 3a3-3f5 3f7-481",
  setRow 0x483 0x5c7 "483-487 48a-52f 531-556 559 560-588 591-5bd 5bf 5c1-5c2 5c4-5c5 5c7",
  setRow 0x5d0 0x6ff "5d0-5ea 5ef-5f2 610-61a 620-669 66e-6d3 6d5-6dc 6df-6e8 6ea-6fc 6ff",
  setRow 0x710 0x88e "710-74a 74d-7b1 7c0-7f5 7fa 7fd 800-82d 840-85b 860-86a 870-887 889-88e",
  setRow 0x897 0x9b2 "897-8e1 8e3-963 966-96f 971-983 985-98c 98f-990 993-9a8 9aa-9b0 9b2",
  setRow 0x9b6 0x9fe "9b6-9b9 9bc-9c4 9c7-9c8 9cb-9ce 9d7 9dc-9dd 9df-9e3 9e6-9f1 9fc 9fe",
  setRow 0xa01 0xa3c "a01-a03 a05-a0a a0f-a10 a13-a28 a2a-a30 a32-a33 a35-a36 a38-a39 a3c",
  setRow 0xa3e 0xa91 "a3e-a42 a47-a48 a4b-a4d a51 a59-a5c a5e a66-a75 a81-a83 a85-a8d a8f-a91",
  setRow 0xa93 0xae3 "a93-aa8 aaa-ab0 ab2-ab3 ab5-ab9 abc-ac5 ac7-ac9 acb-acd ad0 ae0-ae3",
  setRow 0xae6 0xb39 "ae6-aef af9-aff b01-b03 b05-b0c b0f-b10 b13-b28 b2a-b30 b32-b33 b35-b39",
  setRow 0xb3c 0xb83 "b3c-b44 b47-b48 b4b-b4d b55-b57 b5c-b5d b5f-b63 b66-b6f b71 b82-b83",
  setRow 0xb85 0xbb9 "b85-b8a b8e-b90 b92-b95 b99-b9a b9c b9e-b9f ba3-ba4 ba8-baa bae-bb9",
  setRow 0xbbe 0xc39 "bbe-bc2 bc6-bc8 bca-bcd bd0 bd7 be6-bef c00-c0c c0e-c10 c12-c28 c2a-c39",
  setRow 0xc3c 0xc83 "c3c-c44 c46-c48 c4a-c4d c55-c56 c58-c5a c5d c60-c63 c66-c6f c80-c83",
  setRow 0xc85 0xcd6 "c85-c8c c8e-c90 c92-ca8 caa-cb3 cb5-cb9 cbc-cc4 cc6-cc8 cca-ccd cd5-cd6",
  setRow 0xcdd 0xd4e "cdd-cde ce0-ce3 ce6-cef cf1-cf3 d00-d0c d0e-d10 d12-d44 d46-d48 d4a-d4e",
  setRow 0xd54 0xdbd "d54-d57 d5f-d63 d66-d6f d7a-d7f d81-d83 d85-d96 d9a-db1 db3-dbb dbd",
  setRow 0xdc0 0xe59 "dc0-dc6 dca dcf-dd4 dd6 dd8-ddf de6-def df2-df3 e01-e3a e40-e4e e50-e59",
  setRow 0xe81 0xed9 "e81-e82 e84 e86-e8a e8c-ea3 ea5 ea7-ebd ec0-ec4 ec6 ec8-ece ed0-ed9",
  setRow 0xedc 0xf97 "edc-edf f00 f18-f19 f20-f29 f35 f37 f39 f3e-f47 f49-f6c f71-f84 f86-f97",
  setRow 0xf99 0x1248 "f99-fbc fc6 1000-1049 1050-109d 10a0-10c5 10c7 10cd 10d0-10fa 10fc-1248",
  setRow 0x124a 0x12b0 "124a-124d 1250-1256 1258 125a-125d 1260-1288 128a-128d 1290-12b0",
  setRow 0x12b2 0x1315 "12b2-12b5 12b8-12be 12c0 12c2-12c5 12c8-12d6 12d8-1310 1312-1315",
  setRow 0x1318 0x166c "1318-135a 135d-135f 1369-1371 1380-138f 13a0-13f5 13f8-13fd 1401-166c",
  setRow 0x166f 0x1753 "166f-167f 1681-169a 16a0-16ea 16ee-16f8 1700-1715 171f-1734 1740-1753",
  setRow 0x1760 0x17e9 "1760-176c 176e-1770 1772-1773 1780-17d3 17d7 17dc-17dd 17e0-17e9",
  setRow 0x180b 0x192b "180b-180d 180f-1819 1820-1878 1880-18aa 18b0-18f5 1900-191e 1920-192b",
  setRow 0x1930 0x1a1b "1930-193b 1946-196d 1970-1974 1980-19ab 19b0-19c9 19d0-19da 1a00-1a1b",
  setRow 0x1a20 0x1ace "1a20-1a5e 1a60-1a7c 1a7f-1a89 1a90-1a99 1aa7 1ab0-1abd 1abf-1ace",
  setRow 0x1b00 0x1c7d "1b00-1b4c 1b50-1b59 1b6b-1b73 1b80-1bf3 1c00-1c37 1c40-1c49 1c4d-1c7d",
  setRow 0x1c80 0x1f1d "1c80-1c8a 1c90-1cba 1cbd-1cbf 1cd0-1cd2 1cd4-1cfa 1d00-1f15 1f18-1f1d",
  setRow 0x1f20 0x1fb4 "1f20-1f45 1f48-1f4d 1f50-1f57 1f59 1f5b 1f5d 1f5f-1f7d 1f80-1fb4",
  setRow 0x1fb6 0x1fec "1fb6-1fbc 1fbe 1fc2-1fc4 1fc6-1fcc 1fd0-1fd3 1fd6-1fdb 1fe0-1fec",
  setRow 0x1ff2 0x209c "1ff2-1ff4 1ff6-1ffc 200c-200d 203f-2040 2054 2071 207f 2090-209c",
  setRow 0x20d0 0x2126 "20d0-20dc 20e1 20e5-20f0 2102 2107 210a-2113 2115 2118-211d 2124 2126",
  setRow 0x2128 0x2cf3 "2128 212a-2139 213c-213f 2145-2149 214e 2160-2188 2c00-2ce4 2ceb-2cf3",
  setRow 0x2d00 0x2dae "2d00-2d25 2d27 2d2d 2d30-2d67 2d6f 2d7f-2d96 2da0-2da6 2da8-2dae",
  setRow 0x2db0 0x2dff "2db0-2db6 2db8-2dbe 2dc0-2dc6 2dc8-2dce 2dd0-2dd6 2dd8-2dde 2de0-2dff",
  setRow 0x3005 0x30ff "3005-3007 3021-302f 3031-3035 3038-303c 3041-3096 3099-309f 30a1-30ff",
  setRow 0x3105 0xa4fd "3105-312f 3131-318e 31a0-31bf 31f0-31ff 3400-4dbf 4e00-a48c a4d0-a4fd",
  setRow 0xa500 0xa788 "a500-a60c a610-a62b a640-a66f a674-a67d a67f-a6f1 a717-a71f a722-a788",
  setRow 0xa78b 0xa8c5 "a78b-a7cd a7d0-a7d1 a7d3 a7d5-a7dc a7f2-a827 a82c a840-a873 a880-a8c5",
  setRow 0xa8d0 0xa9c0 "a8d0-a8d9 a8e0-a8f7 a8fb a8fd-a92d a930-a953 a960-a97c a980-a9c0",
  setRow 0xa9cf 0xaac2 "a9cf-a9d9 a9e0-a9fe aa00-aa36 aa40-aa4d aa50-aa59 aa60-aa76 aa7a-aac2",
  setRow 0xaadb 0xab26 "aadb-aadd aae0-aaef aaf2-aaf6 ab01-ab06 ab09-ab0e ab11-ab16 ab20-ab26",
  setRow 0xab28 0xd7a3 "ab28-ab2e ab30-ab5a ab5c-ab69 ab70-abea abec-abed abf0-abf9 ac00-d7a3",
  setRow 0xd7b0 0xfb28 "d7b0-d7c6 d7cb-d7fb f900-fa6d fa70-fad9 fb00-fb06 fb13-fb17 fb1d-fb28",
  setRow 0xfb2a 0xfd3d "fb2a-fb36 fb38-fb3c fb3e fb40-fb41 fb43-fb44 fb46-fbb1 fbd3-fd3d",
  setRow 0xfd50 0xfe4f "fd50-fd8f fd92-fdc7 fdf0-fdfb fe00-fe0f fe20-fe2f fe33-fe34 fe4d-fe4f",
  setRow 0xfe70 0xffbe "fe70-fe74 fe76-fefc ff10-ff19 ff21-ff3a ff3f ff41-ff5a ff65-ffbe",
  setRow 0xffc2 0x10026 "ffc2-ffc7 ffca-ffcf ffd2-ffd7 ffda-ffdc 10000-1000b 1000d-10026",
  setRow 0x10028 0x10174 "10028-1003a 1003c-1003d 1003f-1004d 10050-1005d 10080-100fa 10140-10174",
  setRow 0x101fd 0x1037a "101fd 10280-1029c 102a0-102d0 102e0 10300-1031f 1032d-1034a 10350-1037a",
  setRow 0x10380 0x104a9 "10380-1039d 103a0-103c3 103c8-103cf 103d1-103d5 10400-1049d 104a0-104a9",
  setRow 0x104b0 0x1058a "104b0-104d3 104d8-104fb 10500-10527 10530-10563 10570-1057a 1057c-1058a",
  setRow 0x1058c 0x105bc "1058c-10592 10594-10595 10597-105a1 105a3-105b1 105b3-105b9 105bb-105bc",
  setRow 0x105c0 0x107b0 "105c0-105f3 10600-10736 10740-10755 10760-10767 10780-10785 10787-107b0",
  setRow 0x107b2 0x10855 "107b2-107ba 10800-10805 10808 1080a-10835 10837-10838 1083c 1083f-10855",
  setRow 0x10860 0x10939 "10860-10876 10880-1089e 108e0-108f2 108f4-108f5 10900-10915 10920-10939",
  setRow 0x10980 0x10a17 "10980-109b7 109be-109bf 10a00-10a03 10a05-10a06 10a0c-10a13 10a15-10a17",
  setRow 0x10a19 0x10ac7 "10a19-10a35 10a38-10a3a 10a3f 10a60-10a7c 10a80-10a9c 10ac0-10ac7",
  setRow 0x10ac9 0x10c48 "10ac9-10ae6 10b00-10b35 10b40-10b55 10b60-10b72 10b80-10b91 10c00-10c48",
  setRow 0x10c80 0x10d6d "10c80-10cb2 10cc0-10cf2 10d00-10d27 10d30-10d39 10d40-10d65 10d69-10d6d",
  setRow 0x10d6f 0x10f1c "10d6f-10d85 10e80-10ea9 10eab-10eac 10eb0-10eb1 10ec2-10ec4 10efc-10f1c",
  setRow 0x10f27 0x11046 "10f27 10f30-10f50 10f70-10f85 10fb0-10fc4 10fe0-10ff6 11000-11046",
  setRow 0x11066 0x11134 "11066-11075 1107f-110ba 110c2 110d0-110e8 110f0-110f9 11100-11134",
  setRow 0x11136 0x111cc "11136-1113f 11144-11147 11150-11173 11176 11180-111c4 111c9-111cc",
  setRow 0x111ce 0x11288 "111ce-111da 111dc 11200-11211 11213-11237 1123e-11241 11280-11286 11288",
  setRow 0x1128a 0x11303 "1128a-1128d 1128f-1129d 1129f-112a8 112b0-112ea 112f0-112f9 11300-11303",
  setRow 0x11305 0x11339 "11305-1130c 1130f-11310 11313-11328 1132a-11330 11332-11333 11335-11339",
  setRow 0x1133b 0x1136c "1133b-11344 11347-11348 1134b-1134d 11350 11357 1135d-11363 11366-1136c",
  setRow 0x11370 0x113c5 "11370-11374 11380-11389 1138b 1138e 11390-113b5 113b7-113c0 113c2 113c5",
  setRow 0x113c7 0x11461 "113c7-113ca 113cc-113d3 113e1-113e2 11400-1144a 11450-11459 1145e-11461",
  setRow 0x11480 0x115dd "11480-114c5 114c7 114d0-114d9 11580-115b5 115b8-115c0 115d8-115dd",
  setRow 0x11600 0x116e3 "11600-11640 11644 11650-11659 11680-116b8 116c0-116c9 116d0-116e3",
  setRow 0x11700 0x118e9 "11700-1171a 1171d-1172b 11730-11739 11740-11746 11800-1183a 118a0-118e9",
  setRow 0x118ff 0x11938 "118ff-11906 11909 1190c-11913 11915-11916 11918-11935 11937-11938",
  setRow 0x1193b 0x119e4 "1193b-11943 11950-11959 119a0-119a7 119aa-119d7 119da-119e1 119e3-119e4",
  setRow 0x11a00 0x11bf9 "11a00-11a3e 11a47 11a50-11a99 11a9d 11ab0-11af8 11bc0-11be0 11bf0-11bf9",
  setRow 0x11c00 0x11ca7 "11c00-11c08 11c0a-11c36 11c38-11c40 11c50-11c59 11c72-11c8f 11c92-11ca7",
  setRow 0x11ca9 0x11d3d "11ca9-11cb6 11d00-11d06 11d08-11d09 11d0b-11d36 11d3a 11d3c-11d3d",
  setRow 0x11d3f 0x11d91 "11d3f-11d47 11d50-11d59 11d60-11d65 11d67-11d68 11d6a-11d8e 11d90-11d91",
  setRow 0x11d93 0x11f42 "11d93-11d98 11da0-11da9 11ee0-11ef6 11f00-11f10 11f12-11f3a 11f3e-11f42",
  setRow 0x11f50 0x12ff0 "11f50-11f5a 11fb0 12000-12399 12400-1246e 12480-12543 12f90-12ff0",
  setRow 0x13000 0x16a38 "13000-1342f 13440-13455 13460-143fa 14400-14646 16100-16139 16800-16a38",
  setRow 0x16a40 0x16af4 "16a40-16a5e 16a60-16a69 16a70-16abe 16ac0-16ac9 16ad0-16aed 16af0-16af4",
  setRow 0x16b00 0x16d6c "16b00-16b36 16b40-16b43 16b50-16b59 16b63-16b77 16b7d-16b8f 16d40-16d6c",
  setRow 0x16d70 0x16fe1 "16d70-16d79 16e40-16e7f 16f00-16f4a 16f4f-16f87 16f8f-16f9f 16fe0-16fe1",
  setRow 0x16fe3 0x1aff3 "16fe3-16fe4 16ff0-16ff1 17000-187f7 18800-18cd5 18cff-18d08 1aff0-1aff3",
  setRow 0x1aff5 0x1b167 "1aff5-1affb 1affd-1affe 1b000-1b122 1b132 1b150-1b152 1b155 1b164-1b167",
  setRow 0x1b170 0x1bc9e "1b170-1b2fb 1bc00-1bc6a 1bc70-1bc7c 1bc80-1bc88 1bc90-1bc99 1bc9d-1bc9e",
  setRow 0x1ccf0 0x1d182 "1ccf0-1ccf9 1cf00-1cf2d 1cf30-1cf46 1d165-1d169 1d16d-1d172 1d17b-1d182",
  setRow 0x1d185 0x1d49f "1d185-1d18b 1d1aa-1d1ad 1d242-1d244 1d400-1d454 1d456-1d49c 1d49e-1d49f",
  setRow 0x1d4a2 0x1d505 "1d4a2 1d4a5-1d4a6 1d4a9-1d4ac 1d4ae-1d4b9 1d4bb 1d4bd-1d4c3 1d4c5-1d505",
  setRow 0x1d507 0x1d544 "1d507-1d50a 1d50d-1d514 1d516-1d51c 1d51e-1d539 1d53b-1d53e 1d540-1d544",
  setRow 0x1d546 0x1d6fa "1d546 1d54a-1d550 1d552-1d6a5 1d6a8-1d6c0 1d6c2-1d6da 1d6dc-1d6fa",
  setRow 0x1d6fc 0x1d7a8 "1d6fc-1d714 1d716-1d734 1d736-1d74e 1d750-1d76e 1d770-1d788 1d78a-1d7a8",
  setRow 0x1d7aa 0x1da84 "1d7aa-1d7c2 1d7c4-1d7cb 1d7ce-1d7ff 1da00-1da36 1da3b-1da6c 1da75 1da84",
  setRow 0x1da9b 0x1e018 "1da9b-1da9f 1daa1-1daaf 1df00-1df1e 1df25-1df2a 1e000-1e006 1e008-1e018",
  setRow 0x1e01b 0x1e12c "1e01b-1e021 1e023-1e024 1e026-1e02a 1e030-1e06d 1e08f 1e100-1e12c",
  setRow 0x1e130 0x1e4f9 "1e130-1e13d 1e140-1e149 1e14e 1e290-1e2ae 1e2c0-1e2f9 1e4d0-1e4f9",
  setRow 0x1e5d0 0x1e8c4 "1e5d0-1e5fa 1e7e0-1e7e6 1e7e8-1e7eb 1e7ed-1e7ee 1e7f0-1e7fe 1e800-1e8c4",
  setRow 0x1e8d0 0x1ee22 "1e8d0-1e8d6 1e900-1e94b 1e950-1e959 1ee00-1ee03 1ee05-1ee1f 1ee21-1ee22",
  setRow 0x1ee24 0x1ee4b "1ee24 1ee27 1ee29-1ee32 1ee34-1ee37 1ee39 1ee3b 1ee42 1ee47 1ee49 1ee4b",
  setRow 0x1ee4d 0x1ee62 "1ee4d-1ee4f 1ee51-1ee52 1ee54 1ee57 1ee59 1ee5b 1ee5d 1ee5f 1ee61-1ee62",
  setRow 0x1ee64 0x1ee89 "1ee64 1ee67-1ee6a 1ee6c-1ee72 1ee74-1ee77 1ee79-1ee7c 1ee7e 1ee80-1ee89",
  setRow 0x1ee8b 0x2a6df "1ee8b-1ee9b 1eea1-1eea3 1eea5-1eea9 1eeab-1eebb 1fbf0-1fbf9 20000-2a6df",
  setRow 0x2a700 0x2fa1d "2a700-2b739 2b740-2b81d 2b820-2cea1 2ceb0-2ebe0 2ebf0-2ee5d 2f800-2fa1d",
  setRow 0x30000 0xe01ef "30000-3134a 31350-323af e0100-e01ef"]

def idStart : CodeSet := [
  setRow 0x41 0x374 "41-5a 61-7a aa b5 ba c0-d6 d8-f6 f8-2c1 2c6-2d1 2e0-2e4 2ec 2ee 370-374",
  setRow 0x376 0x52f "376-377 37a-37d 37f 386 388-38a 38c 38e-3a1 3a3-3f5 3f7-481 48a-52f",
  setRow 0x531 0x6e6 "531-556 559 560-588 5d0-5ea 5ef-5f2 620-64a 66e-66f 671-6d3 6d5 6e5-6e6",
  setRow 0x6ee 0x815 "6ee-6ef 6fa-6fc 6ff 710 712-72f 74d-7a5 7b1 7ca-7ea 7f4-7f5 7fa 800-815",
  setRow 0x81a 0x950 "81a 824 828 840-858 860-86a 870-887 889-88e 8a0-8c9 904-939 93d 950",
  setRow 0x958 0x9ce "958-961 971-980 985-98c 98f-990 993-9a8 9aa-9b0 9b2 9b6-9b9 9bd 9ce",
  setRow 0x9dc 0xa33 "9dc-9dd 9df-9e1 9f0-9f1 9fc a05-a0a a0f-a10 a13-a28 a2a-a30 a32-a33",
  setRow 0xa35 0xab0 "a35-a36 a38-a39 a59-a5c a5e a72-a74 a85-a8d a8f-a91 a93-aa8 aaa-ab0",
  setRow 0xab2 0xb30 "ab2-ab3 ab5-ab9 abd ad0 ae0-ae1 af9 b05-b0c b0f-b10 b13-b28 b2a-b30",
  setRow 0xb32 0xb95 "b32-b33 b35-b39 b3d b5c-b5d b5f-b61 b71 b83 b85-b8a b8e-b90 b92-b95",
  setRow 0xb99 0xc28 "b99-b9a b9c b9e-b9f ba3-ba4 ba8-baa bae-bb9 bd0 c05-c0c c0e-c10 c12-c28",
  setRow 0xc2a 0xcb3 "c2a-c39 c3d c58-c5a c5d c60-c61 c80 c85-c8c c8e-c90 c92-ca8 caa-cb3",
  setRow 0xcb5 0xd4e "cb5-cb9 cbd cdd-cde ce0-ce1 cf1-cf2 d04-d0c d0e-d10 d12-d3a d3d d4e",
  setRow 0xd54 0xe30 "d54-d56 d5f-d61 d7a-d7f d85-d96 d9a-db1 db3-dbb dbd dc0-dc6 e01-e30",
  setRow 0xe32 0xebd "e32-e33 e40-e46 e81-e82 e84 e86-e8a e8c-ea3 ea5 ea7-eb0 eb2-eb3 ebd",
  setRow 0xec0 0x1055 "ec0-ec4 ec6 edc-edf f00 f40-f47 f49-f6c f88-f8c 1000-102a 103f 1050-1055",
  setRow 0x105a 0x10cd "105a-105d 1061 1065-1066 106e-1070 1075-1081 108e 10a0-10c5 10c7 10cd",
  setRow 0x10d0 0x1288 "10d0-10fa 10fc-1248 124a-124d 1250-1256 1258 125a-125d 1260-1288",
  setRow 0x128a 0x12d6 "128a-128d 1290-12b0 12b2-12b5 12b8-12be 12c0 12c2-12c5 12c8-12d6",
  setRow 0x12d8 0x166c "12d8-1310 1312-1315 1318-135a 1380-138f 13a0-13f5 13f8-13fd 1401-166c",
  setRow 0x166f 0x1751 "166f-167f 1681-169a 16a0-16ea 16ee-16f8 1700-1711 171f-1731 1740-1751",
  setRow 0x1760 0x18aa "1760-176c 176e-1770 1780-17b3 17d7 17dc 1820-1878 1880-18a8 18aa",
  setRow 0x18b0 0x1a16 "18b0-18f5 1900-191e 1950-196d 1970-1974 1980-19ab 19b0-19c9 1a00-1a16",
  setRow 0x1a20 0x1be5 "1a20-1a54 1aa7 1b05-1b33 1b45-1b4c 1b83-1ba0 1bae-1baf 1bba-1be5",
  setRow 0x1c00 0x1cec "1c00-1c23 1c4d-1c4f 1c5a-1c7d 1c80-1c8a 1c90-1cba 1cbd-1cbf 1ce9-1cec",
  setRow 0x1cee 0x1f45 "1cee-1cf3 1cf5-1cf6 1cfa 1d00-1dbf 1e00-1f15 1f18-1f1d 1f20-1f45",
  setRow 0x1f48 0x1fbe "1f48-1f4d 1f50-1f57 1f59 1f5b 1f5d 1f5f-1f7d 1f80-1fb4 1fb6-1fbc 1fbe",
  setRow 0x1fc2 0x1ffc "1fc2-1fc4 1fc6-1fcc 1fd0-1fd3 1fd6-1fdb 1fe0-1fec 1ff2-1ff4 1ff6-1ffc",
  setRow 0x2071 0x2128 "2071 207f 2090-209c 2102 2107 210a-2113 2115 2118-211d 2124 2126 2128",
  setRow 0x212a 0x2cee "212a-2139 213c-213f 2145-2149 214e 2160-2188 2c00-2ce4 2ceb-2cee",
  setRow 0x2cf2 0x2da6 "2cf2-2cf3 2d00-2d25 2d27 2d2d 2d30-2d67 2d6f 2d80-2d96 2da0-2da6",
  setRow 0x2da8 0x2dde "2da8-2dae 2db0-2db6 2db8-2dbe 2dc0-2dc6 2dc8-2dce 2dd0-2dd6 2dd8-2dde",
  setRow 0x3005 0x30fa "3005-3007 3021-3029 3031-3035 3038-303c 3041-3096 309b-309f 30a1-30fa",
  setRow 0x30fc 0xa48c "30fc-30ff 3105-312f 3131-318e 31a0-31bf 31f0-31ff 3400-4dbf 4e00-a48c",
  setRow 0xa4d0 0xa6ef "a4d0-a4fd a500-a60c a610-a61f a62a-a62b a640-a66e a67f-a69d a6a0-a6ef",
  setRow 0xa717 0xa801 "a717-a71f a722-a788 a78b-a7cd a7d0-a7d1 a7d3 a7d5-a7dc a7f2-a801",
  setRow 0xa803 0xa8fb "a803-a805 a807-a80a a80c-a822 a840-a873 a882-a8b3 a8f2-a8f7 a8fb",
  setRow 0xa8fd 0xa9e4 "a8fd-a8fe a90a-a925 a930-a946 a960-a97c a984-a9b2 a9cf a9e0-a9e4",
  setRow 0xa9e6 0xaa7a "a9e6-a9ef a9fa-a9fe aa00-aa28 aa40-aa42 aa44-aa4b aa60-aa76 aa7a",
  setRow 0xaa7e 0xaaea "aa7e-aaaf aab1 aab5-aab6 aab9-aabd aac0 aac2 aadb-aadd aae0-aaea",
  setRow 0xaaf2 0xab5a "aaf2-aaf4 ab01-ab06 ab09-ab0e ab11-ab16 ab20-ab26 ab28-ab2e ab30-ab5a",
  setRow 0xab5c 0xfad9 "ab5c-ab69 ab70-abe2 ac00-d7a3 d7b0-d7c6 d7cb-d7fb f900-fa6d fa70-fad9",
  setRow 0xfb00 0xfb41 "fb00-fb06 fb13-fb17 fb1d fb1f-fb28 fb2a-fb36 fb38-fb3c fb3e fb40-fb41",
  setRow 0xfb43 0xfe74 "fb43-fb44 fb46-fbb1 fbd3-fd3d fd50-fd8f fd92-fdc7 fdf0-fdfb fe70-fe74",
  setRow 0xfe76 0xffd7 "fe76-fefc ff21-ff3a ff41-ff5a ff66-ffbe ffc2-ffc7 ffca-ffcf ffd2-ffd7",
  setRow 0xffda 0x1004d "ffda-ffdc 10000-1000b 1000d-10026 10028-1003a 1003c-1003d 1003f-1004d",
  setRow 0x10050 0x1031f "10050-1005d 10080-100fa 10140-10174 10280-1029c 102a0-102d0 10300-1031f",
  setRow 0x1032d 0x103d5 "1032d-1034a 10350-10375 10380-1039d 103a0-103c3 103c8-103cf 103d1-103d5",
  setRow 0x10400 0x1057a "10400-1049d 104b0-104d3 104d8-104fb 10500-10527 10530-10563 10570-1057a",
  setRow 0x1057c 0x105b9 "1057c-1058a 1058c-10592 10594-10595 10597-105a1 105a3-105b1 105b3-105b9",
  setRow 0x105bb 0x10785 "105bb-105bc 105c0-105f3 10600-10736 10740-10755 10760-10767 10780-10785",
  setRow 0x10787 0x1083c "10787-107b0 107b2-107ba 10800-10805 10808 1080a-10835 10837-10838 1083c",
  setRow 0x1083f 0x10915 "1083f-10855 10860-10876 10880-1089e 108e0-108f2 108f4-108f5 10900-10915",
  setRow 0x10920 0x10a17 "10920-10939 10980-109b7 109be-109bf 10a00 10a10-10a13 10a15-10a17",
  setRow 0x10a19 0x10b35 "10a19-10a35 10a60-10a7c 10a80-10a9c 10ac0-10ac7 10ac9-10ae4 10b00-10b35",
  setRow 0x10b40 0x10cf2 "10b40-10b55 10b60-10b72 10b80-10b91 10c00-10c48 10c80-10cb2 10cc0-10cf2",
  setRow 0x10d00 0x10ec4 "10d00-10d23 10d4a-10d65 10d6f-10d85 10e80-10ea9 10eb0-10eb1 10ec2-10ec4",
  setRow 0x10f00 0x10ff6 "10f00-10f1c 10f27 10f30-10f45 10f70-10f81 10fb0-10fc4 10fe0-10ff6",
  setRow 0x11003 0x11144 "11003-11037 11071-11072 11075 11083-110af 110d0-110e8 11103-11126 11144",
  setRow 0x11147 0x11211 "11147 11150-11172 11176 11183-111b2 111c1-111c4 111da 111dc 11200-11211",
  setRow 0x11213 0x1129d "11213-1122b 1123f-11240 11280-11286 11288 1128a-1128d 1128f-1129d",
  setRow 0x1129f 0x11330 "1129f-112a8 112b0-112de 11305-1130c 1130f-11310 11313-11328 1132a-11330",
  setRow 0x11332 0x1138e "11332-11333 11335-11339 1133d 11350 1135d-11361 11380-11389 1138b 1138e",
  setRow 0x11390 0x11461 "11390-113b5 113b7 113d1 113d3 11400-11434 11447-1144a 1145f-11461",
  setRow 0x11480 0x11644 "11480-114af 114c4-114c5 114c7 11580-115ae 115d8-115db 11600-1162f 11644",
  setRow 0x11680 0x118df "11680-116aa 116b8 11700-1171a 11740-11746 11800-1182b 118a0-118df",
  setRow 0x118ff 0x11941 "118ff-11906 11909 1190c-11913 11915-11916 11918-1192f 1193f 11941",
  setRow 0x119a0 0x11a50 "119a0-119a7 119aa-119d0 119e1 119e3 11a00 11a0b-11a32 11a3a 11a50",
  setRow 0x11a5c 0x11c40 "11a5c-11a89 11a9d 11ab0-11af8 11bc0-11be0 11c00-11c08 11c0a-11c2e 11c40",
  setRow 0x11c72 0x11d65 "11c72-11c8f 11d00-11d06 11d08-11d09 11d0b-11d30 11d46 11d60-11d65",
  setRow 0x11d67 0x11f33 "11d67-11d68 11d6a-11d89 11d98 11ee0-11ef2 11f02 11f04-11f10 11f12-11f33",
  setRow 0x11fb0 0x1342f "11fb0 12000-12399 12400-1246e 12480-12543 12f90-12ff0 13000-1342f",
  setRow 0x13441 0x16a5e "13441-13446 13460-143fa 14400-14646 16100-1611d 16800-16a38 16a40-16a5e",
  setRow 0x16a70 0x16b8f "16a70-16abe 16ad0-16aed 16b00-16b2f 16b40-16b43 16b63-16b77 16b7d-16b8f",
  setRow 0x16d40 0x16fe3 "16d40-16d6c 16e40-16e7f 16f00-16f4a 16f50 16f93-16f9f 16fe0-16fe1 16fe3",
  setRow 0x17000 0x1affe "17000-187f7 18800-18cd5 18cff-18d08 1aff0-1aff3 1aff5-1affb 1affd-1affe",
  setRow 0x1b000 0x1bc6a "1b000-1b122 1b132 1b150-1b152 1b155 1b164-1b167 1b170-1b2fb 1bc00-1bc6a",
  setRow 0x1bc70 0x1d49f "1bc70-1bc7c 1bc80-1bc88 1bc90-1bc99 1d400-1d454 1d456-1d49c 1d49e-1d49f",
  setRow 0x1d4a2 0x1d505 "1d4a2 1d4a5-1d4a6 1d4a9-1d4ac 1d4ae-1d4b9 1d4bb 1d4bd-1d4c3 1d4c5-1d505",
  setRow 0x1d507 0x1d544 "1d507-1d50a 1d50d-1d514 1d516-1d51c 1d51e-1d539 1d53b-1d53e 1d540-1d544",
  setRow 0x1d546 0x1d6fa "1d546 1d54a-1d550 1d552-1d6a5 1d6a8-1d6c0 1d6c2-1d6da 1d6dc-1d6fa",
  setRow 0x1d6fc 0x1d7a8 "1d6fc-1d714 1d716-1d734 1d736-1d74e 1d750-1d76e 1d770-1d788 1d78a-1d7a8",
  setRow 0x1d7aa 0x1e12c "1d7aa-1d7c2 1d7c4-1d7cb 1df00-1df1e 1df25-1df2a 1e030-1e06d 1e100-1e12c",
  setRow 0x1e137 0x1e5f0 "1e137-1e13d 1e14e 1e290-1e2ad 1e2c0-1e2eb 1e4d0-1e4eb 1e5d0-1e5ed 1e5f0",
  setRow 0x1e7e0 0x1e943 "1e7e0-1e7e6 1e7e8-1e7eb 1e7ed-1e7ee 1e7f0-1e7fe 1e800-1e8c4 1e900-1e943",
  setRow 0x1e94b 0x1ee32 "1e94b 1ee00-1ee03 1ee05-1ee1f 1ee21-1ee22 1ee24 1ee27 1ee29-1ee32",
  setRow 0x1ee34 0x1ee52 "1ee34-1ee37 1ee39 1ee3b 1ee42 1ee47 1ee49 1ee4b 1ee4d-1ee4f 1ee51-1ee52",
  setRow 0x1ee54 0x1ee6a "1ee54 1ee57 1ee59 1ee5b 1ee5d 1ee5f 1ee61-1ee62 1ee64 1ee67-1ee6a",
  setRow 0x1ee6c 0x1ee9b "1ee6c-1ee72 1ee74-1ee77 1ee79-1ee7c 1ee7e 1ee80-1ee89 1ee8b-1ee9b",
  setRow 0x1eea1 0x2b81d "1eea1-1eea3 1eea5-1eea9 1eeab-1eebb 20000-2a6df 2a700-2b739 2b740-2b81d",
  setRow 0x2b820 0x323af "2b820-2cea1 2ceb0-2ebe0 2ebf0-2ee5d 2f800-2fa1d 30000-3134a 31350-323af"]

def ideographic : CodeSet := [
  setRow 0x3006 0xfad9 "3006-3007 3021-3029 3038-303a 3400-4dbf 4e00-9fff f900-fa6d fa70-fad9",
  setRow 0x16fe4 0x2a6df "16fe4 17000-187f7 18800-18cd5 18cff-18d08 1b170-1b2fb 20000-2a6df",
  setRow 0x2a700 0x2fa1d "2a700-2b739 2b740-2b81d 2b820-2cea1 2ceb0-2ebe0 2ebf0-2ee5d 2f800-2fa1d",
  setRow 0x30000 0x323af "30000-3134a 31350-323af"]

def joinControl : CodeSet := [
  setRow 0x200c 0x200d "200c-200d"]

def logicalOrderException : CodeSet := [
  setRow 0xe40 0xaabc "e40-e44 ec0-ec4 19b5-19b7 19ba aab5-aab6 aab9 aabb-aabc"]

def math : CodeSet := [
  setRow 0x2b 0x2016 "2b 3c-3e 5e 7c 7e ac b1 d7 f7 3d0-3d2 3d5 3f0-3f1 3f4-3f6 606-608 2016",
  setRow 0x2032 0x20e1 "2032-2034 2040 2044 2052 2061-2064 207a-207e 208a-208e 20d0-20dc 20e1",
  setRow 0x20e5 0x2129 "20e5-20e6 20eb-20ef 2102 2107 210a-2113 2115 2118-211d 2124 2128-2129",
  setRow 0x212c 0x21ae "212c-212d 212f-2131 2133-2138 213c-2149 214b 2190-21a7 21a9-21ae",
  setRow 0x21b0 0x230b "21b0-21b1 21b6-21b7 21bc-21db 21dd 21e4-21e5 21f4-22ff 2308-230b",
  setRow 0x2320 0x25b7 "2320-2321 237c 239b-23b5 23b7 23d0 23dc-23e2 25a0-25a1 25ae-25b7",
  setRow 0x25bc 0x25ff "25bc-25c1 25c6-25c7 25ca-25cb 25cf-25d3 25e2 25e4 25e7-25ec 25f8-25ff",
  setRow 0x2605 0x2b44 "2605-2606 2640 2642 2660-2663 266d-266f 27c0-27ff 2900-2aff 2b30-2b44",
  setRow 0x2b47 0xffe2 "2b47-2b4c fb29 fe61-fe66 fe68 ff0b ff1c-ff1e ff3c ff3e ff5c ff5e ffe2",
  setRow 0xffe9 0x1d4a2 "ffe9-ffec 10d8e-10d8f 1d400-1d454 1d456-1d49c 1d49e-1d49f 1d4a2",
  setRow 0x1d4a5 0x1d505 "1d4a5-1d4a6 1d4a9-1d4ac 1d4ae-1d4b9 1d4bb 1d4bd-1d4c3 1d4c5-1d505",
  setRow 0x1d507 0x1d544 "1d507-1d50a 1d50d-1d514 1d516-1d51c 1d51e-1d539 1d53b-1d53e 1d540-1d544",
  setRow 0x1d546 0x1ee03 "1d546 1d54a-1d550 1d552-1d6a5 1d6a8-1d7cb 1d7ce-1d7ff 1ee00-1ee03",
  setRow 0x1ee05 0x1ee3b "1ee05-1ee1f 1ee21-1ee22 1ee24 1ee27 1ee29-1ee32 1ee34-1ee37 1ee39 1ee3b",
  setRow 0x1ee42 0x1ee5b "1ee42 1ee47 1ee49 1ee4b 1ee4d-1ee4f 1ee51-1ee52 1ee54 1ee57 1ee59 1ee5b",
  setRow 0x1ee5d 0x1ee77 "1ee5d 1ee5f 1ee61-1ee62 1ee64 1ee67-1ee6a 1ee6c-1ee72 1ee74-1ee77",
  setRow 0x1ee79 0x1eea9 "1ee79-1ee7c 1ee7e 1ee80-1ee89 1ee8b-1ee9b 1eea1-1eea3 1eea5-1eea9",
  setRow 0x1eeab 0x1eef1 "1eeab-1eebb 1eef0-1eef1"]

def modifierCombiningMark : CodeSet := [
  setRow 0x654 0x8f3 "654-655 658 6dc 6e3 6e7-6e8 8ca-8cb 8cd-8cf 8d3 8f3"]

def noncharacterCodePoint : CodeSet := [
  setRow 0xfdd0 0x4ffff "fdd0-fdef fffe-ffff 1fffe-1ffff 2fffe-2ffff 3fffe-3ffff 4fffe-4ffff",
  setRow 0x5fffe 0xaffff "5fffe-5ffff 6fffe-6ffff 7fffe-7ffff 8fffe-8ffff 9fffe-9ffff afffe-affff",
  setRow 0xbfffe 0xfffff "bfffe-bffff cfffe-cffff dfffe-dffff efffe-effff ffffe-fffff",
  setRow 0x10fffe 0x10ffff "10fffe-10ffff"]

def otherDefaultIgnorableCodePoint : CodeSet := [
  setRow 0x34f 0xe001f "34f 115f-1160 17b4-17b5 2065 3164 ffa0 fff0-fff8 e0000 e0002-e001f",
  setRow 0xe0080 0xe0fff "e0080-e00ff e01f0-e0fff"]

def otherIdContinue : CodeSet := [
  setRow 0xb7 0xff65 "b7 387 1369-1371 19da 200c-200d 30fb ff65"]

def otherIdStart : CodeSet := [
  setRow 0x1885 0x309c "1885-1886 2118 212e 309b-309c"]

def otherMath : CodeSet := [
  setRow 0x5e 0x207e "5e 3d0-3d2 3d5 3f0-3f1 3f4-3f5 2016 2032-2034 2040 2061-2064 207d-207e",
  setRow 0x208d 0x2115 "208d-208e 20d0-20dc 20e1 20e5-20e6 20eb-20ef 2102 2107 210a-2113 2115",
  setRow 0x2119 0x213f "2119-211d 2124 2128-2129 212c-212d 212f-2131 2133-2138 213c-213f",
  setRow 0x2145 0x21ad "2145-2149 2195-2199 219c-219f 21a1-21a2 21a4-21a5 21a7 21a9-21ad",
  setRow 0x21b0 0x21e5 "21b0-21b1 21b6-21b7 21bc-21cd 21d0-21d1 21d3 21d5-21db 21dd 21e4-21e5",
  setRow 0x2308 0x25c0 "2308-230b 23b4-23b5 23b7 23d0 23e2 25a0-25a1 25ae-25b6 25bc-25c0",
  setRow 0x25c6 0x2642 "25c6-25c7 25ca-25cb 25cf-25d3 25e2 25e4 25e7-25ec 2605-2606 2640 2642",
  setRow 0x2660 0x29fd "2660-2663 266d-266e 27c5-27c6 27e6-27ef 2983-2998 29d8-29db 29fc-29fd",
  setRow 0xfe61 0x1d4a2 "fe61 fe63 fe68 ff3c ff3e 1d400-1d454 1d456-1d49c 1d49e-1d49f 1d4a2",
  setRow 0x1d4a5 0x1d505 "1d4a5-1d4a6 1d4a9-1d4ac 1d4ae-1d4b9 1d4bb 1d4bd-1d4c3 1d4c5-1d505",
  setRow 0x1d507 0x1d544 "1d507-1d50a 1d50d-1d514 1d516-1d51c 1d51e-1d539 1d53b-1d53e 1d540-1d544",
  setRow 0x1d546 0x1d6fa "1d546 1d54a-1d550 1d552-1d6a5 1d6a8-1d6c0 1d6c2-1d6da 1d6dc-1d6fa",
  setRow 0x1d6fc 0x1d7a8 "1d6fc-1d714 1d716-1d734 1d736-1d74e 1d750-1d76e 1d770-1d788 1d78a-1d7a8",
  setRow 0x1d7aa 0x1ee22 "1d7aa-1d7c2 1d7c4-1d7cb 1d7ce-1d7ff 1ee00-1ee03 1ee05-1ee1f 1ee21-1ee22",
  setRow 0x1ee24 0x1ee4b "1ee24 1ee27 1ee29-1ee32 1ee34-1ee37 1ee39 1ee3b 1ee42 1ee47 1ee49 1ee4b",
  setRow 0x1ee4d 0x1ee62 "1ee4d-1ee4f 1ee51-1ee52 1ee54 1ee57 1ee59 1ee5b 1ee5d 1ee5f 1ee61-1ee62",
  setRow 0x1ee64 0x1ee89 "1ee64 1ee67-1ee6a 1ee6c-1ee72 1ee74-1ee77 1ee79-1ee7c 1ee7e 1ee80-1ee89",
  setRow 0x1ee8b 0x1eebb "1ee8b-1ee9b 1eea1-1eea3 1eea5-1eea9 1eeab-1eebb"]

def patternSyntax : CodeSet := [
  setRow 0x21 0xf7 "21-2f 3a-40 5b-5e 60 7b-7e a1-a7 a9 ab-ac ae b0-b1 b6 bb bf d7 f7",
  setRow 0x2010 0x2bff "2010-2027 2030-203e 2041-2053 2055-205e 2190-245f 2500-2775 2794-2bff",
  setRow 0x2e00 0xfe46 "2e00-2e7f 3001-3003 3008-3020 3030 fd3e-fd3f fe45-fe46"]

def patternWhiteSpace : CodeSet := [
  setRow 0x9 0x2029 "9-d 20 85 200e-200f 2028-2029"]

def prependedConcatenationMark : CodeSet := [
  setRow 0x600 0x110cd "600-605 6dd 70f 890-891 8e2 110bd 110cd"]

def quotationMark : CodeSet := [
  setRow 0x22 0xff02 "22 27 ab bb 2018-201f 2039-203a 2e42 300c-300f 301d-301f fe41-fe44 ff02",
  setRow 0xff07 0xff63 "ff07 ff62-ff63"]

def radical : CodeSet := [
  setRow 0x2e80 0x2fd5 "2e80-2e99 2e9b-2ef3 2f00-2fd5"]

def regionalIndicator : CodeSet := [
  setRow 0x1f1e6 0x1f1ff "1f1e6-1f1ff"]

def sentenceTerminal : CodeSet := [
  setRow 0x21 0x104b "21 2e 3f 589 61d-61f 6d4 700-702 7f9 837 839 83d-83e 964-965 104a-104b",
  setRow 0x1362 0x1aab "1362 1367-1368 166e 1735-1736 17d4-17d5 1803 1809 1944-1945 1aa8-1aab",
  setRow 0x1b4e 0x2024 "1b4e-1b4f 1b5a-1b5b 1b5e-1b5f 1b7d-1b7f 1c3b-1c3c 1c7e-1c7f 2024",
  setRow 0x203c 0xa60f "203c-203d 2047-2049 2cf9-2cfb 2e2e 2e3c 2e53-2e54 3002 a4ff a60e-a60f",
  setRow 0xa6f3 0xabeb "a6f3 a6f7 a876-a877 a8ce-a8cf a92f a9c8-a9c9 aa5d-aa5f aaf0-aaf1 abeb",
  setRow 0xfe12 0x10a57 "fe12 fe15-fe16 fe52 fe56-fe57 ff01 ff0e ff1f ff61 10a56-10a57",
  setRow 0x10f55 0x111c6 "10f55-10f59 10f86-10f89 11047-11048 110be-110c1 11141-11143 111c5-111c6",
  setRow 0x111cd 0x1144c "111cd 111de-111df 11238-11239 1123b-1123c 112a9 113d4-113d5 1144b-1144c",
  setRow 0x115c2 0x11a43 "115c2-115c3 115c9-115d7 11641-11642 1173c-1173e 11944 11946 11a42-11a43",
  setRow 0x11a9b 0x16af5 "11a9b-11a9c 11c41-11c42 11ef7-11ef8 11f43-11f44 16a6e-16a6f 16af5",
  setRow 0x16b37 0x1da88 "16b37-16b38 16b44 16d6e-16d6f 16e98 1bc9f 1da88"]

def softDotted : CodeSet := [
  setRow 0x69 0x2071 "69-6a 12f 249 268 29d 2b2 3f3 456 458 1d62 1d96 1da4 1da8 1e2d 1ecb 2071",
  setRow 0x2148 0x1d4bf "2148-2149 2c7c 1d422-1d423 1d456-1d457 1d48a-1d48b 1d4be-1d4bf",
  setRow 0x1d4f2 0x1d5f7 "1d4f2-1d4f3 1d526-1d527 1d55a-1d55b 1d58e-1d58f 1d5c2-1d5c3 1d5f6-1d5f7",
  setRow 0x1d62a 0x1e068 "1d62a-1d62b 1d65e-1d65f 1d692-1d693 1df1a 1e04c-1e04d 1e068"]

def terminalPunctuation : CodeSet := [
  setRow 0x21 0x70c "21 2c 2e 3a-3b 3f 37e 387 589 5c3 60c 61b 61d-61f 6d4 700-70a 70c",
  setRow 0x7f8 0x104b "7f8-7f9 830-835 837-83e 85e 964-965 e5a-e5b f08 f0d-f12 104a-104b",
  setRow 0x1361 0x1809 "1361-1368 166e 16eb-16ed 1735-1736 17d4-17d6 17da 1802-1805 1808-1809",
  setRow 0x1944 0x1c3f "1944-1945 1aa8-1aab 1b4e-1b4f 1b5a-1b5b 1b5d-1b5f 1b7d-1b7f 1c3b-1c3f",
  setRow 0x1c7e 0x2e4c "1c7e-1c7f 2024 203c-203d 2047-2049 2cf9-2cfb 2e2e 2e3c 2e41 2e4c",
  setRow 0x2e4e 0xa877 "2e4e-2e4f 2e53-2e54 3001-3002 a4fe-a4ff a60d-a60f a6f3-a6f7 a876-a877",
  setRow 0xa8ce 0xfe16 "a8ce-a8cf a92f a9c7-a9c9 aa5d-aa5f aadf aaf0-aaf1 abeb fe12 fe15-fe16",
  setRow 0xfe50 0x103d0 "fe50-fe52 fe54-fe57 ff01 ff0c ff0e ff1a-ff1b ff1f ff61 ff64 1039f 103d0",
  setRow 0x10857 0x10f59 "10857 1091f 10a56-10a57 10af0-10af5 10b3a-10b3f 10b99-10b9c 10f55-10f59",
  setRow 0x10f86 0x111cd "10f86-10f89 11047-1104d 110be-110c1 11141-11143 111c5-111c6 111cd",
  setRow 0x111de 0x1145b "111de-111df 11238-1123c 112a9 113d4-113d5 1144b-1144d 1145a-1145b",
  setRow 0x115c2 0x11a43 "115c2-115c5 115c9-115d7 11641-11642 1173c-1173e 11944 11946 11a42-11a43",
  setRow 0x11a9b 0x11f44 "11a9b-11a9c 11aa1-11aa2 11c41-11c43 11c71 11ef7-11ef8 11f43-11f44",
  setRow 0x12470 0x16e98 "12470-12474 16a6e-16a6f 16af5 16b37-16b39 16b44 16d6e-16d6f 16e97-16e98",
  setRow 0x1bc9f 0x1da8a "1bc9f 1da87-1da8a"]

def unifiedIdeograph : CodeSet := [
  setRow 0x3400 0xfa24 "3400-4dbf 4e00-9fff fa0e-fa0f fa11 fa13-fa14 fa1f fa21 fa23-fa24",
  setRow 0xfa27 0x2ebe0 "fa27-fa29 20000-2a6df 2a700-2b739 2b740-2b81d 2b820-2cea1 2ceb0-2ebe0",
  setRow 0x2ebf0 0x323af "2ebf0-2ee5d 30000-3134a 31350-323af"]

def variationSelector : CodeSet := [
  setRow 0x180b 0xe01ef "180b-180d 180f fe00-fe0f e0100-e01ef"]

def xidContinue : CodeSet := [
  setRow 0x30 0x2ec "30-39 41-5a 5f 61-7a aa b5 b7 ba c0-d6 d8-f6 f8-2c1 2c6-2d1 2e0-2e4 2ec",
  setRow 0x2ee 0x481 "2ee 300-374 376-377 37b-37d 37f 386-38a 38c 38e-3a1 3a3-3f5 3f7-481",
  setRow 0x483 0x5c7 "483-487 48a-52f 531-556 559 560-588 591-5bd 5bf 5c1-5c2 5c4-5c5 5c7",
  setRow 0x5d0 0x6ff "5d0-5ea 5ef-5f2 610-61a 620-669 66e-6d3 6d5-6dc 6df-6e8 6ea-6fc 6ff",
  setRow 0x710 0x88e "710-74a 74d-7b1 7c0-7f5 7fa 7fd 800-82d 840-85b 860-86a 870-887 889-88e",
  setRow 0x897 0x9b2 "897-8e1 8e3-963 966-96f 971-983 985-98c 98f-990 993-9a8 9aa-9b0 9b2",
  setRow 0x9b6 0x9fe "9b6-9b9 9bc-9c4 9c7-9c8 9cb-9ce 9d7 9dc-9dd 9df-9e3 9e6-9f1 9fc 9fe",
  setRow 0xa01 0xa3c "a01-a03 a05-a0a a0f-a10 a13-a28 a2a-a30 a32-a33 a35-a36 a38-a39 a3c",
  setRow 0xa3e 0xa91 "a3e-a42 a47-a48 a4b-a4d a51 a59-a5c a5e a66-a75 a81-a83 a85-a8d a8f-a91",
  setRow 0xa93 0xae3 "a93-aa8 aaa-ab0 ab2-ab3 ab5-ab9 abc-ac5 ac7-ac9 acb-acd ad0 ae0-ae3",
  setRow 0xae6 0xb39 "ae6-aef af9-aff b01-b03 b05-b0c b0f-b10 b13-b28 b2a-b30 b32-b33 b35-b39",
  setRow 0xb3c 0xb83 "b3c-b44 b47-b48 b4b-b4d b55-b57 b5c-b5d b5f-b63 b66-b6f b71 b82-b83",
  setRow 0xb85 0xbb9 "b85-b8a b8e-b90 b92-b95 b99-b9a b9c b9e-b9f ba3-ba4 ba8-baa bae-bb9",
  setRow 0xbbe 0xc39 "bbe-bc2 bc6-bc8 bca-bcd bd0 bd7 be6-bef c00-c0c c0e-c10 c12-c28 c2a-c39",
  setRow 0xc3c 0xc83 "c3c-c44 c46-c48 c4a-c4d c55-c56 c58-c5a c5d c60-c63 c66-c6f c80-c83",
  setRow 0xc85 0xcd6 "c85-c8c c8e-c90 c92-ca8 caa-cb3 cb5-cb9 cbc-cc4 cc6-cc8 cca-ccd cd5-cd6",
  setRow 0xcdd 0xd4e "cdd-cde ce0-ce3 ce6-cef cf1-cf3 d00-d0c d0e-d10 d12-d44 d46-d48 d4a-d4e",
  setRow 0xd54 0xdbd "d54-d57 d5f-d63 d66-d6f d7a-d7f d81-d83 d85-d96 d9a-db1 db3-dbb dbd",
  setRow 0xdc0 0xe59 "dc0-dc6 dca dcf-dd4 dd6 dd8-ddf de6-def df2-df3 e01-e3a e40-e4e e50-e59",
  setRow 0xe81 0xed9 "e81-e82 e84 e86-e8a e8c-ea3 ea5 ea7-ebd ec0-ec4 ec6 ec8-ece ed0-ed9",
  setRow 0xedc 0xf97 "edc-edf f00 f18-f19 f20-f29 f35 f37 f39 f3e-f47 f49-f6c f71-f84 f86-f97",
  setRow 0xf99 0x1248 "f99-fbc fc6 1000-1049 1050-109d 10a0-10c5 10c7 10cd 10d0-10fa 10fc-1248",
  setRow 0x124a 0x12b0 "124a-124d 1250-1256 1258 125a-125d 1260-1288 128a-128d 1290-12b0",
  setRow 0x12b2 0x1315 "12b2-12b5 12b8-12be 12c0 12c2-12c5 12c8-12d6 12d8-1310 1312-1315",
  setRow 0x1318 0x166c "1318-135a 135d-135f 1369-1371 1380-138f 13a0-13f5 13f8-13fd 1401-166c",
  setRow 0x166f 0x1753 "166f-167f 1681-169a 16a0-16ea 16ee-16f8 1700-1715 171f-1734 1740-1753",
  setRow 0x1760 0x17e9 "1760-176c 176e-1770 1772-1773 1780-17d3 17d7 17dc-17dd 17e0-17e9",
  setRow 0x180b 0x192b "180b-180d 180f-1819 1820-1878 1880-18aa 18b0-18f5 1900-191e 1920-192b",
  setRow 0x1930 0x1a1b "1930-193b 1946-196d 1970-1974 1980-19ab 19b0-19c9 19d0-19da 1a00-1a1b",
  setRow 0x1a20 0x1ace "1a20-1a5e 1a60-1a7c 1a7f-1a89 1a90-1a99 1aa7 1ab0-1abd 1abf-1ace",
  setRow 0x1b00 0x1c7d "1b00-1b4c 1b50-1b59 1b6b-1b73 1b80-1bf3 1c00-1c37 1c40-1c49 1c4d-1c7d",
  setRow 0x1c80 0x1f1d "1c80-1c8a 1c90-1cba 1cbd-1cbf 1cd0-1cd2 1cd4-1cfa 1d00-1f15 1f18-1f1d",
  setRow 0x1f20 0x1fb4 "1f20-1f45 1f48-1f4d 1f50-1f57 1f59 1f5b 1f5d 1f5f-1f7d 1f80-1fb4",
  setRow 0x1fb6 0x1fec "1fb6-1fbc 1fbe 1fc2-1fc4 1fc6-1fcc 1fd0-1fd3 1fd6-1fdb 1fe0-1fec",
  setRow 0x1ff2 0x209c "1ff2-1ff4 1ff6-1ffc 200c-200d 203f-2040 2054 2071 207f 2090-209c",
  setRow 0x20d0 0x2126 "20d0-20dc 20e1 20e5-20f0 2102 2107 210a-2113 2115 2118-211d 2124 2126",
  setRow 0x2128 0x2cf3 "2128 212a-2139 213c-213f 2145-2149 214e 2160-2188 2c00-2ce4 2ceb-2cf3",
  setRow 0x2d00 0x2dae "2d00-2d25 2d27 2d2d 2d30-2d67 2d6f 2d7f-2d96 2da0-2da6 2da8-2dae",
  setRow 0x2db0 0x2dff "2db0-2db6 2db8-2dbe 2dc0-2dc6 2dc8-2dce 2dd0-2dd6 2dd8-2dde 2de0-2dff",
  setRow 0x3005 0x309f "3005-3007 3021-302f 3031-3035 3038-303c 3041-3096 3099-309a 309d-309f",
  setRow 0x30a1 0xa48c "30a1-30ff 3105-312f 3131-318e 31a0-31bf 31f0-31ff 3400-4dbf 4e00-a48c",
  setRow 0xa4d0 0xa71f "a4d0-a4fd a500-a60c a610-a62b a640-a66f a674-a67d a67f-a6f1 a717-a71f",
  setRow 0xa722 0xa873 "a722-a788 a78b-a7cd a7d0-a7d1 a7d3 a7d5-a7dc a7f2-a827 a82c a840-a873",
  setRow 0xa880 0xa97c "a880-a8c5 a8d0-a8d9 a8e0-a8f7 a8fb a8fd-a92d a930-a953 a960-a97c",
  setRow 0xa980 0xaa76 "a980-a9c0 a9cf-a9d9 a9e0-a9fe aa00-aa36 aa40-aa4d aa50-aa59 aa60-aa76",
  setRow 0xaa7a 0xab16 "aa7a-aac2 aadb-aadd aae0-aaef aaf2-aaf6 ab01-ab06 ab09-ab0e ab11-ab16",
  setRow 0xab20 0xabf9 "ab20-ab26 ab28-ab2e ab30-ab5a ab5c-ab69 ab70-abea abec-abed abf0-abf9",
  setRow 0xac00 0xfb17 "ac00-d7a3 d7b0-d7c6 d7cb-d7fb f900-fa6d fa70-fad9 fb00-fb06 fb13-fb17",
  setRow 0xfb1d 0xfbb1 "fb1d-fb28 fb2a-fb36 fb38-fb3c fb3e fb40-fb41 fb43-fb44 fb46-fbb1",
  setRow 0xfbd3 0xfe2f "fbd3-fc5d fc64-fd3d fd50-fd8f fd92-fdc7 fdf0-fdf9 fe00-fe0f fe20-fe2f",
  setRow 0xfe33 0xff19 "fe33-fe34 fe4d-fe4f fe71 fe73 fe77 fe79 fe7b fe7d fe7f-fefc ff10-ff19",
  setRow 0xff21 0xffd7 "ff21-ff3a ff3f ff41-ff5a ff65-ffbe ffc2-ffc7 ffca-ffcf ffd2-ffd7",
  setRow 0xffda 0x1004d "ffda-ffdc 10000-1000b 1000d-10026 10028-1003a 1003c-1003d 1003f-1004d",
  setRow 0x10050 0x102e0 "10050-1005d 10080-100fa 10140-10174 101fd 10280-1029c 102a0-102d0 102e0",
  setRow 0x10300 0x103cf "10300-1031f 1032d-1034a 10350-1037a 10380-1039d 103a0-103c3 103c8-103cf",
  setRow 0x103d1 0x10527 "103d1-103d5 10400-1049d 104a0-104a9 104b0-104d3 104d8-104fb 10500-10527",
  setRow 0x10530 0x105a1 "10530-10563 10570-1057a 1057c-1058a 1058c-10592 10594-10595 10597-105a1",
  setRow 0x105a3 0x10755 "105a3-105b1 105b3-105b9 105bb-105bc 105c0-105f3 10600-10736 10740-10755",
  setRow 0x10760 0x10808 "10760-10767 10780-10785 10787-107b0 107b2-107ba 10800-10805 10808",
  setRow 0x1080a 0x1089e "1080a-10835 10837-10838 1083c 1083f-10855 10860-10876 10880-1089e",
  setRow 0x108e0 0x109bf "108e0-108f2 108f4-108f5 10900-10915 10920-10939 10980-109b7 109be-109bf",
  setRow 0x10a00 0x10a3a "10a00-10a03 10a05-10a06 10a0c-10a13 10a15-10a17 10a19-10a35 10a38-10a3a",
  setRow 0x10a3f 0x10b35 "10a3f 10a60-10a7c 10a80-10a9c 10ac0-10ac7 10ac9-10ae6 10b00-10b35",
  setRow 0x10b40 0x10cf2 "10b40-10b55 10b60-10b72 10b80-10b91 10c00-10c48 10c80-10cb2 10cc0-10cf2",
  setRow 0x10d00 0x10ea9 "10d00-10d27 10d30-10d39 10d40-10d65 10d69-10d6d 10d6f-10d85 10e80-10ea9",
  setRow 0x10eab 0x10f50 "10eab-10eac 10eb0-10eb1 10ec2-10ec4 10efc-10f1c 10f27 10f30-10f50",
  setRow 0x10f70 0x110ba "10f70-10f85 10fb0-10fc4 10fe0-10ff6 11000-11046 11066-11075 1107f-110ba",
  setRow 0x110c2 0x11147 "110c2 110d0-110e8 110f0-110f9 11100-11134 11136-1113f 11144-11147",
  setRow 0x11150 0x11211 "11150-11173 11176 11180-111c4 111c9-111cc 111ce-111da 111dc 11200-11211",
  setRow 0x11213 0x1129d "11213-11237 1123e-11241 11280-11286 11288 1128a-1128d 1128f-1129d",
  setRow 0x1129f 0x11310 "1129f-112a8 112b0-112ea 112f0-112f9 11300-11303 11305-1130c 1130f-11310",
  setRow 0x11313 0x11348 "11313-11328 1132a-11330 11332-11333 11335-11339 1133b-11344 11347-11348",
  setRow 0x1134b 0x11389 "1134b-1134d 11350 11357 1135d-11363 11366-1136c 11370-11374 11380-11389",
  setRow 0x1138b 0x113d3 "1138b 1138e 11390-113b5 113b7-113c0 113c2 113c5 113c7-113ca 113cc-113d3",
  setRow 0x113e1 0x114c7 "113e1-113e2 11400-1144a 11450-11459 1145e-11461 11480-114c5 114c7",
  setRow 0x114d0 0x11644 "114d0-114d9 11580-115b5 115b8-115c0 115d8-115dd 11600-11640 11644",
  setRow 0x11650 0x1172b "11650-11659 11680-116b8 116c0-116c9 116d0-116e3 11700-1171a 1171d-1172b",
  setRow 0x11730 0x11909 "11730-11739 11740-11746 11800-1183a 118a0-118e9 118ff-11906 11909",
  setRow 0x1190c 0x11959 "1190c-11913 11915-11916 11918-11935 11937-11938 1193b-11943 11950-11959",
  setRow 0x119a0 0x11a47 "119a0-119a7 119aa-119d7 119da-119e1 119e3-119e4 11a00-11a3e 11a47",
  setRow 0x11a50 0x11c08 "11a50-11a99 11a9d 11ab0-11af8 11bc0-11be0 11bf0-11bf9 11c00-11c08",
  setRow 0x11c0a 0x11cb6 "11c0a-11c36 11c38-11c40 11c50-11c59 11c72-11c8f 11c92-11ca7 11ca9-11cb6",
  setRow 0x11d00 0x11d47 "11d00-11d06 11d08-11d09 11d0b-11d36 11d3a 11d3c-11d3d 11d3f-11d47",
  setRow 0x11d50 0x11d98 "11d50-11d59 11d60-11d65 11d67-11d68 11d6a-11d8e 11d90-11d91 11d93-11d98",
  setRow 0x11da0 0x11f5a "11da0-11da9 11ee0-11ef6 11f00-11f10 11f12-11f3a 11f3e-11f42 11f50-11f5a",
  setRow 0x11fb0 0x1342f "11fb0 12000-12399 12400-1246e 12480-12543 12f90-12ff0 13000-1342f",
  setRow 0x13440 0x16a5e "13440-13455 13460-143fa 14400-14646 16100-16139 16800-16a38 16a40-16a5e",
  setRow 0x16a60 0x16b36 "16a60-16a69 16a70-16abe 16ac0-16ac9 16ad0-16aed 16af0-16af4 16b00-16b36",
  setRow 0x16b40 0x16d79 "16b40-16b43 16b50-16b59 16b63-16b77 16b7d-16b8f 16d40-16d6c 16d70-16d79",
  setRow 0x16e40 0x16fe4 "16e40-16e7f 16f00-16f4a 16f4f-16f87 16f8f-16f9f 16fe0-16fe1 16fe3-16fe4",
  setRow 0x16ff0 0x1affb "16ff0-16ff1 17000-187f7 18800-18cd5 18cff-18d08 1aff0-1aff3 1aff5-1affb",
  setRow 0x1affd 0x1b2fb "1affd-1affe 1b000-1b122 1b132 1b150-1b152 1b155 1b164-1b167 1b170-1b2fb",
  setRow 0x1bc00 0x1ccf9 "1bc00-1bc6a 1bc70-1bc7c 1bc80-1bc88 1bc90-1bc99 1bc9d-1bc9e 1ccf0-1ccf9",
  setRow 0x1cf00 0x1d18b "1cf00-1cf2d 1cf30-1cf46 1d165-1d169 1d16d-1d172 1d17b-1d182 1d185-1d18b",
  setRow 0x1d1aa 0x1d4a2 "1d1aa-1d1ad 1d242-1d244 1d400-1d454 1d456-1d49c 1d49e-1d49f 1d4a2",
  setRow 0x1d4a5 0x1d505 "1d4a5-1d4a6 1d4a9-1d4ac 1d4ae-1d4b9 1d4bb 1d4bd-1d4c3 1d4c5-1d505",
  setRow 0x1d507 0x1d544 "1d507-1d50a 1d50d-1d514 1d516-1d51c 1d51e-1d539 1d53b-1d53e 1d540-1d544",
  setRow 0x1d546 0x1d6fa "1d546 1d54a-1d550 1d552-1d6a5 1d6a8-1d6c0 1d6c2-1d6da 1d6dc-1d6fa",
  setRow 0x1d6fc 0x1d7a8 "1d6fc-1d714 1d716-1d734 1d736-1d74e 1d750-1d76e 1d770-1d788 1d78a-1d7a8",
  setRow 0x1d7aa 0x1da84 "1d7aa-1d7c2 1d7c4-1d7cb 1d7ce-1d7ff 1da00-1da36 1da3b-1da6c 1da75 1da84",
  setRow 0x1da9b 0x1e018 "1da9b-1da9f 1daa1-1daaf 1df00-1df1e 1df25-1df2a 1e000-1e006 1e008-1e018",
  setRow 0x1e01b 0x1e12c "1e01b-1e021 1e023-1e024 1e026-1e02a 1e030-1e06d 1e08f 1e100-1e12c",
  setRow 0x1e130 0x1e4f9 "1e130-1e13d 1e140-1e149 1e14e 1e290-1e2ae 1e2c0-1e2f9 1e4d0-1e4f9",
  setRow 0x1e5d0 0x1e8c4 "1e5d0-1e5fa 1e7e0-1e7e6 1e7e8-1e7eb 1e7ed-1e7ee 1e7f0-1e7fe 1e800-1e8c4",
  setRow 0x1e8d0 0x1ee22 "1e8d0-1e8d6 1e900-1e94b 1e950-1e959 1ee00-1ee03 1ee05-1ee1f 1ee21-1ee22",
  setRow 0x1ee24 0x1ee4b "1ee24 1ee27 1ee29-1ee32 1ee34-1ee37 1ee39 1ee3b 1ee42 1ee47 1ee49 1ee4b",
  setRow 0x1ee4d 0x1ee62 "1ee4d-1ee4f 1ee51-1ee52 1ee54 1ee57 1ee59 1ee5b 1ee5d 1ee5f 1ee61-1ee62",
  setRow 0x1ee64 0x1ee89 "1ee64 1ee67-1ee6a 1ee6c-1ee72 1ee74-1ee77 1ee79-1ee7c 1ee7e 1ee80-1ee89",
  setRow 0x1ee8b 0x2a6df "1ee8b-1ee9b 1eea1-1eea3 1eea5-1eea9 1eeab-1eebb 1fbf0-1fbf9 20000-2a6df",
  setRow 0x2a700 0x2fa1d "2a700-2b739 2b740-2b81d 2b820-2cea1 2ceb0-2ebe0 2ebf0-2ee5d 2f800-2fa1d",
  setRow 0x30000 0xe01ef "30000-3134a 31350-323af e0100-e01ef"]

def xidStart : CodeSet := [
  setRow 0x41 0x374 "41-5a 61-7a aa b5 ba c0-d6 d8-f6 f8-2c1 2c6-2d1 2e0-2e4 2ec 2ee 370-374",
  setRow 0x376 0x52f "376-377 37b-37d 37f 386 388-38a 38c 38e-3a1 3a3-3f5 3f7-481 48a-52f",
  setRow 0x531 0x6e6 "531-556 559 560-588 5d0-5ea 5ef-5f2 620-64a 66e-66f 671-6d3 6d5 6e5-6e6",
  setRow 0x6ee 0x815 "6ee-6ef 6fa-6fc 6ff 710 712-72f 74d-7a5 7b1 7ca-7ea 7f4-7f5 7fa 800-815",
  setRow 0x81a 0x950 "81a 824 828 840-858 860-86a 870-887 889-88e 8a0-8c9 904-939 93d 950",
  setRow 0x958 0x9ce "958-961 971-980 985-98c 98f-990 993-9a8 9aa-9b0 9b2 9b6-9b9 9bd 9ce",
  setRow 0x9dc 0xa33 "9dc-9dd 9df-9e1 9f0-9f1 9fc a05-a0a a0f-a10 a13-a28 a2a-a30 a32-a33",
  setRow 0xa35 0xab0 "a35-a36 a38-a39 a59-a5c a5e a72-a74 a85-a8d a8f-a91 a93-aa8 aaa-ab0",
  setRow 0xab2 0xb30 "ab2-ab3 ab5-ab9 abd ad0 ae0-ae1 af9 b05-b0c b0f-b10 b13-b28 b2a-b30",
  setRow 0xb32 0xb95 "b32-b33 b35-b39 b3d b5c-b5d b5f-b61 b71 b83 b85-b8a b8e-b90 b92-b95",
  setRow 0xb99 0xc28 "b99-b9a b9c b9e-b9f ba3-ba4 ba8-baa bae-bb9 bd0 c05-c0c c0e-c10 c12-c28",
  setRow 0xc2a 0xcb3 "c2a-c39 c3d c58-c5a c5d c60-c61 c80 c85-c8c c8e-c90 c92-ca8 caa-cb3",
  setRow 0xcb5 0xd4e "cb5-cb9 cbd cdd-cde ce0-ce1 cf1-cf2 d04-d0c d0e-d10 d12-d3a d3d d4e",
  setRow 0xd54 0xe32 "d54-d56 d5f-d61 d7a-d7f d85-d96 d9a-db1 db3-dbb dbd dc0-dc6 e01-e30 e32",
  setRow 0xe40 0xec6 "e40-e46 e81-e82 e84 e86-e8a e8c-ea3 ea5 ea7-eb0 eb2 ebd ec0-ec4 ec6",
  setRow 0xedc 0x105d "edc-edf f00 f40-f47 f49-f6c f88-f8c 1000-102a 103f 1050-1055 105a-105d",
  setRow 0x1061 0x10fa "1061 1065-1066 106e-1070 1075-1081 108e 10a0-10c5 10c7 10cd 10d0-10fa",
  setRow 0x10fc 0x128d "10fc-1248 124a-124d 1250-1256 1258 125a-125d 1260-1288 128a-128d",
  setRow 0x1290 0x1310 "1290-12b0 12b2-12b5 12b8-12be 12c0 12c2-12c5 12c8-12d6 12d8-1310",
  setRow 0x1312 0x167f "1312-1315 1318-135a 1380-138f 13a0-13f5 13f8-13fd 1401-166c 166f-167f",
  setRow 0x1681 0x176c "1681-169a 16a0-16ea 16ee-16f8 1700-1711 171f-1731 1740-1751 1760-176c",
  setRow 0x176e 0x18f5 "176e-1770 1780-17b3 17d7 17dc 1820-1878 1880-18a8 18aa 18b0-18f5",
  setRow 0x1900 0x1a54 "1900-191e 1950-196d 1970-1974 1980-19ab 19b0-19c9 1a00-1a16 1a20-1a54",
  setRow 0x1aa7 0x1c23 "1aa7 1b05-1b33 1b45-1b4c 1b83-1ba0 1bae-1baf 1bba-1be5 1c00-1c23",
  setRow 0x1c4d 0x1cf3 "1c4d-1c4f 1c5a-1c7d 1c80-1c8a 1c90-1cba 1cbd-1cbf 1ce9-1cec 1cee-1cf3",
  setRow 0x1cf5 0x1f4d "1cf5-1cf6 1cfa 1d00-1dbf 1e00-1f15 1f18-1f1d 1f20-1f45 1f48-1f4d",
  setRow 0x1f50 0x1fc4 "1f50-1f57 1f59 1f5b 1f5d 1f5f-1f7d 1f80-1fb4 1fb6-1fbc 1fbe 1fc2-1fc4",
  setRow 0x1fc6 0x207f "1fc6-1fcc 1fd0-1fd3 1fd6-1fdb 1fe0-1fec 1ff2-1ff4 1ff6-1ffc 2071 207f",
  setRow 0x2090 0x2139 "2090-209c 2102 2107 210a-2113 2115 2118-211d 2124 2126 2128 212a-2139",
  setRow 0x213c 0x2cf3 "213c-213f 2145-2149 214e 2160-2188 2c00-2ce4 2ceb-2cee 2cf2-2cf3",
  setRow 0x2d00 0x2dae "2d00-2d25 2d27 2d2d 2d30-2d67 2d6f 2d80-2d96 2da0-2da6 2da8-2dae",
  setRow 0x2db0 0x3007 "2db0-2db6 2db8-2dbe 2dc0-2dc6 2dc8-2dce 2dd0-2dd6 2dd8-2dde 3005-3007",
  setRow 0x3021 0x30ff "3021-3029 3031-3035 3038-303c 3041-3096 309d-309f 30a1-30fa 30fc-30ff",
  setRow 0x3105 0xa4fd "3105-312f 3131-318e 31a0-31bf 31f0-31ff 3400-4dbf 4e00-a48c a4d0-a4fd",
  setRow 0xa500 0xa71f "a500-a60c a610-a61f a62a-a62b a640-a66e a67f-a69d a6a0-a6ef a717-a71f",
  setRow 0xa722 0xa805 "a722-a788 a78b-a7cd a7d0-a7d1 a7d3 a7d5-a7dc a7f2-a801 a803-a805",
  setRow 0xa807 0xa8fe "a807-a80a a80c-a822 a840-a873 a882-a8b3 a8f2-a8f7 a8fb a8fd-a8fe",
  setRow 0xa90a 0xa9ef "a90a-a925 a930-a946 a960-a97c a984-a9b2 a9cf a9e0-a9e4 a9e6-a9ef",
  setRow 0xa9fa 0xaab1 "a9fa-a9fe aa00-aa28 aa40-aa42 aa44-aa4b aa60-aa76 aa7a aa7e-aaaf aab1",
  setRow 0xaab5 0xab06 "aab5-aab6 aab9-aabd aac0 aac2 aadb-aadd aae0-aaea aaf2-aaf4 ab01-ab06",
  setRow 0xab09 0xabe2 "ab09-ab0e ab11-ab16 ab20-ab26 ab28-ab2e ab30-ab5a ab5c-ab69 ab70-abe2",
  setRow 0xac00 0xfb17 "ac00-d7a3 d7b0-d7c6 d7cb-d7fb f900-fa6d fa70-fad9 fb00-fb06 fb13-fb17",
  setRow 0xfb1d 0xfbb1 "fb1d fb1f-fb28 fb2a-fb36 fb38-fb3c fb3e fb40-fb41 fb43-fb44 fb46-fbb1",
  setRow 0xfbd3 0xfe79 "fbd3-fc5d fc64-fd3d fd50-fd8f fd92-fdc7 fdf0-fdf9 fe71 fe73 fe77 fe79",
  setRow 0xfe7b 0xffc7 "fe7b fe7d fe7f-fefc ff21-ff3a ff41-ff5a ff66-ff9d ffa0-ffbe ffc2-ffc7",
  setRow 0xffca 0x1003a "ffca-ffcf ffd2-ffd7 ffda-ffdc 10000-1000b 1000d-10026 10028-1003a",
  setRow 0x1003c 0x1029c "1003c-1003d 1003f-1004d 10050-1005d 10080-100fa 10140-10174 10280-1029c",
  setRow 0x102a0 0x103c3 "102a0-102d0 10300-1031f 1032d-1034a 10350-10375 10380-1039d 103a0-103c3",
  setRow 0x103c8 0x10527 "103c8-103cf 103d1-103d5 10400-1049d 104b0-104d3 104d8-104fb 10500-10527",
  setRow 0x10530 0x105a1 "10530-10563 10570-1057a 1057c-1058a 1058c-10592 10594-10595 10597-105a1",
  setRow 0x105a3 0x10755 "105a3-105b1 105b3-105b9 105bb-105bc 105c0-105f3 10600-10736 10740-10755",
  setRow 0x10760 0x10808 "10760-10767 10780-10785 10787-107b0 107b2-107ba 10800-10805 10808",
  setRow 0x1080a 0x1089e "1080a-10835 10837-10838 1083c 1083f-10855 10860-10876 10880-1089e",
  setRow 0x108e0 0x109bf "108e0-108f2 108f4-108f5 10900-10915 10920-10939 10980-109b7 109be-109bf",
  setRow 0x10a00 0x10a9c "10a00 10a10-10a13 10a15-10a17 10a19-10a35 10a60-10a7c 10a80-10a9c",
  setRow 0x10ac0 0x10b91 "10ac0-10ac7 10ac9-10ae4 10b00-10b35 10b40-10b55 10b60-10b72 10b80-10b91",
  setRow 0x10c00 0x10d85 "10c00-10c48 10c80-10cb2 10cc0-10cf2 10d00-10d23 10d4a-10d65 10d6f-10d85",
  setRow 0x10e80 0x10f45 "10e80-10ea9 10eb0-10eb1 10ec2-10ec4 10f00-10f1c 10f27 10f30-10f45",
  setRow 0x10f70 0x11075 "10f70-10f81 10fb0-10fc4 10fe0-10ff6 11003-11037 11071-11072 11075",
  setRow 0x11083 0x11176 "11083-110af 110d0-110e8 11103-11126 11144 11147 11150-11172 11176",
  setRow 0x11183 0x11240 "11183-111b2 111c1-111c4 111da 111dc 11200-11211 11213-1122b 1123f-11240",
  setRow 0x11280 0x112de "11280-11286 11288 1128a-1128d 1128f-1129d 1129f-112a8 112b0-112de",
  setRow 0x11305 0x11339 "11305-1130c 1130f-11310 11313-11328 1132a-11330 11332-11333 11335-11339",
  setRow 0x1133d 0x113d1 "1133d 11350 1135d-11361 11380-11389 1138b 1138e 11390-113b5 113b7 113d1",
  setRow 0x113d3 0x114c7 "113d3 11400-11434 11447-1144a 1145f-11461 11480-114af 114c4-114c5 114c7",
  setRow 0x11580 0x1171a "11580-115ae 115d8-115db 11600-1162f 11644 11680-116aa 116b8 11700-1171a",
  setRow 0x11740 0x11913 "11740-11746 11800-1182b 118a0-118df 118ff-11906 11909 1190c-11913",
  setRow 0x11915 0x119e3 "11915-11916 11918-1192f 1193f 11941 119a0-119a7 119aa-119d0 119e1 119e3",
  setRow 0x11a00 0x11be0 "11a00 11a0b-11a32 11a3a 11a50 11a5c-11a89 11a9d 11ab0-11af8 11bc0-11be0",
  setRow 0x11c00 0x11d09 "11c00-11c08 11c0a-11c2e 11c40 11c72-11c8f 11d00-11d06 11d08-11d09",
  setRow 0x11d0b 0x11ef2 "11d0b-11d30 11d46 11d60-11d65 11d67-11d68 11d6a-11d89 11d98 11ee0-11ef2",
  setRow 0x11f02 0x12543 "11f02 11f04-11f10 11f12-11f33 11fb0 12000-12399 12400-1246e 12480-12543",
  setRow 0x12f90 0x1611d "12f90-12ff0 13000-1342f 13441-13446 13460-143fa 14400-14646 16100-1611d",
  setRow 0x16800 0x16b43 "16800-16a38 16a40-16a5e 16a70-16abe 16ad0-16aed 16b00-16b2f 16b40-16b43",
  setRow 0x16b63 0x16f50 "16b63-16b77 16b7d-16b8f 16d40-16d6c 16e40-16e7f 16f00-16f4a 16f50",
  setRow 0x16f93 0x18d08 "16f93-16f9f 16fe0-16fe1 16fe3 17000-187f7 18800-18cd5 18cff-18d08",
  setRow 0x1aff0 0x1b155 "1aff0-1aff3 1aff5-1affb 1affd-1affe 1b000-1b122 1b132 1b150-1b152 1b155",
  setRow 0x1b164 0x1bc99 "1b164-1b167 1b170-1b2fb 1bc00-1bc6a 1bc70-1bc7c 1bc80-1bc88 1bc90-1bc99",
  setRow 0x1d400 0x1d4ac "1d400-1d454 1d456-1d49c 1d49e-1d49f 1d4a2 1d4a5-1d4a6 1d4a9-1d4ac",
  setRow 0x1d4ae 0x1d514 "1d4ae-1d4b9 1d4bb 1d4bd-1d4c3 1d4c5-1d505 1d507-1d50a 1d50d-1d514",
  setRow 0x1d516 0x1d550 "1d516-1d51c 1d51e-1d539 1d53b-1d53e 1d540-1d544 1d546 1d54a-1d550",
  setRow 0x1d552 0x1d734 "1d552-1d6a5 1d6a8-1d6c0 1d6c2-1d6da 1d6dc-1d6fa 1d6fc-1d714 1d716-1d734",
  setRow 0x1d736 0x1d7cb "1d736-1d74e 1d750-1d76e 1d770-1d788 1d78a-1d7a8 1d7aa-1d7c2 1d7c4-1d7cb",
  setRow 0x1df00 0x1e14e "1df00-1df1e 1df25-1df2a 1e030-1e06d 1e100-1e12c 1e137-1e13d 1e14e",
  setRow 0x1e290 0x1e7e6 "1e290-1e2ad 1e2c0-1e2eb 1e4d0-1e4eb 1e5d0-1e5ed 1e5f0 1e7e0-1e7e6",
  setRow 0x1e7e8 0x1e94b "1e7e8-1e7eb 1e7ed-1e7ee 1e7f0-1e7fe 1e800-1e8c4 1e900-1e943 1e94b",
  setRow 0x1ee00 0x1ee37 "1ee00-1ee03 1ee05-1ee1f 1ee21-1ee22 1ee24 1ee27 1ee29-1ee32 1ee34-1ee37",
  setRow 0x1ee39 0x1ee57 "1ee39 1ee3b 1ee42 1ee47 1ee49 1ee4b 1ee4d-1ee4f 1ee51-1ee52 1ee54 1ee57",
  setRow 0x1ee59 0x1ee72 "1ee59 1ee5b 1ee5d 1ee5f 1ee61-1ee62 1ee64 1ee67-1ee6a 1ee6c-1ee72",
  setRow 0x1ee74 0x1eea3 "1ee74-1ee77 1ee79-1ee7c 1ee7e 1ee80-1ee89 1ee8b-1ee9b 1eea1-1eea3",
  setRow 0x1eea5 0x2cea1 "1eea5-1eea9 1eeab-1eebb 20000-2a6df 2a700-2b739 2b740-2b81d 2b820-2cea1",
  setRow 0x2ceb0 0x323af "2ceb0-2ebe0 2ebf0-2ee5d 2f800-2fa1d 30000-3134a 31350-323af"]

-- The yes-or-no properties that have a table of their own, under each of their names.
def named : List (List String × CodeSet) := [
  (["ahex", "asciihexdigit"], asciiHexDigit),
  (["bidic", "bidicontrol"], bidiControl),
  (["bidim", "bidimirrored"], bidiMirrored),
  (["changeswhencasefolded", "cwcf"], changesWhenCasefolded),
  (["changeswhencasemapped", "cwcm"], changesWhenCasemapped),
  (["changeswhenlowercased", "cwl"], changesWhenLowercased),
  (["changeswhentitlecased", "cwt"], changesWhenTitlecased),
  (["changeswhenuppercased", "cwu"], changesWhenUppercased),
  (["dash"], dash),
  (["dep", "deprecated"], deprecated),
  (["dia", "diacritic"], diacritic),
  (["emoji"], emoji),
  (["ecomp", "emojicomponent"], emojiComponent),
  (["emod", "emojimodifier"], emojiModifier),
  (["ebase", "emojimodifierbase"], emojiModifierBase),
  (["emojipresentation", "epres"], emojiPresentation),
  (["extendedpictographic", "extpict"], extendedPictographic),
  (["ext", "extender"], extender),
  (["graphemebase", "grbase"], graphemeBase),
  (["graphemelink", "grlink"], graphemeLink),
  (["hex", "hexdigit"], hexDigit),
  (["hyphen"], hyphen),
  (["idsb", "idsbinaryoperator"], idsBinaryOperator),
  (["idst", "idstrinaryoperator"], idsTrinaryOperator),
  (["idsu", "idsunaryoperator"], idsUnaryOperator),
  (["idcompatmathcontinue"], idCompatMathContinue),
  (["idcompatmathstart"], idCompatMathStart),
  (["idc", "idcontinue"], idContinue),
  (["ids", "idstart"], idStart),
  (["ideo", "ideographic"], ideographic),
  (["joinc", "joincontrol"], joinControl),
  (["loe", "logicalorderexception"], logicalOrderException),
  (["math"], math),
  (["mcm", "modifiercombiningmark"], modifierCombiningMark),
  (["nchar", "noncharactercodepoint"], noncharacterCodePoint),
  (["odi", "otherdefaultignorablecodepoint"], otherDefaultIgnorableCodePoint),
  (["oidc", "otheridcontinue"], otherIdContinue),
  (["oids", "otheridstart"], otherIdStart),
  (["omath", "othermath"], otherMath),
  (["patsyn", "patternsyntax"], patternSyntax),
  (["patternwhitespace", "patws"], patternWhiteSpace),
  (["pcm", "prependedconcatenationmark"], prependedConcatenationMark),
  (["qmark", "quotationmark"], quotationMark),
  (["radical"], radical),
  (["regionalindicator", "ri"], regionalIndicator),
  (["sentenceterminal", "sterm"], sentenceTerminal),
  (["sd", "softdotted"], softDotted),
  (["term", "terminalpunctuation"], terminalPunctuation),
  (["uideo", "unifiedideograph"], unifiedIdeograph),
  (["variationselector", "vs"], variationSelector),
  (["xidc", "xidcontinue"], xidContinue),
  (["xids", "xidstart"], xidStart)]

end TextFeatures.Unicode.BinaryProperty
