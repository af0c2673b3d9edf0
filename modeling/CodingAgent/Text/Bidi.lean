import CodingAgent.Text.Ranges

/-!
# Bidirectional classes

The bidirectional class of every code point (Unicode 14.0), as the bidirectional algorithm
and the rules on right-to-left labels read it. A code point the character database does not
assign has no class.
-/

namespace CodingAgent.Text

/-- A bidirectional class. -/
inductive BidiClass where
  /-- Left-to-right (`L`). -/
  | leftToRight
  /-- Right-to-left (`R`). -/
  | rightToLeft
  /-- Right-to-left Arabic (`AL`). -/
  | arabicLetter
  /-- European number (`EN`). -/
  | europeanNumber
  /-- European number separator (`ES`). -/
  | europeanSeparator
  /-- European number terminator (`ET`). -/
  | europeanTerminator
  /-- Arabic number (`AN`). -/
  | arabicNumber
  /-- Common number separator (`CS`). -/
  | commonSeparator
  /-- Nonspacing mark (`NSM`). -/
  | nonspacingMark
  /-- Boundary neutral (`BN`). -/
  | boundaryNeutral
  /-- Paragraph separator (`B`). -/
  | paragraphSeparator
  /-- Segment separator (`S`). -/
  | segmentSeparator
  /-- Whitespace (`WS`). -/
  | whitespace
  /-- Other neutrals (`ON`). -/
  | otherNeutral
  /-- Left-to-right embedding (`LRE`). -/
  | leftToRightEmbedding
  /-- Left-to-right override (`LRO`). -/
  | leftToRightOverride
  /-- Right-to-left embedding (`RLE`). -/
  | rightToLeftEmbedding
  /-- Right-to-left override (`RLO`). -/
  | rightToLeftOverride
  /-- Pop directional format (`PDF`). -/
  | popFormat
  /-- Left-to-right isolate (`LRI`). -/
  | leftToRightIsolate
  /-- Right-to-left isolate (`RLI`). -/
  | rightToLeftIsolate
  /-- First strong isolate (`FSI`). -/
  | firstStrongIsolate
  /-- Pop directional isolate (`PDI`). -/
  | popIsolate
  deriving DecidableEq, Repr

/-- The classes in the order of their numbers in the table. -/
def BidiClass.all : List BidiClass :=
  [.leftToRight, .rightToLeft, .arabicLetter, .europeanNumber, .europeanSeparator,
    .europeanTerminator, .arabicNumber, .commonSeparator, .nonspacingMark, .boundaryNeutral,
    .paragraphSeparator, .segmentSeparator, .whitespace, .otherNeutral,
    .leftToRightEmbedding, .leftToRightOverride, .rightToLeftEmbedding, .rightToLeftOverride,
    .popFormat, .leftToRightIsolate, .rightToLeftIsolate, .firstStrongIsolate, .popIsolate]

/-- The assigned code point ranges and the number of their class in `BidiClass.all`. -/
def bidiRanges : RangeMap :=
  RangeMap.ofPacked
  (String.intercalate " " [
    "0 8 9 9 9 b a a a b b b c c c d d a e 1b 9 1c 1e a 1f 1f b 20 20 c 21 22 d 23 25 5",
    "26 2a d 2b 2b 4 2c 2c 7 2d 2d 4 2e 2f 7 30 39 3 3a 3a 7 3b 40 d 41 5a 0 5b 60 d 61",
    "7a 0 7b 7e d 7f 84 9 85 85 a 86 9f 9 a0 a0 7 a1 a1 d a2 a5 5 a6 a9 d aa aa 0 ab ac d",
    "ad ad 9 ae af d b0 b1 5 b2 b3 3 b4 b4 d b5 b5 0 b6 b8 d b9 b9 3 ba ba 0 bb bf d c0",
    "d6 0 d7 d7 d d8 f6 0 f7 f7 d f8 2b8 0 2b9 2ba d 2bb 2c1 0 2c2 2cf d 2d0 2d1 0 2d2",
    "2df d 2e0 2e4 0 2e5 2ed d 2ee 2ee 0 2ef 2ff d 300 36f 8 370 373 0 374 375 d 376 377",
    "0 37a 37d 0 37e 37e d 37f 37f 0 384 385 d 386 386 0 387 387 d 388 38a 0 38c 38c 0",
    "38e 3a1 0 3a3 3f5 0 3f6 3f6 d 3f7 482 0 483 489 8 48a 52f 0 531 556 0 559 589 0 58a",
    "58a d 58d 58e d 58f 58f 5 591 5bd 8 5be 5be 1 5bf 5bf 8 5c0 5c0 1 5c1 5c2 8 5c3 5c3",
    "1 5c4 5c5 8 5c6 5c6 1 5c7 5c7 8 5d0 5ea 1 5ef 5f4 1 600 605 6 606 607 d 608 608 2",
    "609 60a 5 60b 60b 2 60c 60c 7 60d 60d 2 60e 60f d 610 61a 8 61b 64a 2 64b 65f 8 660",
    "669 6 66a 66a 5 66b 66c 6 66d 66f 2 670 670 8 671 6d5 2 6d6 6dc 8 6dd 6dd 6 6de 6de",
    "d 6df 6e4 8 6e5 6e6 2 6e7 6e8 8 6e9 6e9 d 6ea 6ed 8 6ee 6ef 2 6f0 6f9 3 6fa 70d 2",
    "70f 710 2 711 711 8 712 72f 2 730 74a 8 74d 7a5 2 7a6 7b0 8 7b1 7b1 2 7c0 7ea 1 7eb",
    "7f3 8 7f4 7f5 1 7f6 7f9 d 7fa 7fa 1 7fd 7fd 8 7fe 815 1 816 819 8 81a 81a 1 81b 823",
    "8 824 824 1 825 827 8 828 828 1 829 82d 8 830 83e 1 840 858 1 859 85b 8 85e 85e 1",
    "860 86a 2 870 88e 2 890 891 6 898 89f 8 8a0 8c9 2 8ca 8e1 8 8e2 8e2 6 8e3 902 8 903",
    "939 0 93a 93a 8 93b 93b 0 93c 93c 8 93d 940 0 941 948 8 949 94c 0 94d 94d 8 94e 950",
    "0 951 957 8 958 961 0 962 963 8 964 980 0 981 981 8 982 983 0 985 98c 0 98f 990 0",
    "993 9a8 0 9aa 9b0 0 9b2 9b2 0 9b6 9b9 0 9bc 9bc 8 9bd 9c0 0 9c1 9c4 8 9c7 9c8 0 9cb",
    "9cc 0 9cd 9cd 8 9ce 9ce 0 9d7 9d7 0 9dc 9dd 0 9df 9e1 0 9e2 9e3 8 9e6 9f1 0 9f2 9f3",
    "5 9f4 9fa 0 9fb 9fb 5 9fc 9fd 0 9fe 9fe 8 a01 a02 8 a03 a03 0 a05 a0a 0 a0f a10 0",
    "a13 a28 0 a2a a30 0 a32 a33 0 a35 a36 0 a38 a39 0 a3c a3c 8 a3e a40 0 a41 a42 8 a47",
    "a48 8 a4b a4d 8 a51 a51 8 a59 a5c 0 a5e a5e 0 a66 a6f 0 a70 a71 8 a72 a74 0 a75 a75",
    "8 a76 a76 0 a81 a82 8 a83 a83 0 a85 a8d 0 a8f a91 0 a93 aa8 0 aaa ab0 0 ab2 ab3 0",
    "ab5 ab9 0 abc abc 8 abd ac0 0 ac1 ac5 8 ac7 ac8 8 ac9 ac9 0 acb acc 0 acd acd 8 ad0",
    "ad0 0 ae0 ae1 0 ae2 ae3 8 ae6 af0 0 af1 af1 5 af9 af9 0 afa aff 8 b01 b01 8 b02 b03",
    "0 b05 b0c 0 b0f b10 0 b13 b28 0 b2a b30 0 b32 b33 0 b35 b39 0 b3c b3c 8 b3d b3e 0",
    "b3f b3f 8 b40 b40 0 b41 b44 8 b47 b48 0 b4b b4c 0 b4d b4d 8 b55 b56 8 b57 b57 0 b5c",
    "b5d 0 b5f b61 0 b62 b63 8 b66 b77 0 b82 b82 8 b83 b83 0 b85 b8a 0 b8e b90 0 b92 b95",
    "0 b99 b9a 0 b9c b9c 0 b9e b9f 0 ba3 ba4 0 ba8 baa 0 bae bb9 0 bbe bbf 0 bc0 bc0 8",
    "bc1 bc2 0 bc6 bc8 0 bca bcc 0 bcd bcd 8 bd0 bd0 0 bd7 bd7 0 be6 bf2 0 bf3 bf8 d bf9",
    "bf9 5 bfa bfa d c00 c00 8 c01 c03 0 c04 c04 8 c05 c0c 0 c0e c10 0 c12 c28 0 c2a c39",
    "0 c3c c3c 8 c3d c3d 0 c3e c40 8 c41 c44 0 c46 c48 8 c4a c4d 8 c55 c56 8 c58 c5a 0",
    "c5d c5d 0 c60 c61 0 c62 c63 8 c66 c6f 0 c77 c77 0 c78 c7e d c7f c80 0 c81 c81 8 c82",
    "c8c 0 c8e c90 0 c92 ca8 0 caa cb3 0 cb5 cb9 0 cbc cbc 8 cbd cc4 0 cc6 cc8 0 cca ccb",
    "0 ccc ccd 8 cd5 cd6 0 cdd cde 0 ce0 ce1 0 ce2 ce3 8 ce6 cef 0 cf1 cf2 0 d00 d01 8",
    "d02 d0c 0 d0e d10 0 d12 d3a 0 d3b d3c 8 d3d d40 0 d41 d44 8 d46 d48 0 d4a d4c 0 d4d",
    "d4d 8 d4e d4f 0 d54 d61 0 d62 d63 8 d66 d7f 0 d81 d81 8 d82 d83 0 d85 d96 0 d9a db1",
    "0 db3 dbb 0 dbd dbd 0 dc0 dc6 0 dca dca 8 dcf dd1 0 dd2 dd4 8 dd6 dd6 8 dd8 ddf 0",
    "de6 def 0 df2 df4 0 e01 e30 0 e31 e31 8 e32 e33 0 e34 e3a 8 e3f e3f 5 e40 e46 0 e47",
    "e4e 8 e4f e5b 0 e81 e82 0 e84 e84 0 e86 e8a 0 e8c ea3 0 ea5 ea5 0 ea7 eb0 0 eb1 eb1",
    "8 eb2 eb3 0 eb4 ebc 8 ebd ebd 0 ec0 ec4 0 ec6 ec6 0 ec8 ecd 8 ed0 ed9 0 edc edf 0",
    "f00 f17 0 f18 f19 8 f1a f34 0 f35 f35 8 f36 f36 0 f37 f37 8 f38 f38 0 f39 f39 8 f3a",
    "f3d d f3e f47 0 f49 f6c 0 f71 f7e 8 f7f f7f 0 f80 f84 8 f85 f85 0 f86 f87 8 f88 f8c",
    "0 f8d f97 8 f99 fbc 8 fbe fc5 0 fc6 fc6 8 fc7 fcc 0 fce fda 0 1000 102c 0 102d 1030",
    "8 1031 1031 0 1032 1037 8 1038 1038 0 1039 103a 8 103b 103c 0 103d 103e 8 103f 1057",
    "0 1058 1059 8 105a 105d 0 105e 1060 8 1061 1070 0 1071 1074 8 1075 1081 0 1082 1082",
    "8 1083 1084 0 1085 1086 8 1087 108c 0 108d 108d 8 108e 109c 0 109d 109d 8 109e 10c5",
    "0 10c7 10c7 0 10cd 10cd 0 10d0 1248 0 124a 124d 0 1250 1256 0 1258 1258 0 125a 125d",
    "0 1260 1288 0 128a 128d 0 1290 12b0 0 12b2 12b5 0 12b8 12be 0 12c0 12c0 0 12c2 12c5",
    "0 12c8 12d6 0 12d8 1310 0 1312 1315 0 1318 135a 0 135d 135f 8 1360 137c 0 1380 138f",
    "0 1390 1399 d 13a0 13f5 0 13f8 13fd 0 1400 1400 d 1401 167f 0 1680 1680 c 1681 169a",
    "0 169b 169c d 16a0 16f8 0 1700 1711 0 1712 1714 8 1715 1715 0 171f 1731 0 1732 1733",
    "8 1734 1736 0 1740 1751 0 1752 1753 8 1760 176c 0 176e 1770 0 1772 1773 8 1780 17b3",
    "0 17b4 17b5 8 17b6 17b6 0 17b7 17bd 8 17be 17c5 0 17c6 17c6 8 17c7 17c8 0 17c9 17d3",
    "8 17d4 17da 0 17db 17db 5 17dc 17dc 0 17dd 17dd 8 17e0 17e9 0 17f0 17f9 d 1800 180a",
    "d 180b 180d 8 180e 180e 9 180f 180f 8 1810 1819 0 1820 1878 0 1880 1884 0 1885 1886",
    "8 1887 18a8 0 18a9 18a9 8 18aa 18aa 0 18b0 18f5 0 1900 191e 0 1920 1922 8 1923 1926",
    "0 1927 1928 8 1929 192b 0 1930 1931 0 1932 1932 8 1933 1938 0 1939 193b 8 1940 1940",
    "d 1944 1945 d 1946 196d 0 1970 1974 0 1980 19ab 0 19b0 19c9 0 19d0 19da 0 19de 19ff",
    "d 1a00 1a16 0 1a17 1a18 8 1a19 1a1a 0 1a1b 1a1b 8 1a1e 1a55 0 1a56 1a56 8 1a57 1a57",
    "0 1a58 1a5e 8 1a60 1a60 8 1a61 1a61 0 1a62 1a62 8 1a63 1a64 0 1a65 1a6c 8 1a6d 1a72",
    "0 1a73 1a7c 8 1a7f 1a7f 8 1a80 1a89 0 1a90 1a99 0 1aa0 1aad 0 1ab0 1ace 8 1b00 1b03",
    "8 1b04 1b33 0 1b34 1b34 8 1b35 1b35 0 1b36 1b3a 8 1b3b 1b3b 0 1b3c 1b3c 8 1b3d 1b41",
    "0 1b42 1b42 8 1b43 1b4c 0 1b50 1b6a 0 1b6b 1b73 8 1b74 1b7e 0 1b80 1b81 8 1b82 1ba1",
    "0 1ba2 1ba5 8 1ba6 1ba7 0 1ba8 1ba9 8 1baa 1baa 0 1bab 1bad 8 1bae 1be5 0 1be6 1be6",
    "8 1be7 1be7 0 1be8 1be9 8 1bea 1bec 0 1bed 1bed 8 1bee 1bee 0 1bef 1bf1 8 1bf2 1bf3",
    "0 1bfc 1c2b 0 1c2c 1c33 8 1c34 1c35 0 1c36 1c37 8 1c3b 1c49 0 1c4d 1c88 0 1c90 1cba",
    "0 1cbd 1cc7 0 1cd0 1cd2 8 1cd3 1cd3 0 1cd4 1ce0 8 1ce1 1ce1 0 1ce2 1ce8 8 1ce9 1cec",
    "0 1ced 1ced 8 1cee 1cf3 0 1cf4 1cf4 8 1cf5 1cf7 0 1cf8 1cf9 8 1cfa 1cfa 0 1d00 1dbf",
    "0 1dc0 1dff 8 1e00 1f15 0 1f18 1f1d 0 1f20 1f45 0 1f48 1f4d 0 1f50 1f57 0 1f59 1f59",
    "0 1f5b 1f5b 0 1f5d 1f5d 0 1f5f 1f7d 0 1f80 1fb4 0 1fb6 1fbc 0 1fbd 1fbd d 1fbe 1fbe",
    "0 1fbf 1fc1 d 1fc2 1fc4 0 1fc6 1fcc 0 1fcd 1fcf d 1fd0 1fd3 0 1fd6 1fdb 0 1fdd 1fdf",
    "d 1fe0 1fec 0 1fed 1fef d 1ff2 1ff4 0 1ff6 1ffc 0 1ffd 1ffe d 2000 200a c 200b 200d",
    "9 200e 200e 0 200f 200f 1 2010 2027 d 2028 2028 c 2029 2029 a 202a 202a e 202b 202b",
    "10 202c 202c 12 202d 202d f 202e 202e 11 202f 202f 7 2030 2034 5 2035 2043 d 2044",
    "2044 7 2045 205e d 205f 205f c 2060 2064 9 2066 2066 13 2067 2067 14 2068 2068 15",
    "2069 2069 16 206a 206f 9 2070 2070 3 2071 2071 0 2074 2079 3 207a 207b 4 207c 207e d",
    "207f 207f 0 2080 2089 3 208a 208b 4 208c 208e d 2090 209c 0 20a0 20c0 5 20d0 20f0 8",
    "2100 2101 d 2102 2102 0 2103 2106 d 2107 2107 0 2108 2109 d 210a 2113 0 2114 2114 d",
    "2115 2115 0 2116 2118 d 2119 211d 0 211e 2123 d 2124 2124 0 2125 2125 d 2126 2126 0",
    "2127 2127 d 2128 2128 0 2129 2129 d 212a 212d 0 212e 212e 5 212f 2139 0 213a 213b d",
    "213c 213f 0 2140 2144 d 2145 2149 0 214a 214d d 214e 214f 0 2150 215f d 2160 2188 0",
    "2189 218b d 2190 2211 d 2212 2212 4 2213 2213 5 2214 2335 d 2336 237a 0 237b 2394 d",
    "2395 2395 0 2396 2426 d 2440 244a d 2460 2487 d 2488 249b 3 249c 24e9 0 24ea 26ab d",
    "26ac 26ac 0 26ad 27ff d 2800 28ff 0 2900 2b73 d 2b76 2b95 d 2b97 2bff d 2c00 2ce4 0",
    "2ce5 2cea d 2ceb 2cee 0 2cef 2cf1 8 2cf2 2cf3 0 2cf9 2cff d 2d00 2d25 0 2d27 2d27 0",
    "2d2d 2d2d 0 2d30 2d67 0 2d6f 2d70 0 2d7f 2d7f 8 2d80 2d96 0 2da0 2da6 0 2da8 2dae 0",
    "2db0 2db6 0 2db8 2dbe 0 2dc0 2dc6 0 2dc8 2dce 0 2dd0 2dd6 0 2dd8 2dde 0 2de0 2dff 8",
    "2e00 2e5d d 2e80 2e99 d 2e9b 2ef3 d 2f00 2fd5 d 2ff0 2ffb d 3000 3000 c 3001 3004 d",
    "3005 3007 0 3008 3020 d 3021 3029 0 302a 302d 8 302e 302f 0 3030 3030 d 3031 3035 0",
    "3036 3037 d 3038 303c 0 303d 303f d 3041 3096 0 3099 309a 8 309b 309c d 309d 309f 0",
    "30a0 30a0 d 30a1 30fa 0 30fb 30fb d 30fc 30ff 0 3105 312f 0 3131 318e 0 3190 31bf 0",
    "31c0 31e3 d 31f0 321c 0 321d 321e d 3220 324f 0 3250 325f d 3260 327b 0 327c 327e d",
    "327f 32b0 0 32b1 32bf d 32c0 32cb 0 32cc 32cf d 32d0 3376 0 3377 337a d 337b 33dd 0",
    "33de 33df d 33e0 33fe 0 33ff 33ff d 3400 4dbf 0 4dc0 4dff d 4e00 a48c 0 a490 a4c6 d",
    "a4d0 a60c 0 a60d a60f d a610 a62b 0 a640 a66e 0 a66f a672 8 a673 a673 d a674 a67d 8",
    "a67e a67f d a680 a69d 0 a69e a69f 8 a6a0 a6ef 0 a6f0 a6f1 8 a6f2 a6f7 0 a700 a721 d",
    "a722 a787 0 a788 a788 d a789 a7ca 0 a7d0 a7d1 0 a7d3 a7d3 0 a7d5 a7d9 0 a7f2 a801 0",
    "a802 a802 8 a803 a805 0 a806 a806 8 a807 a80a 0 a80b a80b 8 a80c a824 0 a825 a826 8",
    "a827 a827 0 a828 a82b d a82c a82c 8 a830 a837 0 a838 a839 5 a840 a873 0 a874 a877 d",
    "a880 a8c3 0 a8c4 a8c5 8 a8ce a8d9 0 a8e0 a8f1 8 a8f2 a8fe 0 a8ff a8ff 8 a900 a925 0",
    "a926 a92d 8 a92e a946 0 a947 a951 8 a952 a953 0 a95f a97c 0 a980 a982 8 a983 a9b2 0",
    "a9b3 a9b3 8 a9b4 a9b5 0 a9b6 a9b9 8 a9ba a9bb 0 a9bc a9bd 8 a9be a9cd 0 a9cf a9d9 0",
    "a9de a9e4 0 a9e5 a9e5 8 a9e6 a9fe 0 aa00 aa28 0 aa29 aa2e 8 aa2f aa30 0 aa31 aa32 8",
    "aa33 aa34 0 aa35 aa36 8 aa40 aa42 0 aa43 aa43 8 aa44 aa4b 0 aa4c aa4c 8 aa4d aa4d 0",
    "aa50 aa59 0 aa5c aa7b 0 aa7c aa7c 8 aa7d aaaf 0 aab0 aab0 8 aab1 aab1 0 aab2 aab4 8",
    "aab5 aab6 0 aab7 aab8 8 aab9 aabd 0 aabe aabf 8 aac0 aac0 0 aac1 aac1 8 aac2 aac2 0",
    "aadb aaeb 0 aaec aaed 8 aaee aaf5 0 aaf6 aaf6 8 ab01 ab06 0 ab09 ab0e 0 ab11 ab16 0",
    "ab20 ab26 0 ab28 ab2e 0 ab30 ab69 0 ab6a ab6b d ab70 abe4 0 abe5 abe5 8 abe6 abe7 0",
    "abe8 abe8 8 abe9 abec 0 abed abed 8 abf0 abf9 0 ac00 d7a3 0 d7b0 d7c6 0 d7cb d7fb 0",
    "d800 fa6d 0 fa70 fad9 0 fb00 fb06 0 fb13 fb17 0 fb1d fb1d 1 fb1e fb1e 8 fb1f fb28 1",
    "fb29 fb29 4 fb2a fb36 1 fb38 fb3c 1 fb3e fb3e 1 fb40 fb41 1 fb43 fb44 1 fb46 fb4f 1",
    "fb50 fbc2 2 fbd3 fd3d 2 fd3e fd4f d fd50 fd8f 2 fd92 fdc7 2 fdcf fdcf d fdf0 fdfc 2",
    "fdfd fdff d fe00 fe0f 8 fe10 fe19 d fe20 fe2f 8 fe30 fe4f d fe50 fe50 7 fe51 fe51 d",
    "fe52 fe52 7 fe54 fe54 d fe55 fe55 7 fe56 fe5e d fe5f fe5f 5 fe60 fe61 d fe62 fe63 4",
    "fe64 fe66 d fe68 fe68 d fe69 fe6a 5 fe6b fe6b d fe70 fe74 2 fe76 fefc 2 feff feff 9",
    "ff01 ff02 d ff03 ff05 5 ff06 ff0a d ff0b ff0b 4 ff0c ff0c 7 ff0d ff0d 4 ff0e ff0f 7",
    "ff10 ff19 3 ff1a ff1a 7 ff1b ff20 d ff21 ff3a 0 ff3b ff40 d ff41 ff5a 0 ff5b ff65 d",
    "ff66 ffbe 0 ffc2 ffc7 0 ffca ffcf 0 ffd2 ffd7 0 ffda ffdc 0 ffe0 ffe1 5 ffe2 ffe4 d",
    "ffe5 ffe6 5 ffe8 ffee d fff9 fffd d 10000 1000b 0 1000d 10026 0 10028 1003a 0 1003c",
    "1003d 0 1003f 1004d 0 10050 1005d 0 10080 100fa 0 10100 10100 0 10101 10101 d 10102",
    "10102 0 10107 10133 0 10137 1013f 0 10140 1018c d 1018d 1018e 0 10190 1019c d 101a0",
    "101a0 d 101d0 101fc 0 101fd 101fd 8 10280 1029c 0 102a0 102d0 0 102e0 102e0 8 102e1",
    "102fb 3 10300 10323 0 1032d 1034a 0 10350 10375 0 10376 1037a 8 10380 1039d 0 1039f",
    "103c3 0 103c8 103d5 0 10400 1049d 0 104a0 104a9 0 104b0 104d3 0 104d8 104fb 0 10500",
    "10527 0 10530 10563 0 1056f 1057a 0 1057c 1058a 0 1058c 10592 0 10594 10595 0 10597",
    "105a1 0 105a3 105b1 0 105b3 105b9 0 105bb 105bc 0 10600 10736 0 10740 10755 0 10760",
    "10767 0 10780 10785 0 10787 107b0 0 107b2 107ba 0 10800 10805 1 10808 10808 1 1080a",
    "10835 1 10837 10838 1 1083c 1083c 1 1083f 10855 1 10857 1089e 1 108a7 108af 1 108e0",
    "108f2 1 108f4 108f5 1 108fb 1091b 1 1091f 1091f d 10920 10939 1 1093f 1093f 1 10980",
    "109b7 1 109bc 109cf 1 109d2 10a00 1 10a01 10a03 8 10a05 10a06 8 10a0c 10a0f 8 10a10",
    "10a13 1 10a15 10a17 1 10a19 10a35 1 10a38 10a3a 8 10a3f 10a3f 8 10a40 10a48 1 10a50",
    "10a58 1 10a60 10a9f 1 10ac0 10ae4 1 10ae5 10ae6 8 10aeb 10af6 1 10b00 10b35 1 10b39",
    "10b3f d 10b40 10b55 1 10b58 10b72 1 10b78 10b91 1 10b99 10b9c 1 10ba9 10baf 1 10c00",
    "10c48 1 10c80 10cb2 1 10cc0 10cf2 1 10cfa 10cff 1 10d00 10d23 2 10d24 10d27 8 10d30",
    "10d39 6 10e60 10e7e 6 10e80 10ea9 1 10eab 10eac 8 10ead 10ead 1 10eb0 10eb1 1 10f00",
    "10f27 1 10f30 10f45 2 10f46 10f50 8 10f51 10f59 2 10f70 10f81 1 10f82 10f85 8 10f86",
    "10f89 1 10fb0 10fcb 1 10fe0 10ff6 1 11000 11000 0 11001 11001 8 11002 11037 0 11038",
    "11046 8 11047 1104d 0 11052 11065 d 11066 1106f 0 11070 11070 8 11071 11072 0 11073",
    "11074 8 11075 11075 0 1107f 11081 8 11082 110b2 0 110b3 110b6 8 110b7 110b8 0 110b9",
    "110ba 8 110bb 110c1 0 110c2 110c2 8 110cd 110cd 0 110d0 110e8 0 110f0 110f9 0 11100",
    "11102 8 11103 11126 0 11127 1112b 8 1112c 1112c 0 1112d 11134 8 11136 11147 0 11150",
    "11172 0 11173 11173 8 11174 11176 0 11180 11181 8 11182 111b5 0 111b6 111be 8 111bf",
    "111c8 0 111c9 111cc 8 111cd 111ce 0 111cf 111cf 8 111d0 111df 0 111e1 111f4 0 11200",
    "11211 0 11213 1122e 0 1122f 11231 8 11232 11233 0 11234 11234 8 11235 11235 0 11236",
    "11237 8 11238 1123d 0 1123e 1123e 8 11280 11286 0 11288 11288 0 1128a 1128d 0 1128f",
    "1129d 0 1129f 112a9 0 112b0 112de 0 112df 112df 8 112e0 112e2 0 112e3 112ea 8 112f0",
    "112f9 0 11300 11301 8 11302 11303 0 11305 1130c 0 1130f 11310 0 11313 11328 0 1132a",
    "11330 0 11332 11333 0 11335 11339 0 1133b 1133c 8 1133d 1133f 0 11340 11340 8 11341",
    "11344 0 11347 11348 0 1134b 1134d 0 11350 11350 0 11357 11357 0 1135d 11363 0 11366",
    "1136c 8 11370 11374 8 11400 11437 0 11438 1143f 8 11440 11441 0 11442 11444 8 11445",
    "11445 0 11446 11446 8 11447 1145b 0 1145d 1145d 0 1145e 1145e 8 1145f 11461 0 11480",
    "114b2 0 114b3 114b8 8 114b9 114b9 0 114ba 114ba 8 114bb 114be 0 114bf 114c0 8 114c1",
    "114c1 0 114c2 114c3 8 114c4 114c7 0 114d0 114d9 0 11580 115b1 0 115b2 115b5 8 115b8",
    "115bb 0 115bc 115bd 8 115be 115be 0 115bf 115c0 8 115c1 115db 0 115dc 115dd 8 11600",
    "11632 0 11633 1163a 8 1163b 1163c 0 1163d 1163d 8 1163e 1163e 0 1163f 11640 8 11641",
    "11644 0 11650 11659 0 11660 1166c d 11680 116aa 0 116ab 116ab 8 116ac 116ac 0 116ad",
    "116ad 8 116ae 116af 0 116b0 116b5 8 116b6 116b6 0 116b7 116b7 8 116b8 116b9 0 116c0",
    "116c9 0 11700 1171a 0 1171d 1171f 8 11720 11721 0 11722 11725 8 11726 11726 0 11727",
    "1172b 8 11730 11746 0 11800 1182e 0 1182f 11837 8 11838 11838 0 11839 1183a 8 1183b",
    "1183b 0 118a0 118f2 0 118ff 11906 0 11909 11909 0 1190c 11913 0 11915 11916 0 11918",
    "11935 0 11937 11938 0 1193b 1193c 8 1193d 1193d 0 1193e 1193e 8 1193f 11942 0 11943",
    "11943 8 11944 11946 0 11950 11959 0 119a0 119a7 0 119aa 119d3 0 119d4 119d7 8 119da",
    "119db 8 119dc 119df 0 119e0 119e0 8 119e1 119e4 0 11a00 11a00 0 11a01 11a06 8 11a07",
    "11a08 0 11a09 11a0a 8 11a0b 11a32 0 11a33 11a38 8 11a39 11a3a 0 11a3b 11a3e 8 11a3f",
    "11a46 0 11a47 11a47 8 11a50 11a50 0 11a51 11a56 8 11a57 11a58 0 11a59 11a5b 8 11a5c",
    "11a89 0 11a8a 11a96 8 11a97 11a97 0 11a98 11a99 8 11a9a 11aa2 0 11ab0 11af8 0 11c00",
    "11c08 0 11c0a 11c2f 0 11c30 11c36 8 11c38 11c3d 8 11c3e 11c45 0 11c50 11c6c 0 11c70",
    "11c8f 0 11c92 11ca7 8 11ca9 11ca9 0 11caa 11cb0 8 11cb1 11cb1 0 11cb2 11cb3 8 11cb4",
    "11cb4 0 11cb5 11cb6 8 11d00 11d06 0 11d08 11d09 0 11d0b 11d30 0 11d31 11d36 8 11d3a",
    "11d3a 8 11d3c 11d3d 8 11d3f 11d45 8 11d46 11d46 0 11d47 11d47 8 11d50 11d59 0 11d60",
    "11d65 0 11d67 11d68 0 11d6a 11d8e 0 11d90 11d91 8 11d93 11d94 0 11d95 11d95 8 11d96",
    "11d96 0 11d97 11d97 8 11d98 11d98 0 11da0 11da9 0 11ee0 11ef2 0 11ef3 11ef4 8 11ef5",
    "11ef8 0 11fb0 11fb0 0 11fc0 11fd4 0 11fd5 11fdc d 11fdd 11fe0 5 11fe1 11ff1 d 11fff",
    "12399 0 12400 1246e 0 12470 12474 0 12480 12543 0 12f90 12ff2 0 13000 1342e 0 13430",
    "13438 0 14400 14646 0 16800 16a38 0 16a40 16a5e 0 16a60 16a69 0 16a6e 16abe 0 16ac0",
    "16ac9 0 16ad0 16aed 0 16af0 16af4 8 16af5 16af5 0 16b00 16b2f 0 16b30 16b36 8 16b37",
    "16b45 0 16b50 16b59 0 16b5b 16b61 0 16b63 16b77 0 16b7d 16b8f 0 16e40 16e9a 0 16f00",
    "16f4a 0 16f4f 16f4f 8 16f50 16f87 0 16f8f 16f92 8 16f93 16f9f 0 16fe0 16fe1 0 16fe2",
    "16fe2 d 16fe3 16fe3 0 16fe4 16fe4 8 16ff0 16ff1 0 17000 187f7 0 18800 18cd5 0 18d00",
    "18d08 0 1aff0 1aff3 0 1aff5 1affb 0 1affd 1affe 0 1b000 1b122 0 1b150 1b152 0 1b164",
    "1b167 0 1b170 1b2fb 0 1bc00 1bc6a 0 1bc70 1bc7c 0 1bc80 1bc88 0 1bc90 1bc99 0 1bc9c",
    "1bc9c 0 1bc9d 1bc9e 8 1bc9f 1bc9f 0 1bca0 1bca3 9 1cf00 1cf2d 8 1cf30 1cf46 8 1cf50",
    "1cfc3 0 1d000 1d0f5 0 1d100 1d126 0 1d129 1d166 0 1d167 1d169 8 1d16a 1d172 0 1d173",
    "1d17a 9 1d17b 1d182 8 1d183 1d184 0 1d185 1d18b 8 1d18c 1d1a9 0 1d1aa 1d1ad 8 1d1ae",
    "1d1e8 0 1d1e9 1d1ea d 1d200 1d241 d 1d242 1d244 8 1d245 1d245 d 1d2e0 1d2f3 0 1d300",
    "1d356 d 1d360 1d378 0 1d400 1d454 0 1d456 1d49c 0 1d49e 1d49f 0 1d4a2 1d4a2 0 1d4a5",
    "1d4a6 0 1d4a9 1d4ac 0 1d4ae 1d4b9 0 1d4bb 1d4bb 0 1d4bd 1d4c3 0 1d4c5 1d505 0 1d507",
    "1d50a 0 1d50d 1d514 0 1d516 1d51c 0 1d51e 1d539 0 1d53b 1d53e 0 1d540 1d544 0 1d546",
    "1d546 0 1d54a 1d550 0 1d552 1d6a5 0 1d6a8 1d6da 0 1d6db 1d6db d 1d6dc 1d714 0 1d715",
    "1d715 d 1d716 1d74e 0 1d74f 1d74f d 1d750 1d788 0 1d789 1d789 d 1d78a 1d7c2 0 1d7c3",
    "1d7c3 d 1d7c4 1d7cb 0 1d7ce 1d7ff 3 1d800 1d9ff 0 1da00 1da36 8 1da37 1da3a 0 1da3b",
    "1da6c 8 1da6d 1da74 0 1da75 1da75 8 1da76 1da83 0 1da84 1da84 8 1da85 1da8b 0 1da9b",
    "1da9f 8 1daa1 1daaf 8 1df00 1df1e 0 1e000 1e006 8 1e008 1e018 8 1e01b 1e021 8 1e023",
    "1e024 8 1e026 1e02a 8 1e100 1e12c 0 1e130 1e136 8 1e137 1e13d 0 1e140 1e149 0 1e14e",
    "1e14f 0 1e290 1e2ad 0 1e2ae 1e2ae 8 1e2c0 1e2eb 0 1e2ec 1e2ef 8 1e2f0 1e2f9 0 1e2ff",
    "1e2ff 5 1e7e0 1e7e6 0 1e7e8 1e7eb 0 1e7ed 1e7ee 0 1e7f0 1e7fe 0 1e800 1e8c4 1 1e8c7",
    "1e8cf 1 1e8d0 1e8d6 8 1e900 1e943 1 1e944 1e94a 8 1e94b 1e94b 1 1e950 1e959 1 1e95e",
    "1e95f 1 1ec71 1ecb4 2 1ed01 1ed3d 2 1ee00 1ee03 2 1ee05 1ee1f 2 1ee21 1ee22 2 1ee24",
    "1ee24 2 1ee27 1ee27 2 1ee29 1ee32 2 1ee34 1ee37 2 1ee39 1ee39 2 1ee3b 1ee3b 2 1ee42",
    "1ee42 2 1ee47 1ee47 2 1ee49 1ee49 2 1ee4b 1ee4b 2 1ee4d 1ee4f 2 1ee51 1ee52 2 1ee54",
    "1ee54 2 1ee57 1ee57 2 1ee59 1ee59 2 1ee5b 1ee5b 2 1ee5d 1ee5d 2 1ee5f 1ee5f 2 1ee61",
    "1ee62 2 1ee64 1ee64 2 1ee67 1ee6a 2 1ee6c 1ee72 2 1ee74 1ee77 2 1ee79 1ee7c 2 1ee7e",
    "1ee7e 2 1ee80 1ee89 2 1ee8b 1ee9b 2 1eea1 1eea3 2 1eea5 1eea9 2 1eeab 1eebb 2 1eef0",
    "1eef1 d 1f000 1f02b d 1f030 1f093 d 1f0a0 1f0ae d 1f0b1 1f0bf d 1f0c1 1f0cf d 1f0d1",
    "1f0f5 d 1f100 1f10a 3 1f10b 1f10f d 1f110 1f12e 0 1f12f 1f12f d 1f130 1f169 0 1f16a",
    "1f16f d 1f170 1f1ac 0 1f1ad 1f1ad d 1f1e6 1f202 0 1f210 1f23b 0 1f240 1f248 0 1f250",
    "1f251 0 1f260 1f265 d 1f300 1f6d7 d 1f6dd 1f6ec d 1f6f0 1f6fc d 1f700 1f773 d 1f780",
    "1f7d8 d 1f7e0 1f7eb d 1f7f0 1f7f0 d 1f800 1f80b d 1f810 1f847 d 1f850 1f859 d 1f860",
    "1f887 d 1f890 1f8ad d 1f8b0 1f8b1 d 1f900 1fa53 d 1fa60 1fa6d d 1fa70 1fa74 d 1fa78",
    "1fa7c d 1fa80 1fa86 d 1fa90 1faac d 1fab0 1faba d 1fac0 1fac5 d 1fad0 1fad9 d 1fae0",
    "1fae7 d 1faf0 1faf6 d 1fb00 1fb92 d 1fb94 1fbca d 1fbf0 1fbf9 3 20000 2a6df 0 2a700",
    "2b738 0 2b740 2b81d 0 2b820 2cea1 0 2ceb0 2ebe0 0 2f800 2fa1d 0 30000 3134a 0 e0001",
    "e0001 9 e0020 e007f 9 e0100 e01ef 8 f0000 ffffd 0 100000 10fffd 0"])

/-- The bidirectional class of a code point, none when it is not assigned. -/
def bidiClass? (n : Nat) : Option BidiClass :=
  (bidiRanges.find? n).bind (fun k => BidiClass.all[k]?)

end CodingAgent.Text
