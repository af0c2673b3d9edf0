import CodingAgent.Text.Ranges

/-!
# Canonical decompositions and compositions

The canonical decomposition mapping of every code point that has one (Unicode 14.0), one
step at a time: a code point stands for one or two code points, each of which may decompose
further. Hangul syllables are left out, as they decompose by arithmetic.

The primary composites are the code points that canonical composition puts back together:
those whose decomposition has two code points and that are not excluded from composition.
-/

namespace CodingAgent.Text

/-- The canonical decompositions, keyed by code point: one or two code points (`0` for none
in the second place). -/
def decompositionTable : KeyTable :=
  KeyTable.ofPacked
  (String.intercalate " " [
    "c0 41 300 c1 41 301 c2 41 302 c3 41 303 c4 41 308 c5 41 30a c7 43 327 c8 45 300 c9",
    "45 301 ca 45 302 cb 45 308 cc 49 300 cd 49 301 ce 49 302 cf 49 308 d1 4e 303 d2 4f",
    "300 d3 4f 301 d4 4f 302 d5 4f 303 d6 4f 308 d9 55 300 da 55 301 db 55 302 dc 55 308",
    "dd 59 301 e0 61 300 e1 61 301 e2 61 302 e3 61 303 e4 61 308 e5 61 30a e7 63 327 e8",
    "65 300 e9 65 301 ea 65 302 eb 65 308 ec 69 300 ed 69 301 ee 69 302 ef 69 308 f1 6e",
    "303 f2 6f 300 f3 6f 301 f4 6f 302 f5 6f 303 f6 6f 308 f9 75 300 fa 75 301 fb 75 302",
    "fc 75 308 fd 79 301 ff 79 308 100 41 304 101 61 304 102 41 306 103 61 306 104 41 328",
    "105 61 328 106 43 301 107 63 301 108 43 302 109 63 302 10a 43 307 10b 63 307 10c 43",
    "30c 10d 63 30c 10e 44 30c 10f 64 30c 112 45 304 113 65 304 114 45 306 115 65 306 116",
    "45 307 117 65 307 118 45 328 119 65 328 11a 45 30c 11b 65 30c 11c 47 302 11d 67 302",
    "11e 47 306 11f 67 306 120 47 307 121 67 307 122 47 327 123 67 327 124 48 302 125 68",
    "302 128 49 303 129 69 303 12a 49 304 12b 69 304 12c 49 306 12d 69 306 12e 49 328 12f",
    "69 328 130 49 307 134 4a 302 135 6a 302 136 4b 327 137 6b 327 139 4c 301 13a 6c 301",
    "13b 4c 327 13c 6c 327 13d 4c 30c 13e 6c 30c 143 4e 301 144 6e 301 145 4e 327 146 6e",
    "327 147 4e 30c 148 6e 30c 14c 4f 304 14d 6f 304 14e 4f 306 14f 6f 306 150 4f 30b 151",
    "6f 30b 154 52 301 155 72 301 156 52 327 157 72 327 158 52 30c 159 72 30c 15a 53 301",
    "15b 73 301 15c 53 302 15d 73 302 15e 53 327 15f 73 327 160 53 30c 161 73 30c 162 54",
    "327 163 74 327 164 54 30c 165 74 30c 168 55 303 169 75 303 16a 55 304 16b 75 304 16c",
    "55 306 16d 75 306 16e 55 30a 16f 75 30a 170 55 30b 171 75 30b 172 55 328 173 75 328",
    "174 57 302 175 77 302 176 59 302 177 79 302 178 59 308 179 5a 301 17a 7a 301 17b 5a",
    "307 17c 7a 307 17d 5a 30c 17e 7a 30c 1a0 4f 31b 1a1 6f 31b 1af 55 31b 1b0 75 31b 1cd",
    "41 30c 1ce 61 30c 1cf 49 30c 1d0 69 30c 1d1 4f 30c 1d2 6f 30c 1d3 55 30c 1d4 75 30c",
    "1d5 dc 304 1d6 fc 304 1d7 dc 301 1d8 fc 301 1d9 dc 30c 1da fc 30c 1db dc 300 1dc fc",
    "300 1de c4 304 1df e4 304 1e0 226 304 1e1 227 304 1e2 c6 304 1e3 e6 304 1e6 47 30c",
    "1e7 67 30c 1e8 4b 30c 1e9 6b 30c 1ea 4f 328 1eb 6f 328 1ec 1ea 304 1ed 1eb 304 1ee",
    "1b7 30c 1ef 292 30c 1f0 6a 30c 1f4 47 301 1f5 67 301 1f8 4e 300 1f9 6e 300 1fa c5",
    "301 1fb e5 301 1fc c6 301 1fd e6 301 1fe d8 301 1ff f8 301 200 41 30f 201 61 30f 202",
    "41 311 203 61 311 204 45 30f 205 65 30f 206 45 311 207 65 311 208 49 30f 209 69 30f",
    "20a 49 311 20b 69 311 20c 4f 30f 20d 6f 30f 20e 4f 311 20f 6f 311 210 52 30f 211 72",
    "30f 212 52 311 213 72 311 214 55 30f 215 75 30f 216 55 311 217 75 311 218 53 326 219",
    "73 326 21a 54 326 21b 74 326 21e 48 30c 21f 68 30c 226 41 307 227 61 307 228 45 327",
    "229 65 327 22a d6 304 22b f6 304 22c d5 304 22d f5 304 22e 4f 307 22f 6f 307 230 22e",
    "304 231 22f 304 232 59 304 233 79 304 340 300 0 341 301 0 343 313 0 344 308 301 374",
    "2b9 0 37e 3b 0 385 a8 301 386 391 301 387 b7 0 388 395 301 389 397 301 38a 399 301",
    "38c 39f 301 38e 3a5 301 38f 3a9 301 390 3ca 301 3aa 399 308 3ab 3a5 308 3ac 3b1 301",
    "3ad 3b5 301 3ae 3b7 301 3af 3b9 301 3b0 3cb 301 3ca 3b9 308 3cb 3c5 308 3cc 3bf 301",
    "3cd 3c5 301 3ce 3c9 301 3d3 3d2 301 3d4 3d2 308 400 415 300 401 415 308 403 413 301",
    "407 406 308 40c 41a 301 40d 418 300 40e 423 306 419 418 306 439 438 306 450 435 300",
    "451 435 308 453 433 301 457 456 308 45c 43a 301 45d 438 300 45e 443 306 476 474 30f",
    "477 475 30f 4c1 416 306 4c2 436 306 4d0 410 306 4d1 430 306 4d2 410 308 4d3 430 308",
    "4d6 415 306 4d7 435 306 4da 4d8 308 4db 4d9 308 4dc 416 308 4dd 436 308 4de 417 308",
    "4df 437 308 4e2 418 304 4e3 438 304 4e4 418 308 4e5 438 308 4e6 41e 308 4e7 43e 308",
    "4ea 4e8 308 4eb 4e9 308 4ec 42d 308 4ed 44d 308 4ee 423 304 4ef 443 304 4f0 423 308",
    "4f1 443 308 4f2 423 30b 4f3 443 30b 4f4 427 308 4f5 447 308 4f8 42b 308 4f9 44b 308",
    "622 627 653 623 627 654 624 648 654 625 627 655 626 64a 654 6c0 6d5 654 6c2 6c1 654",
    "6d3 6d2 654 929 928 93c 931 930 93c 934 933 93c 958 915 93c 959 916 93c 95a 917 93c",
    "95b 91c 93c 95c 921 93c 95d 922 93c 95e 92b 93c 95f 92f 93c 9cb 9c7 9be 9cc 9c7 9d7",
    "9dc 9a1 9bc 9dd 9a2 9bc 9df 9af 9bc a33 a32 a3c a36 a38 a3c a59 a16 a3c a5a a17 a3c",
    "a5b a1c a3c a5e a2b a3c b48 b47 b56 b4b b47 b3e b4c b47 b57 b5c b21 b3c b5d b22 b3c",
    "b94 b92 bd7 bca bc6 bbe bcb bc7 bbe bcc bc6 bd7 c48 c46 c56 cc0 cbf cd5 cc7 cc6 cd5",
    "cc8 cc6 cd6 cca cc6 cc2 ccb cca cd5 d4a d46 d3e d4b d47 d3e d4c d46 d57 dda dd9 dca",
    "ddc dd9 dcf ddd ddc dca dde dd9 ddf f43 f42 fb7 f4d f4c fb7 f52 f51 fb7 f57 f56 fb7",
    "f5c f5b fb7 f69 f40 fb5 f73 f71 f72 f75 f71 f74 f76 fb2 f80 f78 fb3 f80 f81 f71 f80",
    "f93 f92 fb7 f9d f9c fb7 fa2 fa1 fb7 fa7 fa6 fb7 fac fab fb7 fb9 f90 fb5 1026 1025",
    "102e 1b06 1b05 1b35 1b08 1b07 1b35 1b0a 1b09 1b35 1b0c 1b0b 1b35 1b0e 1b0d 1b35 1b12",
    "1b11 1b35 1b3b 1b3a 1b35 1b3d 1b3c 1b35 1b40 1b3e 1b35 1b41 1b3f 1b35 1b43 1b42 1b35",
    "1e00 41 325 1e01 61 325 1e02 42 307 1e03 62 307 1e04 42 323 1e05 62 323 1e06 42 331",
    "1e07 62 331 1e08 c7 301 1e09 e7 301 1e0a 44 307 1e0b 64 307 1e0c 44 323 1e0d 64 323",
    "1e0e 44 331 1e0f 64 331 1e10 44 327 1e11 64 327 1e12 44 32d 1e13 64 32d 1e14 112 300",
    "1e15 113 300 1e16 112 301 1e17 113 301 1e18 45 32d 1e19 65 32d 1e1a 45 330 1e1b 65",
    "330 1e1c 228 306 1e1d 229 306 1e1e 46 307 1e1f 66 307 1e20 47 304 1e21 67 304 1e22",
    "48 307 1e23 68 307 1e24 48 323 1e25 68 323 1e26 48 308 1e27 68 308 1e28 48 327 1e29",
    "68 327 1e2a 48 32e 1e2b 68 32e 1e2c 49 330 1e2d 69 330 1e2e cf 301 1e2f ef 301 1e30",
    "4b 301 1e31 6b 301 1e32 4b 323 1e33 6b 323 1e34 4b 331 1e35 6b 331 1e36 4c 323 1e37",
    "6c 323 1e38 1e36 304 1e39 1e37 304 1e3a 4c 331 1e3b 6c 331 1e3c 4c 32d 1e3d 6c 32d",
    "1e3e 4d 301 1e3f 6d 301 1e40 4d 307 1e41 6d 307 1e42 4d 323 1e43 6d 323 1e44 4e 307",
    "1e45 6e 307 1e46 4e 323 1e47 6e 323 1e48 4e 331 1e49 6e 331 1e4a 4e 32d 1e4b 6e 32d",
    "1e4c d5 301 1e4d f5 301 1e4e d5 308 1e4f f5 308 1e50 14c 300 1e51 14d 300 1e52 14c",
    "301 1e53 14d 301 1e54 50 301 1e55 70 301 1e56 50 307 1e57 70 307 1e58 52 307 1e59 72",
    "307 1e5a 52 323 1e5b 72 323 1e5c 1e5a 304 1e5d 1e5b 304 1e5e 52 331 1e5f 72 331 1e60",
    "53 307 1e61 73 307 1e62 53 323 1e63 73 323 1e64 15a 307 1e65 15b 307 1e66 160 307",
    "1e67 161 307 1e68 1e62 307 1e69 1e63 307 1e6a 54 307 1e6b 74 307 1e6c 54 323 1e6d 74",
    "323 1e6e 54 331 1e6f 74 331 1e70 54 32d 1e71 74 32d 1e72 55 324 1e73 75 324 1e74 55",
    "330 1e75 75 330 1e76 55 32d 1e77 75 32d 1e78 168 301 1e79 169 301 1e7a 16a 308 1e7b",
    "16b 308 1e7c 56 303 1e7d 76 303 1e7e 56 323 1e7f 76 323 1e80 57 300 1e81 77 300 1e82",
    "57 301 1e83 77 301 1e84 57 308 1e85 77 308 1e86 57 307 1e87 77 307 1e88 57 323 1e89",
    "77 323 1e8a 58 307 1e8b 78 307 1e8c 58 308 1e8d 78 308 1e8e 59 307 1e8f 79 307 1e90",
    "5a 302 1e91 7a 302 1e92 5a 323 1e93 7a 323 1e94 5a 331 1e95 7a 331 1e96 68 331 1e97",
    "74 308 1e98 77 30a 1e99 79 30a 1e9b 17f 307 1ea0 41 323 1ea1 61 323 1ea2 41 309 1ea3",
    "61 309 1ea4 c2 301 1ea5 e2 301 1ea6 c2 300 1ea7 e2 300 1ea8 c2 309 1ea9 e2 309 1eaa",
    "c2 303 1eab e2 303 1eac 1ea0 302 1ead 1ea1 302 1eae 102 301 1eaf 103 301 1eb0 102",
    "300 1eb1 103 300 1eb2 102 309 1eb3 103 309 1eb4 102 303 1eb5 103 303 1eb6 1ea0 306",
    "1eb7 1ea1 306 1eb8 45 323 1eb9 65 323 1eba 45 309 1ebb 65 309 1ebc 45 303 1ebd 65",
    "303 1ebe ca 301 1ebf ea 301 1ec0 ca 300 1ec1 ea 300 1ec2 ca 309 1ec3 ea 309 1ec4 ca",
    "303 1ec5 ea 303 1ec6 1eb8 302 1ec7 1eb9 302 1ec8 49 309 1ec9 69 309 1eca 49 323 1ecb",
    "69 323 1ecc 4f 323 1ecd 6f 323 1ece 4f 309 1ecf 6f 309 1ed0 d4 301 1ed1 f4 301 1ed2",
    "d4 300 1ed3 f4 300 1ed4 d4 309 1ed5 f4 309 1ed6 d4 303 1ed7 f4 303 1ed8 1ecc 302",
    "1ed9 1ecd 302 1eda 1a0 301 1edb 1a1 301 1edc 1a0 300 1edd 1a1 300 1ede 1a0 309 1edf",
    "1a1 309 1ee0 1a0 303 1ee1 1a1 303 1ee2 1a0 323 1ee3 1a1 323 1ee4 55 323 1ee5 75 323",
    "1ee6 55 309 1ee7 75 309 1ee8 1af 301 1ee9 1b0 301 1eea 1af 300 1eeb 1b0 300 1eec 1af",
    "309 1eed 1b0 309 1eee 1af 303 1eef 1b0 303 1ef0 1af 323 1ef1 1b0 323 1ef2 59 300",
    "1ef3 79 300 1ef4 59 323 1ef5 79 323 1ef6 59 309 1ef7 79 309 1ef8 59 303 1ef9 79 303",
    "1f00 3b1 313 1f01 3b1 314 1f02 1f00 300 1f03 1f01 300 1f04 1f00 301 1f05 1f01 301",
    "1f06 1f00 342 1f07 1f01 342 1f08 391 313 1f09 391 314 1f0a 1f08 300 1f0b 1f09 300",
    "1f0c 1f08 301 1f0d 1f09 301 1f0e 1f08 342 1f0f 1f09 342 1f10 3b5 313 1f11 3b5 314",
    "1f12 1f10 300 1f13 1f11 300 1f14 1f10 301 1f15 1f11 301 1f18 395 313 1f19 395 314",
    "1f1a 1f18 300 1f1b 1f19 300 1f1c 1f18 301 1f1d 1f19 301 1f20 3b7 313 1f21 3b7 314",
    "1f22 1f20 300 1f23 1f21 300 1f24 1f20 301 1f25 1f21 301 1f26 1f20 342 1f27 1f21 342",
    "1f28 397 313 1f29 397 314 1f2a 1f28 300 1f2b 1f29 300 1f2c 1f28 301 1f2d 1f29 301",
    "1f2e 1f28 342 1f2f 1f29 342 1f30 3b9 313 1f31 3b9 314 1f32 1f30 300 1f33 1f31 300",
    "1f34 1f30 301 1f35 1f31 301 1f36 1f30 342 1f37 1f31 342 1f38 399 313 1f39 399 314",
    "1f3a 1f38 300 1f3b 1f39 300 1f3c 1f38 301 1f3d 1f39 301 1f3e 1f38 342 1f3f 1f39 342",
    "1f40 3bf 313 1f41 3bf 314 1f42 1f40 300 1f43 1f41 300 1f44 1f40 301 1f45 1f41 301",
    "1f48 39f 313 1f49 39f 314 1f4a 1f48 300 1f4b 1f49 300 1f4c 1f48 301 1f4d 1f49 301",
    "1f50 3c5 313 1f51 3c5 314 1f52 1f50 300 1f53 1f51 300 1f54 1f50 301 1f55 1f51 301",
    "1f56 1f50 342 1f57 1f51 342 1f59 3a5 314 1f5b 1f59 300 1f5d 1f59 301 1f5f 1f59 342",
    "1f60 3c9 313 1f61 3c9 314 1f62 1f60 300 1f63 1f61 300 1f64 1f60 301 1f65 1f61 301",
    "1f66 1f60 342 1f67 1f61 342 1f68 3a9 313 1f69 3a9 314 1f6a 1f68 300 1f6b 1f69 300",
    "1f6c 1f68 301 1f6d 1f69 301 1f6e 1f68 342 1f6f 1f69 342 1f70 3b1 300 1f71 3ac 0 1f72",
    "3b5 300 1f73 3ad 0 1f74 3b7 300 1f75 3ae 0 1f76 3b9 300 1f77 3af 0 1f78 3bf 300 1f79",
    "3cc 0 1f7a 3c5 300 1f7b 3cd 0 1f7c 3c9 300 1f7d 3ce 0 1f80 1f00 345 1f81 1f01 345",
    "1f82 1f02 345 1f83 1f03 345 1f84 1f04 345 1f85 1f05 345 1f86 1f06 345 1f87 1f07 345",
    "1f88 1f08 345 1f89 1f09 345 1f8a 1f0a 345 1f8b 1f0b 345 1f8c 1f0c 345 1f8d 1f0d 345",
    "1f8e 1f0e 345 1f8f 1f0f 345 1f90 1f20 345 1f91 1f21 345 1f92 1f22 345 1f93 1f23 345",
    "1f94 1f24 345 1f95 1f25 345 1f96 1f26 345 1f97 1f27 345 1f98 1f28 345 1f99 1f29 345",
    "1f9a 1f2a 345 1f9b 1f2b 345 1f9c 1f2c 345 1f9d 1f2d 345 1f9e 1f2e 345 1f9f 1f2f 345",
    "1fa0 1f60 345 1fa1 1f61 345 1fa2 1f62 345 1fa3 1f63 345 1fa4 1f64 345 1fa5 1f65 345",
    "1fa6 1f66 345 1fa7 1f67 345 1fa8 1f68 345 1fa9 1f69 345 1faa 1f6a 345 1fab 1f6b 345",
    "1fac 1f6c 345 1fad 1f6d 345 1fae 1f6e 345 1faf 1f6f 345 1fb0 3b1 306 1fb1 3b1 304",
    "1fb2 1f70 345 1fb3 3b1 345 1fb4 3ac 345 1fb6 3b1 342 1fb7 1fb6 345 1fb8 391 306 1fb9",
    "391 304 1fba 391 300 1fbb 386 0 1fbc 391 345 1fbe 3b9 0 1fc1 a8 342 1fc2 1f74 345",
    "1fc3 3b7 345 1fc4 3ae 345 1fc6 3b7 342 1fc7 1fc6 345 1fc8 395 300 1fc9 388 0 1fca",
    "397 300 1fcb 389 0 1fcc 397 345 1fcd 1fbf 300 1fce 1fbf 301 1fcf 1fbf 342 1fd0 3b9",
    "306 1fd1 3b9 304 1fd2 3ca 300 1fd3 390 0 1fd6 3b9 342 1fd7 3ca 342 1fd8 399 306 1fd9",
    "399 304 1fda 399 300 1fdb 38a 0 1fdd 1ffe 300 1fde 1ffe 301 1fdf 1ffe 342 1fe0 3c5",
    "306 1fe1 3c5 304 1fe2 3cb 300 1fe3 3b0 0 1fe4 3c1 313 1fe5 3c1 314 1fe6 3c5 342 1fe7",
    "3cb 342 1fe8 3a5 306 1fe9 3a5 304 1fea 3a5 300 1feb 38e 0 1fec 3a1 314 1fed a8 300",
    "1fee 385 0 1fef 60 0 1ff2 1f7c 345 1ff3 3c9 345 1ff4 3ce 345 1ff6 3c9 342 1ff7 1ff6",
    "345 1ff8 39f 300 1ff9 38c 0 1ffa 3a9 300 1ffb 38f 0 1ffc 3a9 345 1ffd b4 0 2000 2002",
    "0 2001 2003 0 2126 3a9 0 212a 4b 0 212b c5 0 219a 2190 338 219b 2192 338 21ae 2194",
    "338 21cd 21d0 338 21ce 21d4 338 21cf 21d2 338 2204 2203 338 2209 2208 338 220c 220b",
    "338 2224 2223 338 2226 2225 338 2241 223c 338 2244 2243 338 2247 2245 338 2249 2248",
    "338 2260 3d 338 2262 2261 338 226d 224d 338 226e 3c 338 226f 3e 338 2270 2264 338",
    "2271 2265 338 2274 2272 338 2275 2273 338 2278 2276 338 2279 2277 338 2280 227a 338",
    "2281 227b 338 2284 2282 338 2285 2283 338 2288 2286 338 2289 2287 338 22ac 22a2 338",
    "22ad 22a8 338 22ae 22a9 338 22af 22ab 338 22e0 227c 338 22e1 227d 338 22e2 2291 338",
    "22e3 2292 338 22ea 22b2 338 22eb 22b3 338 22ec 22b4 338 22ed 22b5 338 2329 3008 0",
    "232a 3009 0 2adc 2add 338 304c 304b 3099 304e 304d 3099 3050 304f 3099 3052 3051",
    "3099 3054 3053 3099 3056 3055 3099 3058 3057 3099 305a 3059 3099 305c 305b 3099 305e",
    "305d 3099 3060 305f 3099 3062 3061 3099 3065 3064 3099 3067 3066 3099 3069 3068 3099",
    "3070 306f 3099 3071 306f 309a 3073 3072 3099 3074 3072 309a 3076 3075 3099 3077 3075",
    "309a 3079 3078 3099 307a 3078 309a 307c 307b 3099 307d 307b 309a 3094 3046 3099 309e",
    "309d 3099 30ac 30ab 3099 30ae 30ad 3099 30b0 30af 3099 30b2 30b1 3099 30b4 30b3 3099",
    "30b6 30b5 3099 30b8 30b7 3099 30ba 30b9 3099 30bc 30bb 3099 30be 30bd 3099 30c0 30bf",
    "3099 30c2 30c1 3099 30c5 30c4 3099 30c7 30c6 3099 30c9 30c8 3099 30d0 30cf 3099 30d1",
    "30cf 309a 30d3 30d2 3099 30d4 30d2 309a 30d6 30d5 3099 30d7 30d5 309a 30d9 30d8 3099",
    "30da 30d8 309a 30dc 30db 3099 30dd 30db 309a 30f4 30a6 3099 30f7 30ef 3099 30f8 30f0",
    "3099 30f9 30f1 3099 30fa 30f2 3099 30fe 30fd 3099 f900 8c48 0 f901 66f4 0 f902 8eca",
    "0 f903 8cc8 0 f904 6ed1 0 f905 4e32 0 f906 53e5 0 f907 9f9c 0 f908 9f9c 0 f909 5951",
    "0 f90a 91d1 0 f90b 5587 0 f90c 5948 0 f90d 61f6 0 f90e 7669 0 f90f 7f85 0 f910 863f",
    "0 f911 87ba 0 f912 88f8 0 f913 908f 0 f914 6a02 0 f915 6d1b 0 f916 70d9 0 f917 73de",
    "0 f918 843d 0 f919 916a 0 f91a 99f1 0 f91b 4e82 0 f91c 5375 0 f91d 6b04 0 f91e 721b",
    "0 f91f 862d 0 f920 9e1e 0 f921 5d50 0 f922 6feb 0 f923 85cd 0 f924 8964 0 f925 62c9",
    "0 f926 81d8 0 f927 881f 0 f928 5eca 0 f929 6717 0 f92a 6d6a 0 f92b 72fc 0 f92c 90ce",
    "0 f92d 4f86 0 f92e 51b7 0 f92f 52de 0 f930 64c4 0 f931 6ad3 0 f932 7210 0 f933 76e7",
    "0 f934 8001 0 f935 8606 0 f936 865c 0 f937 8def 0 f938 9732 0 f939 9b6f 0 f93a 9dfa",
    "0 f93b 788c 0 f93c 797f 0 f93d 7da0 0 f93e 83c9 0 f93f 9304 0 f940 9e7f 0 f941 8ad6",
    "0 f942 58df 0 f943 5f04 0 f944 7c60 0 f945 807e 0 f946 7262 0 f947 78ca 0 f948 8cc2",
    "0 f949 96f7 0 f94a 58d8 0 f94b 5c62 0 f94c 6a13 0 f94d 6dda 0 f94e 6f0f 0 f94f 7d2f",
    "0 f950 7e37 0 f951 964b 0 f952 52d2 0 f953 808b 0 f954 51dc 0 f955 51cc 0 f956 7a1c",
    "0 f957 7dbe 0 f958 83f1 0 f959 9675 0 f95a 8b80 0 f95b 62cf 0 f95c 6a02 0 f95d 8afe",
    "0 f95e 4e39 0 f95f 5be7 0 f960 6012 0 f961 7387 0 f962 7570 0 f963 5317 0 f964 78fb",
    "0 f965 4fbf 0 f966 5fa9 0 f967 4e0d 0 f968 6ccc 0 f969 6578 0 f96a 7d22 0 f96b 53c3",
    "0 f96c 585e 0 f96d 7701 0 f96e 8449 0 f96f 8aaa 0 f970 6bba 0 f971 8fb0 0 f972 6c88",
    "0 f973 62fe 0 f974 82e5 0 f975 63a0 0 f976 7565 0 f977 4eae 0 f978 5169 0 f979 51c9",
    "0 f97a 6881 0 f97b 7ce7 0 f97c 826f 0 f97d 8ad2 0 f97e 91cf 0 f97f 52f5 0 f980 5442",
    "0 f981 5973 0 f982 5eec 0 f983 65c5 0 f984 6ffe 0 f985 792a 0 f986 95ad 0 f987 9a6a",
    "0 f988 9e97 0 f989 9ece 0 f98a 529b 0 f98b 66c6 0 f98c 6b77 0 f98d 8f62 0 f98e 5e74",
    "0 f98f 6190 0 f990 6200 0 f991 649a 0 f992 6f23 0 f993 7149 0 f994 7489 0 f995 79ca",
    "0 f996 7df4 0 f997 806f 0 f998 8f26 0 f999 84ee 0 f99a 9023 0 f99b 934a 0 f99c 5217",
    "0 f99d 52a3 0 f99e 54bd 0 f99f 70c8 0 f9a0 88c2 0 f9a1 8aaa 0 f9a2 5ec9 0 f9a3 5ff5",
    "0 f9a4 637b 0 f9a5 6bae 0 f9a6 7c3e 0 f9a7 7375 0 f9a8 4ee4 0 f9a9 56f9 0 f9aa 5be7",
    "0 f9ab 5dba 0 f9ac 601c 0 f9ad 73b2 0 f9ae 7469 0 f9af 7f9a 0 f9b0 8046 0 f9b1 9234",
    "0 f9b2 96f6 0 f9b3 9748 0 f9b4 9818 0 f9b5 4f8b 0 f9b6 79ae 0 f9b7 91b4 0 f9b8 96b8",
    "0 f9b9 60e1 0 f9ba 4e86 0 f9bb 50da 0 f9bc 5bee 0 f9bd 5c3f 0 f9be 6599 0 f9bf 6a02",
    "0 f9c0 71ce 0 f9c1 7642 0 f9c2 84fc 0 f9c3 907c 0 f9c4 9f8d 0 f9c5 6688 0 f9c6 962e",
    "0 f9c7 5289 0 f9c8 677b 0 f9c9 67f3 0 f9ca 6d41 0 f9cb 6e9c 0 f9cc 7409 0 f9cd 7559",
    "0 f9ce 786b 0 f9cf 7d10 0 f9d0 985e 0 f9d1 516d 0 f9d2 622e 0 f9d3 9678 0 f9d4 502b",
    "0 f9d5 5d19 0 f9d6 6dea 0 f9d7 8f2a 0 f9d8 5f8b 0 f9d9 6144 0 f9da 6817 0 f9db 7387",
    "0 f9dc 9686 0 f9dd 5229 0 f9de 540f 0 f9df 5c65 0 f9e0 6613 0 f9e1 674e 0 f9e2 68a8",
    "0 f9e3 6ce5 0 f9e4 7406 0 f9e5 75e2 0 f9e6 7f79 0 f9e7 88cf 0 f9e8 88e1 0 f9e9 91cc",
    "0 f9ea 96e2 0 f9eb 533f 0 f9ec 6eba 0 f9ed 541d 0 f9ee 71d0 0 f9ef 7498 0 f9f0 85fa",
    "0 f9f1 96a3 0 f9f2 9c57 0 f9f3 9e9f 0 f9f4 6797 0 f9f5 6dcb 0 f9f6 81e8 0 f9f7 7acb",
    "0 f9f8 7b20 0 f9f9 7c92 0 f9fa 72c0 0 f9fb 7099 0 f9fc 8b58 0 f9fd 4ec0 0 f9fe 8336",
    "0 f9ff 523a 0 fa00 5207 0 fa01 5ea6 0 fa02 62d3 0 fa03 7cd6 0 fa04 5b85 0 fa05 6d1e",
    "0 fa06 66b4 0 fa07 8f3b 0 fa08 884c 0 fa09 964d 0 fa0a 898b 0 fa0b 5ed3 0 fa0c 5140",
    "0 fa0d 55c0 0 fa10 585a 0 fa12 6674 0 fa15 51de 0 fa16 732a 0 fa17 76ca 0 fa18 793c",
    "0 fa19 795e 0 fa1a 7965 0 fa1b 798f 0 fa1c 9756 0 fa1d 7cbe 0 fa1e 7fbd 0 fa20 8612",
    "0 fa22 8af8 0 fa25 9038 0 fa26 90fd 0 fa2a 98ef 0 fa2b 98fc 0 fa2c 9928 0 fa2d 9db4",
    "0 fa2e 90de 0 fa2f 96b7 0 fa30 4fae 0 fa31 50e7 0 fa32 514d 0 fa33 52c9 0 fa34 52e4",
    "0 fa35 5351 0 fa36 559d 0 fa37 5606 0 fa38 5668 0 fa39 5840 0 fa3a 58a8 0 fa3b 5c64",
    "0 fa3c 5c6e 0 fa3d 6094 0 fa3e 6168 0 fa3f 618e 0 fa40 61f2 0 fa41 654f 0 fa42 65e2",
    "0 fa43 6691 0 fa44 6885 0 fa45 6d77 0 fa46 6e1a 0 fa47 6f22 0 fa48 716e 0 fa49 722b",
    "0 fa4a 7422 0 fa4b 7891 0 fa4c 793e 0 fa4d 7949 0 fa4e 7948 0 fa4f 7950 0 fa50 7956",
    "0 fa51 795d 0 fa52 798d 0 fa53 798e 0 fa54 7a40 0 fa55 7a81 0 fa56 7bc0 0 fa57 7df4",
    "0 fa58 7e09 0 fa59 7e41 0 fa5a 7f72 0 fa5b 8005 0 fa5c 81ed 0 fa5d 8279 0 fa5e 8279",
    "0 fa5f 8457 0 fa60 8910 0 fa61 8996 0 fa62 8b01 0 fa63 8b39 0 fa64 8cd3 0 fa65 8d08",
    "0 fa66 8fb6 0 fa67 9038 0 fa68 96e3 0 fa69 97ff 0 fa6a 983b 0 fa6b 6075 0 fa6c 242ee",
    "0 fa6d 8218 0 fa70 4e26 0 fa71 51b5 0 fa72 5168 0 fa73 4f80 0 fa74 5145 0 fa75 5180",
    "0 fa76 52c7 0 fa77 52fa 0 fa78 559d 0 fa79 5555 0 fa7a 5599 0 fa7b 55e2 0 fa7c 585a",
    "0 fa7d 58b3 0 fa7e 5944 0 fa7f 5954 0 fa80 5a62 0 fa81 5b28 0 fa82 5ed2 0 fa83 5ed9",
    "0 fa84 5f69 0 fa85 5fad 0 fa86 60d8 0 fa87 614e 0 fa88 6108 0 fa89 618e 0 fa8a 6160",
    "0 fa8b 61f2 0 fa8c 6234 0 fa8d 63c4 0 fa8e 641c 0 fa8f 6452 0 fa90 6556 0 fa91 6674",
    "0 fa92 6717 0 fa93 671b 0 fa94 6756 0 fa95 6b79 0 fa96 6bba 0 fa97 6d41 0 fa98 6edb",
    "0 fa99 6ecb 0 fa9a 6f22 0 fa9b 701e 0 fa9c 716e 0 fa9d 77a7 0 fa9e 7235 0 fa9f 72af",
    "0 faa0 732a 0 faa1 7471 0 faa2 7506 0 faa3 753b 0 faa4 761d 0 faa5 761f 0 faa6 76ca",
    "0 faa7 76db 0 faa8 76f4 0 faa9 774a 0 faaa 7740 0 faab 78cc 0 faac 7ab1 0 faad 7bc0",
    "0 faae 7c7b 0 faaf 7d5b 0 fab0 7df4 0 fab1 7f3e 0 fab2 8005 0 fab3 8352 0 fab4 83ef",
    "0 fab5 8779 0 fab6 8941 0 fab7 8986 0 fab8 8996 0 fab9 8abf 0 faba 8af8 0 fabb 8acb",
    "0 fabc 8b01 0 fabd 8afe 0 fabe 8aed 0 fabf 8b39 0 fac0 8b8a 0 fac1 8d08 0 fac2 8f38",
    "0 fac3 9072 0 fac4 9199 0 fac5 9276 0 fac6 967c 0 fac7 96e3 0 fac8 9756 0 fac9 97db",
    "0 faca 97ff 0 facb 980b 0 facc 983b 0 facd 9b12 0 face 9f9c 0 facf 2284a 0 fad0",
    "22844 0 fad1 233d5 0 fad2 3b9d 0 fad3 4018 0 fad4 4039 0 fad5 25249 0 fad6 25cd0 0",
    "fad7 27ed3 0 fad8 9f43 0 fad9 9f8e 0 fb1d 5d9 5b4 fb1f 5f2 5b7 fb2a 5e9 5c1 fb2b 5e9",
    "5c2 fb2c fb49 5c1 fb2d fb49 5c2 fb2e 5d0 5b7 fb2f 5d0 5b8 fb30 5d0 5bc fb31 5d1 5bc",
    "fb32 5d2 5bc fb33 5d3 5bc fb34 5d4 5bc fb35 5d5 5bc fb36 5d6 5bc fb38 5d8 5bc fb39",
    "5d9 5bc fb3a 5da 5bc fb3b 5db 5bc fb3c 5dc 5bc fb3e 5de 5bc fb40 5e0 5bc fb41 5e1",
    "5bc fb43 5e3 5bc fb44 5e4 5bc fb46 5e6 5bc fb47 5e7 5bc fb48 5e8 5bc fb49 5e9 5bc",
    "fb4a 5ea 5bc fb4b 5d5 5b9 fb4c 5d1 5bf fb4d 5db 5bf fb4e 5e4 5bf 1109a 11099 110ba",
    "1109c 1109b 110ba 110ab 110a5 110ba 1112e 11131 11127 1112f 11132 11127 1134b 11347",
    "1133e 1134c 11347 11357 114bb 114b9 114ba 114bc 114b9 114b0 114be 114b9 114bd 115ba",
    "115b8 115af 115bb 115b9 115af 11938 11935 11930 1d15e 1d157 1d165 1d15f 1d158 1d165",
    "1d160 1d15f 1d16e 1d161 1d15f 1d16f 1d162 1d15f 1d170 1d163 1d15f 1d171 1d164 1d15f",
    "1d172 1d1bb 1d1b9 1d165 1d1bc 1d1ba 1d165 1d1bd 1d1bb 1d16e 1d1be 1d1bc 1d16e 1d1bf",
    "1d1bb 1d16f 1d1c0 1d1bc 1d16f 2f800 4e3d 0 2f801 4e38 0 2f802 4e41 0 2f803 20122 0",
    "2f804 4f60 0 2f805 4fae 0 2f806 4fbb 0 2f807 5002 0 2f808 507a 0 2f809 5099 0 2f80a",
    "50e7 0 2f80b 50cf 0 2f80c 349e 0 2f80d 2063a 0 2f80e 514d 0 2f80f 5154 0 2f810 5164",
    "0 2f811 5177 0 2f812 2051c 0 2f813 34b9 0 2f814 5167 0 2f815 518d 0 2f816 2054b 0",
    "2f817 5197 0 2f818 51a4 0 2f819 4ecc 0 2f81a 51ac 0 2f81b 51b5 0 2f81c 291df 0 2f81d",
    "51f5 0 2f81e 5203 0 2f81f 34df 0 2f820 523b 0 2f821 5246 0 2f822 5272 0 2f823 5277 0",
    "2f824 3515 0 2f825 52c7 0 2f826 52c9 0 2f827 52e4 0 2f828 52fa 0 2f829 5305 0 2f82a",
    "5306 0 2f82b 5317 0 2f82c 5349 0 2f82d 5351 0 2f82e 535a 0 2f82f 5373 0 2f830 537d 0",
    "2f831 537f 0 2f832 537f 0 2f833 537f 0 2f834 20a2c 0 2f835 7070 0 2f836 53ca 0 2f837",
    "53df 0 2f838 20b63 0 2f839 53eb 0 2f83a 53f1 0 2f83b 5406 0 2f83c 549e 0 2f83d 5438",
    "0 2f83e 5448 0 2f83f 5468 0 2f840 54a2 0 2f841 54f6 0 2f842 5510 0 2f843 5553 0",
    "2f844 5563 0 2f845 5584 0 2f846 5584 0 2f847 5599 0 2f848 55ab 0 2f849 55b3 0 2f84a",
    "55c2 0 2f84b 5716 0 2f84c 5606 0 2f84d 5717 0 2f84e 5651 0 2f84f 5674 0 2f850 5207 0",
    "2f851 58ee 0 2f852 57ce 0 2f853 57f4 0 2f854 580d 0 2f855 578b 0 2f856 5832 0 2f857",
    "5831 0 2f858 58ac 0 2f859 214e4 0 2f85a 58f2 0 2f85b 58f7 0 2f85c 5906 0 2f85d 591a",
    "0 2f85e 5922 0 2f85f 5962 0 2f860 216a8 0 2f861 216ea 0 2f862 59ec 0 2f863 5a1b 0",
    "2f864 5a27 0 2f865 59d8 0 2f866 5a66 0 2f867 36ee 0 2f868 36fc 0 2f869 5b08 0 2f86a",
    "5b3e 0 2f86b 5b3e 0 2f86c 219c8 0 2f86d 5bc3 0 2f86e 5bd8 0 2f86f 5be7 0 2f870 5bf3",
    "0 2f871 21b18 0 2f872 5bff 0 2f873 5c06 0 2f874 5f53 0 2f875 5c22 0 2f876 3781 0",
    "2f877 5c60 0 2f878 5c6e 0 2f879 5cc0 0 2f87a 5c8d 0 2f87b 21de4 0 2f87c 5d43 0 2f87d",
    "21de6 0 2f87e 5d6e 0 2f87f 5d6b 0 2f880 5d7c 0 2f881 5de1 0 2f882 5de2 0 2f883 382f",
    "0 2f884 5dfd 0 2f885 5e28 0 2f886 5e3d 0 2f887 5e69 0 2f888 3862 0 2f889 22183 0",
    "2f88a 387c 0 2f88b 5eb0 0 2f88c 5eb3 0 2f88d 5eb6 0 2f88e 5eca 0 2f88f 2a392 0 2f890",
    "5efe 0 2f891 22331 0 2f892 22331 0 2f893 8201 0 2f894 5f22 0 2f895 5f22 0 2f896 38c7",
    "0 2f897 232b8 0 2f898 261da 0 2f899 5f62 0 2f89a 5f6b 0 2f89b 38e3 0 2f89c 5f9a 0",
    "2f89d 5fcd 0 2f89e 5fd7 0 2f89f 5ff9 0 2f8a0 6081 0 2f8a1 393a 0 2f8a2 391c 0 2f8a3",
    "6094 0 2f8a4 226d4 0 2f8a5 60c7 0 2f8a6 6148 0 2f8a7 614c 0 2f8a8 614e 0 2f8a9 614c",
    "0 2f8aa 617a 0 2f8ab 618e 0 2f8ac 61b2 0 2f8ad 61a4 0 2f8ae 61af 0 2f8af 61de 0",
    "2f8b0 61f2 0 2f8b1 61f6 0 2f8b2 6210 0 2f8b3 621b 0 2f8b4 625d 0 2f8b5 62b1 0 2f8b6",
    "62d4 0 2f8b7 6350 0 2f8b8 22b0c 0 2f8b9 633d 0 2f8ba 62fc 0 2f8bb 6368 0 2f8bc 6383",
    "0 2f8bd 63e4 0 2f8be 22bf1 0 2f8bf 6422 0 2f8c0 63c5 0 2f8c1 63a9 0 2f8c2 3a2e 0",
    "2f8c3 6469 0 2f8c4 647e 0 2f8c5 649d 0 2f8c6 6477 0 2f8c7 3a6c 0 2f8c8 654f 0 2f8c9",
    "656c 0 2f8ca 2300a 0 2f8cb 65e3 0 2f8cc 66f8 0 2f8cd 6649 0 2f8ce 3b19 0 2f8cf 6691",
    "0 2f8d0 3b08 0 2f8d1 3ae4 0 2f8d2 5192 0 2f8d3 5195 0 2f8d4 6700 0 2f8d5 669c 0",
    "2f8d6 80ad 0 2f8d7 43d9 0 2f8d8 6717 0 2f8d9 671b 0 2f8da 6721 0 2f8db 675e 0 2f8dc",
    "6753 0 2f8dd 233c3 0 2f8de 3b49 0 2f8df 67fa 0 2f8e0 6785 0 2f8e1 6852 0 2f8e2 6885",
    "0 2f8e3 2346d 0 2f8e4 688e 0 2f8e5 681f 0 2f8e6 6914 0 2f8e7 3b9d 0 2f8e8 6942 0",
    "2f8e9 69a3 0 2f8ea 69ea 0 2f8eb 6aa8 0 2f8ec 236a3 0 2f8ed 6adb 0 2f8ee 3c18 0 2f8ef",
    "6b21 0 2f8f0 238a7 0 2f8f1 6b54 0 2f8f2 3c4e 0 2f8f3 6b72 0 2f8f4 6b9f 0 2f8f5 6bba",
    "0 2f8f6 6bbb 0 2f8f7 23a8d 0 2f8f8 21d0b 0 2f8f9 23afa 0 2f8fa 6c4e 0 2f8fb 23cbc 0",
    "2f8fc 6cbf 0 2f8fd 6ccd 0 2f8fe 6c67 0 2f8ff 6d16 0 2f900 6d3e 0 2f901 6d77 0 2f902",
    "6d41 0 2f903 6d69 0 2f904 6d78 0 2f905 6d85 0 2f906 23d1e 0 2f907 6d34 0 2f908 6e2f",
    "0 2f909 6e6e 0 2f90a 3d33 0 2f90b 6ecb 0 2f90c 6ec7 0 2f90d 23ed1 0 2f90e 6df9 0",
    "2f90f 6f6e 0 2f910 23f5e 0 2f911 23f8e 0 2f912 6fc6 0 2f913 7039 0 2f914 701e 0",
    "2f915 701b 0 2f916 3d96 0 2f917 704a 0 2f918 707d 0 2f919 7077 0 2f91a 70ad 0 2f91b",
    "20525 0 2f91c 7145 0 2f91d 24263 0 2f91e 719c 0 2f91f 243ab 0 2f920 7228 0 2f921",
    "7235 0 2f922 7250 0 2f923 24608 0 2f924 7280 0 2f925 7295 0 2f926 24735 0 2f927",
    "24814 0 2f928 737a 0 2f929 738b 0 2f92a 3eac 0 2f92b 73a5 0 2f92c 3eb8 0 2f92d 3eb8",
    "0 2f92e 7447 0 2f92f 745c 0 2f930 7471 0 2f931 7485 0 2f932 74ca 0 2f933 3f1b 0",
    "2f934 7524 0 2f935 24c36 0 2f936 753e 0 2f937 24c92 0 2f938 7570 0 2f939 2219f 0",
    "2f93a 7610 0 2f93b 24fa1 0 2f93c 24fb8 0 2f93d 25044 0 2f93e 3ffc 0 2f93f 4008 0",
    "2f940 76f4 0 2f941 250f3 0 2f942 250f2 0 2f943 25119 0 2f944 25133 0 2f945 771e 0",
    "2f946 771f 0 2f947 771f 0 2f948 774a 0 2f949 4039 0 2f94a 778b 0 2f94b 4046 0 2f94c",
    "4096 0 2f94d 2541d 0 2f94e 784e 0 2f94f 788c 0 2f950 78cc 0 2f951 40e3 0 2f952 25626",
    "0 2f953 7956 0 2f954 2569a 0 2f955 256c5 0 2f956 798f 0 2f957 79eb 0 2f958 412f 0",
    "2f959 7a40 0 2f95a 7a4a 0 2f95b 7a4f 0 2f95c 2597c 0 2f95d 25aa7 0 2f95e 25aa7 0",
    "2f95f 7aee 0 2f960 4202 0 2f961 25bab 0 2f962 7bc6 0 2f963 7bc9 0 2f964 4227 0 2f965",
    "25c80 0 2f966 7cd2 0 2f967 42a0 0 2f968 7ce8 0 2f969 7ce3 0 2f96a 7d00 0 2f96b 25f86",
    "0 2f96c 7d63 0 2f96d 4301 0 2f96e 7dc7 0 2f96f 7e02 0 2f970 7e45 0 2f971 4334 0",
    "2f972 26228 0 2f973 26247 0 2f974 4359 0 2f975 262d9 0 2f976 7f7a 0 2f977 2633e 0",
    "2f978 7f95 0 2f979 7ffa 0 2f97a 8005 0 2f97b 264da 0 2f97c 26523 0 2f97d 8060 0",
    "2f97e 265a8 0 2f97f 8070 0 2f980 2335f 0 2f981 43d5 0 2f982 80b2 0 2f983 8103 0",
    "2f984 440b 0 2f985 813e 0 2f986 5ab5 0 2f987 267a7 0 2f988 267b5 0 2f989 23393 0",
    "2f98a 2339c 0 2f98b 8201 0 2f98c 8204 0 2f98d 8f9e 0 2f98e 446b 0 2f98f 8291 0 2f990",
    "828b 0 2f991 829d 0 2f992 52b3 0 2f993 82b1 0 2f994 82b3 0 2f995 82bd 0 2f996 82e6 0",
    "2f997 26b3c 0 2f998 82e5 0 2f999 831d 0 2f99a 8363 0 2f99b 83ad 0 2f99c 8323 0 2f99d",
    "83bd 0 2f99e 83e7 0 2f99f 8457 0 2f9a0 8353 0 2f9a1 83ca 0 2f9a2 83cc 0 2f9a3 83dc 0",
    "2f9a4 26c36 0 2f9a5 26d6b 0 2f9a6 26cd5 0 2f9a7 452b 0 2f9a8 84f1 0 2f9a9 84f3 0",
    "2f9aa 8516 0 2f9ab 273ca 0 2f9ac 8564 0 2f9ad 26f2c 0 2f9ae 455d 0 2f9af 4561 0",
    "2f9b0 26fb1 0 2f9b1 270d2 0 2f9b2 456b 0 2f9b3 8650 0 2f9b4 865c 0 2f9b5 8667 0",
    "2f9b6 8669 0 2f9b7 86a9 0 2f9b8 8688 0 2f9b9 870e 0 2f9ba 86e2 0 2f9bb 8779 0 2f9bc",
    "8728 0 2f9bd 876b 0 2f9be 8786 0 2f9bf 45d7 0 2f9c0 87e1 0 2f9c1 8801 0 2f9c2 45f9 0",
    "2f9c3 8860 0 2f9c4 8863 0 2f9c5 27667 0 2f9c6 88d7 0 2f9c7 88de 0 2f9c8 4635 0 2f9c9",
    "88fa 0 2f9ca 34bb 0 2f9cb 278ae 0 2f9cc 27966 0 2f9cd 46be 0 2f9ce 46c7 0 2f9cf 8aa0",
    "0 2f9d0 8aed 0 2f9d1 8b8a 0 2f9d2 8c55 0 2f9d3 27ca8 0 2f9d4 8cab 0 2f9d5 8cc1 0",
    "2f9d6 8d1b 0 2f9d7 8d77 0 2f9d8 27f2f 0 2f9d9 20804 0 2f9da 8dcb 0 2f9db 8dbc 0",
    "2f9dc 8df0 0 2f9dd 208de 0 2f9de 8ed4 0 2f9df 8f38 0 2f9e0 285d2 0 2f9e1 285ed 0",
    "2f9e2 9094 0 2f9e3 90f1 0 2f9e4 9111 0 2f9e5 2872e 0 2f9e6 911b 0 2f9e7 9238 0 2f9e8",
    "92d7 0 2f9e9 92d8 0 2f9ea 927c 0 2f9eb 93f9 0 2f9ec 9415 0 2f9ed 28bfa 0 2f9ee 958b",
    "0 2f9ef 4995 0 2f9f0 95b7 0 2f9f1 28d77 0 2f9f2 49e6 0 2f9f3 96c3 0 2f9f4 5db2 0",
    "2f9f5 9723 0 2f9f6 29145 0 2f9f7 2921a 0 2f9f8 4a6e 0 2f9f9 4a76 0 2f9fa 97e0 0",
    "2f9fb 2940a 0 2f9fc 4ab2 0 2f9fd 29496 0 2f9fe 980b 0 2f9ff 980b 0 2fa00 9829 0",
    "2fa01 295b6 0 2fa02 98e2 0 2fa03 4b33 0 2fa04 9929 0 2fa05 99a7 0 2fa06 99c2 0 2fa07",
    "99fe 0 2fa08 4bce 0 2fa09 29b30 0 2fa0a 9b12 0 2fa0b 9c40 0 2fa0c 9cfd 0 2fa0d 4cce",
    "0 2fa0e 4ced 0 2fa0f 9d67 0 2fa10 2a0ce 0 2fa11 4cf8 0 2fa12 2a105 0 2fa13 2a20e 0",
    "2fa14 2a291 0 2fa15 9ebb 0 2fa16 4d56 0 2fa17 9ef9 0 2fa18 9efe 0 2fa19 9f05 0 2fa1a",
    "9f0f 0 2fa1b 9f16 0 2fa1c 9f3b 0 2fa1d 2a600 0"])

/-- The primary composites, keyed by the two code points they decompose into. -/
def compositionTable : KeyTable :=
  KeyTable.ofPairs
  (String.intercalate " " [
    "3c 338 226e 3d 338 2260 3e 338 226f 41 300 c0 41 301 c1 41 302 c2 41 303 c3 41 304",
    "100 41 306 102 41 307 226 41 308 c4 41 309 1ea2 41 30a c5 41 30c 1cd 41 30f 200 41",
    "311 202 41 323 1ea0 41 325 1e00 41 328 104 42 307 1e02 42 323 1e04 42 331 1e06 43",
    "301 106 43 302 108 43 307 10a 43 30c 10c 43 327 c7 44 307 1e0a 44 30c 10e 44 323",
    "1e0c 44 327 1e10 44 32d 1e12 44 331 1e0e 45 300 c8 45 301 c9 45 302 ca 45 303 1ebc",
    "45 304 112 45 306 114 45 307 116 45 308 cb 45 309 1eba 45 30c 11a 45 30f 204 45 311",
    "206 45 323 1eb8 45 327 228 45 328 118 45 32d 1e18 45 330 1e1a 46 307 1e1e 47 301 1f4",
    "47 302 11c 47 304 1e20 47 306 11e 47 307 120 47 30c 1e6 47 327 122 48 302 124 48 307",
    "1e22 48 308 1e26 48 30c 21e 48 323 1e24 48 327 1e28 48 32e 1e2a 49 300 cc 49 301 cd",
    "49 302 ce 49 303 128 49 304 12a 49 306 12c 49 307 130 49 308 cf 49 309 1ec8 49 30c",
    "1cf 49 30f 208 49 311 20a 49 323 1eca 49 328 12e 49 330 1e2c 4a 302 134 4b 301 1e30",
    "4b 30c 1e8 4b 323 1e32 4b 327 136 4b 331 1e34 4c 301 139 4c 30c 13d 4c 323 1e36 4c",
    "327 13b 4c 32d 1e3c 4c 331 1e3a 4d 301 1e3e 4d 307 1e40 4d 323 1e42 4e 300 1f8 4e",
    "301 143 4e 303 d1 4e 307 1e44 4e 30c 147 4e 323 1e46 4e 327 145 4e 32d 1e4a 4e 331",
    "1e48 4f 300 d2 4f 301 d3 4f 302 d4 4f 303 d5 4f 304 14c 4f 306 14e 4f 307 22e 4f 308",
    "d6 4f 309 1ece 4f 30b 150 4f 30c 1d1 4f 30f 20c 4f 311 20e 4f 31b 1a0 4f 323 1ecc 4f",
    "328 1ea 50 301 1e54 50 307 1e56 52 301 154 52 307 1e58 52 30c 158 52 30f 210 52 311",
    "212 52 323 1e5a 52 327 156 52 331 1e5e 53 301 15a 53 302 15c 53 307 1e60 53 30c 160",
    "53 323 1e62 53 326 218 53 327 15e 54 307 1e6a 54 30c 164 54 323 1e6c 54 326 21a 54",
    "327 162 54 32d 1e70 54 331 1e6e 55 300 d9 55 301 da 55 302 db 55 303 168 55 304 16a",
    "55 306 16c 55 308 dc 55 309 1ee6 55 30a 16e 55 30b 170 55 30c 1d3 55 30f 214 55 311",
    "216 55 31b 1af 55 323 1ee4 55 324 1e72 55 328 172 55 32d 1e76 55 330 1e74 56 303",
    "1e7c 56 323 1e7e 57 300 1e80 57 301 1e82 57 302 174 57 307 1e86 57 308 1e84 57 323",
    "1e88 58 307 1e8a 58 308 1e8c 59 300 1ef2 59 301 dd 59 302 176 59 303 1ef8 59 304 232",
    "59 307 1e8e 59 308 178 59 309 1ef6 59 323 1ef4 5a 301 179 5a 302 1e90 5a 307 17b 5a",
    "30c 17d 5a 323 1e92 5a 331 1e94 61 300 e0 61 301 e1 61 302 e2 61 303 e3 61 304 101",
    "61 306 103 61 307 227 61 308 e4 61 309 1ea3 61 30a e5 61 30c 1ce 61 30f 201 61 311",
    "203 61 323 1ea1 61 325 1e01 61 328 105 62 307 1e03 62 323 1e05 62 331 1e07 63 301",
    "107 63 302 109 63 307 10b 63 30c 10d 63 327 e7 64 307 1e0b 64 30c 10f 64 323 1e0d 64",
    "327 1e11 64 32d 1e13 64 331 1e0f 65 300 e8 65 301 e9 65 302 ea 65 303 1ebd 65 304",
    "113 65 306 115 65 307 117 65 308 eb 65 309 1ebb 65 30c 11b 65 30f 205 65 311 207 65",
    "323 1eb9 65 327 229 65 328 119 65 32d 1e19 65 330 1e1b 66 307 1e1f 67 301 1f5 67 302",
    "11d 67 304 1e21 67 306 11f 67 307 121 67 30c 1e7 67 327 123 68 302 125 68 307 1e23",
    "68 308 1e27 68 30c 21f 68 323 1e25 68 327 1e29 68 32e 1e2b 68 331 1e96 69 300 ec 69",
    "301 ed 69 302 ee 69 303 129 69 304 12b 69 306 12d 69 308 ef 69 309 1ec9 69 30c 1d0",
    "69 30f 209 69 311 20b 69 323 1ecb 69 328 12f 69 330 1e2d 6a 302 135 6a 30c 1f0 6b",
    "301 1e31 6b 30c 1e9 6b 323 1e33 6b 327 137 6b 331 1e35 6c 301 13a 6c 30c 13e 6c 323",
    "1e37 6c 327 13c 6c 32d 1e3d 6c 331 1e3b 6d 301 1e3f 6d 307 1e41 6d 323 1e43 6e 300",
    "1f9 6e 301 144 6e 303 f1 6e 307 1e45 6e 30c 148 6e 323 1e47 6e 327 146 6e 32d 1e4b",
    "6e 331 1e49 6f 300 f2 6f 301 f3 6f 302 f4 6f 303 f5 6f 304 14d 6f 306 14f 6f 307 22f",
    "6f 308 f6 6f 309 1ecf 6f 30b 151 6f 30c 1d2 6f 30f 20d 6f 311 20f 6f 31b 1a1 6f 323",
    "1ecd 6f 328 1eb 70 301 1e55 70 307 1e57 72 301 155 72 307 1e59 72 30c 159 72 30f 211",
    "72 311 213 72 323 1e5b 72 327 157 72 331 1e5f 73 301 15b 73 302 15d 73 307 1e61 73",
    "30c 161 73 323 1e63 73 326 219 73 327 15f 74 307 1e6b 74 308 1e97 74 30c 165 74 323",
    "1e6d 74 326 21b 74 327 163 74 32d 1e71 74 331 1e6f 75 300 f9 75 301 fa 75 302 fb 75",
    "303 169 75 304 16b 75 306 16d 75 308 fc 75 309 1ee7 75 30a 16f 75 30b 171 75 30c 1d4",
    "75 30f 215 75 311 217 75 31b 1b0 75 323 1ee5 75 324 1e73 75 328 173 75 32d 1e77 75",
    "330 1e75 76 303 1e7d 76 323 1e7f 77 300 1e81 77 301 1e83 77 302 175 77 307 1e87 77",
    "308 1e85 77 30a 1e98 77 323 1e89 78 307 1e8b 78 308 1e8d 79 300 1ef3 79 301 fd 79",
    "302 177 79 303 1ef9 79 304 233 79 307 1e8f 79 308 ff 79 309 1ef7 79 30a 1e99 79 323",
    "1ef5 7a 301 17a 7a 302 1e91 7a 307 17c 7a 30c 17e 7a 323 1e93 7a 331 1e95 a8 300",
    "1fed a8 301 385 a8 342 1fc1 c2 300 1ea6 c2 301 1ea4 c2 303 1eaa c2 309 1ea8 c4 304",
    "1de c5 301 1fa c6 301 1fc c6 304 1e2 c7 301 1e08 ca 300 1ec0 ca 301 1ebe ca 303 1ec4",
    "ca 309 1ec2 cf 301 1e2e d4 300 1ed2 d4 301 1ed0 d4 303 1ed6 d4 309 1ed4 d5 301 1e4c",
    "d5 304 22c d5 308 1e4e d6 304 22a d8 301 1fe dc 300 1db dc 301 1d7 dc 304 1d5 dc 30c",
    "1d9 e2 300 1ea7 e2 301 1ea5 e2 303 1eab e2 309 1ea9 e4 304 1df e5 301 1fb e6 301 1fd",
    "e6 304 1e3 e7 301 1e09 ea 300 1ec1 ea 301 1ebf ea 303 1ec5 ea 309 1ec3 ef 301 1e2f",
    "f4 300 1ed3 f4 301 1ed1 f4 303 1ed7 f4 309 1ed5 f5 301 1e4d f5 304 22d f5 308 1e4f",
    "f6 304 22b f8 301 1ff fc 300 1dc fc 301 1d8 fc 304 1d6 fc 30c 1da 102 300 1eb0 102",
    "301 1eae 102 303 1eb4 102 309 1eb2 103 300 1eb1 103 301 1eaf 103 303 1eb5 103 309",
    "1eb3 112 300 1e14 112 301 1e16 113 300 1e15 113 301 1e17 14c 300 1e50 14c 301 1e52",
    "14d 300 1e51 14d 301 1e53 15a 307 1e64 15b 307 1e65 160 307 1e66 161 307 1e67 168",
    "301 1e78 169 301 1e79 16a 308 1e7a 16b 308 1e7b 17f 307 1e9b 1a0 300 1edc 1a0 301",
    "1eda 1a0 303 1ee0 1a0 309 1ede 1a0 323 1ee2 1a1 300 1edd 1a1 301 1edb 1a1 303 1ee1",
    "1a1 309 1edf 1a1 323 1ee3 1af 300 1eea 1af 301 1ee8 1af 303 1eee 1af 309 1eec 1af",
    "323 1ef0 1b0 300 1eeb 1b0 301 1ee9 1b0 303 1eef 1b0 309 1eed 1b0 323 1ef1 1b7 30c",
    "1ee 1ea 304 1ec 1eb 304 1ed 226 304 1e0 227 304 1e1 228 306 1e1c 229 306 1e1d 22e",
    "304 230 22f 304 231 292 30c 1ef 391 300 1fba 391 301 386 391 304 1fb9 391 306 1fb8",
    "391 313 1f08 391 314 1f09 391 345 1fbc 395 300 1fc8 395 301 388 395 313 1f18 395 314",
    "1f19 397 300 1fca 397 301 389 397 313 1f28 397 314 1f29 397 345 1fcc 399 300 1fda",
    "399 301 38a 399 304 1fd9 399 306 1fd8 399 308 3aa 399 313 1f38 399 314 1f39 39f 300",
    "1ff8 39f 301 38c 39f 313 1f48 39f 314 1f49 3a1 314 1fec 3a5 300 1fea 3a5 301 38e 3a5",
    "304 1fe9 3a5 306 1fe8 3a5 308 3ab 3a5 314 1f59 3a9 300 1ffa 3a9 301 38f 3a9 313 1f68",
    "3a9 314 1f69 3a9 345 1ffc 3ac 345 1fb4 3ae 345 1fc4 3b1 300 1f70 3b1 301 3ac 3b1 304",
    "1fb1 3b1 306 1fb0 3b1 313 1f00 3b1 314 1f01 3b1 342 1fb6 3b1 345 1fb3 3b5 300 1f72",
    "3b5 301 3ad 3b5 313 1f10 3b5 314 1f11 3b7 300 1f74 3b7 301 3ae 3b7 313 1f20 3b7 314",
    "1f21 3b7 342 1fc6 3b7 345 1fc3 3b9 300 1f76 3b9 301 3af 3b9 304 1fd1 3b9 306 1fd0",
    "3b9 308 3ca 3b9 313 1f30 3b9 314 1f31 3b9 342 1fd6 3bf 300 1f78 3bf 301 3cc 3bf 313",
    "1f40 3bf 314 1f41 3c1 313 1fe4 3c1 314 1fe5 3c5 300 1f7a 3c5 301 3cd 3c5 304 1fe1",
    "3c5 306 1fe0 3c5 308 3cb 3c5 313 1f50 3c5 314 1f51 3c5 342 1fe6 3c9 300 1f7c 3c9 301",
    "3ce 3c9 313 1f60 3c9 314 1f61 3c9 342 1ff6 3c9 345 1ff3 3ca 300 1fd2 3ca 301 390 3ca",
    "342 1fd7 3cb 300 1fe2 3cb 301 3b0 3cb 342 1fe7 3ce 345 1ff4 3d2 301 3d3 3d2 308 3d4",
    "406 308 407 410 306 4d0 410 308 4d2 413 301 403 415 300 400 415 306 4d6 415 308 401",
    "416 306 4c1 416 308 4dc 417 308 4de 418 300 40d 418 304 4e2 418 306 419 418 308 4e4",
    "41a 301 40c 41e 308 4e6 423 304 4ee 423 306 40e 423 308 4f0 423 30b 4f2 427 308 4f4",
    "42b 308 4f8 42d 308 4ec 430 306 4d1 430 308 4d3 433 301 453 435 300 450 435 306 4d7",
    "435 308 451 436 306 4c2 436 308 4dd 437 308 4df 438 300 45d 438 304 4e3 438 306 439",
    "438 308 4e5 43a 301 45c 43e 308 4e7 443 304 4ef 443 306 45e 443 308 4f1 443 30b 4f3",
    "447 308 4f5 44b 308 4f9 44d 308 4ed 456 308 457 474 30f 476 475 30f 477 4d8 308 4da",
    "4d9 308 4db 4e8 308 4ea 4e9 308 4eb 627 653 622 627 654 623 627 655 625 648 654 624",
    "64a 654 626 6c1 654 6c2 6d2 654 6d3 6d5 654 6c0 928 93c 929 930 93c 931 933 93c 934",
    "9c7 9be 9cb 9c7 9d7 9cc b47 b3e b4b b47 b56 b48 b47 b57 b4c b92 bd7 b94 bc6 bbe bca",
    "bc6 bd7 bcc bc7 bbe bcb c46 c56 c48 cbf cd5 cc0 cc6 cc2 cca cc6 cd5 cc7 cc6 cd6 cc8",
    "cca cd5 ccb d46 d3e d4a d46 d57 d4c d47 d3e d4b dd9 dca dda dd9 dcf ddc dd9 ddf dde",
    "ddc dca ddd 1025 102e 1026 1b05 1b35 1b06 1b07 1b35 1b08 1b09 1b35 1b0a 1b0b 1b35",
    "1b0c 1b0d 1b35 1b0e 1b11 1b35 1b12 1b3a 1b35 1b3b 1b3c 1b35 1b3d 1b3e 1b35 1b40 1b3f",
    "1b35 1b41 1b42 1b35 1b43 1e36 304 1e38 1e37 304 1e39 1e5a 304 1e5c 1e5b 304 1e5d",
    "1e62 307 1e68 1e63 307 1e69 1ea0 302 1eac 1ea0 306 1eb6 1ea1 302 1ead 1ea1 306 1eb7",
    "1eb8 302 1ec6 1eb9 302 1ec7 1ecc 302 1ed8 1ecd 302 1ed9 1f00 300 1f02 1f00 301 1f04",
    "1f00 342 1f06 1f00 345 1f80 1f01 300 1f03 1f01 301 1f05 1f01 342 1f07 1f01 345 1f81",
    "1f02 345 1f82 1f03 345 1f83 1f04 345 1f84 1f05 345 1f85 1f06 345 1f86 1f07 345 1f87",
    "1f08 300 1f0a 1f08 301 1f0c 1f08 342 1f0e 1f08 345 1f88 1f09 300 1f0b 1f09 301 1f0d",
    "1f09 342 1f0f 1f09 345 1f89 1f0a 345 1f8a 1f0b 345 1f8b 1f0c 345 1f8c 1f0d 345 1f8d",
    "1f0e 345 1f8e 1f0f 345 1f8f 1f10 300 1f12 1f10 301 1f14 1f11 300 1f13 1f11 301 1f15",
    "1f18 300 1f1a 1f18 301 1f1c 1f19 300 1f1b 1f19 301 1f1d 1f20 300 1f22 1f20 301 1f24",
    "1f20 342 1f26 1f20 345 1f90 1f21 300 1f23 1f21 301 1f25 1f21 342 1f27 1f21 345 1f91",
    "1f22 345 1f92 1f23 345 1f93 1f24 345 1f94 1f25 345 1f95 1f26 345 1f96 1f27 345 1f97",
    "1f28 300 1f2a 1f28 301 1f2c 1f28 342 1f2e 1f28 345 1f98 1f29 300 1f2b 1f29 301 1f2d",
    "1f29 342 1f2f 1f29 345 1f99 1f2a 345 1f9a 1f2b 345 1f9b 1f2c 345 1f9c 1f2d 345 1f9d",
    "1f2e 345 1f9e 1f2f 345 1f9f 1f30 300 1f32 1f30 301 1f34 1f30 342 1f36 1f31 300 1f33",
    "1f31 301 1f35 1f31 342 1f37 1f38 300 1f3a 1f38 301 1f3c 1f38 342 1f3e 1f39 300 1f3b",
    "1f39 301 1f3d 1f39 342 1f3f 1f40 300 1f42 1f40 301 1f44 1f41 300 1f43 1f41 301 1f45",
    "1f48 300 1f4a 1f48 301 1f4c 1f49 300 1f4b 1f49 301 1f4d 1f50 300 1f52 1f50 301 1f54",
    "1f50 342 1f56 1f51 300 1f53 1f51 301 1f55 1f51 342 1f57 1f59 300 1f5b 1f59 301 1f5d",
    "1f59 342 1f5f 1f60 300 1f62 1f60 301 1f64 1f60 342 1f66 1f60 345 1fa0 1f61 300 1f63",
    "1f61 301 1f65 1f61 342 1f67 1f61 345 1fa1 1f62 345 1fa2 1f63 345 1fa3 1f64 345 1fa4",
    "1f65 345 1fa5 1f66 345 1fa6 1f67 345 1fa7 1f68 300 1f6a 1f68 301 1f6c 1f68 342 1f6e",
    "1f68 345 1fa8 1f69 300 1f6b 1f69 301 1f6d 1f69 342 1f6f 1f69 345 1fa9 1f6a 345 1faa",
    "1f6b 345 1fab 1f6c 345 1fac 1f6d 345 1fad 1f6e 345 1fae 1f6f 345 1faf 1f70 345 1fb2",
    "1f74 345 1fc2 1f7c 345 1ff2 1fb6 345 1fb7 1fbf 300 1fcd 1fbf 301 1fce 1fbf 342 1fcf",
    "1fc6 345 1fc7 1ff6 345 1ff7 1ffe 300 1fdd 1ffe 301 1fde 1ffe 342 1fdf 2190 338 219a",
    "2192 338 219b 2194 338 21ae 21d0 338 21cd 21d2 338 21cf 21d4 338 21ce 2203 338 2204",
    "2208 338 2209 220b 338 220c 2223 338 2224 2225 338 2226 223c 338 2241 2243 338 2244",
    "2245 338 2247 2248 338 2249 224d 338 226d 2261 338 2262 2264 338 2270 2265 338 2271",
    "2272 338 2274 2273 338 2275 2276 338 2278 2277 338 2279 227a 338 2280 227b 338 2281",
    "227c 338 22e0 227d 338 22e1 2282 338 2284 2283 338 2285 2286 338 2288 2287 338 2289",
    "2291 338 22e2 2292 338 22e3 22a2 338 22ac 22a8 338 22ad 22a9 338 22ae 22ab 338 22af",
    "22b2 338 22ea 22b3 338 22eb 22b4 338 22ec 22b5 338 22ed 3046 3099 3094 304b 3099",
    "304c 304d 3099 304e 304f 3099 3050 3051 3099 3052 3053 3099 3054 3055 3099 3056 3057",
    "3099 3058 3059 3099 305a 305b 3099 305c 305d 3099 305e 305f 3099 3060 3061 3099 3062",
    "3064 3099 3065 3066 3099 3067 3068 3099 3069 306f 3099 3070 306f 309a 3071 3072 3099",
    "3073 3072 309a 3074 3075 3099 3076 3075 309a 3077 3078 3099 3079 3078 309a 307a 307b",
    "3099 307c 307b 309a 307d 309d 3099 309e 30a6 3099 30f4 30ab 3099 30ac 30ad 3099 30ae",
    "30af 3099 30b0 30b1 3099 30b2 30b3 3099 30b4 30b5 3099 30b6 30b7 3099 30b8 30b9 3099",
    "30ba 30bb 3099 30bc 30bd 3099 30be 30bf 3099 30c0 30c1 3099 30c2 30c4 3099 30c5 30c6",
    "3099 30c7 30c8 3099 30c9 30cf 3099 30d0 30cf 309a 30d1 30d2 3099 30d3 30d2 309a 30d4",
    "30d5 3099 30d6 30d5 309a 30d7 30d8 3099 30d9 30d8 309a 30da 30db 3099 30dc 30db 309a",
    "30dd 30ef 3099 30f7 30f0 3099 30f8 30f1 3099 30f9 30f2 3099 30fa 30fd 3099 30fe",
    "11099 110ba 1109a 1109b 110ba 1109c 110a5 110ba 110ab 11131 11127 1112e 11132 11127",
    "1112f 11347 1133e 1134b 11347 11357 1134c 114b9 114b0 114bc 114b9 114ba 114bb 114b9",
    "114bd 114be 115b8 115af 115ba 115b9 115af 115bb 11935 11930 11938"])

end CodingAgent.Text
