/-!
# Direction and joining of characters

The bidirectional classes that matter for the names of domains, and the joining
types of cursive scripts.  A row alternates numbers of code points to skip and to
take, less one, in hexadecimal.  A character that stands in no row runs from left
to right, and joins nothing.
-/

namespace AgentTool
namespace Unicode

/-- The bidirectional classes other than left-to-right. -/
def directionRows : List (String × String) := [
  ("R",
    "590 0 2d 0 1 0 2 0 2 0 1 37 1c0 2a 9 1 4 2 1 17 4 0 9 0 3 0 5 2a 3 3 17af 0 db0d 0 1 9 1 25
    cb0 11e 1 e0 3 0 2 4 4 27 3 3 1 a4 2 51 7 1bf 40 11f 1f 2b 2 12 40 2f 40 11 4 79 d800 cf 7 6c
    7 324 50 3f 50 af 100 ff"),
  ("AL",
    "608 0 2 0 1 0 d 2f 22 2 1 64 f 1 7 1 a 16 1 1d 1b 5a b e a0 2f 2 5 8 29 f286 1ed 12 7e 21 c 73
    8e e01 23 4 7 a 5 180 3c 33 15 b 1e dd00 4f 40 4f b0 ef 2 d"),
  ("AN",
    "600 5 5a 9 1 1 70 0 1b2 1 50 0 1044d 9 126 1e"),
  ("EN",
    "30 9 78 1 5 0 636 9 1976 0 3 5 6 9 3fe 13 da74 9 3c7 1a d4d2 31 1900 a ae5 9"),
  ("ES",
    "2b 0 1 0 204c 1 e 1 186 0 d916 0 338 1 a7 0 1 0"),
  ("CS",
    "2c 0 1 1 a 0 65 0 56b 0 1a22 0 14 0 de0b 0 1 0 2 0 b6 0 1 1 a 0"),
  ("ET",
    "23 2 7c 3 a 1 4dd 0 79 1 5f 0 387 1 7 0 f5 0 107 0 245 0 99b 0 854 4 6b 2f 5e 0 e4 0 8624 1
    5625 0 9 1 98 2 da 1 3 1 1ff6 3 c31e 0"),
  ("ON",
    "21 1 3 4 10 5 1a 5 1a 3 22 0 4 3 1 1 1 1 4 0 1 2 2 4 17 0 1f 0 1c1 1 7 d 2 d 5 8 1 10 74 1 8 0
    5 1 1 0 6e 0 193 0 2 1 77 1 6 1 ce 0 a 0 10c 3 3f9 5 1 0 7d 6 2bb 3 452 9 66 0 29a 1 153 9 6 a
    135 0 3 1 98 21 5bd 0 1 2 b 2 d 2 d 2 d 1 11 17 d e 1 19 1d 2 d 2 71 1 1 3 1 1 a 0 1 2 5 5 1 0
    1 0 1 0 10 1 4 4 5 3 2 f 29 2 4 81 2 121 45 19 1 90 19 a 15 27 62 1c1 1 152 100 273 2 1f 1 68
    e5 5 e 6 100 5d 22 19 1 58 c d5 1a b 5 3 3 18 f 0 5 1 5 2 5b 1 3 0 5a 0 c4 23 39 1 31 f 1c 2
    32 e c 3 a7 3 63 1 1f 0 19c0 3f 5690 36 146 2 63 0 a 1 80 21 66 0 9f 3 48 3 2f2 1 51d2 11 7f 0
    2d 2 10 9 16 1f 1 0 2 0 1 8 1 1 2 2 1 0 2 0 95 1 3 4 10 5 1a 5 1a a 7c 2 3 6 a 4 103 0 3e 4c 3
    c 3 0 77e 0 219 6 512 13 5fa c 968 7 4 10 4ff0 0 6206 1 15 41 3 0 ba 56 384 0 39 0 39 0 39 0
    39 0 172c 1 10e 2b 4 63 c e 2 e 1 e 1 24 15 4 1f 0 3a 5 3d 0 b2 5 9a 3d7 4 10 3 c 3 76 4 5e 6
    b 4 0 f b 4 37 8 9 6 27 8 1d 2 1 4e 153 c d 2 c 3 8 7 2d 1 6 8 d 4 8 7 8 7 92 1 36"),
  ("BN",
    "0 8 5 d 63 5 1 19 d 0 1760 0 7fc 2 52 5 4 5 dd60 1f 10f 0 f0 8 5 1 bca0 3 14cf 7 2e83 1 fffe 1
    fffe 1 fffe 1 fffe 1 fffe 1 fffe 1 fffe 1 fffe 1 fffe 1 fffe 1 fffe 1 fffe 101 f0 e0f effe 1
    fffe 1 fffe 1"),
  ("NSM",
    "300 6f 113 6 107 2c 1 0 1 1 1 1 1 0 48 a 30 14 10 0 65 6 2 5 2 1 1 3 23 0 1e 1a 5b a 3a 8 9 0
    18 3 1 8 1 2 1 4 2b 2 3c 7 2a 17 1 1f 37 0 1 0 4 7 4 0 3 6 a 1 1d 0 3a 0 4 3 8 0 14 1 1a 0 2 1
    39 0 4 1 4 1 2 2 3 0 1e 1 3 0 b 1 39 0 4 4 1 1 4 0 14 1 16 5 1 0 3a 0 2 0 1 3 8 0 7 1 b 1 1e 0
    3d 0 c 0 32 0 3 0 37 0 1 2 5 2 1 3 7 1 b 1 1d 0 3a 0 f 1 14 1 1c 1 39 1 4 3 8 0 14 1 1d 0 48 0
    7 2 1 0 5a 0 2 6 c 7 62 0 2 8 b 6 49 1 1b 0 1 0 1 0 37 d 1 4 1 1 5 a 1 23 9 0 66 3 1 5 1 1 2 1
    19 1 4 2 10 3 d 0 2 1 6 0 f 0 2bf 2 3b2 2 1d 1 1e 1 1e 1 40 1 1 6 8 0 2 a 9 0 2d 2 1 0 75 1 22
    0 76 2 4 1 9 0 6 2 db 1 2 0 3a 0 1 6 1 0 1 0 2 7 6 9 2 0 30 1e 31 3 30 0 1 4 1 0 5 0 28 8 c 1
    20 3 2 1 1 2 38 0 1 1 3 0 1 2 3a 7 2 1 98 2 1 c 1 6 4 0 6 0 3 1 c6 3f 2d0 20 bfe 2 8d 0 60 1f
    22a 3 6b 1 75d4 3 1 9 20 1 50 1 110 0 3 0 4 0 19 1 5 0 97 1 1a 11 d 0 26 7 19 a 2e 2 30 0 2 3
    2 1 27 0 43 5 2 1 2 1 c 0 8 0 2f 0 33 0 1 2 2 1 5 1 1 0 2a 1 8 0 ee 0 2 0 4 0 4f30 0 2e1 f 10
    f 3cd 0 e2 0 95 4 686 2 1 1 5 3 28 2 4 0 a5 1 23d 3 183 1 50 2 46 a 31 3 7b 0 36 e 29 0 2 1 a
    2 31 3 2 1 7 0 3d 2 24 4 1 7 3e 0 c 1 34 8 a 3 2 0 5f 2 2 0 1 1 6 0 2 0 9d 0 3 7 15 1 39 1 3 0
    25 6 3 4 c3 7 2 2 1 0 17 0 54 5 1 0 4 1 1 1 ee 3 6 1 1 1 1b 1 55 7 2 0 1 1 6a 0 1 0 2 5 1 0 65
    2 2 3 1 4 103 8 1 1 100 1 1 0 4 0 90 3 2 1 4 0 20 5 2 1 28 5 2 3 8 0 9 5 2 2 2e c 1 1 196 6 1
    5 54 15 2 6 1 1 1 1 7a 5 3 0 1 1 1 6 1 0 48 1 3 0 1 0 15b 1 b 1 34 4 5 0 1 0 14fd 0 6 e 369a 4
    3b 6 418 0 3f 3 51 0 4cb8 1 1261 2d 2 16 220 2 11 7 2 6 1e 3 94 2 7bb 36 4 31 8 0 e 0 16 4 1 e
    550 6 1 10 2 6 1 1 1 4 64 0 a0 6 177 0 3d 3 1fc 3 3e0 6 6d 6 c17b5 ef")]

/-- The joining types: left, right, dual and transparent. -/
def joiningRows : List (String × String) := [
  ("L",
    "a872 0 625a 0 9 0 228 0 2ca 0"),
  ("R",
    "622 3 1 0 1 0 5 3 15 0 28 2 1 2 10 11 26 0 2 8 1 0 1 0 2 1 1 0 18 1 20 0 4 4 4 0 9 0 1 0 1 0 2
    0 1d 0 b 2 f 1 4 0 1 1 3 1 c6 0 5 1 1 0 a 0 1 2 e 0 1 1 5 12 b 0 1b 2 1 0 2 1 6 0 1020b 0 1 0
    1 1 3 4 a 0 3 0 2 0 a 0 91 0 1 2 3 0 2 0 1 1 1 0 17 3 175 0 210 0 20 0 1f 1 3e 2 2 1 2 0 4 1 5
    0"),
  ("D",
    "620 0 5 0 1 0 1 4 4 c 1 6 1 1 23 1 8 f 12 25 1 1 9 0 1 0 1 1 28 2 2 0 12 2 5 3 1 8 1 0 1 0 1 1
    1f a 3 e 2 3 1 0 2 2 2 5 4a 20 56 4 2 0 1 9 1 0 a 0 1 3 2 0 1d 0 2 4 12 9 5 1 2 5 1 e f3e 0 18
    58 e 21 1 0 8f95 31 624e 4 e 3 1 4 1 2 a 3 91 0 1 0 3 2 1 1 1 0 2 0 1c 1 152 20 1 0 20c 2 1 10
    c 2 1c 3 2 b 2e 0 1 1 4 0 2 1 1 1 1 0 2 0 5 0 d935 43"),
  ("T",
    "ad 0 252 6f 113 6 107 2c 1 0 1 1 1 1 1 0 48 a 1 0 2e 14 10 0 65 6 2 5 2 1 1 3 21 0 1 0 1e 1a
    5b a 3a 8 9 0 18 3 1 8 1 2 1 4 2b 2 3c 7 2a 17 1 1f 37 0 1 0 4 7 4 0 3 6 a 1 1d 0 3a 0 4 3 8 0
    14 1 1a 0 2 1 39 0 4 1 4 1 2 2 3 0 1e 1 3 0 b 1 39 0 4 4 1 1 4 0 14 1 16 5 1 0 3a 0 2 0 1 3 8
    0 7 1 b 1 1e 0 3d 0 c 0 32 0 3 0 37 0 1 2 5 2 1 3 7 1 b 1 1d 0 3a 0 2 0 6 0 5 1 14 1 1c 1 39 1
    4 3 8 0 14 1 1d 0 48 0 7 2 1 0 5a 0 2 6 c 7 62 0 2 8 b 6 49 1 1b 0 1 0 1 0 37 d 1 4 1 1 5 a 1
    23 9 0 66 3 1 5 1 1 2 1 19 1 4 2 10 3 d 0 2 1 6 0 f 0 2bf 2 3b2 2 1d 1 1e 1 1e 1 40 1 1 6 8 0
    2 a 9 0 2d 2 1 0 75 1 22 0 76 2 4 1 9 0 6 2 db 1 2 0 3a 0 1 6 1 0 1 0 2 7 6 9 2 0 30 1e 31 3
    30 0 1 4 1 0 5 0 28 8 c 1 20 3 2 1 1 2 38 0 1 1 3 0 1 2 3a 7 2 1 98 2 1 c 1 6 4 0 6 0 3 1 c6
    3f 20b 0 2 1 1a 4 31 4 5 5 60 20 bfe 2 8d 0 60 1f 22a 3 6b 1 75d4 3 1 9 20 1 50 1 110 0 3 0 4
    0 19 1 5 0 97 1 1a 11 d 0 26 7 19 a 2e 2 30 0 2 3 2 1 27 0 43 5 2 1 2 1 c 0 8 0 2f 0 33 0 1 2
    2 1 5 1 1 0 2a 1 8 0 ee 0 2 0 4 0 4f30 0 2e1 f 10 f cf 0 f9 2 201 0 e2 0 95 4 686 2 1 1 5 3 28
    2 4 0 a5 1 23d 3 183 1 50 2 46 a 31 3 7b 0 36 e 29 0 2 1 a 2 31 3 2 1 7 0 3d 2 24 4 1 7 3e 0 c
    1 34 8 a 3 2 0 5f 2 2 0 1 1 6 0 2 0 9d 0 3 7 15 1 39 1 3 0 25 6 3 4 c3 7 2 2 1 0 17 0 54 5 1 0
    4 1 1 1 ee 3 6 1 1 1 1b 1 55 7 2 0 1 1 6a 0 1 0 2 5 1 0 65 2 2 3 1 4 103 8 1 1 100 1 1 0 4 0
    90 3 2 1 4 0 20 9 28 5 2 3 8 0 9 5 2 2 2e c 1 1 196 6 1 5 1 0 52 15 2 6 1 1 1 1 7a 5 3 0 1 1 1
    6 1 0 48 1 3 0 1 0 15b 1 b 1 34 4 5 0 1 0 14ed 10 6 e 369a 4 3b 6 418 0 3f 3 51 0 4cb8 1 1 3
    125c 2d 2 16 220 2 9 f 2 6 1e 3 94 2 7bb 36 4 31 8 0 e 0 16 4 1 e 550 6 1 10 2 6 1 1 1 4 64 0
    a0 6 177 0 3d 3 1fc 3 3e0 6 6d 7 c16b5 0 1e 5f 80 ef")]

end Unicode
end AgentTool
