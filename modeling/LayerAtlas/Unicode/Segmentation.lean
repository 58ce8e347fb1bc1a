import LayerAtlas.Unicode.Property
import LayerAtlas.Unicode.Script

namespace LayerAtlas.Unicode

open CharSet

def classOf? (classes : List (List String × CharSet)) (name : String) : Option CharSet :=
  (classes.find? fun c => c.1.elem name).map Prod.snd

def joiner : CharSet := single 0x200D

/-- Syllables of Hangul without a last consonant come first in each run of 28. -/
def openSyllables : CharSet :=
  ofRanges ((List.range 399).map fun i => (0xAC00 + 28 * i, 0xAC00 + 28 * i))

def closedSyllables : CharSet := (ofRanges [(0xAC00, 0xD7A3)]).diff openSyllables

def vowels : CharSet :=
  ofRanges [(0x1160, 0x11A7), (0x16D63, 0x16D63), (0x16D67, 0x16D6A), (0xD7B0, 0xD7C6)]

def extend : CharSet := (graphemeExtend.union (listed "emojimodifier")).diff joiner

def prepend : CharSet := (listed "prependedconcatenationmark").union (ofRanges
  [(0xD4E, 0xD4E), (0x111C2, 0x111C3), (0x113D1, 0x113D1), (0x1193F, 0x1193F),
    (0x11941, 0x11941),
   (0x11A3A, 0x11A3A), (0x11A84, 0x11A89), (0x11D46, 0x11D46), (0x11F02, 0x11F02)])

def control : CharSet :=
  (((ofCategories ["Zl", "Zp", "Cc", "Cf"]).union
    ((ofCategories ["Cn"]).inter defaultIgnorable)).diff
    (ofRanges [(0xA, 0xA), (0xD, 0xD), (0x200C, 0x200D)])).diff
      ((listed "prependedconcatenationmark").union extend)

def separateMarks : CharSet := ofRanges
  [(0x102B, 0x102C), (0x1038, 0x1038), (0x1062, 0x1064), (0x1067, 0x106D), (0x1083, 0x1083),
   (0x1087, 0x108C), (0x108F, 0x108F), (0x109A, 0x109C), (0x1A61, 0x1A61), (0x1A63, 0x1A64),
   (0xAA7B, 0xAA7B), (0xAA7D, 0xAA7D), (0x11720, 0x11721)]

def spacingMark : CharSet :=
  (((ofCategories ["Mc"]).union (ofRanges [(0xE33, 0xE33), (0xEB3, 0xEB3)])).diff extend).diff
    (separateMarks.union vowels)

def graphemeBreak? : String → Option CharSet := classOf? [
  (["cr"], single 0xD),
  (["lf"], single 0xA),
  (["cn", "control"], control),
  (["ex", "extend"], extend),
  (["l"], ofRanges [(0x1100, 0x115F), (0xA960, 0xA97C)]),
  (["v"], vowels),
  (["t"], ofRanges [(0x11A8, 0x11FF), (0xD7CB, 0xD7FB)]),
  (["lv"], openSyllables),
  (["lvt"], closedSyllables),
  (["pp", "prepend"], prepend),
  (["ri", "regionalindicator"], listed "regionalindicator"),
  (["sm", "spacingmark"], spacingMark),
  (["zwj"], joiner)]

def wordExtend : CharSet := extend.union (ofCategories ["Mc"])

def numberSigns : CharSet := ofRanges
  [(0x600, 0x605), (0x6DD, 0x6DD), (0x890, 0x891), (0x8E2, 0x8E2), (0x19DA, 0x19DA),
   (0x110BD, 0x110BD), (0x110CD, 0x110CD)]

def wordLetters : CharSet :=
  ((alphabetic.diff (listed "ideographic")).diff wordExtend).symmDiff (readSet
  [ "bbEDMFGBFGBABQxECBAbRAcRbAEEkXAcqJbVBBMGcGBBABEBXBABJBBJACEBAVDlCbQUAQFEDDADBHCEMMAcqJbZb",
    "JAEAoHbDCELbREZdIcAdEAieBELdHGCBdLBDjGPbsiIOJBdZBwZEBJKEdTWDADbXBADBCECABAYCeVAbefHABJBMB",
    "EBABBBBBJboGcDiwGbAbLGcfvDDBGBBBlEPAbDCCAOD" ])

def wordFormat : CharSet :=
  (ofCategories ["Cf"]).diff ((numberSigns.union wordExtend).union
    (ofRanges [(0x70F, 0x70F), (0x200B, 0x200D)]))

def wordBreak? : String → Option CharSet := classOf? [
  (["cr"], single 0xD),
  (["lf"], single 0xA),
  (["nl", "newline"], ofRanges [(0xB, 0xC), (0x85, 0x85), (0x2028, 0x2029)]),
  (["extend"], wordExtend),
  (["zwj"], joiner),
  (["ri", "regionalindicator"], listed "regionalindicator"),
  (["fo", "format"], wordFormat),
  (["ka", "katakana"], ofRanges [
    (0x3031, 0x3035), (0x309B, 0x309C), (0x30A0, 0x30FA), (0x30FC, 0x30FF), (0x31F0, 0x31FF),
    (0x32D0, 0x32FE), (0x3300, 0x3357), (0xFF66, 0xFF9D), (0x1AFF0, 0x1AFF3),
    (0x1AFF5, 0x1AFFB), (0x1AFFD, 0x1AFFE), (0x1B000, 0x1B000), (0x1B120, 0x1B122),
    (0x1B155, 0x1B155), (0x1B164, 0x1B167)]),
  (["hl", "hebrewletter"], ofRanges [
    (0x5D0, 0x5EA), (0x5EF, 0x5F2), (0xFB1D, 0xFB1D), (0xFB1F, 0xFB28), (0xFB2A, 0xFB36),
    (0xFB38, 0xFB3C), (0xFB3E, 0xFB3E), (0xFB40, 0xFB41), (0xFB43, 0xFB44), (0xFB46, 0xFB4F)]),
  (["le", "aletter"], wordLetters),
  (["sq", "singlequote"], single 0x27),
  (["dq", "doublequote"], single 0x22),
  (["mb", "midnumlet"], ofRanges [
    (0x2E, 0x2E), (0x2018, 0x2019), (0x2024, 0x2024), (0xFE52, 0xFE52), (0xFF07, 0xFF07),
    (0xFF0E, 0xFF0E)]),
  (["ml", "midletter"], ofRanges [
    (0x3A, 0x3A), (0xB7, 0xB7), (0x387, 0x387), (0x55F, 0x55F), (0x5F4, 0x5F4),
    (0x2027, 0x2027), (0xFE13, 0xFE13), (0xFE55, 0xFE55), (0xFF1A, 0xFF1A)]),
  (["mn", "midnum"], ofRanges [
    (0x2C, 0x2C), (0x3B, 0x3B), (0x37E, 0x37E), (0x589, 0x589), (0x60C, 0x60D), (0x66C, 0x66C),
    (0x7F8, 0x7F8), (0x2044, 0x2044), (0xFE50, 0xFE50), (0xFE54, 0xFE54), (0xFF0C, 0xFF0C),
    (0xFF1B, 0xFF1B)]),
  (["nu", "numeric"], ((ofCategories ["Nd"]).union numberSigns).union (single 0x66B)),
  (["ex", "extendnumlet"], (ofCategories ["Pc"]).union (single 0x202F)),
  (["wsegspace"], ofRanges [
    (0x20, 0x20), (0x1680, 0x1680), (0x2000, 0x2006), (0x2008, 0x200A), (0x205F, 0x205F),
    (0x3000, 0x3000)])]

def sentenceExtend : CharSet := (graphemeExtend.union (ofCategories ["Mc"])).union joiner

def sentenceLower : CharSet :=
  (lowercase.diff sentenceExtend).diff (ofRanges [(0x10D0, 0x10FA), (0x10FD, 0x10FF)])

def sentenceUpper : CharSet :=
  (uppercase.union (ofCategories ["Lt"])).diff (ofRanges [(0x1C90, 0x1CBA), (0x1CBD, 0x1CBF)])

def sentenceLetters : CharSet :=
  (((alphabetic.diff sentenceLower).diff sentenceUpper).diff sentenceExtend).union
    (single 0x5F3)

def points : CharSet :=
  ofRanges [(0x2E, 0x2E), (0x2024, 0x2024), (0xFE52, 0xFE52), (0xFF0E, 0xFF0E)]

def sentenceBreak? : String → Option CharSet := classOf? [
  (["cr"], single 0xD),
  (["lf"], single 0xA),
  (["ex", "extend"], sentenceExtend),
  (["se", "sep"], ofRanges [(0x85, 0x85), (0x2028, 0x2029)]),
  (["fo", "format"],
    (ofCategories ["Cf"]).diff ((numberSigns.union sentenceExtend).union (single 0x200C))),
  (["sp"],
    (listed "whitespace").diff
    (ofRanges [(0xA, 0xA), (0xD, 0xD), (0x85, 0x85), (0x2028, 0x2029)])),
  (["lo", "lower"], sentenceLower),
  (["up", "upper"], sentenceUpper),
  (["le", "oletter"], sentenceLetters),
  (["nu", "numeric"],
    ((ofCategories ["Nd"]).union numberSigns).union (ofRanges [(0x66B, 0x66C)])),
  (["at", "aterm"], points),
  (["sc", "scontinue"], ofRanges [
    (0x2C, 0x2D), (0x3A, 0x3B), (0x37E, 0x37E), (0x55D, 0x55D), (0x60C, 0x60D), (0x7F8, 0x7F8),
    (0x1802, 0x1802), (0x1808, 0x1808), (0x2013, 0x2014), (0x3001, 0x3001), (0xFE10, 0xFE11),
    (0xFE13, 0xFE14), (0xFE31, 0xFE32), (0xFE50, 0xFE51), (0xFE54, 0xFE55), (0xFE58, 0xFE58),
    (0xFE63, 0xFE63), (0xFF0C, 0xFF0D), (0xFF1A, 0xFF1B), (0xFF64, 0xFF64)]),
  (["st", "sterm"], (listed "sentenceterminal").diff points),
  (["cl", "close"], (ofCategories ["Ps", "Pe", "Pi", "Pf"]).union (ofRanges [
    (0x22, 0x22), (0x27, 0x27), (0x275B, 0x2760), (0x2E00, 0x2E01), (0x2E06, 0x2E08),
    (0x2E0B, 0x2E0B), (0x1F676, 0x1F678)]))]

end LayerAtlas.Unicode
