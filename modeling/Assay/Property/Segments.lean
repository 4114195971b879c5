import Assay.Property.Binary
import Assay.Property.Script

/-!
# Sets for segmentation

The classes by which a text is cut into the characters of its reader, into words and into
sentences. They are composed of categories, scripts and properties. Each class is known by a
long and a short name.
-/

namespace Assay.CharSet

/-- Marks and other signs that only continue a segment. -/
def segmentExtend : CharSet :=
  diff (unions [graphemeExtend, emojiModifier, ofCategories ["Mc"]]) (ofCodes [0x200D])

/-- Signs that precede the base of a segment. -/
def segmentPrepend : CharSet :=
  union prependedConcatenationMark
    (listed [(0xD4E, 0xD4E), (0x111C2, 0x111C3), (0x113D1, 0x113D1), (0x1193F, 0x1193F),
      (0x11941, 0x11941), (0x11A3A, 0x11A3A), (0x11A84, 0x11A89), (0x11D46, 0x11D46),
      (0x11F02, 0x11F02)])

/-- Spacing marks that do not belong to the segment before them. -/
def detachedMarks : CharSet :=
  listed [(0x102B, 0x102C), (0x1038, 0x1038), (0x1062, 0x1064), (0x1067, 0x106D),
    (0x1083, 0x1083), (0x1087, 0x108C), (0x108F, 0x108F), (0x109A, 0x109C), (0x1A61, 0x1A61),
    (0x1A63, 0x1A64), (0xAA7B, 0xAA7B), (0xAA7D, 0xAA7D), (0x11720, 0x11721)]

/-- The syllables that are written without a final consonant: every 28th one. -/
def openSyllables : CharSet := ofCodes ((List.range 399).map fun i => 0xAC00 + 28 * i)

/-- The classes of characters as a reader sees them. -/
def graphemeBreaks : List (List String × CharSet) :=
  let extend := union graphemeExtend emojiModifier
  let unassigned := inter (ofCategories ["Cn"]) defaultIgnorable
  [(["cr"], single '\r'),
   (["lf"], single '\n'),
   (["cn", "control"],
    diff (union (ofCategories ["Cc", "Cf", "Zl", "Zp"]) unassigned)
      (unions [single '\r', single '\n', joinControl, prependedConcatenationMark, extend])),
   (["ex", "extend"], extend),
   (["pp", "prepend"], segmentPrepend),
   (["sm", "spacingmark"],
    diff (union (ofCategories ["Mc"]) (ofCodes [0xE33, 0xEB3])) (union extend detachedMarks)),
   (["ri", "regionalindicator"], regionalIndicator),
   (["zwj"], ofCodes [0x200D]),
   (["l"], listed [(0x1100, 0x115F), (0xA960, 0xA97C)]),
   (["v"], listed [(0x1160, 0x11A7), (0xD7B0, 0xD7C6), (0x16D63, 0x16D63), (0x16D67, 0x16D6A)]),
   (["t"], listed [(0x11A8, 0x11FF), (0xD7CB, 0xD7FB)]),
   (["lv"], openSyllables),
   (["lvt"], diff (range 0xAC00 0xD7A3) openSyllables)]

/-- Katakana, and the signs that are written with it. -/
def katakanaLetters : CharSet :=
  union (ofScript "Kana")
    (listed [(0x3031, 0x3035), (0x309B, 0x309C), (0x30A0, 0x30A0), (0x30FC, 0x30FC),
      (0xFF70, 0xFF70)])

/-- The letters of the script `Hebr`. -/
def hebrewLetters : CharSet := inter (ofScript "Hebr") (ofCategories ["Lo"])

/-- The letters of scripts that are written without blanks between words. -/
def unspacedLetters : CharSet :=
  listed [(0xE01, 0xE33), (0xE40, 0xE46), (0xE81, 0xEB3), (0xEBD, 0xEBD), (0xEC0, 0xEC6),
    (0xEDC, 0xEDF), (0x1000, 0x103F), (0x1050, 0x108E), (0x1780, 0x17B3), (0x17D7, 0x17D7),
    (0x17DC, 0x17DC), (0x1950, 0x19C9), (0x1A20, 0x1A54), (0x1AA7, 0x1AA7), (0xA9E0, 0xA9EF),
    (0xA9FA, 0xA9FE), (0xAA60, 0xAA76), (0xAA7A, 0xAA7A), (0xAA7E, 0xAADF)]

/-- Signs that are no letters and count as such within words. -/
def letterLikeSigns : CharSet :=
  listed [(0x2C2, 0x2C5), (0x2D2, 0x2D7), (0x2DE, 0x2DF), (0x2E5, 0x2EB), (0x2ED, 0x2ED),
    (0x2EF, 0x2FF), (0x55A, 0x55C), (0x55E, 0x55E), (0x58A, 0x58A), (0x5F3, 0x5F3),
    (0x70F, 0x70F), (0xA708, 0xA716), (0xA720, 0xA721), (0xA789, 0xA78A), (0xAB5B, 0xAB5B)]

/-- Format characters that are placed under or over digits. -/
def numberSigns : CharSet := diff prependedConcatenationMark (ofCodes [0x70F])

/-- The classes of characters in words. -/
def wordBreaks : List (List String × CharSet) :=
  let otherScripts := unions [listed ideographicRanges, katakanaLetters, unspacedLetters,
    ofScript "Hira", segmentExtend, hebrewLetters]
  [(["cr"], single '\r'),
   (["lf"], single '\n'),
   (["nl", "newline"], listed [(0xB, 0xC), (0x85, 0x85), (0x2028, 0x2029)]),
   (["extend"], segmentExtend),
   (["zwj"], ofCodes [0x200D]),
   (["ri", "regionalindicator"], regionalIndicator),
   (["fo", "format"],
    diff (ofCategories ["Cf"])
      (unions [ofCodes [0x200B], joinControl, prependedConcatenationMark, segmentExtend])),
   (["ka", "katakana"], katakanaLetters),
   (["hl", "hebrewletter"], hebrewLetters),
   (["le", "aletter"], diff (union alphabetic letterLikeSigns) otherScripts),
   (["sq", "singlequote"], ofCodes [0x27]),
   (["dq", "doublequote"], ofCodes [0x22]),
   (["mb", "midnumlet"],
    listed [(0x2E, 0x2E), (0x2018, 0x2019), (0x2024, 0x2024), (0xFE52, 0xFE52),
      (0xFF07, 0xFF07), (0xFF0E, 0xFF0E)]),
   (["ml", "midletter"],
    listed [(0x3A, 0x3A), (0xB7, 0xB7), (0x387, 0x387), (0x55F, 0x55F), (0x5F4, 0x5F4),
      (0x2027, 0x2027), (0xFE13, 0xFE13), (0xFE55, 0xFE55), (0xFF1A, 0xFF1A)]),
   (["mn", "midnum"],
    listed [(0x2C, 0x2C), (0x3B, 0x3B), (0x37E, 0x37E), (0x589, 0x589), (0x60C, 0x60D),
      (0x66C, 0x66C), (0x7F8, 0x7F8), (0x2044, 0x2044), (0xFE10, 0xFE10), (0xFE14, 0xFE14),
      (0xFE50, 0xFE50), (0xFE54, 0xFE54), (0xFF0C, 0xFF0C), (0xFF1B, 0xFF1B)]),
   (["nu", "numeric"], unions [ofCategories ["Nd"], ofCodes [0x66B], numberSigns]),
   (["ex", "extendnumlet"], union (ofCategories ["Pc"]) (ofCodes [0x202F])),
   (["wsegspace"], diff (ofCategories ["Zs"]) (ofCodes [0xA0, 0x2007, 0x202F]))]

/-- The letters of a script whose two cases are no different in a sentence. -/
def unicameralLetters : CharSet := listed [(0x10D0, 0x10FA), (0x10FD, 0x10FF)]

/-- Letters that may go on a sentence. -/
def sentenceLower : CharSet := diff lowercase (union graphemeExtend unicameralLetters)

/-- Letters that may begin a sentence. -/
def sentenceUpper : CharSet :=
  union (ofCategories ["Lt"]) (diff uppercase (listed [(0x1C90, 0x1CBA), (0x1CBD, 0x1CBF)]))

/-- Full stops, which may also end an abbreviation. -/
def fullStops : CharSet := ofCodes [0x2E, 0x2024, 0xFE52, 0xFF0E]

/-- Quotation marks and ornaments that close a sentence together with brackets. -/
def closingQuotes : CharSet :=
  union (ofCategories ["Pi", "Pf"])
    (listed [(0x22, 0x22), (0x27, 0x27), (0x275B, 0x2760), (0x2E00, 0x2E01), (0x2E06, 0x2E08),
      (0x2E0B, 0x2E0B), (0x1F676, 0x1F678)])

/-- The classes of characters in sentences. -/
def sentenceBreaks : List (List String × CharSet) :=
  let extend := union graphemeExtend (union (ofCategories ["Mc"]) (ofCodes [0x200D]))
  let separators := listed [(0x85, 0x85), (0x2028, 0x2029)]
  [(["cr"], single '\r'),
   (["lf"], single '\n'),
   (["ex", "extend"], extend),
   (["se", "sep"], separators),
   (["fo", "format"],
    diff (ofCategories ["Cf"]) (unions [joinControl, numberSigns, extend])),
   (["sp"], diff (listed blankRanges) (unions [separators, single '\r', single '\n'])),
   (["lo", "lower"], sentenceLower),
   (["up", "upper"], sentenceUpper),
   (["le", "oletter"],
    diff (union alphabetic (ofCodes [0x5F3])) (unions [sentenceLower, sentenceUpper, extend])),
   (["nu", "numeric"], unions [ofCategories ["Nd"], range 0x66B 0x66C, numberSigns]),
   (["at", "aterm"], fullStops),
   (["st", "sterm"], diff sentenceTerminal fullStops),
   (["cl", "close"],
    diff (union (ofCategories ["Ps", "Pe"]) closingQuotes) (union fullStops sentenceTerminal)),
   (["sc", "scontinue"],
    listed [(0x2C, 0x2D), (0x3A, 0x3B), (0x37E, 0x37E), (0x55D, 0x55D), (0x60C, 0x60D),
      (0x7F8, 0x7F8), (0x1802, 0x1802), (0x1808, 0x1808), (0x2013, 0x2014), (0x3001, 0x3001),
      (0xFE10, 0xFE11), (0xFE13, 0xFE14), (0xFE31, 0xFE32), (0xFE50, 0xFE51), (0xFE54, 0xFE55),
      (0xFE58, 0xFE58), (0xFE63, 0xFE63), (0xFF0C, 0xFF0D), (0xFF1A, 0xFF1B),
      (0xFF64, 0xFF64)])]

/-- A class by its name. -/
def breakClass? (classes : List (List String × CharSet)) (name : String) : Option CharSet :=
  (classes.find? fun (names, _) => names.contains name).map (·.2)

end Assay.CharSet
