import Assay.Property.Category
import Assay.Property.BinaryTable

/-!
# Binary properties

A binary property holds of a character or not. Some are listed, and others are composed of
categories and of listed properties: a character is alphabetic if it is a letter or a number
of letters, or if it is listed beside them. Each property has a long name, and most have a
short one.
-/

namespace Assay.CharSet

/-- The characters for which the runs of some lines say that a property holds. -/
def ofLines (lines : List String) : CharSet :=
  listed (Run.rangesWhere (· = "Y") 0 (Run.ofLines lines))

/-- The characters with some of the given code points. -/
def ofCodes (codes : List Nat) : CharSet := listed (codes.map fun n => (n, n))

/-- Small letters, by category or by use. -/
def lowercase : CharSet := union (ofCategories ["Ll"]) (listed otherLowercaseRanges)

/-- Capital letters, by category or by use. -/
def uppercase : CharSet := union (ofCategories ["Lu"]) (listed otherUppercaseRanges)

/-- Letters of either case, and those with a form for titles. -/
def cased : CharSet := unions [lowercase, uppercase, ofCategories ["Lt"]]

/-- Letters, numbers of letters, and the marks that spell vowels. -/
def alphabetic : CharSet :=
  unions [lowercase, uppercase, ofCategories ["Lt", "Lm", "Lo", "Nl"],
    ofLines otherAlphabeticLines]

/-- Mathematical characters. -/
def math : CharSet := union (ofCategories ["Sm"]) (ofLines otherMathLines)

/-- The marks of punctuation that may stand within a word. -/
def innerPunctuation : CharSet :=
  listed [(0x27, 0x27), (0x2E, 0x2E), (0x3A, 0x3A), (0xB7, 0xB7), (0x387, 0x387), (0x55F, 0x55F),
    (0x5F4, 0x5F4), (0x2018, 0x2019), (0x2024, 0x2024), (0x2027, 0x2027), (0xFE13, 0xFE13),
    (0xFE52, 0xFE52), (0xFE55, 0xFE55), (0xFF07, 0xFF07), (0xFF0E, 0xFF0E), (0xFF1A, 0xFF1A)]

/-- The characters that are passed over where the case of a neighbour matters. -/
def caseIgnorable : CharSet :=
  union (ofCategories ["Mn", "Me", "Cf", "Lm", "Sk"]) innerPunctuation

/-- The characters that differ in one of the cases. -/
def casemapped : CharSet :=
  unions [ofLines lowercasedLines, ofLines uppercasedLines, ofLines titlecasedLines]

/-- The characters that begin identifiers: letters, save those kept for the notation of
patterns. -/
def idStart : CharSet :=
  diff (union (ofCategories ["Lu", "Ll", "Lt", "Lm", "Lo", "Nl"]) (listed otherIdStartRanges))
    (union (listed patternSyntaxRanges) (listed patternWhiteSpaceRanges))

/-- The characters of identifiers. -/
def idContinue : CharSet :=
  union idStart
    (diff (union (ofCategories ["Mn", "Mc", "Nd", "Pc"]) (listed otherIdContinueRanges))
      (union (listed patternSyntaxRanges) (listed patternWhiteSpaceRanges)))

/-- The characters that would not stay in identifiers after normalization. -/
def normalizedAway : CharSet :=
  listed [(0x37A, 0x37A), (0x309B, 0x309C), (0xFC5E, 0xFC63), (0xFDFA, 0xFDFB),
    (0xFE70, 0xFE70), (0xFE72, 0xFE72), (0xFE74, 0xFE74), (0xFE76, 0xFE76), (0xFE78, 0xFE78),
    (0xFE7A, 0xFE7A), (0xFE7C, 0xFE7C), (0xFE7E, 0xFE7E)]

/-- The characters that begin identifiers before and after normalization. -/
def xidStart : CharSet :=
  diff (diff idStart normalizedAway) (listed [(0xE33, 0xE33), (0xEB3, 0xEB3), (0xFF9E, 0xFF9F)])

/-- The characters of identifiers before and after normalization. -/
def xidContinue : CharSet := diff idContinue normalizedAway

/-- Format characters that enclose the digits after them. -/
def prependedConcatenationMark : CharSet := listed prependedConcatenationMarkRanges

/-- The code points that have no shape unless they are supported. -/
def defaultIgnorable : CharSet :=
  diff (unions [ofCategories ["Cf"], listed otherDefaultIgnorableRanges,
      listed variationSelectorRanges])
    (unions [prependedConcatenationMark, range 0xFFF9 0xFFFB, range 0x13430 0x1343F])

/-- Marks that extend the character before them. -/
def graphemeExtend : CharSet :=
  union (ofCategories ["Mn", "Me"]) (ofLines otherGraphemeExtendLines)

/-- Characters that marks may be put on. -/
def graphemeBase : CharSet :=
  compl (union (ofCategories ["Cc", "Cf", "Cs", "Co", "Cn", "Zl", "Zp"]) graphemeExtend)

/-- The tones of skin. -/
def emojiModifier : CharSet := range 0x1F3FB 0x1F3FF

/-- The two characters that join or part their neighbours. -/
def joinControl : CharSet := range 0x200C 0x200D

/-- The letters by pairs of which flags are written. -/
def regionalIndicator : CharSet := range 0x1F1E6 0x1F1FF

/-- Hexadecimal digits of ASCII. -/
def asciiHexDigit : CharSet := ofRanges [('0', '9'), ('A', 'F'), ('a', 'f')]

/-- Punctuation that ends sentences. -/
def sentenceTerminal : CharSet := ofLines sentenceTerminalLines

/-- The binary properties by their names. -/
def binaryProperties : List (List String × CharSet) :=
  [(["ahex", "asciihexdigit"], asciiHexDigit),
   (["alpha", "alphabetic"], alphabetic),
   (["bidic", "bidicontrol"], listed bidiControlRanges),
   (["bidim", "bidimirrored"], ofLines bidiMirroredLines),
   (["cased"], cased),
   (["ci", "caseignorable"], caseIgnorable),
   (["cwcf", "changeswhencasefolded"], ofLines casefoldedLines),
   (["cwcm", "changeswhencasemapped"], casemapped),
   (["cwl", "changeswhenlowercased"], ofLines lowercasedLines),
   (["cwt", "changeswhentitlecased"], ofLines titlecasedLines),
   (["cwu", "changeswhenuppercased"], ofLines uppercasedLines),
   (["dash"], listed dashRanges),
   (["di", "defaultignorablecodepoint"], defaultIgnorable),
   (["dep", "deprecated"], listed deprecatedRanges),
   (["dia", "diacritic"], ofLines diacriticLines),
   (["emoji"], ofLines emojiLines),
   (["ecomp", "emojicomponent"], listed emojiComponentRanges),
   (["emod", "emojimodifier"], emojiModifier),
   (["ebase", "emojimodifierbase"], ofLines emojiModifierBaseLines),
   (["epres", "emojipresentation"], ofLines emojiPresentationLines),
   (["extpict", "extendedpictographic"], ofLines extendedPictographicLines),
   (["ext", "extender"], ofLines extenderLines),
   (["grbase", "graphemebase"], graphemeBase),
   (["grext", "graphemeextend"], graphemeExtend),
   (["grlink", "graphemelink"], ofLines graphemeLinkLines),
   (["hex", "hexdigit"], listed hexDigitRanges),
   (["hyphen"], listed hyphenRanges),
   (["idcompatmathcontinue"], listed compatMathContinueRanges),
   (["idcompatmathstart"], listed compatMathStartRanges),
   (["idc", "idcontinue"], idContinue),
   (["ids", "idstart"], idStart),
   (["idsb", "idsbinaryoperator"], listed idsBinaryOperatorRanges),
   (["idst", "idstrinaryoperator"], range 0x2FF2 0x2FF3),
   (["idsu", "idsunaryoperator"], range 0x2FFE 0x2FFF),
   (["ideo", "ideographic"], listed ideographicRanges),
   (["joinc", "joincontrol"], joinControl),
   (["loe", "logicalorderexception"], listed logicalOrderExceptionRanges),
   (["lower", "lowercase"], lowercase),
   (["math"], math),
   (["mcm", "modifiercombiningmark"], listed modifierCombiningMarkRanges),
   (["nchar", "noncharactercodepoint"], listed noncharacterRanges),
   (["oalpha", "otheralphabetic"], ofLines otherAlphabeticLines),
   (["odi", "otherdefaultignorablecodepoint"], listed otherDefaultIgnorableRanges),
   (["ogrext", "othergraphemeextend"], ofLines otherGraphemeExtendLines),
   (["oidc", "otheridcontinue"], listed otherIdContinueRanges),
   (["oids", "otheridstart"], listed otherIdStartRanges),
   (["olower", "otherlowercase"], listed otherLowercaseRanges),
   (["omath", "othermath"], ofLines otherMathLines),
   (["oupper", "otheruppercase"], listed otherUppercaseRanges),
   (["patsyn", "patternsyntax"], listed patternSyntaxRanges),
   (["patws", "patternwhitespace"], listed patternWhiteSpaceRanges),
   (["pcm", "prependedconcatenationmark"], prependedConcatenationMark),
   (["qmark", "quotationmark"], listed quotationMarkRanges),
   (["radical"], listed radicalRanges),
   (["ri", "regionalindicator"], regionalIndicator),
   (["sd", "softdotted"], ofLines softDottedLines),
   (["sterm", "sentenceterminal"], sentenceTerminal),
   (["term", "terminalpunctuation"], ofLines terminalPunctuationLines),
   (["uideo", "unifiedideograph"], listed unifiedIdeographRanges),
   (["upper", "uppercase"], uppercase),
   (["vs", "variationselector"], listed variationSelectorRanges),
   (["wspace", "whitespace", "space"], listed blankRanges),
   (["xidc", "xidcontinue"], xidContinue),
   (["xids", "xidstart"], xidStart)]

/-- The characters with a binary property, by its name. -/
def binary? (name : String) : Option CharSet :=
  (binaryProperties.find? fun (names, _) => names.contains name).map (·.2)

end Assay.CharSet
