/-!
# Lists of binary properties

The characters that have a property: as ranges where there are few of them, and otherwise as
runs, in which `Y` says that the property holds and `N` that it does not, after version 16.0
of the Unicode data.
-/

namespace Assay

/-- Small letters by use that are not so by category. -/
def otherLowercaseRanges : List (Nat × Nat) :=
  [(0xAA, 0xAA), (0xBA, 0xBA), (0x2B0, 0x2B8), (0x2C0, 0x2C1), (0x2E0, 0x2E4), (0x345, 0x345),
   (0x37A, 0x37A), (0x10FC, 0x10FC), (0x1D2C, 0x1D6A), (0x1D78, 0x1D78), (0x1D9B, 0x1DBF),
   (0x2071, 0x2071), (0x207F, 0x207F), (0x2090, 0x209C), (0x2170, 0x217F), (0x24D0, 0x24E9),
   (0x2C7C, 0x2C7D), (0xA69C, 0xA69D), (0xA770, 0xA770), (0xA7F2, 0xA7F4), (0xA7F8, 0xA7F9),
   (0xAB5C, 0xAB5F), (0xAB69, 0xAB69), (0x10780, 0x10780), (0x10783, 0x10785), (0x10787, 0x107B0),
   (0x107B2, 0x107BA), (0x1E030, 0x1E06D)]

/-- Capital letters by use that are not so by category. -/
def otherUppercaseRanges : List (Nat × Nat) :=
  [(0x2160, 0x216F), (0x24B6, 0x24CF), (0x1F130, 0x1F149), (0x1F150, 0x1F169), (0x1F170, 0x1F189)]

/-- Alphabetic characters besides letters and numbers of letters. -/
def otherAlphabeticLines : List String :=
  ["N837YN29Y13N576Y14NYNY2NY2NYN72Y11N48Y13NY7N16YN101Y7N4Y4N2Y2N4YN35YN30Y16N102Y11N101Y2N3Y9N",
   "Y3NY4N106YN60Y12N3Y7N6Y20N54Y2N2Y15NY2N5Y3N10Y2N29Y3N58Y7N2Y2N2Y2N10YN10Y2N29Y3N58Y5N4Y2N2Y2",
   "N4YN30Y2N3YN11Y3N58Y8NY3NY2N21Y2N22Y3N4Y3N58Y7N2Y2N2Y2N9Y2N10Y2N30YN59Y5N3Y3NY3N10YN40Y5N57Y7",
   "NY3NY3N8Y2N11Y2N29Y3N58Y7NY3NY3N8Y2N11Y2N15YN12Y4N58Y7NY3NY3N10YN10Y2N29Y3N75Y6NYNY8N18Y2N61Y",
   "N2Y7N18YN99YN2Y6NY2N16YN163Y19N9Y11NY36N110Y12NYN2Y4N23Y4N4Y3NY3N2Y7N3Y4N13Y12NYN10Y4N1652Y2",
   "N30Y2N30Y2N30Y2N66Y19N188Y2N34YN118Y12N4Y9N222Y5N57Y10N2Y20N74Y2N11Y3N49Y5N48Y15N60Y3N30Y9N2",
   "Y2N57Y11N50Y19N412Y34N1729Y52N2294Y32N30836Y8N34Y2N354YN8YN23Y5N88Y2N50Y16NYN57YN38Y5N28Y12",
   "N45Y4N48Y12N37YN67Y14N12YN8Y2N45Y3N50YNY3N2Y2N5YN44Y5N5YN237Y8N20275YN2135Y5N1670Y3NY2N5Y4",
   "N788Y4N65YN321Y2N79YN259Y3N53Y14N45Y2N11Y3N45Y9N9YN61Y3N36Y12N18Y2N57Y3N48Y13N14Y2N92Y9N2YN6Y",
   "N2YN157Y10N23Y4N58Y7N2Y2N2Y2N10YN10Y2N84Y9NYN2YNY4NY2N103Y13NY3N106Y18N237Y7N2Y7N29Y2N82Y15NY",
   "N106Y11N103Y14N257Y13N247Y6NY2N2Y2N3YNYN142Y7N2Y6N4YN28Y10N42Y5NY4N18Y11N46Y14N407Y8NY7N83Y22",
   "NY14N122Y6N3YNY2NY3NYN3YN66Y5NY2NY4N348Y4N9Y2NYN48Y7N3Y3N16861Y17N3616YNY55N7Y4N93Y2N19628Y",
   "N9057Y7NY17N2Y7NY2NY5N100YN2231YN2024Y26N6Y26N6Y26N986742"]

/-- Mathematical characters besides mathematical symbols. -/
def otherMathLines : List String :=
  ["N94YN881Y3N2YN26Y2N2Y2N7200YN27Y3N11YN32Y4N24Y2N14Y2N65Y13N4YN3Y2N4Y5N18YN4YN2Y10NYN3Y5N6YN3",
   "Y2N2Y2NY3NY6N3Y4N5Y5N75Y5N2Y4NY2NY2NYNY5N2Y2N4Y2N4Y18N2Y2NYNY7NYN6Y2N290Y4N168Y2NYN24YN17Y",
   "N445Y2N12Y9N5Y5N5Y2N2Y2N3Y5N14YNYN2Y6N24Y2N57YNYN29Y4N9Y2N342Y2N31Y10N403Y22N63Y4N32Y2N54371Y",
   "NYN4YN211YNYN54465Y85NY71NY2N2YN2Y2N2Y4NY12NYNY7NY65NY4N2Y8NY7NY28NY4NY5NYN3Y7NY340N2Y25NY25N",
   "Y31NY25NY31NY25NY31NY25NY31NY25NY8N2Y50N5632Y4NY27NY2NYN2YNY10NY4NYNYN6YN4YNYNYNY3NY2NYN2YNYN",
   "YNYNYNY2NYN2Y4NY7NY4NY4NYNY10NY17N5Y3NY5NY17N987460"]

/-- Characters that may begin identifiers for reasons of history. -/
def otherIdStartRanges : List (Nat × Nat) :=
  [(0x1885, 0x1886), (0x2118, 0x2118), (0x212E, 0x212E), (0x309B, 0x309C)]

/-- Characters that may stand in identifiers for reasons of history. -/
def otherIdContinueRanges : List (Nat × Nat) :=
  [(0xB7, 0xB7), (0x387, 0x387), (0x1369, 0x1371), (0x19DA, 0x19DA), (0x200C, 0x200D),
   (0x30FB, 0x30FB), (0xFF65, 0xFF65)]

/-- Spacing marks and format characters that extend the character before them. -/
def otherGraphemeExtendLines : List String :=
  ["N2494YN24YN358YN24YN102YN24YN232YNYN4Y2NY2N9Y2N103YN24YN119YN15YN2357YN30YN1024YN5YNYN5Y2N101",
   "YN71Y2N1048YN4129Y2N31011YN108YN21981Y2N4640YN116YN264YN14YN9YN96YN9YN2YNY3N5YN224YN12YN241Y",
   "N262YN633YN12YN1539YN20654Y2N24947Y2N6Y6N798381Y96N196480"]

/-- Ignorable code points besides format characters and variation selectors. -/
def otherDefaultIgnorableRanges : List (Nat × Nat) :=
  [(0x34F, 0x34F), (0x115F, 0x1160), (0x17B4, 0x17B5), (0x2065, 0x2065), (0x3164, 0x3164),
   (0xFFA0, 0xFFA0), (0xFFF0, 0xFFF8), (0xE0000, 0xE0000), (0xE0002, 0xE001F), (0xE0080, 0xE00FF),
   (0xE01F0, 0xE0FFF)]

/-- Marks that join the characters on both sides. -/
def graphemeLinkLines : List String :=
  ["N2381YN127YN127YN127YN127YN127YN127YN127YN109Y2N16YN124YN111YN127YN201YN180Y2N1753Y2N30YN157Y",
   "N653YN227YN101Y2N70Y2N4491YN31366YN37YN151YN142YN108YN309YN246YN24145YN1542YN41YN14YN57YN121",
   "Y2N139YN116YN180YN98YN128Y3N113YN127YN252YN127YN118YN116YN269YN259Y2N161YN83YN18YN81YN421Y",
   "N260Y2N81YN425Y2N16876YN1023696"]

/-- Controls of the writing direction. -/
def bidiControlRanges : List (Nat × Nat) :=
  [(0x61C, 0x61C), (0x200E, 0x200F), (0x202A, 0x202E), (0x2066, 0x2069)]

/-- Characters that are mirrored when written from right to left. -/
def bidiMirroredLines : List String :=
  ["N40Y2N18YNYN28YNYN29YNYN45YN15YN3710Y4N1885Y2N2460Y2N10Y2N54Y2N14Y2N177YN192Y4N3Y6N3YN3Y2N3Y4",
   "NY4NYNYN4Y9N5YNY18N5Y4N9Y2NYNY8NY32N2Y4N5YN9Y2N2Y19N5Y2N9Y5N2Y2N4Y24N2Y16N8Y4N20Y2N7Y2N1085",
   "Y14N74YN2Y4NY2NY3N5Y4N5Y3N3Y14N403Y22N2Y6NY14N8YN7Y6N3YN4Y5NY2N2Y5N4YNY3N2Y2N10Y6N2Y2N12Y19N",
   "Y4N2YNYN2YNY4N5Y2N6Y3N24Y2N11Y2N4Y4NY2N2Y2N4Y43N2Y8NY40N5YNYN3Y5N5Y3N4YN3Y5NYN256YN515Y4N3Y2N",
   "Y2N14Y2N2Y10N43Y8N427Y10N2Y8N52797Y6N5Y2N162Y2N18YNYN28YNYN29YNYNY2NY2N55159YN57YN57YN57YN57Y",
   "N993340"]

/-- Dashes. -/
def dashRanges : List (Nat × Nat) :=
  [(0x2D, 0x2D), (0x58A, 0x58A), (0x5BE, 0x5BE), (0x1400, 0x1400), (0x1806, 0x1806),
   (0x2010, 0x2015), (0x2053, 0x2053), (0x207B, 0x207B), (0x208B, 0x208B), (0x2212, 0x2212),
   (0x2E17, 0x2E17), (0x2E1A, 0x2E1A), (0x2E3A, 0x2E3B), (0x2E40, 0x2E40), (0x2E5D, 0x2E5D),
   (0x301C, 0x301C), (0x3030, 0x3030), (0x30A0, 0x30A0), (0xFE31, 0xFE32), (0xFE58, 0xFE58),
   (0xFE63, 0xFE63), (0xFF0D, 0xFF0D), (0x10D6E, 0x10D6E), (0x10EAD, 0x10EAD)]

/-- Hyphens. -/
def hyphenRanges : List (Nat × Nat) :=
  [(0x2D, 0x2D), (0xAD, 0xAD), (0x58A, 0x58A), (0x1806, 0x1806), (0x2010, 0x2011),
   (0x2E17, 0x2E17), (0x30FB, 0x30FB), (0xFE63, 0xFE63), (0xFF0D, 0xFF0D), (0xFF65, 0xFF65)]

/-- Characters whose use is discouraged. -/
def deprecatedRanges : List (Nat × Nat) :=
  [(0x149, 0x149), (0x673, 0x673), (0xF77, 0xF77), (0xF79, 0xF79), (0x17A3, 0x17A4),
   (0x206A, 0x206F), (0x2329, 0x232A), (0xE0001, 0xE0001)]

/-- Characters that modify the sound or the form of others. -/
def diacriticLines : List String :=
  ["N94YNYN71YN6YN4YN2Y2N503Y159NY8N5Y6N17Y2N4YN9Y2N253Y5N209YN55Y45NYNY2NY2NYN131Y8N4Y2N134Y2N4",
   "Y2N3Y3N67Y27N91Y11N58Y11N34Y2N126Y8N41Y10N16Y28N61YN16YN3Y4N28YN74YN16YN110YN16YN110YN16YN47",
   "Y3N60YN16YN7YN119YN110YN16YN110YN16YN109Y2N16YN124YN111YN12Y6NYN107YN13Y5N75Y2N27YNYNYN4Y2N66",
   "Y3NY2N62YN112YNY2N40Y2N4Y5N25Y7NYN10Y2N705Y3N948Y2N30YN148Y11N9YN347Y3N292YN20Y8N2YN48Y15N2",
   "Y11N104YN15YN38Y9N54Y2N58YN11Y2N66Y2N64Y6N82Y25N4YN6YN2Y3N50Y63N48Y36N5Y12N37Y11N445YNY3N11Y3",
   "N13Y3N13Y3N13Y2N3312Y3N317YN506Y6N105Y4N95YN30066YN12Y2NYN28Y2N82Y2N14Y34N102Y3N109Y2N12YN37Y",
   "N151YN27Y18N57Y4N36YN95YN12YN36YN149Y3N65Y4N51YN100Y5N9Y3N128Y2N20272YN769Y16N270YNYN47YN45Y2",
   "N67YN764YN1183Y6NY42NY9N637Y3N4YN165Y2N571Y6N38YN26Y5N399Y3N70Y11N49Y4N192YN41YN72Y2N120Y2N62",
   "YN76YN9Y3N104Y2N178Y2N80Y2N16YN24Y7N3Y5N89Y3NY2N13Y2N95YN3YN123Y2N251Y2N126YN118Y2N115YN269Y2",
   "N258Y2N4YN156YN83YN18YN81YN421YN258YNY2N81YN425Y2N23YN5356Y15N11481YN2496Y5N59Y7N564Y2N546Y17",
   "N80Y2N16382Y4NY7NY2N7937Y46N2Y23N544Y3N3Y6N8Y8N2Y7N30Y4N3714Y62N194Y7N375YN61Y4N766Y2N736Y7",
   "N109Y3NY3N988853"]

/-- Pictographs, and the digits and signs that are part of some. -/
def emojiLines : List String :=
  ["N35YN6YN5Y10N111YN4YN8077YN12YN216YN22YN90Y6N15Y2N367Y2N12YN166YN25Y11N4Y3N199YN231Y2N10YN9Y",
   "N58Y4NY5N9YN2YN2Y2N2YN4YN2YNY2N2YN3YN3Y2N8Y3N5YNYN5Y12N11Y2N2YNY2NYN18YN2Y2N18Y6NYNY2N3Y2N5Y",
   "N2Y2N4Y2N11Y2N5Y2N2YN5Y2NYNY2N20Y2N5Y6NY4N2YN4YN2YN2Y6NYN2YNYNYN6YN3YN6YN10Y2N15YN2YN4YNYN4Y3",
   "NYN11Y2N48Y3N9YN14YN14YN372Y2N463Y3N19Y2N51YN4YN1242YN12YN601YNYN114026YN202YN160Y2N12Y2N14Y",
   "N2Y10N75Y26NY2N23YN20YN2Y9N21Y2N174Y34N2Y112N2Y2NY3N2Y83N2Y3NY263NY63N11Y6NY24N7Y2N2Y8N12YN2",
   "Y4N2YN4Y2N13Y2N2YN8Y2N9YN5Y3N12Y3N8Y3N2YNYN4YN6YN3YN6Y86N48Y70N5Y8N2Y3N4Y10N3YNY2N3YN2Y10N227",
   "Y12N4YN283Y47NY10NY185N112Y13N3Y10N5Y56N7Y15N2Y11N6Y9N984327"]

/-- Characters that are only part of pictographs. -/
def emojiComponentRanges : List (Nat × Nat) :=
  [(0x23, 0x23), (0x2A, 0x2A), (0x30, 0x39), (0x200D, 0x200D), (0x20E3, 0x20E3), (0xFE0F, 0xFE0F),
   (0x1F1E6, 0x1F1FF), (0x1F3FB, 0x1F3FF), (0x1F9B0, 0x1F9B3), (0xE0020, 0xE007F)]

/-- Pictographs that may take a tone of skin. -/
def emojiModifierBaseLines : List String :=
  ["N9757YN219YN16Y4N117879YN60Y3N2YN2Y3N117Y2N2Y11N21Y19N3YN4Y3NY3N7YNYN24YN201Y2N4YN21YN4Y2N174",
   "Y3N3Y5N83YN16Y3N9YN11YN575YN2YN8Y8N6YN9Y10N2Y3N56YN61Y2NY2NYN17Y3NY13N229Y3N42Y9N984327"]

/-- Characters that are shown as pictographs by default. -/
def emojiPresentationLines : List String :=
  ["N8986Y2N205Y4N3YN2YN521Y2N21Y2N50Y12N43YN19YN13YN8Y2N17Y2N5Y2N8YN5YN21YN7Y2NYN4YN2YN7YN4Y2N28",
   "YN35YNYN4Y3NYN61Y3N24YN14YN859Y2N51YN4YN115886YN202YN190YN2Y10N75Y26NYN24YN20YN2Y5NY3N21Y2",
   "N174Y33N12Y9NY70NY22N12Y43N4Y5N12Y17N3YN3Y71NYNY187N2Y63N13Y4NY24N18YN26Y2N13YN86Y85N48Y70N6Y",
   "N3Y3N2Y3N4Y4N11Y2N7Y9N227Y12N4YN283Y47NY10NY185N112Y13N3Y10N5Y56N7Y15N2Y11N6Y9N984327"]

/-- Pictographs and code points kept for them. -/
def extendedPictographicLines : List String :=
  ["N169YN4YN8077YN12YN216YN22YN90Y6N15Y2N367Y2N12YN95YN70YN25Y11N4Y3N199YN231Y2N10YN9YN58Y4NY6N",
   "Y12NY114N10Y118N2Y11NYNYN6YN3YN6YN10Y2N15YN2YN4YNYN4Y3NYN11Y5N45Y3N9YN14YN14YN372Y2N463Y3N19",
   "Y2N51YN4YN1242YN12YN601YNYN114022Y256N13Y3N31YN60Y6N12Y2N14YN2Y10N18Y57N27Y15N10YN20YN2Y9NY4",
   "N9Y434N5Y318N8Y266N48Y128N116Y12N85Y43N12Y4N56Y8N10Y6N40Y8N30Y82N12Y47NY10NY441N256Y1022",
   "N983042"]

/-- Characters that lengthen or repeat the one before. -/
def extenderLines : List String :=
  ["N183YN536Y2N878YN441YN630YN137YN89YN752YN127YN2371YN56YN611YN398YN68YN5001YN43Y5N103Y2N93Y3",
   "N28438YN1526YN962YN22YN137YN108YN21Y2N21627YN2064Y2N1483YN27YN4YN1223YN293YN116Y2N498Y3N1231Y",
   "N20649Y2N1180Y2NYN29016Y2N1201YN852Y3N988857"]

/-- Hexadecimal digits. -/
def hexDigitRanges : List (Nat × Nat) :=
  [(0x30, 0x39), (0x41, 0x46), (0x61, 0x66), (0xFF10, 0xFF19), (0xFF21, 0xFF26), (0xFF41, 0xFF46)]

/-- Ideographs. -/
def ideographicRanges : List (Nat × Nat) :=
  [(0x3006, 0x3007), (0x3021, 0x3029), (0x3038, 0x303A), (0x3400, 0x4DBF), (0x4E00, 0x9FFF),
   (0xF900, 0xFA6D), (0xFA70, 0xFAD9), (0x16FE4, 0x16FE4), (0x17000, 0x187F7), (0x18800, 0x18CD5),
   (0x18CFF, 0x18D08), (0x1B170, 0x1B2FB), (0x20000, 0x2A6DF), (0x2A700, 0x2B739),
   (0x2B740, 0x2B81D), (0x2B820, 0x2CEA1), (0x2CEB0, 0x2EBE0), (0x2EBF0, 0x2EE5D),
   (0x2F800, 0x2FA1D), (0x30000, 0x3134A), (0x31350, 0x323AF)]

/-- Unified ideographs. -/
def unifiedIdeographRanges : List (Nat × Nat) :=
  [(0x3400, 0x4DBF), (0x4E00, 0x9FFF), (0xFA0E, 0xFA0F), (0xFA11, 0xFA11), (0xFA13, 0xFA14),
   (0xFA1F, 0xFA1F), (0xFA21, 0xFA21), (0xFA23, 0xFA24), (0xFA27, 0xFA29), (0x20000, 0x2A6DF),
   (0x2A700, 0x2B739), (0x2B740, 0x2B81D), (0x2B820, 0x2CEA1), (0x2CEB0, 0x2EBE0),
   (0x2EBF0, 0x2EE5D), (0x30000, 0x3134A), (0x31350, 0x323AF)]

/-- Radicals of ideographs. -/
def radicalRanges : List (Nat × Nat) :=
  [(0x2E80, 0x2E99), (0x2E9B, 0x2EF3), (0x2F00, 0x2FD5)]

/-- Operators that describe an ideograph by two parts. -/
def idsBinaryOperatorRanges : List (Nat × Nat) :=
  [(0x2FF0, 0x2FF1), (0x2FF4, 0x2FFD), (0x31EF, 0x31EF)]

/-- Vowels that are stored before the consonant they follow in speech. -/
def logicalOrderExceptionRanges : List (Nat × Nat) :=
  [(0xE40, 0xE44), (0xEC0, 0xEC4), (0x19B5, 0x19B7), (0x19BA, 0x19BA), (0xAAB5, 0xAAB6),
   (0xAAB9, 0xAAB9), (0xAABB, 0xAABC)]

/-- Code points that never stand for a character. -/
def noncharacterRanges : List (Nat × Nat) :=
  [(0xFDD0, 0xFDEF), (0xFFFE, 0xFFFF), (0x1FFFE, 0x1FFFF), (0x2FFFE, 0x2FFFF), (0x3FFFE, 0x3FFFF),
   (0x4FFFE, 0x4FFFF), (0x5FFFE, 0x5FFFF), (0x6FFFE, 0x6FFFF), (0x7FFFE, 0x7FFFF),
   (0x8FFFE, 0x8FFFF), (0x9FFFE, 0x9FFFF), (0xAFFFE, 0xAFFFF), (0xBFFFE, 0xBFFFF),
   (0xCFFFE, 0xCFFFF), (0xDFFFE, 0xDFFFF), (0xEFFFE, 0xEFFFF), (0xFFFFE, 0xFFFFF),
   (0x10FFFE, 0x10FFFF)]

/-- Marks that are moved in front of others for display. -/
def modifierCombiningMarkRanges : List (Nat × Nat) :=
  [(0x654, 0x655), (0x658, 0x658), (0x6DC, 0x6DC), (0x6E3, 0x6E3), (0x6E7, 0x6E8), (0x8CA, 0x8CB),
   (0x8CD, 0x8CF), (0x8D3, 0x8D3), (0x8F3, 0x8F3)]

/-- Characters kept for the notation of patterns. -/
def patternSyntaxRanges : List (Nat × Nat) :=
  [(0x21, 0x2F), (0x3A, 0x40), (0x5B, 0x5E), (0x60, 0x60), (0x7B, 0x7E), (0xA1, 0xA7),
   (0xA9, 0xA9), (0xAB, 0xAC), (0xAE, 0xAE), (0xB0, 0xB1), (0xB6, 0xB6), (0xBB, 0xBB),
   (0xBF, 0xBF), (0xD7, 0xD7), (0xF7, 0xF7), (0x2010, 0x2027), (0x2030, 0x203E), (0x2041, 0x2053),
   (0x2055, 0x205E), (0x2190, 0x245F), (0x2500, 0x2775), (0x2794, 0x2BFF), (0x2E00, 0x2E7F),
   (0x3001, 0x3003), (0x3008, 0x3020), (0x3030, 0x3030), (0xFD3E, 0xFD3F), (0xFE45, 0xFE46)]

/-- Blanks in the notation of patterns. -/
def patternWhiteSpaceRanges : List (Nat × Nat) :=
  [(0x9, 0xD), (0x20, 0x20), (0x85, 0x85), (0x200E, 0x200F), (0x2028, 0x2029)]

/-- Format characters that enclose the digits after them. -/
def prependedConcatenationMarkRanges : List (Nat × Nat) :=
  [(0x600, 0x605), (0x6DD, 0x6DD), (0x70F, 0x70F), (0x890, 0x891), (0x8E2, 0x8E2),
   (0x110BD, 0x110BD), (0x110CD, 0x110CD)]

/-- Quotation marks. -/
def quotationMarkRanges : List (Nat × Nat) :=
  [(0x22, 0x22), (0x27, 0x27), (0xAB, 0xAB), (0xBB, 0xBB), (0x2018, 0x201F), (0x2039, 0x203A),
   (0x2E42, 0x2E42), (0x300C, 0x300F), (0x301D, 0x301F), (0xFE41, 0xFE44), (0xFF02, 0xFF02),
   (0xFF07, 0xFF07), (0xFF62, 0xFF63)]

/-- Punctuation that ends sentences. -/
def sentenceTerminalLines : List String :=
  ["N33YN12YN16YN1353YN147Y3N180YN43Y3N246YN61YNYN3Y2N293Y2N1764Y2N790YN4Y2N773YN198Y2N157Y2N45Y",
   "N5YN314Y2N354Y4N162Y2N10Y2N2Y2N29Y3N187Y2N65Y2N932YN23Y2N9Y3N3247Y3N306YN13YN22Y2N429YN29948Y",
   "N270Y2N227YN3YN382Y2N86Y2N95YN152Y2N147Y3N144Y2N249YN21030YN2Y2N59YN3Y2N169YN12YN16YN65YN2804",
   "Y2N1277Y5N44Y4N189Y2N117Y4N127Y3N129Y2N6YN16Y2N88Y2NY2N108YN298Y2N117Y2N373Y2N5Y15N105Y2N249",
   "Y3N517YNYN251Y2N87Y2N420Y2N692Y2N74Y2N19241Y2N133YN65Y2N11YN553Y2N296YN19974YN7656YN992631"]

/-- Characters that lose their dot under an accent. -/
def softDottedLines : List String :=
  ["N105Y2N196YN281YN30YN52YN20YN320YN98YNYN6409YN51YN13YN3YN132YN157YN421YN214Y2N2866YN108453Y2",
   "N50Y2N50Y2N50Y2N50Y2N50Y2N50Y2N50Y2N50Y2N50Y2N50Y2N50Y2N50Y2N2182YN305Y2N26YN991127"]

/-- Punctuation that ends a unit of text. -/
def terminalPunctuationLines : List String :=
  ["N33YN10YNYN11Y2N3YN830YN8YN513YN57YN72YN14YNY3N180YN43Y11NYN235Y2N54Y6NY8N31YN261Y2N1268Y2",
   "N172YN4Y6N311Y2N789Y8N773YN124Y3N71Y2N157Y3N3YN39Y4N2Y2N314Y2N354Y4N162Y2N10Y2NY3N29Y3N187Y5",
   "N62Y2N932YN23Y2N9Y3N3247Y3N306YN13YN4YN10YNY2N3Y2N428Y2N29947Y2N269Y3N227Y5N382Y2N86Y2N95Y",
   "N151Y3N147Y3N127YN16Y2N249YN21030YN2Y2N57Y3NY4N169YN10YNYN11Y2N3YN65YN2YN1082YN48YN1158YN199Y",
   "N310Y2N152Y6N68Y6N89Y4N952Y5N44Y4N189Y7N112Y4N127Y3N129Y2N6YN16Y2N88Y5N108YN298Y2N117Y3N12Y2",
   "N358Y4N3Y15N105Y2N249Y3N517YNYN251Y2N87Y2N4Y2N414Y3N45YN645Y2N74Y2N1323Y5N17913Y2N133YN65Y3",
   "N10YN553Y2N295Y2N19974YN7655Y4N992629"]

/-- Selectors of the form of the character before. -/
def variationSelectorRanges : List (Nat × Nat) :=
  [(0x180B, 0x180D), (0x180F, 0x180F), (0xFE00, 0xFE0F), (0xE0100, 0xE01EF)]

/-- Mathematical symbols that may begin identifiers. -/
def compatMathStartRanges : List (Nat × Nat) :=
  [(0x2202, 0x2202), (0x2207, 0x2207), (0x221E, 0x221E), (0x1D6C1, 0x1D6C1), (0x1D6DB, 0x1D6DB),
   (0x1D6FB, 0x1D6FB), (0x1D715, 0x1D715), (0x1D735, 0x1D735), (0x1D74F, 0x1D74F),
   (0x1D76F, 0x1D76F), (0x1D789, 0x1D789), (0x1D7A9, 0x1D7A9), (0x1D7C3, 0x1D7C3)]

/-- Mathematical symbols that may stand in identifiers. -/
def compatMathContinueRanges : List (Nat × Nat) :=
  [(0xB2, 0xB3), (0xB9, 0xB9), (0x2070, 0x2070), (0x2074, 0x207E), (0x2080, 0x208E),
   (0x2202, 0x2202), (0x2207, 0x2207), (0x221E, 0x221E), (0x1D6C1, 0x1D6C1), (0x1D6DB, 0x1D6DB),
   (0x1D6FB, 0x1D6FB), (0x1D715, 0x1D715), (0x1D735, 0x1D735), (0x1D74F, 0x1D74F),
   (0x1D76F, 0x1D76F), (0x1D789, 0x1D789), (0x1D7A9, 0x1D7A9), (0x1D7C3, 0x1D7C3)]

/-- Characters that differ in a text of small letters. -/
def lowercasedLines : List String :=
  ["N65Y26N101Y23NY7N33YNYNYNYNYNYNYNYNYNYNYNYNYNYNYNYNYNYNYNYNYNYNYNYNYNYNYNYN2YNYNYNYNYNYNYNYN2",
   "YNYNYNYNYNYNYNYNYNYNYNYNYNYNYNYNYNYNYNYNYNYNYNY2NYNYN3Y2NYNY2NY3N2Y4NY2NY3N3Y2NY2NYNYNY2NYN2Y",
   "NY2NY3NYNY2N3YN7Y2NY2NY2NYNYNYNYNYNYNYNYN2YNYNYNYNYNYNYNYNYN2Y2NYNY3NYNYNYNYNYNYNYNYNYNYNYNYN",
   "YNYNYNYNYNYNYNYNYNYNYNYNYNYNYNYNYN7Y2NY2N2YNY4NYNYNYNYN289YNYN3YN8YN6YNY3NYNY2NY17NY9N35YN8YN",
   "YNYNYNYNYNYNYNYNYNYNYN5YN2YNY2N2Y51N48YNYNYNYNYNYNYNYNYNYNYNYNYNYNYNYNYN9YNYNYNYNYNYNYNYNYNYN",
   "YNYNYNYNYNYNYNYNYNYNYNYNYNYNYNYNYNY2NYNYNYNYNYNYN2YNYNYNYNYNYNYNYNYNYNYNYNYNYNYNYNYNYNYNYNYNY",
   "NYNYNYNYNYNYNYNYNYNYNYNYNYNYNYNYNYNYNYNYNYNYNYNYNYNYN2Y38N2889Y38NYN5YN722Y86N2195YN6Y43N2Y3",
   "N320YNYNYNYNYNYNYNYNYNYNYNYNYNYNYNYNYNYNYNYNYNYNYNYNYNYNYNYNYNYNYNYNYNYNYNYNYNYNYNYNYNYNYNYNY",
   "NYNYNYNYNYNYNYNYNYNYNYNYNYNYNYNYNYNYNYNYNYNYNYNYNYNYNYNYNYNYN9YNYNYNYNYNYNYNYNYNYNYNYNYNYNYNY",
   "NYNYNYNYNYNYNYNYNYNYNYNYNYNYNYNYNYNYNYNYNYNYNYNYNYNYNYNYNYNYNYNYNYN9Y8N8Y6N10Y8N8Y8N8Y6N11YNY",
   "NYNYN8Y8N24Y8N8Y8N8Y8N8Y5N11Y5N11Y4N12Y5N11Y5N297YN3Y2N6YN45Y16N19YN818Y26N1840Y48N48YNY3N2YN",
   "YNYNY4NYN2YN8Y3NYNYNYNYNYNYNYNYNYNYNYNYNYNYNYNYNYNYNYNYNYNYNYNYNYNYNYNYNYNYNYNYNYNYNYNYNYNYNY",
   "NYNYNYNYNYNYNYNYNYNYN8YNYN4YN31053YNYNYNYNYNYNYNYNYNYNYNYNYNYNYNYNYNYNYNYNYNYNYN19YNYNYNYNYNY",
   "NYNYNYNYNYNYNYNYN135YNYNYNYNYNYNYN3YNYNYNYNYNYNYNYNYNYNYNYNYNYNYNYNYNYNYNYNYNYNYNYNYNYNYNYNYN",
   "YNYN10YNYNY2NYNYNYNYN4YNYN2YNYN3YNYNYNYNYNYNYNYNYNYNY5NY5NYNYNYNYNYNYNYNY4NYNY2N3YN5YNYNYNY",
   "N24YN22315Y26N1221Y40N136Y36N156Y11NY15NY7NY2N1770Y51N157Y22N2874Y32N21888Y32N31392Y34N988894"]

/-- Characters that differ in a text of capital letters. -/
def uppercasedLines : List String :=
  ["N97Y26N58YN41Y24NY8NYNYNYNYNYNYNYNYNYNYNYNYNYNYNYNYNYNYNYNYNYNYNYNYNYNYNYNYN2YNYNYNYNYNYNYNY2",
   "NYNYNYNYNYNYNYNYNYNYNYNYNYNYNYNYNYNYNYNYNYNYNYN2YNYNY3N2YNYN2YN3YN5YN2YN3Y3N2YN2YNYNYN2YN4YN2",
   "YN3YNYN2YN3YNYN5Y2NY2NY2NYNYNYNYNYNYNYNY2NYNYNYNYNYNYNYNYNY2NY2NYN3YNYNYNYNYNYNYNYNYNYNYNYNYN",
   "YNYNYNYNYNYNYN3YNYNYNYNYNYNYNYNYN8YN2Y2NYN4YNYNYNYNY6NY2NYNY2N3Y2NY4NY5N2YNY2N2YN7YN2YNY2N3Y6",
   "N5YN10Y2N166YN43YNYN3YN3Y3N18YN27Y35NY2N3Y3NYNYNYNYNYNYNYNYNYNYNYNY5NYN2YN2YN52Y48NYNYNYNYNYN",
   "YNYNYNYNYNYNYNYNYNYNYNYN9YNYNYNYNYNYNYNYNYNYNYNYNYNYNYNYNYNYNYNYNYNYNYNYNYNYNYN2YNYNYNYNYNYN",
   "Y2NYNYNYNYNYNYNYNYNYNYNYNYNYNYNYNYNYNYNYNYNYNYNYNYNYNYNYNYNYNYNYNYNYNYNYNYNYNYNYNYNYNYNYNYNYN",
   "YNYNYN49Y39N2888Y43N2Y3N760Y6N2178Y9NYN238YN3YN16YN114YNYNYNYNYNYNYNYNYNYNYNYNYNYNYNYNYNYNYNY",
   "NYNYNYNYNYNYNYNYNYNYNYNYNYNYNYNYNYNYNYNYNYNYNYNYNYNYNYNYNYNYNYNYNYNYNYNYNYNYNYNYNYNYNYNYNYNYN",
   "YNYNYNYNYNYNYNYNY7N5YNYNYNYNYNYNYNYNYNYNYNYNYNYNYNYNYNYNYNYNYNYNYNYNYNYNYNYNYNYNYNYNYNYNYNYNY",
   "NYNYNYNYNYNYNYNYNYNYNY9N8Y6N10Y8N8Y8N8Y6N10Y8N8Y8N8Y14N2Y53NY2N4YNYN3Y3NY2N4YN3Y4N2Y2N8Y8N10",
   "Y3NY2N4YN337YN33Y16N4YN843Y26N1862Y48NYN3Y2NYNYNYN6YN2YN10YNYNYNYNYNYNYNYNYNYNYNYNYNYNYNYNYNY",
   "NYNYNYNYNYNYNYNYNYNYNYNYNYNYNYNYNYNYNYNYNYNYNYNYNYNYNYNYNYNYNYNYN8YNYN4YN12Y38NYN5YN30995YNYN",
   "YNYNYNYNYNYNYNYNYNYNYNYNYNYNYNYNYNYNYNYNYN19YNYNYNYNYNYNYNYNYNYNYNYNYNYN135YNYNYNYNYNYNYN3YNY",
   "NYNYNYNYNYNYNYNYNYNYNYNYNYNYNYNYNYNYNYNYNYNYNYNYNYNYNYNYNYN10YNYN2YNYNYNYNYN4YN4YNY2N2YNYNYNY",
   "NYNYNYNYNYNYN11YNYNYNYNYNYNYNYN4YNYN2YN3YN5YNYNYN26YN860YN28Y80N20288Y7N12Y5N1065Y26N1229Y40",
   "N136Y36N155Y11NY15NY7NY2N1795Y51N125Y22N2874Y32N21888Y32N31394Y34N988860"]

/-- Characters that differ at the head of a word in a title. -/
def titlecasedLines : List String :=
  ["N97Y26N58YN41Y24NY8NYNYNYNYNYNYNYNYNYNYNYNYNYNYNYNYNYNYNYNYNYNYNYNYNYNYNYNYN2YNYNYNYNYNYNYNY2",
   "NYNYNYNYNYNYNYNYNYNYNYNYNYNYNYNYNYNYNYNYNYNYNYN2YNYNY3N2YNYN2YN3YN5YN2YN3Y3N2YN2YNYNYN2YN4YN2",
   "YN3YNYN2YN3YNYN4YNY2NY2NYNYNYNYNYNYNYNYNY2NYNYNYNYNYNYNYNYNY3NYNYN3YNYNYNYNYNYNYNYNYNYNYNYNYN",
   "YNYNYNYNYNYNYN3YNYNYNYNYNYNYNYNYN8YN2Y2NYN4YNYNYNYNY6NY2NYNY2N3Y2NY4NY5N2YNY2N2YN7YN2YNY2N3Y6",
   "N5YN10Y2N166YN43YNYN3YN3Y3N18YN27Y35NY2N3Y3NYNYNYNYNYNYNYNYNYNYNYNY5NYN2YN2YN52Y48NYNYNYNYNYN",
   "YNYNYNYNYNYNYNYNYNYNYNYN9YNYNYNYNYNYNYNYNYNYNYNYNYNYNYNYNYNYNYNYNYNYNYNYNYNYNYN2YNYNYNYNYNYN",
   "Y2NYNYNYNYNYNYNYNYNYNYNYNYNYNYNYNYNYNYNYNYNYNYNYNYNYNYNYNYNYNYNYNYNYNYNYNYNYNYNYNYNYNYNYNYNYN",
   "YNYNYN49Y39N3696Y6N2178Y9NYN238YN3YN16YN114YNYNYNYNYNYNYNYNYNYNYNYNYNYNYNYNYNYNYNYNYNYNYNYNYN",
   "YNYNYNYNYNYNYNYNYNYNYNYNYNYNYNYNYNYNYNYNYNYNYNYNYNYNYNYNYNYNYNYNYNYNYNYNYNYNYNYNYNYNYNYNYNYNY",
   "NYNYNY7N5YNYNYNYNYNYNYNYNYNYNYNYNYNYNYNYNYNYNYNYNYNYNYNYNYNYNYNYNYNYNYNYNYNYNYNYNYNYNYNYNYNYN",
   "YNYNYNYNYNY9N8Y6N10Y8N8Y8N8Y6N10Y8N8Y8N8Y14N2Y8N8Y8N8Y8N8Y5NY2N6YN3Y3NY2N8Y4N2Y2N8Y8N10Y3NY2",
   "N342YN33Y16N4YN843Y26N1862Y48NYN3Y2NYNYNYN6YN2YN10YNYNYNYNYNYNYNYNYNYNYNYNYNYNYNYNYNYNYNYNYNY",
   "NYNYNYNYNYNYNYNYNYNYNYNYNYNYNYNYNYNYNYNYNYNYNYNYNYNYNYNYN8YNYN4YN12Y38NYN5YN30995YNYNYNYNYNYN",
   "YNYNYNYNYNYNYNYNYNYNYNYNYNYNYNYNYN19YNYNYNYNYNYNYNYNYNYNYNYNYNYN135YNYNYNYNYNYNYN3YNYNYNYNYNY",
   "NYNYNYNYNYNYNYNYNYNYNYNYNYNYNYNYNYNYNYNYNYNYNYNYNYN10YNYN2YNYNYNYNYN4YN4YNY2N2YNYNYNYNYNYNYNY",
   "NYNYN11YNYNYNYNYNYNYNYN4YNYN2YN3YN5YNYNYN26YN860YN28Y80N20288Y7N12Y5N1065Y26N1229Y40N136Y36",
   "N155Y11NY15NY7NY2N1795Y51N125Y22N2874Y32N21888Y32N31394Y34N988860"]

/-- Characters that differ in a text without regard to case. -/
def casefoldedLines : List String :=
  ["N65Y26N90YN10Y23NY8N32YNYNYNYNYNYNYNYNYNYNYNYNYNYNYNYNYNYNYNYNYNYNYNYNYNYNYNYN2YNYNYNYNYNYNYN",
   "YNY2NYNYNYNYNYNYNYNYNYNYNYNYNYNYNYNYNYNYNYNYNYNYNY2NYNYNYNY2NYNY2NY3N2Y4NY2NY3N3Y2NY2NYNYNY2N",
   "YN2YNY2NY3NYNY2N3YN7Y2NY2NY2NYNYNYNYNYNYNYNYN2YNYNYNYNYNYNYNYNYN2Y2NYNY3NYNYNYNYNYNYNYNYNYNYN",
   "YNYNYNYNYNYNYNYNYNYNYNYNYNYNYNYNYNYNYN7Y2NY2N2YNY4NYNYNYNYN246YN42YNYN3YN8YN6YNY3NYNY2NY17NY9",
   "N22YN12Y3N3Y2NYNYNYNYNYNYNYNYNYNYNYNYNY2N2Y2NYNY2N2Y51N48YNYNYNYNYNYNYNYNYNYNYNYNYNYNYNYNYN9Y",
   "NYNYNYNYNYNYNYNYNYNYNYNYNYNYNYNYNYNYNYNYNYNYNYNYNYNYNY2NYNYNYNYNYNYN2YNYNYNYNYNYNYNYNYNYNYNYN",
   "YNYNYNYNYNYNYNYNYNYNYNYNYNYNYNYNYNYNYNYNYNYNYNYNYNYNYNYNYNYNYNYNYNYNYNYN2Y38N48YN2840Y38NYN5Y",
   "N810Y6N2178Y10N6Y43N2Y3N320YNYNYNYNYNYNYNYNYNYNYNYNYNYNYNYNYNYNYNYNYNYNYNYNYNYNYNYNYNYNYNYNYN",
   "YNYNYNYNYNYNYNYNYNYNYNYNYNYNYNYNYNYNYNYNYNYNYNYNYNYNYNYNYNYNYNYNYNYNYNYNYNYNYNYNYNYN5Y2N2YNYN",
   "YNYNYNYNYNYNYNYNYNYNYNYNYNYNYNYNYNYNYNYNYNYNYNYNYNYNYNYNYNYNYNYNYNYNYNYNYNYNYNYNYNYNYNYNYNYNY",
   "N9Y8N8Y6N10Y8N8Y8N8Y6N11YNYNYNYN8Y8N16Y48N2Y3N2Y6N5Y3N2Y6N11Y4N12Y5N5Y3N2Y6N297YN3Y2N6YN45Y16",
   "N19YN818Y26N1840Y48N48YNY3N2YNYNYNY4NYN2YN8Y3NYNYNYNYNYNYNYNYNYNYNYNYNYNYNYNYNYNYNYNYNYNYNYNY",
   "NYNYNYNYNYNYNYNYNYNYNYNYNYNYNYNYNYNYNYNYNYNYNYNYNYN8YNYN4YN31053YNYNYNYNYNYNYNYNYNYNYNYNYNYNY",
   "NYNYNYNYNYNYNYNYN19YNYNYNYNYNYNYNYNYNYNYNYNYNYN135YNYNYNYNYNYNYN3YNYNYNYNYNYNYNYNYNYNYNYNYNYN",
   "YNYNYNYNYNYNYNYNYNYNYNYNYNYNYNYNYN10YNYNY2NYNYNYNYN4YNYN2YNYN3YNYNYNYNYNYNYNYNYNYNY5NY5NYNYNY",
   "NYNYNYNYNY4NYNY2N3YN5YNYNYNYN24YN890Y80N20288Y7N12Y5N1033Y26N1221Y40N136Y36N156Y11NY15NY7NY2",
   "N1770Y51N157Y22N2874Y32N21888Y32N31392Y34N988894"]

end Assay
