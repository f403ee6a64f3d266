import SecurityLint.Pattern.Property.Derived
import SecurityLint.Pattern.Property.Script

/-!
The classes of characters that decide where text may be broken into user-perceived characters,
words and sentences.
-/
namespace SecurityLint.Pattern

open GeneralCategory Property

namespace Break

def carriageReturn : CharSet := .ofRanges [(0xd, 0xd)]

def lineFeed : CharSet := .ofRanges [(0xa, 0xa)]

def zeroWidthJoiner : CharSet := .ofRanges [(0x200d, 0x200d)]

/-- Syllables of Hangul without a final consonant. -/
def openSyllable : CharSet := .ofCodePoints (List.range' 0xac00 399 28)

def syllable : CharSet := .ofRanges [(0xac00, 0xd7a3)]

def ofScript (name : String) : CharSet :=
  (Script.named? name).getD .none

def graphemeControl : CharSet := .diff
  (.unions [lineSeparator, paragraphSeparator, control, format, unassigned.inter defaultIgnorable])
  (.unions [carriageReturn, lineFeed, joinControl, prependedConcatenationMark, graphemeExtend])

/-- Marks that take up room and still stand apart, in Burmese and related scripts. -/
def separateMark : CharSet := .ofRanges [
  (0x102b, 0x102c), (0x1038, 0x1038), (0x1062, 0x1064), (0x1067, 0x106d), (0x1083, 0x1083),
  (0x1087, 0x108c), (0x108f, 0x108f), (0x109a, 0x109c), (0x1a61, 0x1a61), (0x1a63, 0x1a64),
  (0xaa7b, 0xaa7b), (0xaa7d, 0xaa7d), (0x11720, 0x11721)]

def graphemeClasses : NamedSets := [
  (["cn", "control"], graphemeControl),
  (["cr"], carriageReturn),
  (["ex", "extend"], (graphemeExtend.union emojiModifier).diff zeroWidthJoiner),
  (["l"], .ofRanges [(0x1100, 0x115f), (0xa960, 0xa97c)]),
  (["lf"], lineFeed),
  (["lv"], openSyllable),
  (["lvt"], syllable.diff openSyllable),
  (["pp", "prepend"], .unions [
    prependedConcatenationMark,
    .ofRanges [
      (0xd4e, 0xd4e), (0x111c2, 0x111c3), (0x113d1, 0x113d1), (0x1193f, 0x1193f),
      (0x11941, 0x11941), (0x11a3a, 0x11a3a), (0x11a84, 0x11a89), (0x11d46, 0x11d46),
      (0x11f02, 0x11f02)]]),
  (["ri", "regionalindicator"], regionalIndicator),
  (["sm", "spacingmark"], .unions [
    spacingMark.diff (graphemeExtend.union separateMark),
    .ofRanges [(0xe33, 0xe33), (0xeb3, 0xeb3)]]),
  (["t"], .ofRanges [(0x11a8, 0x11ff), (0xd7cb, 0xd7fb)]),
  (["v"], .ofRanges [
    (0x1160, 0x11a7), (0xd7b0, 0xd7c6), (0x16d63, 0x16d63), (0x16d67, 0x16d6a)]),
  (["zwj"], zeroWidthJoiner)]

def wordExtend : CharSet :=
  (CharSet.unions [graphemeExtend, spacingMark, emojiModifier]).diff zeroWidthJoiner

def hebrewLetter : CharSet := (ofScript "hebrew").inter otherLetter

def katakana : CharSet := .unions [
  ofScript "katakana",
  .ofRanges [
    (0x3031, 0x3035), (0x309b, 0x309c), (0x30a0, 0x30a0), (0x30fc, 0x30fc), (0xff70, 0xff70)]]

/-- The decimal mark of Arabic and the signs that stand before or among digits. -/
def wordNumeric : CharSet := .diff
  (.unions [
    decimalNumber, prependedConcatenationMark, .ofRanges [(0x66b, 0x66b), (0x19da, 0x19da)]])
  (.ofRanges [(0x70f, 0x70f)])

/-- Signs that belong to words though they are not alphabetic. -/
def wordSign : CharSet := .ofRanges [
  (0x2c2, 0x2c5), (0x2d2, 0x2d7), (0x2de, 0x2df), (0x2e5, 0x2eb), (0x2ed, 0x2ed), (0x2ef, 0x2ff),
  (0x55a, 0x55c), (0x55e, 0x55e), (0x58a, 0x58a), (0x5f3, 0x5f3), (0x70f, 0x70f),
  (0xa708, 0xa716), (0xa720, 0xa721), (0xa789, 0xa78a), (0xab5b, 0xab5b)]

/-- The characters of scripts that are written without spaces between words. -/
def spaceless : CharSet := .unions (
  ["thai", "lao", "myanmar", "khmer", "newtailue", "taile", "taitham", "taiviet", "ahom"].map
    ofScript)

def wordLetter : CharSet := .diff
  (alphabetic.union wordSign)
  (.unions [ideographic, katakana, ofScript "hiragana", hebrewLetter, wordExtend, spaceless])

def wordClasses : NamedSets := [
  (["le", "aletter"], wordLetter),
  (["cr"], carriageReturn),
  (["dq", "doublequote"], .ofRanges [(0x22, 0x22)]),
  (["extend"], wordExtend),
  (["ex", "extendnumlet"], connectorPunctuation.union (.ofRanges [(0x202f, 0x202f)])),
  (["fo", "format"], format.diff (.unions [
    .ofRanges [(0x200b, 0x200d)], prependedConcatenationMark, graphemeExtend])),
  (["hl", "hebrewletter"], hebrewLetter),
  (["ka", "katakana"], katakana),
  (["lf"], lineFeed),
  (["ml", "midletter"], midLetter),
  (["mn", "midnum"], .ofRanges [
    (0x2c, 0x2c), (0x3b, 0x3b), (0x37e, 0x37e), (0x589, 0x589), (0x60c, 0x60d), (0x66c, 0x66c),
    (0x7f8, 0x7f8), (0x2044, 0x2044), (0xfe50, 0xfe50), (0xfe54, 0xfe54), (0xff0c, 0xff0c),
    (0xff1b, 0xff1b)]),
  (["mb", "midnumlet"], midNumLet),
  (["nl", "newline"], .ofRanges [(0xb, 0xc), (0x85, 0x85), (0x2028, 0x2029)]),
  (["nu", "numeric"], wordNumeric),
  (["ri", "regionalindicator"], regionalIndicator),
  (["sq", "singlequote"], singleQuote),
  (["wsegspace"], .ofRanges [
    (0x20, 0x20), (0x1680, 0x1680), (0x2000, 0x2006), (0x2008, 0x200a), (0x205f, 0x205f),
    (0x3000, 0x3000)]),
  (["zwj"], zeroWidthJoiner)]

def fullStop : CharSet := .ofRanges [
  (0x2e, 0x2e), (0x2024, 0x2024), (0xfe52, 0xfe52), (0xff0e, 0xff0e)]

def sentenceSeparator : CharSet := .ofRanges [(0x85, 0x85), (0x2028, 0x2029)]

def sentenceExtend : CharSet := .unions [graphemeExtend, spacingMark, zeroWidthJoiner]

def sentenceLower : CharSet := lowercase.diff (georgianSmall.union graphemeExtend)

def sentenceUpper : CharSet := .diff
  (uppercase.union titlecaseLetter) (.ofRanges [(0x1c90, 0x1cba), (0x1cbd, 0x1cbf)])

/-- Brackets, quotation marks and ornaments that are used like them. -/
def closing : CharSet := .diff
  (.unions [
    openPunctuation, closePunctuation, initialPunctuation, finalPunctuation,
    quotationMark.diff (.ofRanges [(0xff02, 0xff02), (0xff07, 0xff07)]),
    .ofRanges [
      (0x275b, 0x2760), (0x2e00, 0x2e01), (0x2e06, 0x2e08), (0x2e0b, 0x2e0b),
      (0x1f676, 0x1f678)]])
  (sentenceTerminal.union fullStop)

def sentenceClasses : NamedSets := [
  (["at", "aterm"], fullStop),
  (["cl", "close"], closing),
  (["cr"], carriageReturn),
  (["ex", "extend"], sentenceExtend),
  (["fo", "format"], format.diff (.unions [
    joinControl, prependedConcatenationMark.diff (.ofRanges [(0x70f, 0x70f)]), graphemeExtend])),
  (["lf"], lineFeed),
  (["lo", "lower"], sentenceLower),
  (["nu", "numeric"], wordNumeric.union (.ofRanges [(0x66c, 0x66c)])),
  (["le", "oletter"], .diff
    (alphabetic.union (.ofRanges [(0x5f3, 0x5f3)]))
    (.unions [sentenceLower, sentenceUpper, sentenceExtend])),
  (["sc", "scontinue"], .ofRanges [
    (0x2c, 0x2d), (0x3a, 0x3b), (0x37e, 0x37e), (0x55d, 0x55d), (0x60c, 0x60d), (0x7f8, 0x7f8),
    (0x1802, 0x1802), (0x1808, 0x1808), (0x2013, 0x2014), (0x3001, 0x3001), (0xfe10, 0xfe11),
    (0xfe13, 0xfe14), (0xfe31, 0xfe32), (0xfe50, 0xfe51), (0xfe54, 0xfe55), (0xfe58, 0xfe58),
    (0xfe63, 0xfe63), (0xff0c, 0xff0d), (0xff1a, 0xff1b), (0xff64, 0xff64)]),
  (["st", "sterm"], sentenceTerminal.diff fullStop),
  (["se", "sep"], sentenceSeparator),
  (["sp"], whiteSpace.diff (.unions [sentenceSeparator, lineFeed, carriageReturn])),
  (["up", "upper"], sentenceUpper)]

end Break

end SecurityLint.Pattern
