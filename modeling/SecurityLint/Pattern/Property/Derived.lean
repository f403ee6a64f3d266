import SecurityLint.Pattern.Property.GeneralCategory
import SecurityLint.Pattern.Property.Listed

/-!
Properties of characters that follow from their categories, from lists and from their case
variants.
-/
namespace SecurityLint.Pattern.Property

open GeneralCategory

def lowercase : CharSet := lowercaseLetter.union otherLowercase

def uppercase : CharSet := uppercaseLetter.union otherUppercase

def cased : CharSet := .unions [lowercase, uppercase, titlecaseLetter]

def alphabetic : CharSet := .unions [letter, letterNumber, otherAlphabetic]

def math : CharSet := mathSymbol.union otherMath

/-- Punctuation between the letters of a word. -/
def midLetter : CharSet := .ofRanges [
  (0x3a, 0x3a), (0xb7, 0xb7), (0x387, 0x387), (0x55f, 0x55f), (0x5f4, 0x5f4), (0x2027, 0x2027),
  (0xfe13, 0xfe13), (0xfe55, 0xfe55), (0xff1a, 0xff1a)]

/-- Punctuation between letters or digits. -/
def midNumLet : CharSet := .ofRanges [
  (0x2e, 0x2e), (0x2018, 0x2019), (0x2024, 0x2024), (0xfe52, 0xfe52), (0xff07, 0xff07),
  (0xff0e, 0xff0e)]

def singleQuote : CharSet := .ofRanges [(0x27, 0x27)]

def caseIgnorable : CharSet := .unions [
  nonspacingMark, enclosingMark, format, modifierLetter, modifierSymbol, midLetter, midNumLet,
  singleQuote]

/-- Characters that differ in case from some other one. -/
def hasVariant : CharSet := .ofCodePoints (Text.caseVariants.map Prod.fst)

/-- Characters that become several ones in upper case, and the small i without a dot. -/
def uppercaseGrows : CharSet := .ofRanges [
  (0x131, 0x131), (0x149, 0x149), (0x1f0, 0x1f0), (0x587, 0x587), (0x1e96, 0x1e9a),
  (0x1f50, 0x1f50), (0x1f52, 0x1f52), (0x1f54, 0x1f54), (0x1f56, 0x1f56), (0x1fb2, 0x1fb2),
  (0x1fb4, 0x1fb4), (0x1fb6, 0x1fb7), (0x1fc2, 0x1fc2), (0x1fc4, 0x1fc4), (0x1fc6, 0x1fc7),
  (0x1fd2, 0x1fd2), (0x1fd6, 0x1fd7), (0x1fe2, 0x1fe2), (0x1fe4, 0x1fe4), (0x1fe6, 0x1fe7),
  (0x1ff2, 0x1ff2), (0x1ff4, 0x1ff4), (0x1ff6, 0x1ff7), (0xfb00, 0xfb04), (0xfb13, 0xfb17)]

/-- Small letters of Georgian, which stand for themselves at the start of a word. -/
def georgianSmall : CharSet := .ofRanges [(0x10d0, 0x10fa), (0x10fd, 0x10ff)]

/-- Capitals of Cherokee, the folded forms of its small letters. -/
def cherokeeCapital : CharSet := .ofRanges [(0x13a0, 0x13f5)]

def changesWhenLowercased : CharSet := .unions [
  hasVariant.inter (.unions [uppercase, titlecaseLetter]), .ofRanges [(0x130, 0x130)]]

def changesWhenUppercased : CharSet := .unions [
  hasVariant.inter (.unions [lowercase, titlecaseLetter]), uppercaseGrows]

def changesWhenTitlecased : CharSet := .unions [
  (hasVariant.inter lowercase).diff georgianSmall, uppercaseGrows,
  .ofRanges [(0x1c4, 0x1c4), (0x1c7, 0x1c7), (0x1ca, 0x1ca), (0x1f1, 0x1f1)]]

def changesWhenCasefolded : CharSet := .unions [
  changesWhenLowercased.diff cherokeeCapital,
  .ofRanges [
    (0xb5, 0xb5), (0xdf, 0xdf), (0x149, 0x149), (0x17f, 0x17f), (0x345, 0x345), (0x3c2, 0x3c2),
    (0x3d0, 0x3d1), (0x3d5, 0x3d6), (0x3f0, 0x3f1), (0x3f5, 0x3f5), (0x587, 0x587),
    (0x13f8, 0x13fd), (0x1c80, 0x1c88), (0x1e9a, 0x1e9b), (0x1f80, 0x1f87), (0x1f90, 0x1f97),
    (0x1fa0, 0x1fa7), (0x1fb2, 0x1fb4), (0x1fb7, 0x1fb7), (0x1fc2, 0x1fc4), (0x1fc7, 0x1fc7),
    (0x1ff2, 0x1ff4), (0x1ff7, 0x1ff7), (0xab70, 0xabbf), (0xfb00, 0xfb06), (0xfb13, 0xfb17)]]

def changesWhenCasemapped : CharSet := .unions [
  changesWhenLowercased, changesWhenUppercased, changesWhenTitlecased]

def graphemeExtend : CharSet := .unions [nonspacingMark, enclosingMark, otherGraphemeExtend]

def graphemeBase : CharSet := .diff
  (.unions [letter, mark, number, punctuation, symbol, spaceSeparator]) graphemeExtend

/-- Marks of layout that are shown or take up a line of their own. -/
def visibleFormat : CharSet := .unions [
  prependedConcatenationMark, .ofRanges [(0xfff9, 0xfffb), (0x13430, 0x13440)]]

def defaultIgnorable : CharSet := .diff
  (.unions [otherDefaultIgnorable, format, variationSelector]) (whiteSpace.union visibleFormat)

def patternReserved : CharSet := patternSyntax.union patternWhiteSpace

def idStart : CharSet := .diff
  (.unions [letter, letterNumber, otherIdStart]) patternReserved

def idContinue : CharSet := .diff
  (.unions [idStart, nonspacingMark, spacingMark, decimalNumber, connectorPunctuation,
    otherIdContinue])
  patternReserved

/-- Characters whose compatible form is no identifier. -/
def unstableIdentifier : CharSet := .ofRanges [
  (0x37a, 0x37a), (0x309b, 0x309c), (0xfc5e, 0xfc63), (0xfdfa, 0xfdfb), (0xfe70, 0xfe70),
  (0xfe72, 0xfe72), (0xfe74, 0xfe74), (0xfe76, 0xfe76), (0xfe78, 0xfe78), (0xfe7a, 0xfe7a),
  (0xfe7c, 0xfe7c), (0xfe7e, 0xfe7e)]

def xidContinue : CharSet := idContinue.diff unstableIdentifier

/-- An identifier does not begin with a vowel sign either. -/
def xidStart : CharSet := .diff idStart (.unions [
  unstableIdentifier, .ofRanges [(0xe33, 0xe33), (0xeb3, 0xeb3), (0xff9e, 0xff9f)]])

end SecurityLint.Pattern.Property
