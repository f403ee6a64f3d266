import SecurityLint.Pattern.Property.Age
import SecurityLint.Pattern.Property.Break

/-!
Character properties that a pattern can ask for by name: a property alone, or a property and its
value. Names are compared without case, blanks, underscores and hyphens, and may begin with `is`.
-/
namespace SecurityLint.Pattern.Property

def dropIs : List Char → List Char
  | i :: s :: rest => if i.toLower == 'i' && s.toLower == 's' then rest else i :: s :: rest
  | cs => cs

/-- The form of a name that is looked up. The name `isc` is that of a property which no pattern can
ask for, and not that of the category `c`. -/
def canonicalName (name : List Char) : String :=
  let rest := dropIs name
  let kept := (rest.filter fun c =>
    c.toNat < 0x80 && !(c == ' ' || c == '_' || c == '-')).map Char.toLower
  if kept == ['c'] && rest.length < name.length then "isc" else String.ofList kept

/-- The properties that a character has or has not. -/
def named : NamedSets := [
  (["ahex", "asciihexdigit"], asciiHexDigit),
  (["alpha", "alphabetic"], alphabetic),
  (["bidic", "bidicontrol"], bidiControl),
  (["bidim", "bidimirrored"], bidiMirrored),
  (["ci", "caseignorable"], caseIgnorable),
  (["cased"], cased),
  (["cwcf", "changeswhencasefolded"], changesWhenCasefolded),
  (["cwcm", "changeswhencasemapped"], changesWhenCasemapped),
  (["cwl", "changeswhenlowercased"], changesWhenLowercased),
  (["cwt", "changeswhentitlecased"], changesWhenTitlecased),
  (["cwu", "changeswhenuppercased"], changesWhenUppercased),
  (["dash"], dash),
  (["di", "defaultignorablecodepoint"], defaultIgnorable),
  (["dep", "deprecated"], deprecated),
  (["dia", "diacritic"], diacritic),
  (["emoji"], emoji),
  (["ecomp", "emojicomponent"], emojiComponent),
  (["emod", "emojimodifier"], emojiModifier),
  (["ebase", "emojimodifierbase"], emojiModifierBase),
  (["epres", "emojipresentation"], emojiPresentation),
  (["extpict", "extendedpictographic"], extendedPictographic),
  (["ext", "extender"], extender),
  (["grbase", "graphemebase"], graphemeBase),
  (["grext", "graphemeextend"], graphemeExtend),
  (["grlink", "graphemelink"], graphemeLink),
  (["hex", "hexdigit"], hexDigit),
  (["hyphen"], hyphen),
  (["idsb", "idsbinaryoperator"], idsBinaryOperator),
  (["idst", "idstrinaryoperator"], idsTrinaryOperator),
  (["idsu", "idsunaryoperator"], idsUnaryOperator),
  (["idcompatmathcontinue"], idCompatMathContinue),
  (["idcompatmathstart"], idCompatMathStart),
  (["idc", "idcontinue"], idContinue),
  (["ids", "idstart"], idStart),
  (["ideo", "ideographic"], ideographic),
  (["joinc", "joincontrol"], joinControl),
  (["loe", "logicalorderexception"], logicalOrderException),
  (["lower", "lowercase"], lowercase),
  (["math"], math),
  (["mcm", "modifiercombiningmark"], modifierCombiningMark),
  (["nchar", "noncharactercodepoint"], noncharacter),
  (["oalpha", "otheralphabetic"], otherAlphabetic),
  (["odi", "otherdefaultignorablecodepoint"], otherDefaultIgnorable),
  (["ogrext", "othergraphemeextend"], otherGraphemeExtend),
  (["oidc", "otheridcontinue"], otherIdContinue),
  (["oids", "otheridstart"], otherIdStart),
  (["olower", "otherlowercase"], otherLowercase),
  (["omath", "othermath"], otherMath),
  (["oupper", "otheruppercase"], otherUppercase),
  (["patsyn", "patternsyntax"], patternSyntax),
  (["patws", "patternwhitespace"], patternWhiteSpace),
  (["pcm", "prependedconcatenationmark"], prependedConcatenationMark),
  (["qmark", "quotationmark"], quotationMark),
  (["radical"], radical),
  (["ri", "regionalindicator"], regionalIndicator),
  (["sterm", "sentenceterminal"], sentenceTerminal),
  (["sd", "softdotted"], softDotted),
  (["term", "terminalpunctuation"], terminalPunctuation),
  (["uideo", "unifiedideograph"], unifiedIdeograph),
  (["upper", "uppercase"], uppercase),
  (["vs", "variationselector"], variationSelector),
  (["space", "wspace", "whitespace"], whiteSpace),
  (["xidc", "xidcontinue"], xidContinue),
  (["xids", "xidstart"], xidStart)]

/-- A category by its name. -/
def category? (name : String) : Option CharSet :=
  GeneralCategory.named.find? name

/-- What is asked for by a name alone: a property, a category or a script. -/
def alone? (name : List Char) : Option CharSet :=
  let name := canonicalName name
  named.find? name <|> category? name <|> Script.named? name

/-- What is asked for by the name of a property and a value of it. -/
def valued? (name value : List Char) : Option CharSet :=
  let value := canonicalName value
  match canonicalName name with
  | "gc" | "generalcategory" => category? value
  | "sc" | "script" => Script.named? value
  | "scx" | "scriptextensions" => Script.usedIn? value
  | "age" => Age.upTo? value
  | "gcb" | "graphemeclusterbreak" => Break.graphemeClasses.find? value
  | "wb" | "wordbreak" => Break.wordClasses.find? value
  | "sb" | "sentencebreak" => Break.sentenceClasses.find? value
  | _ => none

/-- Splits a text at the first place where `mark` stands. -/
def splitAt? (mark : List Char) : List Char → Option (List Char × List Char)
  | [] => none
  | c :: rest =>
    if mark.isPrefixOf (c :: rest) then some ([], (c :: rest).drop mark.length)
    else (splitAt? mark rest).map fun (before, behind) => (c :: before, behind)

/-- The property asked for in braces, a name or a name and its value, and whether its complement is
meant. -/
def set? (inner : List Char) : Option (CharSet × Bool) :=
  match splitAt? ['!', '='] inner with
  | some (name, value) => (valued? name value).map (·, true)
  | none =>
    match (splitAt? [':'] inner).or (splitAt? ['='] inner) with
    | some (name, value) => (valued? name value).map (·, false)
    | none => (alone? inner).map (·, false)

end SecurityLint.Pattern.Property
