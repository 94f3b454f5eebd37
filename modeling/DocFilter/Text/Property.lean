import DocFilter.Text.Age
import DocFilter.Text.Blank
import DocFilter.Text.Category
import DocFilter.Text.Property.Derived
import DocFilter.Text.Property.Emoji
import DocFilter.Text.Property.Punctuation
import DocFilter.Text.Property.Shape
import DocFilter.Text.Script
import DocFilter.Text.Segment.Grapheme
import DocFilter.Text.Segment.Sentence
import DocFilter.Text.Segment.Word

/-!
# Properties by name

A set of code points can be named by a property, by a general category or by a script, in this
order, by the value of one of the last two, by an age, and by a class for graphemes, words or
sentences.  Names are compared in small letters, without blanks, hyphens, underscores and
characters that are not ASCII, and without `is` before them.
-/

namespace DocFilter
namespace Text
namespace Property

/-- Code points that a grapheme can begin with. -/
def graphemeBase : Ranges :=
  Category.assignedPoints.diff
    (Ranges.unions
      [controls, formatCharacters, privateUse, lineSeparators, paragraphSeparators,
        graphemeExtend])

/-- The code points of the properties that hold or do not hold, with their names. -/
def named : List (List String × Ranges) :=
  [(["ahex", "asciihexdigit"], asciiHexDigit),
    (["alpha", "alphabetic"], alphabetic),
    (["bidic", "bidicontrol"], bidiControl),
    (["bidim", "bidimirrored"], bidiMirrored),
    (["ci", "caseignorable"], caseIgnorable),
    (["cased"], cased),
    (["cwcf", "changeswhencasefolded"], changesWhenCasefolded),
    (["cwcm", "changeswhencasemapped"], changesWhenCasemapped),
    (["cwl", "changeswhenlowercased"], changesWhenLowercased),
    (["cwt", "changeswhentitlecased"], changesWhenTitlecased),
    (["cwu", "changeswhenuppercased"], changesWhenUppercased),
    (["dash"], dash),
    (["di", "defaultignorablecodepoint"], defaultIgnorableCodePoint),
    (["dep", "deprecated"], deprecated),
    (["dia", "diacritic"], diacritic),
    (["emoji"], emoji),
    (["ecomp", "emojicomponent"], emojiComponent),
    (["emod", "emojimodifier"], emojiModifier),
    (["ebase", "emojimodifierbase"], emojiModifierBase),
    (["epres", "emojipresentation"], emojiPresentation),
    (["extpict", "extendedpictographic"], extendedPictographic),
    (["ext", "extender"], extender),
    (["grbase", "graphemebase"], graphemeBase),
    (["grext", "graphemeextend"], graphemeExtend),
    (["grlink", "graphemelink"], graphemeLink),
    (["hex", "hexdigit"], hexDigit),
    (["hyphen"], hyphen),
    (["idcompatmathcontinue"], idCompatMathContinue),
    (["idcompatmathstart"], idCompatMathStart),
    (["idsb", "idsbinaryoperator"], idsBinaryOperator),
    (["idst", "idstrinaryoperator"], idsTrinaryOperator),
    (["idsu", "idsunaryoperator"], idsUnaryOperator),
    (["idc", "idcontinue"], idContinue),
    (["ids", "idstart"], idStart),
    (["ideo", "ideographic"], ideographic),
    (["joinc", "joincontrol"], joinControl),
    (["loe", "logicalorderexception"], logicalOrderException),
    (["lower", "lowercase"], lowercase),
    (["math"], math),
    (["mcm", "modifiercombiningmark"], modifierCombiningMark),
    (["nchar", "noncharactercodepoint"], noncharacterCodePoint),
    (["oalpha", "otheralphabetic"], alphabeticExtras),
    (["odi", "otherdefaultignorablecodepoint"], otherDefaultIgnorable),
    (["ogrext", "othergraphemeextend"], graphemeExtendExtras),
    (["oidc", "otheridcontinue"], idContinueExtras),
    (["oids", "otheridstart"], idStartExtras),
    (["olower", "otherlowercase"], lowercaseExtras),
    (["omath", "othermath"], mathExtras),
    (["oupper", "otheruppercase"], uppercaseExtras),
    (["patsyn", "patternsyntax"], patternSyntax),
    (["patws", "patternwhitespace"], patternWhiteSpace),
    (["pcm", "prependedconcatenationmark"], prependedConcatenationMark),
    (["qmark", "quotationmark"], quotationMark),
    (["radical"], radical),
    (["ri", "regionalindicator"], regionalIndicator),
    (["sterm", "sentenceterminal"], sentenceTerminal),
    (["sd", "softdotted"], softDotted),
    (["term", "terminalpunctuation"], terminalPunctuation),
    (["uideo", "unifiedideograph"], unifiedIdeograph),
    (["upper", "uppercase"], uppercase),
    (["vs", "variationselector"], variationSelector),
    (["wspace", "whitespace", "space"], whiteSpace),
    (["xidc", "xidcontinue"], xidContinue),
    (["xids", "xidstart"], xidStart)]

/-- A name without what does not count in it.  What remains of `is c` is `isc`, which names no
category. -/
def normalName (cs : List Char) : String :=
  let bare := fun (cs : List Char) =>
    (cs.filter fun c => c.toNat < 128 && c != ' ' && c != '_' && c != '-').map Char.toLower
  match cs with
  | i :: s :: rest =>
      if i.toLower = 'i' ∧ s.toLower = 's' then
        if bare rest = ['c'] then "isc" else String.ofList (bare rest)
      else String.ofList (bare cs)
  | _ => String.ofList (bare cs)

/-- The code points that a name stands for. -/
def rangesOfName? (name : List Char) : Option Ranges :=
  let name := normalName name
  match named.find? fun entry => entry.1.contains name with
  | some entry => some entry.2
  | none =>
      match Category.rangesOfName? name with
      | some s => some s
      | none => (Script.ofName? name).map Script.members

/-- The code points with a value of a property. -/
def rangesOfValue? (property value : List Char) : Option Ranges :=
  let property := normalName property
  let value := normalName value
  if ["gc", "generalcategory"].contains property then Category.rangesOfName? value
  else if ["sc", "script"].contains property then (Script.ofName? value).map Script.members
  else if ["scx", "scriptextensions"].contains property then
    (Script.ofName? value).map Script.extension
  else if property = "age" then Version.assignedBy? value
  else if ["gcb", "graphemeclusterbreak"].contains property then Grapheme.rangesOfName? value
  else if ["wb", "wordbreak"].contains property then WordBreak.rangesOfName? value
  else if ["sb", "sentencebreak"].contains property then SentenceBreak.rangesOfName? value
  else none

end Property
end Text
end DocFilter
