import DocFilter.Text.Category.Letter
import DocFilter.Text.Category.Mark
import DocFilter.Text.Category.Other
import DocFilter.Text.Category.Punctuation
import DocFilter.Text.Category.Symbol
import DocFilter.Text.Numeric

/-!
# General categories

Every code point has one general category; those that are not assigned have a category of their
own, and so have the surrogates, which stand for no character.  A name stands for one category or
for all of a major class; the category of the surrogates cannot be named.
-/

namespace DocFilter
namespace Text

/-- The general categories of characters. -/
inductive Category where
  | uppercaseLetter
  | lowercaseLetter
  | titlecaseLetter
  | modifierLetter
  | otherLetter
  | nonspacingMark
  | spacingMark
  | enclosingMark
  | decimalNumber
  | letterNumber
  | otherNumber
  | connectorPunctuation
  | dashPunctuation
  | openPunctuation
  | closePunctuation
  | initialPunctuation
  | finalPunctuation
  | otherPunctuation
  | mathSymbol
  | currencySymbol
  | modifierSymbol
  | otherSymbol
  | spaceSeparator
  | lineSeparator
  | paragraphSeparator
  | control
  | format
  | privateUse
  /-- No character has this category. -/
  | surrogate
  | unassigned
deriving DecidableEq, Repr

namespace Category

/-- The categories of letters. -/
def letter : List Category :=
  [.uppercaseLetter, .lowercaseLetter, .titlecaseLetter, .modifierLetter, .otherLetter]

/-- The categories of marks. -/
def mark : List Category :=
  [.nonspacingMark, .spacingMark, .enclosingMark]

/-- The categories of numbers. -/
def number : List Category :=
  [.decimalNumber, .letterNumber, .otherNumber]

/-- The categories of punctuation. -/
def punctuation : List Category :=
  [.connectorPunctuation, .dashPunctuation, .openPunctuation, .closePunctuation,
    .initialPunctuation, .finalPunctuation, .otherPunctuation]

/-- The categories of symbols. -/
def symbol : List Category :=
  [.mathSymbol, .currencySymbol, .modifierSymbol, .otherSymbol]

/-- The categories of separators. -/
def separator : List Category :=
  [.spaceSeparator, .lineSeparator, .paragraphSeparator]

/-- The categories of all other characters. -/
def other : List Category :=
  [.control, .format, .privateUse, .surrogate, .unassigned]

/-- The code points that stand for no character. -/
def surrogates : Ranges :=
  [(0xD800, 0xDFFF)]

/-- The characters of all categories but that of the unassigned. -/
def assignedPoints : Ranges :=
  Ranges.unions
    [uppercaseLetters, lowercaseLetters, titlecaseLetters, modifierLetters, otherLetters,
      nonspacingMarks, spacingMarks, enclosingMarks, decimalDigits, letterNumbers, otherNumerals,
      Text.connectorPunctuation, Text.dashPunctuation, Text.openPunctuation,
      Text.closePunctuation, Text.initialPunctuation, Text.finalPunctuation,
      Text.otherPunctuation, mathSymbols, currencySymbols, modifierSymbols, otherSymbols,
      spaceSeparators, lineSeparators, paragraphSeparators, controls, formatCharacters,
      Text.privateUse]

/-- The code points of a category. -/
def ranges : Category → Ranges
  | .uppercaseLetter => uppercaseLetters
  | .lowercaseLetter => lowercaseLetters
  | .titlecaseLetter => titlecaseLetters
  | .modifierLetter => modifierLetters
  | .otherLetter => otherLetters
  | .nonspacingMark => nonspacingMarks
  | .spacingMark => spacingMarks
  | .enclosingMark => enclosingMarks
  | .decimalNumber => decimalDigits
  | .letterNumber => letterNumbers
  | .otherNumber => otherNumerals
  | .connectorPunctuation => Text.connectorPunctuation
  | .dashPunctuation => Text.dashPunctuation
  | .openPunctuation => Text.openPunctuation
  | .closePunctuation => Text.closePunctuation
  | .initialPunctuation => Text.initialPunctuation
  | .finalPunctuation => Text.finalPunctuation
  | .otherPunctuation => Text.otherPunctuation
  | .mathSymbol => mathSymbols
  | .currencySymbol => currencySymbols
  | .modifierSymbol => modifierSymbols
  | .otherSymbol => otherSymbols
  | .spaceSeparator => spaceSeparators
  | .lineSeparator => lineSeparators
  | .paragraphSeparator => paragraphSeparators
  | .control => controls
  | .format => formatCharacters
  | .privateUse => Text.privateUse
  | .surrogate => surrogates
  | .unassigned => assignedPoints.complement

/-- The names of categories and of major classes, in small letters and without separators. -/
def namesOf : List (List String × List Category) :=
  [(["l", "letter"], letter),
    (["lc", "casedletter"], [.uppercaseLetter, .lowercaseLetter, .titlecaseLetter]),
    (["lu", "uppercaseletter"], [.uppercaseLetter]),
    (["ll", "lowercaseletter"], [.lowercaseLetter]),
    (["lt", "titlecaseletter"], [.titlecaseLetter]),
    (["lm", "modifierletter"], [.modifierLetter]),
    (["lo", "otherletter"], [.otherLetter]),
    (["m", "mark", "combiningmark"], mark),
    (["mn", "nonspacingmark"], [.nonspacingMark]),
    (["mc", "spacingmark"], [.spacingMark]),
    (["me", "enclosingmark"], [.enclosingMark]),
    (["n", "number"], number),
    (["nd", "decimalnumber", "digit"], [.decimalNumber]),
    (["nl", "letternumber"], [.letterNumber]),
    (["no", "othernumber"], [.otherNumber]),
    (["p", "punctuation", "punct"], punctuation),
    (["pc", "connectorpunctuation"], [.connectorPunctuation]),
    (["pd", "dashpunctuation"], [.dashPunctuation]),
    (["ps", "openpunctuation"], [.openPunctuation]),
    (["pe", "closepunctuation"], [.closePunctuation]),
    (["pi", "initialpunctuation"], [.initialPunctuation]),
    (["pf", "finalpunctuation"], [.finalPunctuation]),
    (["po", "otherpunctuation"], [.otherPunctuation]),
    (["s", "symbol"], symbol),
    (["sm", "mathsymbol"], [.mathSymbol]),
    (["sc", "currencysymbol"], [.currencySymbol]),
    (["sk", "modifiersymbol"], [.modifierSymbol]),
    (["so", "othersymbol"], [.otherSymbol]),
    (["z", "separator"], separator),
    (["zs", "spaceseparator"], [.spaceSeparator]),
    (["zl", "lineseparator"], [.lineSeparator]),
    (["zp", "paragraphseparator"], [.paragraphSeparator]),
    (["c", "other"], other),
    (["cc", "control", "cntrl"], [.control]),
    (["cf", "format"], [.format]),
    (["co", "privateuse"], [.privateUse]),
    (["cn", "unassigned"], [.unassigned])]

/-- The code points that a name of a category or of a major class stands for.  Three more names
stand for all code points, for those that are assigned and for those of ASCII. -/
def rangesOfName? (name : String) : Option Ranges :=
  match name with
  | "any" => some [(0, Ranges.maxPoint)]
  | "assigned" => some assignedPoints
  | "ascii" => some [(0, 127)]
  | _ =>
      (namesOf.find? fun entry => entry.1.contains name).map fun entry =>
        Ranges.unions (entry.2.map ranges)

end Category
end Text
end DocFilter
