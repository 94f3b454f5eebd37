import DocFilter.Regex.CharClass

/-!
# Regular expressions as they are written

A term keeps flags, groups and classes as they stand in the text of an expression without
lookaround and back references.  Its depth counts the nesting of everything that has parts.
-/

namespace DocFilter
namespace Regex

/-- Conditions on a position that are written without regard to the flags. -/
inductive Anchor where
  /-- A caret. -/
  | caret
  /-- A dollar sign. -/
  | dollar
  /-- The start of the text. -/
  | textStart
  /-- The end of the text. -/
  | textEnd
  /-- Between a word character and none. -/
  | wordBoundary
  /-- Not between a word character and none. -/
  | notWordBoundary
  /-- Before the first character of a word. -/
  | wordStart
  /-- Behind the last character of a word. -/
  | wordEnd
  /-- Not behind a word character. -/
  | wordStartHalf
  /-- Not before a word character. -/
  | wordEndHalf
deriving DecidableEq, Repr

/-- What the parentheses around a term do. -/
inductive GroupKind where
  /-- They record what the term matches under an index. -/
  | capture (index : Nat)
  /-- They change flags for the term. -/
  | flags (changes : FlagChange)
deriving DecidableEq, Repr

/-- A regular expression without lookaround and back references. -/
inductive Term where
  /-- Matches the empty text. -/
  | empty
  /-- Changes flags for what follows in the same group. -/
  | setFlags (changes : FlagChange)
  /-- A character. -/
  | literal (c : Char)
  /-- A character given as one byte by two hexadecimal digits. -/
  | byte (c : Char)
  /-- A dot. -/
  | dot
  /-- A condition on the position. -/
  | anchor (a : Anchor)
  /-- A class with a letter. -/
  | letterClass (kind : LetterClass) (negated : Bool)
  /-- A class given by a property of its members. -/
  | property (members : Text.Ranges) (negated : Bool)
  /-- A class in brackets. -/
  | charClass (negated : Bool) (body : ClassItem)
  /-- At least `least` and at most `most` matches of a term in a row. -/
  | repeated (body : Term) (least : Nat) (most : Option Nat) (greedy : Bool)
  /-- A term in parentheses. -/
  | group (kind : GroupKind) (body : Term)
  /-- One of two or more terms, the first that fits. -/
  | alternatives (branches : List Term)
  /-- Two or more terms one after the other. -/
  | sequence (parts : List Term)
deriving Repr

namespace Term

/-- Terms one after the other as one term. -/
def ofParts : List Term → Term
  | [] => .empty
  | [t] => t
  | ts => .sequence ts

/-- The character that a term consists of. -/
def char? : Term → Option Char
  | .literal c => some c
  | .byte c => some c
  | _ => none

/-- Branches as one term. -/
def ofBranches : List Term → Term
  | [] => .empty
  | [t] => t
  | ts => .alternatives ts

mutual

/-- How deep classes, repetitions, groups, alternatives and sequences nest in a term. -/
def depth : Term → Nat
  | .charClass _ body => body.depth + 1
  | .repeated body _ _ _ => depth body + 1
  | .group _ body => depth body + 1
  | .alternatives ts => depthAll ts + 1
  | .sequence ts => depthAll ts + 1
  | _ => 0

/-- The greatest depth in a list of terms. -/
def depthAll : List Term → Nat
  | [] => 0
  | t :: ts => max (depth t) (depthAll ts)

end

end Term

end Regex
end DocFilter
