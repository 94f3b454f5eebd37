import DocFilter.Regex.Term

/-!
# Core expressions

A core expression is what a term means once its flags are applied: characters become texts, classes
become sets of code points, anchors become conditions on the neighbours of a position, and
repetition knows which way it prefers.  A term has a core expression unless it needs a class that
its flags do not admit.

Core expressions are simplified as they are built.  Texts in a row are one text, branches that are
sets are one set, and what all branches begin with stands once before them.
-/

namespace DocFilter
namespace Regex

open Text

/-- Conditions on the two characters next to a position. -/
inductive Look where
  /-- There is none before it. -/
  | textStart
  /-- There is none behind it. -/
  | textEnd
  /-- A line starts here. -/
  | lineStart (crlf : Bool)
  /-- A line ends here. -/
  | lineEnd (crlf : Bool)
  /-- Exactly one of the two is a word character. -/
  | boundary (unicode : Bool)
  /-- Both or neither are word characters. -/
  | noBoundary (unicode : Bool)
  /-- Only the one behind is a word character. -/
  | wordStart (unicode : Bool)
  /-- Only the one before is a word character. -/
  | wordEnd (unicode : Bool)
  /-- The one before is no word character. -/
  | wordStartHalf (unicode : Bool)
  /-- The one behind is no word character. -/
  | wordEndHalf (unicode : Bool)
deriving DecidableEq, Repr

namespace Look

/-- Is there a word character? -/
def isWordAt (unicode : Bool) : Option Char → Bool
  | some c => if unicode then isWord c else isAsciiWord c
  | none => false

/-- Does the condition hold between two neighbours? -/
def holds (before behind : Option Char) : Look → Bool
  | .textStart => before.isNone
  | .textEnd => behind.isNone
  | .lineStart false => before.isNone || before == some '\n'
  | .lineStart true =>
      before.isNone || before == some '\n' || (before == some '\r' && behind != some '\n')
  | .lineEnd false => behind.isNone || behind == some '\n'
  | .lineEnd true =>
      behind.isNone || behind == some '\r' || (behind == some '\n' && before != some '\r')
  | .boundary u => isWordAt u before != isWordAt u behind
  | .noBoundary u => isWordAt u before == isWordAt u behind
  | .wordStart u => !isWordAt u before && isWordAt u behind
  | .wordEnd u => isWordAt u before && !isWordAt u behind
  | .wordStartHalf u => !isWordAt u before
  | .wordEndHalf u => !isWordAt u behind

end Look

/-- The condition that an anchor stands for. -/
def Anchor.look (fs : Flags) : Anchor → Look
  | .caret => if fs.multiLine then .lineStart fs.crlf else .textStart
  | .dollar => if fs.multiLine then .lineEnd fs.crlf else .textEnd
  | .textStart => .textStart
  | .textEnd => .textEnd
  | .wordBoundary => .boundary fs.unicode
  | .notWordBoundary => .noBoundary fs.unicode
  | .wordStart => .wordStart fs.unicode
  | .wordEnd => .wordEnd fs.unicode
  | .wordStartHalf => .wordStartHalf fs.unicode
  | .wordEndHalf => .wordEndHalf fs.unicode

/-- An expression whose meaning depends on no flag. -/
inductive Core where
  /-- Matches the empty text. -/
  | empty
  /-- One or more characters in a row. -/
  | text (cs : List Char)
  /-- A character of a set, which was written with or without regard to Unicode. -/
  | set (s : Ranges) (unicode : Bool)
  /-- A condition on the position. -/
  | look (l : Look)
  /-- Records what the body matches under an index. -/
  | capture (index : Nat) (body : Core)
  /-- At least `least` and at most `most` matches of the body in a row. -/
  | repeated (body : Core) (least : Nat) (most : Option Nat) (greedy : Bool)
  /-- The first of the branches that fits. -/
  | alternatives (branches : List Core)
  /-- One after the other. -/
  | sequence (parts : List Core)
deriving Repr, BEq

namespace Core

/-- The set that a dot stands for: every character, or every one that ends no line. -/
def dotSet (fs : Flags) : Ranges :=
  if fs.dotAll then [(0, Ranges.maxPoint)]
  else if fs.crlf then Ranges.complement [(10, 10), (13, 13)]
  else Ranges.complement [(10, 10)]

/-- A set as an expression.  A set of one character is the text of that character, and the empty
set is the same however it was written. -/
def ofSet (unicode : Bool) (s : Ranges) : Core :=
  match s with
  | [] => .set [] false
  | [(lo, hi)] => if lo = hi then .text [Char.ofNat lo] else .set s unicode
  | _ => .set s unicode

mutual

/-- Does the expression consume nothing, however it matches? -/
def onlyEmpty : Core → Bool
  | .empty => true
  | .text _ => false
  | .set _ _ => false
  | .look _ => true
  | .capture _ c => onlyEmpty c
  | .repeated c _ _ _ => onlyEmpty c
  | .alternatives cs => onlyEmptyAll cs
  | .sequence cs => onlyEmptyAll cs

/-- Do all expressions consume nothing? -/
def onlyEmptyAll : List Core → Bool
  | [] => true
  | c :: cs => onlyEmpty c && onlyEmptyAll cs

end

mutual

/-- The least number of characters that the expression consumes, conditions taken as met.  An
expression with a part that matches nothing has none. -/
def leastLength? : Core → Option Nat
  | .empty => some 0
  | .text cs => some cs.length
  | .set s _ => if s.isEmpty then none else some 1
  | .look _ => some 0
  | .capture _ c => leastLength? c
  | .repeated c least _ _ => (leastLength? c).map (· * least)
  | .alternatives cs => leastLengthAny? cs
  | .sequence cs => leastLengthAll? cs

/-- The least number of characters that one of the expressions consumes. -/
def leastLengthAny? : List Core → Option Nat
  | [] => none
  | [c] => leastLength? c
  | c :: cs => do
      let n ← leastLength? c
      let m ← leastLengthAny? cs
      return min n m

/-- The least number of characters that all expressions consume in a row. -/
def leastLengthAll? : List Core → Option Nat
  | [] => some 0
  | c :: cs => do
      let n ← leastLength? c
      let m ← leastLengthAll? cs
      return n + m

end

/-- Is it certain that the expression consumes a character whenever it matches? -/
def consumes (c : Core) : Bool :=
  match c.leastLength? with
  | some n => 0 < n
  | none => false

mutual

/-- The number of expressions that an expression is made of. -/
def size : Core → Nat
  | .capture _ c => size c + 1
  | .repeated c _ _ _ => size c + 1
  | .alternatives cs => sizeAll cs + 1
  | .sequence cs => sizeAll cs + 1
  | _ => 1

/-- The number of expressions that the expressions of a list are made of. -/
def sizeAll : List Core → Nat
  | [] => 0
  | c :: cs => size c + sizeAll cs

end

/-- A body repeated as often as two counts allow.  A body that consumes nothing is not repeated,
because a second round adds nothing to the first. -/
def ofRepeated (body : Core) (least : Nat) (most : Option Nat) (greedy : Bool) : Core :=
  let (least, most) :=
    if body.onlyEmpty then (min least 1, some (min (most.getD 1) 1)) else (least, most)
  if most = some 0 then .empty
  else if least = 1 ∧ most = some 1 then body
  else .repeated body least most greedy

/-- An expression before others, where two texts in a row become one. -/
def before (c : Core) (parts : List Core) : List Core :=
  match c, parts with
  | .empty, _ => parts
  | .text cs, .text ds :: rest => .text (cs ++ ds) :: rest
  | _, _ => c :: parts

/-- Expressions one after the other as one, without those that match the empty text only by
being empty, and without a sequence inside a sequence. -/
def ofParts (parts : List Core) : Core :=
  let flat := parts.flatMap fun c =>
    match c with
    | .sequence cs => cs
    | _ => [c]
  match flat.foldr before [] with
  | [] => .empty
  | [c] => c
  | cs => .sequence cs

/-- The character that an expression is. -/
def char? : Core → Option Char
  | .text [c] => some c
  | _ => none

/-- The members of an expression that is a set. -/
def members? : Core → Option Ranges
  | .set s _ => some s
  | _ => none

/-- The parts of a sequence. -/
def parts? : Core → Option (List Core)
  | .sequence cs => some cs
  | _ => none

/-- What two lists of expressions have in common at the front. -/
def commonFront : List Core → List Core → List Core
  | c :: cs, d :: ds => if c == d then c :: commonFront cs ds else []
  | _, _ => []

/-- What all branches begin with, and what remains of each, if all are sequences that begin
alike. -/
def splitFront? (branches : List Core) : Option (List Core × List Core) := do
  match ← branches.mapM parts? with
  | [] => none
  | first :: others =>
      let front := others.foldl commonFront first
      if front.isEmpty then none
      else return (front, (first :: others).map fun cs => ofParts (cs.drop front.length))

/-- Branches as one expression, without alternatives inside alternatives.  Branches that are all
characters or all sets are one set.  What all begin with stands before the rest; the first
argument bounds how often that is done, and every time the branches lose a part. -/
def ofBranchesWithin : Nat → List Core → Core
  | 0, branches => .alternatives branches
  | fuel + 1, branches =>
      let flat := branches.flatMap fun c =>
        match c with
        | .alternatives cs => cs
        | _ => [c]
      match flat with
      | [] => .set [] false
      | [c] => c
      | cs =>
          match cs.mapM char? with
          | some ds => ofSet true (Ranges.normalize (ds.map fun d => (d.toNat, d.toNat)))
          | none =>
              match cs.mapM members? with
              | some sets => ofSet true (Ranges.unions sets)
              | none =>
                  match splitFront? cs with
                  | some (front, rests) => ofParts (front ++ [ofBranchesWithin fuel rests])
                  | none => .alternatives cs

/-- Branches as one expression. -/
def ofBranches (branches : List Core) : Core :=
  ofBranchesWithin (sizeAll branches + 1) branches

mutual

/-- The core expression of a term under flags, and the flags for what follows the term. -/
def ofTerm? (fs : Flags) : Term → Option (Core × Flags)
  | .empty => some (.empty, fs)
  | .setFlags changes => some (.empty, fs.apply changes)
  | .literal c => some (ofSet fs.unicode (foldCase fs (Ranges.point c.toNat)), fs)
  | .byte c =>
      if fs.unicode || c.toNat < 128 then
        some (ofSet fs.unicode (foldCase fs (Ranges.point c.toNat)), fs)
      else none
  | .dot => (admitted fs (dotSet fs)).map fun s => (ofSet fs.unicode s, fs)
  | .anchor a => some (.look (a.look fs), fs)
  | .letterClass k n =>
      (admitted fs (negateIf n (k.ranges fs.unicode))).map fun s => (ofSet fs.unicode s, fs)
  | .property members n =>
      (propertyRanges fs members n).map fun s => (ofSet fs.unicode s, fs)
  | .charClass n body =>
      ((ClassItem.bracketed n body).ranges fs).map fun s => (ofSet fs.unicode s, fs)
  | .repeated body least most greedy => do
      let (c, fs') ← ofTerm? fs body
      return (ofRepeated c least most (greedy != fs.swapGreed), fs')
  | .group (.capture i) body => do
      let (c, _) ← ofTerm? fs body
      return (.capture i c, fs)
  | .group (.flags changes) body => do
      let (c, _) ← ofTerm? (fs.apply changes) body
      return (c, fs)
  | .alternatives ts => do
      let (cs, fs') ← ofTerms? fs ts
      return (ofBranches cs, fs')
  | .sequence ts => do
      let (cs, fs') ← ofTerms? fs ts
      return (ofParts cs, fs')

/-- The core expressions of terms read one after the other. -/
def ofTerms? (fs : Flags) : List Term → Option (List Core × Flags)
  | [] => some ([], fs)
  | t :: ts => do
      let (c, fs') ← ofTerm? fs t
      let (cs, fs'') ← ofTerms? fs' ts
      return (c :: cs, fs'')

end

end Core

end Regex
end DocFilter
