import DocFilter.Regex.Term
import DocFilter.Text.NameChar
import DocFilter.Text.Property

/-!
# Reading regular expressions

Reads the text of an expression without lookaround and back references into a term.  Reading
either succeeds for the whole text or fails; why it fails is not recorded.

When blank characters are skipped, they are skipped between any two signs of the text, inside
brackets and counts too, and so is every comment from a number sign to the end of its line.

The functions that can nest take fuel.  Every call consumes a character before it calls again,
so the number of characters plus one is always enough.
-/

namespace DocFilter
namespace Regex
namespace Reading

open Text

section Lexical

/-- Drops blank characters and comments; the flag says that a comment has begun. -/
def dropBlanks : Bool → List Char → List Char
  | _, [] => []
  | true, c :: cs => dropBlanks (c != '\n') cs
  | false, c :: cs =>
      if isBlank c then dropBlanks false cs
      else if c = '#' then dropBlanks true cs
      else c :: cs

/-- Drops blank characters and comments if they are to be skipped. -/
def skip (ignoreSpace : Bool) (cs : List Char) : List Char :=
  if ignoreSpace then dropBlanks false cs else cs

/-- Is the character a hexadecimal digit? -/
def isHex (c : Char) : Bool :=
  c.isDigit || ('a' ≤ c && c ≤ 'f') || ('A' ≤ c && c ≤ 'F')

/-- The value of a hexadecimal digit. -/
def hexValue (c : Char) : Nat :=
  if c.isDigit then c.toNat - 48
  else if 'a' ≤ c then c.toNat - 87
  else c.toNat - 55

/-- The number that digits write in a base. -/
def number (base : Nat) (digit : Char → Nat) (cs : List Char) : Nat :=
  cs.foldl (fun n c => n * base + digit c) 0

/-- The character with a number, if there is one. -/
def charOf? (n : Nat) : Option Char :=
  if h : n.isValidChar then some (Char.ofNatAux n h) else none

/-- The largest repetition count. -/
def maxCount : Nat := 4294967295

end Lexical

section Counts

variable (ignoreSpace : Bool)

/-- The decimal digits at the front of the text. -/
def takeDigits : Nat → List Char → List Char × List Char
  | fuel + 1, c :: cs =>
      if c.isDigit then
        let (ds, rest) := takeDigits fuel (skip ignoreSpace cs)
        (c :: ds, rest)
      else ([], c :: cs)
  | _, cs => ([], cs)

/-- Reads a decimal number with blank characters around it. -/
def readDecimal (cs : List Char) : Option (Nat × List Char) :=
  let (ds, rest) := takeDigits ignoreSpace cs.length (cs.dropWhile isBlank)
  let n := number 10 (fun c => c.toNat - 48) ds
  if ds.isEmpty || maxCount < n then none
  else some (n, skip ignoreSpace (rest.dropWhile isBlank))

/-- Reads the counts of a repetition behind the opening brace. -/
def readCounts (cs : List Char) : Option (Nat × Option Nat × List Char) := do
  let (least, rest) ← readDecimal ignoreSpace (skip ignoreSpace cs)
  match rest with
  | '\x7d' :: rest => return (least, some least, rest)
  | ',' :: rest =>
      match skip ignoreSpace rest with
      | '\x7d' :: rest => return (least, none, rest)
      | rest =>
          let (most, rest) ← readDecimal ignoreSpace rest
          match rest with
          | '\x7d' :: rest => if least ≤ most then return (least, some most, rest) else none
          | _ => none
  | _ => none

end Counts

section Escapes

variable (ignoreSpace : Bool)

/-- Reads a fixed number of hexadecimal digits. -/
def readHexDigits : Nat → List Char → Option (List Char × List Char)
  | 0, cs => some ([], cs)
  | n + 1, cs =>
      match skip ignoreSpace cs with
      | c :: rest =>
          if isHex c then do
            let (ds, rest) ← readHexDigits n rest
            return (c :: ds, rest)
          else none
      | [] => none

/-- Reads hexadecimal digits up to a closing brace. -/
def readBracedHex : Nat → List Char → Option (List Char × List Char)
  | 0, _ => none
  | fuel + 1, cs =>
      match skip ignoreSpace cs with
      | '\x7d' :: rest => some ([], rest)
      | c :: rest =>
          if isHex c then do
            let (ds, rest) ← readBracedHex fuel rest
            return (c :: ds, rest)
          else none
      | [] => none

/-- Reads a character given by its number, in braces or with a fixed number of digits. -/
def readHex (digits : Nat) (cs : List Char) : Option (Term × List Char) := do
  match skip ignoreSpace cs with
  | '\x7b' :: rest =>
      let (ds, rest) ← readBracedHex ignoreSpace (rest.length + 1) rest
      if ds.isEmpty then none
      else
        let c ← charOf? (number 16 hexValue ds)
        return (.literal c, skip ignoreSpace rest)
  | rest =>
      let (ds, rest) ← readHexDigits ignoreSpace digits rest
      let c ← charOf? (number 16 hexValue ds)
      return (if digits = 2 then .byte c else .literal c, skip ignoreSpace rest)

/-- The characters up to a closing brace. -/
def takeBraced : Nat → List Char → Option (List Char × List Char)
  | 0, _ => none
  | fuel + 1, cs =>
      match skip ignoreSpace cs with
      | '\x7d' :: rest => some ([], rest)
      | c :: rest => do
          let (name, rest) ← takeBraced fuel rest
          return (c :: name, rest)
      | [] => none

/-- Splits a text at the first exclamation mark with an equals sign behind it.  The text before it
is given in reverse. -/
def splitUnequal (front : List Char) : List Char → Option (List Char × List Char)
  | '!' :: '=' :: rest => some (front.reverse, rest)
  | c :: rest => splitUnequal (c :: front) rest
  | [] => none

/-- Splits a text at a sign. -/
def splitAtSign (sign : Char) (cs : List Char) : Option (List Char × List Char) :=
  match cs.dropWhile (· != sign) with
  | _ :: rest => some (cs.takeWhile (· != sign), rest)
  | [] => none

/-- Splits a text at the first sign of a property's value, if there is one, and says whether the
sign negates. -/
def splitValue? (cs : List Char) : Option (List Char × Bool × List Char) :=
  match splitUnequal [] cs with
  | some (property, value) => some (property, true, value)
  | none =>
      (splitAtSign ':' cs <|> splitAtSign '=' cs).map fun (property, value) =>
        (property, false, value)

/-- The code points that the text in the braces of a property stands for, and whether its sign
negates. -/
def propertyMembers? (cs : List Char) : Option (Ranges × Bool) :=
  match splitValue? cs with
  | some (property, unequal, value) =>
      (Property.rangesOfValue? property value).map fun members => (members, unequal)
  | none => (Property.rangesOfName? cs).map fun members => (members, false)

/-- Reads a property behind its letter: a name of one letter, or in braces a name or a name with a
value.  A capital letter and a sign that negates cancel each other. -/
def readProperty (negated : Bool) (cs : List Char) : Option (Term × List Char) := do
  match skip ignoreSpace cs with
  | [] => none
  | '\\' :: _ => none
  | '\x7b' :: rest =>
      let (name, rest) ← takeBraced ignoreSpace (rest.length + 1) rest
      let (members, unequal) ← propertyMembers? name
      return (.property members (negated != unequal), rest)
  | c :: rest =>
      let members ← Property.rangesOfName? [c]
      return (.property members negated, rest)

/-- Can the character stand in the name of a word boundary? -/
def isBoundaryNameChar (c : Char) : Bool :=
  c.isAlpha || c == '-'

/-- The word boundary with a name. -/
def boundaryOfName? : List Char → Option Anchor
  | ['s', 't', 'a', 'r', 't'] => some .wordStart
  | ['e', 'n', 'd'] => some .wordEnd
  | ['s', 't', 'a', 'r', 't', '-', 'h', 'a', 'l', 'f'] => some .wordStartHalf
  | ['e', 'n', 'd', '-', 'h', 'a', 'l', 'f'] => some .wordEndHalf
  | _ => none

/-- The characters of a word boundary's name at the front of the text. -/
def takeBoundaryName : Nat → List Char → List Char × List Char
  | fuel + 1, c :: cs =>
      if isBoundaryNameChar c then
        let (name, rest) := takeBoundaryName fuel (skip ignoreSpace cs)
        (c :: name, rest)
      else ([], c :: cs)
  | _, cs => ([], cs)

/-- Reads what follows the letter of a word boundary: nothing, a count, or a name in braces. -/
def readBoundary (cs : List Char) : Option (Term × List Char) :=
  match cs with
  | '\x7b' :: rest =>
      match takeBoundaryName ignoreSpace rest.length (skip ignoreSpace rest) with
      | ([], _) => some (.anchor .wordBoundary, cs)
      | (name, '\x7d' :: rest) => do
          let a ← boundaryOfName? name
          return (.anchor a, rest)
      | _ => none
  | _ => some (.anchor .wordBoundary, cs)

/-- Does a backslash before the character make it stand for itself?  It does before every ASCII
character that is no letter, no digit and no angle bracket. -/
def standsForItself (c : Char) : Bool :=
  c.toNat < 128 && !c.isAlphanum && c != '<' && c != '>'

/-- Reads what follows a backslash. -/
def readEscape : List Char → Option (Term × List Char)
  | [] => none
  | c :: rest =>
      match c with
      | 'x' => readHex ignoreSpace 2 rest
      | 'u' => readHex ignoreSpace 4 rest
      | 'U' => readHex ignoreSpace 8 rest
      | 'p' => readProperty ignoreSpace false rest
      | 'P' => readProperty ignoreSpace true rest
      | 'd' => some (.letterClass .digit false, rest)
      | 'D' => some (.letterClass .digit true, rest)
      | 's' => some (.letterClass .space false, rest)
      | 'S' => some (.letterClass .space true, rest)
      | 'w' => some (.letterClass .word false, rest)
      | 'W' => some (.letterClass .word true, rest)
      | 'a' => some (.literal '\x07', rest)
      | 'f' => some (.literal '\x0c', rest)
      | 't' => some (.literal '\t', rest)
      | 'n' => some (.literal '\n', rest)
      | 'r' => some (.literal '\r', rest)
      | 'v' => some (.literal '\x0b', rest)
      | 'A' => some (.anchor .textStart, rest)
      | 'z' => some (.anchor .textEnd, rest)
      | 'b' => readBoundary ignoreSpace rest
      | 'B' => some (.anchor .notWordBoundary, rest)
      | '<' => some (.anchor .wordStart, rest)
      | '>' => some (.anchor .wordEnd, rest)
      | _ => if standsForItself c then some (.literal c, rest) else none

end Escapes

section Classes

variable (ignoreSpace : Bool)

/-- Reads one character or escape inside brackets. -/
def readClassSign : List Char → Option (Term × List Char)
  | [] => none
  | '\\' :: rest => readEscape ignoreSpace rest
  | c :: rest => some (.literal c, rest)

/-- What may stand in a class by itself. -/
def classItem? : Term → Option ClassItem
  | .literal c => some (.range c c)
  | .byte c => some (.range c c)
  | .property members n => some (.property members n)
  | .letterClass k n => some (.letter k n)
  | _ => none

/-- The first sign behind blank characters, where a number sign hides only the blank characters
that follow it. -/
def peekSign (whole : List Char) : Bool → List Char → Option Char
  | _, [] => whole.head?
  | hidden, c :: cs =>
      if isBlank c then peekSign whole hidden cs
      else if c = '#' && !hidden then peekSign whole true cs
      else some c

/-- The sign that decides whether a hyphen before it makes a range. -/
def signBehind (cs : List Char) : Option Char :=
  if ignoreSpace then peekSign cs false cs else cs.head?

/-- Reads an item or a range.  A hyphen before a closing bracket stands for itself, and a hyphen
before another one begins a set operation. -/
def readRange (cs : List Char) : Option (ClassItem × List Char) := do
  let (first, rest) ← readClassSign ignoreSpace cs
  match skip ignoreSpace rest with
  | [] => none
  | '-' :: behind =>
      if signBehind ignoreSpace behind = some ']' ∨ signBehind ignoreSpace behind = some '-' then
        let item ← classItem? first
        return (item, '-' :: behind)
      else
        let (second, rest) ← readClassSign ignoreSpace (skip ignoreSpace behind)
        let a ← first.char?
        let b ← second.char?
        if a ≤ b then return (.range a b, rest) else none
  | rest =>
      let item ← classItem? first
      return (item, rest)

/-- Reads a class with an ASCII name behind its opening bracket. -/
def readNamed : List Char → Option (ClassItem × List Char)
  | ':' :: rest =>
      let (negated, rest) :=
        match rest with
        | '^' :: rest => (true, rest)
        | _ => (false, rest)
      match rest.dropWhile (· != ':') with
      | ':' :: ']' :: behind => do
          let kind ← NamedClass.ofName? (rest.takeWhile (· != ':'))
          return (.named kind negated, behind)
      | _ => none
  | _ => none

/-- The hyphens at the front of a class, each as an item. -/
def takeHyphens : Nat → List Char → List ClassItem × List Char
  | fuel + 1, '-' :: rest =>
      let (items, rest) := takeHyphens fuel (skip ignoreSpace rest)
      (.range '-' '-' :: items, rest)
  | _, cs => ([], cs)

/-- Reads the beginning of a class behind its opening bracket: whether it is negated, and the
items that stand for themselves only there. -/
def openClass (cs : List Char) : Bool × List ClassItem × List Char :=
  let (negated, rest) :=
    match skip ignoreSpace cs with
    | '^' :: rest => (true, skip ignoreSpace rest)
    | rest => (false, rest)
  match takeHyphens ignoreSpace rest.length rest with
  | ([], ']' :: rest) => (negated, [.range ']' ']'], rest)
  | (items, rest) => (negated, items, rest)

/-- Closes the last operand of a class, given in reverse. -/
def closeOperand (pending : Option (SetOp × ClassItem)) (items : List ClassItem) : ClassItem :=
  let operand := ClassItem.ofList items.reverse
  match pending with
  | some (op, left) => .binary op left operand
  | none => operand

/-- Reads a class up to its closing bracket.  Set operations group to the left; `items` holds the
items of the operand read so far, in reverse. -/
def readClassBody : Nat → Option (SetOp × ClassItem) → List ClassItem → List Char →
    Option (ClassItem × List Char)
  | 0, _, _, _ => none
  | fuel + 1, pending, items, cs =>
      match skip ignoreSpace cs with
      | [] => none
      | ']' :: rest => some (closeOperand pending items, rest)
      | '[' :: rest =>
          match readNamed rest with
          | some (item, rest) => readClassBody fuel pending (item :: items) rest
          | none => do
              let (negated, first, rest) := openClass ignoreSpace rest
              let (body, rest) ← readClassBody fuel none first.reverse rest
              readClassBody fuel pending (.bracketed negated body :: items) rest
      | '&' :: '&' :: rest =>
          readClassBody fuel (some (.intersection, closeOperand pending items)) [] rest
      | '-' :: '-' :: rest =>
          readClassBody fuel (some (.difference, closeOperand pending items)) [] rest
      | '~' :: '~' :: rest =>
          readClassBody fuel (some (.symmetricDifference, closeOperand pending items)) [] rest
      | rest => do
          let (item, rest) ← readRange ignoreSpace rest
          readClassBody fuel pending (item :: items) rest

/-- Reads a class behind its opening bracket. -/
def readClass (cs : List Char) : Option (Term × List Char) := do
  let (negated, first, rest) := openClass ignoreSpace cs
  let (body, rest) ← readClassBody ignoreSpace (rest.length + 1) none first.reverse rest
  return (.charClass negated body, rest)

end Classes

section Groups

/-- What reading has met so far. -/
structure Progress where
  /-- Are blank characters skipped at this point? -/
  ignoreSpace : Bool
  /-- The number of capturing groups opened. -/
  captures : Nat := 0
  /-- The names of groups. -/
  names : List (List Char) := []

/-- Reads flags up to a colon, or to the closing parenthesis if the second part of the result is
false.  A flag may be named once, and a minus sign must have a flag behind it. -/
def readFlags (negated dangling : Bool) (seen : List Flag) :
    List Char → Option (FlagChange × Bool × List Char)
  | [] => none
  | c :: rest =>
      if c = ':' ∨ c = ')' then
        if dangling then none else some ([], c = ':', rest)
      else if c = '-' then
        if negated then none else readFlags true true seen rest
      else do
        let f ← Flag.ofChar? c
        if f ∈ seen then none
        else
          let (changes, colon, rest) ← readFlags negated false (f :: seen) rest
          return ((f, !negated) :: changes, colon, rest)

/-- Can the character stand in the name of a group? -/
def isGroupNameChar (first : Bool) (c : Char) : Bool :=
  c == '_' || (if first then isNameLetter c
    else c == '.' || c == '[' || c == ']' || isNameSign c)

/-- Is the text the name of a group? -/
def isGroupName : List Char → Bool
  | [] => false
  | c :: cs => isGroupNameChar true c && cs.all (isGroupNameChar false)

/-- Reads the name of a group up to a closing angle bracket. -/
def readGroupName (p : Progress) (cs : List Char) : Option (Progress × List Char) :=
  let name := cs.takeWhile (· != '>')
  match cs.dropWhile (· != '>') with
  | _ :: rest =>
      if isGroupName name && !p.names.contains name then
        some ({ p with captures := p.captures + 1, names := name :: p.names }, rest)
      else none
  | [] => none

/-- What an opening parenthesis begins. -/
inductive Opening where
  /-- A change of flags that is closed already. -/
  | flagsOnly (changes : FlagChange)
  /-- A group. -/
  | group (kind : GroupKind)

/-- Reads the opening of a group behind its parenthesis. -/
def readOpening (p : Progress) (cs : List Char) : Option (Opening × Progress × List Char) :=
  match skip p.ignoreSpace cs with
  | '?' :: '=' :: _ => none
  | '?' :: '!' :: _ => none
  | '?' :: '<' :: '=' :: _ => none
  | '?' :: '<' :: '!' :: _ => none
  | '?' :: 'P' :: '<' :: rest => do
      let (q, rest) ← readGroupName p rest
      return (.group (.capture q.captures), q, rest)
  | '?' :: '<' :: rest => do
      let (q, rest) ← readGroupName p rest
      return (.group (.capture q.captures), q, rest)
  | '?' :: rest => do
      let (changes, colon, rest) ← readFlags false false [] rest
      let q := match changes.find? fun c => c.1 = .ignoreSpace with
        | some (_, on) => { p with ignoreSpace := on }
        | none => p
      if colon then return (.group (.flags changes), q, rest)
      else if changes.isEmpty then none
      else return (.flagsOnly changes, q, rest)
  | rest =>
      let q := { p with captures := p.captures + 1 }
      some (.group (.capture q.captures), q, rest)

end Groups

section Terms

/-- Repeats the last of the parts read so far.  There must be one, and it must not be a change of
flags. -/
def repeatLast (least : Nat) (most : Option Nat) (greedy : Bool) :
    List Term → Option (List Term)
  | [] => none
  | .setFlags _ :: _ => none
  | t :: parts => some (.repeated t least most greedy :: parts)

/-- Reads the question mark that makes a repetition lazy. -/
def readGreedy : List Char → Bool × List Char
  | '?' :: rest => (false, rest)
  | rest => (true, rest)

/-- The repetition signs without counts. -/
def countsOfSign? : Char → Option (Nat × Option Nat)
  | '?' => some (0, some 1)
  | '*' => some (0, none)
  | '+' => some (1, none)
  | _ => none

/-- The term of all branches, where those before the last one and the parts of the last one are
given in reverse. -/
def closeBranches (branches parts : List Term) : Term :=
  Term.ofBranches (Term.ofParts parts.reverse :: branches).reverse

/-- Reads branches up to a closing parenthesis or the end of the text, and leaves that to the
caller.  The branches before the last bar and the parts of the last branch are in reverse. -/
def readBranches : Nat → Progress → List Term → List Term → List Char →
    Option (Term × Progress × List Char)
  | 0, _, _, _, _ => none
  | fuel + 1, p, branches, parts, cs =>
      match skip p.ignoreSpace cs with
      | [] => some (closeBranches branches parts, p, [])
      | c :: rest =>
          if c = ')' then some (closeBranches branches parts, p, c :: rest)
          else if c = '|' then
            readBranches fuel p (Term.ofParts parts.reverse :: branches) [] rest
          else if c = '(' then do
            let (opening, q, rest) ← readOpening p rest
            match opening with
            | .flagsOnly changes => readBranches fuel q branches (.setFlags changes :: parts) rest
            | .group kind =>
                let (body, q, rest) ← readBranches fuel q [] [] rest
                match rest with
                | [] => none
                | _ :: rest =>
                    readBranches fuel { q with ignoreSpace := p.ignoreSpace } branches
                      (.group kind body :: parts) rest
          else if c = '[' then do
            let (t, rest) ← readClass p.ignoreSpace rest
            readBranches fuel p branches (t :: parts) rest
          else if c = '\x7b' then do
            let (least, most, rest) ← readCounts p.ignoreSpace rest
            let (greedy, rest) := readGreedy (skip p.ignoreSpace rest)
            let parts ← repeatLast least most greedy parts
            readBranches fuel p branches parts rest
          else if c = '\\' then do
            let (t, rest) ← readEscape p.ignoreSpace rest
            readBranches fuel p branches (t :: parts) rest
          else if c = '.' then readBranches fuel p branches (.dot :: parts) rest
          else if c = '^' then readBranches fuel p branches (.anchor .caret :: parts) rest
          else if c = '$' then readBranches fuel p branches (.anchor .dollar :: parts) rest
          else
            match countsOfSign? c with
            | some (least, most) => do
                let (greedy, rest) := readGreedy rest
                let parts ← repeatLast least most greedy parts
                readBranches fuel p branches parts rest
            | none => readBranches fuel p branches (.literal c :: parts) rest

end Terms

end Reading

/-- The term that a text writes, when blank characters are skipped from its start or not. -/
def Term.ofChars? (ignoreSpace : Bool) (cs : List Char) : Option Term :=
  match Reading.readBranches (cs.length + 1) { ignoreSpace } [] [] cs with
  | some (t, _, []) => some t
  | _ => none

end Regex
end DocFilter
