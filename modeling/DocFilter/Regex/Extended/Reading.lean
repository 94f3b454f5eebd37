import DocFilter.Regex.Extended.Term
import DocFilter.Regex.Reading

/-!
# Reading expressions with lookaround and back references

Reads the text of an extended expression into a term.  The rules differ from those of plain
expressions in several ways: a brace that begins no count stands for itself, a repetition sign
may be followed by a plus sign that makes it atomic but by no second repetition, anchors cannot
be repeated, a change of flags lasts beyond the parentheses it stands in unless those are a flag
group of their own, and parentheses nest less deeply.

The functions take fuel.  Between two calls that consume a character there are fewer than eight
others, so eight times the number of characters is enough.
-/

namespace DocFilter
namespace Regex
namespace Extended
namespace Reading

open Text
open Regex.Reading (number hexValue isHex charOf?)

/-- Parentheses may nest less deep than this. -/
def maxNesting : Nat := 64

/-- What reading has met so far. -/
structure Progress where
  /-- The flags in force. -/
  flags : Flags
  /-- The number of capturing groups opened. -/
  captures : Nat := 0
  /-- The named groups, the last opened first. -/
  names : List (List Char × Nat) := []
  /-- Has a group been referred to by number outside angle brackets? -/
  numbered : Bool := false
  /-- Numbers of groups must be less than this. -/
  refBound : Nat

section Lexical

/-- Drops a comment up to its closing parenthesis. -/
def dropComment : List Char → Option (List Char)
  | [] => none
  | ')' :: rest => some rest
  | '\\' :: _ :: rest => dropComment rest
  | _ :: rest => dropComment rest

/-- Is the character skipped when blank characters are? -/
def isSkipped (c : Char) : Bool :=
  c == ' ' || c == '\t' || c == '\n' || c == '\r'

/-- Drops comments in parentheses, and blank characters and comments to the end of a line if they
are to be skipped. -/
def dropBlanks (ignoreSpace : Bool) : Nat → List Char → Option (List Char)
  | 0, cs => some cs
  | fuel + 1, cs =>
      match cs with
      | [] => some []
      | '(' :: '?' :: '#' :: rest => do
          let rest ← dropComment rest
          dropBlanks ignoreSpace fuel rest
      | c :: rest =>
          if ignoreSpace && c == '#' then
            dropBlanks ignoreSpace fuel ((rest.dropWhile (· != '\n')).drop 1)
          else if ignoreSpace && isSkipped c then dropBlanks ignoreSpace fuel rest
          else some cs

/-- Drops what the flags in force make insignificant. -/
def skip (p : Progress) (cs : List Char) : Option (List Char) :=
  dropBlanks p.flags.ignoreSpace cs.length cs

/-- The largest number that can be written. -/
def maxNumber : Nat := 18446744073709551615

/-- Reads the decimal digits at the front of the text. -/
def readNumber (cs : List Char) : Option (Nat × List Char) :=
  let ds := cs.takeWhile Char.isDigit
  let n := number 10 (fun c => c.toNat - 48) ds
  if ds.isEmpty || maxNumber < n then none else some (n, cs.drop ds.length)

/-- Can the character stand in the name of a group? -/
def isNameChar (c : Char) : Bool :=
  isNameSign c || c == '_'

/-- Reads the name of a group up to a closing sign. -/
def readName (close : Char) (cs : List Char) : Option (List Char × List Char) :=
  let name := cs.takeWhile isNameChar
  match cs.drop name.length with
  | c :: rest => if c = close && !name.isEmpty then some (name, rest) else none
  | [] => none

end Lexical

section Counts

/-- Reads the counts of a repetition behind the opening brace.  A missing lower count is zero. -/
def readCounts (p : Progress) (cs : List Char) : Option (Nat × Option Nat × List Char) := do
  let cs ← skip p cs
  let (least, rest) ←
    match cs with
    | ',' :: _ => some (0, cs)
    | _ => readNumber cs
  match ← skip p rest with
  | '\x7d' :: rest => return (least, some least, rest)
  | ',' :: rest =>
      let rest ← skip p rest
      let (most, rest) :=
        match readNumber rest with
        | some (n, rest) => (if n = maxNumber then none else some n, rest)
        | none => (none, rest)
      match ← skip p rest with
      | '\x7d' :: rest => return (least, most, rest)
      | _ => none
  | _ => none

end Counts

section References

/-- A reference to a group, which must have been opened before.  The whole match is group zero. -/
def refer (p : Progress) (group : Nat) : Option Nat :=
  if group ≤ p.captures then some group else none

/-- Reads a group number. -/
def readNumberedRef (p : Progress) (cs : List Char) : Option (Nat × Progress × List Char) := do
  let (group, rest) ← readNumber cs
  if group < p.refBound then
    let group ← refer p group
    return (group, { p with numbered := true }, rest)
  else none

/-- The group that a name or the digits of a number denote. -/
def groupOfName? (p : Progress) (name : List Char) : Option Nat :=
  match p.names.lookup name with
  | some group => some group
  | none =>
      match readNumber name with
      | some (group, []) => some group
      | _ => none

/-- The group that a number counts back from the last one opened, which is the first. -/
def groupBack? (p : Progress) (count : Nat) : Option Nat :=
  if count = 0 then some 0
  else if count ≤ p.captures + 1 then some (p.captures + 1 - count)
  else none

/-- Reads the name of a group up to a closing sign, as a reference. -/
def readNamedRef (p : Progress) (close : Char) (cs : List Char) : Option (Nat × List Char) := do
  let (name, rest) ← readName close cs
  let group ← groupOfName? p name
  let group ← refer p group
  return (group, rest)

/-- Reads a name, or a number behind a hyphen that counts back, up to a closing sign. -/
def readSignedRef (p : Progress) (close : Char) (cs : List Char) : Option (Nat × List Char) :=
  match cs with
  | '-' :: rest => do
      let (count, rest) ← readNumber rest
      let group ← groupBack? p count
      match rest with
      | c :: rest => if c = close then return (group, rest) else none
      | [] => none
  | _ => readNamedRef p close cs

end References

section Escapes

/-- Reads a character given by its number: a fixed number of hexadecimal digits, or up to eight of
them in braces. -/
def readHex (p : Progress) (digits : Nat) (cs : List Char) : Option (Term × List Char) := do
  let fixed := cs.take digits
  let (ds, rest) ←
    if fixed.length = digits && fixed.all isHex then some (fixed, cs.drop digits)
    else
      match cs with
      | '\x7b' :: rest =>
          let ds := rest.takeWhile isHex
          match rest.drop ds.length with
          | '\x7d' :: rest => if ds.isEmpty || 8 < ds.length then none else some (ds, rest)
          | _ => none
      | _ => none
  let c ← charOf? (number 16 hexValue ds)
  return (.literal c p.flags.caseInsensitive, rest)

/-- The class of hexadecimal digits. -/
def hexDigits : List Char :=
  "[0-9A-Fa-f]".toList

/-- The class of all characters but hexadecimal digits. -/
def noHexDigits : List Char :=
  "[^0-9A-Fa-f]".toList

/-- Does the letter stand for a class behind a backslash, in plain expressions too? -/
def isClassLetter (c : Char) : Bool :=
  c == 'd' || c == 'D' || c == 's' || c == 'S' || c == 'w' || c == 'W'

/-- The class that a letter behind a backslash stands for. -/
def letterClass? (p : Progress) (c : Char) : Option Term :=
  if isClassLetter c then some (.charClass ['\\', c] p.flags.caseInsensitive)
  else if c = 'h' then some (.charClass hexDigits false)
  else if c = 'H' then some (.charClass noHexDigits false)
  else none

/-- The character that a letter behind a backslash stands for.  Other characters stand for
themselves unless they are ASCII letters. -/
def escapedChar? (c : Char) : Option Char :=
  match c with
  | 'a' => some '\x07'
  | 'f' => some '\x0c'
  | 'n' => some '\n'
  | 'r' => some '\r'
  | 't' => some '\t'
  | 'v' => some '\x0b'
  | 'e' => some '\x1b'
  | _ => if c.isAlpha then none else some c

/-- The plain spelling of a property behind its letter: a name of one letter, or whatever stands in
braces. -/
def spellProperty : List Char → Option (List Char × List Char)
  | '\x7b' :: rest =>
      match rest.dropWhile (· != '\x7d') with
      | close :: behind => some ('\x7b' :: rest.takeWhile (· != '\x7d') ++ [close], behind)
      | [] => none
  | c :: rest => some ([c], rest)
  | [] => none

/-- Reads a property behind its letter, which is left to whoever reads the plain expression. -/
def readProperty (p : Progress) (letter : Char) (cs : List Char) : Option (Term × List Char) := do
  let (spelling, rest) ← spellProperty cs
  return (.charClass ('\\' :: letter :: spelling) p.flags.caseInsensitive, rest)

/-- The condition that a letter behind a backslash stands for. -/
def escapedLook? (c : Char) (rest : List Char) : Option Look :=
  match c with
  | 'A' => some .textStart
  | 'z' => some .textEnd
  | 'b' => if rest.head? = some '\x7b' then none else some (.boundary true)
  | 'B' => if rest.head? = some '\x7b' then none else some (.noBoundary true)
  | '<' => some (.wordStart true)
  | '>' => some (.wordEnd true)
  | _ => none

/-- Reads an escape that is the same inside a class and outside: a character by its number, a
class, or a character that stands for itself. -/
def readCommonEscape (p : Progress) (c : Char) (rest : List Char) : Option (Term × List Char) :=
  match c with
  | 'x' => readHex p 2 rest
  | 'u' => readHex p 4 rest
  | 'U' => readHex p 8 rest
  | _ =>
      match letterClass? p c with
      | some t => some (t, rest)
      | none => (escapedChar? c).map fun d => (.literal d false, rest)

/-- Reads what follows a backslash outside a class. -/
def readEscape (p : Progress) : List Char → Option (Term × Progress × List Char)
  | [] => none
  | c :: rest =>
      if c.isDigit then do
        let (group, p, rest) ← readNumberedRef p (c :: rest)
        return (.backref group, p, rest)
      else
        match c with
        | 'k' =>
            match rest with
            | '\'' :: rest => do
                let (group, rest) ← readSignedRef p '\'' rest
                return (.backref group, p, rest)
            | '<' :: rest => do
                let (group, rest) ← readSignedRef p '>' rest
                return (.backref group, p, rest)
            | _ => none
        | 'p' => (readProperty p 'p' rest).map fun (t, rest) => (t, p, rest)
        | 'P' => (readProperty p 'P' rest).map fun (t, rest) => (t, p, rest)
        | 'K' => some (.keepOut, p, rest)
        | 'G' => some (.searchStart, p, rest)
        | _ =>
            match escapedLook? c rest with
            | some l => some (.look l, p, rest)
            | none => (readCommonEscape p c rest).map fun (t, rest) => (t, p, rest)

end Escapes

section Classes

/-- A character as it stands for itself in a plain class. -/
def quoteInClass (c : Char) : List Char :=
  if "\\.+*?()|[]\x7b\x7d^$#&-~".toList.contains c then ['\\', c] else [c]

/-- Does a backslash inside a class make the letter stand for itself?  These letters have a meaning
outside of classes only. -/
def isPlainInClass (c : Char) : Bool :=
  c == 'A' || c == 'B' || c == 'G' || c == 'K' || c == 'k' || c == 'z'

/-- The plain spelling of the escape behind a backslash inside a class. -/
def spellEscape (p : Progress) : List Char → Option (List Char × List Char)
  | [] => none
  | 'b' :: rest => some (['\x08'], rest)
  | 'p' :: rest => (spellProperty rest).map fun (cs, rest) => ('\\' :: 'p' :: cs, rest)
  | 'P' :: rest => (spellProperty rest).map fun (cs, rest) => ('\\' :: 'P' :: cs, rest)
  | c :: rest =>
      if c.isDigit then none
      else if isPlainInClass c then some ([c], rest)
      else do
        let (t, rest) ← readCommonEscape p c rest
        match t with
        | .literal d _ => return (quoteInClass d, rest)
        | .charClass cs _ => return (cs, rest)
        | _ => none

/-- The plain spelling of a class up to the bracket that closes it, where brackets are counted
from `nesting`, and the text behind it. -/
def spellClass (p : Progress) : Nat → Nat → List Char → Option (List Char × List Char)
  | 0, _, _ => none
  | _, _, [] => none
  | fuel + 1, nesting, c :: rest =>
      if c = '\\' then do
        let (spelling, rest) ← spellEscape p rest
        let (others, rest) ← spellClass p fuel nesting rest
        return (spelling ++ others, rest)
      else if c = ']' then
        match nesting with
        | 0 => some ([']'], rest)
        | n + 1 => do
            let (others, rest) ← spellClass p fuel n rest
            return (']' :: others, rest)
      else do
        let (others, rest) ← spellClass p fuel (if c = '[' then nesting + 1 else nesting) rest
        return (c :: others, rest)

/-- The signs at the front of a class that stand for themselves only there. -/
def classFront (cs : List Char) : List Char × List Char :=
  match cs with
  | '^' :: ']' :: rest => (['^', ']'], rest)
  | '^' :: rest => (['^'], rest)
  | ']' :: rest => ([']'], rest)
  | _ => ([], cs)

/-- Reads a class behind its opening bracket.  Its extent is found by counting brackets alone, and
whether it is a class is left to whoever reads the plain expression. -/
def readClass (p : Progress) (cs : List Char) : Option (Term × List Char) := do
  let (front, rest) := classFront cs
  let (body, rest) ← spellClass p (rest.length + 1) 0 rest
  return (.charClass ('[' :: front ++ body) p.flags.caseInsensitive, rest)

end Classes

section Terms

/-- Reads the closing parenthesis of a group. -/
def readClose (p : Progress) (cs : List Char) : Option (List Char) := do
  match ← skip p cs with
  | ')' :: rest => return rest
  | _ => none

/-- The flag that a letter names, with its state.  The Unicode flag cannot be cleared. -/
def flagOfChar? (negated : Bool) : Char → Option (Option Flag)
  | 'i' => some (some .caseInsensitive)
  | 'm' => some (some .multiLine)
  | 's' => some (some .dotAll)
  | 'U' => some (some .swapGreed)
  | 'x' => some (some .ignoreSpace)
  | 'u' => if negated then none else some none
  | _ => none

/-- Does the text stand where flags should, without any?  Blank characters in their place are
enough. -/
def lacksFlags : List Char → Bool
  | ')' :: _ => true
  | '-' :: ')' :: _ => true
  | '-' :: ':' :: _ => true
  | _ => false

/-- Reads flags up to a colon, or to the closing parenthesis if the second part of the result is
false. -/
def readFlags : Nat → Progress → (negated : Bool) → List Char →
    Option (Progress × Bool × List Char)
  | 0, _, _, _ => none
  | fuel + 1, p, negated, cs => do
      match ← skip p cs with
      | [] => none
      | ':' :: rest => return (p, true, rest)
      | ')' :: rest => return (p, false, rest)
      | '-' :: rest => if negated then none else readFlags fuel p true rest
      | c :: rest =>
          match ← flagOfChar? negated c with
          | some f =>
              readFlags fuel { p with flags := p.flags.set f (!negated) } negated rest
          | none => readFlags fuel p negated rest

/-- Opens a capturing group with a name. -/
def openNamed (p : Progress) (cs : List Char) : Option (Progress × List Char) := do
  let (name, rest) ← readName '>' cs
  let index := p.captures + 1
  return ({ p with captures := index, names := (name, index) :: p.names }, rest)

/-- Splits the body of a conditional into what is matched when the condition holds and what is
matched otherwise. -/
def splitBody : Term → Term × Term
  | .alternatives [] => (.empty, .empty)
  | .alternatives [t] => (t, .empty)
  | .alternatives [t, e] => (t, e)
  | .alternatives (t :: es) => (t, .alternatives es)
  | t => (t, .empty)

/-- A back reference as a condition asks whether the group has matched. -/
def asCondition : Term → Term
  | .backref group => .groupExists group
  | t => t

/-- A conditional, or its condition alone if both branches are empty. -/
def makeConditional (condition body : Term) : Term :=
  let (whenTrue, whenFalse) := splitBody body
  if whenTrue.isEmpty && whenFalse.isEmpty then asCondition condition
  else .conditional (asCondition condition) whenTrue whenFalse

/-- Is the term a back reference? -/
def isBackref : Term → Bool
  | .backref _ => true
  | _ => false

/-- The counts of a repetition sign at the front of the text, and the text behind it.  A brace
that begins no counts is no such sign. -/
def readRepetition (p : Progress) : List Char → Option (Nat × Option Nat × List Char)
  | '?' :: rest => some (0, some 1, rest)
  | '*' :: rest => some (0, none, rest)
  | '+' :: rest => some (1, none, rest)
  | '\x7b' :: rest => readCounts p rest
  | _ => none

/-- Numbers and names of groups must not both be used. -/
def checkNames (p : Progress) : Option Unit :=
  if p.numbered && !p.names.isEmpty then none else some ()

mutual

/-- Reads branches up to a closing parenthesis or the end of the text. -/
def readBranches : Nat → Nat → Progress → List Char → Option (Term × Progress × List Char)
  | 0, _, _, _ => none
  | fuel + 1, depth, p, cs => do
      let (first, p, rest) ← readParts fuel depth p [] cs
      let rest ← skip p rest
      match rest with
      | '|' :: _ => readMoreBranches fuel depth p [first] rest
      | _ => do
          checkNames p
          return (first, p, rest)

/-- Reads the branches behind a bar.  Those before it are given in reverse. -/
def readMoreBranches : Nat → Nat → Progress → List Term → List Char →
    Option (Term × Progress × List Char)
  | 0, _, _, _, _ => none
  | fuel + 1, depth, p, branches, cs =>
      match cs with
      | '|' :: rest => do
          let (t, p, rest) ← readParts fuel depth p [] rest
          let rest ← skip p rest
          readMoreBranches fuel depth p (t :: branches) rest
      | _ => some (.alternatives branches.reverse, p, cs)

/-- Reads parts as long as each consumes something.  Those before are given in reverse. -/
def readParts : Nat → Nat → Progress → List Term → List Char →
    Option (Term × Progress × List Char)
  | 0, _, _, _, _ => none
  | fuel + 1, depth, p, parts, cs =>
      if cs.isEmpty then some (Term.ofParts parts.reverse, p, cs)
      else do
        let (t, p, rest) ← readPiece fuel depth p cs
        if rest.length = cs.length then return (Term.ofParts parts.reverse, p, rest)
        else readParts fuel depth p (if t.isEmpty then parts else t :: parts) rest

/-- Reads an atom and the repetition behind it. -/
def readPiece : Nat → Nat → Progress → List Char → Option (Term × Progress × List Char)
  | 0, _, _, _ => none
  | fuel + 1, depth, p, cs => do
      let (t, p, rest) ← readAtom fuel depth p cs
      let rest ← skip p rest
      match readRepetition p rest with
      | none => return (t, p, rest)
      | some (least, most, rest) =>
          if t.repeatable then do
            let rest ← skip p rest
            let (lazy, rest) :=
              match rest with
              | '?' :: rest => (true, rest)
              | _ => (false, rest)
            let repeated := Term.repeated t least most (lazy == p.flags.swapGreed)
            match rest with
            | '+' :: rest => return (.atomic repeated, p, rest)
            | _ => return (repeated, p, rest)
          else none

/-- Reads a sign, a class, an escape or a group.  Where none begins the atom is empty. -/
def readAtom : Nat → Nat → Progress → List Char → Option (Term × Progress × List Char)
  | 0, _, _, _ => none
  | fuel + 1, depth, p, cs => do
      match ← skip p cs with
      | [] => return (.empty, p, [])
      | c :: rest =>
          if c = '.' then return (.any p.flags.dotAll, p, rest)
          else if c = '^' then
            return (.look (if p.flags.multiLine then .lineStart false else .textStart), p, rest)
          else if c = '$' then
            return (.look (if p.flags.multiLine then .lineEnd false else .textEnd), p, rest)
          else if c = '(' then readGroup fuel (depth + 1) p rest
          else if c = '\\' then readEscape p rest
          else if c = '+' || c = '*' || c = '?' || c = '|' || c = ')' then
            return (.empty, p, c :: rest)
          else if c = '[' then do
            let (t, rest) ← readClass p rest
            return (t, p, rest)
          else return (.literal c p.flags.caseInsensitive, p, rest)

/-- Reads a group behind its opening parenthesis. -/
def readGroup : Nat → Nat → Progress → List Char → Option (Term × Progress × List Char)
  | 0, _, _, _ => none
  | fuel + 1, depth, p, cs =>
      if maxNesting ≤ depth then none
      else do
        match ← skip p cs with
        | '?' :: '=' :: rest => readBody fuel depth p (.lookaround .ahead) rest
        | '?' :: '!' :: rest => readBody fuel depth p (.lookaround .aheadNot) rest
        | '?' :: '<' :: '=' :: rest => readBody fuel depth p (.lookaround .behind) rest
        | '?' :: '<' :: '!' :: rest => readBody fuel depth p (.lookaround .behindNot) rest
        | '?' :: '<' :: rest => do
            let (p, rest) ← openNamed p rest
            readBody fuel depth p (.capture p.captures) rest
        | '?' :: 'P' :: '<' :: rest => do
            let (p, rest) ← openNamed p rest
            readBody fuel depth p (.capture p.captures) rest
        | '?' :: 'P' :: '=' :: rest => do
            let (group, rest) ← readNamedRef p ')' rest
            return (.backref group, p, rest)
        | '?' :: '>' :: rest => readBody fuel depth p .atomic rest
        | '?' :: '(' :: rest => readConditional fuel depth p rest
        | '?' :: rest => do
            if lacksFlags rest then none
            let (q, colon, rest) ← readFlags (rest.length + 1) p false rest
            if colon then do
              let (t, q, rest) ← readBranches fuel depth q rest
              match rest with
              | ')' :: rest => return (t, { q with flags := p.flags }, rest)
              | _ => none
            else return (.empty, q, rest)
        | rest =>
            let p := { p with captures := p.captures + 1 }
            readBody fuel depth p (.capture p.captures) rest

/-- Reads the body of a group and its closing parenthesis. -/
def readBody : Nat → Nat → Progress → (Term → Term) → List Char →
    Option (Term × Progress × List Char)
  | 0, _, _, _, _ => none
  | fuel + 1, depth, p, make, cs => do
      let (t, p, rest) ← readBranches fuel depth p cs
      let rest ← readClose p rest
      return (make t, p, rest)

/-- Reads the condition of a conditional: a group that must have matched, or a term. -/
def readCondition : Nat → Nat → Progress → List Char → Option (Term × Progress × List Char)
  | 0, _, _, _ => none
  | fuel + 1, depth, p, cs =>
      match cs with
      | [] => none
      | '\'' :: rest => do
          let (group, rest) ← readSignedRef p '\'' rest
          return (.backref group, p, rest)
      | '<' :: rest => do
          let (group, rest) ← readSignedRef p '>' rest
          return (.backref group, p, rest)
      | c :: _ =>
          if c.isDigit then do
            let (group, p, rest) ← readNumberedRef p cs
            return (.backref group, p, rest)
          else readBranches fuel depth p cs

/-- Reads a conditional behind the parenthesis that opens its condition. -/
def readConditional : Nat → Nat → Progress → List Char → Option (Term × Progress × List Char)
  | 0, _, _, _ => none
  | fuel + 1, depth, p, cs => do
      let (condition, p, rest) ← readCondition fuel depth p cs
      let rest ← readClose p rest
      let (body, p, behind) ← readBranches fuel depth p rest
      let after ← readClose p behind
      if behind.length = rest.length then
        if isBackref condition then return (asCondition condition, p, after) else none
      else return (makeConditional condition body, p, after)

end

end Terms

end Reading

/-- The term that a text writes.  The number of a group must be less than half the bytes of the
text, which keeps absurd numbers out. -/
def Term.ofChars? (cs : List Char) : Option Term :=
  let bytes := cs.foldl (fun n c => n + c.utf8Size) 0
  match Reading.readBranches (8 * cs.length + 16) 0 { flags := {}, refBound := bytes / 2 } cs with
  | some (t, _, []) => some t
  | _ => none

end Extended
end Regex
end DocFilter
