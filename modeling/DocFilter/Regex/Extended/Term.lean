import DocFilter.Regex.Core

/-!
# Expressions with lookaround and back references

An extended term adds to regular expressions what lockstep search cannot do: lookaround, back
references, atomic groups, conditionals and resetting the start of a match.  A part is *hard* if
it contains one of these or a word boundary, because then it must be searched by backtracking.
Every other part can be written as a plain expression, even a group that some back reference names.

Two sizes decide how a term can be searched.  `minSize` is the least number of characters that it
consumes, and a term has `fixedSize` if it always consumes that many.  A class is kept as the text
that writes it and counts as one character.
-/

namespace DocFilter
namespace Regex
namespace Extended

/-- Where a lookaround looks, and what it wants to find. -/
inductive LookKind where
  | ahead
  | aheadNot
  | behind
  | behindNot
deriving DecidableEq, Repr

namespace LookKind

/-- Does the lookaround look back? -/
def looksBehind : LookKind → Bool
  | .behind => true
  | .behindNot => true
  | _ => false

/-- Does the lookaround hold where its body does not match? -/
def negative : LookKind → Bool
  | .aheadNot => true
  | .behindNot => true
  | _ => false

end LookKind

/-- An expression with lookaround and back references. -/
inductive Term where
  /-- Matches the empty text. -/
  | empty
  /-- Any character, or any that is no line feed. -/
  | any (newline : Bool)
  /-- A condition on the position. -/
  | look (l : Look)
  /-- A character, in either case if asked for. -/
  | literal (c : Char) (anyCase : Bool)
  /-- A class as a plain expression writes it, in either case if asked for. -/
  | charClass (spelling : List Char) (anyCase : Bool)
  /-- One after the other. -/
  | sequence (parts : List Term)
  /-- The first of the branches that fits. -/
  | alternatives (branches : List Term)
  /-- Records what the body matches under an index. -/
  | capture (index : Nat) (body : Term)
  /-- Asks for a match of the body next to the position, without consuming it. -/
  | lookaround (kind : LookKind) (body : Term)
  /-- At least `least` and at most `most` matches of the body in a row. -/
  | repeated (body : Term) (least : Nat) (most : Option Nat) (greedy : Bool)
  /-- The text that a group has matched. -/
  | backref (group : Nat)
  /-- The first match of the body and no other. -/
  | atomic (body : Term)
  /-- Makes the match begin here. -/
  | keepOut
  /-- Holds where the search began. -/
  | searchStart
  /-- Holds if a group has matched. -/
  | groupExists (group : Nat)
  /-- One of two terms, depending on whether a condition matches. -/
  | conditional (condition whenTrue whenFalse : Term)
deriving Repr

namespace Term

/-- Terms one after the other as one term. -/
def ofParts : List Term → Term
  | [] => .empty
  | [t] => t
  | ts => .sequence ts

/-- Is the term empty? -/
def isEmpty : Term → Bool
  | .empty => true
  | _ => false

/-- May the term stand before a repetition sign? -/
def repeatable : Term → Bool
  | .empty => false
  | .look _ => false
  | .lookaround _ _ => false
  | _ => true

/-- Does the condition on a position make a term hard? -/
def hardLook : Look → Bool
  | .boundary _ => true
  | .noBoundary _ => true
  | .wordStart _ => true
  | .wordEnd _ => true
  | _ => false

mutual

/-- The least number of characters that a term consumes. -/
def minSize : Term → Nat
  | .any _ => 1
  | .literal _ _ => 1
  | .charClass _ _ => 1
  | .sequence ts => minSizeSum ts
  | .alternatives [] => 0
  | .alternatives (t :: ts) => minSizeLeast (minSize t) ts
  | .capture _ t => minSize t
  | .repeated t least _ _ => minSize t * least
  | .atomic t => minSize t
  | .conditional c t e => minSize c + min (minSize t) (minSize e)
  | _ => 0

/-- The sum of the least sizes. -/
def minSizeSum : List Term → Nat
  | [] => 0
  | t :: ts => minSize t + minSizeSum ts

/-- The least of a bound and the least sizes. -/
def minSizeLeast (bound : Nat) : List Term → Nat
  | [] => bound
  | t :: ts => minSizeLeast (min bound (minSize t)) ts

end

mutual

/-- Does a term always consume the same number of characters? -/
def fixedSize : Term → Bool
  | .sequence ts => fixedSizeAll ts
  | .alternatives [] => true
  | .alternatives (t :: ts) => fixedSize t && fixedSizeEach (minSize t) ts
  | .capture _ t => fixedSize t
  | .repeated t least most _ => fixedSize t && most == some least
  | .backref _ => false
  | .atomic t => fixedSize t
  | .conditional c t e =>
      fixedSize c && fixedSize t && fixedSize e && minSize c + minSize t == minSize e
  | _ => true

/-- Are all terms of fixed size? -/
def fixedSizeAll : List Term → Bool
  | [] => true
  | t :: ts => fixedSize t && fixedSizeAll ts

/-- Are all terms of one fixed size, where each is compared with the least size before it? -/
def fixedSizeEach (size : Nat) : List Term → Bool
  | [] => true
  | t :: ts => fixedSize t && size == minSize t && fixedSizeEach (min size (minSize t)) ts

end

mutual

/-- Must a term be searched by backtracking? -/
def hard : Term → Bool
  | .look l => hardLook l
  | .sequence ts => hardAny ts
  | .alternatives ts => hardAny ts
  | .capture _ t => hard t
  | .lookaround _ _ => true
  | .repeated t _ _ _ => hard t
  | .backref _ => true
  | .atomic _ => true
  | .keepOut => true
  | .searchStart => true
  | .groupExists _ => true
  | .conditional _ _ _ => true
  | _ => false

/-- Is one of the terms hard? -/
def hardAny : List Term → Bool
  | [] => false
  | t :: ts => hard t || hardAny ts

end

mutual

/-- The characters of a term that consists of characters in their own case only. -/
def literalChars? : Term → Option (List Char)
  | .literal c false => some [c]
  | .sequence ts => literalCharsAll? ts
  | _ => none

/-- The characters of terms that all consist of characters in their own case only. -/
def literalCharsAll? : List Term → Option (List Char)
  | [] => some []
  | t :: ts => do
      let cs ← literalChars? t
      let ds ← literalCharsAll? ts
      return cs ++ ds

end

mutual

/-- The groups that a term records. -/
def groups : Term → List Nat
  | .sequence ts => groupsAll ts
  | .alternatives ts => groupsAll ts
  | .capture i t => i :: groups t
  | .lookaround _ t => groups t
  | .repeated t _ _ _ => groups t
  | .atomic t => groups t
  | .conditional c t e => groups c ++ groups t ++ groups e
  | _ => []

/-- The groups that the terms of a list record. -/
def groupsAll : List Term → List Nat
  | [] => []
  | t :: ts => groups t ++ groupsAll ts

end

/-- A text in parentheses that record nothing, if asked for. -/
def wrapIf (wrap : Bool) (cs : List Char) : List Char :=
  if wrap then "(?:".toList ++ cs ++ [')'] else cs

/-- A text in parentheses that make it match in either case, if asked for. -/
def foldIf (anyCase : Bool) (cs : List Char) : List Char :=
  if anyCase then "(?i:".toList ++ cs ++ [')'] else cs

/-- A character as it stands for itself in a plain expression. -/
def quote (c : Char) : List Char :=
  if "\\.+*?()|[]\x7b\x7d^$#".toList.contains c then ['\\', c] else [c]

/-- The spelling of a condition that is not hard. -/
def spellLook : Look → List Char
  | .textStart => ['^']
  | .textEnd => ['$']
  | .lineStart _ => "(?m:^)".toList
  | .lineEnd _ => "(?m:$)".toList
  | _ => []

/-- The spelling of the counts of a repetition. -/
def spellCounts (least : Nat) (most : Option Nat) : List Char :=
  match least, most with
  | 0, some 1 => ['?']
  | 0, none => ['*']
  | 1, none => ['+']
  | _, none => '\x7b' :: (toString least).toList ++ [',', '\x7d']
  | _, some n =>
      '\x7b' :: (toString least).toList ++
        (if n = least then [] else ',' :: (toString n).toList) ++ ['\x7d']

/-- Texts with bars between them. -/
def joinByBars : List (List Char) → List Char
  | [] => []
  | [cs] => cs
  | cs :: rest => cs ++ '|' :: joinByBars rest

mutual

/-- The plain expression that writes a term that is not hard.  The level says how tightly the
surroundings bind: alternatives are put in parentheses above level 0, sequences above 1 and
repetitions above 2. -/
def spell (level : Nat) : Term → List Char
  | .any true => "(?s:.)".toList
  | .any false => ['.']
  | .look l => spellLook l
  | .literal c anyCase => foldIf anyCase (quote c)
  | .charClass cs anyCase => foldIf anyCase cs
  | .sequence ts => wrapIf (1 < level) (spellAll 2 ts).flatten
  | .alternatives ts => wrapIf (0 < level) (joinByBars (spellAll 1 ts))
  | .capture _ t => '(' :: spell 0 t ++ [')']
  | .repeated t least most greedy =>
      wrapIf (2 < level)
        (spell 3 t ++ spellCounts least most ++ if greedy then [] else ['?'])
  | _ => []

/-- The plain expressions that write the terms of a list. -/
def spellAll (level : Nat) : List Term → List (List Char)
  | [] => []
  | t :: ts => spell level t :: spellAll level ts

end

end Term

end Extended
end Regex
end DocFilter
