import DocFilter.Regex.Core
import DocFilter.Text.Utf8

/-!
# Beginnings of matches

An expression may have few beginnings: texts one of which every match begins with, in the order in
which the expression prefers them.  A beginning is whole if it is all of the match.  An expression
without groups and conditions whose beginnings are all whole is searched by comparing texts, and
needs no automaton, unless it is expected to be faster to look for shorter beginnings first.
-/

namespace DocFilter
namespace Regex

open Text

/-- A text as its bytes. -/
abbrev Bytes := List Nat

/-- A text that a match may begin with. -/
structure Beginning where
  bytes : Bytes
  /-- Is the text all of the match? -/
  whole : Bool
deriving DecidableEq, Repr

namespace Beginning

/-- The beginning of what matches the empty text only. -/
def empty : Beginning :=
  ⟨[], true⟩

/-- The beginning that consists of the first bytes of another. -/
def take (length : Nat) (b : Beginning) : Beginning :=
  if b.bytes.length ≤ length then b else ⟨b.bytes.take length, false⟩

/-- The same text as part of a longer match. -/
def asPart (b : Beginning) : Beginning :=
  { b with whole := false }

/-- A whole beginning followed by another. -/
def append (b next : Beginning) : Beginning :=
  ⟨b.bytes ++ next.bytes, next.whole⟩

end Beginning

/-- The beginnings of an expression, none if they are too many to be listed or may be anything. -/
abbrev Beginnings := Option (List Beginning)

namespace Beginnings

/-- No more beginnings than this are listed. -/
def maxCount : Nat := 250

/-- The members of larger sets are not listed. -/
def maxMembers : Nat := 10

/-- No more rounds of a repetition than this are followed. -/
def maxRounds : Nat := 10

/-- Beginnings are not longer than this. -/
def maxLength : Nat := 100

/-- Leaves one of equal texts that stand side by side, which is whole if all of them are. -/
def withoutRepeats : List Beginning → List Beginning
  | [] => []
  | b :: bs =>
      match withoutRepeats bs with
      | [] => [b]
      | c :: cs => if b.bytes = c.bytes then ⟨b.bytes, b.whole && c.whole⟩ :: cs else b :: c :: cs

/-- Cuts texts to a length. -/
def cut (length : Nat) (bs : Beginnings) : Beginnings :=
  bs.map fun bs => bs.map (·.take length)

/-- The same texts as parts of longer matches. -/
def asParts (bs : Beginnings) : Beginnings :=
  bs.map fun bs => bs.map Beginning.asPart

/-- Is no text whole? -/
def noneWhole (bs : Beginnings) : Bool :=
  bs.all fun bs => bs.all fun b => !b.whole

/-- Each text of the first list that is whole followed by each text of the second, and the other
texts of the first list. -/
def followed (firsts seconds : List Beginning) : List Beginning :=
  withoutRepeats (firsts.flatMap fun b => if b.whole then seconds.map b.append else [b])

/-- The beginnings of two expressions one after the other. -/
def cross (first second : Beginnings) : Beginnings :=
  match first, second with
  | none, _ => none
  | some bs, some cs =>
      if bs.length * cs.length ≤ maxCount then cut maxLength (some (followed bs cs))
      else beforeAnything bs
  | some bs, none => beforeAnything bs
where
  /-- The beginnings of an expression before another that may begin with anything. -/
  beforeAnything (bs : List Beginning) : Beginnings :=
    if bs.any (·.bytes.isEmpty) then none else some (bs.map Beginning.asPart)

/-- The beginnings of two branches.  If they are too many, only the first bytes of each count. -/
def union (first second : Beginnings) : Beginnings :=
  match first, second with
  | some bs, some cs =>
      if bs.length + cs.length ≤ maxCount then some (withoutRepeats (bs ++ cs))
      else
        let bs := withoutRepeats (bs.map (·.take 4))
        let cs := withoutRepeats (cs.map (·.take 4))
        if bs.length + cs.length ≤ maxCount then some (withoutRepeats (bs ++ cs)) else none
  | _, _ => none

/-- The beginnings of a set. -/
def ofSet (s : Ranges) : Beginnings :=
  if maxMembers < s.size then none
  else
    some (s.flatMap fun r =>
      (List.range (r.2 + 1 - r.1)).map fun k => ⟨Utf8.bytes (Char.ofNat (r.1 + k)), true⟩)

/-- The beginnings of a number of rounds. -/
def rounds (body : Beginnings) : Nat → Beginnings
  | 0 => some [.empty]
  | n + 1 =>
      let bs := rounds body n
      if bs.noneWhole then bs else cross bs body

/-- The beginnings of a repetition of a body. -/
def ofRepeated (body : Beginnings) (least : Nat) (most : Option Nat) (greedy : Bool) :
    Beginnings :=
  if least = 0 then
    let body := if most = some 1 then body else body.asParts
    let skipped : Beginnings := some [.empty]
    if greedy then union body skipped else union skipped body
  else
    let bs := rounds body (min least maxRounds)
    if most = some least ∧ least ≤ maxRounds then bs else bs.asParts

end Beginnings

namespace Core

mutual

/-- The beginnings of an expression. -/
def beginnings : Core → Beginnings
  | .empty => some [.empty]
  | .text cs => .cut Beginnings.maxLength (some [⟨cs.flatMap Utf8.bytes, true⟩])
  | .set s _ => .ofSet s
  | .look _ => some [.empty]
  | .capture _ c => beginnings c
  | .repeated c least most greedy => .ofRepeated (beginnings c) least most greedy
  | .alternatives cs => beginningsAny (some []) cs
  | .sequence cs => beginningsAll (some [.empty]) cs

/-- The beginnings of branches, added to those of the branches before them. -/
def beginningsAny (bs : Beginnings) : List Core → Beginnings
  | [] => bs
  | c :: cs => if bs.isNone then none else beginningsAny (bs.union (beginnings c)) cs

/-- The beginnings of expressions behind others whose beginnings are known. -/
def beginningsAll (bs : Beginnings) : List Core → Beginnings
  | [] => bs
  | c :: cs => if bs.noneWhole then bs else beginningsAll (bs.cross (beginnings c)) cs

end

end Core

namespace Beginnings

/-- The beginnings of a list before which none stands that they begin with.  The others are never
found, because the earlier one is preferred. -/
def preferred (bs : List Beginning) : List Beginning :=
  (bs.foldl
    (fun kept b => if kept.any (·.bytes.isPrefixOf b.bytes) then kept else b :: kept) []).reverse

/-- What two texts have in common at the front. -/
def commonFront : Bytes → Bytes → Bytes
  | b :: bs, c :: cs => if b = c then b :: commonFront bs cs else []
  | _, _ => []

/-- What all texts of a list have in common at the front. -/
def front : List Beginning → Bytes
  | [] => []
  | b :: bs => bs.foldl (fun front c => commonFront front c.bytes) b.bytes

/-- The ASCII characters that are common in texts. -/
def commonChars : List Char :=
  "\n\r (),-./0129:_abcdefghilmnoprstuvxy|".toList

/-- The ASCII characters that are found in nearly every text. -/
def ubiquitousChars : List Char :=
  [' ', 'e', 't']

/-- Is the byte rare in texts?  Bytes of other than ASCII characters count as common. -/
def isRare (b : Nat) : Bool :=
  b < 128 && !commonChars.contains (Char.ofNat b)

/-- Is the byte found in nearly every text? -/
def isUbiquitous (b : Nat) : Bool :=
  128 ≤ b || ubiquitousChars.contains (Char.ofNat b)

/-- Is looking for the text useless, because it is found almost everywhere? -/
def isUseless (b : Beginning) : Bool :=
  match b.bytes with
  | [] => true
  | [c] => isUbiquitous c
  | _ => false

/-- Lengths to cut texts to, each with the number of texts up to which it is not needed. -/
def cuts : List (Nat × Nat) :=
  [(5, 10), (4, 10), (3, 64), (2, 64), (1, 10)]

/-- Cuts the texts of a list until they are few. -/
def shorten : List (Nat × Nat) → List Beginning → List Beginning
  | [], bs => bs
  | (length, enough) :: cuts, bs =>
      if bs.length ≤ enough then bs
      else shorten cuts (preferred (bs.map (·.take length)))

/-- Is a list of beginnings, cut until they are few, better to look for than the whole texts? -/
def isBetter (bs : List Beginning) : Bool :=
  !bs.any isUseless && bs.all (2 < ·.bytes.length) && bs.length ≤ 64

/-- The beginnings to look for in place of those of a list, where `count` is their number with
those that are never found.  A rare first byte or a common front that is long serves better than
many texts, and shorter texts serve better if they are few and not too short. -/
def sought (count : Nat) (bs : List Beginning) : List Beginning :=
  let front := front bs
  let length := front.length
  if 1 < count && 1 ≤ length && length ≤ 3 && isRare (front.headD 0) then
    withoutRepeats (bs.map (·.take 1))
  else
    let fast := bs.all (·.whole) && bs.length ≤ 16
    let bs :=
      if 4 < length || (1 < length && !fast) then withoutRepeats (bs.map (·.take length)) else bs
    let short := shorten cuts bs
    if bs.all (·.whole) && !isBetter short then bs else short

end Beginnings

namespace Core

mutual

/-- Does the expression have neither groups nor conditions? -/
def recordsNothing : Core → Bool
  | .look _ => false
  | .capture _ _ => false
  | .repeated c _ _ _ => recordsNothing c
  | .alternatives cs => recordsNothingAll cs
  | .sequence cs => recordsNothingAll cs
  | _ => true

/-- Do all expressions have neither groups nor conditions? -/
def recordsNothingAll : List Core → Bool
  | [] => true
  | c :: cs => recordsNothing c && recordsNothingAll cs

end

/-- The texts of branches that are all texts. -/
def texts? (cs : List Core) : Option (List Bytes) :=
  cs.mapM fun c =>
    match c with
    | text ds => some (ds.flatMap Utf8.bytes)
    | _ => none

/-- Are these the branches of very many texts? -/
def isDictionary : Core → Bool
  | .alternatives cs => 3000 ≤ cs.length && (texts? cs).isSome
  | _ => false

/-- Is an expression searched by comparing texts? -/
def isComparison (c : Core) : Bool :=
  c.isDictionary ||
    match c.beginnings with
    | none => false
    | some bs =>
        let bs := Beginnings.withoutRepeats bs
        c.recordsNothing && !bs.isEmpty && bs.all (!·.bytes.isEmpty) &&
          (Beginnings.sought bs.length (Beginnings.preferred bs)).all (·.whole)

end Core

end Regex
end DocFilter
