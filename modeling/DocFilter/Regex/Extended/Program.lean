import DocFilter.Regex.Extended.Reading
import DocFilter.Regex.Plain

/-!
# Programs for backtracking search

A hard term compiles to instructions of a backtracking machine.  Parts that are not hard are
handed over to lockstep search as the plain expressions that write them, with their literal text
compared directly where there is nothing else to them.  A part that is handed over matches in one
way only, the way it prefers, so parts before a hard one are handed over only if their size is
fixed; behind the last hard part the rest can be handed over if nothing follows the whole.

A slot holds a position that a group recorded, a position to return to, or a count of rounds.
-/

namespace DocFilter
namespace Regex
namespace Extended

/-- One instruction.  Those without a target pass control to the next address. -/
inductive Inst where
  /-- Consumes a text. -/
  | literal (cs : List Char)
  /-- Consumes a character, or one that is no line feed. -/
  | any (newline : Bool)
  /-- Goes on if the condition holds. -/
  | look (l : Look)
  /-- Goes to the first address, and to the second if that fails. -/
  | split (first second : Nat)
  /-- Goes to an address. -/
  | jump (target : Nat)
  /-- Records the position in a slot. -/
  | save (slot : Nat)
  /-- Sets a slot to zero. -/
  | clear (slot : Nat)
  /-- Returns to the position in a slot. -/
  | restore (slot : Nat)
  /-- Enters another round of a repetition, or leaves it for `next`. -/
  | rounds (greedy : Bool) (least : Nat) (most : Option Nat) (next counter : Nat)
  /-- The same without an upper count, for a body that may match the empty text: a round that
  begins where the last one began fails. -/
  | movingRounds (greedy : Bool) (least next counter start : Nat)
  /-- Goes back a number of characters. -/
  | goBack (count : Nat)
  /-- Drops what the body of a negative lookaround left to try, and fails. -/
  | failNegative
  /-- Consumes the text that a group recorded. -/
  | backref (group : Nat)
  /-- Goes on if a group was recorded. -/
  | groupExists (group : Nat)
  /-- Remembers how much there is to try. -/
  | beginAtomic
  /-- Drops what has come up to try since then. -/
  | endAtomic
  /-- Goes on where the search began. -/
  | searchStart
  /-- Goes to the end of the match that lockstep search finds here, and takes over what its groups
  recorded as the groups with the given indices. -/
  | delegate (program : Regex.Program) (groups : List Nat)
  /-- Ends the match. -/
  | accept

/-- A program, entered at address zero, and the number of slots it uses. -/
structure Program where
  insts : Array Inst
  slots : Nat

namespace Program

/-- A piece of code with the first slot it leaves unused. -/
abbrev Piece := List Inst × Nat

/-- A split that prefers to stay in a repetition when it is greedy. -/
def choose (greedy : Bool) (stay leave : Nat) : Inst :=
  if greedy then .split stay leave else .split leave stay

/-- The instruction that hands terms over to lockstep search. -/
def handOver (ts : List Term) : Option Inst :=
  match Term.literalCharsAll? ts with
  | some cs => some (.literal cs)
  | none =>
      match Plain.compile {} {} (Term.spellAll 1 ts).flatten with
      | .ok program => some (.delegate program (Term.groupsAll ts))
      | .error _ => none

/-- The code that hands terms over, none for no terms. -/
def handOverAll (ts : List Term) : Option (List Inst) :=
  if ts.isEmpty then some []
  else (handOver ts).map fun i => [i]

/-- Is a term of fixed size and not hard? -/
def easyFixed (t : Term) : Bool :=
  t.fixedSize && !t.hard

/-- The number of parts that are handed over before the first hard one. -/
def frontLength (ts : List Term) : Nat :=
  (ts.takeWhile (easyFixed)).length

/-- The number of parts behind those that are handed over at the end.  If something follows the
whole, only parts of fixed size are. -/
def backLength (followed : Bool) (ts : List Term) : Nat :=
  (ts.reverse.takeWhile fun t => if followed then easyFixed t else !t.hard).length

/-- Code repeated as often as two counts allow, around the code of the body at the given base and
with the given free slot.  `mayBeEmpty` says that the body can match the empty text. -/
def repeatCode (least : Nat) (most : Option Nat) (greedy mayBeEmpty : Bool)
    (body : Nat → Nat → Option Piece) (base free : Nat) : Option Piece :=
  if least = 0 ∧ most = some 1 then do
    let (inner, free) ← body (base + 1) free
    return (choose greedy (base + 1) (base + 1 + inner.length) :: inner, free)
  else if most = none ∧ mayBeEmpty then do
    let (inner, free') ← body (base + 2) (free + 2)
    let next := base + 3 + inner.length
    return (.clear free :: .movingRounds greedy least next free (free + 1) :: inner ++
      [.jump (base + 1)], free')
  else if least = 0 ∧ most = none then do
    let (inner, free) ← body (base + 1) free
    return (choose greedy (base + 1) (base + 2 + inner.length) :: inner ++ [.jump base], free)
  else if least = 1 ∧ most = none then do
    let (inner, free) ← body base free
    return (inner ++ [choose greedy base (base + inner.length + 1)], free)
  else do
    let (inner, free') ← body (base + 2) (free + 1)
    let next := base + 3 + inner.length
    return (.clear free :: .rounds greedy least most next free :: inner ++ [.jump (base + 1)],
      free')

/-- The code of a lookaround around the code of its body.  A positive one returns to where it
began.  A negative one is a split whose first way must fail. -/
def lookaroundCode (kind : LookKind) (fixed : Bool) (size : Nat)
    (body : Nat → Nat → Option Piece) (base free : Nat) : Option Piece :=
  if kind.looksBehind && !fixed then none
  else
    let back := if kind.looksBehind then [Inst.goBack size] else []
    if kind.negative then do
      let (inner, free) ← body (base + 1 + back.length) free
      let next := base + 2 + back.length + inner.length
      return (.split (base + 1) next :: back ++ inner ++ [.failNegative], free)
    else do
      let (inner, free') ← body (base + 1 + back.length) (free + 1)
      return (.save free :: back ++ inner ++ [.restore free], free')

/-- Must a lookbehind be taken apart into one for each branch? -/
def splitsBehind (kind : LookKind) : Term → Bool
  | .alternatives ts => kind.looksBehind && !(Term.alternatives ts).fixedSize
  | _ => false

mutual

/-- The code of a term.  `followed` says that backtracking into the term may be needed, so that
only its parts of fixed size can be handed over. -/
def code (followed : Bool) : Term → Nat → Nat → Option Piece
  | .empty, _, free =>
      if followed then some ([], free)
      else (handOver [.empty]).map fun i => ([i], free)
  | .any newline, _, free =>
      if followed then some ([.any newline], free)
      else (handOver [.any newline]).map fun i => ([i], free)
  | .look l, _, free =>
      if followed || Term.hardLook l then some ([.look l], free)
      else (handOver [.look l]).map fun i => ([i], free)
  | .literal c anyCase, _, free => (handOver [.literal c anyCase]).map fun i => ([i], free)
  | .charClass cs anyCase, _, free => (handOver [.charClass cs anyCase]).map fun i => ([i], free)
  | .sequence ts, base, free =>
      if !followed && !Term.hardAny ts then
        (handOver [.sequence ts]).map fun i => ([i], free)
      else do
        let front := frontLength ts
        let back := backLength followed (ts.drop front)
        let first ← handOverAll (ts.take front)
        let (middle, free) ←
          codeParts ts front (ts.length - front - back) (base + first.length) free
        let last ← handOverAll (ts.drop (ts.length - back))
        return (first ++ middle ++ last, free)
  | .alternatives ts, base, free =>
      if !followed && !Term.hardAny ts then
        (handOver [.alternatives ts]).map fun i => ([i], free)
      else codeBranches followed ts base free
  | .capture i t, base, free =>
      if !followed && !Term.hard (.capture i t) then
        (handOver [.capture i t]).map fun j => ([j], free)
      else do
        let (inner, free) ← code followed t (base + 1) free
        return (.save (2 * i) :: inner ++ [.save (2 * i + 1)], free)
  | .lookaround kind t, base, free =>
      if splitsBehind kind t then codeLookbehinds kind t base free
      else lookaroundCode kind t.fixedSize t.minSize (code false t) base free
  | .repeated t least most greedy, base, free =>
      if !followed && !Term.hard t then
        (handOver [.repeated t least most greedy]).map fun i => ([i], free)
      else
        repeatCode least most greedy (t.minSize == 0)
          (code (followed || !(least == 0 && most == some 1) && Term.hard t) t) base free
  | .backref group, _, free => some ([.backref group], free)
  | .atomic t, base, free => do
      let (inner, free) ← code false t (base + 1) free
      return (.beginAtomic :: inner ++ [.endAtomic], free)
  | .keepOut, _, free => some ([.save 0], free)
  | .searchStart, _, free => some ([.searchStart], free)
  | .groupExists group, _, free => some ([.groupExists group], free)
  | .conditional c t e, base, free => do
      let (condition, free) ← code followed c (base + 2) free
      let trueBase := base + 3 + condition.length
      let (whenTrue, free) ← code followed t trueBase free
      let falseBase := trueBase + whenTrue.length + 1
      let (whenFalse, free) ← code followed e falseBase free
      return (.beginAtomic :: .split (base + 2) falseBase :: condition ++ .endAtomic ::
        whenTrue ++ .jump (falseBase + whenFalse.length) :: whenFalse, free)

/-- The code of those terms of a list that remain when some are skipped at the front and only a
number of the others is taken. -/
def codeParts : List Term → Nat → Nat → Nat → Nat → Option Piece
  | [], _, _, _, free => some ([], free)
  | t :: ts, skipped, taken, base, free =>
      match skipped, taken with
      | n + 1, _ => codeParts ts n taken base free
      | 0, 0 => some ([], free)
      | 0, n + 1 => do
          let (first, free) ← code true t base free
          let (others, free) ← codeParts ts 0 n (base + first.length) free
          return (first ++ others, free)

/-- The code of branches, each but the last behind a split and before a jump to the end. -/
def codeBranches (followed : Bool) :
    List Term → Nat → Nat → Option Piece
  | [], _, free => some ([], free)
  | [t], base, free => code followed t base free
  | t :: ts, base, free => do
      let (first, free) ← code followed t (base + 1) free
      let next := base + first.length + 2
      let (others, free) ← codeBranches followed ts next free
      return (.split (base + 1) next :: first ++ .jump (next + others.length) :: others, free)

/-- The code of a lookbehind for each branch of a term. -/
def codeLookbehinds (kind : LookKind) : Term → Nat → Nat → Option Piece
  | .alternatives ts, base, free => codeEachLookbehind kind ts base free
  | _, _, _ => none

/-- The code of a lookbehind for each term of a list: one of the positive ones must hold, or all
of the negative ones. -/
def codeEachLookbehind (kind : LookKind) :
    List Term → Nat → Nat → Option Piece
  | [], _, free => some ([], free)
  | t :: ts, base, free =>
      if kind.negative || ts.isEmpty then do
        let (first, free) ←
          lookaroundCode kind t.fixedSize t.minSize (code false t) base free
        let (others, free) ← codeEachLookbehind kind ts (base + first.length) free
        return (first ++ others, free)
      else do
        let (first, free) ←
          lookaroundCode kind t.fixedSize t.minSize (code false t) (base + 1) free
        let next := base + first.length + 2
        let (others, free) ← codeEachLookbehind kind ts next free
        return (.split (base + 1) next :: first ++ .jump (next + others.length) :: others, free)

end

/-- The program that searches for a term: it skips as few characters as possible and then matches
the term as group zero. -/
def ofTerm? (t : Term) : Option Program := do
  let groups := t.groups.max?.getD 0
  let (inner, free) ← code true t 4 (2 * (groups + 1))
  let search : List Inst := [.split 3 1, .any true, .jump 0, .save 0]
  return { insts := (search ++ inner ++ [Inst.save 1, Inst.accept]).toArray, slots := free }

end Program

end Extended
end Regex
end DocFilter
