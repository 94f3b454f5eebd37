import DocFilter.Regex.Extended.Program

/-!
# Backtracking search

The machine follows one branch at a time and keeps the branches left to try on a stack.  When a
branch fails, the last one pushed is taken up with the slots it was pushed with.  Only these
returns are counted: a search gives up when they exceed a limit, or when the stack overflows.

Between two returns a branch runs on fuel.  A round of a repetition pushes a branch or consumes
text, except for counted rounds of an empty body, so only an absurd count can exhaust the fuel.
-/

namespace DocFilter
namespace Regex
namespace Extended
namespace Machine

/-- Where a branch is, what it recorded, and how high the stack was at the atomic groups that it
has entered. -/
structure Branch where
  pc : Nat
  pos : Nat
  slots : Slots
  cuts : List Nat

/-- The branches left to try, the last pushed first, and their number. -/
structure Stack where
  branches : List Branch
  height : Nat

namespace Stack

/-- The stack without branches. -/
def empty : Stack := ⟨[], 0⟩

/-- Adds a branch. -/
def push (s : Stack) (b : Branch) : Stack :=
  ⟨b :: s.branches, s.height + 1⟩

/-- Drops branches until a height is reached. -/
def cut (s : Stack) (height : Nat) : Stack :=
  ⟨s.branches.drop (s.height - height), min s.height height⟩

/-- Drops branches up to and including the first that goes on at an address. -/
def dropThrough (pc : Nat) : List Branch → Nat → Stack
  | [], height => ⟨[], height⟩
  | b :: branches, height =>
      if b.pc = pc then ⟨branches, height - 1⟩ else dropThrough pc branches (height - 1)

end Stack

/-- More branches than this overflow the stack. -/
def maxHeight : Nat := 1000000

/-- How the run of a branch ends. -/
inductive Leg where
  /-- It reaches the end of the program. -/
  | accepted
  /-- It fails, with these branches left to try. -/
  | failed (stack : Stack)
  /-- It pushes too many branches or runs too long. -/
  | exhausted

/-- What one instruction does. -/
inductive Next where
  | go (b : Branch) (stack : Stack)
  | stop (leg : Leg)

/-- Does a text stand at a position? -/
def standsAt (text : Array Char) : Nat → List Char → Bool
  | _, [] => true
  | pos, c :: cs => text[pos]? == some c && standsAt text (pos + 1) cs

/-- Takes over what the groups from a number on recorded, also if they recorded nothing, as the
groups with the given indices. -/
def takeGroups (found : Slots) : Nat → List Nat → Slots → Slots
  | _, [], slots => slots
  | k, g :: groups, slots =>
      takeGroups found (k + 1) groups
        ((slots.setIfInBounds (2 * g) (found.getD (2 * k) none)).setIfInBounds (2 * g + 1)
          (found.getD (2 * k + 1) none))

/-- The number of slots that lockstep search needs to record some groups. -/
def slotsFor (groups : List Nat) : Nat :=
  if groups.isEmpty then 0 else 2 * groups.length + 2

section Steps

variable (text : Array Char) (start : Nat)

/-- Goes on with a branch after pushing another, if there is room. -/
def pushAndGo (pushed b : Branch) (stack : Stack) : Next :=
  if stack.height < maxHeight then .go b (stack.push pushed) else .stop .exhausted

/-- Enters a round at the next address or leaves the repetition, in the order preferred. -/
def enterRound (greedy : Bool) (next : Nat) (b : Branch) (stack : Stack) : Next :=
  let inside := { b with pc := b.pc + 1 }
  let outside := { b with pc := next }
  if greedy then pushAndGo outside inside stack else pushAndGo inside outside stack

/-- Does one instruction. -/
def step (inst : Inst) (b : Branch) (stack : Stack) : Next :=
  let fail : Next := .stop (.failed stack)
  let goOn (b : Branch) : Next := .go { b with pc := b.pc + 1 } stack
  let slot (i : Nat) : Option Nat := b.slots.getD i none
  let put (i : Nat) (v : Nat) : Branch := { b with slots := b.slots.setIfInBounds i (some v) }
  match inst with
  | .literal cs =>
      if standsAt text b.pos cs then goOn { b with pos := b.pos + cs.length } else fail
  | .any newline =>
      match text[b.pos]? with
      | some c => if newline || c != '\n' then goOn { b with pos := b.pos + 1 } else fail
      | none => fail
  | .look l =>
      let before := if b.pos = 0 then none else text[b.pos - 1]?
      if l.holds before text[b.pos]? then goOn b else fail
  | .split first second => pushAndGo { b with pc := second } { b with pc := first } stack
  | .jump target => .go { b with pc := target } stack
  | .save i => goOn (put i b.pos)
  | .clear i => goOn (put i 0)
  | .restore i => goOn { b with pos := (slot i).getD 0 }
  | .rounds greedy least most next counter =>
      let count := (slot counter).getD 0
      if most = some count then .go { b with pc := next } stack
      else
        let b := put counter (count + 1)
        if least ≤ count then enterRound greedy next b stack else goOn b
  | .movingRounds greedy least next counter begun =>
      let count := (slot counter).getD 0
      if least < count ∧ slot begun = some b.pos then fail
      else
        let b := put counter (count + 1)
        if least ≤ count then
          enterRound greedy next { b with slots := b.slots.setIfInBounds begun (some b.pos) } stack
        else goOn b
  | .goBack count => if count ≤ b.pos then goOn { b with pos := b.pos - count } else fail
  | .failNegative => .stop (.failed (Stack.dropThrough (b.pc + 1) stack.branches stack.height))
  | .backref group =>
      match slot (2 * group), slot (2 * group + 1) with
      | some lo, some hi =>
          if lo ≤ hi && standsAt text b.pos (text.extract lo hi).toList then
            goOn { b with pos := b.pos + (hi - lo) }
          else fail
      | _, _ => fail
  | .groupExists group => if (slot (2 * group)).isSome then goOn b else fail
  | .beginAtomic => goOn { b with cuts := stack.height :: b.cuts }
  | .endAtomic =>
      match b.cuts with
      | height :: cuts => .go { b with pc := b.pc + 1, cuts := cuts } (stack.cut height)
      | [] => goOn b
  | .searchStart => if b.pos = start then goOn b else fail
  | .delegate program groups =>
      match Search.find program text true (slotsFor groups) b.pos with
      | some hit =>
          goOn { b with pos := hit.stop, slots := takeGroups hit.slots 1 groups b.slots }
      | none => fail
  | .accept => .stop .accepted

/-- Runs a branch until it accepts or fails. -/
def runLeg (code : Array Inst) : Nat → Branch → Stack → Leg
  | 0, _, _ => .exhausted
  | fuel + 1, b, stack =>
      match code[b.pc]? with
      | none => .failed stack
      | some inst =>
          match step text start inst b stack with
          | .go b stack => runLeg code fuel b stack
          | .stop leg => leg

end Steps

/-- How a search ends. -/
inductive Outcome where
  | found
  | notFound
  /-- It gives up. -/
  | aborted
deriving DecidableEq, Repr

/-- The fuel of one branch. -/
def legFuel : Nat := 4294967296

/-- Runs a branch, and as long as branches fail returns to the last one left to try, at most the
given number of times. -/
def runFrom (text : Array Char) (start : Nat) (code : Array Inst) :
    Nat → Branch → Stack → Outcome
  | 0, b, stack =>
      match runLeg text start code legFuel b stack with
      | .accepted => .found
      | .exhausted => .aborted
      | .failed stack => if stack.branches.isEmpty then .notFound else .aborted
  | returns + 1, b, stack =>
      match runLeg text start code legFuel b stack with
      | .accepted => .found
      | .exhausted => .aborted
      | .failed stack =>
          match stack.branches with
          | [] => .notFound
          | b :: branches => runFrom text start code returns b ⟨branches, stack.height - 1⟩

/-- Searches a text from its start, with a limit on the number of returns. -/
def run (program : Program) (limit : Nat) (text : Array Char) : Outcome :=
  runFrom text 0 program.insts limit ⟨0, 0, Array.replicate program.slots none, []⟩ Stack.empty

end Machine
end Extended
end Regex
end DocFilter
