import DocFilter.Regex.Layout
import Std.Data.HashMap

/-!
# Room of automata

The room of an automaton is what its states take, in bytes.  States that read the bytes of a set
are shared if they are equal, as far as they are remembered: they are kept in a table, a hash of
what distinguishes a state chooses its slot, and a slot remembers only the last state.  What
distinguishes a state are the numbers of the states behind it, so states have to be numbered to
count them.
-/

namespace DocFilter
namespace Regex

open Text

/-- What an automaton has grown to. -/
structure Extent where
  /-- The number of states, which is also the number of the next state. -/
  states : Nat := 0
  /-- The room of the states. -/
  room : Nat := 0
deriving DecidableEq, Repr

namespace Extent

/-- The room of every state. -/
def stateRoom : Nat := 32

/-- Adds states that take some room besides that of every state. -/
def add (e : Extent) (count extra : Nat) : Extent :=
  ⟨e.states + count, e.room + count * stateRoom + extra⟩

end Extent

/-- An automaton whose states can be shared, with a table of those remembered. -/
structure Sharing where
  extent : Extent
  /-- The state in each slot: what distinguishes it, and its number. -/
  table : Std.HashMap Nat (List Nat × Nat) := {}

namespace Sharing

/-- The slot of a state in a table of some slots, a hash over what distinguishes the state. -/
def slot (slots : UInt64) (key : List Nat) : Nat :=
  let hash := key.foldl (fun h n => (h ^^^ n.toUInt64) * 1099511628211) 14695981039346656037
  (hash % slots).toNat

/-- Adds a state, which takes the slot of another if it has to. -/
def add (slots : UInt64) (key : List Nat) (extra : Nat) (s : Sharing) : Nat × Sharing :=
  let number := s.extent.states
  (number, ⟨s.extent.add 1 extra, s.table.insert (slot slots key) (key, number)⟩)

/-- The number of a state, which is added unless it is remembered. -/
def state (slots : UInt64) (key : List Nat) (extra : Nat) (s : Sharing) : Nat × Sharing :=
  match s.table[slot slots key]? with
  | some (known, number) => if known = key then (number, s) else s.add slots key extra
  | none => s.add slots key extra

/-- The slots of the table for reading forward. -/
def forwardSlots : UInt64 := 10000

/-- The slots of the table for reading backward. -/
def backwardSlots : UInt64 := 1000

/-- Adds the states behind the branches of a tree, where a sequence ends at `target`.  What
distinguishes the state of the tree itself, which reads one of the ranges and goes on to the state
behind it, is put in reverse before `key`. -/
def forward (target : Nat) : Utf8.Tree → List Nat → Sharing → List Nat × Sharing
  | .done, key, s => (key, s)
  | .branch lo hi .done others, key, s => forward target others (target :: hi :: lo :: key) s
  | .branch lo hi below others, key, s =>
      let (inner, s) := forward target below [] s
      let (next, s) := state forwardSlots inner.reverse (8 * (inner.length / 3)) s
      forward target others (next :: hi :: lo :: key) s

/-- Adds the states that read a sequence from its last byte to its first, where `next` is the
state behind. -/
def backward (next : Nat) (sequence : Utf8.ByteRanges) (s : Sharing) : Sharing :=
  (sequence.foldl (fun (next, s) range => state backwardSlots [next, range.1, range.2] 0 s)
    (next, s)).2

end Sharing

namespace Extent

/-- Adds a state behind and the states that read one of the sequences of a tree. -/
def addTree (t : Utf8.Tree) (e : Extent) : Extent :=
  let (key, s) := Sharing.forward e.states t [] ⟨e.add 1 0, {}⟩
  (s.state Sharing.forwardSlots key.reverse (8 * (key.length / 3))).2.extent

/-- Adds a state that chooses a sequence, a state behind, and the states that read one of some
sequences. -/
def addSequences (sequences : List Utf8.ByteRanges) (e : Extent) : Extent :=
  let start : Sharing := ⟨e.add 2 (4 * sequences.length), {}⟩
  (sequences.foldl (fun s sequence => s.backward (e.states + 1) sequence) start).extent

/-- What an automaton has grown to, if that takes no more room than allowed. -/
def within (limit : Nat) (e : Extent) : Option Extent :=
  if e.room ≤ limit then some e else none

/-- Adds a part a number of times. -/
def addTimes (add : Extent → Option Extent) : Nat → Extent → Option Extent
  | 0, e => some e
  | n + 1, e =>
      match add e with
      | some e => addTimes add n e
      | none => none

mutual

/-- Adds what a layout describes, if it then takes no more room than allowed. -/
def addLayout (limit : Nat) : Layout → Extent → Option Extent
  | .states count extra, e => within limit (e.add count extra)
  | .tree t, e => within limit (e.addTree t)
  | .sequences ss, e => within limit (e.addSequences ss)
  | .parts ls, e => addLayouts limit ls e
  | .times count l, e => addTimes (addLayout limit l) count e

/-- Adds what layouts describe one after the other. -/
def addLayouts (limit : Nat) : List Layout → Extent → Option Extent
  | [], e => some e
  | l :: ls, e =>
      match addLayout limit l e with
      | some e => addLayouts limit ls e
      | none => none

end

end Extent

/-- Does an expression need no more room than allowed in either direction?  One that is searched by
comparing texts needs none. -/
def Core.fits (limit : Nat) (c : Core) : Bool :=
  c.isComparison ||
    ([Direction.forward, Direction.backward].all fun d =>
      (Extent.addLayout limit (c.automaton d) {}).isSome)

end Regex
end DocFilter
