import DocFilter.Regex.Program

/-!
# Lockstep search

All ways through a program advance together, one character at a time, as an ordered list of
threads: the thread that a backtracking search would try first stands first.  At every position a
program address is entered at most once, by the thread of highest priority, so a search takes
time proportional to the program times the text.

When a thread accepts, the threads behind it are dropped and those before it go on.  The last
thread to accept is therefore the match that a backtracking search finds first.
-/

namespace DocFilter
namespace Regex

/-- The positions recorded so far, by slot. -/
abbrev Slots := Array (Option Nat)

/-- A way through a program: where it is and what it recorded. -/
structure Thread where
  pc : Nat
  slots : Slots

namespace Search

/-- The ends of a match: where it stops, and the positions recorded on the way. -/
structure Hit where
  stop : Nat
  slots : Slots

/-- Follows threads to the instructions that consume a character or accept, depth first.  The
addresses entered are marked in `seen`; the threads reached are collected in reverse. -/
def close (prog : Program) (before behind : Option Char) (pos : Nat) :
    Nat → List Thread → Array Bool → List Thread → List Thread
  | 0, _, _, reached => reached
  | _, [], _, reached => reached
  | fuel + 1, t :: stack, seen, reached =>
      if seen.getD t.pc true then close prog before behind pos fuel stack seen reached
      else
        let seen := seen.setIfInBounds t.pc true
        match prog[t.pc]? with
        | some (.jump a) =>
            close prog before behind pos fuel (⟨a, t.slots⟩ :: stack) seen reached
        | some (.split a b) =>
            close prog before behind pos fuel (⟨a, t.slots⟩ :: ⟨b, t.slots⟩ :: stack) seen reached
        | some (.look l) =>
            if l.holds before behind then
              close prog before behind pos fuel (⟨t.pc + 1, t.slots⟩ :: stack) seen reached
            else close prog before behind pos fuel stack seen reached
        | some (.save i) =>
            close prog before behind pos fuel
              (⟨t.pc + 1, t.slots.setIfInBounds i (some pos)⟩ :: stack) seen reached
        | some _ => close prog before behind pos fuel stack seen (t :: reached)
        | none => close prog before behind pos fuel stack seen reached

/-- Does a thread accept? -/
def accepts (prog : Program) (t : Thread) : Bool :=
  match prog[t.pc]? with
  | some .accept => true
  | _ => false

/-- Splits ordered threads into those that come before the first accepting one, and that one. -/
def cut (prog : Program) (threads : List Thread) : List Thread × Option Thread :=
  (threads.takeWhile fun t => !accepts prog t, threads.find? (accepts prog))

/-- The thread behind a character, if its instruction takes that character. -/
def advance (prog : Program) (c : Char) (t : Thread) : Option Thread :=
  match prog[t.pc]? with
  | some (.set s) => if s.mem c.toNat then some ⟨t.pc + 1, t.slots⟩ else none
  | _ => none

/-- Advances threads through the text from a position.  An unanchored search starts a new thread
at every position until one has accepted. -/
def loop (prog : Program) (text : Array Char) (anchored : Bool) (fresh : Thread) :
    Nat → Nat → List Thread → Option Hit → Option Hit
  | 0, _, _, best => best
  | fuel + 1, pos, threads, best =>
      let before := if pos = 0 then none else text[pos - 1]?
      let behind := text[pos]?
      let closeFuel := threads.length + 2 * prog.size + 1
      let reached := close prog before behind pos closeFuel threads
        (Array.replicate prog.size false) []
      let (live, hit) := cut prog reached.reverse
      let best :=
        match hit with
        | some t => some ⟨pos, t.slots⟩
        | none => best
      match behind with
      | none => best
      | some c =>
          let restart := !anchored && best.isNone
          if live.isEmpty && !restart then best
          else
            let next := live.filterMap (advance prog c)
            loop prog text anchored fresh fuel (pos + 1)
              (if restart then next ++ [fresh] else next) best

/-- The match of a program from a position on: exactly there if anchored, else the leftmost. -/
def find (prog : Program) (text : Array Char) (anchored : Bool) (slots pos : Nat) : Option Hit :=
  let fresh : Thread := ⟨0, Array.replicate slots none⟩
  loop prog text anchored fresh (text.size - pos + 1) pos [fresh] none

/-- Does the program match somewhere in the text? -/
def isMatch (prog : Program) (text : Array Char) : Bool :=
  (find prog text false 0 0).isSome

end Search

end Regex
end DocFilter
