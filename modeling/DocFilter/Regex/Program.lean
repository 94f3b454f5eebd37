import DocFilter.Regex.Core

/-!
# Programs for lockstep search

A core expression compiles to a list of instructions.  An instruction either consumes a character,
or passes control on without consuming one; where control can go two ways the preferred way comes
first.  Code is laid out from a base address, and its length does not depend on the base.
-/

namespace DocFilter
namespace Regex

open Text

/-- One instruction.  Those without a target pass control to the next address. -/
inductive Inst where
  /-- Consumes a character of a set. -/
  | set (s : Ranges)
  /-- Goes on if the condition holds. -/
  | look (l : Look)
  /-- Records the position in a slot. -/
  | save (slot : Nat)
  /-- Goes to the first address, and to the second if that fails. -/
  | split (first second : Nat)
  /-- Goes to an address. -/
  | jump (target : Nat)
  /-- Ends the match. -/
  | accept
deriving Repr

/-- A program, entered at address zero. -/
abbrev Program := Array Inst

namespace Program

/-- A split that prefers to stay in a repetition when it is greedy. -/
def choose (greedy : Bool) (stay leave : Nat) : Inst :=
  if greedy then .split stay leave else .split leave stay

/-- Code of some length repeated a number of times. -/
def times (code : Nat → List Inst) (length count base : Nat) : List Inst :=
  (List.range count).flatMap fun k => code (base + k * length)

/-- Code of some length repeated at most a number of times, leaving to `exit`. -/
def atMost (code : Nat → List Inst) (length : Nat) (greedy : Bool) (exit count base : Nat) :
    List Inst :=
  (List.range count).flatMap fun k =>
    let start := base + k * (length + 1) + 1
    choose greedy start exit :: code start

/-- Code repeated one or more times. -/
def oneOrMore (code : Nat → List Inst) (greedy : Bool) (base : Nat) : List Inst :=
  let body := code base
  body ++ [choose greedy base (base + body.length + 1)]

/-- Code repeated any number of times.  A body that need not consume a character is tried once
before it is repeated, so that its own preferences decide the first round. -/
def anyTimes (code : Nat → List Inst) (greedy consumes : Bool) (base : Nat) : List Inst :=
  if consumes then
    let body := code (base + 1)
    choose greedy (base + 1) (base + body.length + 2) :: body ++ [.jump base]
  else
    let body := oneOrMore code greedy (base + 1)
    choose greedy (base + 1) (base + 1 + body.length) :: body

/-- Code of some length repeated as often as two counts allow. -/
def counted (code : Nat → List Inst) (length : Nat) (greedy consumes : Bool) (least : Nat) :
    Option Nat → Nat → List Inst
  | none, base =>
      match least with
      | 0 => anyTimes code greedy consumes base
      | n + 1 => times code length n base ++ oneOrMore code greedy (base + n * length)
  | some most, base =>
      let start := base + least * length
      let exit := start + (most - least) * (length + 1)
      times code length least base ++ atMost code length greedy exit (most - least) start

/-- The length of code of some length repeated as often as two counts allow. -/
def countedLength (length least : Nat) : Option Nat → Nat
  | none =>
      match least with
      | 0 => length + 2
      | n + 1 => (n + 1) * length + 1
  | some most => least * length + (most - least) * (length + 1)

mutual

/-- The length of the code of an expression. -/
def codeLength : Core → Nat
  | .empty => 0
  | .text cs => cs.length
  | .set _ _ => 1
  | .look _ => 1
  | .capture _ c => codeLength c + 2
  | .repeated c least most _ => countedLength (codeLength c) least most
  | .alternatives cs => codeLengthBranches cs
  | .sequence cs => codeLengthParts cs

/-- The length of the code of expressions one after the other. -/
def codeLengthParts : List Core → Nat
  | [] => 0
  | c :: cs => codeLength c + codeLengthParts cs

/-- The length of the code of branches. -/
def codeLengthBranches : List Core → Nat
  | [] => 0
  | [c] => codeLength c
  | c :: cs => codeLength c + 2 + codeLengthBranches cs

end

mutual

/-- The code of an expression from a base address. -/
def code : Core → Nat → List Inst
  | .empty, _ => []
  | .text cs, _ => cs.map fun c => .set (Ranges.point c.toNat)
  | .set s _, _ => [.set s]
  | .look l, _ => [.look l]
  | .capture i c, base => .save (2 * i) :: code c (base + 1) ++ [.save (2 * i + 1)]
  | .repeated c least most greedy, base =>
      counted (code c) (codeLength c) greedy c.consumes least most base
  | .alternatives cs, base => codeBranches cs base
  | .sequence cs, base => codeParts cs base

/-- The code of expressions one after the other. -/
def codeParts : List Core → Nat → List Inst
  | [], _ => []
  | c :: cs, base =>
      let first := code c base
      first ++ codeParts cs (base + first.length)

/-- The code of branches, each but the last behind a split and before a jump to the end. -/
def codeBranches : List Core → Nat → List Inst
  | [], _ => []
  | [c], base => code c base
  | c :: cs, base =>
      let first := code c (base + 1)
      let next := base + first.length + 2
      let others := codeBranches cs next
      .split (base + 1) next :: first ++ .jump (next + others.length) :: others

end

theorem length_times (code : Nat → List Inst) (length : Nat)
    (h : ∀ base, (code base).length = length) (count base : Nat) :
    (times code length count base).length = count * length := by
  unfold times
  induction count with
  | zero => simp
  | succ n ih =>
      rw [List.range_succ, List.flatMap_append, List.length_append, ih, List.flatMap_singleton,
        h, Nat.add_mul, Nat.one_mul]

theorem length_atMost (code : Nat → List Inst) (length : Nat) (greedy : Bool)
    (h : ∀ base, (code base).length = length) (exit count base : Nat) :
    (atMost code length greedy exit count base).length = count * (length + 1) := by
  unfold atMost
  induction count with
  | zero => simp
  | succ n ih =>
      rw [List.range_succ, List.flatMap_append, List.length_append, ih, List.flatMap_singleton,
        List.length_cons, h, Nat.add_mul n 1, Nat.one_mul]

theorem length_oneOrMore (code : Nat → List Inst) (length : Nat)
    (h : ∀ base, (code base).length = length) (greedy : Bool) (base : Nat) :
    (oneOrMore code greedy base).length = length + 1 := by
  simp [oneOrMore, h]

theorem length_anyTimes (code : Nat → List Inst) (length : Nat)
    (h : ∀ base, (code base).length = length) (greedy consumes : Bool) (base : Nat) :
    (anyTimes code greedy consumes base).length = length + 2 := by
  cases consumes <;> simp [anyTimes, length_oneOrMore code length h, h]

theorem length_counted (code : Nat → List Inst) (length : Nat)
    (h : ∀ base, (code base).length = length) (greedy consumes : Bool) (least : Nat)
    (most : Option Nat) (base : Nat) :
    (counted code length greedy consumes least most base).length =
      countedLength length least most := by
  cases most with
  | none =>
      cases least with
      | zero => exact length_anyTimes code length h greedy consumes base
      | succ n =>
          simp [counted, countedLength, length_times code length h,
            length_oneOrMore code length h, Nat.add_mul]
          omega
  | some most =>
      simp [counted, countedLength, length_times code length h,
        length_atMost code length greedy h]

mutual

/-- The length of code does not depend on the base. -/
theorem length_code : (c : Core) → (base : Nat) → (code c base).length = codeLength c
  | .empty, _ => by simp [code, codeLength]
  | .text _, _ => by simp [code, codeLength]
  | .set _ _, _ => by simp [code, codeLength]
  | .look _, _ => by simp [code, codeLength]
  | .capture _ c, base => by simp [code, codeLength, length_code c (base + 1)]
  | .repeated c least most greedy, base => by
      rw [code, codeLength]
      exact length_counted (code c) (codeLength c) (length_code c) greedy c.consumes least most base
  | .alternatives cs, base => by rw [code, codeLength, length_codeBranches cs base]
  | .sequence cs, base => by rw [code, codeLength, length_codeParts cs base]

theorem length_codeParts :
    (cs : List Core) → (base : Nat) → (codeParts cs base).length = codeLengthParts cs
  | [], _ => rfl
  | c :: cs, base => by
      simp [codeParts, codeLengthParts, length_code c, length_codeParts cs]

theorem length_codeBranches :
    (cs : List Core) → (base : Nat) → (codeBranches cs base).length = codeLengthBranches cs
  | [], _ => rfl
  | [c], base => by rw [codeBranches, codeLengthBranches, length_code c base]
  | c :: d :: cs, base => by
      simp [codeBranches, codeLengthBranches, length_code c, length_codeBranches (d :: cs)]
      omega

end

/-- The program of an expression. -/
def ofCore (c : Core) : Program :=
  (code c 0 ++ [Inst.accept]).toArray

end Program

end Regex
end DocFilter
