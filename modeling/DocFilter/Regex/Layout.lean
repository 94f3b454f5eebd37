import DocFilter.Regex.Beginning

/-!
# Layout of automata

A core expression becomes an automaton over bytes.  Its layout says what the automaton consists of,
in the order in which the states are numbered, with the room that states take besides what every
state does.  There are two automata, one that reads a text forward and records groups, and one that
reads it backward.
-/

namespace DocFilter
namespace Regex

open Text

/-- The direction in which an automaton reads. -/
inductive Direction where
  | forward
  | backward
deriving DecidableEq, Repr

/-- What an automaton consists of. -/
inductive Layout where
  /-- A number of states that take some room together, besides what every state does. -/
  | states (count extra : Nat)
  /-- The states that read one of the sequences of bytes of a tree forward. -/
  | tree (t : Utf8.Tree)
  /-- The states that read one of some sequences of bytes backward. -/
  | sequences (sequences : List Utf8.ByteRanges)
  /-- One part after the other. -/
  | parts (ls : List Layout)
  /-- A part a number of times. -/
  | times (count : Nat) (body : Layout)
deriving Repr

namespace Layout

/-- A state with one way out. -/
def single : Layout :=
  .states 1 0

/-- A state that goes one of some ways without reading. -/
def union (ways : Nat) : Layout :=
  .states 1 (4 * ways)

/-- A state that reads a byte of one of some ranges, and one behind. -/
def ranges (count : Nat) : Layout :=
  .states 2 (8 * count)

/-- A set of code points. -/
def ofSet (d : Direction) (s : Ranges) : Layout :=
  if isAsciiSet s then ranges s.length
  else
    match d with
    | .forward => .tree (.ofSequences (Utf8.ofRanges s))
    | .backward => .sequences (Utf8.ofRanges s)

/-- A body exactly as often as a count says. -/
def exactly (body : Layout) (count : Nat) : Layout :=
  if count = 0 then single else .times count body

/-- A body as often as two counts allow.  `consumes` says that it always consumes a character. -/
def ofRepeated (body : Layout) (consumes : Bool) (least : Nat) : Option Nat → Layout
  | none =>
      match least with
      | 0 =>
          if consumes then .parts [union 2, body] else .parts [body, union 2, union 2, single]
      | n + 1 => .parts [.times (n + 1) body, union 2]
  | some most =>
      if least = 0 ∧ most = 1 then .parts [union 2, body, single]
      else if most = least then exactly body least
      else .parts [exactly body least, single, .times (most - least) (.parts [union 2, body])]

/-- Branches, which leave from a state that is numbered behind the second of them. -/
def ofBranches (branches : List Layout) : Layout :=
  .parts (branches.take 2 ++ [union branches.length, single] ++ branches.drop 2)

/-- Texts of a list up to each of the empty ones. -/
def chunks : List Bytes → List (List Bytes)
  | [] => [[]]
  | [] :: texts => [] :: chunks texts
  | t :: texts =>
      match chunks texts with
      | [] => [[t]]
      | first :: others => (t :: first) :: others

/-- Texts of which only the last of the empty ones at the front is left. -/
def withoutEmptyFronts : List Bytes → List Bytes
  | [] :: [] :: texts => withoutEmptyFronts ([] :: texts)
  | texts => texts

/-- The texts that remain behind each of the first bytes. -/
def tailsByByte (texts : List Bytes) : List (List Bytes) :=
  (texts.filterMap List.head?).eraseDups.map fun b =>
    texts.filterMap fun t => if t.head? = some b then some t.tail else none

/-- The states that read texts byte by byte and share what the texts have in common at the front,
up to a number of bytes.  Where a text ends the others are read apart from those before it. -/
def ofSharedTexts : Nat → List Bytes → List Layout
  | 0, _ => []
  | fuel + 1, texts =>
      if texts.all List.isEmpty then []
      else
        let parts := chunks (withoutEmptyFronts texts)
        let read := parts.filter fun part => !part.isEmpty
        let ends := parts.length - 1
        union (read.length + ends) :: read.flatMap fun part =>
          let tails := tailsByByte part
          let extra := if tails.length = 1 then 0 else 8 * tails.length
          .states 1 extra :: tails.flatMap (ofSharedTexts fuel)

/-- Alternatives that are all texts. -/
def ofTexts (d : Direction) (texts : List Bytes) : Layout :=
  let texts :=
    match d with
    | .forward => texts
    | .backward => texts.map List.reverse
  let longest := ((texts.map List.length).max?).getD 0
  .parts (single :: ofSharedTexts (longest + 1) texts)

end Layout

namespace Core

mutual

/-- The layout of an expression in the middle of an automaton. -/
def layout (d : Direction) : Core → Layout
  | .empty => .single
  | .text cs => .states (cs.flatMap Utf8.bytes).length 0
  | .set s _ => .ofSet d s
  | .look _ => .single
  | .capture _ c =>
      match d with
      | .forward => .parts [.single, layout d c, .single]
      | .backward => layout d c
  | .repeated c least most _ => .ofRepeated (layout d c) c.consumes least most
  | .alternatives cs =>
      match texts? cs with
      | some texts => .ofTexts d texts
      | none => .ofBranches (layoutAll d cs)
  | .sequence cs =>
      match d with
      | .forward => .parts (layoutAll d cs)
      | .backward => .parts (layoutAll d cs).reverse

/-- The layouts of all expressions of a list. -/
def layoutAll (d : Direction) : List Core → List Layout
  | [] => []
  | c :: cs => layout d c :: layoutAll d cs

end

mutual

/-- Can the expression match at the start of the text only, as far as its beginning shows? -/
def startsText : Core → Bool
  | .look .textStart => true
  | .capture _ c => startsText c
  | .repeated c least _ _ => least != 0 && startsText c
  | .alternatives cs => startsTextEach cs
  | .sequence cs => startsTextFirst cs
  | _ => false

/-- Does this hold of all expressions? -/
def startsTextEach : List Core → Bool
  | [] => true
  | c :: cs => startsText c && startsTextEach cs

/-- Does this hold of the first expression, or of one behind expressions that consume nothing? -/
def startsTextFirst : List Core → Bool
  | [] => false
  | c :: cs => startsText c || (c.onlyEmpty && startsTextFirst cs)

end

mutual

/-- Can the expression match at the end of the text only, as far as its end shows? -/
def endsText : Core → Bool
  | .look .textEnd => true
  | .capture _ c => endsText c
  | .repeated c least _ _ => least != 0 && endsText c
  | .alternatives cs => endsTextEach cs
  | .sequence cs => endsTextLast cs
  | _ => false

/-- Does this hold of all expressions? -/
def endsTextEach : List Core → Bool
  | [] => true
  | c :: cs => endsText c && endsTextEach cs

/-- Does this hold of the last expression, or of one before expressions that consume nothing? -/
def endsTextLast : List Core → Bool
  | [] => false
  | c :: cs => endsTextLast cs || (onlyEmptyAll cs && endsText c)

end

/-- The layout of the whole automaton of an expression.  Unless the expression is bound to where
the automaton begins, a loop before it skips bytes. -/
def automaton (d : Direction) (c : Core) : Layout :=
  let bound :=
    match d with
    | .forward => c.startsText
    | .backward => c.endsText
  let skipping : Layout := if bound then .single else .parts [.union 2, .ranges 1]
  .parts [skipping, layout d (.capture 0 c), .single]

end Core

end Regex
end DocFilter
