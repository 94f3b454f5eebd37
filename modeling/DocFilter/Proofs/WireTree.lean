import DocFilter.Proofs.StandardText
import DocFilter.Value.Wire

/-!
# Wire text as trees

The wire rendering of a value is the text of an ordered tree: literals, quoted
texts, arrays and objects.  `tree` normalises a value to its tree, where byte
strings and regular expressions become objects and numbers that are not finite
become the literal null; `value_eq_print` says that the rendering is the text
of that tree.

The leaves are said in terms of the value alone: a byte string by its standard
Base64 text, the options of a pattern by which characters are among them, and
what is not finite by the bits of its exponent.

A literal carries the proof that none of its characters delimits anything.  So
do the texts of all numbers.
-/

namespace DocFilter
namespace Wire

open Number Text

section Literals

/-- Characters of numbers and names. -/
def isTokenChar (c : Char) : Bool :=
  c.isAlphanum || c == '-' || c == '+' || c == '.'

/-- All characters may stand in a literal. -/
def Tokens (cs : List Char) : Prop :=
  ∀ c ∈ cs, isTokenChar c = true

/-- A text that is neither empty nor interrupted by a delimiter. -/
@[ext] structure Literal where
  text : List Char
  ne_nil : text ≠ []
  tokens : Tokens text

instance (cs : List Char) : Decidable (Tokens cs) :=
  List.decidableBAll (fun c => isTokenChar c = true) cs

theorem tokens_append {cs ds : List Char} : Tokens (cs ++ ds) ↔ Tokens cs ∧ Tokens ds :=
  List.forall_mem_append

theorem tokens_of_subset {cs ds : List Char} (h : cs ⊆ ds) (hds : Tokens ds) : Tokens cs :=
  fun c hc => hds c (h hc)

theorem tokens_zeros (n : Nat) : Tokens (List.replicate n '0') := by
  intro c hc
  rw [List.eq_of_mem_replicate hc]
  decide

theorem tokens_nat (n : Nat) : Tokens (toString n).toList := by
  intro c hc
  rw [Nat.toString_eq_repr, Nat.toList_repr] at hc
  have hdigit := Nat.isDigit_of_mem_toDigits (by decide) (by decide) hc
  simp [isTokenChar, Char.isAlphanum, hdigit]

theorem toString_nat_ne_nil (n : Nat) : (toString n).toList ≠ [] := by
  rw [Nat.toString_eq_repr, Nat.toList_repr]
  exact Nat.toDigits_ne_nil

theorem tokens_int (n : Int) : Tokens (toString n).toList := by
  rw [Int.toString_eq_repr, Int.repr_eq_if]
  split
  · exact tokens_nat n.toNat
  · have hsign : Tokens "-".toList := by decide
    rw [String.toList_append]
    exact tokens_append.2 ⟨hsign, tokens_nat (-n).toNat⟩

theorem toString_int_ne_nil (n : Int) : (toString n).toList ≠ [] := by
  rw [Int.toString_eq_repr, Int.repr_eq_if]
  split
  · exact toString_nat_ne_nil n.toNat
  · simp

section Layouts

variable {digits : String}

theorem tokens_positional (h : Tokens digits.toList) (point : Int) :
    Tokens (Layout.positional digits point).toList := by
  have hlead : Tokens "0.".toList := by decide
  have hpoint : Tokens ".".toList := by decide
  have htail : Tokens ".0".toList := by decide
  unfold Layout.positional
  simp only
  split
  · simp only [String.toList_append, String.toList_ofList, tokens_append]
    exact ⟨⟨hlead, tokens_zeros _⟩, h⟩
  · split
    · simp only [String.toList_append, String.toList_ofList, tokens_append]
      exact ⟨⟨h, tokens_zeros _⟩, htail⟩
    · simp only [String.toList_append, String.toList_ofList, tokens_append]
      exact ⟨⟨tokens_of_subset (List.take_subset _ _) h, hpoint⟩,
        tokens_of_subset (List.drop_subset _ _) h⟩

theorem positional_ne_nil (digits : String) (point : Int) :
    (Layout.positional digits point).toList ≠ [] := by
  unfold Layout.positional
  simp only
  split
  · simp
  · split <;> simp

theorem tokens_scientific (h : Tokens digits.toList) (leading : Int) :
    Tokens (Layout.scientific digits leading).toList := by
  have hmark : Tokens "e".toList := by decide
  have hsign : Tokens (if leading < 0 then "-" else "+").toList := by
    split <;> decide
  have hexponent := tokens_nat leading.natAbs
  unfold Layout.scientific
  simp only [String.toList_append, tokens_append]
  -- what is left is the mantissa: one digit, and the others behind a point
  refine ⟨⟨⟨?_, hmark⟩, hsign⟩, hexponent⟩
  cases hdigits : digits.toList with
  | nil =>
      intro c hc
      simp at hc
  | cons d rest =>
      rw [hdigits] at h
      obtain ⟨hd, hrest⟩ := List.forall_mem_cons.1 h
      cases rest with
      | nil =>
          simpa [Tokens] using hd
      | cons d' rest =>
          have hdot : isTokenChar '.' = true := by decide
          simp only [String.toList_ofList]
          exact List.forall_mem_cons.2 ⟨hd, List.forall_mem_cons.2 ⟨hdot, hrest⟩⟩

theorem scientific_ne_nil (digits : String) (leading : Int) :
    (Layout.scientific digits leading).toList ≠ [] := by
  simp [Layout.scientific]

theorem tokens_write (l : Layout) (d : Decimal) : Tokens (l.write d).toList := by
  unfold Layout.write
  simp only
  split
  · exact tokens_positional (tokens_nat d.digits) _
  · exact tokens_scientific (tokens_nat d.digits) _

theorem write_ne_nil (l : Layout) (d : Decimal) : (l.write d).toList ≠ [] := by
  unfold Layout.write
  simp only
  split
  · exact positional_ne_nil _ _
  · exact scientific_ne_nil _ _

theorem tokens_writeBinary64 (l : Layout) (x : Binary64) :
    Tokens (l.writeBinary64 x).toList := by
  have hzero : Tokens "0.0".toList := by decide
  have hsign : Tokens "-".toList := by decide
  have hmagnitude :
      Tokens (if x.coefficient = 0 then "0.0" else l.write (shortestDecimal x)).toList := by
    split
    · exact hzero
    · exact tokens_write l _
  unfold Layout.writeBinary64
  simp only
  split
  · rw [String.toList_append]
    exact tokens_append.2 ⟨hsign, hmagnitude⟩
  · exact hmagnitude

theorem writeBinary64_ne_nil (l : Layout) (x : Binary64) : (l.writeBinary64 x).toList ≠ [] := by
  unfold Layout.writeBinary64
  simp only
  split
  · simp
  · split
    · simp
    · exact write_ne_nil l _

end Layouts

namespace Literal

def null : Literal :=
  ⟨"null".toList, by decide, by decide⟩

def bool (b : Bool) : Literal :=
  ⟨(if b then "true" else "false").toList, by cases b <;> decide, by cases b <;> decide⟩

/-- The decimal text of an integer. -/
def int (n : Int) : Literal :=
  ⟨(toString n).toList, toString_int_ne_nil n, tokens_int n⟩

/-- Are all exponent bits set?  They are in infinities and NaNs. -/
def exponentSet (x : Binary64) : Bool :=
  (List.range 11).all fun i => x.bits.toNat.testBit (52 + i)

/-- The text of a floating point number, null if it is infinite or a NaN. -/
def double (x : Binary64) : Literal :=
  if exponentSet x then null
  else ⟨(doubles.writeBinary64 x).toList, writeBinary64_ne_nil _ x, tokens_writeBinary64 _ x⟩

end Literal

end Literals

section Trees

/-- An ordered JSON tree. -/
inductive Tree where
  | literal (l : Literal)
  | string (s : String)
  | array (items : List Tree)
  | object (entries : List (String × Tree))

namespace Tree

/-- The standard Base64 text of a byte string under the key that says so. -/
def binary (bytes : List UInt8) : Tree :=
  .object [("$binary",
    .object [("base64", .string (String.ofList (Base64.standardChars bytes))),
      ("subType", .string "00")])]

/-- The characters among some options, in ascending order.  They are those that add nothing. -/
def optionChars (o : Pattern.Options) : List Char :=
  Pattern.Options.alphabet.filter fun c => o.add? c == some o

/-- The source of a pattern, and its options unless there are none. -/
def regex (p : Pattern) : Tree :=
  let options := String.ofList (optionChars p.options)
  .object (("$regex", .string p.source) ::
    if options.isEmpty then [] else [("$options", .string options)])

end Tree

mutual

/-- The tree of a value. -/
def tree : Value → Tree
  | .null => .literal .null
  | .bool b => .literal (.bool b)
  | .int32 n => .literal (.int n.toInt)
  | .int64 n => .literal (.int n.toInt)
  | .double x => .literal (.double x)
  | .string s => .string s
  | .binary bytes => .binary bytes
  | .regex p => .regex p
  | .array items => .array (trees items)
  | .document d => documentTree d

/-- The tree of a document: its entries in order. -/
def documentTree : Document → Tree
  | ⟨entries⟩ => .object (entryTrees entries)

def trees : List Value → List Tree
  | [] => []
  | v :: vs => tree v :: trees vs

def entryTrees : List (String × Value) → List (String × Tree)
  | [] => []
  | (k, v) :: rest => (k, tree v) :: entryTrees rest

end

/-- Texts with commas between them. -/
def commas (texts : List (List Char)) : List Char :=
  [','].intercalate texts

namespace Tree

mutual

/-- The text of a tree. -/
def print : Tree → List Char
  | .literal l => l.text
  | .string s => quoteChars s
  | .array items => '[' :: commas (printItems items) ++ [']']
  | .object entries => inBraces (commas (printEntries entries))

def printItems : List Tree → List (List Char)
  | [] => []
  | t :: ts => print t :: printItems ts

def printEntries : List (String × Tree) → List (List Char)
  | [] => []
  | (k, t) :: rest => entry k (print t) :: printEntries rest

end

theorem printItems_eq_map (ts : List Tree) : printItems ts = ts.map print := by
  induction ts with
  | nil => rw [printItems, List.map_nil]
  | cons t ts ih => rw [printItems, ih, List.map_cons]

theorem printEntries_eq_map (es : List (String × Tree)) :
    printEntries es = es.map fun e => entry e.1 e.2.print := by
  induction es with
  | nil => rw [printEntries, List.map_nil]
  | cons e rest ih => rw [printEntries, ih, List.map_cons]

theorem print_binary (bytes : List UInt8) : (Tree.binary bytes).print = Wire.binary bytes := by
  rw [Tree.binary, ← Base64.encode_eq_ofList]
  simp [Wire.binary, print, printEntries, commas]

theorem ofList_optionChars (o : Pattern.Options) : String.ofList (optionChars o) = o.text := by
  have hletters : optionChars o = o.letters := by
    obtain ⟨i, m, s, u, x⟩ := o
    cases i <;> cases m <;> cases s <;> cases u <;> cases x <;> decide
  rw [hletters, Pattern.Options.text]

theorem print_regex (p : Pattern) : (Tree.regex p).print = Wire.regex p := by
  unfold Tree.regex Wire.regex
  simp only [ofList_optionChars]
  split
  · simp [print, printEntries, commas]
  · simp [print, printEntries, commas]

end Tree

theorem exponentSet_iff (x : Binary64) :
    Literal.exponentSet x = true ↔ x.biasedExponent = 2047 := by
  have hbit : ∀ i, x.biasedExponent.testBit i =
      (decide (i < 11) && x.bits.toNat.testBit (52 + i)) := by
    intro i
    rw [Binary64.biasedExponent, Binary64.fractionCount, Nat.add_comm]
    exact (Nat.testBit_mod_two_pow _ 11 i).trans (by rw [← Nat.testBit_div_two_pow])
  have hfull : ∀ i, Nat.testBit 2047 i = decide (i < 11) := Nat.testBit_two_pow_sub_one 11
  simp only [Literal.exponentSet, List.all_eq_true, List.mem_range]
  constructor
  · intro hset
    refine Nat.eq_of_testBit_eq fun i => ?_
    rw [hbit, hfull]
    by_cases hi : i < 11
    · simp [hi, hset i hi]
    · simp [hi]
  · intro hexponent i hi
    have hi' := hbit i
    rw [hexponent, hfull] at hi'
    simpa [hi] using hi'.symm

theorem double_eq_text (x : Binary64) : double x = (Literal.double x).text := by
  unfold double Literal.double
  by_cases hset : Literal.exponentSet x = true
  · have hfinite : x.isFinite = false := by
      rw [Binary64.isFinite, (exponentSet_iff x).1 hset]
      rfl
    rw [hfinite, hset]
    rfl
  · have hfinite : x.isFinite = true := by
      rw [Binary64.isFinite, bne_iff_ne]
      exact mt (exponentSet_iff x).2 hset
    rw [if_pos hfinite, if_neg hset]

mutual

/-- The rendering of a value is the text of its tree. -/
theorem value_eq_print : ∀ v : Value, value v = (tree v).print
  | .null => by rw [value, tree, Tree.print]; rfl
  | .bool b => by
      rw [value, tree, Tree.print]
      cases b <;> rfl
  | .int32 n => by rw [value, tree, Tree.print]; rfl
  | .int64 n => by rw [value, tree, Tree.print]; rfl
  | .double x => by rw [value, tree, Tree.print, double_eq_text]
  | .string s => by rw [value, tree, Tree.print]
  | .binary bytes => by rw [value, tree, Tree.print_binary]
  | .regex p => by rw [value, tree, Tree.print_regex]
  | .array items => by rw [value, tree, Tree.print, values_eq_commas]
  | .document d => by rw [value, tree, document_eq_print]

theorem document_eq_print : ∀ d : Document, document d = (documentTree d).print
  | ⟨entries⟩ => by rw [document, documentTree, Tree.print, members_eq_commas]

theorem values_eq_commas : ∀ vs : List Value, values vs = commas (Tree.printItems (trees vs))
  | [] => by simp [values, trees, Tree.printItems, commas]
  | [v] => by simp [values, trees, Tree.printItems, commas, value_eq_print v]
  | v :: w :: vs => by
      have hrest := values_eq_commas (w :: vs)
      have hsplit : values (v :: w :: vs) = value v ++ ',' :: values (w :: vs) := by
        simp [values]
      rw [hsplit, hrest, value_eq_print v]
      simp [trees, Tree.printItems, commas]

theorem members_eq_commas : ∀ entries : List (String × Value),
    members entries = commas (Tree.printEntries (entryTrees entries))
  | [] => by simp [members, entryTrees, Tree.printEntries, commas]
  | [(k, v)] => by simp [members, entryTrees, Tree.printEntries, commas, value_eq_print v]
  | (k, v) :: (l, w) :: rest => by
      have hrest := members_eq_commas ((l, w) :: rest)
      have hsplit : members ((k, v) :: (l, w) :: rest) =
          entry k (value v) ++ ',' :: members ((l, w) :: rest) := by
        simp [members]
      rw [hsplit, hrest, value_eq_print v]
      simp [entryTrees, Tree.printEntries, commas]

end

end Trees

end Wire
end DocFilter
