import DocFilter.Proofs.WireTree
import Mathlib.Data.List.TakeWhile

/-!
# The wire rendering is unambiguous

Two values are rendered alike exactly if their trees are the same.  A text is
read off from its first character on, so each part has to show where it ends:
an escaped character by what stands behind the backslash (`readChar`), a quoted
text at the first bare quote, a literal at the next delimiter, and an array or
object at the bracket where an item or a comma would stand otherwise.

`ReadBack` states this of one item, whatever follows its text; it passes from
items to lists of them, which is all that the induction over trees takes.
-/

namespace DocFilter
namespace Wire

open Text

section Escapes

/-- The number of a hexadecimal digit. -/
def hexValue (c : Char) : Nat :=
  if c.toNat < 58 then c.toNat - 48 else c.toNat - 87

/-- The first character of an escaped text, and the text behind it. -/
def readChar : List Char → Option (Char × List Char)
  | [] => none
  | '\\' :: '"' :: r => some ('"', r)
  | '\\' :: '\\' :: r => some ('\\', r)
  | '\\' :: 'b' :: r => some ('\x08', r)
  | '\\' :: 't' :: r => some ('\t', r)
  | '\\' :: 'n' :: r => some ('\n', r)
  | '\\' :: 'f' :: r => some ('\x0c', r)
  | '\\' :: 'r' :: r => some ('\r', r)
  | '\\' :: 'u' :: _ :: _ :: high :: low :: r =>
      some (Char.ofNat (16 * hexValue high + hexValue low), r)
  | c :: r => some (c, r)

theorem hexValue_hexDigit {n : Nat} (h : n < 16) : hexValue (hexDigit n) = n := by
  revert n
  decide

theorem readChar_escapeChar (c : Char) (r : List Char) :
    readChar (escapeChar c ++ r) = some (c, r) := by
  unfold escapeChar
  split_ifs with h₁ h₂ h₃ h₄ h₅ h₆ h₇ h₈
  · rw [h₁]
    rfl
  · rw [h₂]
    rfl
  · rw [h₃]
    rfl
  · rw [h₄]
    rfl
  · rw [h₅]
    rfl
  · rw [h₆]
    rfl
  · rw [h₇]
    rfl
  · have hhigh : hexValue (hexDigit (c.toNat / 16)) = c.toNat / 16 :=
      hexValue_hexDigit (by omega)
    have hlow : hexValue (hexDigit (c.toNat % 16)) = c.toNat % 16 :=
      hexValue_hexDigit (by omega)
    simp only [List.cons_append, List.nil_append, readChar, hhigh, hlow, Nat.div_add_mod,
      Char.ofNat_toNat]
  · simp [readChar, h₂]

/-- No escaped character begins with a bare quote. -/
theorem exists_escapeChar_eq (c : Char) : ∃ d r, escapeChar c = d :: r ∧ d ≠ '"' := by
  by_cases hquote : c = '"'
  · exact ⟨'\\', ['"'], by rw [hquote]; rfl, by decide⟩
  · unfold escapeChar
    split_ifs <;> simp [hquote]

theorem escapeChars_cons (c : Char) (cs : List Char) :
    escapeChars (c :: cs) = escapeChar c ++ escapeChars cs :=
  List.flatMap_cons

/-- Escaped text ends at the first bare quote. -/
theorem escapeChars_inj {cs ds r s : List Char}
    (h : escapeChars cs ++ '"' :: r = escapeChars ds ++ '"' :: s) : cs = ds ∧ r = s := by
  have hstart : ∀ c (cs r s : List Char), '"' :: r ≠ escapeChars (c :: cs) ++ '"' :: s := by
    intro c cs r s h
    obtain ⟨d, rest, hd, hquote⟩ := exists_escapeChar_eq c
    rw [escapeChars_cons, hd] at h
    exact hquote (List.cons.inj h).1.symm
  induction cs generalizing ds with
  | nil =>
      cases ds with
      | nil =>
          exact ⟨rfl, (List.cons.inj h).2⟩
      | cons d ds =>
          exact absurd h (hstart d ds r s)
  | cons c cs ih =>
      cases ds with
      | nil =>
          exact absurd h.symm (hstart c cs s r)
      | cons d ds =>
          -- the first characters are read off both texts before anything is cancelled
          have hread := congrArg readChar h
          simp only [escapeChars_cons, List.append_assoc, readChar_escapeChar, Option.some.injEq,
            Prod.mk.injEq] at hread
          obtain ⟨rfl, hrest⟩ := hread
          obtain ⟨rfl, hr⟩ := ih hrest
          exact ⟨rfl, hr⟩

theorem quoteChars_inj {a b : String} {r s : List Char}
    (h : quoteChars a ++ r = quoteChars b ++ s) : a = b ∧ r = s := by
  have hinner : escapeChars a.toList ++ '"' :: r = escapeChars b.toList ++ '"' :: s := by
    simpa [quoteChars] using h
  obtain ⟨hab, hr⟩ := escapeChars_inj hinner
  exact ⟨String.toList_inj.1 hab, hr⟩

end Escapes

section Items

variable {α : Type} {f : α → List Char}

/-- The text does not go on with a character of a literal. -/
def Stops (r : List Char) : Prop :=
  ∀ c s, r = c :: s → isTokenChar c = false

theorem stops_nil : Stops [] := by
  intro c s h
  cases h

theorem stops_cons {c : Char} (hc : isTokenChar c = false) (r : List Char) : Stops (c :: r) := by
  intro d s h
  cases h
  exact hc

/-- Whatever follows the text of `a`, it can be read as that of `a` only. -/
def ReadBack (f : α → List Char) (a : α) : Prop :=
  ∀ b r s, Stops r → Stops s → f a ++ r = f b ++ s → a = b ∧ r = s

theorem readBack_literal (l : Literal) : ReadBack Literal.text l := by
  have htake : ∀ (l : Literal) r, Stops r → (l.text ++ r).takeWhile isTokenChar = l.text := by
    intro l r hr
    rw [List.takeWhile_append_of_pos l.tokens]
    cases r with
    | nil =>
        simp
    | cons c r =>
        simp [hr c r rfl]
  intro l' r s hr hs h
  have htext : l.text = l'.text := by
    rw [← htake l r hr, h, htake l' s hs]
  rw [htext] at h
  exact ⟨Literal.ext htext, List.append_cancel_left h⟩

/-- The items behind the first, each behind a comma. -/
def commaTail (f : α → List Char) (as : List α) : List Char :=
  as.flatMap fun a => ',' :: f a

theorem commas_map_cons (f : α → List Char) (a : α) (as : List α) :
    commas ((a :: as).map f) = f a ++ commaTail f as := by
  induction as generalizing a with
  | nil =>
      simp [commas, commaTail]
  | cons b as ih =>
      have hrest := ih b
      simp only [commas, commaTail, List.map_cons, List.intercalate_cons_cons,
        List.flatMap_cons] at hrest ⊢
      rw [hrest]
      simp

/-- A character that closes a list of items: no item and no literal goes on with it. -/
structure Closes (f : α → List Char) (c : Char) : Prop where
  not_token : isTokenChar c = false
  ne_comma : c ≠ ','
  ne_head : ∀ a r, f a ≠ c :: r

variable {c : Char} {as bs : List α} {r s : List Char}

theorem Closes.stops_commaTail (hc : Closes f c) (as : List α) (r : List Char) :
    Stops (commaTail f as ++ c :: r) := by
  cases as with
  | nil =>
      exact stops_cons hc.not_token r
  | cons a as =>
      exact stops_cons (by decide) _

theorem commaTail_inj (hc : Closes f c) (has : ∀ a ∈ as, ReadBack f a)
    (h : commaTail f as ++ c :: r = commaTail f bs ++ c :: s) : as = bs ∧ r = s := by
  induction as generalizing bs with
  | nil =>
      cases bs with
      | nil =>
          exact ⟨rfl, (List.cons.inj h).2⟩
      | cons b bs =>
          exact absurd (List.cons.inj h).1 hc.ne_comma
  | cons a as ih =>
      cases bs with
      | nil =>
          exact absurd (List.cons.inj h).1.symm hc.ne_comma
      | cons b bs =>
          obtain ⟨ha, hrest⟩ := List.forall_mem_cons.1 has
          have hitems : f a ++ (commaTail f as ++ c :: r) = f b ++ (commaTail f bs ++ c :: s) := by
            simpa [commaTail] using h
          obtain ⟨rfl, htail⟩ :=
            ha b _ _ (hc.stops_commaTail as r) (hc.stops_commaTail bs s) hitems
          obtain ⟨rfl, hr⟩ := ih hrest htail
          exact ⟨rfl, hr⟩

/-- If each item can be read back, so can a list of them up to the character that closes it. -/
theorem commas_inj (hc : Closes f c) (hne : ∀ a, f a ≠ []) (has : ∀ a ∈ as, ReadBack f a)
    (h : commas (as.map f) ++ c :: r = commas (bs.map f) ++ c :: s) : as = bs ∧ r = s := by
  have hempty : ∀ b bs r s, c :: r ≠ commas ((b :: bs).map f) ++ c :: s := by
    intro b bs r s h
    rw [commas_map_cons] at h
    cases hb : f b with
    | nil =>
        exact hne b hb
    | cons d rest =>
        rw [hb] at h
        exact hc.ne_head b rest (by rw [hb, (List.cons.inj h).1])
  -- only the first item stands without a comma in front, so no induction is needed here
  cases as with
  | nil =>
      cases bs with
      | nil =>
          exact ⟨rfl, (List.cons.inj h).2⟩
      | cons b bs =>
          exact absurd h (hempty b bs r s)
  | cons a as =>
      cases bs with
      | nil =>
          exact absurd h.symm (hempty a as s r)
      | cons b bs =>
          obtain ⟨ha, hrest⟩ := List.forall_mem_cons.1 has
          rw [commas_map_cons, commas_map_cons, List.append_assoc, List.append_assoc] at h
          obtain ⟨rfl, htail⟩ := ha b _ _ (hc.stops_commaTail as r) (hc.stops_commaTail bs s) h
          obtain ⟨rfl, hr⟩ := commaTail_inj hc hrest htail
          exact ⟨rfl, hr⟩

end Items

section Trees

namespace Tree

/-- The character that a text of the tree begins with, unless it is a literal. -/
def opening : Tree → Option Char
  | .literal _ => none
  | .string _ => some '"'
  | .array _ => some '['
  | .object _ => some '\x7b'

theorem exists_print_eq (t : Tree) : ∃ c r, t.print = c :: r ∧
    (t.opening = if isTokenChar c then none else some c) := by
  cases t with
  | literal l =>
      obtain ⟨c, r, hl⟩ := List.exists_cons_of_ne_nil l.ne_nil
      have hc : isTokenChar c = true := l.tokens c (by rw [hl]; exact List.mem_cons_self)
      exact ⟨c, r, by rw [print, hl], by rw [opening, if_pos hc]⟩
  | string s =>
      exact ⟨'"', _, by rw [print, quoteChars, List.cons_append], rfl⟩
  | array items =>
      exact ⟨'[', _, by rw [print, List.cons_append], rfl⟩
  | object entries =>
      exact ⟨'\x7b', _, by rw [print, inBraces, List.cons_append], rfl⟩

theorem print_ne_nil (t : Tree) : t.print ≠ [] := by
  obtain ⟨c, r, h, _⟩ := exists_print_eq t
  simp [h]

/-- Trees of one text are of one kind. -/
theorem opening_eq {t u : Tree} {r s : List Char} (h : t.print ++ r = u.print ++ s) :
    t.opening = u.opening := by
  obtain ⟨c, x, ht, hc⟩ := exists_print_eq t
  obtain ⟨d, y, hu, hd⟩ := exists_print_eq u
  rw [ht, hu] at h
  rw [hc, hd, (List.cons.inj h).1]

theorem closes_items : Closes print ']' := by
  refine ⟨by decide, by decide, fun t r h => ?_⟩
  obtain ⟨c, s, hprint, hopen⟩ := exists_print_eq t
  rw [hprint] at h
  obtain ⟨rfl, -⟩ := List.cons.inj h
  -- a closing bracket is neither an opening one nor a character of a literal
  cases t <;> simp [opening, isTokenChar] at hopen

theorem closes_entries : Closes (fun e : String × Tree => entry e.1 e.2.print) '\x7d' := by
  refine ⟨by decide, by decide, fun e r h => ?_⟩
  simp [entry, quoteChars] at h

theorem readBack_entry {e : String × Tree} (h : ReadBack print e.2) :
    ReadBack (fun e : String × Tree => entry e.1 e.2.print) e := by
  intro e' r s hr hs heq
  simp only [entry, List.append_assoc, List.cons_append] at heq
  obtain ⟨hkey, hvalue⟩ := quoteChars_inj heq
  obtain ⟨htree, hrest⟩ := h e'.2 r s hr hs (List.cons.inj hvalue).2
  exact ⟨Prod.ext hkey htree, hrest⟩

mutual

theorem readBack : ∀ t : Tree, ReadBack print t
  | .literal l => by
      intro u r s hr hs h
      have hopen := opening_eq h
      cases u with
      | literal l' =>
          rw [print, print] at h
          obtain ⟨rfl, hrest⟩ := readBack_literal l l' r s hr hs h
          exact ⟨rfl, hrest⟩
      | _ =>
          simp [opening] at hopen
  | .string a => by
      intro u r s _ _ h
      have hopen := opening_eq h
      cases u with
      | string b =>
          rw [print, print] at h
          obtain ⟨rfl, hrest⟩ := quoteChars_inj h
          exact ⟨rfl, hrest⟩
      | _ =>
          simp [opening] at hopen
  | .array ts => by
      intro u r s _ _ h
      have hopen := opening_eq h
      cases u with
      | array us =>
          have hinner : commas (ts.map print) ++ ']' :: r = commas (us.map print) ++ ']' :: s := by
            simpa [print, printItems_eq_map] using h
          obtain ⟨rfl, hrest⟩ := commas_inj closes_items print_ne_nil (readBack_items ts) hinner
          exact ⟨rfl, hrest⟩
      | _ =>
          simp [opening] at hopen
  | .object es => by
      intro u r s _ _ h
      have hopen := opening_eq h
      cases u with
      | object fs =>
          have hinner : commas (es.map fun e => entry e.1 e.2.print) ++ '\x7d' :: r =
              commas (fs.map fun e => entry e.1 e.2.print) ++ '\x7d' :: s := by
            simpa [print, printEntries_eq_map, inBraces] using h
          have hes : ∀ e ∈ es, ReadBack (fun e : String × Tree => entry e.1 e.2.print) e :=
            fun e he => readBack_entry (readBack_values es e he)
          obtain ⟨rfl, hrest⟩ := commas_inj closes_entries (by simp [entry, quoteChars]) hes hinner
          exact ⟨rfl, hrest⟩
      | _ =>
          simp [opening] at hopen

theorem readBack_items : ∀ ts : List Tree, ∀ t ∈ ts, ReadBack print t
  | [] => by simp
  | t :: ts => List.forall_mem_cons.2 ⟨readBack t, readBack_items ts⟩

theorem readBack_values : ∀ es : List (String × Tree), ∀ e ∈ es, ReadBack print e.2
  | [] => by simp
  | (_, t) :: rest => List.forall_mem_cons.2 ⟨readBack t, readBack_values rest⟩

end

theorem print_inj {t u : Tree} : t.print = u.print ↔ t = u := by
  constructor
  · intro h
    exact (readBack t u [] [] stops_nil stops_nil (by rw [h])).1
  · rintro rfl
    rfl

end Tree

/-- **The wire rendering is unambiguous.**  Values, of any nesting and with any texts, are rendered
alike exactly if their trees are the same, and so are documents. -/
theorem rendering_is_unambiguous :
    (∀ v w : Value, v.render = w.render ↔ tree v = tree w) ∧
      ∀ d e : Document, d.render = e.render ↔ documentTree d = documentTree e := by
  constructor
  · intro v w
    rw [Value.render, Value.render, String.ofList_inj, value_eq_print, value_eq_print,
      Tree.print_inj]
  · intro d e
    rw [Document.render, Document.render, String.ofList_inj, document_eq_print,
      document_eq_print, Tree.print_inj]

end Trees

end Wire
end DocFilter
