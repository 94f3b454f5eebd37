import DocFilter.Pattern.Settings
import DocFilter.Proofs.MaskRoundTrip
import DocFilter.Proofs.RepetitionCounts

/-!
# Texts that set limits

A text sets a limit if it writes a number that is small enough for it.  What it
means to write a number is said here by how the text is put together: decimal
digits as the library has them, zeros in front of these, at most one plus sign
in front of all, and blank characters around (`Writes`).

The settings are read the other way, by taking blank characters and the sign
away and adding up what is left, if it is digits.  Both agree on every text and
for every number (`parseNumber_eq_some_iff`), so the bound decides alone about
numbers that are written (`limits_are_read_exactly`).  Each limit has an
environment variable to itself, so its text depends on no other.
-/

namespace DocFilter

open Text

/-- A text is what trimming leaves of it, with blank characters around. -/
theorem Text.exists_blank_around (cs : List Char) :
    ∃ front back, Blank front ∧ Blank back ∧ cs = front ++ trimChars cs ++ back := by
  have htail : cs.dropWhile isBlank =
      trimChars cs ++ ((cs.dropWhile isBlank).reverse.takeWhile isBlank).reverse := by
    rw [trimChars, ← List.reverse_append, List.takeWhile_append_dropWhile, List.reverse_reverse]
  refine ⟨cs.takeWhile isBlank, ((cs.dropWhile isBlank).reverse.takeWhile isBlank).reverse,
    fun ch hch => List.mem_takeWhile_imp hch,
    fun ch hch => List.mem_takeWhile_imp (List.mem_reverse.1 hch), ?_⟩
  rw [List.append_assoc, ← htail, List.takeWhile_append_dropWhile]

namespace Pattern

section Numerals

/-- The characters are the decimal digits of the number, with any number of zeros in front. -/
def Numeral (n : Nat) (cs : List Char) : Prop :=
  ∃ zeros, cs = List.replicate zeros '0' ++ Nat.toDigits 10 n

variable {n d : Nat} {cs : List Char}

theorem digitsValue_eq_ofDigitChars (cs : List Char) :
    digitsValue cs = Nat.ofDigitChars 10 cs 0 := by
  simp only [digitsValue, Nat.ofDigitChars_eq_foldl, Nat.mul_comm]
  rfl

theorem Numeral.digitsValue_eq (h : Numeral n cs) : digitsValue cs = n := by
  obtain ⟨zeros, rfl⟩ := h
  rw [digitsValue_eq_ofDigitChars, Nat.ofDigitChars_append, Nat.ofDigitChars_replicate_zero,
    Nat.mul_zero, Nat.ofDigitChars_ten_toDigits]

theorem Numeral.ne_nil (h : Numeral n cs) : cs ≠ [] := by
  obtain ⟨zeros, rfl⟩ := h
  simp [Nat.toDigits_ne_nil]

theorem Numeral.isDigit (h : Numeral n cs) : ∀ c ∈ cs, c.isDigit = true := by
  obtain ⟨zeros, rfl⟩ := h
  intro c hc
  rcases List.mem_append.1 hc with hzero | hdigit
  · rw [List.eq_of_mem_replicate hzero]
    rfl
  · exact Nat.isDigit_of_mem_toDigits (by decide) (by decide) hdigit

/-- A digit behind a numeral counts ones, and what the numeral counted is tens. -/
theorem Numeral.concat (h : Numeral n cs) (hd : d < 10) :
    Numeral (10 * n + d) (cs ++ [d.digitChar]) := by
  obtain ⟨zeros, rfl⟩ := h
  rw [← Nat.toDigits_of_lt_base hd]
  rcases Nat.eq_zero_or_pos n with rfl | hpos
  · -- the digit of zero becomes one more zero in front
    exact ⟨zeros + 1, by rw [Nat.toDigits_zero, ← List.replicate_succ', Nat.mul_zero, Nat.zero_add]⟩
  · exact ⟨zeros, by rw [List.append_assoc, Nat.toDigits_append_toDigits (by decide) hpos hd]⟩

theorem exists_digitChar {c : Char} (h : c.isDigit = true) : ∃ d < 10, c = d.digitChar := by
  obtain ⟨hlow, hhigh⟩ := Char.isDigit_iff_toNat.1 h
  have hzero : '0'.toNat = 48 := rfl
  have hnine : '9'.toNat = 57 := rfl
  refine ⟨c.toNat - 48, by omega, Char.toNat_inj.1 ?_⟩
  rw [Nat.toNat_digitChar_of_lt_ten (by omega)]
  omega

/-- Any digits are a numeral. -/
theorem exists_numeral (hne : cs ≠ []) (h : ∀ c ∈ cs, c.isDigit = true) : ∃ n, Numeral n cs := by
  induction cs using List.reverseRecOn with
  | nil => exact absurd rfl hne
  | append_singleton cs c ih =>
      obtain ⟨d, hd, rfl⟩ := exists_digitChar (h c (by simp))
      rcases eq_or_ne cs [] with rfl | hcs
      · exact ⟨d, 0, by rw [Nat.toDigits_of_lt_base hd]; rfl⟩
      · obtain ⟨n, hn⟩ := ih hcs fun e he => h e (List.mem_append_left _ he)
        exact ⟨10 * n + d, hn.concat hd⟩

/-- The number that the characters write, if they are digits. -/
def numeral? (cs : List Char) : Option Nat :=
  if !cs.isEmpty && cs.all Char.isDigit then some (digitsValue cs) else none

theorem numeral?_eq_some_iff : numeral? cs = some n ↔ Numeral n cs := by
  constructor
  · intro h
    simp only [numeral?, Option.ite_none_right_eq_some, Bool.and_eq_true, Bool.not_eq_true',
      List.isEmpty_eq_false_iff, List.all_eq_true] at h
    obtain ⟨⟨hne, hdigits⟩, hvalue⟩ := h
    obtain ⟨m, hm⟩ := exists_numeral hne hdigits
    rwa [← Option.some.inj hvalue, hm.digitsValue_eq]
  · intro h
    have hempty : cs.isEmpty = false := List.isEmpty_eq_false_iff.2 h.ne_nil
    rw [numeral?, hempty, List.all_eq_true.2 h.isDigit, h.digitsValue_eq]
    rfl

end Numerals

section Texts

/-- The text writes the number: its digits, at most one plus sign in front of them, and blank
characters around. -/
inductive Writes (n : Nat) : List Char → Prop where
  | plain {front digits back : List Char} : Blank front → Numeral n digits → Blank back →
      Writes n (front ++ digits ++ back)
  | signed {front digits back : List Char} : Blank front → Numeral n digits → Blank back →
      Writes n (front ++ '+' :: digits ++ back)

/-- The text without a plus sign in front. -/
def unsigned : List Char → List Char
  | '+' :: rest => rest
  | cs => cs

variable {n : Nat} {s : String} {cs : List Char}

theorem parseNumber_eq (s : String) : parseNumber s = numeral? (unsigned (trimChars s.toList)) :=
  rfl

theorem eq_unsigned_or (cs : List Char) : cs = unsigned cs ∨ cs = '+' :: unsigned cs := by
  fun_cases unsigned cs with
  | case1 rest => exact .inr rfl
  | case2 cs hne => exact .inl rfl

theorem Numeral.unsigned_eq (h : Numeral n cs) : unsigned cs = cs := by
  fun_cases unsigned cs with
  | case1 rest => exact absurd (h.isDigit '+' List.mem_cons_self) (by decide)
  | case2 cs hne => rfl

theorem Numeral.solid (h : Numeral n cs) : ∀ c ∈ cs, isBlank c = false :=
  fun c hc => (Regex.Reading.blank_of_isDigit (h.isDigit c hc)).1

/-- Without blank characters around and a sign in front, the digits are left. -/
theorem Writes.numeral (h : Writes n cs) : Numeral n (unsigned (trimChars cs)) := by
  cases h with
  | plain hfront hdigits hback =>
      rwa [trimChars_append hfront hback hdigits.solid hdigits.ne_nil, hdigits.unsigned_eq]
  | @signed front digits back hfront hdigits hback =>
      have hsolid : ∀ c ∈ '+' :: digits, isBlank c = false :=
        List.forall_mem_cons.2 ⟨by decide, hdigits.solid⟩
      rwa [trimChars_append hfront hback hsolid (List.cons_ne_nil _ _), unsigned]

/-- A text writes a number exactly if what is left of it is the number's digits. -/
theorem writes_iff : Writes n cs ↔ Numeral n (unsigned (trimChars cs)) := by
  refine ⟨Writes.numeral, fun h => ?_⟩
  obtain ⟨front, back, hfront, hback, hcs⟩ := exists_blank_around cs
  rw [hcs]
  rcases eq_unsigned_or (trimChars cs) with hplain | hsigned
  · rw [hplain]
    exact .plain hfront h hback
  · rw [hsigned]
    exact .signed hfront h hback

theorem parseNumber_eq_some_iff : parseNumber s = some n ↔ Writes n s.toList := by
  rw [parseNumber_eq, numeral?_eq_some_iff, writes_iff]

end Texts

section Settings

/-- How many bits a limit has. -/
def Setting.width : Setting → Nat
  | .size => 64
  | .nest => 32
  | .backtrack => 64

/-- The limit that can be set so. -/
def Limits.get (limits : Limits) : Setting → Nat
  | .size => limits.size
  | .nest => limits.nest
  | .backtrack => limits.backtrack

/-- There is a text, and it writes this number, which is small enough for the limit. -/
def Setting.Gives (setting : Setting) (text : Option String) (n : Nat) : Prop :=
  (∃ s, text = some s ∧ Writes n s.toList) ∧ n < Nat.pow 2 setting.width

variable {setting : Setting} {text : Option String} {n : Nat}

theorem Setting.bound_eq_pow (setting : Setting) :
    setting.bound = Nat.pow 2 setting.width := by
  cases setting <;> rfl

theorem Limits.get_default (setting : Setting) : ({} : Limits).get setting = setting.default := by
  cases setting <;> rfl

theorem Limits.get_ofSettings (settings : Setting → Option String) (setting : Setting) :
    (ofSettings settings).get setting = setting.read (settings setting) := by
  cases setting <;> rfl

/-- No two settings share a variable. -/
theorem Setting.name_injective : Function.Injective Setting.name := by
  intro a b h
  cases a <;> cases b <;> first | rfl | simp [name] at h

/-- All choices of texts for the settings are made by environments. -/
theorem Limits.exists_ofEnvironment_eq (settings : Setting → Option String) :
    ∃ environment, ofEnvironment environment = ofSettings settings := by
  refine ⟨Function.extend Setting.name settings fun _ => none, ?_⟩
  simp only [ofEnvironment, Setting.name_injective.extend_apply]

theorem Limits.get_ofEnvironment (environment : String → Option String) (setting : Setting) :
    (ofEnvironment environment).get setting = setting.read (environment setting.name) :=
  get_ofSettings _ setting

theorem Setting.gives_iff :
    setting.Gives text n ↔ text.bind parseNumber = some n ∧ n < setting.bound := by
  rw [Setting.Gives, Setting.bound_eq_pow, Option.bind_eq_some_iff]
  simp only [parseNumber_eq_some_iff]

theorem Setting.read_of_gives (h : setting.Gives text n) : setting.read text = n := by
  obtain ⟨hnumber, hn⟩ := Setting.gives_iff.1 h
  rw [Setting.read, hnumber]
  exact if_pos hn

theorem Setting.read_of_not_gives (h : ¬∃ m, setting.Gives text m) :
    setting.read text = setting.default := by
  rw [Setting.read]
  split
  · rename_i m hm
    exact if_neg fun hlt => h ⟨m, Setting.gives_iff.2 ⟨hm, hlt⟩⟩
  · rfl

/-- A setting has the number that its text gives, and its default if there is none. -/
theorem Setting.read_eq_iff : setting.read text = n ↔
    setting.Gives text n ∨ n = setting.default ∧ ¬∃ m, setting.Gives text m := by
  constructor
  · rintro rfl
    by_cases h : ∃ m, setting.Gives text m
    · obtain ⟨m, hm⟩ := h
      exact .inl (by rwa [Setting.read_of_gives hm])
    · exact .inr ⟨Setting.read_of_not_gives h, h⟩
  · rintro (h | ⟨rfl, h⟩)
    · exact Setting.read_of_gives h
    · exact Setting.read_of_not_gives h

/-- **Limits are read exactly.**  A limit is a number exactly if the text of its own variable writes
this number and the number fits into the bits of the limit, or if it is the default and the text
gives no number.  Environments that agree on a limit's own variable give the same limit, whatever
the others are. -/
theorem limits_are_read_exactly (environment : String → Option String) (setting : Setting) :
    (∀ n, (Limits.ofEnvironment environment).get setting = n ↔
        setting.Gives (environment setting.name) n ∨
          n = ({} : Limits).get setting ∧
            ¬∃ m, setting.Gives (environment setting.name) m) ∧
      ∀ environment' : String → Option String,
        environment' setting.name = environment setting.name →
          (Limits.ofEnvironment environment').get setting =
            (Limits.ofEnvironment environment).get setting := by
  constructor
  · intro n
    rw [Limits.get_ofEnvironment, Limits.get_default]
    exact Setting.read_eq_iff
  · intro environment' hown
    rw [Limits.get_ofEnvironment, Limits.get_ofEnvironment, hown]

/-- An ideographic space, a plus sign and zeros do no harm.  One more than the largest number of the
nesting limit leaves the default, as does zero behind a minus sign; and the largest number is
accepted, with none of the others set. -/
theorem limits_are_read_exactly_at_edges :
    let environment : String → Option String := fun key =>
      if key = "DOCQUERY_REGEX_SIZE_LIMIT" then some "\u3000+00042\t"
      else if key = "DOCQUERY_REGEX_NEST_LIMIT" then some "4294967296"
      else if key = "DOCQUERY_REGEX_BACKTRACK_LIMIT" then some "-0"
      else none
    let largest : String → Option String := fun key =>
      if key = "DOCQUERY_REGEX_NEST_LIMIT" then some "4294967295" else none
    (Limits.ofEnvironment environment).get .size = 42 ∧
      (Limits.ofEnvironment environment).get .nest = 250 ∧
      (Limits.ofEnvironment environment).get .backtrack = 1000000 ∧
      (Limits.ofEnvironment largest).get .nest = 4294967295 ∧
      (Limits.ofEnvironment fun key =>
          if key = "DOCQUERY_REGEX_NEST_LIMIT" then largest key else environment key).get .nest =
        (Limits.ofEnvironment largest).get .nest := by
  intro environment largest
  refine ⟨((limits_are_read_exactly environment .size).1 _).2 (.inl ?_),
    ((limits_are_read_exactly environment .nest).1 _).2 (.inr ⟨rfl, ?_⟩),
    ((limits_are_read_exactly environment .backtrack).1 _).2 (.inr ⟨rfl, ?_⟩),
    ((limits_are_read_exactly largest .nest).1 _).2 (.inl ?_),
    (limits_are_read_exactly largest .nest).2 _ rfl⟩
  · exact Setting.gives_iff.2 (by decide +kernel)
  · rintro ⟨m, hm⟩
    obtain ⟨hnumber, hlt⟩ := Setting.gives_iff.1 hm
    have hwritten : (environment Setting.nest.name).bind parseNumber = some 4294967296 := by
      decide +kernel
    rw [← Option.some.inj (hwritten.symm.trans hnumber)] at hlt
    exact absurd hlt (by decide)
  · rintro ⟨m, hm⟩
    have hnone : (environment Setting.backtrack.name).bind parseNumber = none := by
      decide +kernel
    exact Option.some_ne_none m ((Setting.gives_iff.1 hm).1.symm.trans hnone)
  · exact Setting.gives_iff.2 (by decide +kernel)

end Settings

end Pattern
end DocFilter
