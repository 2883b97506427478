import Mathlib.Algebra.Group.Nat.Defs
import Mathlib.Data.List.TakeWhile
import Registrar.Calendar.Period
import Registrar.Proofs.NormalForm

/-!
# Periods in writing

A period is written as the name of a term, a blank and a year of four digits.  This file says what
any text says about a period, by rules that look at the text alone, and that this is what is read
from it.

* `Text.LastWord`: the last word of a text, and what stands in front of it.
* `Term.Named`: the names of a term, in any letter case and with blanks anywhere.
* `Period.Says`: what a text says about a period, rule by rule.
* `Period.read_eq_iff`: **what is read is what the text says.**
* `Period.read_eq_ok_iff_of_written`: which texts are accepted, whatever blanks stand around the
  name and around the text.
* `Period.legible`: the whole of it, with the two things that follow: spelling does not matter, and
  a year of four digits is always a number.
-/

namespace Registrar

namespace Text

/-! ### The last word -/

/-- The text is cut at its last blank: the word behind it, and what stands in front of it. -/
structure LastWord (cs front word : List Char) : Prop where
  /-- The two are parted by a blank. -/
  cut : ∃ blank, isBlank blank = true ∧ cs = front ++ blank :: word
  /-- There is no blank in the word. -/
  solid : ∀ c ∈ word, isBlank c = false

variable {cs front front' word word' : List Char}

theorem cutLast?_isBlank_eq_some_iff :
    cutLast? isBlank cs = some (front, word) ↔ LastWord cs front word := by
  rw [cutLast?_eq_some_iff]
  constructor
  · rintro ⟨blank, hblank, hcs, hword⟩
    exact ⟨⟨blank, hblank, hcs⟩, hword⟩
  · rintro ⟨⟨blank, hblank, hcs⟩, hword⟩
    exact ⟨blank, hblank, hcs, hword⟩

theorem LastWord.unique (h : LastWord cs front word) (h' : LastWord cs front' word') :
    front = front' ∧ word = word' := by
  have hcut := (cutLast?_isBlank_eq_some_iff.2 h).symm.trans (cutLast?_isBlank_eq_some_iff.2 h')
  simpa using hcut

theorem LastWord.ne_nil (h : LastWord cs front word) (ht : Trimmed cs) : word ≠ [] := by
  rintro rfl
  obtain ⟨blank, hblank, rfl⟩ := h.cut
  rw [ht.last blank (by simp)] at hblank
  cases hblank

/-! ### Letters without blanks -/

/-- The text without its blanks and in lower case. -/
def squeezed (cs : List Char) : String := lowercase (.ofList (cs.filter (!isBlank ·)))

theorem squeezed_dropWhile (cs : List Char) : squeezed (cs.dropWhile isBlank) = squeezed cs := by
  have hfilter : (cs.takeWhile isBlank).filter (!isBlank ·) = [] := by
    rw [List.filter_eq_nil_iff]
    intro c hc
    simp [List.mem_takeWhile_imp hc]
  calc squeezed (cs.dropWhile isBlank)
      = squeezed (cs.takeWhile isBlank ++ cs.dropWhile isBlank) := by
        rw [squeezed, squeezed, List.filter_append, hfilter, List.nil_append]
    _ = squeezed cs := by rw [List.takeWhile_append_dropWhile]

/-! ### How far digits count -/

/-- **Digits count up to a power of ten.** -/
theorem ofDigitChars_lt {cs : List Char} (h : ∀ c ∈ cs, c.isDigit = true) :
    Nat.ofDigitChars 10 cs 0 < 10 ^ cs.length := by
  induction cs with
  | nil => simp
  | cons c cs ih =>
    obtain ⟨hc, hcs⟩ := List.forall_mem_cons.1 h
    have hdigit : c.toNat - '0'.toNat ≤ 9 := by
      have hbounds := Char.isDigit_iff_toNat.1 hc
      simp only [Char.reduceToNat] at hbounds ⊢
      omega
    have hrest := ih hcs
    rw [Nat.ofDigitChars_cons, Nat.ofDigitChars_eq_ofDigitChars_zero, List.length_cons]
    calc 10 ^ cs.length * (10 * 0 + (c.toNat - '0'.toNat)) + Nat.ofDigitChars 10 cs 0
        < 10 ^ cs.length * 9 + 10 ^ cs.length := by
          refine Nat.add_lt_add_of_le_of_lt (Nat.mul_le_mul_left _ ?_) hrest
          omega
      _ = 10 ^ (cs.length + 1) := by rw [pow_succ]; omega

end Text

/-! ### The names of the terms -/

namespace Term

/-- The names of a term, in English and in Spanish. -/
def names : Term → List String
  | a => ["january-june", "enero-junio"]
  | b => ["august-december", "agosto-diciembre"]

/-- The text is a name of the term, apart from letter case and from blanks. -/
def Named (t : Term) (cs : List Char) : Prop := Text.squeezed cs ∈ t.names

instance (t : Term) (cs : List Char) : Decidable (t.Named cs) :=
  inferInstanceAs (Decidable (Text.squeezed cs ∈ t.names))

variable {t t' : Term} {cs : List Char}

theorem Named.unique (h : t.Named cs) (h' : t'.Named cs) : t = t' := by
  have hapart : t ≠ t' → ∀ name ∈ t.names, name ∉ t'.names := by
    cases t <;> cases t' <;> decide
  exact Decidable.byContradiction fun hne => hapart hne _ h h'

theorem read?_eq (cs : List Char) : read? cs =
    if Text.squeezed cs = "january-june" ∨ Text.squeezed cs = "enero-junio" then some a
    else if Text.squeezed cs = "august-december" ∨ Text.squeezed cs = "agosto-diciembre" then some b
    else none :=
  rfl

theorem named_a : a.Named cs ↔
    Text.squeezed cs = "january-june" ∨ Text.squeezed cs = "enero-junio" := by
  simp [Named, names]

theorem named_b : b.Named cs ↔
    Text.squeezed cs = "august-december" ∨ Text.squeezed cs = "agosto-diciembre" := by
  simp [Named, names]

/-- **A term is read from its names.** -/
theorem read?_eq_some_iff : read? cs = some t ↔ t.Named cs := by
  rw [read?_eq]
  constructor
  · intro h
    split at h
    · next ha => exact Option.some.inj h ▸ named_a.2 ha
    · split at h
      · next hb => exact Option.some.inj h ▸ named_b.2 hb
      · cases h
  · intro h
    cases t with
    | a => rw [if_pos (named_a.1 h)]
    | b =>
      have hnot : ¬ a.Named cs := fun ha => nomatch ha.unique h
      rw [if_neg (mt named_a.2 hnot), if_pos (named_b.1 h)]

theorem read?_eq_none_iff : read? cs = none ↔ ∀ t : Term, ¬ t.Named cs := by
  simp only [← read?_eq_some_iff, Option.eq_none_iff_forall_ne_some, ne_eq]

theorem not_named_of_blank (h : ∀ c ∈ cs, Text.isBlank c = true) : ¬ t.Named cs := by
  have hsqueezed : Text.squeezed cs = "" := by
    have hfilter : cs.filter (!Text.isBlank ·) = [] := by
      rw [List.filter_eq_nil_iff]
      intro c hc
      simp [h c hc]
    rw [Text.squeezed, hfilter]
    rfl
  rw [Named, hsqueezed]
  cases t <;> decide

end Term

/-! ### What a text says -/

namespace Period

open Text (LastWord Trimmed)

/-- The text is a year: four digits. -/
structure IsYear (cs : List Char) : Prop where
  /-- There are four of them. -/
  length : cs.length = 4
  /-- They are digits. -/
  isDigit : ∀ c ∈ cs, c.isDigit = true

/-- The text has no digit in its last word, or is itself one word. -/
def Yearless (cs : List Char) : Prop :=
  (∀ c ∈ cs, Text.isBlank c = false) ∨
    ∃ front word, LastWord cs front word ∧ ∀ c ∈ word, c.isDigit = false

/-- What a text without blanks at its ends says about a period. -/
inductive Says (cs : List Char) : Except PeriodError Period → Prop
  /-- The name of a term, a blank and four digits are a period. -/
  | period {front word : List Char} {t : Term} : LastWord cs front word → t.Named front →
      IsYear word → Says cs (.ok ⟨Nat.ofDigitChars 10 word 0, t⟩)
  /-- Behind the name of a term, any other number of digits is no year. -/
  | length {front word : List Char} {t : Term} : LastWord cs front word → t.Named front →
      (∀ c ∈ word, c.isDigit = true) → word.length ≠ 4 →
        Says cs (.error (.invalidYear (.ofList word)))
  /-- Digits behind something else do not name a term. -/
  | stranger {front word : List Char} : LastWord cs front word → (∀ t : Term, ¬ t.Named front) →
      (∀ c ∈ word, c.isDigit = true) → Says cs (.error (.unknownLabel (.ofList front)))
  /-- A last word with digits and other characters is no year, whatever stands in front of it. -/
  | mixed {front word : List Char} : LastWord cs front word → (∃ c ∈ word, c.isDigit = true) →
      (∃ c ∈ word, c.isDigit = false) → Says cs (.error (.invalidYear (.ofList word)))
  /-- The name of a term alone lacks a year. -/
  | missing {t : Term} : Yearless cs → t.Named cs → Says cs (.error .missingYear)
  /-- Any other text without a year does not name a term. -/
  | nonsense : Yearless cs → (∀ t : Term, ¬ t.Named cs) →
      Says cs (.error (.unknownLabel (.ofList cs)))

variable {cs front word : List Char} {raw : String} {p : Period} {x : Except PeriodError Period}

/-- **Every text says something** about a period. -/
theorem exists_said (cs : List Char) : ∃ x, Says cs x := by
  have hyearless : Yearless cs → ∃ x, Says cs x := by
    intro h
    by_cases hname : ∃ t : Term, t.Named cs
    · obtain ⟨t, ht⟩ := hname
      exact ⟨_, .missing h ht⟩
    · exact ⟨_, .nonsense h (not_exists.1 hname)⟩
  cases hcut : Text.cutLast? Text.isBlank cs with
  | none => exact hyearless (.inl (Text.cutLast?_eq_none_iff.1 hcut))
  | some parts =>
    obtain ⟨front, word⟩ := parts
    have hw := Text.cutLast?_isBlank_eq_some_iff.1 hcut
    by_cases hall : ∀ c ∈ word, c.isDigit = true
    · by_cases hname : ∃ t : Term, t.Named front
      · obtain ⟨t, ht⟩ := hname
        by_cases hlength : word.length = 4
        · exact ⟨_, .period hw ht ⟨hlength, hall⟩⟩
        · exact ⟨_, .length hw ht hall hlength⟩
      · exact ⟨_, .stranger hw (not_exists.1 hname) hall⟩
    · by_cases hsome : ∃ c ∈ word, c.isDigit = true
      · exact ⟨_, .mixed hw hsome (by simpa using hall)⟩
      · exact hyearless (.inr ⟨front, word, hw, by simpa using hsome⟩)

/-! ### What is read -/

theorem cut_of_digits (h : LastWord cs front word) (hd : ∀ c ∈ word, c.isDigit = true) :
    cut cs = .ok (front, some word) := by
  rw [cut, Text.cutLast?_isBlank_eq_some_iff.2 h]
  exact if_pos (List.all_eq_true.2 hd)

theorem cut_of_mixed (h : LastWord cs front word) (hsome : ∃ c ∈ word, c.isDigit = true)
    (hother : ∃ c ∈ word, c.isDigit = false) : cut cs = .error (.invalidYear (.ofList word)) := by
  rw [cut, Text.cutLast?_isBlank_eq_some_iff.2 h]
  simp only
  rw [if_neg (by simpa using hother), if_pos (List.any_eq_true.2 hsome)]

theorem cut_of_yearless (ht : Trimmed cs) (h : Yearless cs) : cut cs = .ok (cs, none) := by
  rcases h with hsolid | ⟨front, word, hw, hnone⟩
  · rw [cut, Text.cutLast?_eq_none_iff.2 hsolid]
  · obtain ⟨c, rest, rfl⟩ := List.exists_cons_of_ne_nil (hw.ne_nil ht)
    have hnot : ¬ (c :: rest).all Char.isDigit = true := by simp [hnone c List.mem_cons_self]
    have hnever : ¬ (c :: rest).any Char.isDigit = true := by simpa using hnone
    rw [cut, Text.cutLast?_isBlank_eq_some_iff.2 hw]
    simp only
    rw [if_neg hnot, if_neg hnever]

/-- **Four digits are always a number** of at most 32 bits. -/
theorem IsYear.exists_int32? (h : IsYear word) :
    ∃ k, Text.int32? word = some k ∧ k.toInt = Nat.ofDigitChars 10 word 0 := by
  have hne : word ≠ [] := by
    rintro rfl
    exact absurd h.length (by decide)
  have hlt := Text.ofDigitChars_lt h.isDigit
  rw [h.length] at hlt
  rw [Text.int32?, Text.signed?_eq_some_iff.2 (.plain ⟨hne, h.isDigit⟩)]
  exact Text.int32OfInt?_eq_some (by omega)

theorem Says.read_eq (h : Says (Text.trimChars raw.toList) x) : read raw = x := by
  have ht := Text.trimmed_trimChars raw.toList
  generalize htext : Text.trimChars raw.toList = cs at h ht
  unfold read
  rw [htext]
  cases h with
  | period hw hn hy =>
    obtain ⟨k, hk, hvalue⟩ := hy.exists_int32?
    simp [cut_of_digits hw hy.isDigit, bind, Except.bind, Term.read?_eq_some_iff.2 hn, hy.length,
      hk, hvalue]
  | length hw hn hd hlength =>
    simp [cut_of_digits hw hd, bind, Except.bind, Term.read?_eq_some_iff.2 hn, hlength]
  | stranger hw hn hd =>
    simp [cut_of_digits hw hd, bind, Except.bind, Term.read?_eq_none_iff.2 hn]
  | mixed hw hsome hother => simp [cut_of_mixed hw hsome hother, bind, Except.bind]
  | missing hy hn =>
    simp [cut_of_yearless ht hy, bind, Except.bind, Term.read?_eq_some_iff.2 hn]
  | nonsense hy hn =>
    simp [cut_of_yearless ht hy, bind, Except.bind, Term.read?_eq_none_iff.2 hn]

/-- **What is read is what the text says.** -/
theorem read_eq_iff : read raw = x ↔ Says (Text.trimChars raw.toList) x := by
  refine ⟨?_, Says.read_eq⟩
  rintro rfl
  obtain ⟨x, hx⟩ := exists_said (Text.trimChars raw.toList)
  rwa [hx.read_eq]

/-- Only the name of a term, a blank and four digits are accepted. -/
theorem says_ok_iff : Says cs (.ok p) ↔ ∃ front word, LastWord cs front word ∧ p.term.Named front ∧
    IsYear word ∧ p.year = Nat.ofDigitChars 10 word 0 := by
  constructor
  · intro h
    cases h with
    | period hw hn hy => exact ⟨_, _, hw, hn, hy, rfl⟩
  · rintro ⟨front, word, hw, hn, hy, hyear⟩
    obtain ⟨year, term⟩ := p
    obtain rfl : year = Nat.ofDigitChars 10 word 0 := hyear
    exact .period hw hn hy

/-! ### Spelling -/

/-- The text is a name, a blank and a word, with blanks around the two or none. -/
structure Written (raw : String) (name word : List Char) : Prop where
  /-- So it is put together. -/
  text : ∃ before blank after, (∀ c ∈ before, Text.isBlank c = true) ∧
    Text.isBlank blank = true ∧ (∀ c ∈ after, Text.isBlank c = true) ∧
      raw.toList = before ++ (name ++ blank :: word) ++ after
  /-- There is a word. -/
  ne_nil : word ≠ []
  /-- There is no blank in it. -/
  solid : ∀ c ∈ word, Text.isBlank c = false

/-- What is left of such a text when it is trimmed: a name that is not blank stays, with its first
letter in front. -/
theorem Written.trimmed {name word : List Char} (h : Written raw name word) :
    (name.dropWhile Text.isBlank = [] ∧ Text.trimChars raw.toList = word) ∨
      LastWord (Text.trimChars raw.toList) (name.dropWhile Text.isBlank) word := by
  obtain ⟨before, blank, after, hbefore, hblank, hafter, hraw⟩ := h.text
  rw [hraw, Text.trimChars_pad _ hbefore hafter]
  have hlead : ∀ c ∈ name.takeWhile Text.isBlank, Text.isBlank c = true :=
    fun _ => List.mem_takeWhile_imp
  have hsplit : name.takeWhile Text.isBlank ++ name.dropWhile Text.isBlank = name :=
    List.takeWhile_append_dropWhile
  cases hrest : name.dropWhile Text.isBlank with
  | nil =>
    rw [hrest, List.append_nil] at hsplit
    rw [hsplit] at hlead
    have hfront : ∀ c ∈ name ++ [blank], Text.isBlank c = true := by
      rw [List.forall_mem_append, List.forall_mem_singleton]
      exact ⟨hlead, hblank⟩
    have htrim := (Text.trimmed_of_solid h.solid).trimChars_append_left hfront
    rw [List.append_assoc, List.singleton_append] at htrim
    exact .inl ⟨rfl, htrim⟩
  | cons c rest =>
    have hfirst : ∀ d, (c :: rest).head? = some d → Text.isBlank d = false := by
      rintro d ⟨⟩
      exact Text.isBlank_of_head?_dropWhile (by rw [hrest]; rfl)
    have hcore := Text.trimmed_append [blank] (List.cons_ne_nil c rest) hfirst h.ne_nil
      (Text.trimmed_of_solid h.solid).last
    rw [List.append_assoc, List.singleton_append] at hcore
    rw [hrest] at hsplit
    have htrim := hcore.trimChars_append_left hlead
    rw [← List.append_assoc, hsplit] at htrim
    exact .inr ⟨⟨blank, hblank, htrim⟩, h.solid⟩

/-- **A text is accepted** for its name and its year; the blanks in it do not matter. -/
theorem read_eq_ok_iff_of_written {name word : List Char} (h : Written raw name word) :
    read raw = .ok p ↔
      p.term.Named name ∧ IsYear word ∧ p.year = Nat.ofDigitChars 10 word 0 := by
  rw [read_eq_iff, says_ok_iff]
  rcases h.trimmed with ⟨hblank, htrim⟩ | hlast
  · rw [htrim]
    constructor
    · rintro ⟨front, last, ⟨⟨blank, hb, rfl⟩, -⟩, -⟩
      rw [h.solid blank (by simp)] at hb
      cases hb
    · rintro ⟨hn, -⟩
      exact absurd hn (Term.not_named_of_blank (List.dropWhile_eq_nil_iff.1 hblank))
  · constructor
    · rintro ⟨front, last, hw, hn, hy⟩
      obtain ⟨rfl, rfl⟩ := hw.unique hlast
      rw [Term.Named, Text.squeezed_dropWhile] at hn
      exact ⟨hn, hy⟩
    · rintro ⟨hn, hy⟩
      rw [Term.Named, ← Text.squeezed_dropWhile] at hn
      exact ⟨_, word, hlast, hn, hy⟩

/-! ### Legible texts -/

/-- All about what is read from a text. -/
structure Legible (raw : String) : Prop where
  /-- What is read from it is what it says, blanks at its ends apart. -/
  read_eq_iff : ∀ x, read raw = x ↔ Says (Text.trimChars raw.toList) x
  /-- It is accepted no matter in which letter case its name is spelled, and where blanks stand in
  the name, around it and around the text. -/
  respelled : ∀ raw' name name' word, Written raw name word → Written raw' name' word →
    Text.squeezed name' = Text.squeezed name → ∀ p, read raw' = .ok p ↔ read raw = .ok p
  /-- A year that is accepted has four digits. -/
  year_lt : ∀ p, read raw = .ok p → 0 ≤ p.year ∧ p.year < 10000
  /-- Four digits are never too large a number. -/
  converted : ∀ word, IsYear word →
    ∃ k, Text.int32? word = some k ∧ k.toInt = Nat.ofDigitChars 10 word 0

/-- **Every text can be judged by eye**: what is read from it follows from the rules, spelling does
not matter, and no year is too large. -/
theorem legible (raw : String) : Legible raw where
  read_eq_iff _ := read_eq_iff
  respelled raw' name name' word h h' hname p := by
    rw [read_eq_ok_iff_of_written h, read_eq_ok_iff_of_written h', Term.Named, Term.Named, hname]
  year_lt p hp := by
    obtain ⟨_, word, -, -, hy, hyear⟩ := says_ok_iff.1 (Period.read_eq_iff.1 hp)
    have hlt := Text.ofDigitChars_lt hy.isDigit
    rw [hy.length] at hlt
    omega
  converted _ hy := hy.exists_int32?

/-- Blanks and letter case are passed over, and the last word decides before the name does. -/
example : read "\tENERO -\u00A0junio  0026 " = .ok ⟨26, .a⟩ ∧
    read "Spring 2O26" = .error (.invalidYear "2O26") := by
  decide +kernel

end Period

end Registrar
