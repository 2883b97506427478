import Registrar.Text.Basic

/-!
# Decimal numerals

Whole numbers written in decimal digits.

* `Text.digits?`: the value of a text that is one or more digits.
* `Text.signed?`: the same with an optional sign in front.
* `Text.int64?`, `Text.int32?`: the same within the range of a 64-bit, or 32-bit, signed number.
* `Text.int64OfInt?`, `Text.int32OfInt?`, `Text.word32OfInt?`: a whole number as a 64-bit signed,
  a 32-bit signed, or a 32-bit unsigned, one; a value outside the range is refused and never wraps
  around.
* `Text.numeral`: the numeral of a whole number.

`Text.IsDigits` and `Text.IsNumeral` say what texts are numerals, and of which number;
`Text.signed?_eq_some_iff` says that these are the ones that are read.  `Text.signed?_numeral` says
that the numeral of a number denotes that number.
-/

namespace Registrar.Text

/-- The value of one or more digits. -/
def digits? (cs : List Char) : Option Nat :=
  if cs ≠ [] ∧ cs.all Char.isDigit then some (Nat.ofDigitChars 10 cs 0) else none

/-- The value of one or more digits with an optional sign in front. -/
def signed? : List Char → Option Int
  | '-' :: cs => (digits? cs).map fun n => -Int.ofNat n
  | '+' :: cs => (digits? cs).map Int.ofNat
  | cs => (digits? cs).map Int.ofNat

/-- The 64-bit signed number with this value, when there is one. -/
def int64OfInt? (n : Int) : Option Int64 :=
  if -9223372036854775808 ≤ n ∧ n ≤ 9223372036854775807 then some (.ofInt n) else none

/-- The 32-bit signed number with this value, when there is one. -/
def int32OfInt? (n : Int) : Option Int32 :=
  if -2147483648 ≤ n ∧ n ≤ 2147483647 then some (.ofInt n) else none

/-- The 32-bit unsigned number with this value, when there is one. -/
def word32OfInt? (n : Int) : Option UInt32 :=
  if 0 ≤ n ∧ n ≤ 4294967295 then some (.ofNat n.toNat) else none

/-- The value of a signed numeral, when it fits 64 bits. -/
def int64? (cs : List Char) : Option Int64 := (signed? cs).bind int64OfInt?

/-- The value of a signed numeral, when it fits 32 bits. -/
def int32? (cs : List Char) : Option Int32 := (signed? cs).bind int32OfInt?

/-- The digits of a whole number, after a minus sign if it is negative. -/
def numeral (n : Int) : String :=
  .ofList ((if n < 0 then ['-'] else []) ++ Nat.toDigits 10 n.natAbs)

/-! ### Which texts are numerals -/

/-- The text is one or more digits. -/
structure IsDigits (cs : List Char) : Prop where
  /-- There is a digit. -/
  ne_nil : cs ≠ []
  /-- There is nothing else. -/
  isDigit : ∀ c ∈ cs, c.isDigit = true

/-- The text is a numeral of the number: digits, with a sign in front of them or none. -/
inductive IsNumeral : List Char → Int → Prop
  /-- Digits alone. -/
  | plain {cs : List Char} : IsDigits cs → IsNumeral cs (Nat.ofDigitChars 10 cs 0)
  /-- Digits behind a plus sign. -/
  | plus {cs : List Char} : IsDigits cs → IsNumeral ('+' :: cs) (Nat.ofDigitChars 10 cs 0)
  /-- Digits behind a minus sign. -/
  | minus {cs : List Char} : IsDigits cs → IsNumeral ('-' :: cs) (-Nat.ofDigitChars 10 cs 0)

theorem digits?_eq_some_iff {cs : List Char} {n : Nat} :
    digits? cs = some n ↔ IsDigits cs ∧ Nat.ofDigitChars 10 cs 0 = n := by
  have hdigits : IsDigits cs ↔ cs ≠ [] ∧ cs.all Char.isDigit = true := by
    rw [List.all_eq_true]
    exact ⟨fun h => ⟨h.ne_nil, h.isDigit⟩, fun h => ⟨h.1, h.2⟩⟩
  rw [digits?, hdigits]
  split
  · next h => rw [Option.some.injEq, and_iff_right h]
  · next h => exact ⟨nofun, fun hn => absurd hn.1 h⟩

/-- **What is read as a number** is a numeral of that number, and every numeral is read. -/
theorem signed?_eq_some_iff {cs : List Char} {n : Int} :
    signed? cs = some n ↔ IsNumeral cs n := by
  constructor
  · intro h
    unfold signed? at h
    split at h
    all_goals
      obtain ⟨k, hk, rfl⟩ := Option.map_eq_some_iff.1 h
      obtain ⟨hdigits, rfl⟩ := digits?_eq_some_iff.1 hk
    · exact .minus hdigits
    · exact .plus hdigits
    · exact .plain hdigits
  · intro h
    cases h with
    | plus hdigits => simp [signed?, digits?_eq_some_iff.2 ⟨hdigits, rfl⟩]
    | minus hdigits => simp [signed?, digits?_eq_some_iff.2 ⟨hdigits, rfl⟩]
    | plain hdigits =>
      unfold signed?
      -- A sign is no digit.
      split
      · exact absurd (hdigits.isDigit '-' List.mem_cons_self) (by decide)
      · exact absurd (hdigits.isDigit '+' List.mem_cons_self) (by decide)
      · simp [digits?_eq_some_iff.2 ⟨hdigits, rfl⟩]

theorem isDigit_eq_false_of_isBlank {c : Char} (h : isBlank c = true) : c.isDigit = false := by
  rw [Bool.eq_false_iff]
  intro hdigit
  have hbounds := Char.isDigit_iff_toNat.1 hdigit
  simp only [Char.reduceToNat] at hbounds
  simp only [isBlank, Bool.or_eq_true, Bool.and_eq_true, decide_eq_true_eq, beq_iff_eq] at h
  omega

/-! ### What a numeral denotes -/

theorem isDigits_toDigits (n : Nat) : IsDigits (Nat.toDigits 10 n) where
  ne_nil := Nat.toDigits_ne_nil
  isDigit _ hc := Nat.isDigit_of_mem_toDigits (by decide) (by decide) hc

theorem digits?_toDigits (n : Nat) : digits? (Nat.toDigits 10 n) = some n :=
  digits?_eq_some_iff.2 ⟨isDigits_toDigits n, Nat.ofDigitChars_ten_toDigits⟩

theorem signed?_toDigits (n : Nat) : signed? (Nat.toDigits 10 n) = some (n : Int) := by
  rw [signed?_eq_some_iff]
  simpa using IsNumeral.plain (isDigits_toDigits n)

/-- **The numeral of a number denotes that number.** -/
theorem signed?_numeral (n : Int) : signed? (numeral n).toList = some n := by
  unfold numeral
  rw [String.toList_ofList]
  split
  · next h =>
    simp only [List.cons_append, List.nil_append, signed?, digits?_toDigits, Option.map_some,
      Int.ofNat_eq_natCast, Option.some.injEq]
    omega
  · next h =>
    rw [List.nil_append, signed?_toDigits, Option.some.injEq]
    omega

/-! ### What an accepted value is -/

theorem toInt_of_int64OfInt? {n : Int} {k : Int64} (h : int64OfInt? n = some k) :
    k.toInt = n := by
  unfold int64OfInt? at h
  split at h
  · next hn =>
    obtain rfl := Option.some.inj h
    rw [Int64.toInt_ofInt_of_le (by omega) (by omega)]
  · simp at h

theorem int32OfInt?_eq_some {n : Int} (h : -2147483648 ≤ n ∧ n ≤ 2147483647) :
    ∃ k, int32OfInt? n = some k ∧ k.toInt = n :=
  ⟨.ofInt n, if_pos h, Int32.toInt_ofInt_of_le (by omega) (by omega)⟩

theorem toNat_of_word32OfInt? {n : Int} {k : UInt32} (h : word32OfInt? n = some k) :
    (k.toNat : Int) = n := by
  unfold word32OfInt? at h
  split at h
  · next hn =>
    obtain rfl := Option.some.inj h
    rw [UInt32.toNat_ofNat_of_lt' (by simp [UInt32.size]; omega)]
    omega
  · simp at h

end Registrar.Text
