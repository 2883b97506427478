import Mathlib.Algebra.GroupWithZero.Nat
import Mathlib.Data.List.TakeWhile
import Registrar.Policy.Setting

/-!
# Numbers in variables

The value of a variable is read as JSON first, and JSON has no numbers with zeros in front of them.
A text of digits stands for its number all the same, whichever of the two ways it is read in.

* `Json.Token.scanNumber?_digits`: digits alone are a whole number.
* `Json.read?_digits`: which texts of digits JSON reads.
* `Setting.valueOf_digits`: **a text of digits stands for its number** in a variable.
* `Setting.seats_int`: a number of seats is one that fits 32 bits.
-/

namespace Registrar

open Text (IsDigits)

namespace Json

namespace Token

theorem takeDigits_eq {cs : List Char} {n : Nat} (h : Nat.ofDigitChars 10 cs n < 2 ^ 64) :
    takeDigits n cs = (Nat.ofDigitChars 10 cs n, []) := by
  induction cs generalizing n with
  | nil => rw [takeDigits, Nat.ofDigitChars_nil]
  | cons c cs ih =>
    rw [Nat.ofDigitChars_cons, Nat.mul_comm] at h ⊢
    -- The number grows with each digit, so it fits on the way if it does in the end.
    have hgrows : n * 10 + (c.toNat - '0'.toNat) ≤
        Nat.ofDigitChars 10 cs (n * 10 + (c.toNat - '0'.toNat)) := by
      rw [Nat.ofDigitChars_eq_ofDigitChars_zero]
      exact Nat.le_add_right_of_le (Nat.le_mul_of_pos_left _ (Nat.pow_pos (by decide)))
    rw [takeDigits, if_pos (by omega), ih h]

theorem number?_digits {cs : List Char} (h : Nat.ofDigitChars 10 cs 0 < 2 ^ 64) :
    number? false cs none none = some (.integer (Nat.ofDigitChars 10 cs 0)) := by
  rw [number?, takeDigits_eq h]
  rfl

/-- **Digits alone** are a whole number, unless there are zeros in front of it. -/
theorem scanNumber?_digits {cs : List Char} (hdigits : IsDigits cs)
    (h : Nat.ofDigitChars 10 cs 0 < 2 ^ 64) :
    scanNumber? false cs = if cs.head? = some '0' ∧ cs.length ≠ 1 then none
      else some (.integer (Nat.ofDigitChars 10 cs 0), []) := by
  have hall : cs.takeWhile Char.isDigit = cs := List.takeWhile_eq_self_iff.2 hdigits.isDigit
  have hnone : cs.dropWhile Char.isDigit = [] := List.dropWhile_eq_nil_iff.2 hdigits.isDigit
  rw [scanNumber?, hall, hnone]
  simp only [hdigits.ne_nil, false_or]
  refine if_congr Iff.rfl rfl ?_
  simp [scanFraction?, scanExponent?, number?_digits h]

theorem scan?_of_isDigit {c : Char} (hc : c.isDigit = true) (cs : List Char) :
    scan? (c :: cs) =
      (scanNumber? false (c :: cs)).map fun (n, rest) => (.literal (.number n), rest) := by
  have hne {d : Char} (hd : d.isDigit = false) : c ≠ d := by
    rintro rfl
    exact Bool.false_ne_true (hd.symm.trans hc)
  unfold scan?
  split
  case h_12 => rfl
  all_goals
    next heq => exact absurd (List.cons.inj heq).1 (hne (by decide))

theorem list?_of_scan? {c : Char} {cs : List Char} (hc : isSpace c = false) :
    list? (c :: cs) = (scan? (c :: cs)).bind fun (t, rest) => (list? rest).map (t :: ·) := by
  rw [list?, if_neg (Bool.eq_false_iff.1 hc)]
  split
  · next h => rw [h, Option.bind_none]
  · next h => rw [h, Option.bind_some]

end Token

/-- **JSON reads digits**, unless there are zeros in front of them. -/
theorem read?_digits {cs : List Char} (hdigits : IsDigits cs)
    (h : Nat.ofDigitChars 10 cs 0 < 2 ^ 64) :
    read? (.ofList cs) = if cs.head? = some '0' ∧ cs.length ≠ 1 then none
      else some (.int (Nat.ofDigitChars 10 cs 0)) := by
  rw [read?, String.toList_ofList]
  cases cs with
  | nil => exact absurd rfl hdigits.ne_nil
  | cons c cs =>
    have hc := hdigits.isDigit c List.mem_cons_self
    have hspace : Token.isSpace c = false := by
      rw [Bool.eq_false_iff]
      intro hs
      simp only [Token.isSpace, Bool.or_eq_true, decide_eq_true_eq] at hs
      rcases hs with ((rfl | rfl) | rfl) | rfl <;> exact absurd hc (by decide)
    rw [Token.list?_of_scan? hspace, Token.scan?_of_isDigit hc, Token.scanNumber?_digits hdigits h]
    split
    · rfl
    · simp [Token.list?, ofTokens?, run, step, stepValue, int]

end Json

namespace Setting

/-- **A text of digits stands for its number**, also when there are zeros in front of it. -/
theorem valueOf_digits {cs : List Char} (hdigits : IsDigits cs)
    (h : Nat.ofDigitChars 10 cs 0 < 2 ^ 63) :
    valueOf (.ofList cs) = .int (Nat.ofDigitChars 10 cs 0) := by
  have hne : String.ofList cs ≠ "" := fun he =>
    hdigits.ne_nil (String.ofList_injective (he.trans String.ofList_nil.symm))
  rw [valueOf, if_neg hne, Json.read?_digits hdigits (by omega)]
  by_cases hzero : cs.head? = some '0' ∧ cs.length ≠ 1
  · have hint : Text.int64? (String.ofList cs).toList =
        some (.ofInt (Nat.ofDigitChars 10 cs 0)) := by
      rw [String.toList_ofList, Text.int64?, Text.signed?_eq_some_iff.2 (.plain hdigits),
        Option.bind_some, Text.int64OfInt?, if_pos (by omega)]
    rw [if_pos hzero, hint]
    dsimp only
    rw [Int64.toInt_ofInt_of_le (by omega) (by omega)]
  · rw [if_neg hzero]
    rfl

theorem valueOf_numeral (n : UInt32) : valueOf (Text.numeral n.toNat) = .int n.toNat := by
  have hnumeral : Text.numeral n.toNat = .ofList (Nat.toDigits 10 n.toNat) := by
    rw [Text.numeral, if_neg (by omega), List.nil_append, Int.natAbs_natCast]
  have hvalue := n.toNat_lt
  rw [hnumeral, valueOf_digits (Text.isDigits_toDigits _)]
  · rw [Nat.ofDigitChars_ten_toDigits]
  · rw [Nat.ofDigitChars_ten_toDigits]
    omega

theorem seats_int (n : UInt32) : seats (.int n.toNat) = .ok n := by
  have hfits : Text.word32OfInt? n.toNat = some n := by
    have hlt := n.toNat_lt
    rw [Text.word32OfInt?, if_pos (by omega), Int.toNat_natCast, UInt32.ofNat_toNat]
  have hinteger : (Json.int n.toNat).integer? = some (n.toNat : Int) := rfl
  rw [seats, hinteger]
  dsimp only
  rw [if_neg (by omega), hfits]

end Setting

end Registrar
