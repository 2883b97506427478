import Registrar.Proofs.Facts

/-!
# The number of a course

A request names its course in a fact, or, where no fact names one, in a part of its resource.  This
file says which course a request is about, and that no number is changed by being read.

* `Json.Spells`: the number that a value is, or that it spells in digits.
* `Request.NamesCourse`, `Request.IsCourseNumber`: the two places where the number may stand.
* `Request.IsAbout`: the course that a request is about.
* `Request.courseId?_eq_some_iff`: this is the course that is found.
* `Request.locatesCourse`: **where the course of a request is found**, and that its resource counts
  only where no fact names a course.
-/

namespace Registrar

/-! ### Numbers of 64 bits -/

/-- The number is a signed number of 64 bits: at least `-2 ^ 63`, and at most `2 ^ 63 - 1`. -/
def Text.Fits64 (n : Int) : Prop := -9223372036854775808 ≤ n ∧ n ≤ 9223372036854775807

theorem Text.fits64_toInt (k : Int64) : Fits64 k.toInt :=
  ⟨k.le_toInt, Int.le_sub_one_of_lt k.toInt_lt⟩

theorem Text.Fits64.exists_toInt_eq {n : Int} (h : Fits64 n) : ∃ k : Int64, k.toInt = n :=
  ⟨.ofInt n, Int64.toInt_ofInt_of_le h.1 (Int.lt_of_le_sub_one h.2)⟩

/-! ### What a value spells -/

/-- The value is this number, or a text that spells it between blanks. -/
inductive Json.Spells : Json → Int → Prop
  /-- The number itself. -/
  | integer {n : Int} : Spells (.int n) n
  /-- A text with a numeral of it. -/
  | numeral {s : String} {n : Int} : Text.IsNumeral (Text.trimChars s.toList) n →
      Spells (.string s) n

theorem Json.denotes_iff_spells {v : Json} {k : Int64} : v.Denotes k ↔ v.Spells k.toInt := by
  constructor
  · rintro (rfl | ⟨s, rfl, hs⟩)
    · exact .integer
    · exact .numeral (Text.signed?_eq_some_iff.1 hs)
  · -- The rules are told apart for any number, not only for one of 64 bits.
    generalize hn : k.toInt = n
    intro h
    cases h with
    | integer => exact .inl (hn ▸ rfl)
    | numeral hs => exact .inr ⟨_, rfl, hn ▸ Text.signed?_eq_some_iff.2 hs⟩

namespace Request

variable {r : Request} {part : List Char} {n : Int} {k : Int64}

/-! ### The two places of the number -/

/-- A fact names the course: it is there, and not null. -/
def NamesCourse (r : Request) : Prop :=
  ∃ v, r.metadata.get? Fact.courseId.name = some v ∧ v ≠ .null

/-- The part of a resource is the number, in digits alone, and is not too large for a course. -/
structure IsCourseNumber (part : List Char) (n : Int) : Prop where
  /-- There are digits, and nothing else. -/
  digits : Text.IsDigits part
  /-- They denote the number. -/
  value : Nat.ofDigitChars 10 part 0 = n
  /-- It is at most `2 ^ 63 - 1`. -/
  le : n ≤ 9223372036854775807

/-- The request is about the course with this number. -/
inductive IsAbout (r : Request) (n : Int) : Prop
  /-- The fact says so. -/
  | named {v : Json} : r.metadata.get? Fact.courseId.name = some v → v.Spells n →
      Text.Fits64 n → IsAbout r n
  /-- No fact names a course, and the first part of the resource that is the number of a course is
  this number. -/
  | part {front back : List (List Char)} {part : List Char} : ¬ r.NamesCourse →
      Text.Pieces isPartMark r.resource.toList (front ++ part :: back) → IsCourseNumber part n →
        (∀ p ∈ front, ∀ m, ¬ IsCourseNumber p m) → IsAbout r n

theorem fact?_eq_none_iff : r.fact? .courseId = none ↔ ¬ r.NamesCourse := by
  simp only [Option.eq_none_iff_forall_ne_some, ne_eq, fact?_eq_some_iff, NamesCourse, not_exists]

theorem namesCourse_of_spells {v : Json} (hget : r.metadata.get? Fact.courseId.name = some v)
    (hspells : v.Spells n) : r.NamesCourse := by
  refine ⟨v, hget, ?_⟩
  rintro rfl
  cases hspells

theorem IsCourseNumber.nonneg (h : IsCourseNumber part n) : 0 ≤ n := h.value ▸ Int.natCast_nonneg _

theorem IsCourseNumber.fits64 (h : IsCourseNumber part n) : Text.Fits64 n :=
  ⟨Int.le_trans (by decide) h.nonneg, h.le⟩

theorem partNumber?_eq_some_iff : partNumber? part = some k ↔ IsCourseNumber part k.toInt := by
  simp only [partNumber?, Option.bind_eq_some_iff, Text.digits?_eq_some_iff,
    Text.int64OfInt?_eq_some_iff]
  constructor
  · rintro ⟨m, ⟨hdigits, rfl⟩, hk⟩
    exact ⟨hdigits, hk.symm, (Text.fits64_toInt k).2⟩
  · exact fun h => ⟨_, ⟨h.digits, rfl⟩, h.value.symm⟩

/-- A part that is too large, or not a number, is passed over. -/
theorem partNumber?_eq_none_iff : partNumber? part = none ↔ ∀ m, ¬ IsCourseNumber part m := by
  rw [Option.eq_none_iff_forall_ne_some]
  constructor
  · intro h m hm
    obtain ⟨k, rfl⟩ := hm.fits64.exists_toInt_eq
    exact h k (partNumber?_eq_some_iff.2 hm)
  · exact fun h k hk => h _ (partNumber?_eq_some_iff.1 hk)

/-! ### The course of a request -/

theorem IsAbout.fits64 (h : r.IsAbout n) : Text.Fits64 n := by
  cases h with
  | named _ _ hfits => exact hfits
  | part _ _ hpart _ => exact hpart.fits64

/-- **The course that is found** is the one that the request is about, under its very number. -/
theorem courseId?_eq_some_iff : r.courseId? = some k ↔ r.IsAbout k.toInt := by
  unfold courseId?
  split
  · next v hv =>
    obtain ⟨hget, hnull⟩ := fact?_eq_some_iff.1 hv
    rw [Json.int64?_eq_some_iff, Json.denotes_iff_spells]
    constructor
    · exact fun h => .named hget h (Text.fits64_toInt k)
    · intro h
      cases h with
      | named hget' hspells _ => exact Option.some.inj (hget.symm.trans hget') ▸ hspells
      | part hnone => exact absurd ⟨v, hget, hnull⟩ hnone
  · next hnone =>
    rw [List.findSome?_eq_some_iff]
    simp only [partNumber?_eq_some_iff, partNumber?_eq_none_iff]
    constructor
    · rintro ⟨front, part, back, hparts, hpart, hfront⟩
      exact .part (fact?_eq_none_iff.1 hnone) (Text.pieces_iff.2 hparts.symm) hpart hfront
    · intro h
      cases h with
      | named hget hspells _ =>
        exact absurd (namesCourse_of_spells hget hspells) (fact?_eq_none_iff.1 hnone)
      | part _ hparts hpart hfront =>
        exact ⟨_, _, _, (Text.pieces_iff.1 hparts).symm, hpart, hfront⟩

theorem courseId?_eq_none_iff : r.courseId? = none ↔ ∀ n, ¬ r.IsAbout n := by
  rw [Option.eq_none_iff_forall_ne_some]
  constructor
  · intro h n hn
    obtain ⟨k, rfl⟩ := hn.fits64.exists_toInt_eq
    exact h k (courseId?_eq_some_iff.2 hn)
  · exact fun h k hk => h _ (courseId?_eq_some_iff.1 hk)

/-- Where the course of a request is found. -/
structure LocatesCourse (r : Request) : Prop where
  /-- The course that is found is the one that the request is about: the number is read as it
  stands. -/
  some_iff : ∀ k : Int64, r.courseId? = some k ↔ r.IsAbout k.toInt
  /-- None is found exactly when the request is about none. -/
  none_iff : r.courseId? = none ↔ ∀ n, ¬ r.IsAbout n
  /-- Where a fact names the course, the resource does not count, whatever it holds. -/
  named : r.NamesCourse → ∀ resource : String,
    ({ r with resource := resource } : Request).courseId? = r.courseId?
  /-- A number that is found in the resource is not negative. -/
  unnamed : ¬ r.NamesCourse → ∀ k : Int64, r.courseId? = some k → 0 ≤ k.toInt

/-- **The course of a request** is the one that a fact names, or, where none does, the first that
the resource has the number of. -/
theorem locatesCourse (r : Request) : LocatesCourse r where
  some_iff _ := courseId?_eq_some_iff
  none_iff := courseId?_eq_none_iff
  named hnamed resource := by
    obtain ⟨v, hv⟩ := hnamed
    have hfact : r.fact? .courseId = some v := fact?_eq_some_iff.2 hv
    have hfact' : ({ r with resource := resource } : Request).fact? .courseId = some v := hfact
    rw [courseId?, courseId?, hfact, hfact']
  unnamed hnone k hk := by
    cases courseId?_eq_some_iff.1 hk with
    | named hget hspells _ => exact absurd (namesCourse_of_spells hget hspells) hnone
    | part _ _ hpart _ => exact hpart.nonneg

/-- A number that no course can have is passed over, and the next one counts. -/
example : (Request.new "r" "t" "course/99999999999999999999/9/enroll" "enroll").courseId? =
    some 9 := by decide

end Request

end Registrar
