import Registrar.Proofs.Facts
import Registrar.Proofs.PeriodText
import Registrar.Stage.Authoring
import Registrar.Stage.Enrollment

/-!
# Labels of periods

The stages note a period by its label.  A label has as many digits as its year needs, but a year is
read only when it has four of them.  So labels of the years from 1000 to 9999 are read back, and
those of other years are not, although a text can name them with zeros in front.

* `Period.read_label_iff`: which labels are read back.
* `Period.restored`: **a label stands for the period that it was written for** from the year 1000
  on: the stages make of it what they make of the text that named the period first.  An earlier
  period is lost in its label.
* `Period.not_restored`: a course of the year 26 is closed to enrollment, but not when its label is
  put on the records.
-/

namespace Registrar

/-! ### The digits of a year -/

namespace Text

theorem toList_numeral_of_nonneg {n : Int} (h : 0 ≤ n) :
    (numeral n).toList = Nat.toDigits 10 n.toNat := by
  have habs : n.natAbs = n.toNat := by omega
  rw [numeral, String.toList_ofList, if_neg (by omega), List.nil_append, habs]

theorem toList_numeral_of_neg {n : Int} (h : n < 0) :
    (numeral n).toList = '-' :: Nat.toDigits 10 n.natAbs := by
  rw [numeral, String.toList_ofList, if_pos h]
  rfl

theorem isBlank_of_mem_numeral {n : Int} {c : Char} (hc : c ∈ (numeral n).toList) :
    isBlank c = false := by
  have hdigit : ∀ k, c ∈ Nat.toDigits 10 k → isBlank c = false := by
    intro k hk
    rw [Bool.eq_false_iff]
    intro hblank
    have hd := (isDigits_toDigits k).isDigit c hk
    rw [isDigit_eq_false_of_isBlank hblank] at hd
    cases hd
  rcases Int.lt_or_le n 0 with hneg | hnonneg
  · rw [toList_numeral_of_neg hneg, List.mem_cons] at hc
    rcases hc with rfl | hc
    · decide
    · exact hdigit _ hc
  · exact hdigit _ (toList_numeral_of_nonneg hnonneg ▸ hc)

end Text

namespace Period

variable {p q : Period} {raw : String}

theorem length_toDigits_eq_four_iff {n : Nat} :
    (Nat.toDigits 10 n).length = 4 ↔ 1000 ≤ n ∧ n ≤ 9999 := by
  have hle := Nat.length_toDigits_le_iff (b := 10) (n := n) (k := 4) (by decide) (by decide)
  have hlt := Nat.length_toDigits_le_iff (b := 10) (n := n) (k := 3) (by decide) (by decide)
  omega

theorem isYear_numeral_iff {n : Int} :
    IsYear (Text.numeral n).toList ↔ 1000 ≤ n ∧ n ≤ 9999 := by
  rcases Int.lt_or_le n 0 with hneg | hnonneg
  · rw [Text.toList_numeral_of_neg hneg]
    constructor
    · intro h
      exact absurd (h.isDigit '-' List.mem_cons_self) (by decide)
    · omega
  · rw [Text.toList_numeral_of_nonneg hnonneg]
    have hlength := length_toDigits_eq_four_iff (n := n.toNat)
    constructor
    · intro h
      have := hlength.1 h.length
      omega
    · intro h
      exact ⟨hlength.2 (by omega), (Text.isDigits_toDigits _).isDigit⟩

/-! ### Labels -/

theorem named_label (t : Term) : t.Named t.label.toList := by
  cases t <;> decide +kernel

theorem written_label (p : Period) :
    Written p.label p.term.label.toList (Text.numeral p.year).toList where
  text := ⟨[], ' ', [], nofun, by decide, nofun, by simp [label]⟩
  ne_nil := by
    rcases Int.lt_or_le p.year 0 with hneg | hnonneg
    · simp [Text.toList_numeral_of_neg hneg]
    · simp [Text.toList_numeral_of_nonneg hnonneg]
  solid _ := Text.isBlank_of_mem_numeral

/-- **Which labels are read back**: those of years with four digits. -/
theorem read_label_iff : read p.label = .ok p ↔ 1000 ≤ p.year ∧ p.year ≤ 9999 := by
  rw [read_eq_ok_iff_of_written (written_label p), isYear_numeral_iff]
  constructor
  · exact fun h => h.2.1
  · intro h
    refine ⟨named_label p.term, h, ?_⟩
    rw [Text.toList_numeral_of_nonneg (by omega), Nat.ofDigitChars_ten_toDigits]
    omega

theorem read_label_of_not (hnonneg : 0 ≤ p.year) (h : ¬ (1000 ≤ p.year ∧ p.year ≤ 9999)) :
    read p.label = .error (.invalidYear (Text.numeral p.year)) := by
  have hname : p.term.label.toList.dropWhile Text.isBlank = p.term.label.toList := by
    cases p.term <;> decide
  have hlast : Text.LastWord (Text.trimChars p.label.toList) p.term.label.toList
      (Text.numeral p.year).toList := by
    rcases (written_label p).trimmed with ⟨hnil, -⟩ | hlast
    · have hblank := List.dropWhile_eq_nil_iff.1 hnil
      exact absurd (named_label p.term) (Term.not_named_of_blank hblank)
    · rwa [hname] at hlast
  have hdigits : ∀ c ∈ (Text.numeral p.year).toList, c.isDigit = true := by
    rw [Text.toList_numeral_of_nonneg hnonneg]
    exact (Text.isDigits_toDigits _).isDigit
  have hlabel := Says.length hlast (named_label p.term) hdigits
    fun hlength => h (isYear_numeral_iff.1 ⟨hlength, hdigits⟩)
  rw [String.ofList_toList] at hlabel
  exact hlabel.read_eq

/-! ### What the stages make of a label -/

/-- What becomes of a period, read from the text, when it is written down by its label. -/
structure Restored (raw : String) (p : Period) : Prop where
  /-- It is read back exactly from the year 1000 on. -/
  read_label_iff : read p.label = .ok p ↔ 1000 ≤ p.year
  /-- Then a course on whose record it stands is as open to enrollment as before, -/
  schedule : 1000 ≤ p.year → ∀ today course r,
    Stage.scheduleReply today course (some p.label) r =
      Stage.scheduleReply today course (some raw) r
  /-- and a request that names it is answered in the same way when it authors a course. -/
  authoring : 1000 ≤ p.year → ∀ today (r : Request),
    (Stage.periodReply today (r.note .periodRequested (.string p.label))).outcome =
      (Stage.periodReply today (r.note .periodRequested (.string raw))).outcome
  /-- In an earlier year its label says nothing, and a course on whose record it stands is never
  closed. -/
  lost : p.year < 1000 → read p.label = .error (.invalidYear (Text.numeral p.year)) ∧
    ∀ today course r, Stage.scheduleReply today course (some p.label) r = .proceed r

theorem outcome_periodReply_congr {raw' : String} (h : read raw' = read raw) (today : Date)
    (r : Request) :
    (Stage.periodReply today (r.note .periodRequested (.string raw'))).outcome =
      (Stage.periodReply today (r.note .periodRequested (.string raw))).outcome := by
  have hfact (raw : String) : (r.note .periodRequested (.string raw)).fact? .periodRequested =
      some (.string raw) := r.fact?_note_self _ rfl
  have hauthors (v : Json) : (r.note .periodRequested v).authors = r.authors := rfl
  unfold Stage.periodReply
  rw [hfact, hfact, hauthors, hauthors]
  split
  · simp only [h]
    split
    · unfold Stage.openPeriodReply
      split <;> rfl
    · rfl
  · rfl

/-- **A label stands for the period that it was written for** from the year 1000 on. -/
theorem restored (h : read raw = .ok p) : Restored raw p := by
  obtain ⟨hnonneg, hlt⟩ := (legible raw).year_lt p h
  have hiff : read p.label = .ok p ↔ 1000 ≤ p.year := by
    rw [read_label_iff]
    omega
  have hsame (hyear : 1000 ≤ p.year) : read p.label = read raw := (hiff.2 hyear).trans h.symm
  refine ⟨hiff, fun hyear today course r => ?_, fun hyear => ?_, fun hyear => ?_⟩
  · rw [Stage.scheduleReply, Stage.scheduleReply, Option.map_some, Option.map_some, hsame hyear]
  · exact outcome_periodReply_congr (hsame hyear)
  · have hread := read_label_of_not hnonneg (by omega)
    refine ⟨hread, fun today course r => ?_⟩
    rw [Stage.scheduleReply, Option.map_some, hread]

/-- The label is in English, whatever the text. -/
theorem restored_small : read " agosto - DICIEMBRE 2025" = .ok ⟨2025, .b⟩ ∧
    Restored " agosto - DICIEMBRE 2025" ⟨2025, .b⟩ ∧
      read "August-December 2025" = .ok ⟨2025, .b⟩ := by
  have h : read " agosto - DICIEMBRE 2025" = .ok ⟨2025, .b⟩ := by decide +kernel
  have hrestored := restored h
  exact ⟨h, hrestored, hrestored.read_label_iff.2 (by decide)⟩

/-- **The year 26 is lost in its label**: it can be named with zeros in front, and ever after a
course of that year is closed to enrollment, but not when its label is put on the records. -/
theorem not_restored :
    read "January-June 0026" = .ok ⟨26, .a⟩ ∧ label ⟨26, .a⟩ = "January-June 26" ∧
      read (label ⟨26, .a⟩) = .error (.invalidYear "26") ∧
      ∀ (today : Date) course r, 26 < today.year →
        (Stage.scheduleReply today course (some "January-June 0026") r).outcome ≠ .proceed ∧
        (Stage.scheduleReply today course (some (label ⟨26, .a⟩)) r).outcome = .proceed := by
  have hnamed : read "January-June 0026" = .ok ⟨26, .a⟩ := by decide +kernel
  have hlost : read (label ⟨26, .a⟩) = .error (.invalidYear "26") := by decide +kernel
  refine ⟨hnamed, by decide +kernel, hlost, fun today course r hlater => ⟨?_, ?_⟩⟩
  · have hended : hasEnded ⟨26, .a⟩ today = true := by simp [hasEnded, hlater]
    rw [Stage.scheduleReply, Option.map_some, hnamed]
    simp only [hended, if_true]
    nofun
  · rw [Stage.scheduleReply, Option.map_some, hlost]
    rfl

end Period

end Registrar
