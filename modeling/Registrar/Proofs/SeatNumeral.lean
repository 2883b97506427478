import Registrar.Proofs.Enacting
import Registrar.Proofs.WholeNumber

/-!
# Seats in variables

The number of seats in a variable comes through two readers, of JSON and of numerals with a sign,
and then has to fit 32 bits.  On no way does it wrap around or become another number, and a text that
stands for no number of seats stops the loading before anything is changed.

* `Setting.SetsSeats`: the paths at which a setting sets a number of seats.
* `Setting.exists_numeral_of_seats`: **a text that is a number of seats is a numeral of it.**
* `Setting.seats_digits`: **digits are a number of seats**, with zeros in front or none, if it fits.
* `Setting.guardsSeats`: what becomes of the texts in a variable that sets a number of seats.
-/

namespace Registrar

open Text (IsDigits IsNumeral)

namespace Setting

/-! ### Texts for a number of seats -/

theorem eq_int_of_canonical {v : Json} {k : Int} (h : v.canonical.integer? = some k) :
    v = .int k := by
  cases v with
  | number n =>
    cases n with
    | integer m => exact congrArg Json.int (Option.some.inj h)
    | double x => cases h
  | _ => cases h

theorem exists_numeral_of_valueOf {raw : String} {k : Int}
    (h : (valueOf raw).integer? = some k) :
    ∃ u core v, (∀ c ∈ u, Json.Token.isSpace c = true) ∧
      (∀ c ∈ v, Json.Token.isSpace c = true) ∧ raw.toList = u ++ core ++ v ∧ IsNumeral core k := by
  unfold valueOf at h
  split at h
  · cases h
  · split at h
    · next v hread =>
      obtain rfl := eq_int_of_canonical h
      exact Json.exists_numeral_of_read? hread
    · split at h
      · next n hn =>
        obtain rfl : n.toInt = k := Option.some.inj h
        obtain ⟨m, hm, hfits⟩ := Option.bind_eq_some_iff.1 hn
        obtain rfl := Text.toInt_of_int64OfInt? hfits
        exact ⟨[], raw.toList, [], nofun, nofun, by simp, Text.signed?_eq_some_iff.1 hm⟩
      · cases h

theorem integer?_of_seats {v : Json} {n : UInt32} (h : seats v = .ok n) :
    v.integer? = some (n.toNat : Int) := by
  unfold seats at h
  split at h
  · next k hk =>
    split at h
    · cases h
    · split at h
      · next w hw =>
        obtain rfl := Except.ok.inj h
        rw [hk, Text.toNat_of_word32OfInt? hw]
      · cases h
  · cases h

/-- **A text that is a number of seats is a numeral of it**, between blanks. -/
theorem exists_numeral_of_seats {raw : String} {n : UInt32} (h : seats (valueOf raw) = .ok n) :
    ∃ u core v, (∀ c ∈ u, Json.Token.isSpace c = true) ∧
      (∀ c ∈ v, Json.Token.isSpace c = true) ∧ raw.toList = u ++ core ++ v ∧
        IsNumeral core n.toNat :=
  exists_numeral_of_valueOf (integer?_of_seats h)

/-- **Digits are a number of seats** when it fits 32 bits. -/
theorem seats_digits {cs : List Char} {n : UInt32} (hdigits : IsDigits cs)
    (h : Nat.ofDigitChars 10 cs 0 = n.toNat) : seats (valueOf (.ofList cs)) = .ok n := by
  have hlt := n.toNat_lt
  rw [valueOf_digits hdigits (by omega), h, seats_int]

/-! ### Settings for a number of seats -/

/-- At the path, a setting sets a number of seats, which is this change. -/
inductive SetsSeats : String → (UInt32 → Change) → Prop
  /-- The seats of all modalities without a limit of their own. -/
  | defaultLimit : SetsSeats "capacity.default_limit" .defaultLimit
  /-- The seats of one modality, which may be written in any way. -/
  | limit {m : String} : m ≠ "" → SetsSeats ("capacity.limits." ++ m) (.limit (Modality.read m).key)

variable {path : String} {make : UInt32 → Change}

theorem SetsSeats.change_eq (h : SetsSeats path make) (v : Json) :
    (⟨path, v⟩ : Setting).change = (seats v).map make := by
  cases h with
  | defaultLimit => rfl
  | @limit m hm =>
    have hother (x : Target) (hx : x ≠ .limit m) : "capacity.limits." ++ m ≠ x.path := fun hpath =>
      hx (Target.path_injective (y := .limit m) hpath.symm)
    rw [change, if_neg (hother .defaultLimit (by simp)),
      if_neg (hother .unresolvedCourse (by simp))]
    dsimp only
    rw [String.toList_append, Text.after?_append]
    dsimp only
    rw [String.ofList_toList, limitChange, if_neg hm]
    cases seats v <;> rfl

theorem SetsSeats.injective (h : SetsSeats path make) {n n' : UInt32} (hn : make n = make n') :
    n = n' := by
  cases h with
  | defaultLimit => exact Change.defaultLimit.inj hn
  | limit => exact (Change.limit.inj hn).2

theorem SetsSeats.change_eq_ok_iff (h : SetsSeats path make) {v : Json} {n : UInt32} :
    (⟨path, v⟩ : Setting).change = .ok (make n) ↔ seats v = .ok n := by
  rw [h.change_eq]
  cases seats v with
  | error e => simp [Except.map]
  | ok n' =>
    simp only [Except.map, Except.ok.injEq]
    exact ⟨h.injective, congrArg make⟩

theorem mem_list {env : Environment} {name raw : String} (hmem : (name, raw) ∈ env)
    (hpath : path? name = some path) : ⟨path, valueOf raw⟩ ∈ list env := by
  rw [list, List.mem_mergeSort]
  exact List.mem_filterMap.2 ⟨_, hmem, by simp [hpath]⟩

end Setting

theorem Tables.exists_load_error {env : Environment} {s : Setting} {e : LoadError}
    (hmem : s ∈ Setting.list env) (h : s.change = .error e) (files : List FileContent) :
    ∃ e', load files (some env) = .error e' := by
  obtain ⟨e', hsettings⟩ := Setting.exists_error_of_mem hmem h
  have henv : environmentChanges env = .error e' := by
    rw [environmentChanges, hsettings]
    rfl
  cases hfiles : files.mapM fileChanges with
  | error e => exact ⟨e, by rw [load, hfiles]; rfl⟩
  | ok fromFiles =>
    refine ⟨e', ?_⟩
    simp only [load, hfiles, henv, bind, Except.bind]

namespace Setting

/-- A variable whose setting is at the path, and for which this is the change, sets the number of
seats that is written in it, or stops the loading and changes nothing. -/
structure GuardsSeats (path : String) (make : UInt32 → Change) : Prop where
  /-- A text that is accepted with a number is, apart from blanks around it, a numeral of that
  number: digits, with a sign or none. -/
  numeral : ∀ raw n, (⟨path, valueOf raw⟩ : Setting).change = .ok (make n) →
    ∃ u core v, (∀ c ∈ u, Json.Token.isSpace c = true) ∧
      (∀ c ∈ v, Json.Token.isSpace c = true) ∧ raw.toList = u ++ core ++ v ∧
        IsNumeral core n.toNat
  /-- Digits, also with zeros in front of them, are accepted with their number if it fits 32 bits. -/
  digits : ∀ cs, IsDigits cs → Nat.ofDigitChars 10 cs 0 ≤ 4294967295 →
    ∃ n : UInt32, n.toNat = Nat.ofDigitChars 10 cs 0 ∧
      (⟨path, valueOf (.ofList cs)⟩ : Setting).change = .ok (make n)
  /-- An accepted number is put into force, and noted. -/
  accepted : ∀ raw n, (⟨path, valueOf raw⟩ : Setting).change = .ok (make n) →
    ∀ source t, enact source ⟨path, valueOf raw⟩ t = .ok () (t.apply source (make n))
  /-- A text that is not accepted is an error, which leaves all of the tables as they were. -/
  refused : ∀ raw, (∀ n, (⟨path, valueOf raw⟩ : Setting).change ≠ .ok (make n)) →
    ∃ e, ∀ source t, enact source ⟨path, valueOf raw⟩ t = .error e t
  /-- In a row of settings, it leaves them as the ones before it made them, and stops the row. -/
  stops : ∀ raw, (∀ n, (⟨path, valueOf raw⟩ : Setting).change ≠ .ok (make n)) →
    ∃ e, ∀ source t before after cs, before.mapM change = .ok cs →
      enactAll source (before ++ ⟨path, valueOf raw⟩ :: after) t = .error e (t.applyAll source cs)
  /-- With it in the environment, nothing can be loaded. -/
  fails : ∀ raw, (∀ n, (⟨path, valueOf raw⟩ : Setting).change ≠ .ok (make n)) →
    ∀ files env name, (name, raw) ∈ env → path? name = some path →
      ∃ e, Tables.load files (some env) = .error e

theorem SetsSeats.exists_error {path : String} {make : UInt32 → Change} (h : SetsSeats path make)
    {v : Json} (hnot : ∀ n, (⟨path, v⟩ : Setting).change ≠ .ok (make n)) :
    ∃ e, (⟨path, v⟩ : Setting).change = .error e := by
  rw [h.change_eq] at hnot ⊢
  cases hv : seats v with
  | error e => exact ⟨e, rfl⟩
  | ok n =>
    rw [hv] at hnot
    exact absurd rfl (hnot n)

/-- **Seats in variables** never become another number: a text is accepted only with the number that
is written in it, every row of digits is accepted whose number fits, and any other text is refused
without a change. -/
theorem guardsSeats {path : String} {make : UInt32 → Change} (h : SetsSeats path make) :
    GuardsSeats path make where
  numeral raw n hn := exists_numeral_of_seats (h.change_eq_ok_iff.1 hn)
  digits cs hdigits hfits := by
    have hvalue : (UInt32.ofNat (Nat.ofDigitChars 10 cs 0)).toNat = Nat.ofDigitChars 10 cs 0 :=
      UInt32.toNat_ofNat_of_lt' (by simp [UInt32.size]; omega)
    exact ⟨_, hvalue, h.change_eq_ok_iff.2 (seats_digits hdigits hvalue.symm)⟩
  accepted raw n hn source t := enact_of_ok hn
  refused raw hnot := by
    obtain ⟨e, he⟩ := h.exists_error hnot
    exact ⟨e, fun source t => enact_of_error he⟩
  stops raw hnot := by
    obtain ⟨e, he⟩ := h.exists_error hnot
    exact ⟨e, fun source t before after cs hbefore => enactAll_of_error hbefore he after⟩
  fails raw hnot files env name hmem hpath := by
    obtain ⟨e, he⟩ := h.exists_error hnot
    exact Tables.exists_load_error (mem_list hmem hpath) he files

/-- The variable that sets the seats of all modalities without a limit of their own. -/
def smallVariable : String := "COURSEGATE_POLICY__CAPACITY__DEFAULT_LIMIT"

/-- In that variable, `007` is seven seats, and the first number beyond 32 bits does not become
nought but stops the loading. -/
theorem guardsSeats_small :
    SetsSeats "capacity.default_limit" .defaultLimit ∧
      GuardsSeats "capacity.default_limit" .defaultLimit ∧
      (∃ n : UInt32, n.toNat = 7 ∧
        (⟨"capacity.default_limit", valueOf "007"⟩ : Setting).change = .ok (.defaultLimit n)) ∧
      ∃ e, Tables.load [] (some [(smallVariable, "4294967296")]) = .error e := by
  have hguards := guardsSeats .defaultLimit
  obtain ⟨hseven, hvalue⟩ := Text.digits?_eq_some_iff.1
    (show Text.digits? "007".toList = some 7 by decide +kernel)
  obtain ⟨hlarge, htoo⟩ := Text.digits?_eq_some_iff.1
    (show Text.digits? "4294967296".toList = some 4294967296 by decide +kernel)
  refine ⟨.defaultLimit, hguards, ?_, ?_⟩
  · rw [← hvalue]
    exact hguards.digits _ hseven (by omega)
  · refine hguards.fails "4294967296" (fun n hn => ?_) [] _ smallVariable List.mem_cons_self
      (by decide +kernel)
    have hread : valueOf "4294967296" = .int 4294967296 := by
      have hdigits := valueOf_digits hlarge (by omega)
      rwa [htoo] at hdigits
    rw [SetsSeats.defaultLimit.change_eq, hread] at hn
    cases hn

end Setting

end Registrar
