import Registrar.Modality
import Registrar.Policy.Tables

/-!
# Normal forms of names

Names reach the tables trimmed and, where letter case does not matter, in lower case.  What is in
this form already is not changed by being brought into it again, so an entry that is kept under a
normal form is found under it.

* `Text.Trimmed`: there are no blanks at the ends; `Text.trimChars_eq_iff` says that trimming gets
  there and takes away nothing but blanks.
* `Text.CaseRun.clear`, `Text.clear_lowerRuns`: lower-case forms have no lower-case forms of their
  own, read off the table of letter case run by run.
* `Text.lowercase_lowercase`, `Text.Trimmed.lowercase`: **lower case is final, and makes no
  blanks.**
* `actionKey_actionKey`, `Modality.read_key_read`: the normal forms of actions and of modalities
  are their own.
-/

namespace Registrar

namespace Text

/-! ### Trimming -/

/-- There are no blanks at the ends. -/
structure Trimmed (cs : List Char) : Prop where
  /-- The first character is none. -/
  first : ∀ c, cs.head? = some c → isBlank c = false
  /-- The last character is none. -/
  last : ∀ c, cs.getLast? = some c → isBlank c = false

theorem isBlank_of_head?_dropWhile {cs : List Char} {c : Char}
    (h : (cs.dropWhile isBlank).head? = some c) : isBlank c = false := by
  have hhead := List.head?_dropWhile_not isBlank cs
  rwa [h] at hhead

theorem trimmed_trimChars (cs : List Char) : Trimmed (trimChars cs) := by
  constructor
  · intro c hc
    -- What is left in the end is the beginning of what is left after the first cut.
    obtain ⟨rest, hrest⟩ : trimChars cs <+: cs.dropWhile isBlank := by
      rw [← List.reverse_suffix, trimChars, List.reverse_reverse]
      exact List.dropWhile_suffix isBlank
    have hhead : (cs.dropWhile isBlank).head? = some c := by
      rw [← hrest, List.head?_append, hc, Option.some_or]
    exact isBlank_of_head?_dropWhile hhead
  · intro c hc
    rw [trimChars, List.getLast?_reverse] at hc
    exact isBlank_of_head?_dropWhile hc

theorem dropWhile_isBlank_eq_self {cs : List Char}
    (h : ∀ c, cs.head? = some c → isBlank c = false) : cs.dropWhile isBlank = cs := by
  cases cs with
  | nil => rfl
  | cons c cs =>
    have hc := h c rfl
    rw [List.dropWhile_cons_of_neg (by simp [hc])]

theorem Trimmed.trimChars_eq {cs : List Char} (h : Trimmed cs) : trimChars cs = cs := by
  have hreverse : ∀ c, cs.reverse.head? = some c → isBlank c = false := by
    intro c hc
    rw [List.head?_reverse] at hc
    exact h.last c hc
  rw [trimChars, dropWhile_isBlank_eq_self h.first, dropWhile_isBlank_eq_self hreverse,
    List.reverse_reverse]

/-- **What is left after trimming** is what stands between the blanks at the two ends. -/
theorem trimChars_eq_iff {cs core : List Char} : trimChars cs = core ↔
    Trimmed core ∧ ∃ u v, (∀ c ∈ u, isBlank c = true) ∧ (∀ c ∈ v, isBlank c = true) ∧
      cs = u ++ core ++ v := by
  constructor
  · rintro rfl
    exact ⟨trimmed_trimChars cs, exists_pad_trimChars cs⟩
  · rintro ⟨hcore, u, v, hu, hv, rfl⟩
    rw [trimChars_pad core hu hv, hcore.trimChars_eq]

theorem Trimmed.trimChars_append_left {u cs : List Char} (h : Trimmed cs)
    (hu : ∀ c ∈ u, isBlank c = true) : trimChars (u ++ cs) = cs :=
  trimChars_eq_iff.2 ⟨h, u, [], hu, nofun, by rw [List.append_nil]⟩

theorem Trimmed.trim_ofList {cs : List Char} (h : Trimmed cs) : trim (.ofList cs) = .ofList cs := by
  rw [trim, String.toList_ofList, h.trimChars_eq]

theorem trimmed_of_solid {cs : List Char} (h : ∀ c ∈ cs, isBlank c = false) : Trimmed cs :=
  ⟨fun c hc => h c (List.mem_of_head? hc), fun c hc => h c (List.mem_of_getLast? hc)⟩

/-- Only the first and the last character count. -/
theorem trimmed_append {front back : List Char} (middle : List Char) (hfront : front ≠ [])
    (hfirst : ∀ c, front.head? = some c → isBlank c = false) (hback : back ≠ [])
    (hlast : ∀ c, back.getLast? = some c → isBlank c = false) :
    Trimmed (front ++ middle ++ back) := by
  constructor
  · intro c hc
    rw [List.append_assoc, List.head?_append, Option.or_eq_left_of_isSome (by simpa using hfront)]
      at hc
    exact hfirst c hc
  · intro c hc
    rw [List.getLast?_append, Option.or_eq_left_of_isSome (by simpa using hback)] at hc
    exact hlast c hc

/-- **Trimming is final.** -/
theorem trim_trim (s : String) : trim (trim s) = trim s := (trimmed_trimChars s.toList).trim_ofList

/-! ### Letters from `A` to `Z` -/

theorem toNat_toLower (c : Char) :
    c.toLower.toNat = if 65 ≤ c.toNat ∧ c.toNat ≤ 90 then c.toNat + 32 else c.toNat := by
  have hbounds : (c.val ≥ 'A'.val ∧ c.val ≤ 'Z'.val) ↔ 65 ≤ c.toNat ∧ c.toNat ≤ 90 := by
    simp only [ge_iff_le, UInt32.le_iff_toNat_le]
    exact Iff.rfl
  unfold Char.toLower
  split
  · next h =>
    have hle := (hbounds.1 h).2
    have hval : c.val.toNat = c.toNat := rfl
    have hshift : ('a'.val - 'A'.val).toNat = 32 := rfl
    rw [if_pos (hbounds.1 h)]
    change (c.val + ('a'.val - 'A'.val)).toNat = c.val.toNat + 32
    rw [UInt32.toNat_add, hshift, Nat.mod_eq_of_lt (by omega)]
  · next h => rw [if_neg (mt hbounds.2 h)]

theorem toLower_toLower (c : Char) : c.toLower.toLower = c.toLower := by
  have h := toNat_toLower c
  rw [← Char.toNat_inj, toNat_toLower c.toLower, if_neg]
  split at h <;> omega

/-- What is the same of each letter from `A` to `Z` in both cases is the same of every character and
its lower-case form. -/
theorem apply_toLower {α : Type} {f : Char → α}
    (h : ∀ k < 26, f (Char.ofNat (k + 97)) = f (Char.ofNat (k + 65))) (c : Char) :
    f c.toLower = f c := by
  have hlower := toNat_toLower c
  split at hlower
  · next hupper =>
    have hlarge : c = Char.ofNat (c.toNat - 65 + 65) := by
      rw [Nat.sub_add_cancel hupper.1, Char.ofNat_toNat]
    have hsmall : c.toLower = Char.ofNat (c.toNat - 65 + 97) := by
      rw [← Char.ofNat_toNat (c := c.toLower), hlower]
      congr 1
      omega
    have hletter := h (c.toNat - 65) (by omega)
    rwa [← hlarge, ← hsmall] at hletter
  · rw [Char.toNat_inj.1 hlower]

theorem isBlank_toLower (c : Char) : isBlank c.toLower = isBlank c := apply_toLower (by decide) c

theorem trimChars_map_toLower (cs : List Char) :
    trimChars (cs.map Char.toLower) = (trimChars cs).map Char.toLower := by
  have hblank : isBlank ∘ Char.toLower = isBlank := funext isBlank_toLower
  simp only [trimChars, List.dropWhile_map, hblank, ← List.map_reverse]

theorem trim_lowerAscii (s : String) : trim (lowerAscii s) = lowerAscii (trim s) := by
  rw [trim, lowerAscii, lowerAscii, trim, String.toList_ofList, String.toList_ofList,
    trimChars_map_toLower]

theorem lowerAscii_lowerAscii (s : String) : lowerAscii (lowerAscii s) = lowerAscii s := by
  have htwice : Char.toLower ∘ Char.toLower = Char.toLower := funext toLower_toLower
  rw [lowerAscii, lowerAscii, String.toList_ofList, List.map_map, htwice]

theorem Trimmed.map_toLower {cs : List Char} (h : Trimmed cs) : Trimmed (cs.map Char.toLower) := by
  constructor
  · intro d hd
    rw [List.head?_map] at hd
    obtain ⟨c, hc, rfl⟩ := Option.map_eq_some_iff.1 hd
    exact (isBlank_toLower c).trans (h.first c hc)
  · intro d hd
    rw [List.getLast?_map] at hd
    obtain ⟨c, hc, rfl⟩ := Option.map_eq_some_iff.1 hd
    exact (isBlank_toLower c).trans (h.last c hc)

end Text

theorem actionKey_actionKey (action : String) :
    actionKey (actionKey action) = actionKey action := by
  have htrim : Text.trim (actionKey action) = actionKey action := by
    have hlower := (Text.trimmed_trimChars action.toList).map_toLower
    simpa [actionKey, Text.lowerAscii, Text.trim] using hlower.trim_ofList
  calc actionKey (actionKey action) = Text.lowerAscii (Text.trim (actionKey action)) := rfl
    _ = Text.lowerAscii (actionKey action) := by rw [htrim]
    _ = actionKey action := Text.lowerAscii_lowerAscii _

namespace Text

/-! ### Letters of all scripts -/

/-- No lower-case form of a letter in the first run is a letter of the second run: the code points
lie apart, or the runs skip every other one and mesh. -/
def CaseRun.clear (a b : CaseRun) : Bool :=
  Nat.blt (a.target + (a.last - a.first)) b.first || Nat.blt b.last a.target ||
    (b.step == 2 && (a.step == 2 || a.first == a.last) && (a.target + b.first) % 2 == 1)

theorem clear_lowerRuns : (lowerRuns.all fun a => lowerRuns.all a.clear) = true := by
  decide +kernel

/-- The blanks, and the capital I with a dot above. -/
def spared : List (Nat × Nat) :=
  [(0x130, 0x130), (9, 13), (0x20, 0x20), (0x85, 0x85), (0xA0, 0xA0), (0x1680, 0x1680),
    (0x2000, 0x200A), (0x2028, 0x2029), (0x202F, 0x202F), (0x205F, 0x205F), (0x3000, 0x3000)]

theorem spared_lowerRuns :
    (lowerRuns.all fun run => spared.all fun range =>
      Nat.blt (run.target + (run.last - run.first)) range.1 ||
        Nat.blt range.2 run.target) = true := by
  decide +kernel

/-- The character is in lower case for good, if it has a case at all. -/
structure Settled (c : Char) : Prop where
  /-- It is no capital sigma, whose lower-case form depends on its neighbours. -/
  not_sigma : c ≠ 'Σ'
  /-- It is its own lower-case form. -/
  lowerChar_eq : lowerChar c = [c]

theorem lowerChar_of_ne {c : Char} (h : c ≠ '\u0130') : lowerChar c = [lowerLetter c] := by
  rw [lowerChar, if_neg h]

theorem settled_of_forall_not_holds {c : Char} (hdot : c ≠ '\u0130')
    (h : ∀ run ∈ lowerRuns, run.holds c.toNat = false) : Settled c := by
  constructor
  · rintro rfl
    have hsigma : lowerRuns.any (·.holds 'Σ'.toNat) = true := by decide +kernel
    obtain ⟨run, hrun, hholds⟩ := List.any_eq_true.1 hsigma
    rw [h run hrun] at hholds
    cases hholds
  · rw [lowerChar_of_ne hdot, lowerLetter]
    split
    · have hlatin := h ⟨0x41, 0x5A, 1, 0x61⟩ List.mem_cons_self
      have hsame : c.toLower = c := by
        rw [← Char.toNat_inj, toNat_toLower, if_neg]
        simp [CaseRun.holds] at hlatin
        omega
      rw [hsame]
    · have hnone : lowerRuns.find? (·.holds c.toNat) = none := by
        rw [List.find?_eq_none]
        intro run hrun
        simp [h run hrun]
      rw [hnone]

theorem settled_toLower {c : Char} (h : c.toNat < 0x80) : Settled c.toLower := by
  have hlower := toNat_toLower c
  have hlt : c.toLower.toNat < 0x80 := by
    split at hlower <;> omega
  have hne {d : Char} (hd : 0x80 ≤ d.toNat) : c.toLower ≠ d := by
    rintro rfl
    omega
  constructor
  · exact hne (by decide)
  · rw [lowerChar_of_ne (hne (by decide)), lowerLetter, if_pos hlt, toLower_toLower]

theorem toNat_ofNat (n : Nat) : (Char.ofNat n).toNat = n ∨ (Char.ofNat n).toNat = 0 := by
  by_cases hvalid : n.isValidChar
  · rw [Char.ofNat, dif_pos hvalid]
    exact .inl rfl
  · rw [Char.ofNat, dif_neg hvalid]
    exact .inr rfl

/-- What the table gives as a lower-case form lies in none of its runs and is not spared. -/
theorem apart_of_mem_lowerRuns {run : CaseRun} {n : Nat} (hrun : run ∈ lowerRuns)
    (hn : run.holds n = true) :
    (∀ other ∈ lowerRuns, other.holds (run.target + (n - run.first)) = false) ∧
      ∀ range ∈ spared, run.target + (n - run.first) < range.1 ∨
        range.2 < run.target + (n - run.first) := by
  simp only [CaseRun.holds, Bool.and_eq_true, decide_eq_true_eq, beq_iff_eq] at hn
  constructor
  · intro other hother
    have hclear := List.all_eq_true.1 (List.all_eq_true.1 clear_lowerRuns run hrun) other hother
    simp only [CaseRun.clear, Bool.or_eq_true, Bool.and_eq_true, Nat.blt_eq, beq_iff_eq] at hclear
    rw [Bool.eq_false_iff]
    intro hholds
    simp only [CaseRun.holds, Bool.and_eq_true, decide_eq_true_eq, beq_iff_eq] at hholds
    obtain ⟨⟨hfirst, hlast⟩, hstep⟩ := hn
    obtain ⟨⟨hfirst', hlast'⟩, hstep'⟩ := hholds
    rcases hclear with (hbelow | habove) | ⟨⟨htwo', htwo | hsingle⟩, hodd⟩
    · omega
    · omega
    · rw [htwo] at hstep
      rw [htwo'] at hstep'
      omega
    · rw [htwo'] at hstep'
      omega
  · intro range hrange
    have hspared := List.all_eq_true.1 (List.all_eq_true.1 spared_lowerRuns run hrun) range hrange
    simp only [Bool.or_eq_true, Nat.blt_eq] at hspared
    omega

theorem isBlank_eq_false_of_spared {c : Char}
    (h : ∀ range ∈ spared, c.toNat < range.1 ∨ range.2 < c.toNat) : isBlank c = false := by
  simp only [spared, List.forall_mem_cons, List.not_mem_nil, false_imp_iff, implies_true] at h
  simp only [isBlank, Bool.or_eq_false_iff, Bool.and_eq_false_iff, decide_eq_false_iff_not,
    beq_eq_false_iff_ne]
  omega

/-- **The lower-case form of a letter** is settled, and it is no blank unless the letter is one. -/
theorem settled_lowerLetter {c : Char} (hdot : c ≠ '\u0130') :
    Settled (lowerLetter c) ∧ (isBlank c = false → isBlank (lowerLetter c) = false) := by
  unfold lowerLetter
  split
  · next hlt => exact ⟨settled_toLower hlt, (isBlank_toLower c).trans⟩
  · split
    · next run hfind =>
      have hholds := List.find?_some hfind
      obtain ⟨hothers, hspared⟩ :=
        apart_of_mem_lowerRuns (List.mem_of_find?_eq_some hfind) hholds
      generalize run.target + (c.toNat - run.first) = n at hothers hspared
      -- A number that is no code point would stand for the null character, which is settled too.
      rcases toNat_ofNat n with hn | hzero
      · have hnot : Char.ofNat n ≠ '\u0130' := by
          intro heq
          have hval : n = 0x130 := by rw [← hn, heq]; rfl
          have h130 := hspared (0x130, 0x130) List.mem_cons_self
          simp only at h130
          omega
        exact ⟨settled_of_forall_not_holds hnot (hn.symm ▸ hothers),
          fun _ => isBlank_eq_false_of_spared (hn.symm ▸ hspared)⟩
      · obtain hnull : Char.ofNat n = '\x00' := Char.toNat_inj.1 hzero
        rw [hnull]
        exact ⟨settled_toLower (c := '\x00') (by decide), fun _ => by decide⟩
    · next hfind =>
      refine ⟨settled_of_forall_not_holds hdot fun run hrun => ?_, id⟩
      simpa using List.find?_eq_none.1 hfind run hrun

/-! ### Texts of all scripts -/

/-- What becomes of a character does not depend on what becomes of those after it, and it is
settled. -/
theorem exists_lowercaseAfter_cons (before : List Char) (c : Char) (cs : List Char) :
    ∃ piece, piece ≠ [] ∧ (∀ d ∈ piece, Settled d ∧ (isBlank c = false → isBlank d = false)) ∧
      lowercaseAfter before (c :: cs) = piece ++ lowercaseAfter (c :: before) cs := by
  by_cases hsigma : c = 'Σ'
  · have hforms : ∀ d ∈ ['ς', 'σ'], Settled d ∧ (isBlank c = false → isBlank d = false) := by
      have hfinal : lowerChar 'ς' = ['ς'] := by decide +kernel
      have hother : lowerChar 'σ' = ['σ'] := by decide +kernel
      simp only [List.forall_mem_cons, List.not_mem_nil, false_imp_iff, implies_true, and_true]
      exact ⟨⟨⟨by decide, hfinal⟩, fun _ => by decide⟩, ⟨⟨by decide, hother⟩, fun _ => by decide⟩⟩
    refine ⟨[if nearestIsCased before && !nearestIsCased cs then 'ς' else 'σ'], by simp, ?_, ?_⟩
    · rw [List.forall_mem_singleton]
      split
      · exact hforms 'ς' (by simp)
      · exact hforms 'σ' (by simp)
    · rw [lowercaseAfter, if_pos hsigma]
      rfl
  · refine ⟨lowerChar c, ?_, ?_, by rw [lowercaseAfter, if_neg hsigma]⟩
    · unfold lowerChar
      split <;> simp
    · by_cases hdot : c = '\u0130'
      · rw [lowerChar, if_pos hdot]
        have hi : lowerChar 'i' = ['i'] := by decide +kernel
        have habove : lowerChar '\u0307' = ['\u0307'] := by decide +kernel
        simp only [List.forall_mem_cons, List.not_mem_nil, false_imp_iff, implies_true, and_true]
        exact ⟨⟨⟨by decide, hi⟩, fun _ => by decide⟩, ⟨⟨by decide, habove⟩, fun _ => by decide⟩⟩
      · rw [lowerChar_of_ne hdot, List.forall_mem_singleton]
        exact settled_lowerLetter hdot

theorem settled_of_mem_lowercaseAfter {cs : List Char} (before : List Char) :
    ∀ d ∈ lowercaseAfter before cs, Settled d := by
  induction cs generalizing before with
  | nil => simp [lowercaseAfter]
  | cons c cs ih =>
    obtain ⟨piece, -, hpiece, heq⟩ := exists_lowercaseAfter_cons before c cs
    intro d hd
    rw [heq, List.mem_append] at hd
    rcases hd with hd | hd
    · exact (hpiece d hd).1
    · exact ih (c :: before) d hd

theorem lowercaseAfter_of_settled {cs : List Char} (h : ∀ c ∈ cs, Settled c)
    (before : List Char) : lowercaseAfter before cs = cs := by
  induction cs generalizing before with
  | nil => rfl
  | cons c cs ih =>
    obtain ⟨hc, hcs⟩ := List.forall_mem_cons.1 h
    rw [lowercaseAfter, if_neg hc.not_sigma, hc.lowerChar_eq, ih hcs]
    rfl

/-- **Lower case is final.** -/
theorem lowercase_lowercase (s : String) : lowercase (lowercase s) = lowercase s := by
  rw [lowercase, lowercase, String.toList_ofList,
    lowercaseAfter_of_settled (settled_of_mem_lowercaseAfter [])]

theorem lowerChar_toLower (c : Char) : lowerChar c.toLower = lowerChar c :=
  apply_toLower (by decide +kernel) c

theorem nearestIsCased_map_toLower (cs : List Char) :
    nearestIsCased (cs.map Char.toLower) = nearestIsCased cs := by
  have hignored : inRanges caseIgnorableRanges ∘ Char.toLower = inRanges caseIgnorableRanges :=
    funext fun c => apply_toLower (by decide +kernel) c
  rw [nearestIsCased, nearestIsCased, List.dropWhile_map, hignored]
  cases cs.dropWhile (inRanges caseIgnorableRanges) with
  | nil => rfl
  | cons c cs => exact apply_toLower (f := inRanges casedRanges) (by decide +kernel) c

theorem lowercaseAfter_map_toLower (before cs : List Char) :
    lowercaseAfter (before.map Char.toLower) (cs.map Char.toLower) = lowercaseAfter before cs := by
  induction cs generalizing before with
  | nil => rfl
  | cons c cs ih =>
    have hsigma : decide (c.toLower = 'Σ') = decide (c = 'Σ') :=
      apply_toLower (f := fun d => decide (d = 'Σ')) (by decide) c
    have hrest : lowercaseAfter (c.toLower :: before.map Char.toLower) (cs.map Char.toLower) =
        lowercaseAfter (c :: before) cs := ih (c :: before)
    rw [List.map_cons, lowercaseAfter, lowercaseAfter, hrest, nearestIsCased_map_toLower,
      nearestIsCased_map_toLower, lowerChar_toLower]
    simp only [decide_eq_decide.1 hsigma]

/-- **Lower case does not depend** on the case of the letters from `A` to `Z`. -/
theorem lowercase_lowerAscii (s : String) : lowercase (lowerAscii s) = lowercase s := by
  rw [lowercase, lowercase, lowerAscii, String.toList_ofList]
  exact congrArg String.ofList (lowercaseAfter_map_toLower [] s.toList)

theorem isBlank_getLast?_lowercaseAfter {cs : List Char} (before : List Char)
    (h : ∀ c, cs.getLast? = some c → isBlank c = false) :
    ∀ d, (lowercaseAfter before cs).getLast? = some d → isBlank d = false := by
  induction cs generalizing before with
  | nil => intro d hd; cases hd
  | cons c cs ih =>
    intro d hd
    obtain ⟨piece, -, hpiece, heq⟩ := exists_lowercaseAfter_cons before c cs
    rw [heq] at hd
    cases cs with
    | nil =>
      rw [lowercaseAfter, List.append_nil] at hd
      exact (hpiece d (List.mem_of_getLast? hd)).2 (h c rfl)
    | cons c' cs =>
      obtain ⟨piece', hne, -, heq'⟩ := exists_lowercaseAfter_cons (c :: before) c' cs
      have hrest : (lowercaseAfter (c :: before) (c' :: cs)).getLast? = some d := by
        rw [← hd, List.getLast?_append, eq_comm, Option.or_eq_left_of_isSome]
        simp [heq', hne]
      refine ih (c :: before) (fun e he => ?_) d hrest
      exact h e (by rwa [List.getLast?_cons_cons])

/-- **Lower case makes no blanks** at the ends. -/
theorem Trimmed.lowercase {cs : List Char} (h : Trimmed cs) : Trimmed (lowercaseAfter [] cs) := by
  refine ⟨fun d hd => ?_, isBlank_getLast?_lowercaseAfter [] h.last⟩
  cases cs with
  | nil => cases hd
  | cons c cs =>
    obtain ⟨piece, hne, hpiece, heq⟩ := exists_lowercaseAfter_cons [] c cs
    rw [heq, List.head?_append, Option.or_eq_left_of_isSome (by simpa using hne)] at hd
    exact (hpiece d (List.mem_of_head? hd)).2 (h.first c rfl)

end Text

/-! ### Modalities -/

namespace Modality

theorem read_key_ofWord {word : String} (htrim : Text.trim word = word)
    (hlower : Text.lowercase word = word) : read (ofWord word).key = ofWord word := by
  by_cases hnamed : word = "presencial" ∨ (word = "hibrido" ∨ word = "híbrido" ∨ word = "hybrid") ∨
      word = "virtual"
  · rcases hnamed with rfl | (rfl | rfl | rfl) | rfl <;> decide +kernel
  · simp only [not_or] at hnamed
    have hother : ofWord word = .other word := by simp [ofWord, hnamed]
    rw [hother, key, read, htrim, hlower, hother]

/-- **The key of a modality names the same modality.** -/
theorem read_key_read (raw : String) : read (read raw).key = read raw := by
  have htrim : Text.trim (Text.lowercase (Text.trim raw)) = Text.lowercase (Text.trim raw) := by
    have hchars : Text.lowercase (Text.trim raw) =
        .ofList (Text.lowercaseAfter [] (Text.trimChars raw.toList)) := by
      rw [Text.lowercase, Text.trim, String.toList_ofList]
    rw [hchars]
    exact (Text.trimmed_trimChars raw.toList).lowercase.trim_ofList
  exact read_key_ofWord htrim (Text.lowercase_lowercase _)

theorem read_lowerAscii (raw : String) : read (Text.lowerAscii raw) = read raw := by
  rw [read, read, Text.trim_lowerAscii, Text.lowercase_lowerAscii]

end Modality

end Registrar
