import Registrar.Proofs.SettingNumber

/-!
# Texts that are whole numbers

Whatever is a whole number for JSON is a numeral: digits, with a minus sign in front of them or none,
and nothing around them but the blanks between tokens.  No digit is lost and nothing wraps around.

* `Json.Token.ofDigitChars_of_takeDigits`: digits that were all taken make their number.
* `Json.Token.isDigits_of_scanNumber?`: a whole number is written in digits alone.
* `Json.Token.exists_of_list?_cons`: where the first token of a text stands.
* `Json.eq_literal_of_ofTokens?`: **a value that is no array and no object is one token**, as what
  was opened is still there in the end.
* `Json.exists_numeral_of_read?`: **what is read as a whole number is a numeral of it.**
-/

namespace Registrar

open Text (IsDigits IsNumeral)

namespace Json

namespace Token

/-! ### Numbers -/

theorem ofDigitChars_of_takeDigits {cs : List Char} {n m : Nat} (h : takeDigits n cs = (m, [])) :
    Nat.ofDigitChars 10 cs n = m := by
  induction cs generalizing n with
  | nil => exact (Prod.mk.inj h).1
  | cons c cs ih =>
    unfold takeDigits at h
    dsimp only at h
    split at h
    · rw [Nat.ofDigitChars_cons, Nat.mul_comm]
      exact ih h
    · cases h

/-- A whole number has no part behind a point and no exponent. -/
theorem eq_integer_of_number? {negative : Bool} {whole : List Char} {f : Option (List Char)}
    {e : Option Int} {k : Int} (h : number? negative whole f e = some (.integer k)) :
    f = none ∧ e = none ∧
      k = if negative then -(Nat.ofDigitChars 10 whole 0 : Int) else Nat.ofDigitChars 10 whole 0 := by
  unfold number? at h
  dsimp only at h
  split at h
  · next hwhole =>
    have htaken : takeDigits 0 whole = ((takeDigits 0 whole).1, []) := by
      rw [← hwhole.1]
    obtain rfl := Number.integer.inj (Option.some.inj h)
    exact ⟨hwhole.2.1, hwhole.2.2.1, by rw [ofDigitChars_of_takeDigits htaken]⟩
  · obtain ⟨x, -, hx⟩ := Option.map_eq_some_iff.1 h
    cases hx

theorem eq_of_scanFraction? {cs rest : List Char} (h : scanFraction? cs = some (none, rest)) :
    rest = cs := by
  unfold scanFraction? at h
  split at h
  · split at h <;> cases h
  · exact (Prod.mk.inj (Option.some.inj h)).2.symm

theorem eq_of_scanExponent? {cs rest : List Char} (h : scanExponent? cs = some (none, rest)) :
    rest = cs := by
  unfold scanExponent? at h
  split at h
  · exact (Prod.mk.inj (Option.some.inj h)).2.symm
  · split at h
    · obtain ⟨n, -, hn⟩ := Option.map_eq_some_iff.1 h
      cases hn
    · exact (Prod.mk.inj (Option.some.inj h)).2.symm

/-- **A whole number** is written in digits alone. -/
theorem isDigits_of_scanNumber? {negative : Bool} {cs rest : List Char} {k : Int}
    (h : scanNumber? negative cs = some (.integer k, rest)) :
    ∃ digits, IsDigits digits ∧ cs = digits ++ rest ∧
      k = if negative then -(Nat.ofDigitChars 10 digits 0 : Int)
        else Nat.ofDigitChars 10 digits 0 := by
  unfold scanNumber? at h
  dsimp only at h
  split at h
  · cases h
  · next hwhole =>
    simp only [Option.bind_eq_bind, Option.bind_eq_some_iff, Option.pure_def,
      Option.some.injEq, Prod.mk.injEq] at h
    obtain ⟨⟨f, cs₁⟩, hf, ⟨e, cs₂⟩, he, n, hn, rfl, rfl⟩ := h
    obtain ⟨rfl, rfl, hk⟩ := eq_integer_of_number? hn
    obtain rfl := eq_of_scanFraction? hf
    obtain rfl := eq_of_scanExponent? he
    refine ⟨cs.takeWhile Char.isDigit, ⟨fun hnil => hwhole (.inl hnil), fun c hc => ?_⟩,
      List.takeWhile_append_dropWhile.symm, hk⟩
    exact List.mem_takeWhile_imp hc

/-! ### The first token -/

theorem isSpace_of_list?_nil {cs : List Char} (h : list? cs = some []) :
    ∀ c ∈ cs, isSpace c = true := by
  induction cs with
  | nil => nofun
  | cons c cs ih =>
    cases hc : isSpace c with
    | true =>
      rw [list?, if_pos hc] at h
      exact List.forall_mem_cons.2 ⟨hc, ih h⟩
    | false =>
      rw [list?_of_scan? hc] at h
      obtain ⟨⟨t, rest⟩, -, hrest⟩ := Option.bind_eq_some_iff.1 h
      obtain ⟨ts, -, hts⟩ := Option.map_eq_some_iff.1 hrest
      cases hts

theorem exists_of_list?_cons {cs : List Char} {t : Token} {ts : List Token}
    (h : list? cs = some (t :: ts)) :
    ∃ u cs' rest, (∀ c ∈ u, isSpace c = true) ∧ cs = u ++ cs' ∧ scan? cs' = some (t, rest) ∧
      list? rest = some ts := by
  induction cs with
  | nil =>
    rw [list?] at h
    cases h
  | cons c cs ih =>
    cases hc : isSpace c with
    | true =>
      rw [list?, if_pos hc] at h
      obtain ⟨u, cs', rest, hu, rfl, hscan, hrest⟩ := ih h
      exact ⟨c :: u, cs', rest, List.forall_mem_cons.2 ⟨hc, hu⟩, rfl, hscan, hrest⟩
    | false =>
      rw [list?_of_scan? hc] at h
      obtain ⟨⟨t', rest⟩, hscan, hts⟩ := Option.bind_eq_some_iff.1 h
      obtain ⟨ts', hrest, hcons⟩ := Option.map_eq_some_iff.1 hts
      obtain ⟨rfl, rfl⟩ := List.cons.inj hcons
      exact ⟨[], c :: cs, rest, List.forall_mem_nil _, rfl, hscan, hrest⟩

theorem scanNumber?_of_scan? {cs rest : List Char} {n : Number}
    (h : scan? cs = some (.literal (.number n), rest)) :
    (∃ cs', cs = '-' :: cs' ∧ scanNumber? true cs' = some (n, rest)) ∨
      scanNumber? false cs = some (n, rest) := by
  have hnumber {x : Option (Number × List Char)}
      (hx : (x.map fun p => (Token.literal (.number p.1), p.2)) =
        some (.literal (.number n), rest)) : x = some (n, rest) := by
    obtain ⟨⟨n', rest'⟩, rfl, hn⟩ := Option.map_eq_some_iff.1 hx
    cases hn
    rfl
  unfold scan? at h
  split at h
  case h_7 =>
    simp only [Option.bind_eq_bind, Option.bind_eq_some_iff, Option.pure_def,
      Option.some.injEq, Prod.mk.injEq] at h
    obtain ⟨_, -, _, -, ht, -⟩ := h
    cases ht
  case h_11 cs => exact .inl ⟨cs, rfl, hnumber h⟩
  case h_12 => exact .inr (hnumber h)
  all_goals cases h

end Token

/-! ### One token -/

/-- The value is an array or an object. -/
def IsComposite : Json → Prop
  | array _ | object _ => True
  | _ => False

/-- Something was opened: it still is, or what was read is an array or an object. -/
def HasOpened : Expect × List Frame → Prop
  | (.value, stack) | (.firstItem, stack) => stack ≠ []
  | (.firstName, _) | (.name _, _) | (.colon _ _, _) => True
  | (.after v, stack) => stack = [] → v.IsComposite

theorem hasOpened_stepValue {stack : List Frame} {t : Token} {st : Expect × List Frame}
    (hstack : stack ≠ []) (h : stepValue stack t = some st) : HasOpened st := by
  unfold stepValue at h
  split at h
  · obtain rfl := Option.some.inj h
    exact fun hnil => absurd hnil hstack
  · obtain rfl := Option.some.inj h
    exact fun hnil => absurd hnil hstack
  · split at h
    · obtain rfl := Option.some.inj h
      exact List.cons_ne_nil _ _
    · cases h
  · split at h
    · obtain rfl := Option.some.inj h
      trivial
    · cases h
  · cases h

theorem run_cons (st : Expect × List Frame) (t : Token) (ts : List Token) :
    run st (t :: ts) = (step st t).bind (run · ts) :=
  List.foldlM_cons ..

/-- **Once something was opened**, that stays so. -/
theorem hasOpened_step {st st' : Expect × List Frame} {t : Token} (hst : HasOpened st)
    (h : step st t = some st') : HasOpened st' := by
  unfold step at h
  split at h
  · exact hasOpened_stepValue hst h
  · obtain rfl := Option.some.inj h
    exact fun _ => trivial
  · exact hasOpened_stepValue hst h
  · obtain rfl := Option.some.inj h
    exact fun _ => trivial
  · obtain rfl := Option.some.inj h
    trivial
  · obtain rfl := Option.some.inj h
    trivial
  · obtain rfl := Option.some.inj h
    exact List.cons_ne_nil _ _
  · unfold stepAfter at h
    split at h
    · obtain rfl := Option.some.inj h
      exact List.cons_ne_nil _ _
    · obtain rfl := Option.some.inj h
      exact fun _ => trivial
    · obtain rfl := Option.some.inj h
      trivial
    · obtain rfl := Option.some.inj h
      exact fun _ => trivial
    · cases h
  · cases h

theorem hasOpened_run {ts : List Token} {st st' : Expect × List Frame} (hst : HasOpened st)
    (h : run st ts = some st') : HasOpened st' := by
  induction ts generalizing st with
  | nil =>
    obtain rfl := Option.some.inj h
    exact hst
  | cons t ts ih =>
    rw [run_cons] at h
    obtain ⟨st₁, hstep, hrun⟩ := Option.bind_eq_some_iff.1 h
    exact ih (hasOpened_step hst hstep) hrun

/-- Nothing follows a value behind which nothing is open. -/
theorem eq_nil_of_run_after {v : Json} {ts : List Token} {st : Expect × List Frame}
    (h : run (.after v, []) ts = some st) : ts = [] ∧ st = (.after v, []) := by
  cases ts with
  | nil => exact ⟨rfl, (Option.some.inj h).symm⟩
  | cons t ts =>
    rw [run_cons] at h
    obtain ⟨st₁, hstep, -⟩ := Option.bind_eq_some_iff.1 h
    cases hstep

/-- **A number is one token.** -/
theorem eq_literal_of_ofTokens? {ts : List Token} {n : Number}
    (h : ofTokens? ts = some (.number n)) : ts = [.literal (.number n)] := by
  unfold ofTokens? at h
  split at h
  · next v hrun =>
    obtain rfl := Option.some.inj h
    cases ts with
    | nil => cases hrun
    | cons t ts =>
      rw [run_cons] at hrun
      obtain ⟨st, hstep, hrun⟩ := Option.bind_eq_some_iff.1 hrun
      change stepValue [] t = some st at hstep
      unfold stepValue at hstep
      split at hstep
      · obtain rfl := Option.some.inj hstep
        obtain ⟨rfl, hv⟩ := eq_nil_of_run_after hrun
        cases hv
        rfl
      · obtain rfl := Option.some.inj hstep
        obtain ⟨-, hv⟩ := eq_nil_of_run_after hrun
        cases hv
      · split at hstep
        · obtain rfl := Option.some.inj hstep
          have hopened : HasOpened (.firstItem, [.array []]) := List.cons_ne_nil _ _
          exact absurd (hasOpened_run hopened hrun rfl) id
        · cases hstep
      · split at hstep
        · obtain rfl := Option.some.inj hstep
          have hopened : HasOpened (.firstName, []) := trivial
          exact absurd (hasOpened_run hopened hrun rfl) id
        · cases hstep
      · cases hstep
  · cases h

/-- **What is read as a whole number is a numeral of it**, between blanks. -/
theorem exists_numeral_of_read? {text : String} {k : Int} (h : read? text = some (.int k)) :
    ∃ u core v, (∀ c ∈ u, Token.isSpace c = true) ∧ (∀ c ∈ v, Token.isSpace c = true) ∧
      text.toList = u ++ core ++ v ∧ IsNumeral core k := by
  obtain ⟨ts, hts, h⟩ := Option.bind_eq_some_iff.1 h
  obtain rfl := eq_literal_of_ofTokens? h
  obtain ⟨u, cs, v, hu, htext, hscan, hv⟩ := Token.exists_of_list?_cons hts
  have hblank := Token.isSpace_of_list?_nil hv
  rcases Token.scanNumber?_of_scan? hscan with ⟨cs, rfl, hnumber⟩ | hnumber
  · obtain ⟨digits, hdigits, rfl, rfl⟩ := Token.isDigits_of_scanNumber? hnumber
    exact ⟨u, '-' :: digits, v, hu, hblank, by simp [htext], .minus hdigits⟩
  · obtain ⟨digits, hdigits, rfl, rfl⟩ := Token.isDigits_of_scanNumber? hnumber
    exact ⟨u, digits, v, hu, hblank, by simp [htext], .plain hdigits⟩

end Json

end Registrar
