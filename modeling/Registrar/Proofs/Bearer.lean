import Registrar.Proofs.NormalForm
import Registrar.Proofs.Questions

/-!
# Showing a token

A subject shows a token bare or behind the word `bearer`, and with blanks around it.  This file says
which token a text shows, and that this is the token about which the first stage asks.

* `Credential.IsToken`, `Credential.IsBearer`: what a token is, and how the word is written.
* `Credential.Shows`: the token that a text shows.
* `Credential.read?_eq_some_iff`: this is the token that is read.
* `Stage.heeds`: **the first stage asks whose the token is that is shown**, and about nothing else;
  where none is shown it refuses the request as it is.
-/

namespace Registrar

namespace Credential

open Text (isBlank isControl trimChars)

/-- The text is a token: it has no blanks and no control characters. -/
structure IsToken (cs : List Char) : Prop where
  /-- There are characters. -/
  ne_nil : cs ≠ []
  /-- Each of them is plain. -/
  plain : ∀ c ∈ cs, isBlank c = false ∧ isControl c = false

/-- The text is the word that may stand before a token, in any letter case. -/
def IsBearer (cs : List Char) : Prop := cs.map Char.toLower = scheme.toList

/-- The text shows these characters as a token. -/
inductive Shows (raw token : List Char) : Prop
  /-- They are all there is, blanks around them apart, and are not the word itself. -/
  | bare : trimChars raw = token → ¬ IsBearer token → Shows raw token
  /-- They stand behind the word, with blanks in between. -/
  | behind {word rest : List Char} {blank : Char} : trimChars raw = word ++ blank :: rest →
      IsBearer word → isBlank blank = true → trimChars rest = token → Shows raw token

variable {cs raw token word rest : List Char}

theorem isScheme_iff : isScheme cs = true ↔ IsBearer cs := by
  have hlower : Text.lowerAscii scheme = scheme := by decide
  rw [isScheme, Text.sameWord, beq_iff_eq, hlower, Text.lowerAscii, String.toList_ofList, IsBearer,
    ← String.toList_inj, String.toList_ofList]

theorem toLower_of_isBlank {c : Char} (h : isBlank c = true) : c.toLower = c := by
  rw [← Char.toNat_inj, Text.toNat_toLower, if_neg]
  simp only [isBlank, Bool.or_eq_true, Bool.and_eq_true, decide_eq_true_eq, beq_iff_eq] at h
  omega

theorem IsBearer.solid (h : IsBearer cs) : ∀ c ∈ cs, isBlank c = false := by
  intro c hc
  rw [Bool.eq_false_iff]
  intro hblank
  have hmem : c ∈ scheme.toList := by
    rw [← h, ← toLower_of_isBlank hblank]
    exact List.mem_map_of_mem hc
  have hsolid : (scheme.toList.any isBlank) = false := by decide
  exact absurd hblank (List.any_eq_false.1 hsolid c hmem)

theorem IsBearer.ne_nil (h : IsBearer cs) : cs ≠ [] := by
  rintro rfl
  cases h

theorem IsToken.solid (h : IsToken cs) : ∀ c ∈ cs, isBlank c = false := fun c hc => (h.plain c hc).1

theorem cutFirst?_of_isBearer {blank : Char} (hword : IsBearer word)
    (hblank : isBlank blank = true) :
    Text.cutFirst? isBlank (word ++ blank :: rest) = some (word, rest) :=
  Text.cutFirst?_eq_some_iff.2 ⟨blank, hblank, rfl, hword.solid⟩

/-- **What is taken for a token** is what is shown. -/
theorem shown_eq_iff (ht : IsToken token) : shown (trimChars raw) = token ↔ Shows raw token := by
  constructor
  · intro h
    unfold shown at h
    split at h
    · next word rest hcut =>
      obtain ⟨blank, hblank, htrim, -⟩ := Text.cutFirst?_eq_some_iff.1 hcut
      split at h
      · next hword => exact .behind htrim (isScheme_iff.1 hword) hblank h
      · -- A token has no blank in it.
        rw [ht.solid blank (by simp [← h, htrim])] at hblank
        cases hblank
    · split at h
      · exact absurd h.symm ht.ne_nil
      · next hword => exact .bare h (h ▸ mt isScheme_iff.2 hword)
  · intro h
    cases h with
    | bare htrim hword =>
      rw [htrim, shown, Text.cutFirst?_eq_none_iff.2 ht.solid]
      exact if_neg (mt isScheme_iff.1 hword)
    | behind htrim hword hblank hrest =>
      rw [htrim, shown, cutFirst?_of_isBearer hword hblank]
      exact (if_pos (isScheme_iff.2 hword)).trans hrest

/-- **What is read is the token that is shown.** -/
theorem read?_eq_some_iff {raw token : String} :
    read? raw = some token ↔ IsToken token.toList ∧ Shows raw.toList token.toList := by
  have hplain (cs : List Char) : IsToken cs ↔
      ¬ (cs = [] ∨ cs.any (fun c => isBlank c || isControl c) = true) := by
    simp only [not_or, List.any_eq_true, not_exists, not_and, Bool.or_eq_true,
      Bool.not_eq_true]
    exact ⟨fun h => ⟨h.ne_nil, h.plain⟩, fun h => ⟨h.1, h.2⟩⟩
  constructor
  · intro h
    unfold read? at h
    dsimp only at h
    split at h
    · cases h
    · next htoken =>
      obtain rfl := Option.some.inj h
      rw [String.toList_ofList]
      have htoken := (hplain _).2 htoken
      exact ⟨htoken, (shown_eq_iff htoken).1 rfl⟩
  · rintro ⟨htoken, hshows⟩
    unfold read?
    dsimp only
    rw [(shown_eq_iff htoken).2 hshows, if_neg ((hplain _).1 htoken), String.ofList_toList]

/-! ### The two ways to show a token -/

/-- Behind the word every token is shown, whatever blanks stand around the two. -/
theorem shows_behind {before between after : List Char} (hbefore : ∀ c ∈ before, isBlank c = true)
    (hword : IsBearer word) (hne : between ≠ []) (hbetween : ∀ c ∈ between, isBlank c = true)
    (ht : IsToken token) (hafter : ∀ c ∈ after, isBlank c = true) :
    Shows (before ++ (word ++ between ++ token) ++ after) token := by
  have htrimmed := Text.trimmed_append between hword.ne_nil
    (Text.trimmed_of_solid hword.solid).first ht.ne_nil (Text.trimmed_of_solid ht.solid).last
  obtain ⟨blank, more, rfl⟩ := List.exists_cons_of_ne_nil hne
  obtain ⟨hblank, hmore⟩ := List.forall_mem_cons.1 hbetween
  have hrest : trimChars (more ++ token) = token :=
    (Text.trimmed_of_solid ht.solid).trimChars_append_left hmore
  have htrim := Text.trimChars_eq_iff.2 ⟨htrimmed, before, after, hbefore, hafter, rfl⟩
  have hparts : word ++ blank :: more ++ token = word ++ blank :: (more ++ token) := by
    rw [List.append_assoc, List.cons_append]
  exact .behind (htrim.trans hparts) hword hblank hrest

theorem not_shows_of_isBearer {before after : List Char} (hbefore : ∀ c ∈ before, isBlank c = true)
    (hword : IsBearer word) (hafter : ∀ c ∈ after, isBlank c = true) :
    ¬ Shows (before ++ word ++ after) token := by
  have htrim := Text.trimChars_eq_iff.2
    ⟨Text.trimmed_of_solid hword.solid, before, after, hbefore, hafter, rfl⟩
  intro h
  cases h with
  | bare htoken hnot => exact hnot (htoken ▸ htrim.symm ▸ hword)
  | behind hparts _ hblank _ =>
    rw [htrim] at hparts
    rw [hword.solid _ (by rw [hparts]; simp)] at hblank
    cases hblank

end Credential

/-! ### The first stage -/

namespace Stage

open Text (isBlank)
open Credential (IsToken IsBearer Shows)

variable {records : Records} {r : Request}

theorem lookups_identity_eq_iff {token : String} :
    ((identity records).handle r).lookups = [.subject token] ↔
      IsToken token.toList ∧ Shows r.token.toList token.toList := by
  rw [← Credential.read?_eq_some_iff, lookups_identity]
  cases Credential.read? r.token <;> simp

theorem handle_identity_of_none (h : Credential.read? r.token = none) :
    (identity records).handle r =
      pure (.reject r .invalidToken "missing or malformed subject token") := by
  unfold identity
  dsimp only
  rw [h]

/-- What the first stage makes of the text that a request shows. -/
structure HeedsToken (records : Records) (r : Request) : Prop where
  /-- It asks whose a token is exactly when the text shows this token, and asks nothing else. -/
  asks_iff : ∀ token : String, ((identity records).handle r).lookups = [.subject token] ↔
    IsToken token.toList ∧ Shows r.token.toList token.toList
  /-- A text that shows no token is refused: nothing is asked, and the request stays as it is. -/
  refuses : (∀ token, IsToken token → ¬ Shows r.token.toList token) →
    (identity records).handle r =
      pure (.reject r .invalidToken "missing or malformed subject token")
  /-- Any token can be shown behind the word, in any letter case of the word and with any blanks. -/
  behind : ∀ before word between token after : List Char, (∀ c ∈ before, isBlank c = true) →
    IsBearer word → between ≠ [] → (∀ c ∈ between, isBlank c = true) → IsToken token →
      (∀ c ∈ after, isBlank c = true) →
        r.token.toList = before ++ (word ++ between ++ token) ++ after →
          ((identity records).handle r).lookups = [.subject (.ofList token)]
  /-- Of the word alone nothing is asked. -/
  alone : ∀ before word after : List Char, (∀ c ∈ before, isBlank c = true) → IsBearer word →
    (∀ c ∈ after, isBlank c = true) → r.token.toList = before ++ word ++ after →
      ((identity records).handle r).lookups = []

/-- **The first stage asks whose the token is that is shown**, if one is, and refuses the request
otherwise. -/
theorem heeds (records : Records) (r : Request) : HeedsToken records r := by
  have hrefuses (h : ∀ token, IsToken token → ¬ Shows r.token.toList token) :
      (identity records).handle r =
        pure (.reject r .invalidToken "missing or malformed subject token") := by
    refine handle_identity_of_none (Option.eq_none_iff_forall_ne_some.2 fun token htoken => ?_)
    obtain ⟨hplain, hshows⟩ := Credential.read?_eq_some_iff.1 htoken
    exact h _ hplain hshows
  refine ⟨fun _ => lookups_identity_eq_iff, hrefuses, ?_, ?_⟩
  · intro before word between token after hbefore hword hne hbetween ht hafter htext
    rw [lookups_identity_eq_iff, String.toList_ofList, htext]
    exact ⟨ht, Credential.shows_behind hbefore hword hne hbetween ht hafter⟩
  · intro before word after hbefore hword hafter htext
    rw [hrefuses fun token _ => htext ▸ Credential.not_shows_of_isBearer hbefore hword hafter]
    rfl

end Stage

end Registrar
