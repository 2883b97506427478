/-!
# Tables

Finite maps held as a list of entries in strictly ascending order of their keys.  Each key
stands in one place only, so two tables that answer every look-up alike are equal
(`Table.ext_get?`), and listing a table never depends on how it was filled.

* `Table.get?`, `Table.insert`, `Table.keys`: look up, add or replace, list.
* `Table.get?_insert`: what a table answers after an insertion.
* `Table.get?_eq_some_iff`, `Table.mem_keys_iff`: what a table answers is what it lists.
* `TextSet`: a set of texts, which is a table without values.
-/

namespace Registrar

universe u v w

variable {κ : Type u} {α : Type v} {β : Type w} [LT κ]

/-- A finite map from keys to values. -/
structure Table (κ : Type u) [LT κ] (α : Type v) where
  /-- The entries, in ascending order of the keys. -/
  entries : List (κ × α)
  /-- No key is repeated, and the keys ascend. -/
  ascending : entries.Pairwise fun a b => a.1 < b.1
  deriving DecidableEq

namespace Table

/-- The table without entries. -/
def empty : Table κ α := ⟨[], .nil⟩

instance : Inhabited (Table κ α) := ⟨empty⟩

section Lookup

variable [DecidableEq κ]

/-- The value that the list of entries holds for a key. -/
def lookup (k : κ) : List (κ × α) → Option α
  | [] => none
  | (k', v) :: rest => if k = k' then some v else lookup k rest

/-- The value of a key, when the table has one. -/
def get? (t : Table κ α) (k : κ) : Option α := lookup k t.entries

/-- The table has an entry for the key. -/
def contains (t : Table κ α) (k : κ) : Bool := (t.get? k).isSome

@[simp] theorem get?_empty (k : κ) : (empty : Table κ α).get? k = none := rfl

end Lookup

/-- The keys, in ascending order. -/
def keys (t : Table κ α) : List κ := t.entries.map (·.1)

/-- The values, in ascending order of their keys. -/
def values (t : Table κ α) : List α := t.entries.map (·.2)

/-- The number of entries. -/
def size (t : Table κ α) : Nat := t.entries.length

/-- The table with every value changed by a function. -/
def map (f : α → β) (t : Table κ α) : Table κ β :=
  ⟨t.entries.map fun e => (e.1, f e.2), t.ascending.map _ fun _ _ h => h⟩

section Insertion

variable [DecidableLT κ] [DecidableEq κ]

/-- The entries with one key's value set: the new entry takes its place in the order. -/
def insertEntry (k : κ) (v : α) : List (κ × α) → List (κ × α)
  | [] => [(k, v)]
  | (k', v') :: rest =>
    if k < k' then (k, v) :: (k', v') :: rest
    else if k = k' then (k, v) :: rest
    else (k', v') :: insertEntry k v rest

theorem mem_insertEntry {k : κ} {v : α} {es : List (κ × α)} {e : κ × α}
    (h : e ∈ insertEntry k v es) : e = (k, v) ∨ e ∈ es := by
  induction es with
  | nil => simpa [insertEntry] using h
  | cons x xs ih =>
    unfold insertEntry at h
    split at h
    · simpa using h
    · split at h
      · rcases List.mem_cons.1 h with h | h
        · exact .inl h
        · exact .inr (List.mem_cons_of_mem _ h)
      · rcases List.mem_cons.1 h with h | h
        · exact .inr (h ▸ List.mem_cons_self)
        · exact (ih h).imp_right (List.mem_cons_of_mem _)

variable [LE κ] [Std.IsLinearOrder κ] [Std.LawfulOrderLT κ]

theorem ascending_insertEntry {k : κ} {v : α} {es : List (κ × α)}
    (h : es.Pairwise fun a b => a.1 < b.1) :
    (insertEntry k v es).Pairwise fun a b => a.1 < b.1 := by
  induction es with
  | nil => simp [insertEntry]
  | cons x xs ih =>
    obtain ⟨hx, hxs⟩ := List.pairwise_cons.1 h
    unfold insertEntry
    split
    · next hk =>
      refine List.pairwise_cons.2 ⟨fun e he => ?_, h⟩
      rcases List.mem_cons.1 he with rfl | he
      · exact hk
      · exact Std.lt_trans hk (hx e he)
    · next hk =>
      split
      · next he =>
        subst he
        exact List.pairwise_cons.2 ⟨hx, hxs⟩
      · next hne =>
        refine List.pairwise_cons.2 ⟨fun e he => ?_, ih hxs⟩
        rcases mem_insertEntry he with rfl | he
        · exact Std.lt_of_le_of_ne (Std.not_lt.1 hk) (Ne.symm hne)
        · exact hx e he

/-- The table with the value of one key set, whether or not it had one before. -/
def insert (t : Table κ α) (k : κ) (v : α) : Table κ α :=
  ⟨insertEntry k v t.entries, ascending_insertEntry t.ascending⟩

/-- The table filled from a list of entries; a later entry replaces an earlier one. -/
def ofList (es : List (κ × α)) : Table κ α := es.foldl (fun t e => t.insert e.1 e.2) empty

end Insertion

/-! ### What a table answers -/

variable [DecidableEq κ]

theorem lookup_insertEntry [DecidableLT κ] (k j : κ) (v : α) (es : List (κ × α)) :
    lookup j (insertEntry k v es) = if j = k then some v else lookup j es := by
  induction es with
  | nil => simp [insertEntry, lookup]
  | cons x xs ih =>
    obtain ⟨k', v'⟩ := x
    unfold insertEntry
    split
    · simp [lookup]
    · split
      · next hk => subst hk; simp only [lookup]; split <;> rfl
      · next hk =>
        simp only [lookup, ih]
        split
        · next hj => subst hj; rw [if_neg (Ne.symm hk)]
        · rfl

/-- **After an insertion** the key has the new value and every other key has its old one. -/
theorem get?_insert [DecidableLT κ] [LE κ] [Std.IsLinearOrder κ] [Std.LawfulOrderLT κ]
    (t : Table κ α) (k j : κ) (v : α) :
    (t.insert k v).get? j = if j = k then some v else t.get? j :=
  lookup_insertEntry k j v t.entries

variable [LE κ] [Std.LawfulOrderLT κ]

theorem lookup_eq_none [Std.IsLinearOrder κ] {k : κ} {es : List (κ × α)} (h : ∀ e ∈ es, k < e.1) :
    lookup k es = none := by
  induction es with
  | nil => rfl
  | cons x xs ih =>
    have hx := h x List.mem_cons_self
    rw [lookup, if_neg, ih fun e he => h e (List.mem_cons_of_mem _ he)]
    rintro rfl
    exact Std.lt_irrefl hx

theorem entries_eq_of_lookup [Std.IsLinearOrder κ] {es fs : List (κ × α)}
    (he : es.Pairwise fun a b => a.1 < b.1)
    (hf : fs.Pairwise fun a b => a.1 < b.1) (h : ∀ k, lookup k es = lookup k fs) : es = fs := by
  induction es generalizing fs with
  | nil =>
    cases fs with
    | nil => rfl
    | cons y ys => simpa [lookup] using h y.1
  | cons x xs ih =>
    cases fs with
    | nil => simpa [lookup] using h x.1
    | cons y ys =>
      obtain ⟨hx, hxs⟩ := List.pairwise_cons.1 he
      obtain ⟨hy, hys⟩ := List.pairwise_cons.1 hf
      have hk : x.1 = y.1 := by
        apply Classical.byContradiction
        intro hne
        by_cases hlt : x.1 < y.1
        · have := h x.1
          rw [lookup, if_pos rfl, lookup, if_neg hne,
            lookup_eq_none fun e he => Std.lt_trans hlt (hy e he)] at this
          exact Option.some_ne_none _ this
        · have hlt := Std.lt_of_le_of_ne (Std.not_lt.1 hlt) (Ne.symm hne)
          have := h y.1
          rw [lookup, if_neg (Ne.symm hne), lookup, if_pos rfl,
            lookup_eq_none fun e he => Std.lt_trans hlt (hx e he)] at this
          exact Option.some_ne_none _ this.symm
      have hv : x.2 = y.2 := by
        have := h x.1
        rw [lookup, if_pos rfl, lookup, if_pos hk] at this
        exact Option.some.inj this
      have hrest : xs = ys := by
        refine ih hxs hys fun k => ?_
        have := h k
        by_cases hkx : k = x.1
        · rw [lookup_eq_none fun e he => hkx ▸ hx e he,
            lookup_eq_none fun e he => hkx ▸ hk ▸ hy e he]
        · rwa [lookup, if_neg hkx, lookup, if_neg (hk ▸ hkx)] at this
      rw [hrest, show x = y from Prod.ext hk hv]

theorem lookup_eq_some_iff [Std.IsLinearOrder κ] {k : κ} {v : α} {es : List (κ × α)}
    (h : es.Pairwise fun a b => a.1 < b.1) : lookup k es = some v ↔ (k, v) ∈ es := by
  induction es with
  | nil => simp [lookup]
  | cons x xs ih =>
    obtain ⟨k', v'⟩ := x
    obtain ⟨hx, hxs⟩ := List.pairwise_cons.1 h
    rw [lookup, List.mem_cons, Prod.mk.injEq]
    by_cases hk : k = k'
    · subst hk
      rw [if_pos rfl, Option.some_inj]
      constructor
      · rintro rfl
        exact .inl ⟨rfl, rfl⟩
      · rintro (⟨-, rfl⟩ | hmem)
        · rfl
        · exact absurd (hx _ hmem) Std.lt_irrefl
    · simp [hk, ih hxs]

/-- **A table answers with its entries.** -/
theorem get?_eq_some_iff [Std.IsLinearOrder κ] {t : Table κ α} {k : κ} {v : α} :
    t.get? k = some v ↔ (k, v) ∈ t.entries :=
  lookup_eq_some_iff t.ascending

theorem mem_keys_iff [Std.IsLinearOrder κ] {t : Table κ α} {k : κ} :
    k ∈ t.keys ↔ (t.get? k).isSome = true := by
  rw [Option.isSome_iff_exists, keys, List.mem_map]
  constructor
  · rintro ⟨⟨k', v⟩, hmem, rfl⟩
    exact ⟨v, get?_eq_some_iff.2 hmem⟩
  · rintro ⟨v, hv⟩
    exact ⟨(k, v), get?_eq_some_iff.1 hv, rfl⟩

/-- **Two tables that answer every look-up alike are equal.** -/
theorem ext_get? [Std.IsLinearOrder κ] {s t : Table κ α}
    (h : ∀ k, s.get? k = t.get? k) : s = t := by
  obtain ⟨es, he⟩ := s
  obtain ⟨fs, hf⟩ := t
  simp only [Table.mk.injEq]
  exact entries_eq_of_lookup he hf h

section Reinsertion

variable [DecidableLT κ] [Std.IsLinearOrder κ] (t : Table κ α)

/-- What a key has already need not be put under it. -/
theorem insert_eq_self {k : κ} {v : α} (h : t.get? k = some v) : t.insert k v = t := by
  refine ext_get? fun j => ?_
  rw [get?_insert]
  split
  · next hj => rw [hj, h]
  · rfl

/-- Of two values that are put under one key the second one counts. -/
theorem insert_insert (k : κ) (v w : α) : (t.insert k v).insert k w = t.insert k w := by
  refine ext_get? fun j => ?_
  simp only [get?_insert]
  split <;> rfl

/-- Values under different keys can be put there in any order. -/
theorem insert_right_comm {k j : κ} (h : k ≠ j) (v w : α) :
    (t.insert k v).insert j w = (t.insert j w).insert k v := by
  refine ext_get? fun i => ?_
  simp only [get?_insert]
  by_cases hj : i = j
  · subst hj
    rw [if_pos rfl, if_neg (Ne.symm h), if_pos rfl]
  · rw [if_neg hj, if_neg hj]

end Reinsertion

end Table

/-! ### Sets of texts -/

/-- A finite set of texts. -/
abbrev TextSet := Table String Unit

namespace TextSet

/-- The set with one more member. -/
def add (s : TextSet) (text : String) : TextSet := s.insert text ()

/-- The set with more members. -/
def addAll (s : TextSet) (texts : List String) : TextSet := texts.foldl add s

/-- The set of the texts in a list. -/
def ofList (texts : List String) : TextSet := addAll Table.empty texts

/-- The members, in ascending order. -/
def toList (s : TextSet) : List String := s.keys

theorem contains_add (s : TextSet) (text other : String) :
    (s.add text).contains other = (s.contains other || text == other) := by
  rw [Table.contains, add, Table.get?_insert]
  by_cases h : other = text
  · simp [h]
  · simp [h, Ne.symm h, Table.contains]

theorem contains_addAll (s : TextSet) (texts : List String) (other : String) :
    (s.addAll texts).contains other = (s.contains other || texts.contains other) := by
  induction texts generalizing s with
  | nil => simp [addAll]
  | cons u us ih =>
    rw [addAll, List.foldl_cons, ← addAll, ih, contains_add, List.contains_cons, Bool.or_assoc,
      Bool.beq_comm (a := u)]

/-- Two sets with the same members are equal. -/
theorem ext_contains {s t : TextSet} (h : ∀ text, s.contains text = t.contains text) : s = t := by
  refine Table.ext_get? fun text => ?_
  have hsame := h text
  rw [Table.contains, Table.contains] at hsame
  cases hs : s.get? text <;> cases ht : t.get? text <;> simp [hs, ht] at hsame ⊢

end TextSet

end Registrar
