import Mathlib.Data.List.Perm.Basic
import Registrar.Form.Tables
import Registrar.Proofs.DirectoryFile
import Registrar.Proofs.JsonText

/-!
# Forms that are read back

A form is a way to write things as JSON values together with a way to read them.  It is good when
every thing is read back as it was, and since the order in which the fields of an object stand means
nothing, it must be read back in whatever order they are put.

* `Json.Shuffled`: two values differ in nothing but the order of fields.
* `Json.Form`: what is written is read back from the value.
* `Json.ReadsBack`, `Json.Form.readsBack`: it is read back from every text of the value, too.
* `Json.Form.text`, `Json.Form.word`, `Json.Form.whole`: forms of things that are not divided.
* `Json.Form.listOf`, `Json.Form.tableOf`, `Json.Shuffled.fields?`: lists, maps and records of things
  that have forms.
-/

namespace Registrar

/-! ### Tables and their entries -/

namespace Table

variable {κ α : Type} [LT κ] [DecidableLT κ] [DecidableEq κ] [LE κ] [Std.IsLinearOrder κ]
  [Std.LawfulOrderLT κ]

omit [DecidableLT κ] [DecidableEq κ] [Std.IsLinearOrder κ] in
theorem nodup_keys (t : Table κ α) : (t.entries.map (·.1)).Nodup :=
  t.ascending.map _ fun _ _ h => Std.ne_of_lt h

theorem ofList_of_perm {t : Table κ α} {es : List (κ × α)} (h : es.Perm t.entries) :
    ofList es = t := by
  rw [ofList_perm h ((h.map _).nodup_iff.2 t.nodup_keys)]
  refine ext_get? fun k => Option.ext fun v => ?_
  rw [get?_ofList_eq_some_iff t.nodup_keys, get?_eq_some_iff]

theorem perm_entries_ofList {es : List (κ × α)} (h : (es.map (·.1)).Nodup) :
    (ofList es).entries.Perm es := by
  refine (List.perm_ext_iff_of_nodup (ofList es).nodup_keys.of_map h.of_map).2 fun e => ?_
  rw [← get?_eq_some_iff, get?_ofList_eq_some_iff h]

end Table

namespace Json

open Token

/-! ### The order of fields -/

/-- The values differ in nothing but the order in which the fields of objects stand. -/
inductive Shuffled : Json → Json → Prop
  /-- Nothing. -/
  | null : Shuffled null null
  /-- Yes or no. -/
  | bool (b : Bool) : Shuffled (bool b) (bool b)
  /-- A number. -/
  | number (n : Number) : Shuffled (number n) (number n)
  /-- A text. -/
  | string (s : String) : Shuffled (string s) (string s)
  /-- The items stand in the same order. -/
  | array {pairs : List (Json × Json)} : (∀ p ∈ pairs, Shuffled p.1 p.2) →
      Shuffled (array (pairs.map (·.1))) (array (pairs.map (·.2)))
  /-- The fields stand in some order. -/
  | object {pairs : List (String × Json × Json)} {fields : List (String × Json)} :
      (∀ p ∈ pairs, Shuffled p.2.1 p.2.2) → fields.Perm (pairs.map fun p => (p.1, p.2.2)) →
      Shuffled (object (pairs.map fun p => (p.1, p.2.1))) (object fields)

theorem Plain.shuffled_refl {room : Nat} {v : Json} (h : Plain room v) : Shuffled v v := by
  induction h with
  | null => exact .null
  | bool b => exact .bool b
  | int _ => exact .number _
  | string s => exact .string s
  | @array _ items _ ih =>
    have hpairs : ∀ p ∈ items.map fun v => (v, v), Shuffled p.1 p.2 := List.forall_mem_map.2 ih
    simpa [Function.comp_def] using Shuffled.array hpairs
  | @object _ fields _ ih =>
    have hpairs : ∀ p ∈ fields.map fun f => (f.1, f.2, f.2), Shuffled p.2.1 p.2.2 :=
      List.forall_mem_map.2 ih
    simpa [Function.comp_def] using Shuffled.object hpairs (.refl _)

namespace Shuffled

variable {v w : Json}

theorem plain {room : Nat} (h : Shuffled v w) (hw : Plain room w) : Plain room v := by
  induction h generalizing room with
  | null | bool _ | number _ | string _ => exact hw
  | array _ ih =>
    cases hw with
    | array hitems =>
      refine .array fun v hv => ?_
      obtain ⟨p, hp, rfl⟩ := List.mem_map.1 hv
      exact ih p hp (hitems _ (List.mem_map_of_mem hp))
  | object _ hperm ih =>
    cases hw with
    | object hfields =>
      refine .object fun f hf => ?_
      obtain ⟨p, hp, rfl⟩ := List.mem_map.1 hf
      exact ih p hp (hfields _ (hperm.mem_iff.2 (List.mem_map_of_mem hp)))

theorem exists_items {items : List Json} (h : Shuffled v (.array items)) :
    ∃ items', v = .array items' ∧ List.Forall₂ Shuffled items' items := by
  cases h with
  | @array pairs hpairs =>
    refine ⟨_, rfl, ?_⟩
    rw [List.forall₂_map_left_iff, List.forall₂_map_right_iff, List.forall₂_same]
    exact hpairs

/-- The fields of an object, one by one, once they are put in order. -/
theorem exists_fields {fields : List (String × Json)} (h : Shuffled v (.object fields)) :
    ∃ fields' ordered, v = .object fields' ∧ ordered.Perm fields ∧
      List.Forall₂ (fun f g => f.1 = g.1 ∧ Shuffled f.2 g.2) fields' ordered := by
  cases h with
  | @object pairs _ hpairs hperm =>
    refine ⟨_, _, rfl, hperm.symm, ?_⟩
    rw [List.forall₂_map_left_iff, List.forall₂_map_right_iff, List.forall₂_same]
    exact fun p hp => ⟨rfl, hpairs p hp⟩

theorem exists_field {n : String} (h : Shuffled v (.object [(n, w)])) :
    ∃ w', v = .object [(n, w')] ∧ Shuffled w' w := by
  obtain ⟨fields, _, rfl, hordered, hall⟩ := h.exists_fields
  obtain rfl := List.perm_singleton.1 hordered
  obtain ⟨⟨_, w'⟩, _, ⟨rfl, hw⟩, hnil, rfl⟩ := List.forall₂_cons_right_iff.1 hall
  obtain rfl := List.forall₂_nil_right_iff.1 hnil
  exact ⟨w', rfl, hw⟩

end Shuffled

/-! ### Forms -/

/-- Things are written as values that are nested no deeper than this, and they are read back from
them. -/
structure Form {α : Type} (depth : Nat) (write : α → Json) (read : Json → Option α) : Prop where
  /-- What is written can be read from a text. -/
  plain (a : α) (room : Nat) : Plain (room + depth) (write a)
  /-- What was written is read, in whatever order its fields are put. -/
  read_eq {a : α} {v : Json} : Shuffled v (write a) → read v = some a

/-- A thing is read back as it was written. -/
structure ReadsBack {α : Type} (write : α → Json) (read : Json → Option α) (a : α) : Prop where
  /-- It is read from the value. -/
  value : read (write a) = some a
  /-- It is read from the value in one line. -/
  compact : (read? (write a).compact).bind read = some a
  /-- It is read from the value in many lines. -/
  pretty : (read? (write a).pretty).bind read = some a
  /-- The order in which the fields are written does not matter. -/
  shuffled (v : Json) : Shuffled v (write a) →
    read v = some a ∧ (read? v.compact).bind read = some a ∧ (read? v.pretty).bind read = some a

namespace Form

variable {α β : Type} {depth : Nat} {write : α → Json} {read : Json → Option α}

theorem plain_maxOpen (h : Form depth write read) (hdepth : depth ≤ maxOpen) (a : α) :
    Plain maxOpen (write a) := by
  rw [← Nat.sub_add_cancel hdepth]
  exact h.plain a _

/-- **Things that have a form are read back.** -/
theorem readsBack (h : Form depth write read) (hdepth : depth ≤ maxOpen) (a : α) :
    ReadsBack write read a := by
  have hplain := h.plain_maxOpen hdepth a
  have hread (v : Json) (hv : Shuffled v (write a)) : read v = some a ∧
      (read? v.compact).bind read = some a ∧ (read? v.pretty).bind read = some a := by
    rw [(hv.plain hplain).read?_compact, (hv.plain hplain).read?_pretty, Option.bind_some]
    exact ⟨h.read_eq hv, h.read_eq hv, h.read_eq hv⟩
  obtain ⟨hvalue, hcompact, hpretty⟩ := hread _ hplain.shuffled_refl
  exact ⟨hvalue, hcompact, hpretty, hread⟩

/-! ### Things that are not divided -/

theorem text : Form 0 Json.string string? where
  plain s _ := .string s
  read_eq h := by
    cases h
    rfl

theorem word {name : α → String} {named? : String → Option α}
    (h : ∀ a, named? (name a) = some a) :
    Form 0 (fun a => .string (name a)) fun v => v.choice?.bind named? where
  plain a _ := .string (name a)
  read_eq {a v} hv := by
    generalize hname : name a = s at hv
    cases hv
    exact hname ▸ h a

theorem whole {toInt : α → Int} {ofInt? : Int → Option α} (hfits : ∀ a, Fits (toInt a))
    (h : ∀ a, ofInt? (toInt a) = some a) :
    Form 0 (fun a => .int (toInt a)) fun v => v.integer?.bind ofInt? where
  plain a _ := .int (hfits a)
  read_eq {a v} hv := by
    generalize hint : toInt a = n at hv
    cases hv
    exact hint ▸ h a

theorem word32 : Form 0 (fun n : UInt32 => .int n.toNat) Markup.word32? := by
  refine whole (fun n => ?_) fun n => ?_
  · have hn := n.toNat_lt
    unfold Fits
    omega
  · have hn := n.toNat_lt
    rw [Text.word32OfInt?, if_pos (by omega), Int.toNat_natCast, UInt32.ofNat_toNat]

theorem word64 : Form 0 (fun n : UInt64 => .int n.toNat) Tables.revisionOfJson? := by
  refine whole (fun n => ?_) fun n => ?_
  · have hn := n.toNat_lt
    unfold Fits
    omega
  · have hn := n.toNat_lt
    rw [if_pos (by omega), Int.toNat_natCast, UInt64.ofNat_toNat]

theorem int64 : Form 0 (fun n : Int64 => .int n.toInt) Markup.int64? := by
  refine whole (fun n => ?_) fun n => ?_
  · have hlo := n.le_toInt
    have hhi := n.toInt_lt
    unfold Fits
    omega
  · have hlo := n.le_toInt
    have hhi := n.toInt_lt
    rw [Text.int64OfInt?, if_pos (by omega), Int64.ofInt_toInt]

/-! ### Things that are made of others -/

/-- What is made of a thing has its form, if the thing can be made of it again. -/
theorem map {f : β → α} {g : α → β} (h : Form depth write read) (hg : ∀ b, g (f b) = b) :
    Form depth (fun b => write (f b)) fun v => (read v).map g where
  plain b room := h.plain (f b) room
  read_eq {b v} hv := by rw [h.read_eq hv, Option.map_some, hg]

theorem mapM_eq_some {γ δ : Type} {f : γ → Option δ} {xs : List γ} {ys : List δ}
    (h : List.Forall₂ (fun x y => f x = some y) xs ys) : xs.mapM f = some ys := by
  induction h with
  | nil => rfl
  | cons hx _ ih =>
    rw [List.mapM_cons, hx, ih]
    rfl

theorem listOf (h : Form depth write read) :
    Form (depth + 1) (fun xs => .array (xs.map write)) (listOf? read) where
  plain xs room := by
    refine .array fun v hv => ?_
    obtain ⟨a, -, rfl⟩ := List.mem_map.1 hv
    exact h.plain a room
  read_eq {xs v} hv := by
    obtain ⟨items, rfl, hitems⟩ := hv.exists_items
    rw [List.forall₂_map_right_iff] at hitems
    exact mapM_eq_some (hitems.imp fun _ _ => h.read_eq)

theorem mapM_fields {γ : Type} {name : γ → String} {value : γ → Json}
    (readField : String × Json → Option γ)
    (h : ∀ (e : γ) (v : Json), Shuffled v (value e) → readField (name e, v) = some e)
    {entries : List γ} {fields fields' : List (String × Json)}
    (hperm : fields.Perm (entries.map fun e => (name e, value e)))
    (hfields : Shuffled (.object fields') (.object fields)) :
    ∃ es, fields'.mapM readField = some es ∧ es.Perm entries := by
  obtain ⟨_, ordered, hobject, hordered, hall⟩ := hfields.exists_fields
  obtain rfl := Json.object.inj hobject
  -- The fields in the order in which they stand are those of the entries in some order.
  obtain ⟨es, rfl, hes⟩ : Relation.Comp (· = List.map (fun e => (name e, value e)) ·) List.Perm
      ordered entries := by
    rw [List.eq_map_comp_perm]
    exact hordered.trans hperm
  rw [List.forall₂_map_right_iff] at hall
  refine ⟨es, mapM_eq_some (hall.imp fun f e he => ?_), hes⟩
  obtain ⟨n, v⟩ := f
  obtain ⟨rfl, hv⟩ := he
  exact h e v hv

theorem tableOf?_object (fields : List (String × Json)) :
    tableOf? read (.object fields) =
      (fields.mapM fun f => (read f.2).map (f.1, ·)).bind fun es => some (.ofList es) := rfl

theorem tableOf (h : Form depth write read) :
    Form (depth + 1) (fun t : Table String α => .ofTable (t.map write)) (tableOf? read) where
  plain t room := by
    refine .object fun f hf => ?_
    obtain ⟨e, -, rfl⟩ := List.mem_map.1 hf
    exact h.plain e.2 room
  read_eq {t v} hv := by
    obtain ⟨fields, -, rfl, -⟩ := hv.exists_fields
    obtain ⟨es, hes, hperm⟩ := mapM_fields (fun f => (read f.2).map (f.1, ·))
      (fun e v hv => congrArg (Option.map (e.1, ·)) (h.read_eq hv)) (.refl _) hv
    rw [tableOf?_object, hes]
    exact congrArg some (Table.ofList_of_perm hperm)

end Form

/-! ### Records -/

/-- The fields of a record have the values of these fields, but for the order of fields in them. -/
def Answers (given fields : List (String × Json)) : Prop :=
  ∀ n w, (n, w) ∈ fields → ∃ v, Markup.given? given n = some v ∧ Shuffled v w

theorem given?_of_mem {fields : List (String × Json)} (hnodup : (fields.map (·.1)).Nodup)
    {n : String} {v : Json} (h : (n, v) ∈ fields) : Markup.given? fields n = some v := by
  induction fields with
  | nil => cases h
  | cons f fs ih =>
    rw [List.map_cons, List.nodup_cons] at hnodup
    rcases List.mem_cons.1 h with rfl | h
    · simp [Markup.given?]
    · have hne : ¬ f.1 = n := fun he => hnodup.1 (he ▸ List.mem_map_of_mem h)
      rw [Markup.given?, List.find?_cons_of_neg (by simpa using hne)]
      exact ih hnodup.2 h

/-- An object with exactly the fields of a record is read as that record. -/
theorem fields?_of_perm {names : List String} {fields : List (String × Json)}
    (hperm : (fields.map (·.1)).Perm names) (hnodup : names.Nodup) (spare : Nat) :
    (Json.object fields).fields? names spare = some fields := by
  have hnamed : ∀ f ∈ fields, names.contains f.1 = true := fun f hf =>
    List.contains_iff_mem.2 (hperm.mem_iff.1 (List.mem_map_of_mem hf))
  have honce (n : String) : (fields.filter (·.1 = n)).length ≤ 1 := by
    have hcount := List.nodup_iff_count_le_one.1 (hperm.nodup_iff.2 hnodup) n
    rwa [List.count, List.countP_map, List.countP_eq_length_filter] at hcount
  have hwell : Markup.wellNamed names fields = true := by
    rw [Markup.wellNamed, Bool.and_eq_true, List.all_eq_true, List.all_eq_true]
    exact ⟨hnamed, fun n _ => decide_eq_true (honce n)⟩
  rw [fields?, List.filter_eq_self.2 hnamed, if_pos hwell]

/-- **A record** whose fields are all written is read, in whatever order they are put. -/
theorem Shuffled.fields? {v : Json} {fields : List (String × Json)}
    (h : Shuffled v (.object fields)) (names : List String) (spare : Nat)
    (hperm : (fields.map (·.1)).Perm names) (hnodup : names.Nodup) :
    ∃ given, v.fields? names spare = some given ∧ Answers given fields := by
  cases h with
  | @object pairs _ hpairs hfields =>
    have hgiven : ((pairs.map fun p => (p.1, p.2.1)).map (·.1)).Perm names := by
      have hnames := (hfields.map (·.1)).symm.trans hperm
      rw [List.map_map] at hnames ⊢
      exact hnames
    refine ⟨_, fields?_of_perm hgiven hnodup spare, fun n w hw => ?_⟩
    obtain ⟨p, hp, he⟩ := List.mem_map.1 (hfields.mem_iff.1 hw)
    obtain ⟨rfl, rfl⟩ := Prod.mk.inj he
    exact ⟨p.2.1, given?_of_mem (hgiven.nodup_iff.2 hnodup) (List.mem_map_of_mem hp), hpairs p hp⟩

theorem Answers.field? {given fields : List (String × Json)} (h : Answers given fields) {α : Type}
    {depth : Nat} {write : α → Json} {read : Json → Option α} (hform : Form depth write read)
    {n : String} {a : α} (ha : (n, write a) ∈ fields) : Markup.field? given n read = some a := by
  obtain ⟨v, hv, hshuffled⟩ := h n _ ha
  rw [Markup.field?, hv, Option.bind_some, hform.read_eq hshuffled]

theorem Answers.fieldOr {given fields : List (String × Json)} (h : Answers given fields) {α : Type}
    {depth : Nat} {write : α → Json} {read : Json → Option α} (hform : Form depth write read)
    {n : String} {a : α} (ha : (n, write a) ∈ fields) (default : α) :
    Markup.fieldOr given n read default = some a := by
  obtain ⟨v, hv, hshuffled⟩ := h n _ ha
  rw [Markup.fieldOr, hv]
  exact hform.read_eq hshuffled

end Json

end Registrar
