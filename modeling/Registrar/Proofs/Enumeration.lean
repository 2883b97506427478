import Mathlib.Data.List.Nodup
import Mathlib.Data.List.Perm.Basic
import Registrar.Proofs.Layers

/-!
# The order of the variables

The environment lists its variables in an order that means nothing.  The settings in it are sorted
by their paths before they are carried out, but different names can stand for one path, and of the
settings at one path the one that is listed last counts.

* `Environment.get?_perm`: what a variable holds does not depend on the order.
* `Setting.list_congr`: sorting undoes the order, but for the order at each path.
* `Tables.withoutSeats`: all that settings leave alone; `Tables.withoutSeats_applyAll_perm` says
  that it does not depend on the order of the settings.
* `Tables.load_perm`: **loading depends on the order of the variables only through the order of
  those that stand for one path**, and then only in the seats.
* `Tables.load_reverse_ne`: there it does.
-/

namespace Registrar

/-! ### Variables -/

namespace Environment

variable {env env' : Environment}

theorem get?_eq_some_iff (hnodup : (env.map (·.1)).Nodup) {name raw : String} :
    env.get? name = some raw ↔ (name, raw) ∈ env := by
  rw [get?, Option.map_eq_some_iff]
  constructor
  · rintro ⟨⟨found, _⟩, hfind, rfl⟩
    have hname := List.find?_some hfind
    obtain rfl : found = name := of_decide_eq_true hname
    exact List.mem_of_find?_eq_some hfind
  · intro hmem
    have hsome : (env.find? (·.1 = name)).isSome = true :=
      List.find?_isSome.2 ⟨(name, raw), hmem, decide_eq_true rfl⟩
    obtain ⟨e, hfind⟩ := Option.isSome_iff_exists.1 hsome
    have hname := List.find?_some hfind
    have he : e = (name, raw) := List.inj_on_of_nodup_map hnodup
      (List.mem_of_find?_eq_some hfind) hmem (of_decide_eq_true hname)
    exact ⟨e, hfind, congrArg Prod.snd he⟩

theorem get?_perm (hperm : env.Perm env') (hnodup : (env.map (·.1)).Nodup) (name : String) :
    env.get? name = env'.get? name := by
  have hnodup' : (env'.map (·.1)).Nodup := (hperm.map _).nodup_iff.1 hnodup
  ext raw
  rw [get?_eq_some_iff hnodup, get?_eq_some_iff hnodup', hperm.mem_iff]

end Environment

/-! ### Settings -/

namespace Setting

variable {env env' : Environment}

theorem eq_of_ascending {l l' : List Setting} (hl : l.Pairwise (·.path ≤ ·.path))
    (hl' : l'.Pairwise (·.path ≤ ·.path))
    (h : ∀ path, l.filter (·.path = path) = l'.filter (·.path = path)) : l = l' := by
  have hmem (s : Setting) : s ∈ l ↔ s ∈ l' := by
    simpa using congrArg (s ∈ ·) (h s.path)
  induction l generalizing l' with
  | nil => exact (List.eq_nil_iff_forall_not_mem.2 fun s hs => by simpa using (hmem s).2 hs).symm
  | cons a l ih =>
    cases l' with
    | nil => simpa using (hmem a).1 List.mem_cons_self
    | cons b l' =>
      -- Both paths are the least one, so both settings are the first one at that path.
      have hle : ∀ s ∈ a :: l, a.path ≤ s.path :=
        List.forall_mem_cons.2 ⟨String.le_refl _, (List.pairwise_cons.1 hl).1⟩
      have hle' : ∀ s ∈ b :: l', b.path ≤ s.path :=
        List.forall_mem_cons.2 ⟨String.le_refl _, (List.pairwise_cons.1 hl').1⟩
      have hpath : a.path = b.path := String.le_antisymm
        (hle b ((hmem b).2 List.mem_cons_self)) (hle' a ((hmem a).1 List.mem_cons_self))
      obtain rfl : a = b := by
        have hfirst := h b.path
        simp only [List.filter_cons, hpath, decide_true, if_true, List.cons.injEq] at hfirst
        exact hfirst.1
      have hrest (path : String) :
          l.filter (·.path = path) = l'.filter (·.path = path) := by
        by_cases hp : a.path = path
        · simpa [hp] using h path
        · simpa [hp] using h path
      refine congrArg (a :: ·) (ih hl.of_cons hl'.of_cons hrest fun s => ?_)
      simpa using congrArg (s ∈ ·) (hrest s.path)

/-- **The settings in their order** depend on the order of the variables only through the order of
those that stand for one path. -/
theorem list_congr
    (h : ∀ path, (listed env).filter (·.path = path) = (listed env').filter (·.path = path)) :
    list env = list env' := by
  have harranged := arranged_list env
  have harranged' := arranged_list env'
  refine eq_of_ascending harranged.ascending harranged'.ascending fun path => ?_
  rw [harranged.atPath, harranged'.atPath, h]

/-- When no two settings stand for one path, their order at a path cannot change. -/
theorem filter_path_perm {l l' : List Setting} (hperm : l.Perm l')
    (hnodup : (l.map (·.path)).Nodup) (path : String) :
    l.filter (·.path = path) = l'.filter (·.path = path) := by
  have hatPath := hperm.filter (·.path = path)
  have hne : (l.filter (·.path = path)).Pairwise (·.path ≠ ·.path) :=
    (List.pairwise_map.1 hnodup).filter _
  cases hl : l.filter (·.path = path) with
  | nil => exact (List.nil_perm.1 (hl ▸ hatPath)).symm
  | cons a rest =>
    cases rest with
    | nil => exact List.singleton_perm.1 (hl ▸ hatPath)
    | cons b rest =>
      have hpath : ∀ s ∈ a :: b :: rest, s.path = path := by
        intro s hs
        rw [← hl] at hs
        exact of_decide_eq_true (List.mem_filter.1 hs).2
      rw [hl] at hne
      exact absurd ((hpath a (by simp)).trans (hpath b (by simp)).symm)
        ((List.pairwise_cons.1 hne).1 b List.mem_cons_self)

theorem perm_list (hperm : env.Perm env') : (list env).Perm (list env') := by
  have hlisted : (listed env).Perm (listed env') := hperm.filterMap _
  exact ((List.mergeSort_perm _ _).trans hlisted).trans (List.mergeSort_perm _ _).symm

end Setting

/-- The change is one of the seats, or of what happens to courses that cannot be found. -/
def Change.SetsSeats : Change → Prop
  | limit _ _ | defaultLimit _ | unresolvedCourse _ => True
  | resource _ _ | role _ _ | action _ _ => False

theorem Setting.setsSeats_said? {s : Setting} {c : Change} (h : s.said? = some c) :
    c.SetsSeats := by
  rcases said?_cases h with ⟨seats, rfl⟩ | ⟨policy, rfl⟩ | ⟨raw, seats, rfl⟩
  · trivial
  · trivial
  · trivial

theorem exists_mapM_eq_ok_iff {ε α β : Type} {f : α → Except ε β} {xs : List α} :
    (∃ ys, xs.mapM f = .ok ys) ↔ ∀ x ∈ xs, ∃ y, f x = .ok y := by
  induction xs with
  | nil => exact ⟨nofun, fun _ => ⟨[], rfl⟩⟩
  | cons x xs ih =>
    rw [List.forall_mem_cons, ← ih, List.mapM_cons]
    simp only [bind_eq_ok_iff, pure_eq_ok_iff]
    constructor
    · rintro ⟨_, y, hy, ys, hys, -⟩
      exact ⟨⟨y, hy⟩, ys, hys⟩
    · rintro ⟨⟨y, hy⟩, ys, hys⟩
      exact ⟨y :: ys, y, hy, ys, hys, rfl⟩

/-- **What settings ask for**, in any order: the same changes, in the order of the settings. -/
theorem Setting.exists_changes_perm {settings settings' : List Setting}
    (hperm : settings.Perm settings') {cs : List Change} (h : settings.mapM change = .ok cs) :
    ∃ cs', settings'.mapM change = .ok cs' ∧ cs.Perm cs' ∧ ∀ c ∈ cs, c.SetsSeats := by
  have hall := exists_mapM_eq_ok_iff.1 ⟨cs, h⟩
  obtain ⟨cs', h'⟩ := exists_mapM_eq_ok_iff.2 fun s hs => hall s (hperm.mem_iff.2 hs)
  have hsaid := filterMap_of_mapM_eq_ok (fun _ _ => said?_of_change) h
  have hsaid' := filterMap_of_mapM_eq_ok (fun _ _ => said?_of_change) h'
  refine ⟨cs', h', ?_, fun c hc => ?_⟩
  · rw [← hsaid, ← hsaid']
    exact hperm.filterMap said?
  · obtain ⟨s, -, hs⟩ := List.mem_filterMap.1 (hsaid ▸ hc)
    exact setsSeats_said? hs

/-! ### Tables -/

namespace Tables

/-- All that settings leave alone, and the notes and the count of the changes. -/
def withoutSeats (t : Tables) : Tables := { t with capacity := empty.capacity }

theorem eq_of_withoutSeats_eq {t t' : Tables} (h : t.withoutSeats = t'.withoutSeats) :
    t' = { t with capacity := t'.capacity } := by
  have hfill := congrArg (fun s : Tables => { s with capacity := t'.capacity }) h
  exact hfill.symm

theorem withoutSeats_applyAll_congr {t t' : Tables} (h : t.withoutSeats = t'.withoutSeats)
    (source : Source) (cs : List Change) :
    (t.applyAll source cs).withoutSeats = (t'.applyAll source cs).withoutSeats := by
  have happly (t : Tables) (c : Change) :
      (t.apply source c).withoutSeats = (t.withoutSeats.apply source c).withoutSeats := by
    cases c <;> rfl
  induction cs generalizing t t' with
  | nil => exact h
  | cons c cs ih =>
    have hstep : (t.apply source c).withoutSeats = (t'.apply source c).withoutSeats := by
      rw [happly t, happly t', h]
    exact ih hstep

/-- Changes of the seats, seen from without, are notes. -/
theorem withoutSeats_applyAll_of_setsSeats (t : Tables) (source : Source) {cs : List Change}
    (hseats : ∀ c ∈ cs, c.SetsSeats) :
    (t.applyAll source cs).withoutSeats =
      (cs.map (·.target)).foldl (·.record · source) t.withoutSeats := by
  induction cs generalizing t with
  | nil => rfl
  | cons c cs ih =>
    obtain ⟨hc, hcs⟩ := List.forall_mem_cons.1 hseats
    have happly : (t.apply source c).withoutSeats = t.withoutSeats.record c.target source := by
      cases c with
      | limit key seats => rfl
      | defaultLimit seats => rfl
      | unresolvedCourse policy => rfl
      | resource name roles => exact hc.elim
      | role role permissions => exact hc.elim
      | action verb permission => exact hc.elim
    rw [List.map_cons, List.foldl_cons, ← happly]
    exact ih (t.apply source c) hcs

theorem record_right_comm (t : Tables) (x y : Target) (source : Source) :
    (t.record x source).record y source = (t.record y source).record x source := by
  have hprovenance : ((t.provenance.insert x.path ⟨x.path, source⟩).insert y.path
        ⟨y.path, source⟩) =
      (t.provenance.insert y.path ⟨y.path, source⟩).insert x.path ⟨x.path, source⟩ := by
    refine Table.ext_get? fun path => ?_
    simp only [Table.get?_insert]
    by_cases hy : path = y.path
    · simp [hy]
    · rw [if_neg hy, if_neg hy]
  exact congrArg (fun notes => { t.raiseRevision.raiseRevision with provenance := notes })
    hprovenance

/-- **Changes of the seats in any order** leave the same behind, but for the seats. -/
theorem withoutSeats_applyAll_perm (t : Tables) (source : Source) {cs cs' : List Change}
    (hperm : cs.Perm cs') (hseats : ∀ c ∈ cs, c.SetsSeats) :
    (t.applyAll source cs).withoutSeats = (t.applyAll source cs').withoutSeats := by
  have hseats' : ∀ c ∈ cs', c.SetsSeats := fun c hc => hseats c (hperm.mem_iff.2 hc)
  have : RightCommutative fun (t : Tables) (x : Target) => t.record x source :=
    ⟨fun t x y => record_right_comm t x y source⟩
  rw [withoutSeats_applyAll_of_setsSeats t source hseats,
    withoutSeats_applyAll_of_setsSeats t source hseats']
  exact (hperm.map _).foldl_eq _

theorem variableChanges_perm {env env' : Environment} (hperm : env.Perm env')
    (hnodup : (env.map (·.1)).Nodup) : variableChanges env = variableChanges env' := by
  rw [variableChanges, variableChanges, Environment.get?_perm hperm hnodup]

/-- **The order in which the environment lists its variables** decides neither whether the tables
can be loaded nor anything in them but the seats.  It decides nothing at all when the variables that
stand for one path come in the same order. -/
theorem load_perm (files : List FileContent) {env env' : Environment} (hperm : env.Perm env')
    (hnodup : (env.map (·.1)).Nodup) :
    (∀ t, load files (some env) = .ok t →
      ∃ t', load files (some env') = .ok t' ∧ t' = { t with capacity := t'.capacity }) ∧
    ((∀ path, (Setting.listed env).filter (·.path = path) =
        (Setting.listed env').filter (·.path = path)) →
      load files (some env) = load files (some env')) := by
  have hvariable := variableChanges_perm hperm hnodup
  constructor
  · intro t h
    obtain ⟨fromFiles, hfiles, h⟩ := bind_eq_ok_iff.1 h
    obtain ⟨cs, henv, h⟩ := bind_eq_ok_iff.1 h
    obtain ⟨settings, hsettings, henv⟩ := bind_eq_ok_iff.1 henv
    obtain ⟨policy, hpolicy, henv⟩ := bind_eq_ok_iff.1 henv
    obtain rfl : settings ++ policy = cs := pure_eq_ok_iff.1 henv
    obtain rfl := pure_eq_ok_iff.1 h
    -- The settings ask for the same changes of the seats, in another order.
    obtain ⟨settings', hsettings', hperm', hseats⟩ :=
      Setting.exists_changes_perm (Setting.perm_list hperm) hsettings
    have henv' : environmentChanges env' = .ok (settings' ++ policy) := by
      rw [environmentChanges, hsettings', ← hvariable, hpolicy]
      rfl
    refine ⟨(initial.applyAll .file fromFiles.flatten).applyAll .env (settings' ++ policy), ?_,
      eq_of_withoutSeats_eq ?_⟩
    · simp only [load, hfiles, henv']
      rfl
    · rw [applyAll_append, applyAll_append]
      have hsettled := withoutSeats_applyAll_perm (initial.applyAll .file fromFiles.flatten) .env
        hperm' hseats
      exact withoutSeats_applyAll_congr hsettled .env policy
  · intro hatPath
    have henv : environmentChanges env = environmentChanges env' := by
      rw [environmentChanges, environmentChanges, Setting.list_congr hatPath, hvariable]
    simp only [load, henv]

/-- Two settings, which are not listed in the order of their paths, and a policy. -/
def smallSettings : Environment :=
  [("COURSEGATE_POLICY__CAPACITY__LIMITS__LAB", "20"),
    ("COURSEGATE_POLICY__CAPACITY__DEFAULT_LIMIT", "50"),
    ("COURSEGATE_POLICY_OVERRIDE_JSON",
      "\x7b\"capacity\": \x7b\"limits\": \x7b\"lab\": 7\x7d\x7d\x7d")]

theorem load_perm_small :
    smallSettings.Perm smallSettings.reverse ∧ (smallSettings.map (·.1)).Nodup ∧
      load [.absent] (some smallSettings) = load [.absent] (some smallSettings.reverse) := by
  have hperm : smallSettings.Perm smallSettings.reverse := (List.reverse_perm _).symm
  have hnodup : (smallSettings.map (·.1)).Nodup := by decide
  have hlisted : (Setting.listed smallSettings).Perm (Setting.listed smallSettings.reverse) :=
    hperm.filterMap _
  have hpaths : ((Setting.listed smallSettings).map (·.path)).Nodup := by decide +kernel
  exact ⟨hperm, hnodup, (load_perm [.absent] hperm hnodup).2 fun path =>
    Setting.filter_path_perm hlisted hpaths path⟩

/-- One setting under two names, with different values. -/
def spelledTwice : Environment :=
  [("COURSEGATE_POLICY__CAPACITY__DEFAULT_LIMIT", "50"),
    ("COURSEGATE_POLICY__capacity__default_limit", "60")]

/-- **The order of the variables can decide the seats**: of two names of one setting, the one that
is listed last counts. -/
theorem load_reverse_ne :
    spelledTwice.Perm spelledTwice.reverse ∧ (spelledTwice.map (·.1)).Nodup ∧
      load [] (some spelledTwice) ≠ load [] (some spelledTwice.reverse) := by
  have hlist : Setting.list spelledTwice = Setting.listed spelledTwice :=
    List.mergeSort_of_pairwise (by decide +kernel)
  have hlist' : Setting.list spelledTwice.reverse = Setting.listed spelledTwice.reverse :=
    List.mergeSort_of_pairwise (by decide +kernel)
  have hseats : (load [] (some spelledTwice)).toOption.map (·.capacity.defaultLimit) =
      some 60 := by
    simp only [load, environmentChanges, hlist]
    decide +kernel
  have hseats' : (load [] (some spelledTwice.reverse)).toOption.map (·.capacity.defaultLimit) =
      some 50 := by
    simp only [load, environmentChanges, hlist']
    decide +kernel
  refine ⟨(List.reverse_perm _).symm, by decide, fun heq => ?_⟩
  rw [heq, hseats'] at hseats
  exact absurd hseats (by decide)

end Tables

end Registrar
