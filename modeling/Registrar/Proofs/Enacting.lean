import Registrar.Proofs.SeatSetting

/-!
# Settings, one after the other

Settings can be carried out one after the other, each on the tables that the ones before it left.
When something is wrong with a setting, the tables are then as the ones before it left them: a value
is looked at before anything is written.

* `Setting.write`, `Setting.enact`: one setting is carried out, step by step.
* `Setting.enact_eq`: **a setting makes the change that it asks for, or leaves the tables alone.**
* `Setting.enactAll_of_error`: the tables at the setting that stops a row of settings.
* `Tables.load_eq_enactAll`: tables that are loaded are those on which the settings were carried
  out.
-/

namespace Registrar

/-- Work on tables, which stops when something is wrong and leaves the tables as they are then. -/
abbrev Edit (α : Type) : Type := EStateM LoadError Tables α

/-- What was looked at, or what is wrong with it. -/
def Edit.checked {α : Type} : Except LoadError α → Edit α
  | .ok a => pure a
  | .error e => throw e

namespace Setting

/-- The value of a setting is written into the tables, at the entry that is given back. -/
def write (s : Setting) : Edit Target := do
  if s.path = Target.defaultLimit.path then
    let n ← Edit.checked (seats s.value)
    modify fun t => { t with capacity.defaultLimit := n }
    return .defaultLimit
  else if s.path = Target.unresolvedCourse.path then
    let policy ← Edit.checked (treatment s.value)
    modify fun t => { t with capacity.unresolvedCourse := policy }
    return .unresolvedCourse
  else
    match Text.after? "capacity.limits.".toList s.path.toList with
    | none => throw (.unsupportedPath s.path)
    | some modality =>
      if String.ofList modality = "" then throw (.unsupportedPath "capacity.limits.")
      let key := (Modality.read (.ofList modality)).key
      let n ← Edit.checked (seats s.value)
      modify fun t => { t with capacity.limits := t.capacity.limits.insert key n }
      return .limit key

/-- A setting is carried out on the tables: its value is written, and the change is noted. -/
def enact (source : Source) (s : Setting) : Edit Unit := do
  let target ← s.write
  modify (·.record target source)

/-- Settings are carried out one after the other. -/
def enactAll (source : Source) (settings : List Setting) : Edit Unit :=
  settings.forM (enact source)

variable {source : Source} {s : Setting} {t : Tables} {e : LoadError}

/-- **A setting makes the change that it asks for, or leaves the tables alone.** -/
theorem enact_eq (source : Source) (s : Setting) (t : Tables) :
    s.enact source t = match s.change with
      | .ok c => .ok () (t.apply source c)
      | .error e => .error e t := by
  unfold enact write change
  split
  · cases seats s.value <;> rfl
  · split
    · cases treatment s.value <;> rfl
    · cases Text.after? "capacity.limits.".toList s.path.toList with
      | none => rfl
      | some modality =>
        dsimp only
        unfold limitChange
        split
        · rfl
        · cases seats s.value <;> rfl

theorem enact_of_ok {c : Change} (h : s.change = .ok c) :
    s.enact source t = .ok () (t.apply source c) := by
  rw [enact_eq, h]

theorem enact_of_error (h : s.change = .error e) : s.enact source t = .error e t := by
  rw [enact_eq, h]

theorem enactAll_cons (settings : List Setting) :
    enactAll source (s :: settings) t = match s.enact source t with
      | .ok _ t => enactAll source settings t
      | .error e t => .error e t := by
  change EStateM.bind (s.enact source) (fun _ => enactAll source settings) t = _
  unfold EStateM.bind
  cases s.enact source t <;> rfl

theorem enactAll_of_ok {settings : List Setting} {cs : List Change}
    (h : settings.mapM change = .ok cs) :
    enactAll source settings t = .ok () (t.applyAll source cs) := by
  induction settings generalizing t cs with
  | nil =>
    obtain rfl := pure_eq_ok_iff.1 h
    rfl
  | cons s settings ih =>
    rw [List.mapM_cons, bind_eq_ok_iff] at h
    obtain ⟨c, hc, h⟩ := h
    obtain ⟨rest, hrest, h⟩ := bind_eq_ok_iff.1 h
    obtain rfl := pure_eq_ok_iff.1 h
    rw [enactAll_cons, enact_of_ok hc]
    exact ih hrest

/-- **A setting with which something is wrong stops the row**: the changes of the ones before it
stay, and the ones after it make none. -/
theorem enactAll_of_error {before : List Setting} {cs : List Change}
    (hbefore : before.mapM change = .ok cs) (h : s.change = .error e) (after : List Setting) :
    enactAll source (before ++ s :: after) t = .error e (t.applyAll source cs) := by
  induction before generalizing t cs with
  | nil =>
    obtain rfl := pure_eq_ok_iff.1 hbefore
    rw [List.nil_append, enactAll_cons, enact_of_error h]
    rfl
  | cons s' before ih =>
    rw [List.mapM_cons, bind_eq_ok_iff] at hbefore
    obtain ⟨c, hc, hbefore⟩ := hbefore
    obtain ⟨rest, hrest, hbefore⟩ := bind_eq_ok_iff.1 hbefore
    obtain rfl := pure_eq_ok_iff.1 hbefore
    rw [List.cons_append, enactAll_cons, enact_of_ok hc]
    exact ih hrest

theorem exists_of_mapM_error {settings : List Setting} (h : settings.mapM change = .error e) :
    ∃ before s after cs, settings = before ++ s :: after ∧ before.mapM change = .ok cs ∧
      s.change = .error e := by
  induction settings with
  | nil => cases h
  | cons s settings ih =>
    rw [List.mapM_cons] at h
    cases hc : s.change with
    | error e' =>
      rw [hc] at h
      obtain rfl : e' = e := Except.error.inj h
      exact ⟨[], s, settings, [], rfl, rfl, hc⟩
    | ok c =>
      rw [hc] at h
      cases hrest : settings.mapM change with
      | ok cs =>
        rw [hrest] at h
        cases h
      | error e' =>
        rw [hrest] at h
        obtain rfl : e' = e := Except.error.inj h
        obtain ⟨before, s', after, cs, rfl, hbefore, hs'⟩ := ih hrest
        refine ⟨s :: before, s', after, c :: cs, rfl, ?_, hs'⟩
        rw [List.mapM_cons, hc, hbefore]
        rfl

theorem exists_error_of_mem {settings : List Setting} (hmem : s ∈ settings)
    (h : s.change = .error e) : ∃ e', settings.mapM change = .error e' := by
  induction settings with
  | nil => cases hmem
  | cons s' settings ih =>
    rw [List.mapM_cons]
    cases hc : s'.change with
    | error e' => exact ⟨e', rfl⟩
    | ok c =>
      have hmem' : s ∈ settings := by
        refine (List.mem_cons.1 hmem).resolve_left fun hs => ?_
        rw [hs, hc] at h
        cases h
      obtain ⟨e', he'⟩ := ih hmem'
      rw [he']
      exact ⟨e', rfl⟩

end Setting

/-! ### Loading -/

namespace Tables

/-- **Tables that are loaded** are those that the files make, on which the settings are then carried
out one after the other, and after them the policy in a variable. -/
theorem load_eq_enactAll (files : List FileContent) (env : Environment) :
    load files (some env) = (files.mapM fileChanges).bind fun fromFiles =>
      match Setting.enactAll .env (Setting.list env) (initial.applyAll .file fromFiles.flatten) with
      | .ok _ t => (variableChanges env).map (t.applyAll .env)
      | .error e _ => .error e := by
  cases hfiles : files.mapM fileChanges with
  | error e =>
    rw [load, hfiles]
    rfl
  | ok fromFiles =>
    have hload : load files (some env) = (environmentChanges env).map fun fromEnvironment =>
        (initial.applyAll .file fromFiles.flatten).applyAll .env fromEnvironment := by
      cases henv : environmentChanges env <;>
        simp only [load, hfiles, henv, bind, Except.bind, pure, Except.pure, Except.map]
    rw [hload, environmentChanges]
    cases hsettings : (Setting.list env).mapM Setting.change with
    | error e =>
      obtain ⟨before, s, after, cs, hlist, hbefore, hs⟩ := Setting.exists_of_mapM_error hsettings
      simp only [Except.bind, hlist, Setting.enactAll_of_error hbefore hs after]
      rfl
    | ok cs =>
      simp only [Except.bind, Setting.enactAll_of_ok hsettings]
      cases variableChanges env with
      | error e => rfl
      | ok policy => exact congrArg Except.ok (applyAll_append _ .env cs policy)

end Tables

end Registrar
