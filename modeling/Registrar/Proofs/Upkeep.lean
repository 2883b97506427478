import Registrar.Policy.Amendment
import Registrar.Proofs.Layers
import Registrar.Proofs.NormalForm

/-!
# The upkeep of the tables

The tables are written by policy files, settings, a policy in a variable and amendments.  All of
these keep an entry under the normal form of its name and note it under its path, so the questions
find every entry, and the notes are about the entries that there are.

* `Target.Normal`: the name of an entry is in normal form.
* `Tables.Kept`: all names are, and the notes are about the entries; `Tables.Kept.apply` says that
  one change keeps it so.
* `Layer.normal_list`, `Amendment.normal_target_change`: layers and amendments write normal names
  only.
* `Tables.WellKept`, `Tables.wellKept_amendAll`: **tables that are loaded, and then amended, are
  well kept.**
-/

namespace Registrar

/-! ### Normal names -/

/-- The name that an entry is kept under is the one that questions about it are looked up under. -/
def Target.Normal : Target → Prop
  | resource name => Text.trim name = name
  | action verb => actionKey verb = verb
  | limit key => (Modality.read key).key = key
  | role _ | defaultLimit | unresolvedCourse => True

instance : DecidablePred Target.Normal
  | .resource name => inferInstanceAs (Decidable (Text.trim name = name))
  | .action verb => inferInstanceAs (Decidable (actionKey verb = verb))
  | .limit key => inferInstanceAs (Decidable ((Modality.read key).key = key))
  | .role _ | .defaultLimit | .unresolvedCourse => .isTrue trivial

namespace Target

theorem normal_resource_trim (name : String) : (resource (Text.trim name)).Normal :=
  Text.trim_trim name

theorem normal_action_actionKey (action : String) : (Target.action (actionKey action)).Normal :=
  actionKey_actionKey action

theorem normal_limit_key_read (raw : String) : (limit (Modality.read raw).key).Normal :=
  congrArg Modality.key (Modality.read_key_read raw)

end Target

theorem CapacityOverlay.normal_said (o : CapacityOverlay) : ∀ c ∈ o.said, c.target.Normal := by
  simp only [said, List.mem_append, List.mem_map, Option.mem_toList, Option.map_eq_some_iff]
  rintro _ ((⟨⟨modality, seats⟩, -, rfl⟩ | ⟨seats, -, rfl⟩) | ⟨policy, -, rfl⟩)
  · exact Target.normal_limit_key_read modality
  · trivial
  · trivial

theorem Overlay.normal_said (o : Overlay) : ∀ c ∈ o.said, c.target.Normal := by
  simp only [said, List.mem_append, List.mem_map, List.mem_filterMap]
  rintro c (((⟨⟨name, roles⟩, -, rfl⟩ | ⟨⟨name, permissions⟩, -, hc⟩) |
    ⟨⟨action, permission⟩, -, rfl⟩) | hc)
  · exact Target.normal_resource_trim name
  · obtain ⟨r, -, rfl⟩ := Option.map_eq_some_iff.1 hc
    trivial
  · exact Target.normal_action_actionKey action
  · cases hcapacity : o.capacity with
    | none => simp [hcapacity] at hc
    | some capacity =>
      rw [hcapacity] at hc
      exact capacity.normal_said c hc

theorem Setting.normal_said? {s : Setting} {c : Change} (h : s.said? = some c) :
    c.target.Normal := by
  rcases said?_cases h with ⟨seats, rfl⟩ | ⟨policy, rfl⟩ | ⟨raw, seats, rfl⟩
  · trivial
  · trivial
  · exact Target.normal_limit_key_read raw

theorem Layer.normal_list (files : List FileContent) (env : Option Environment) :
    ∀ layer ∈ Layer.list files env, ∀ c ∈ layer.said, c.target.Normal := by
  intro layer hlayer
  rcases List.mem_append.1 hlayer with hfile | henv
  · obtain ⟨file, -, hfile⟩ := List.mem_flatMap.1 hfile
    obtain ⟨o, -, rfl⟩ := List.mem_map.1 hfile
    exact o.normal_said
  · cases env with
    | none => cases henv
    | some env =>
      rcases List.mem_append.1 henv with hsetting | hpolicy
      · obtain ⟨s, -, rfl⟩ := List.mem_map.1 hsetting
        intro c hc
        exact Setting.normal_said? (Option.mem_toList.1 hc)
      · obtain ⟨o, -, rfl⟩ := List.mem_map.1 hpolicy
        exact o.normal_said

/-! ### Amendments are changes -/

namespace Amendment

/-- The modality whose seats are limited, if any, is one that a text names. -/
def Named : Amendment → Prop
  | limitSeats modality _ => ∃ raw, Modality.read raw = modality
  | _ => True

/-- The change that an amendment of the tables is: what it adds to a set is added to the set that
there is. -/
def change (t : Tables) : Amendment → Change
  | openResource resource roles =>
    .resource (Text.trim resource)
      (((t.resourceRoles.get? (Text.trim resource)).getD .empty).addAll roles)
  | grant role permissions =>
    .role role (((t.rolePermissions.get? role).getD .empty).addAll permissions)
  | require action permission => .action (actionKey action) permission
  | limitSeats modality limit => .limit modality.key limit
  | treatUnresolved policy => .unresolvedCourse policy

theorem normal_target_change (t : Tables) {a : Amendment} (h : a.Named) :
    (a.change t).target.Normal := by
  cases a with
  | openResource resource roles => exact Target.normal_resource_trim resource
  | grant role permissions => trivial
  | require action permission => exact Target.normal_action_actionKey action
  | limitSeats modality limit =>
    obtain ⟨raw, rfl⟩ := h
    exact Target.normal_limit_key_read raw
  | treatUnresolved policy => trivial

end Amendment

namespace Tables

theorem amend_eq_apply (t : Tables) (a : Amendment) : t.amend a = t.apply .admin (a.change t) := by
  cases a <;> rfl

/-- The tables after amendments, one after the other. -/
def amendAll (t : Tables) (amendments : List Amendment) : Tables := amendments.foldl amend t

/-! ### The entries that there are -/

theorem mem_targets_iff {t : Tables} {x : Target} : x ∈ t.targets ↔ (t.held? x).isSome = true := by
  have hroles (r : Role) : (∃ v, (r, v) ∈ t.rolePermissions.entries) ↔
      (t.rolePermissions.get? r).isSome = true := by
    simp [Option.isSome_iff_exists, RoleMap.get?_eq_some_iff]
  cases x <;> simp [targets, held?, Table.mem_keys_iff, hroles]

theorem mem_targets_apply {t : Tables} {source : Source} {c : Change} {x : Target} :
    x ∈ (t.apply source c).targets ↔ x = c.target ∨ x ∈ t.targets := by
  rw [mem_targets_iff, mem_targets_iff, held?_apply]
  by_cases h : x = c.target <;> simp [h]

/-! ### The notes -/

/-- The notes are about these entries, and each note says which one it is about. -/
structure Noted (t : Tables) (entries : Target → Prop) : Prop where
  /-- They are kept under the paths of the entries. -/
  paths : ∀ path, path ∈ t.provenance.keys ↔ ∃ x, entries x ∧ x.path = path
  /-- The path in a note is the one that it is kept under. -/
  path_eq : ∀ path note, t.provenance.get? path = some note → note.path = path

theorem Noted.congr {t : Tables} {entries entries' : Target → Prop} (h : t.Noted entries)
    (heq : ∀ x, entries x ↔ entries' x) : t.Noted entries' := by
  obtain rfl : entries = entries' := funext fun x => propext (heq x)
  exact h

theorem Noted.setProvenance {t : Tables} {entries : Target → Prop} (h : t.Noted entries)
    (x : Target) (source : Source) :
    (t.setProvenance x.path source).Noted fun y => y = x ∨ entries y := by
  have hget (path : String) : (t.setProvenance x.path source).provenance.get? path =
      if path = x.path then some ⟨x.path, source⟩ else t.provenance.get? path :=
    Table.get?_insert ..
  constructor
  · intro path
    rw [Table.mem_keys_iff, hget]
    by_cases hpath : path = x.path
    · rw [if_pos hpath, Option.isSome_some, iff_true_left rfl]
      exact ⟨x, .inl rfl, hpath.symm⟩
    · rw [if_neg hpath, ← Table.mem_keys_iff, h.paths]
      constructor
      · rintro ⟨y, hy, rfl⟩
        exact ⟨y, .inr hy, rfl⟩
      · rintro ⟨y, rfl | hy, rfl⟩
        · exact absurd rfl hpath
        · exact ⟨y, hy, rfl⟩
  · intro path note hnote
    rw [hget] at hnote
    split at hnote
    · next hpath =>
      obtain rfl : (⟨x.path, source⟩ : Provenance) = note := Option.some.inj hnote
      exact hpath.symm
    · exact h.path_eq path note hnote

theorem noted_initial : initial.Noted (· ∈ builtin.targets) := by
  -- The fold adds its entries to those that are noted already.
  have hfold (targets : List Target) (t : Tables) (entries : Target → Prop) (h : t.Noted entries) :
      (targets.foldl (fun t target => t.setProvenance target.path .builtin) t).Noted
        fun x => x ∈ targets ∨ entries x := by
    induction targets generalizing t entries with
    | nil => exact h.congr fun x => by simp
    | cons target targets ih =>
      refine (ih _ _ (h.setProvenance target .builtin)).congr fun x => ?_
      rw [List.mem_cons, or_assoc, or_left_comm]
  have hnone : builtin.Noted fun _ => False :=
    ⟨fun path => by simp [builtin, Table.keys, Table.empty], nofun⟩
  exact (hfold builtin.targets builtin _ hnone).congr fun x => by simp

/-! ### Keeping the tables -/

/-- The names are normal, and the notes are about the entries that there are. -/
structure Kept (t : Tables) : Prop where
  /-- The names are normal. -/
  normal : ∀ x ∈ t.targets, x.Normal
  /-- The notes are about the entries. -/
  noted : t.Noted (· ∈ t.targets)

theorem kept_initial : initial.Kept := by
  have htargets (x : Target) : x ∈ initial.targets ↔ x ∈ builtin.targets := by
    rw [mem_targets_iff, mem_targets_iff, held?_initial]
  have hnormal : ∀ x ∈ builtin.targets, x.Normal := by decide +kernel
  exact ⟨fun x hx => hnormal x ((htargets x).1 hx), noted_initial.congr fun x => (htargets x).symm⟩

/-- **A change under a normal name keeps the tables.** -/
theorem Kept.apply {t : Tables} (h : t.Kept) (source : Source) {c : Change}
    (hc : c.target.Normal) : (t.apply source c).Kept := by
  constructor
  · intro x hx
    rcases mem_targets_apply.1 hx with rfl | hx
    · exact hc
    · exact h.normal x hx
  · have hprovenance : (t.apply source c).provenance =
        (t.setProvenance c.target.path source).provenance := by
      cases c <;> rfl
    have hset := h.noted.setProvenance c.target source
    have hnoted : (t.apply source c).Noted fun x => x = c.target ∨ x ∈ t.targets :=
      ⟨hprovenance ▸ hset.paths, hprovenance ▸ hset.path_eq⟩
    exact hnoted.congr fun x => mem_targets_apply.symm

theorem Kept.applyAll {t : Tables} (h : t.Kept) (source : Source) {cs : List Change}
    (hcs : ∀ c ∈ cs, c.target.Normal) : (t.applyAll source cs).Kept := by
  induction cs generalizing t with
  | nil => exact h
  | cons c cs ih =>
    obtain ⟨hc, hcs⟩ := List.forall_mem_cons.1 hcs
    exact ih (h.apply source hc) hcs

theorem Kept.under {t : Tables} (h : t.Kept) {layers : List Layer}
    (hlayers : ∀ layer ∈ layers, ∀ c ∈ layer.said, c.target.Normal) : (t.under layers).Kept := by
  induction layers generalizing t with
  | nil => exact h
  | cons layer layers ih =>
    obtain ⟨hlayer, hlayers⟩ := List.forall_mem_cons.1 hlayers
    exact ih (h.applyAll layer.source hlayer) hlayers

theorem Kept.amendAll {t : Tables} (h : t.Kept) {amendments : List Amendment}
    (hnamed : ∀ a ∈ amendments, a.Named) : (t.amendAll amendments).Kept := by
  induction amendments generalizing t with
  | nil => exact h
  | cons a amendments ih =>
    obtain ⟨ha, hnamed⟩ := List.forall_mem_cons.1 hnamed
    have hamend : (t.amend a).Kept := by
      rw [amend_eq_apply]
      exact h.apply .admin (a.normal_target_change t ha)
    exact ih hamend hnamed

/-! ### Well kept tables -/

/-- The entries are kept under names in normal form, so that the questions find them, and the notes
are about the entries that there are. -/
structure WellKept (t : Tables) : Prop where
  /-- Resources are kept trimmed. -/
  trim_resource : ∀ name ∈ t.resourceRoles.keys, Text.trim name = name
  /-- Actions are kept trimmed and in lower case. -/
  actionKey_action : ∀ verb ∈ t.actionPermissions.keys, actionKey verb = verb
  /-- Seat limits are kept under the key of the modality that the key names. -/
  key_limit : ∀ key ∈ t.capacity.limits.keys, (Modality.read key).key = key
  /-- The roles of each resource are found. -/
  allowedRoles : ∀ e ∈ t.resourceRoles.entries, t.allowedRoles e.1 = some e.2
  /-- The permissions of each role are found. -/
  permissions : ∀ e ∈ t.rolePermissions.entries, t.permissions e.1 = some e.2
  /-- The permission that each action needs is found. -/
  requiredPermission : ∀ e ∈ t.actionPermissions.entries, t.requiredPermission e.1 = some e.2
  /-- Each seat limit is found. -/
  seatLimit : ∀ e ∈ t.capacity.limits.entries, t.seatLimit (Modality.read e.1) = e.2
  /-- The notes are kept under the paths of the entries that there are, and under no others. -/
  paths : ∀ path, path ∈ t.provenance.keys ↔
    (∃ name ∈ t.resourceRoles.keys, path = "resource_roles." ++ name) ∨
    (∃ e ∈ t.rolePermissions.entries, path = "role_permissions." ++ e.1.name) ∨
    (∃ verb ∈ t.actionPermissions.keys, path = "action_permissions." ++ verb) ∨
    (∃ key ∈ t.capacity.limits.keys, path = "capacity.limits." ++ key) ∨
    path = "capacity.default_limit" ∨ path = "capacity.unresolved_course"
  /-- The path in a note is the one that it is kept under. -/
  path_eq : ∀ e ∈ t.provenance.entries, e.2.path = e.1

/-- The paths of the entries that there are, kind by kind. -/
theorem exists_targets_path_iff {t : Tables} {path : String} :
    (∃ x ∈ t.targets, x.path = path) ↔
      (∃ name ∈ t.resourceRoles.keys, path = "resource_roles." ++ name) ∨
      (∃ e ∈ t.rolePermissions.entries, path = "role_permissions." ++ e.1.name) ∨
      (∃ verb ∈ t.actionPermissions.keys, path = "action_permissions." ++ verb) ∨
      (∃ key ∈ t.capacity.limits.keys, path = "capacity.limits." ++ key) ∨
      path = "capacity.default_limit" ∨ path = "capacity.unresolved_course" := by
  constructor
  · rintro ⟨x, hx, rfl⟩
    cases x with
    | resource name => exact .inl ⟨name, by simpa [targets] using hx, rfl⟩
    | role r =>
      obtain ⟨e, he, rfl⟩ : ∃ e ∈ t.rolePermissions.entries, e.1 = r := by
        simpa [targets] using hx
      exact .inr (.inl ⟨e, he, rfl⟩)
    | action verb => exact .inr (.inr (.inl ⟨verb, by simpa [targets] using hx, rfl⟩))
    | limit key => exact .inr (.inr (.inr (.inl ⟨key, by simpa [targets] using hx, rfl⟩)))
    | defaultLimit => exact .inr (.inr (.inr (.inr (.inl rfl))))
    | unresolvedCourse => exact .inr (.inr (.inr (.inr (.inr rfl))))
  · rintro (⟨name, hname, rfl⟩ | ⟨e, he, rfl⟩ | ⟨verb, hverb, rfl⟩ | ⟨key, hkey, rfl⟩ | rfl | rfl)
    · exact ⟨.resource name, by simpa [targets] using hname, rfl⟩
    · exact ⟨.role e.1, by simpa [targets] using ⟨e.2, he⟩, rfl⟩
    · exact ⟨.action verb, by simpa [targets] using hverb, rfl⟩
    · exact ⟨.limit key, by simpa [targets] using hkey, rfl⟩
    · exact ⟨.defaultLimit, by simp [targets], rfl⟩
    · exact ⟨.unresolvedCourse, by simp [targets], rfl⟩

theorem Kept.wellKept {t : Tables} (h : t.Kept) : t.WellKept := by
  have hresource : ∀ name ∈ t.resourceRoles.keys, Text.trim name = name := fun name hname =>
    h.normal (.resource name) (by simpa [targets] using hname)
  have haction : ∀ verb ∈ t.actionPermissions.keys, actionKey verb = verb := fun verb hverb =>
    h.normal (.action verb) (by simpa [targets] using hverb)
  have hlimit : ∀ key ∈ t.capacity.limits.keys, (Modality.read key).key = key := fun key hkey =>
    h.normal (.limit key) (by simpa [targets] using hkey)
  constructor
  case trim_resource => exact hresource
  case actionKey_action => exact haction
  case key_limit => exact hlimit
  case allowedRoles =>
    intro e he
    rw [allowedRoles, hresource e.1 (List.mem_map_of_mem he)]
    exact Table.get?_eq_some_iff.2 he
  case permissions => exact fun e he => RoleMap.get?_eq_some_iff.2 he
  case requiredPermission =>
    intro e he
    rw [requiredPermission, haction e.1 (List.mem_map_of_mem he)]
    exact Table.get?_eq_some_iff.2 he
  case seatLimit =>
    intro e he
    rw [seatLimit, hlimit e.1 (List.mem_map_of_mem he), Table.get?_eq_some_iff.2 he,
      Option.getD_some]
  case paths =>
    intro path
    rw [h.noted.paths, exists_targets_path_iff]
  case path_eq => exact fun e he => h.noted.path_eq e.1 e.2 (Table.get?_eq_some_iff.2 he)

/-- **Tables that are loaded, from whatever files and settings, and then amended are well kept.** -/
theorem wellKept_amendAll {files : List FileContent} {env : Option Environment} {t : Tables}
    (h : load files env = .ok t) {amendments : List Amendment}
    (hnamed : ∀ a ∈ amendments, a.Named) : (t.amendAll amendments).WellKept := by
  obtain rfl := load_eq_ok h
  have hloaded := kept_initial.under (Layer.normal_list files env)
  exact (hloaded.amendAll hnamed).wellKept

/-- Amendments that trim, that lower, and that use a word for a modality other than its key. -/
def smallAmendments : List Amendment :=
  [.openResource " course.list\t" [.student], .require " Audit " "audit",
    .limitSeats (Modality.read "LAB") 20, .grant .teacher ["audit"]]

/-- What the amendments write is found. -/
theorem wellKept_amendAll_small :
    ∃ t, load [.absent] (some smallSetting) = .ok t ∧ (∀ a ∈ smallAmendments, a.Named) ∧
      (t.amendAll smallAmendments).WellKept ∧
      (t.amendAll smallAmendments).requiredPermission "audit" = some "audit" := by
  have hnamed : ∀ a ∈ smallAmendments, a.Named := by
    simp [smallAmendments, Amendment.Named]
  have hfound : (load [.absent] (some smallSetting)).toOption.map
      (fun t => (t.amendAll smallAmendments).requiredPermission "audit") = some (some "audit") := by
    decide +kernel
  cases hload : load [.absent] (some smallSetting) with
  | error e => simp [hload, Except.toOption] at hfound
  | ok t =>
    refine ⟨t, rfl, hnamed, wellKept_amendAll hload hnamed, ?_⟩
    simpa [hload, Except.toOption] using hfound

end Tables

end Registrar
