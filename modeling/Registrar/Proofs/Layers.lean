import Mathlib.Algebra.GroupWithZero.Nat
import Mathlib.Data.List.Basic
import Registrar.Policy.Loading
import Registrar.Proofs.Entries

/-!
# Layers of policy

The tables in force are made of layers that lie on the built-in ones: the policy files in order,
then the settings of the environment by their paths, and last the policy in a variable.

* `Overlay.said`, `Setting.said?`: what a file, a variable or a setting says, in normal form: names
  trimmed, actions in lower case, roles and modalities by what their names stand for.
* `Layer.list`: the layers, the lowest one first; `Setting.arranged_list` is about their order.
* `lastChange?`: the last change of an entry, which is the last one in the last layer that has one.
* `Tables.load_eq_ok`: tables that are loaded are the built-in ones under the layers.
* `Tables.under_last`: what every change of an entry writes anew is what its last change wrote.
* `Tables.LayeredBy`, `Tables.layeredBy_load`: **what the last layer says holds**, instead of all
  that the layers below it say about the same entry, and the entry is noted as coming from there.
-/

namespace Registrar

/-! ### What is said -/

/-- The role that a name stands for, if it stands for one. -/
def Role.known? (name : String) : Option Role := (read name).toOption

/-- What is said about seats. -/
def CapacityOverlay.said (c : CapacityOverlay) : List Change :=
  c.limits.entries.map (fun (modality, seats) => .limit (Modality.read modality).key seats) ++
    (c.defaultLimit.map .defaultLimit).toList ++ (c.unresolvedCourse.map .unresolvedCourse).toList

/-- What is said in an overlay, in ascending order of the names as they are written.  Names of roles
that nobody knows are left out. -/
def Overlay.said (o : Overlay) : List Change :=
  o.resourceRoles.entries.map (fun (name, roles) =>
      .resource (Text.trim name) (.ofList (roles.filterMap Role.known?))) ++
    o.rolePermissions.entries.filterMap (fun (name, permissions) =>
      (Role.known? name).map (.role · (.ofList (permissions.map Text.trim)))) ++
    o.actionPermissions.entries.map (fun (action, permission) =>
      .action (actionKey action) (Text.trim permission)) ++
    (o.capacity.map CapacityOverlay.said).getD []

/-- What a setting says, if there is an entry at its path and it can have the value. -/
def Setting.said? (s : Setting) : Option Change :=
  if s.path = Target.defaultLimit.path then (seats s.value).toOption.map .defaultLimit
  else if s.path = Target.unresolvedCourse.path then
    (treatment s.value).toOption.map .unresolvedCourse
  else
    (Text.after? "capacity.limits.".toList s.path.toList).bind fun modality =>
      (seats s.value).toOption.map (.limit (Modality.read (.ofList modality)).key)

/-! ### What is loaded is what is said -/

section Checked

variable {ε α β : Type}

theorem bind_eq_ok_iff {x : Except ε α} {f : α → Except ε β} {b : β} :
    x >>= f = .ok b ↔ ∃ a, x = .ok a ∧ f a = .ok b := by
  cases x <;> simp [bind, Except.bind]

theorem pure_eq_ok_iff {a b : α} : (pure a : Except ε α) = .ok b ↔ a = b := by
  simp [pure, Except.pure]

theorem filterMap_of_mapM_eq_ok {f : α → Except ε β} {g : α → Option β}
    (hg : ∀ x y, f x = .ok y → g x = some y) {xs : List α} {ys : List β}
    (h : xs.mapM f = .ok ys) : xs.filterMap g = ys := by
  induction xs generalizing ys with
  | nil => exact pure_eq_ok_iff.1 h
  | cons x xs ih =>
    rw [List.mapM_cons, bind_eq_ok_iff] at h
    obtain ⟨y, hy, h⟩ := h
    obtain ⟨rest, hrest, h⟩ := bind_eq_ok_iff.1 h
    obtain rfl : y :: rest = ys := pure_eq_ok_iff.1 h
    rw [List.filterMap_cons_some (hg x y hy), ih hrest]

theorem map_of_mapM_eq_ok {f : α → Except ε β} {g : α → β} (hg : ∀ x y, f x = .ok y → g x = y)
    {xs : List α} {ys : List β} (h : xs.mapM f = .ok ys) : xs.map g = ys := by
  rw [← List.filterMap_eq_map]
  exact filterMap_of_mapM_eq_ok (fun x y hx => congrArg some (hg x y hx)) h

end Checked

theorem Overlay.known?_of_role {name : String} {r : Role} (h : role name = .ok r) :
    Role.known? name = some r := by
  unfold role at h
  unfold Role.known?
  cases hr : Role.read name with
  | error e => simp [hr, Except.mapError] at h
  | ok q =>
    obtain rfl : q = r := by simpa [hr, Except.mapError] using h
    rfl

theorem limitChange_eq_ok {modality : String} {seats : Except LoadError UInt32} {c : Change}
    (h : limitChange modality seats = .ok c) :
    ∃ n, seats = .ok n ∧ .limit (Modality.read modality).key n = c := by
  unfold limitChange at h
  split at h
  · cases h
  · obtain ⟨n, hn, h⟩ := bind_eq_ok_iff.1 h
    exact ⟨n, hn, pure_eq_ok_iff.1 h⟩

namespace Overlay

theorem resourceChange_eq_ok {name : String} {roles : List String} {c : Change}
    (h : resourceChange name roles = .ok c) :
    .resource (Text.trim name) (.ofList (roles.filterMap Role.known?)) = c := by
  obtain ⟨members, hmembers, h⟩ := bind_eq_ok_iff.1 h
  rw [filterMap_of_mapM_eq_ok (fun _ _ => known?_of_role) hmembers]
  exact pure_eq_ok_iff.1 h

theorem roleChange_eq_ok {name : String} {permissions : List String} {c : Change}
    (h : roleChange name permissions = .ok c) :
    (Role.known? name).map (.role · (.ofList (permissions.map Text.trim))) = some c := by
  obtain ⟨r, hr, h⟩ := bind_eq_ok_iff.1 h
  rw [known?_of_role hr, Option.map_some]
  exact congrArg some (pure_eq_ok_iff.1 h)

theorem capacityChanges_eq_ok {o : CapacityOverlay} {cs : List Change}
    (h : capacityChanges o = .ok cs) : o.said = cs := by
  obtain ⟨limits, hlimits, h⟩ := bind_eq_ok_iff.1 h
  have hsaid := map_of_mapM_eq_ok
    (g := fun (modality, seats) => .limit (Modality.read modality).key seats)
    (fun ⟨modality, seats⟩ c hc => by
      obtain ⟨n, hn, rfl⟩ := limitChange_eq_ok hc
      obtain rfl : seats = n := by simpa using hn
      rfl) hlimits
  rw [CapacityOverlay.said, hsaid]
  exact pure_eq_ok_iff.1 h

/-- **An overlay that can be carried out** asks for what is said in it. -/
theorem changes_eq_ok {o : Overlay} {cs : List Change} (h : o.changes = .ok cs) : o.said = cs := by
  obtain ⟨resources, hresources, h⟩ := bind_eq_ok_iff.1 h
  obtain ⟨roles, hroles, h⟩ := bind_eq_ok_iff.1 h
  obtain ⟨actions, hactions, h⟩ := bind_eq_ok_iff.1 h
  have hresources' := map_of_mapM_eq_ok
    (g := fun (name, roles) => .resource (Text.trim name) (.ofList (roles.filterMap Role.known?)))
    (fun _ _ => resourceChange_eq_ok) hresources
  have hroles' := filterMap_of_mapM_eq_ok
    (g := fun (name, permissions) =>
      (Role.known? name).map (.role · (.ofList (permissions.map Text.trim))))
    (fun _ _ => roleChange_eq_ok) hroles
  have hactions' := map_of_mapM_eq_ok
    (g := fun (action, permission) => .action (actionKey action) (Text.trim permission))
    (fun _ _ hc => by simpa [actionChange] using hc) hactions
  rw [said, hresources', hroles', hactions']
  cases hcapacity : o.capacity with
  | none =>
    rw [hcapacity] at h
    exact pure_eq_ok_iff.1 h
  | some capacity =>
    rw [hcapacity] at h
    obtain ⟨seats, hseats, h⟩ := bind_eq_ok_iff.1 h
    rw [Option.map_some, Option.getD_some, capacityChanges_eq_ok hseats]
    exact pure_eq_ok_iff.1 h

end Overlay

theorem Setting.said?_of_change {s : Setting} {c : Change} (h : s.change = .ok c) :
    s.said? = some c := by
  have map_ok {α : Type} {x : Except LoadError α} {f : α → Change} (hx : x.map f = .ok c) :
      x.toOption.map f = some c := by
    cases x with
    | error e => cases hx
    | ok a => simpa [Except.map, Except.toOption] using hx
  unfold change at h
  unfold said?
  split at h
  · next hpath =>
    rw [if_pos hpath]
    exact map_ok h
  · next hpath =>
    rw [if_neg hpath]
    split at h
    · next hpath' =>
      rw [if_pos hpath']
      exact map_ok h
    · next hpath' =>
      rw [if_neg hpath']
      split at h
      · next modality hmodality =>
        rw [hmodality, Option.bind_some]
        obtain ⟨n, hn, rfl⟩ := limitChange_eq_ok h
        rw [hn]
        rfl
      · cases h

/-- A setting speaks about the seats of a modality or of all others, or about what happens to
courses that cannot be found. -/
theorem Setting.said?_cases {s : Setting} {c : Change} (h : s.said? = some c) :
    (∃ seats, c = .defaultLimit seats) ∨ (∃ policy, c = .unresolvedCourse policy) ∨
      ∃ raw seats, c = .limit (Modality.read raw).key seats := by
  unfold said? at h
  split at h
  · obtain ⟨seats, -, rfl⟩ := Option.map_eq_some_iff.1 h
    exact .inl ⟨seats, rfl⟩
  · split at h
    · obtain ⟨policy, -, rfl⟩ := Option.map_eq_some_iff.1 h
      exact .inr (.inl ⟨policy, rfl⟩)
    · obtain ⟨modality, -, h⟩ := Option.bind_eq_some_iff.1 h
      obtain ⟨seats, -, rfl⟩ := Option.map_eq_some_iff.1 h
      exact .inr (.inr ⟨_, seats, rfl⟩)

/-! ### The layers -/

/-- The policy in a file.  A file that is missing or blank has none. -/
def FileContent.overlay? : FileContent → Option Overlay
  | text content =>
    if Text.blank content then none else Yaml.Document.decode? Overlay.read? content
  | _ => none

/-- The policy in the variable for it.  A variable that is not set or blank has none. -/
def Environment.overlay? (env : Environment) : Option Overlay :=
  (env.get? policyVariable).bind fun raw =>
    if Text.blank raw then none else (Json.read? raw).bind Overlay.read?

/-- A layer of policy. -/
structure Layer where
  /-- Where it comes from. -/
  source : Source
  /-- What it says, in order. -/
  said : List Change

namespace Layer

/-- The layer that an overlay is. -/
def ofOverlay (source : Source) (o : Overlay) : Layer := ⟨source, o.said⟩

/-- The layer that a setting is. -/
def ofSetting (s : Setting) : Layer := ⟨.env, s.said?.toList⟩

/-- The layers that files are, in their order. -/
def ofFiles (files : List FileContent) : List Layer :=
  files.flatMap fun file => file.overlay?.toList.map (ofOverlay .file)

/-- The layers that an environment is: its settings, and above them its policy. -/
def ofEnvironment (env : Environment) : List Layer :=
  (Setting.list env).map ofSetting ++ env.overlay?.toList.map (ofOverlay .env)

/-- The layers that lie on the built-in tables, the lowest one first. -/
def list (files : List FileContent) (env : Option Environment) : List Layer :=
  ofFiles files ++ (env.map ofEnvironment).getD []

end Layer

/-- The settings of an environment as it lists them. -/
def Setting.listed (env : Environment) : List Setting :=
  env.filterMap fun (name, raw) => (path? name).map (⟨·, valueOf raw⟩)

/-- The settings of an environment lie in ascending order of their paths, and those at one path in
the order of the environment. -/
structure Setting.Arranged (env : Environment) (settings : List Setting) : Prop where
  /-- The paths ascend. -/
  ascending : settings.Pairwise (·.path ≤ ·.path)
  /-- At each path there are the settings of the environment, in its order. -/
  atPath : ∀ path, settings.filter (·.path = path) = (listed env).filter (·.path = path)

theorem Setting.arranged_list (env : Environment) : Arranged env (list env) := by
  let le (a b : Setting) : Bool := decide (a.path ≤ b.path)
  have htrans (a b c : Setting) (hab : le a b = true) (hbc : le b c = true) : le a c = true := by
    simp only [le, decide_eq_true_eq] at hab hbc ⊢
    exact String.le_trans hab hbc
  have htotal (a b : Setting) : (le a b || le b a) = true := by
    simpa [le] using String.le_total a.path b.path
  constructor
  · exact (List.pairwise_mergeSort htrans htotal (listed env)).imp fun h => of_decide_eq_true h
  · intro path
    -- The settings at one path are in order already, so sorting leaves them where they are.
    have hsorted : ((listed env).filter (·.path = path)).Pairwise (le · · = true) := by
      refine List.pairwise_of_forall_mem_list fun a ha b hb => ?_
      have hpath : a.path = b.path := (of_decide_eq_true (List.mem_filter.1 ha).2).trans
        (of_decide_eq_true (List.mem_filter.1 hb).2).symm
      exact decide_eq_true (hpath ▸ String.le_refl a.path)
    have hsub := (List.sublist_mergeSort htrans htotal hsorted List.filter_sublist).filter
      (·.path = path)
    rw [List.filter_filter] at hsub
    simp only [Bool.and_self] at hsub
    refine (hsub.eq_of_length ?_).symm
    exact ((List.mergeSort_perm (listed env) le).filter _).length_eq.symm

/-! ### Tables under layers -/

namespace Tables

/-- The tables under layers, the first of which is the lowest one. -/
def under (t : Tables) (layers : List Layer) : Tables :=
  layers.foldl (fun t layer => t.applyAll layer.source layer.said) t

theorem under_cons (t : Tables) (layer : Layer) (layers : List Layer) :
    t.under (layer :: layers) = (t.applyAll layer.source layer.said).under layers := rfl

theorem under_append (t : Tables) (layers layers' : List Layer) :
    t.under (layers ++ layers') = (t.under layers).under layers' :=
  List.foldl_append ..

theorem applyAll_append (t : Tables) (source : Source) (cs cs' : List Change) :
    t.applyAll source (cs ++ cs') = (t.applyAll source cs).applyAll source cs' :=
  List.foldl_append ..

/-- Layers that come from one source are as good as all their changes together. -/
theorem under_of_source (t : Tables) (source : Source) {layers : List Layer}
    (h : ∀ layer ∈ layers, layer.source = source) :
    t.under layers = t.applyAll source (layers.flatMap (·.said)) := by
  induction layers generalizing t with
  | nil => rfl
  | cons layer layers ih =>
    rw [under_cons, List.flatMap_cons, applyAll_append, h layer List.mem_cons_self]
    exact ih _ fun l hl => h l (List.mem_cons_of_mem _ hl)

end Tables

theorem fileChanges_eq_ok {file : FileContent} {cs : List Change}
    (h : fileChanges file = .ok cs) : file.overlay?.toList.flatMap (·.said) = cs := by
  cases file with
  | absent => simpa [fileChanges, FileContent.overlay?] using h
  | unreadable => cases h
  | text content =>
    unfold fileChanges at h
    unfold FileContent.overlay?
    dsimp only at h ⊢
    split at h
    · next hblank => simpa [hblank] using h
    · next hblank =>
      rw [if_neg hblank]
      split at h
      · next o ho => simpa [ho] using Overlay.changes_eq_ok h
      · cases h

theorem variableChanges_eq_ok {env : Environment} {cs : List Change}
    (h : variableChanges env = .ok cs) : env.overlay?.toList.flatMap (·.said) = cs := by
  unfold variableChanges at h
  unfold Environment.overlay?
  split at h
  · next hget => simpa [hget] using h
  · next raw hget =>
    rw [hget, Option.bind_some]
    split at h
    · next hblank => simpa [hblank] using h
    · next hblank =>
      rw [if_neg hblank]
      split at h
      · next o ho => simpa [ho] using Overlay.changes_eq_ok h
      · cases h

theorem filesChanges_eq_ok {files : List FileContent} {css : List (List Change)}
    (h : files.mapM fileChanges = .ok css) :
    (Layer.ofFiles files).flatMap (·.said) = css.flatten := by
  rw [← map_of_mapM_eq_ok (fun _ _ => fileChanges_eq_ok) h, Layer.ofFiles, List.flatMap_assoc,
    ← List.flatMap_def]
  simp only [List.flatMap_map, Layer.ofOverlay]

theorem environmentChanges_eq_ok {env : Environment} {cs : List Change}
    (h : environmentChanges env = .ok cs) : (Layer.ofEnvironment env).flatMap (·.said) = cs := by
  obtain ⟨settings, hsettings, h⟩ := bind_eq_ok_iff.1 h
  obtain ⟨policy, hpolicy, h⟩ := bind_eq_ok_iff.1 h
  rw [← pure_eq_ok_iff.1 h, ← variableChanges_eq_ok hpolicy,
    ← filterMap_of_mapM_eq_ok (fun _ _ => Setting.said?_of_change) hsettings,
    List.filterMap_eq_flatMap_toList, Layer.ofEnvironment, List.flatMap_append]
  simp only [List.flatMap_map, Layer.ofSetting, Layer.ofOverlay]

/-- **Tables that are loaded** are the built-in ones under the layers. -/
theorem Tables.load_eq_ok {files : List FileContent} {env : Option Environment} {t : Tables}
    (h : load files env = .ok t) : initial.under (Layer.list files env) = t := by
  obtain ⟨fromFiles, hfiles, h⟩ := bind_eq_ok_iff.1 h
  have hbelow : initial.under (Layer.ofFiles files) = initial.applyAll .file fromFiles.flatten := by
    rw [under_of_source initial .file, filesChanges_eq_ok hfiles]
    simp only [Layer.ofFiles, List.mem_flatMap, List.mem_map]
    rintro _ ⟨file, -, o, -, rfl⟩
    rfl
  rw [Layer.list, under_append, hbelow]
  cases env with
  | none => exact pure_eq_ok_iff.1 h
  | some env =>
    obtain ⟨fromEnvironment, henv, h⟩ := bind_eq_ok_iff.1 h
    rw [Option.map_some, Option.getD_some, under_of_source _ .env, environmentChanges_eq_ok henv]
    · exact pure_eq_ok_iff.1 h
    · simp only [Layer.ofEnvironment, List.mem_append, List.mem_map]
      rintro _ (⟨s, -, rfl⟩ | ⟨o, -, rfl⟩)
      · rfl
      · rfl

/-! ### The last word -/

/-- The last change of an entry in a layer. -/
def Layer.lastChange? (layer : Layer) (target : Target) : Option Change :=
  layer.said.reverse.find? (·.target = target)

/-- The last change of an entry, and where it comes from: it is the last one in the last of the
layers that have one. -/
def lastChange? (layers : List Layer) (target : Target) : Option (Source × Change) :=
  layers.reverse.findSome? fun layer => (layer.lastChange? target).map (layer.source, ·)

theorem target_of_lastChange? {layers : List Layer} {target : Target} {last : Source × Change}
    (h : lastChange? layers target = some last) : last.2.target = target := by
  obtain ⟨layer, -, hlayer⟩ := List.exists_of_findSome?_eq_some h
  obtain ⟨c, hc, rfl⟩ := Option.map_eq_some_iff.1 hlayer
  have hmatch := List.find?_some hc
  exact of_decide_eq_true hmatch

namespace Tables

section Last

variable {α : Type} {q : Tables → Option α} {w : Source → Change → α} {target : Target}
  (hq : ∀ t source c, q (Tables.apply t source c) =
    if target = c.target then some (w source c) else q t)

include hq

/-- What is written anew by each change of an entry, and by no other change, is what the last change
of it wrote. -/
theorem applyAll_last (t : Tables) (source : Source) (cs : List Change) :
    q (t.applyAll source cs) =
      ((cs.reverse.find? (·.target = target)).map (w source)).or (q t) := by
  induction cs generalizing t with
  | nil => rfl
  | cons c cs ih =>
    change q ((t.apply source c).applyAll source cs) = _
    rw [ih, hq, List.reverse_cons, List.find?_append]
    by_cases h : target = c.target
    · cases cs.reverse.find? (·.target = target) <;> simp [h]
    · have h' : c.target ≠ target := Ne.symm h
      cases cs.reverse.find? (·.target = target) <;> simp [h, h']

theorem under_last (t : Tables) (layers : List Layer) :
    q (t.under layers) =
      ((lastChange? layers target).map fun last => w last.1 last.2).or (q t) := by
  induction layers generalizing t with
  | nil => rfl
  | cons layer layers ih =>
    have hlast : lastChange? (layer :: layers) target =
        (lastChange? layers target).or ((layer.lastChange? target).map (layer.source, ·)) := by
      simp only [lastChange?, List.reverse_cons, List.findSome?_append, List.findSome?_singleton]
    rw [under_cons, ih, applyAll_last hq, hlast, ← Layer.lastChange?]
    cases lastChange? layers target with
    | some last => rfl
    | none => cases layer.lastChange? target <;> rfl

end Last

variable (t : Tables) (layers : List Layer)

theorem held?_under (target : Target) :
    (t.under layers).held? target =
      ((lastChange? layers target).map (·.2)).or (t.held? target) :=
  under_last (q := (·.held? target)) (w := fun _ c => c)
    (fun t source c => t.held?_apply source c target) t layers

theorem get?_provenance_under (target : Target) :
    (t.under layers).provenance.get? target.path =
      ((lastChange? layers target).map fun last => ⟨target.path, last.1⟩).or
        (t.provenance.get? target.path) :=
  under_last (q := (·.provenance.get? target.path)) (w := fun source _ => ⟨target.path, source⟩)
    (fun t source c => t.get?_provenance_apply source c target) t layers

theorem toNat_revision_applyAll (source : Source) (cs : List Change) :
    (t.applyAll source cs).revision.toNat =
      min (t.revision.toNat + cs.length) (2 ^ 64 - 1) := by
  induction cs generalizing t with
  | nil =>
    have hlt := t.revision.toNat_lt
    simp only [applyAll, List.foldl_nil, List.length_nil]
    omega
  | cons c cs ih =>
    change ((t.apply source c).applyAll source cs).revision.toNat = _
    rw [ih, toNat_revision_apply, List.length_cons]
    omega

theorem toNat_revision_under :
    (t.under layers).revision.toNat =
      min (t.revision.toNat + (layers.map (·.said.length)).sum) (2 ^ 64 - 1) := by
  induction layers generalizing t with
  | nil =>
    have hlt := t.revision.toNat_lt
    simp only [under, List.foldl_nil, List.map_nil, List.sum_nil]
    omega
  | cons layer layers ih =>
    rw [under_cons, ih, toNat_revision_applyAll, List.map_cons, List.sum_cons]
    omega

/-- The tables are what layers make of the built-in ones. -/
structure LayeredBy (t : Tables) (layers : List Layer) : Prop where
  /-- A resource is open to the roles that are named last for it. -/
  allowedRoles : ∀ resource, t.allowedRoles resource =
    ((lastChange? layers (.resource (Text.trim resource))).bind (·.2.roles?)).or
      (builtin.allowedRoles resource)
  /-- A role holds the permissions that are named last for it. -/
  permissions : ∀ role, t.permissions role =
    ((lastChange? layers (.role role)).bind (·.2.permissions?)).or (builtin.permissions role)
  /-- An action needs the permission that is named last for it. -/
  requiredPermission : ∀ action, t.requiredPermission action =
    ((lastChange? layers (.action (actionKey action))).bind (·.2.permission?)).or
      (builtin.requiredPermission action)
  /-- Courses of a modality have the number of seats that is given last for it; of one for which
  none is given at all, they have as many as those of all other modalities. -/
  seatLimit : ∀ modality, t.seatLimit modality =
    (((lastChange? layers (.limit modality.key)).bind (·.2.seats?)).or
      (builtin.capacity.limits.get? modality.key)).getD t.capacity.defaultLimit
  /-- Courses of all other modalities have the number of seats that is given last for them. -/
  defaultLimit : t.capacity.defaultLimit =
    ((lastChange? layers .defaultLimit).bind (·.2.seats?)).getD builtin.capacity.defaultLimit
  /-- To courses that cannot be found happens what is said last. -/
  unresolvedCourse : t.capacity.unresolvedCourse =
    ((lastChange? layers .unresolvedCourse).bind (·.2.treatment?)).getD
      builtin.capacity.unresolvedCourse
  /-- Each entry is noted as coming from where its last change comes from, or else as built in if it
  is. -/
  provenance : ∀ target, t.provenance.get? target.path =
    (((lastChange? layers target).map (·.1)).or
      (if target ∈ builtin.targets then some .builtin else none)).map (⟨target.path, ·⟩)
  /-- Each change is counted. -/
  revision : t.revision.toNat = min (1 + (layers.map (·.said.length)).sum) (2 ^ 64 - 1)

/-- An answer that every change of an entry gives is the one that the last of them gives. -/
theorem bind_held?_under {α : Type} {f : Change → Option α} (target : Target)
    (hf : ∀ c, c.target = target → (f c).isSome = true) :
    ((initial.under layers).held? target).bind f =
      ((lastChange? layers target).bind (f ·.2)).or ((builtin.held? target).bind f) := by
  rw [held?_under, held?_initial]
  cases hlast : lastChange? layers target with
  | none => rfl
  | some last =>
    obtain ⟨a, ha⟩ := Option.isSome_iff_exists.1 (hf _ (target_of_lastChange? hlast))
    simp [ha]

theorem layeredBy_under : (initial.under layers).LayeredBy layers where
  allowedRoles resource := by
    rw [allowedRoles_eq, allowedRoles_eq]
    exact bind_held?_under layers _ fun c hc => by cases c <;> first | rfl | cases hc
  permissions role := by
    rw [permissions_eq, permissions_eq]
    exact bind_held?_under layers _ fun c hc => by cases c <;> first | rfl | cases hc
  requiredPermission action := by
    rw [requiredPermission_eq, requiredPermission_eq]
    exact bind_held?_under layers _ fun c hc => by cases c <;> first | rfl | cases hc
  seatLimit modality := by
    have hseats : (builtin.capacity.limits.get? modality.key) =
        (builtin.held? (.limit modality.key)).bind (·.seats?) := by
      rw [held?]
      cases builtin.capacity.limits.get? modality.key <;> rfl
    rw [seatLimit_eq, hseats, bind_held?_under]
    intro c hc
    cases c <;> first | rfl | cases hc
  defaultLimit := by
    have hlast := bind_held?_under (f := (·.seats?)) layers .defaultLimit fun c hc => by
      cases c <;> first | rfl | cases hc
    have hbuiltin : (builtin.held? .defaultLimit).bind (·.seats?) =
        some builtin.capacity.defaultLimit := rfl
    rw [hbuiltin, Option.or_some] at hlast
    exact Option.some.inj hlast
  unresolvedCourse := by
    have hlast := bind_held?_under (f := (·.treatment?)) layers .unresolvedCourse fun c hc => by
      cases c <;> first | rfl | cases hc
    have hbuiltin : (builtin.held? .unresolvedCourse).bind (·.treatment?) =
        some builtin.capacity.unresolvedCourse := rfl
    rw [hbuiltin, Option.or_some] at hlast
    exact Option.some.inj hlast
  provenance target := by
    rw [get?_provenance_under, get?_provenance_initial]
    cases lastChange? layers target with
    | some last => rfl
    | none => split <;> rfl
  revision := by
    rw [toNat_revision_under, revision_initial]
    rfl

/-- **What the last layer says holds.**  Tables that are loaded are what the layers make of the
built-in ones, and the settings among the layers lie in order. -/
theorem layeredBy_load {files : List FileContent} {env : Option Environment} {t : Tables}
    (h : load files env = .ok t) :
    (∀ vars, env = some vars → Setting.Arranged vars (Setting.list vars)) ∧
      t.LayeredBy (Layer.list files env) := by
  refine ⟨fun vars _ => Setting.arranged_list vars, ?_⟩
  rw [← load_eq_ok h]
  exact layeredBy_under _

/-- A policy that names a resource in two ways and a modality, and a setting. -/
def smallEnvironment : Environment :=
  [("COURSEGATE_POLICY_OVERRIDE_JSON",
    "\x7b\"resource_roles\": \x7b\" course.list\": [\"admin\"], \"course.list\": [\"Professor\"]" ++
      "\x7d, \"capacity\": \x7b\"limits\": \x7b\"Virtual\": 7\x7d\x7d\x7d"),
    ("COURSEGATE_POLICY__CAPACITY__DEFAULT_LIMIT", "50")]

/-- The policy counts for what it names, the last name first, and the setting for what it sets. -/
theorem layeredBy_load_small :
    ∃ t, load [.absent, .text " \n"] (some smallEnvironment) = .ok t ∧
      Setting.Arranged smallEnvironment (Setting.list smallEnvironment) ∧
      t.LayeredBy (Layer.list [.absent, .text " \n"] (some smallEnvironment)) ∧
      t.allowedRoles "course.list\t" = some (.ofList [.teacher]) ∧
      t.seatLimit .virtual = 7 ∧ t.seatLimit .hibrido = 35 ∧ t.revision = 5 := by
  have hanswers : (load [.absent, .text " \n"] (some smallEnvironment)).toOption.map (fun t =>
      (t.allowedRoles "course.list\t", t.seatLimit .virtual, t.seatLimit .hibrido, t.revision)) =
        some (some (.ofList [.teacher]), 7, 35, 5) := by
    decide +kernel
  cases hload : load [.absent, .text " \n"] (some smallEnvironment) with
  | error e => simp [hload, Except.toOption] at hanswers
  | ok t =>
    obtain ⟨harranged, hlayered⟩ := layeredBy_load hload
    simp only [hload, Except.toOption, Option.map_some, Option.some.injEq, Prod.mk.injEq]
      at hanswers
    exact ⟨t, rfl, harranged _ rfl, hlayered, hanswers⟩

/-- A setting of the seats of all modalities without a limit of their own. -/
def smallSetting : Environment := [("COURSEGATE_POLICY__CAPACITY__DEFAULT_LIMIT", "50")]

/-- **Where no layer has an entry, the built-in answer need not hold**: nothing is said about the
seats of this modality, but the setting changes them. -/
theorem exists_load_seatLimit_ne :
    ∃ t, load [] (some smallSetting) = .ok t ∧
      lastChange? (Layer.list [] (some smallSetting)) (.limit (Modality.read "bootcamp").key) =
        none ∧
      t.seatLimit (Modality.read "bootcamp") ≠ builtin.seatLimit (Modality.read "bootcamp") := by
  have hanswer : (load [] (some smallSetting)).toOption.map
      (·.seatLimit (Modality.read "bootcamp")) = some 50 := by
    decide +kernel
  have hbuiltin : builtin.seatLimit (Modality.read "bootcamp") = 45 := by decide +kernel
  cases hload : load [] (some smallSetting) with
  | error e => simp [hload, Except.toOption] at hanswer
  | ok t =>
    have hseats : t.seatLimit (Modality.read "bootcamp") = 50 := by
      simpa [hload, Except.toOption] using hanswer
    refine ⟨t, rfl, by decide +kernel, ?_⟩
    rw [hseats, hbuiltin]
    decide

end Tables

end Registrar
