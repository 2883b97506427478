import Registrar.Proofs.NormalForm
import Registrar.Proofs.SettingNumber
import Registrar.Proofs.Upkeep

/-!
# Ways to limit the seats of a modality

The seats of a modality can be limited in a policy file, in the policy in a variable, by a setting
and by an amendment.  Each of them comes to the name of the modality, and to the number, in a way of
its own, and they all come to the same tables.

* `Setting.pieces_eq_singleton`, `Setting.pieces_map_toLower`: the name of a variable is cut at
  double underscores only, in whatever letter case it is.
* `Setting.path?_mark`, `Setting.path?_limit`: the path of a setting, and of that of a modality.
* `CapacityOverlay.settings`, `Overlay.capacityChanges_eq_mapM`: what a policy says about seats is
  carried out as settings would be.
* `limitOverlay`: what a policy says that limits the seats of one modality and nothing else.
* `Environment.Silent`: the variables say nothing about the policy.
* `LimitedAlike`, `limitedAlike`: **all ways to limit the seats of a modality agree**, and only the
  source that is noted tells them apart.
-/

namespace Registrar

theorem Text.after?_append (start cs : List Char) : after? start (start ++ cs) = some cs := by
  have hstart : start.isPrefixOf (start ++ cs) = true :=
    List.isPrefixOf_iff_prefix.2 (List.prefix_append start cs)
  rw [after?, if_pos hstart, List.drop_left]

theorem Text.toList_lowerAscii (s : String) : (lowerAscii s).toList = s.toList.map Char.toLower :=
  String.toList_ofList

theorem Text.lowerAscii_ne_empty {s : String} (h : s ≠ "") : lowerAscii s ≠ "" := by
  intro hlower
  have hnil := congrArg String.toList hlower
  rw [toList_lowerAscii] at hnil
  exact h (String.toList_eq_nil_iff.1 (List.map_eq_nil_iff.1 hnil))

namespace Setting

/-! ### The name of a setting -/

theorem pieces_eq_singleton {cs : List Char} (h : ¬ ['_', '_'] <:+: cs) : pieces cs = [cs] := by
  fun_induction pieces cs with
  | case1 => rfl
  | case2 cs ih => exact absurd (List.prefix_append ['_', '_'] cs).isInfix h
  | case3 c cs hmark hnil ih =>
    have hrest := ih fun hmarks => h (hmarks.trans (List.suffix_cons c cs).isInfix)
    rw [hnil] at hrest
    cases hrest
  | case4 c cs hmark p ps hpieces ih =>
    have hrest := ih fun hmarks => h (hmarks.trans (List.suffix_cons c cs).isInfix)
    rw [hpieces] at hrest
    obtain ⟨rfl, rfl⟩ := List.cons.inj hrest
    rfl

/-- **A name is cut** in the same places in any letter case. -/
theorem pieces_map_toLower (cs : List Char) :
    pieces (cs.map Char.toLower) = (pieces cs).map (List.map Char.toLower) := by
  have hscore (c : Char) : c.toLower = '_' ↔ c = '_' :=
    decide_eq_decide.1 (Text.apply_toLower (f := fun d => decide (d = '_')) (by decide) c)
  have hmark {c : Char} {cs : List Char} (h : ∀ rest, c = '_' → cs = '_' :: rest → False) :
      ∀ rest, c.toLower = '_' → cs.map Char.toLower = '_' :: rest → False := by
    intro rest hc hcs
    cases cs with
    | nil => cases hcs
    | cons d cs => exact h cs ((hscore c).1 hc) (by rw [(hscore d).1 (List.cons.inj hcs).1])
  fun_induction pieces cs with
  | case1 => rfl
  | case2 cs ih =>
    have hfixed : '_'.toLower = '_' := rfl
    rw [List.map_cons, List.map_cons, hfixed, pieces, ih]
    rfl
  | case3 c cs h hnil ih =>
    rw [hnil] at ih
    rw [List.map_cons, pieces, ih]
    · rfl
    · exact hmark h
  | case4 c cs h p ps hpieces ih =>
    rw [hpieces] at ih
    rw [List.map_cons, pieces, ih]
    · rfl
    · exact hmark h

theorem path?_mark (rest : String) :
    path? (mark ++ rest) =
      if (pieces (Text.lowerAscii rest).toList).filter (· ≠ []) = [] then none
      else some (".".intercalate
        (((pieces (Text.lowerAscii rest).toList).filter (· ≠ [])).map String.ofList)) := by
  have hkept : (fun w => decide (w ≠ [])) ∘ List.map Char.toLower =
      fun w : List Char => decide (w ≠ []) := by
    funext w
    exact decide_eq_decide.2 (not_congr List.map_eq_nil_iff)
  have hlower : String.ofList ∘ List.map Char.toLower = fun w => Text.lowerAscii (.ofList w) := by
    funext w
    rw [Text.lowerAscii, String.toList_ofList, Function.comp_apply]
  rw [Text.toList_lowerAscii, pieces_map_toLower, List.filter_map, hkept, List.map_map, hlower,
    path?, String.toList_append, Text.after?_append]
  simp only [List.map_eq_nil_iff]
  rfl

/-- The beginning of the names of the settings that limit the seats of a modality. -/
def limitMark : String := "CAPACITY__LIMITS__"

/-- **The path of a setting that limits seats** is the one that the name of the modality in lower
case gives, in whatever case the name of the variable is. -/
theorem path?_limit {m rest : String} (hm : m ≠ "") (hwhole : ¬ ['_', '_'] <:+: m.toList)
    (hrest : Text.lowerAscii rest = Text.lowerAscii (limitMark ++ m)) :
    path? (mark ++ rest) = some ("capacity.limits." ++ Text.lowerAscii m) := by
  let word := m.toList.map Char.toLower
  have hword : pieces word = [word] := by
    rw [pieces_map_toLower, pieces_eq_singleton hwhole]
    rfl
  -- Both cuts are in the mark, the second one right behind it.
  have hpieces : pieces (Text.lowerAscii rest).toList =
      ["capacity".toList, "limits".toList, word] := by
    have hmark : limitMark.toList.map Char.toLower = "capacity__limits__".toList := rfl
    rw [hrest, Text.toList_lowerAscii, String.toList_append, List.map_append, hmark, ← hword]
    rfl
  have hkept : ["capacity".toList, "limits".toList, word].filter (· ≠ []) =
      ["capacity".toList, "limits".toList, word] := by
    have hne : word ≠ [] := fun hnil => hm (String.toList_eq_nil_iff.1 (List.map_eq_nil_iff.1 hnil))
    refine List.filter_eq_self.2 fun w hw => decide_eq_true ?_
    simp only [List.mem_cons, List.not_mem_nil, or_false] at hw
    rcases hw with rfl | rfl | rfl
    · decide
    · decide
    · exact hne
  have hjoin : ".".intercalate ["capacity", "limits", Text.lowerAscii m] =
      "capacity.limits." ++ Text.lowerAscii m := by
    rw [String.intercalate_cons_cons, String.intercalate_cons_cons, String.intercalate_singleton,
      ← String.append_assoc]
    rfl
  rw [path?_mark, hpieces, hkept, if_neg nofun]
  exact congrArg some hjoin

/-- **A setting at the path of a modality** limits its seats. -/
theorem change_modality (m : String) (n : UInt32) :
    (⟨"capacity.limits." ++ m, .int n.toNat⟩ : Setting).change = limitChange m (.ok n) := by
  have hother (x : Target) (hx : x ≠ .limit m) : "capacity.limits." ++ m ≠ x.path := fun hpath =>
    hx (Target.path_injective (y := .limit m) hpath.symm)
  rw [change, if_neg (hother .defaultLimit nofun), if_neg (hother .unresolvedCourse nofun)]
  dsimp only
  rw [String.toList_append, Text.after?_append]
  dsimp only
  rw [String.ofList_toList, seats_int]

theorem change_limit {m : String} (hm : m ≠ "") (n : UInt32) :
    (⟨"capacity.limits." ++ m, .int n.toNat⟩ : Setting).change =
      .ok (.limit (Modality.read m).key n) := by
  rw [change_modality, limitChange, if_neg hm]
  rfl

theorem change_defaultLimit (n : UInt32) :
    (⟨"capacity.default_limit", .int n.toNat⟩ : Setting).change = .ok (.defaultLimit n) := by
  have hpath : Target.defaultLimit.path = "capacity.default_limit" := rfl
  rw [change, if_pos hpath.symm, seats_int]
  rfl

theorem change_unresolvedCourse (policy : UnresolvedCourse) :
    (⟨"capacity.unresolved_course", .string policy.name⟩ : Setting).change =
      .ok (.unresolvedCourse policy) := by
  have hother : "capacity.unresolved_course" ≠ Target.defaultLimit.path := by decide
  have hpath : Target.unresolvedCourse.path = "capacity.unresolved_course" := rfl
  have hword : treatment (.string policy.name) = .ok policy := by
    cases policy with
    | allow => rfl
    | reject => rfl
  rw [change, if_neg hother, if_pos hpath.symm, hword]
  rfl

theorem mapM_change_toList {α : Type} {f : α → Setting} {g : α → Change}
    (h : ∀ a, (f a).change = .ok (g a)) (o : Option α) :
    (o.map f).toList.mapM change = .ok (o.map g).toList := by
  cases o with
  | none => rfl
  | some a =>
    rw [Option.map_some, Option.map_some, Option.toList_some, List.mapM_cons, h]
    rfl

end Setting

/-! ### Policies -/

/-- What a policy says about seats, as settings: each number and word at its path. -/
def CapacityOverlay.settings (c : CapacityOverlay) : List Setting :=
  c.limits.entries.map (fun e => ⟨"capacity.limits." ++ e.1, .int e.2.toNat⟩) ++
    (c.defaultLimit.map fun n => ⟨"capacity.default_limit", .int n.toNat⟩).toList ++
    (c.unresolvedCourse.map fun policy =>
      ⟨"capacity.unresolved_course", .string policy.name⟩).toList

/-- **What a policy says about seats** is carried out as settings would be, and fails where the
first of them does. -/
theorem Overlay.capacityChanges_eq_mapM (c : CapacityOverlay) :
    capacityChanges c = c.settings.mapM Setting.change := by
  have hlimits : (c.limits.entries.map fun e =>
      (⟨"capacity.limits." ++ e.1, .int e.2.toNat⟩ : Setting)).mapM Setting.change =
        c.limits.entries.mapM fun e => limitChange e.1 (.ok e.2) := by
    rw [List.mapM_map]
    exact congrArg (c.limits.entries.mapM ·) (funext fun e => Setting.change_modality e.1 e.2)
  rw [CapacityOverlay.settings, List.mapM_append, List.mapM_append, hlimits,
    Setting.mapM_change_toList Setting.change_defaultLimit,
    Setting.mapM_change_toList Setting.change_unresolvedCourse, capacityChanges]
  cases c.limits.entries.mapM fun e => limitChange e.1 (.ok e.2) with
  | error e => rfl
  | ok changes => rfl

/-- What a policy says that limits the seats of one modality and says nothing else. -/
def limitOverlay (m : String) (n : UInt32) : Overlay :=
  ⟨.empty, .empty, .empty, some ⟨.ofList [(m, n)], none, none⟩⟩

theorem changes_limitOverlay {m : String} (hm : m ≠ "") (n : UInt32) :
    (limitOverlay m n).changes = .ok [.limit (Modality.read m).key n] := by
  have hseats : Overlay.capacityChanges ⟨.ofList [(m, n)], none, none⟩ =
      .ok [.limit (Modality.read m).key n] := by
    have hsettings : CapacityOverlay.settings ⟨.ofList [(m, n)], none, none⟩ =
        [⟨"capacity.limits." ++ m, .int n.toNat⟩] := rfl
    rw [Overlay.capacityChanges_eq_mapM, hsettings, List.mapM_cons, Setting.change_limit hm]
    rfl
  rw [Overlay.changes, limitOverlay]
  dsimp only
  rw [hseats]
  rfl

theorem fileChanges_of_overlay? {file : FileContent} {o : Overlay} (h : file.overlay? = some o) :
    fileChanges file = o.changes := by
  cases file with
  | absent => cases h
  | unreadable => cases h
  | text content =>
    unfold FileContent.overlay? at h
    dsimp only at h
    split at h
    · cases h
    · next hblank => rw [fileChanges, if_neg hblank, h]

theorem variableChanges_of_overlay? {env : Environment} {o : Overlay}
    (h : env.overlay? = some o) : variableChanges env = o.changes := by
  obtain ⟨raw, hraw, h⟩ := Option.bind_eq_some_iff.1 h
  split at h
  · cases h
  · next hblank =>
    rw [variableChanges, hraw]
    dsimp only
    rw [if_neg hblank, h]

/-! ### Environments -/

/-- The variables say nothing about the policy. -/
structure Environment.Silent (env : Environment) : Prop where
  /-- None of them is a setting. -/
  settings : ∀ v ∈ env, Setting.path? v.1 = none
  /-- The one for a policy is not set. -/
  policy : env.get? policyVariable = none

namespace Setting

theorem listed_eq_nil {env : Environment} (h : ∀ v ∈ env, path? v.1 = none) : listed env = [] := by
  refine List.filterMap_eq_nil_iff.2 fun (name, raw) hv => ?_
  exact Option.map_eq_none_iff.2 (h (name, raw) hv)

theorem list_eq_nil {env : Environment} (h : ∀ v ∈ env, path? v.1 = none) : list env = [] := by
  rw [list, ← listed, listed_eq_nil h, List.mergeSort_nil]

theorem listed_insert {before after : Environment} (h : ∀ v ∈ before ++ after, path? v.1 = none)
    {name path : String} (raw : String) (hpath : path? name = some path) :
    listed (before ++ (name, raw) :: after) = [⟨path, valueOf raw⟩] := by
  have hbefore := listed_eq_nil fun v hv => h v (List.mem_append_left _ hv)
  have hafter := listed_eq_nil fun v hv => h v (List.mem_append_right _ hv)
  have hone : listed [(name, raw)] = [⟨path, valueOf raw⟩] := by simp [listed, hpath]
  rw [List.append_cons, listed, List.filterMap_append, List.filterMap_append, ← listed, ← listed,
    ← listed, hbefore, hone, hafter]
  rfl

end Setting

theorem environmentChanges_of_policy {env : Environment} {o : Overlay}
    (hsettings : ∀ v ∈ env, Setting.path? v.1 = none) (h : env.overlay? = some o) :
    environmentChanges env = o.changes := by
  rw [environmentChanges, Setting.list_eq_nil hsettings, variableChanges_of_overlay? h]
  cases o.changes <;> rfl

theorem Environment.Silent.environmentChanges {env : Environment} (h : env.Silent) :
    environmentChanges env = .ok [] := by
  rw [Registrar.environmentChanges, Setting.list_eq_nil h.settings, variableChanges, h.policy]
  rfl

/-- Among variables that say nothing about the policy, one setting is all that is said. -/
theorem Environment.Silent.environmentChanges_insert {before after : Environment}
    (h : Silent (before ++ after)) {name raw path : String} {c : Change}
    (hpath : Setting.path? name = some path)
    (hc : Setting.change ⟨path, Setting.valueOf raw⟩ = .ok c) :
    Registrar.environmentChanges (before ++ (name, raw) :: after) = .ok [c] := by
  have hname : name ≠ policyVariable := by
    rintro rfl
    have hnone : Setting.path? policyVariable = none := by decide +kernel
    rw [hnone] at hpath
    cases hpath
  have hpolicy : Environment.get? (before ++ (name, raw) :: after) policyVariable = none := by
    rw [← h.policy, Environment.get?, Environment.get?, List.find?_append, List.find?_append,
      List.find?_cons_of_neg (by simpa using hname)]
  rw [Registrar.environmentChanges, Setting.list, ← Setting.listed,
    Setting.listed_insert h.settings raw hpath, List.mergeSort_singleton, List.mapM_cons, hc,
    variableChanges, hpolicy]
  rfl

/-! ### All ways to limit the seats of a modality -/

namespace Tables

theorem setProvenance_apply (t : Tables) (c : Change) (first second : Source) :
    (t.apply first c).setProvenance c.target.path second = t.apply second c :=
  congrArg (fun notes => { (t.put c).raiseRevision with provenance := notes })
    (Table.insert_insert ..)

/-- The tables after an admin limited the seats of a modality, but with the note that the number
comes from some other source. -/
def limitedBy (t : Tables) (source : Source) (modality : Modality) (n : UInt32) : Tables :=
  (t.amend (.limitSeats modality n)).setProvenance (Target.limit modality.key).path source

theorem limitedBy_eq_apply (t : Tables) (source : Source) (modality : Modality) (n : UInt32) :
    t.limitedBy source modality n = t.apply source (.limit modality.key n) := by
  rw [limitedBy, amend_eq_apply]
  exact t.setProvenance_apply (.limit modality.key n) .admin source

theorem seatLimit_limitedBy (t : Tables) (source : Source) (modality : Modality) (n : UInt32) :
    (t.limitedBy source modality n).seatLimit modality = n :=
  (t.seatLimit_limitSeats modality modality n).trans (if_pos rfl)

theorem load_of_fileChanges {file : FileContent} {env : Option Environment} {c : Change}
    (hfile : fileChanges file = .ok [c]) (henv : ∀ vars, env = some vars → vars.Silent) :
    load [file] env = .ok (initial.apply .file c) := by
  have hfiles : [file].mapM fileChanges = .ok [[c]] := by
    rw [List.mapM_cons, hfile]
    rfl
  have hchange : (initial.applyAll .file [[c]].flatten).applyAll .env [] =
      initial.apply .file c := by
    rw [applyAll, applyAll, List.flatten_cons, List.flatten_nil, List.append_nil, List.foldl_cons,
      List.foldl_nil, List.foldl_nil]
  refine bind_eq_ok_iff.2 ⟨_, hfiles, ?_⟩
  cases env with
  | none => exact pure_eq_ok_iff.2 hchange
  | some vars =>
    have hvariables := (henv vars rfl).environmentChanges
    exact bind_eq_ok_iff.2 ⟨_, hvariables, pure_eq_ok_iff.2 hchange⟩

theorem load_of_environmentChanges {env : Environment} {c : Change}
    (henv : environmentChanges env = .ok [c]) :
    load [] (some env) = .ok (initial.apply .env c) := by
  refine bind_eq_ok_iff.2 ⟨[], rfl, bind_eq_ok_iff.2 ⟨_, henv, pure_eq_ok_iff.2 ?_⟩⟩
  rw [applyAll, applyAll, List.flatten_nil, List.foldl_cons, List.foldl_nil, List.foldl_nil]

end Tables

/-- All ways to limit the seats of the modality that a text names come to the same tables, apart
from the source that is noted. -/
structure LimitedAlike (m : String) (n : UInt32) : Prop where
  /-- A policy file. -/
  file : ∀ file env, file.overlay? = some (limitOverlay m n) →
    (∀ vars, env = some vars → vars.Silent) →
    Tables.load [file] env = .ok (Tables.initial.limitedBy .file (.read m) n)
  /-- The policy in a variable. -/
  policy : ∀ env : Environment, env.overlay? = some (limitOverlay m n) →
    (∀ v ∈ env, Setting.path? v.1 = none) →
    Tables.load [] (some env) = .ok (Tables.initial.limitedBy .env (.read m) n)
  /-- A setting, in any letter case. -/
  setting : ∀ rest before after,
    Text.lowerAscii rest = Text.lowerAscii (Setting.limitMark ++ m) →
    Environment.Silent (before ++ after) →
    Tables.load [] (some (before ++ (Setting.mark ++ rest, Text.numeral n.toNat) :: after)) =
      .ok (Tables.initial.limitedBy .env (.read m) n)
  /-- An amendment. -/
  amendment : Tables.initial.amend (.limitSeats (.read m) n) =
    Tables.initial.limitedBy .admin (.read m) n
  /-- Courses of the modality, by whatever name, have that many seats. -/
  seatLimit : ∀ source x, Modality.read x = Modality.read m →
    (Tables.initial.limitedBy source (.read m) n).seatLimit (.read x) = n

/-- **All ways to limit the seats of a modality agree.** -/
theorem limitedAlike {m : String} (hm : m ≠ "") (hwhole : ¬ ['_', '_'] <:+: m.toList)
    (n : UInt32) : LimitedAlike m n where
  file file env hfile henv := by
    rw [Tables.limitedBy_eq_apply]
    refine Tables.load_of_fileChanges ?_ henv
    rw [fileChanges_of_overlay? hfile, changes_limitOverlay hm]
  policy env hpolicy hsettings := by
    rw [Tables.limitedBy_eq_apply]
    refine Tables.load_of_environmentChanges ?_
    rw [environmentChanges_of_policy hsettings hpolicy, changes_limitOverlay hm]
  setting rest before after hrest hsilent := by
    have hchange := Setting.change_limit (Text.lowerAscii_ne_empty hm) n
    rw [Modality.read_lowerAscii, ← Setting.valueOf_numeral] at hchange
    rw [Tables.limitedBy_eq_apply]
    refine Tables.load_of_environmentChanges ?_
    exact hsilent.environmentChanges_insert (Setting.path?_limit hm hwhole hrest) hchange
  amendment := by
    rw [Tables.limitedBy_eq_apply, Tables.amend_eq_apply]
    rfl
  seatLimit source x hx := by
    rw [hx]
    exact Tables.initial.seatLimit_limitedBy source (.read m) n

/-- A policy file that limits the seats of workshops. -/
def workshopFile : String := "capacity:\n  limits:\n    Taller_2.Día: 12\n"

theorem overlay?_workshopFile :
    (FileContent.text workshopFile).overlay? = some (limitOverlay "Taller_2.Día" 12) := by
  decide +kernel

/-- A policy in a variable that limits the seats of workshops. -/
def workshopPolicy : String :=
  "\x7b\"capacity\": \x7b\"limits\": \x7b\"Taller_2.Día\": 12\x7d\x7d\x7d"

/-- Four ways to give workshops twelve seats. -/
theorem limitedAlike_workshop :
    "Taller_2.Día" ≠ "" ∧ ¬ ['_', '_'] <:+: "Taller_2.Día".toList ∧
      Tables.load [.text workshopFile] (some [("HOME", "/")]) =
        .ok (Tables.initial.limitedBy .file (.read "Taller_2.Día") 12) ∧
      Tables.load [] (some [(policyVariable, workshopPolicy)]) =
        .ok (Tables.initial.limitedBy .env (.read "Taller_2.Día") 12) ∧
      Tables.load [] (some [("COURSEGATE_POLICY__Capacity__Limits__TALLER_2.DíA", "12"),
          ("HOME", "/")]) =
        .ok (Tables.initial.limitedBy .env (.read "Taller_2.Día") 12) ∧
      (Tables.initial.amend (.limitSeats (.read "Taller_2.Día") 12)).seatLimit
        (.read " TALLER_2.DÍA\t") = 12 := by
  have hwhole : ¬ ['_', '_'] <:+: "Taller_2.Día".toList := by decide +kernel
  have halike := limitedAlike (m := "Taller_2.Día") (by decide) hwhole 12
  have hhome : Environment.Silent [("HOME", "/")] := ⟨by decide +kernel, by decide +kernel⟩
  have hsetting := halike.setting "Capacity__Limits__TALLER_2.DíA" [] [("HOME", "/")]
    (by decide +kernel) hhome
  have hname : Setting.mark ++ "Capacity__Limits__TALLER_2.DíA" =
      "COURSEGATE_POLICY__Capacity__Limits__TALLER_2.DíA" := rfl
  have hnumber : Text.numeral (12 : UInt32).toNat = "12" := by decide +kernel
  rw [List.nil_append, hname, hnumber] at hsetting
  refine ⟨by decide, hwhole, ?_, ?_, hsetting, ?_⟩
  · refine halike.file _ _ overlay?_workshopFile fun vars hvars => ?_
    obtain rfl := Option.some.inj hvars
    exact hhome
  · exact halike.policy _ (by decide +kernel) (by decide +kernel)
  · rw [halike.amendment]
    exact halike.seatLimit .admin _ (by decide +kernel)

end Registrar
