import Mathlib.Data.List.Induction
import Mathlib.Data.List.Nodup
import Registrar.Directory
import Registrar.Service

/-!
# Directory files and their rosters

A directory file makes a roster when it is sound: every role in it is known, and no token and no
course number stands in it twice.  The roster then has all the entries of the file and no others,
and their order does not matter.  Otherwise the first fault is reported.

* `Table.get?_ofList_eq_some_iff`, `Table.ofList_perm`: what a table answers that was filled from
  entries with different keys, in whatever order.
* `holds_or_exists_first`: a list is good or has a first item at which it goes bad.
* `Directory.Sound`, `Directory.Fault`: nothing is wrong with a directory, and what is.
* `Directory.roster_of_sound`, `Directory.Fault.roster_eq`: what becomes of it.
* `Directory.Answers`: records answer with the entries of a directory.
* `Directory.Faithful`, `Directory.faithful`: **a directory file is a faithful map**.
-/

namespace Registrar

/-! ### Tables that are filled from lists -/

namespace Table

variable {κ α : Type} [LT κ] [DecidableLT κ] [DecidableEq κ] [LE κ] [Std.IsLinearOrder κ]
  [Std.LawfulOrderLT κ] {es es' : List (κ × α)} {k : κ} {v : α}

theorem ofList_concat (es : List (κ × α)) (e : κ × α) :
    ofList (es ++ [e]) = (ofList es).insert e.1 e.2 :=
  List.foldl_append

theorem get?_ofList_eq_none_iff : (ofList es).get? k = none ↔ k ∉ es.map (·.1) := by
  induction es using List.reverseRecOn with
  | nil => simp [ofList]
  | append_singleton es e ih =>
    rw [ofList_concat, get?_insert, List.map_append, List.mem_append, not_or, ← ih]
    split
    · next h => simp [h]
    · next h => simp [h]

theorem contains_ofList : (ofList es).contains k = true ↔ k ∈ es.map (·.1) := by
  rw [contains, Option.isSome_iff_ne_none, ne_eq, get?_ofList_eq_none_iff, not_not]

theorem get?_ofList_eq_some_iff (h : (es.map (·.1)).Nodup) :
    (ofList es).get? k = some v ↔ (k, v) ∈ es := by
  induction es using List.reverseRecOn with
  | nil => simp [ofList]
  | append_singleton es e ih =>
    rw [List.map_append, List.map_singleton, ← List.concat_eq_append, List.nodup_concat] at h
    obtain ⟨hfresh, hes⟩ := h
    rw [ofList_concat, get?_insert, List.mem_append, List.mem_singleton, ← ih hes]
    split
    · next hk =>
      subst hk
      rw [get?_ofList_eq_none_iff.2 hfresh]
      simp [Prod.ext_iff, eq_comm]
    · next hk =>
      have hne : (k, v) ≠ e := fun he => hk (congrArg Prod.fst he)
      simp [hne]

theorem ofList_perm (hperm : es.Perm es') (h : (es.map (·.1)).Nodup) : ofList es = ofList es' := by
  refine ext_get? fun k => Option.ext fun v => ?_
  have h' : (es'.map (·.1)).Nodup := (hperm.map _).nodup_iff.1 h
  rw [get?_ofList_eq_some_iff h, get?_ofList_eq_some_iff h', hperm.mem_iff]

end Table

/-! ### The first item at which a list goes bad -/

theorem holds_or_exists_first {α : Type} {P : List α → Prop} (hnil : P []) (xs : List α) :
    P xs ∨ ∃ before x after, xs = before ++ x :: after ∧ P before ∧ ¬ P (before ++ [x]) := by
  -- From the end: an item that is added at the end can only be the first bad one if there is none.
  induction xs using List.reverseRecOn with
  | nil => exact .inl hnil
  | append_singleton xs x ih =>
    rcases ih with hxs | ⟨before, y, after, rfl, hbefore, hy⟩
    · by_cases hx : P (xs ++ [x])
      · exact .inl hx
      · exact .inr ⟨xs, x, [], rfl, hxs, hx⟩
    · exact .inr ⟨before, y, after ++ [x], by simp, hbefore, hy⟩

/-! ### What is in a directory -/

/-- The subject that is meant by an entry, under the token, if the role is known. -/
def SubjectEntry.known? (e : SubjectEntry) : Option (String × Subject) :=
  (Role.read e.role).toOption.map fun role => (e.token, ⟨e.id, e.name, e.email, role⟩)

/-- The course that is meant by an entry, under its number. -/
def CourseEntry.numbered (e : CourseEntry) : Int64 × Course := (e.id, e.course)

/-- The subjects whose roles are known. -/
def Directory.people (d : Directory) : List (String × Subject) :=
  d.subjects.filterMap SubjectEntry.known?

/-- The courses. -/
def Directory.offers (d : Directory) : List (Int64 × Course) := d.courses.map CourseEntry.numbered

/-- The roster that is filled with subjects and courses in memory: each takes the place of one with
the same token or number. -/
def Roster.filled (people : List (String × Subject)) (offers : List (Int64 × Course)) : Roster :=
  offers.foldl (fun r c => r.putCourse c.1 c.2)
    (people.foldl (fun r s => r.putSubject s.1 s.2) empty)

theorem Roster.filled_eq (people : List (String × Subject)) (offers : List (Int64 × Course)) :
    filled people offers = ⟨.ofList people, .ofList offers⟩ := by
  have hpeople (r : Roster) : people.foldl (fun r s => r.putSubject s.1 s.2) r =
      { r with subjects := people.foldl (fun t s => t.insert s.1 s.2) r.subjects } := by
    induction people generalizing r with
    | nil => rfl
    | cons s people ih => exact ih _
  have hoffers (r : Roster) : offers.foldl (fun r c => r.putCourse c.1 c.2) r =
      { r with courses := offers.foldl (fun t c => t.insert c.1 c.2) r.courses } := by
    induction offers generalizing r with
    | nil => rfl
    | cons c offers ih => exact ih _
  rw [filled, hpeople, hoffers]
  rfl

/-! ### What can be wrong with a directory -/

/-- Nothing is wrong with the entries for subjects. -/
structure SoundSubjects (es : List SubjectEntry) : Prop where
  /-- Every role is known. -/
  roles : ∀ e ∈ es, ∃ role, Role.read e.role = .ok role
  /-- No two subjects have one token. -/
  tokens : (es.map (·.token)).Nodup

theorem soundSubjects_concat_iff {es : List SubjectEntry} {e : SubjectEntry} :
    SoundSubjects (es ++ [e]) ↔ SoundSubjects es ∧ (∃ role, Role.read e.role = .ok role) ∧
      e.token ∉ es.map (·.token) := by
  have htokens : ((es ++ [e]).map (·.token)).Nodup ↔
      e.token ∉ es.map (·.token) ∧ (es.map (·.token)).Nodup := by
    rw [List.map_append, List.map_singleton, ← List.concat_eq_append, List.nodup_concat]
  constructor
  · intro h
    obtain ⟨hfresh, hes⟩ := htokens.1 h.tokens
    exact ⟨⟨fun e' he' => h.roles e' (List.mem_append_left _ he'), hes⟩,
      h.roles e (List.mem_append_right _ List.mem_cons_self), hfresh⟩
  · rintro ⟨hes, hrole, hfresh⟩
    refine ⟨fun e' he' => ?_, htokens.2 ⟨hfresh, hes.tokens⟩⟩
    rcases List.mem_append.1 he' with he' | he'
    · exact hes.roles e' he'
    · rw [List.mem_singleton.1 he']
      exact hrole

namespace Directory

/-- Nothing is wrong with a directory. -/
structure Sound (d : Directory) : Prop where
  /-- Nothing is wrong with the subjects. -/
  subjects : SoundSubjects d.subjects
  /-- No two courses have one number. -/
  ids : (d.courses.map (·.id)).Nodup

/-- The first thing that is wrong with a directory. -/
inductive Fault (d : Directory) : DirectoryError → Prop
  /-- Nobody knows the role of a subject, and nothing is wrong with those before it. -/
  | unknownRole {before after : List SubjectEntry} {e : SubjectEntry} :
      d.subjects = before ++ e :: after → SoundSubjects before →
      (∀ role, Role.read e.role ≠ .ok role) → Fault d (.unknownRole e.token e.role)
  /-- The role of a subject is known, but one of those before it has its token. -/
  | duplicateSubject {before after : List SubjectEntry} {e : SubjectEntry} {role : Role} :
      d.subjects = before ++ e :: after → SoundSubjects before → Role.read e.role = .ok role →
      e.token ∈ before.map (·.token) → Fault d (.duplicateSubject e.token)
  /-- Nothing is wrong with the subjects, but a course has the number of one of those before it. -/
  | duplicateCourse {before after : List CourseEntry} {e : CourseEntry} :
      SoundSubjects d.subjects → d.courses = before ++ e :: after →
      (before.map (·.id)).Nodup → e.id ∈ before.map (·.id) → Fault d (.duplicateCourse e.id)

theorem sound_or_exists_fault (d : Directory) : d.Sound ∨ ∃ err, d.Fault err := by
  have hnil : SoundSubjects [] := ⟨nofun, .nil⟩
  rcases holds_or_exists_first hnil d.subjects with
    hsubjects | ⟨before, e, after, hsplit, hbefore, he⟩
  · have hnone : (([] : List CourseEntry).map (·.id)).Nodup := .nil
    rcases holds_or_exists_first (P := fun es => (es.map CourseEntry.id).Nodup) hnone d.courses with
      hids | ⟨before, e, after, hsplit, hbefore, he⟩
    · exact .inl ⟨hsubjects, hids⟩
    · rw [List.map_append, List.map_singleton, ← List.concat_eq_append, List.nodup_concat,
        not_and_or, not_not] at he
      have htwice := he.resolve_right (not_not.2 hbefore)
      exact .inr ⟨_, .duplicateCourse hsubjects hsplit hbefore htwice⟩
  · cases hrole : Role.read e.role with
    | error unknown =>
      exact .inr ⟨_, .unknownRole hsplit hbefore fun role => by rw [hrole]; nofun⟩
    | ok role =>
      have htwice : e.token ∈ before.map (·.token) := by
        by_contra hfresh
        exact he (soundSubjects_concat_iff.2 ⟨hbefore, ⟨role, hrole⟩, hfresh⟩)
      exact .inr ⟨_, .duplicateSubject hsplit hbefore hrole htwice⟩

/-! ### What becomes of a directory -/

section Steps

variable {ε α β : Type} {f : β → α → Except ε β} {xs : List α} {start b : β} {x : α}

theorem foldlM_concat (h : xs.foldlM f start = .ok b) :
    (xs ++ [x]).foldlM f start = f b x := by
  rw [List.foldlM_append, h]
  exact bind_pure (f b x)

/-- The first step that fails is the last one. -/
theorem foldlM_eq_error {e : ε} (h : xs.foldlM f start = .ok b) (hx : f b x = .error e)
    (rest : List α) : (xs ++ x :: rest).foldlM f start = .error e := by
  rw [List.foldlM_append, h]
  change (f b x >>= fun b => rest.foldlM f b) = .error e
  rw [hx]
  rfl

end Steps

theorem map_token_known? {es : List SubjectEntry} (h : SoundSubjects es) :
    (es.filterMap SubjectEntry.known?).map (·.1) = es.map (·.token) := by
  induction es using List.reverseRecOn with
  | nil => rfl
  | append_singleton es e ih =>
    obtain ⟨hes, ⟨role, hrole⟩, -⟩ := soundSubjects_concat_iff.1 h
    have hknown : e.known? = some (e.token, ⟨e.id, e.name, e.email, role⟩) := by
      rw [SubjectEntry.known?, hrole]
      rfl
    simp [ih hes, hknown]

theorem contains_subjects_filled {es : List SubjectEntry} (h : SoundSubjects es) {token : String} :
    (Roster.filled (es.filterMap SubjectEntry.known?) []).subjects.contains token = true ↔
      token ∈ es.map (·.token) := by
  rw [Roster.filled_eq, Table.contains_ofList, map_token_known? h]

theorem contains_courses_filled {people : List (String × Subject)} {es : List CourseEntry}
    {id : Int64} :
    (Roster.filled people (es.map CourseEntry.numbered)).courses.contains id = true ↔
      id ∈ es.map (·.id) := by
  rw [Roster.filled_eq, Table.contains_ofList, List.map_map]
  rfl

/-- **Subjects with which nothing is wrong** are all put into the roster. -/
theorem foldlM_addSubject {es : List SubjectEntry} (h : SoundSubjects es) :
    es.foldlM addSubject .empty = .ok (.filled (es.filterMap SubjectEntry.known?) []) := by
  -- From the end: when the loop comes to the last entry, the roster holds those before it.
  induction es using List.reverseRecOn with
  | nil => rfl
  | append_singleton es e ih =>
    obtain ⟨hes, ⟨role, hrole⟩, hfresh⟩ := soundSubjects_concat_iff.1 h
    have hknown : [e].filterMap SubjectEntry.known? =
        [(e.token, ⟨e.id, e.name, e.email, role⟩)] := by
      rw [List.filterMap_cons_some (by rw [SubjectEntry.known?, hrole]; rfl), List.filterMap_nil]
    rw [foldlM_concat (ih hes), addSubject, hrole]
    dsimp only
    rw [if_neg (mt (contains_subjects_filled hes).1 hfresh), List.filterMap_append, hknown,
      Roster.filled_eq, Roster.filled_eq, Table.ofList_concat]
    rfl

theorem foldlM_addCourse (people : List (String × Subject)) {es : List CourseEntry}
    (h : (es.map (·.id)).Nodup) : es.foldlM addCourse (.filled people []) =
      .ok (.filled people (es.map CourseEntry.numbered)) := by
  induction es using List.reverseRecOn with
  | nil => rfl
  | append_singleton es e ih =>
    rw [List.map_append, List.map_singleton, ← List.concat_eq_append, List.nodup_concat] at h
    obtain ⟨hfresh, hes⟩ := h
    rw [foldlM_concat (ih hes), addCourse, if_neg (mt contains_courses_filled.1 hfresh),
      List.map_append, List.map_singleton, Roster.filled_eq, Roster.filled_eq, Table.ofList_concat]
    rfl

variable {d : Directory}

/-- **A sound directory** makes the roster with all its entries. -/
theorem roster_of_sound (h : d.Sound) : d.roster = .ok (.filled d.people d.offers) := by
  rw [roster, foldlM_addSubject h.subjects]
  exact foldlM_addCourse d.people h.ids

/-- **The first fault** of a directory is reported. -/
theorem Fault.roster_eq {err : DirectoryError} (h : d.Fault err) : d.roster = .error err := by
  have hsubject {before after : List SubjectEntry} {e : SubjectEntry}
      (hsplit : d.subjects = before ++ e :: after) (hbefore : SoundSubjects before)
      (he : addSubject (.filled (before.filterMap SubjectEntry.known?) []) e = .error err) :
      d.roster = .error err := by
    rw [roster, hsplit, foldlM_eq_error (foldlM_addSubject hbefore) he after]
    rfl
  cases h with
  | unknownRole hsplit hbefore hrole =>
    refine hsubject hsplit hbefore ?_
    rw [addSubject]
    split
    · rfl
    · next role hread => exact absurd hread (hrole role)
  | duplicateSubject hsplit hbefore hrole htwice =>
    refine hsubject hsplit hbefore ?_
    rw [addSubject, hrole]
    dsimp only
    rw [if_pos ((contains_subjects_filled hbefore).2 htwice)]
  | duplicateCourse hsubjects hsplit hbefore htwice =>
    rw [roster, foldlM_addSubject hsubjects, hsplit]
    refine foldlM_eq_error (foldlM_addCourse d.people hbefore) ?_ _
    rw [addCourse, if_pos (contains_courses_filled.2 htwice)]

/-! ### What a roster answers -/

/-- The records answer with the entries of a directory, and have nothing else. -/
structure Answers (d : Directory) (r : Records) : Prop where
  /-- The token of an entry is that of its subject. -/
  subject : ∀ e ∈ d.subjects, ∃ role, Role.read e.role = .ok role ∧
    r.subject e.token = .ok (some ⟨e.id, e.name, e.email, role⟩)
  /-- Every other token is nobody's. -/
  noSubject : ∀ token, (∀ e ∈ d.subjects, e.token ≠ token) → r.subject token = .ok none
  /-- The number of an entry is that of its course. -/
  course : ∀ e ∈ d.courses, r.modality e.id = .ok (some e.course.modality) ∧
    r.enrollment e.id = .ok e.course.enrolled ∧ r.period e.id = .ok e.course.period
  /-- Every other number is that of no course. -/
  noCourse : ∀ id, (∀ e ∈ d.courses, e.id ≠ id) →
    r.modality id = .ok none ∧ r.enrollment id = .ok 0 ∧ r.period id = .ok none

theorem map_fst_offers (d : Directory) : d.offers.map (·.1) = d.courses.map (·.id) := List.map_map

theorem Sound.map_fst_people (h : d.Sound) : d.people.map (·.1) = d.subjects.map (·.token) :=
  map_token_known? h.subjects

theorem Sound.nodup_people (h : d.Sound) : (d.people.map (·.1)).Nodup :=
  h.map_fst_people ▸ h.subjects.tokens

theorem Sound.nodup_offers (h : d.Sound) : (d.offers.map (·.1)).Nodup := d.map_fst_offers ▸ h.ids

theorem answers_of_sound (h : d.Sound) : d.Answers (Roster.filled d.people d.offers).records := by
  rw [Roster.filled_eq]
  constructor
  · intro e he
    obtain ⟨role, hrole⟩ := h.subjects.roles e he
    have hmem : (e.token, ⟨e.id, e.name, e.email, role⟩) ∈ d.people :=
      List.mem_filterMap.2 ⟨e, he, by rw [SubjectEntry.known?, hrole]; rfl⟩
    exact ⟨role, hrole, congrArg Except.ok ((Table.get?_ofList_eq_some_iff h.nodup_people).2 hmem)⟩
  · intro token htoken
    refine congrArg Except.ok (Table.get?_ofList_eq_none_iff.2 ?_)
    rw [h.map_fst_people, List.mem_map]
    rintro ⟨e, he, heq⟩
    exact htoken e he heq
  · intro e he
    have hget : (Table.ofList d.offers).get? e.id = some e.course :=
      (Table.get?_ofList_eq_some_iff h.nodup_offers).2 (List.mem_map_of_mem he)
    simp [Roster.records, hget]
  · intro id hid
    have hget : (Table.ofList d.offers).get? id = none := by
      rw [Table.get?_ofList_eq_none_iff, map_fst_offers, List.mem_map]
      rintro ⟨e, he, heq⟩
      exact hid e he heq
    simp [Roster.records, hget]

theorem Sound.perm {d' : Directory} (h : d.Sound) (hsubjects : d.subjects.Perm d'.subjects)
    (hcourses : d.courses.Perm d'.courses) : d'.Sound where
  subjects :=
    ⟨fun e he => h.subjects.roles e (hsubjects.mem_iff.2 he),
      (hsubjects.map _).nodup_iff.1 h.subjects.tokens⟩
  ids := (hcourses.map _).nodup_iff.1 h.ids

/-- **The order of the entries** does not matter. -/
theorem filled_perm (h : d.Sound) {people : List (String × Subject)}
    {offers : List (Int64 × Course)} (hpeople : d.people.Perm people)
    (hoffers : d.offers.Perm offers) :
    Roster.filled d.people d.offers = .filled people offers := by
  rw [Roster.filled_eq, Roster.filled_eq, Table.ofList_perm hpeople h.nodup_people,
    Table.ofList_perm hoffers h.nodup_offers]

/-! ### Directories are faithful -/

/-- What becomes of a directory that is read from a file. -/
structure Faithful (d : Directory) : Prop where
  /-- A file that holds it makes its roster. -/
  read : ∀ text, Text.blank text = false →
    Yaml.Document.decode? Directory.read? text = some d → Roster.read text = d.roster
  /-- There is a roster when nothing is wrong. -/
  sound : (∃ r, d.roster = .ok r) ↔ d.Sound
  /-- When something is, the first fault is reported. -/
  fault : ∀ err, d.roster = .error err ↔ d.Fault err
  /-- The roster answers with the entries. -/
  answers : ∀ r, d.roster = .ok r → d.Answers r.records
  /-- The entries in another order make the same roster. -/
  reordered : ∀ r (d' : Directory), d.roster = .ok r → d.subjects.Perm d'.subjects →
    d.courses.Perm d'.courses → d'.roster = .ok r
  /-- Every request is judged as if the subjects and the courses had been put one by one, in
  whatever order, into a roster that is kept in memory, whose answers are `Roster.records` as
  well. -/
  evaluate : ∀ r, d.roster = .ok r → ∀ people offers, d.people.Perm people →
    d.offers.Perm offers → ∀ tables today kind c,
      (Service.mk tables r.records today).evaluate kind c =
        (Service.mk tables (Roster.filled people offers).records today).evaluate kind c

theorem sound_of_roster {r : Roster} (h : d.roster = .ok r) : d.Sound := by
  rcases d.sound_or_exists_fault with hsound | ⟨err, hfault⟩
  · exact hsound
  · rw [hfault.roster_eq] at h
    cases h

theorem eq_filled_of_roster {r : Roster} (h : d.roster = .ok r) :
    r = .filled d.people d.offers := by
  rw [roster_of_sound (sound_of_roster h)] at h
  exact (Except.ok.inj h).symm

/-- **A directory file is a faithful map** of tokens to subjects and of numbers to courses.  What it
answers is pinned by `Answers`, and it is judged by in the same way as subjects and courses that are
kept in memory. -/
theorem faithful (d : Directory) : d.Faithful where
  read text hblank hdecode := by rw [Roster.read, hblank, hdecode]; rfl
  sound := ⟨fun ⟨_, h⟩ => sound_of_roster h, fun h => ⟨_, roster_of_sound h⟩⟩
  fault err := by
    refine ⟨fun h => ?_, Fault.roster_eq⟩
    rcases d.sound_or_exists_fault with hsound | ⟨err', hfault⟩
    · rw [roster_of_sound hsound] at h
      cases h
    · rw [hfault.roster_eq] at h
      exact Except.error.inj h ▸ hfault
  answers r h := by
    rw [eq_filled_of_roster h]
    exact answers_of_sound (sound_of_roster h)
  reordered r d' h hsubjects hcourses := by
    have hsound := sound_of_roster h
    rw [eq_filled_of_roster h, roster_of_sound (hsound.perm hsubjects hcourses),
      filled_perm hsound (hsubjects.filterMap _) (hcourses.map _)]
    rfl
  evaluate r h people offers hpeople hoffers tables today kind c := by
    rw [eq_filled_of_roster h, filled_perm (sound_of_roster h) hpeople hoffers]

end Directory

end Registrar
