import Registrar.Proofs.NormalForm
import Registrar.Proofs.Questions

/-!
# One modality, one key

The records write the modality of a course in many ways, and the tables keep one seat limit under
the key of each modality.  However a modality is written, its key is written the same, names the
modality again, and is all that the limit depends on.  So the modality that is noted on a request
could as well be the one that is on the records.

* `Modality.read_eq_read_iff`: texts name the same modality exactly when they come to the same key.
* `Tables.seatLimit_eq_iff`: all that a limit depends on is the key, and any two keys are told apart
  by some tables.
* `Modality.keyed`: **the key of a modality is its one name.**
* `Service.evaluate_rekeyed`: records that hold the keys are as good as those that hold anything
  else.
-/

namespace Registrar

namespace Modality

theorem read_eq_read_iff {raw other : String} :
    read raw = read other ↔ (read raw).key = (read other).key := by
  constructor
  · exact congrArg key
  · intro hkey
    calc read raw = read (read raw).key := (read_key_read raw).symm
      _ = read (read other).key := by rw [hkey]
      _ = read other := read_key_read other

end Modality

namespace Tables

/-- Tables with one seat limit, of one seat, under a key. -/
def oneSeatFor (key : String) : Tables :=
  { Tables.empty with capacity := ⟨Table.empty.insert key 1, 0, .allow⟩ }

theorem seatLimit_oneSeatFor (key : String) (modality : Modality) :
    (oneSeatFor key).seatLimit modality = if modality.key = key then 1 else 0 := by
  rw [seatLimit, oneSeatFor, Table.get?_insert, Table.get?_empty]
  split <;> rfl

/-- **Modalities have the same limit under all tables** only if they have the same key. -/
theorem seatLimit_eq_iff {m n : Modality} :
    (∀ t : Tables, t.seatLimit m = t.seatLimit n) ↔ m.key = n.key := by
  constructor
  · intro h
    have hseat := h (oneSeatFor n.key)
    rw [seatLimit_oneSeatFor, seatLimit_oneSeatFor, if_pos rfl] at hseat
    refine Decidable.byContradiction fun hne => ?_
    rw [if_neg hne] at hseat
    cases hseat
  · intro hkey t
    rw [seatLimit, seatLimit, hkey]

end Tables

namespace Stage

variable {tables : Tables} {records : Records} {r : Request} {course : Int64} {raw : String}

/-- The stage that looks at the seats notes the key of the modality, whether or not it lets the
request go on. -/
theorem get?_courseType_capacityReply (modality : Modality) (enrolled : UInt32) :
    (capacityReply tables course modality enrolled r).request.metadata.get? Fact.courseType.name =
      some (.string modality.key) := by
  have hnoted : (((r.note .courseType (.string modality.key)).note .seatLimit
      (.int (tables.seatLimit modality).toNat)).note .enrollmentCount
      (.int enrolled.toNat)).metadata.get? Fact.courseType.name = some (.string modality.key) := by
    rw [Request.get?_metadata_note_of_ne _ (by decide),
      Request.get?_metadata_note_of_ne _ (by decide), Request.get?_metadata_note_self]
  unfold capacityReply
  dsimp only
  split
  · exact hnoted
  · exact (Request.get?_metadata_note_of_ne _ (by decide) _).trans hnoted

theorem get?_courseType_of_seatCapacity {reply : Reply} (h : r.EnrollsIn course)
    (hmodality : records.modality course = .ok (some raw))
    (hr : ((seatCapacity tables records).handle r).result = .ok reply) :
    reply.request.metadata.get? Fact.courseType.name =
      some (.string (Modality.read raw).key) := by
  simp only [seatCapacity, Request.does_enroll_iff.2 h.verb, h.course, if_true] at hr
  obtain ⟨answer, hanswer, hr⟩ := Consult.result_bind_eq_ok.1 hr
  obtain rfl : some raw = answer :=
    Except.ok.inj (hmodality.symm.trans (Consult.result_ask_eq_ok.1 hanswer))
  obtain ⟨enrolled, -, hr⟩ := Consult.result_bind_eq_ok.1 hr
  obtain rfl := Except.ok.inj hr
  exact get?_courseType_capacityReply ..

end Stage

namespace Modality

/-- The modality that a text names has one key, which names it again and is all that matters. -/
structure Keyed (raw : String) : Prop where
  /-- The key names the modality. -/
  again : read (read raw).key = read raw
  /-- Another text names the same modality exactly when it comes to the same key, -/
  same_iff_key : ∀ other, read raw = read other ↔ (read raw).key = (read other).key
  /-- and exactly when no tables have another limit for it. -/
  same_iff_limit : ∀ other,
    read raw = read other ↔ ∀ t : Tables, t.seatLimit (read raw) = t.seatLimit (read other)
  /-- For a request that enrolls in a course whose modality the records write in this way, what the
  stage that looks at the seats notes names the same modality, which has the same limit under all
  tables. -/
  noted : ∀ (tables : Tables) (records : Records) (r : Request) (course : Int64) (reply : Reply),
    r.EnrollsIn course → records.modality course = .ok (some raw) →
      ((Stage.seatCapacity tables records).handle r).result = .ok reply →
        ∃ text, reply.request.metadata.get? "courseType" = some (.string text) ∧
          read text = read raw ∧ ∀ t : Tables, t.seatLimit (read text) = t.seatLimit (read raw)

/-- **The key of a modality is its one name.**  However a text is written, the key of the modality
that it names is a text for the same modality; two texts name the same modality exactly when they
come to the same key, and so exactly when all tables have the same limit for both; and the text that
is noted on a request has the limit of the one on the records. -/
theorem keyed (raw : String) : Keyed raw where
  again := read_key_read raw
  same_iff_key _ := read_eq_read_iff
  same_iff_limit _ := read_eq_read_iff.trans Tables.seatLimit_eq_iff.symm
  noted tables records r course reply h hmodality hr :=
    ⟨(read raw).key, Stage.get?_courseType_of_seatCapacity h hmodality hr, read_key_read raw,
      fun t => by rw [read_key_read]⟩

/-- The accent of one of the names does not matter, and a name of any other kind keeps its own. -/
example : read " HÍBRIDO " = read "Hybrid" ∧ (read " Semi-Presencial ").key = "semi-presencial" := by
  decide +kernel

end Modality

/-! ### Records that hold the keys -/

/-- The records with the key of its modality in place of the text for each course. -/
def Records.rekeyed (records : Records) : Records :=
  { records with
    modality := fun course =>
      (records.modality course).map (Option.map fun raw => (Modality.read raw).key) }

namespace Stage

variable {tables : Tables} {records : Records}

theorem handle_seatCapacity_rekeyed (r : Request) :
    (seatCapacity tables records.rekeyed).handle r = (seatCapacity tables records).handle r := by
  unfold seatCapacity
  dsimp only
  split
  · split
    · rfl
    · next course _ =>
      unfold Records.rekeyed
      dsimp only
      cases records.modality course with
      | error outage => rfl
      | ok answer =>
        cases answer with
        | none => rfl
        | some raw =>
          rw [Consult.bind_of_ok (a := some (Modality.read raw).key) _ rfl,
            Consult.bind_of_ok (a := some raw) _ rfl]
          simp only [Consult.lookups_ask, Modality.read_key_read]
  · rfl

theorem eq_of_handle {s s' : Stage} (hname : s.name = s'.name)
    (h : ∀ r, s.handle r = s'.handle r) : s = s' := by
  obtain ⟨name, handle⟩ := s
  obtain ⟨name', handle'⟩ := s'
  obtain rfl : name = name' := hname
  exact congrArg (Stage.mk name) (funext h)

theorem seatCapacity_rekeyed : seatCapacity tables records.rekeyed = seatCapacity tables records :=
  eq_of_handle rfl handle_seatCapacity_rekeyed

end Stage

/-- **Records that hold the keys are as good** as those that hold any other texts for the same
modalities: every pipeline asks the same and comes to the same. -/
theorem Service.evaluate_rekeyed (s : Service) (kind : PipelineKind) (c : Case) :
    { s with records := s.records.rekeyed : Service }.evaluate kind c = s.evaluate kind c := by
  cases kind with
  | general =>
    unfold evaluate pipeline
    dsimp only
    rw [Stage.seatCapacity_rekeyed]
    rfl
  | courseAuthoring => rfl
  | courseListing => rfl

end Registrar
