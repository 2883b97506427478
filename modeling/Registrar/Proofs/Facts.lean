import Registrar.Request
import Registrar.Stage.Identity

/-!
# Facts on requests

What a request answers after a fact was noted, and what noting leaves alone.

* `Request.fact?_eq_some_iff`: which facts are known.
* `Request.fact?_note`: the noted fact has its new value and every other fact its old one.
* `Request.does_iff`, `Request.authors_iff`: what the action of a request is, apart from blanks
  around it and from letter case.
* `Json.Denotes`: the number that a value stands for; `Json.int64?_eq_some_iff` says that this
  is what is read from it.
* `Request.identify` notes who the subject is and touches neither the action nor the course.
-/

namespace Registrar

theorem Fact.name_injective {f g : Fact} (h : f.name = g.name) : f = g := by
  cases f <;> cases g <;> first | rfl | simp [name] at h

/-! ### Whole numbers -/

theorem Text.int64OfInt?_toInt (n : Int64) : int64OfInt? n.toInt = some n := by
  have hlo := n.le_toInt
  have hhi := n.toInt_lt
  rw [int64OfInt?, if_pos (by omega), Int64.ofInt_toInt]

theorem Text.int64OfInt?_eq_some_iff {n : Int} {k : Int64} :
    int64OfInt? n = some k ↔ k.toInt = n :=
  ⟨toInt_of_int64OfInt?, fun h => h ▸ int64OfInt?_toInt k⟩

/-- The value stands for the number: it is that number, or a text that, blanks around it apart,
is a numeral of it. -/
def Json.Denotes (v : Json) (n : Int64) : Prop :=
  v = .int n.toInt ∨ ∃ s, v = .string s ∧ Text.signed? (Text.trimChars s.toList) = some n.toInt

theorem Json.int64?_eq_some_iff {v : Json} {n : Int64} : v.int64? = some n ↔ v.Denotes n := by
  unfold Denotes int64? Json.int
  split
  · rw [Text.int64OfInt?_eq_some_iff]
    simp [eq_comm]
  · simp [Text.int64?, Option.bind_eq_some_iff, Text.int64OfInt?_eq_some_iff]
  · next hn hs =>
    simp only [reduceCtorEq, false_iff, not_or, not_exists, not_and]
    exact ⟨hn _, fun s h => absurd h (hs s)⟩

theorem Json.Denotes.unique {v : Json} {n m : Int64} (hn : v.Denotes n) (hm : v.Denotes m) :
    n = m :=
  Option.some.inj ((int64?_eq_some_iff.2 hn).symm.trans (int64?_eq_some_iff.2 hm))

theorem Json.int64?_int (n : Int64) : (Json.int n.toInt).int64? = some n :=
  Json.int64?_eq_some_iff.2 (.inl rfl)

namespace Request

variable (r : Request)

/-! ### Noting a fact -/

variable {r} in
theorem fact?_eq_some_iff {f : Fact} {v : Json} :
    r.fact? f = some v ↔ r.metadata.get? f.name = some v ∧ v ≠ .null := by
  rw [fact?, value?, Option.filter_eq_some_iff]
  cases v <;> simp [Json.isNull]

@[simp] theorem id_note (f : Fact) (v : Json) : (r.note f v).id = r.id := rfl

@[simp] theorem token_note (f : Fact) (v : Json) : (r.note f v).token = r.token := rfl

@[simp] theorem role_note (f : Fact) (v : Json) : (r.note f v).role = r.role := rfl

@[simp] theorem resource_note (f : Fact) (v : Json) : (r.note f v).resource = r.resource := rfl

@[simp] theorem action_note (f : Fact) (v : Json) : (r.note f v).action = r.action := rfl

theorem get?_metadata_note (f : Fact) (v : Json) (name : String) :
    (r.note f v).metadata.get? name = if name = f.name then some v else r.metadata.get? name :=
  Table.get?_insert ..

@[simp] theorem get?_metadata_note_self (f : Fact) (v : Json) :
    (r.note f v).metadata.get? f.name = some v := by
  rw [get?_metadata_note, if_pos rfl]

theorem get?_metadata_note_of_ne {f g : Fact} (h : f ≠ g) (v : Json) :
    (r.note g v).metadata.get? f.name = r.metadata.get? f.name := by
  rw [get?_metadata_note, if_neg fun hn => h (Fact.name_injective hn)]

/-- **A noted fact** has its new value, unless that is null, and every other fact its old one. -/
theorem fact?_note (f g : Fact) (v : Json) :
    (r.note g v).fact? f = if f = g then (some v).filter (!·.isNull) else r.fact? f := by
  unfold fact? value?
  split
  · next h => rw [h, get?_metadata_note_self]
  · next h => rw [get?_metadata_note_of_ne r h]

theorem fact?_note_self (f : Fact) {v : Json} (h : v.isNull = false) :
    (r.note f v).fact? f = some v := by
  rw [fact?_note, if_pos rfl, Option.filter_some, if_pos (by simp [h])]

@[simp] theorem fact?_note_of_ne {f g : Fact} (h : f ≠ g) (v : Json) :
    (r.note g v).fact? f = r.fact? f := by
  rw [fact?_note, if_neg h]

@[simp] theorem courseId?_note {f : Fact} (h : Fact.courseId ≠ f) (v : Json) :
    (r.note f v).courseId? = r.courseId? := by
  unfold courseId?
  rw [fact?_note_of_ne r h]
  rfl

/-! ### The action -/

/-- The verb that the action is, whatever its letter case and the blanks around it. -/
def verb : String := Text.lowerAscii (Text.trim r.action)

/-- The action creates or edits a course. -/
def Authors : Prop := r.verb = "create" ∨ r.verb = "edit"

@[simp] theorem verb_note (f : Fact) (v : Json) : (r.note f v).verb = r.verb := rfl

variable {r}

theorem does_iff {verb : String} (h : Text.lowerAscii verb = verb) :
    r.does verb = true ↔ r.verb = verb := by
  rw [does, Text.sameWord, h, beq_iff_eq]
  rfl

theorem does_enroll_iff : r.does "enroll" = true ↔ r.verb = "enroll" := does_iff (by decide)

theorem does_edit_iff : r.does "edit" = true ↔ r.verb = "edit" := does_iff (by decide)

theorem authors_iff : r.authors = true ↔ r.Authors := by
  rw [authors, Bool.or_eq_true, does_iff (by decide), does_edit_iff]
  rfl

/-! ### The subject -/

variable (r) (s : Subject)

@[simp] theorem fact?_claimRole (role : Role) (f : Fact) :
    (r.claimRole role).fact? f = r.fact? f := rfl

@[simp] theorem courseId?_claimRole (role : Role) : (r.claimRole role).courseId? = r.courseId? :=
  rfl

@[simp] theorem role_identify : (r.identify s).role = some (r.role.getD s.role) := rfl

@[simp] theorem resource_identify : (r.identify s).resource = r.resource := rfl

@[simp] theorem action_identify : (r.identify s).action = r.action := rfl

@[simp] theorem verb_identify : (r.identify s).verb = r.verb := rfl

@[simp] theorem courseId?_identify : (r.identify s).courseId? = r.courseId? := by
  simp [identify]

theorem get?_metadata_identify_of_ne {f : Fact}
    (h : f ≠ .subjectId ∧ f ≠ .subjectName ∧ f ≠ .subjectEmail) :
    (r.identify s).metadata.get? f.name = r.metadata.get? f.name := by
  rw [identify, get?_metadata_note_of_ne _ h.2.2, get?_metadata_note_of_ne _ h.2.1,
    get?_metadata_note_of_ne _ h.1]
  rfl

/-- Whatever the caller gave, the number of the subject is the one in the records. -/
theorem fact?_subjectId_identify :
    (r.identify s).fact? .subjectId = some (.int s.id.toInt) := by
  rw [identify, fact?_note_of_ne _ (by decide), fact?_note_of_ne _ (by decide),
    fact?_note_self _ _ rfl]

theorem fact?_identify_of_ne {f : Fact}
    (h : f ≠ .subjectId ∧ f ≠ .subjectName ∧ f ≠ .subjectEmail) :
    (r.identify s).fact? f = r.fact? f := by
  simp [identify, h]

end Request

end Registrar
