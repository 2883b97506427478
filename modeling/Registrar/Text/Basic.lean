/-!
# Blanks, trimming and splitting

Texts reach this library padded, oddly spaced and in any letter case.  This module fixes what a
blank is and how a text is cut at blanks.

* `Text.isBlank`, `Text.isControl`: the two character classes that every other rule is built on.
* `Text.trim`: a text without the blanks at its two ends.
* `Text.cutFirst?`, `Text.cutLast?`: a text cut at the first, or the last, separator.
* `Text.segments`: all the pieces between separators.
* `Text.after?`: what follows a given beginning.
* `Text.lowerAscii`: lower case for the letters `A` to `Z` only.

`Text.cutFirst?_eq_some_iff` and `Text.cutLast?_eq_some_iff` say where a text is cut, and that
nothing but the separator is lost; `Text.pieces_iff` says so of the pieces.
`Text.exists_pad_trimChars` and `Text.trimChars_pad` say what is trimmed off,
`Text.segments_append_left` and `Text.segments_append_right` what becomes of characters that are
put around a text.
-/

namespace Registrar.Text

/-- The blank characters: Unicode's property White_Space. -/
def isBlank (c : Char) : Bool :=
  let n := c.toNat
  (9 ≤ n && n ≤ 13) || n == 0x20 || n == 0x85 || n == 0xA0 || n == 0x1680 ||
    (0x2000 ≤ n && n ≤ 0x200A) || n == 0x2028 || n == 0x2029 || n == 0x202F || n == 0x205F ||
    n == 0x3000

/-- The control characters: Unicode's category Cc, which is U+0000 to U+001F and U+007F to
U+009F. -/
def isControl (c : Char) : Bool :=
  c.toNat < 0x20 || (0x7F ≤ c.toNat && c.toNat < 0xA0)

/-! ### Trimming -/

/-- The characters without the blanks at their two ends. -/
def trimChars (cs : List Char) : List Char :=
  ((cs.dropWhile isBlank).reverse.dropWhile isBlank).reverse

/-- The text without the blanks at its two ends. -/
def trim (s : String) : String := .ofList (trimChars s.toList)

/-- A text is blank when nothing is left of it after trimming. -/
def blank (s : String) : Bool := s.toList.all isBlank

/-! ### Letter case -/

/-- The text with the letters `A` to `Z` in lower case and every other character as it is. -/
def lowerAscii (s : String) : String := .ofList (s.toList.map Char.toLower)

/-- Two texts are the same word when they differ only in the case of the letters `A` to `Z`. -/
def sameWord (a b : String) : Bool := lowerAscii a == lowerAscii b

/-! ### Cutting -/

/-- The text before and after the first separator, when there is one. -/
def cutFirst? (sep : Char → Bool) : List Char → Option (List Char × List Char)
  | [] => none
  | c :: cs => if sep c then some ([], cs) else (cutFirst? sep cs).map fun (a, b) => (c :: a, b)

/-- The text before and after the last separator, when there is one. -/
def cutLast? (sep : Char → Bool) (cs : List Char) : Option (List Char × List Char) :=
  (cutFirst? sep cs.reverse).map fun (a, b) => (b.reverse, a.reverse)

/-- The pieces between separators, in order; there is one more piece than there are
separators. -/
def segments (sep : Char → Bool) : List Char → List (List Char)
  | [] => [[]]
  | c :: cs =>
    if sep c then [] :: segments sep cs
    else match segments sep cs with
      | [] => [[c]]
      | s :: rest => (c :: s) :: rest

/-- What follows a beginning, when the text has that beginning. -/
def after? (start cs : List Char) : Option (List Char) :=
  if start.isPrefixOf cs then some (cs.drop start.length) else none

/-! ### What trimming keeps -/

/-- **Trimming takes blanks away** at the two ends and nothing else. -/
theorem exists_pad_trimChars (cs : List Char) :
    ∃ u v, (∀ c ∈ u, isBlank c = true) ∧ (∀ c ∈ v, isBlank c = true) ∧
      cs = u ++ trimChars cs ++ v := by
  let rest := cs.dropWhile isBlank
  refine ⟨cs.takeWhile isBlank, (rest.reverse.takeWhile isBlank).reverse, ?_, ?_, ?_⟩
  · exact List.all_eq_true.1 List.all_takeWhile
  · exact fun c hc => List.all_eq_true.1 List.all_takeWhile c (List.mem_reverse.1 hc)
  · have hrest : rest = trimChars cs ++ (rest.reverse.takeWhile isBlank).reverse := by
      rw [trimChars, ← List.reverse_append, List.takeWhile_append_dropWhile, List.reverse_reverse]
    rw [List.append_assoc, ← hrest, List.takeWhile_append_dropWhile]

/-- Blanks around a text are trimmed off, and nothing else of it with them. -/
theorem trimChars_pad {u v : List Char} (cs : List Char) (hu : ∀ c ∈ u, isBlank c = true)
    (hv : ∀ c ∈ v, isBlank c = true) : trimChars (u ++ cs ++ v) = trimChars cs := by
  have hreverse : ∀ c ∈ v.reverse, isBlank c = true := fun c hc => hv c (List.mem_reverse.1 hc)
  unfold trimChars
  rw [List.append_assoc, List.dropWhile_append_of_pos hu, List.dropWhile_append]
  split
  · next h =>
    have hnil : (v ++ []).dropWhile isBlank = [] := List.dropWhile_append_of_pos hv
    rw [List.isEmpty_iff.1 h, ← hnil, List.append_nil]
  · rw [List.reverse_append, List.dropWhile_append_of_pos hreverse]

/-! ### What cutting keeps -/

/-- **A text is cut at the first separator**: before it there is no other. -/
theorem cutFirst?_eq_some_iff {sep : Char → Bool} {cs a b : List Char} :
    cutFirst? sep cs = some (a, b) ↔
      ∃ c, sep c = true ∧ cs = a ++ c :: b ∧ ∀ d ∈ a, sep d = false := by
  induction cs generalizing a with
  | nil => simp [cutFirst?]
  | cons x xs ih =>
    unfold cutFirst?
    split
    · next hx =>
      constructor
      · intro h
        obtain ⟨rfl, rfl⟩ : [] = a ∧ xs = b := by simpa using h
        exact ⟨x, hx, rfl, nofun⟩
      · rintro ⟨c, -, hcs, ha⟩
        cases a with
        | nil =>
          obtain ⟨-, rfl⟩ : x = c ∧ xs = b := by simpa using hcs
          rfl
        | cons y a =>
          obtain ⟨rfl, -⟩ : x = y ∧ xs = a ++ c :: b := by simpa using hcs
          rw [ha x List.mem_cons_self] at hx
          cases hx
    · next hx =>
      rw [Option.map_eq_some_iff]
      constructor
      · rintro ⟨⟨a', b'⟩, hp, he⟩
        obtain ⟨rfl, rfl⟩ : x :: a' = a ∧ b' = b := by simpa using he
        obtain ⟨c, hc, rfl, ha'⟩ := ih.1 hp
        exact ⟨c, hc, rfl, List.forall_mem_cons.2 ⟨Bool.eq_false_iff.2 hx, ha'⟩⟩
      · rintro ⟨c, hc, hcs, ha⟩
        cases a with
        | nil =>
          obtain ⟨rfl, -⟩ : x = c ∧ xs = b := by simpa using hcs
          exact absurd hc hx
        | cons y a =>
          obtain ⟨rfl, rfl⟩ : x = y ∧ xs = a ++ c :: b := by simpa using hcs
          exact ⟨(a, b), ih.2 ⟨c, hc, rfl, (List.forall_mem_cons.1 ha).2⟩, rfl⟩

theorem cutFirst?_eq_none_iff {sep : Char → Bool} {cs : List Char} :
    cutFirst? sep cs = none ↔ ∀ c ∈ cs, sep c = false := by
  induction cs with
  | nil => simp [cutFirst?]
  | cons c cs ih =>
    rw [List.forall_mem_cons, ← ih, cutFirst?]
    split
    · next hc => simp [hc]
    · next hc => simp [hc]

/-- **A text is cut at the last separator**: behind it there is no other. -/
theorem cutLast?_eq_some_iff {sep : Char → Bool} {cs a b : List Char} :
    cutLast? sep cs = some (a, b) ↔
      ∃ c, sep c = true ∧ cs = a ++ c :: b ∧ ∀ d ∈ b, sep d = false := by
  have hreverse : cutLast? sep cs = some (a, b) ↔
      cutFirst? sep cs.reverse = some (b.reverse, a.reverse) := by
    rw [cutLast?, Option.map_eq_some_iff]
    constructor
    · rintro ⟨⟨b', a'⟩, hcut, he⟩
      obtain ⟨rfl, rfl⟩ : a'.reverse = a ∧ b'.reverse = b := by simpa using he
      simpa using hcut
    · exact fun h => ⟨_, h, by simp⟩
  simp [hreverse, cutFirst?_eq_some_iff, List.reverse_eq_iff]

theorem cutLast?_eq_none_iff {sep : Char → Bool} {cs : List Char} :
    cutLast? sep cs = none ↔ ∀ c ∈ cs, sep c = false := by
  rw [cutLast?, Option.map_eq_none_iff, cutFirst?_eq_none_iff]
  simp

theorem segments_ne_nil (sep : Char → Bool) (cs : List Char) : segments sep cs ≠ [] := by
  cases cs with
  | nil => simp [segments]
  | cons c cs =>
    unfold segments
    split
    · simp
    · split <;> simp

/-- Characters in front of a text that separate nothing belong to its first piece. -/
theorem segments_append_left {sep : Char → Bool} {u cs first : List Char}
    {rest : List (List Char)} (hu : ∀ c ∈ u, sep c = false)
    (h : segments sep cs = first :: rest) : segments sep (u ++ cs) = (u ++ first) :: rest := by
  induction u with
  | nil => exact h
  | cons c u ih =>
    have hc := hu c List.mem_cons_self
    have hrest := ih fun d hd => hu d (List.mem_cons_of_mem _ hd)
    simp [segments, hc, hrest]

/-- Characters behind a text that separate nothing belong to its last piece. -/
theorem segments_append_right {sep : Char → Bool} {v cs last : List Char}
    {front : List (List Char)} (hv : ∀ c ∈ v, sep c = false)
    (h : segments sep cs = front ++ [last]) :
    segments sep (cs ++ v) = front ++ [last ++ v] := by
  induction cs generalizing front last with
  | nil =>
    obtain ⟨rfl, rfl⟩ : front = [] ∧ last = [] := by
      cases front with
      | nil => simpa [segments] using h.symm
      | cons x xs => simp [segments] at h
    have hnil : segments sep [] = [[]] := rfl
    simpa using segments_append_left hv hnil
  | cons c cs ih =>
    unfold segments at h
    split at h
    · next hc =>
      cases front with
      | nil => simp [segments_ne_nil] at h
      | cons x xs =>
        obtain ⟨rfl, hcs⟩ : [] = x ∧ segments sep cs = xs ++ [last] := by simpa using h
        simp [segments, hc, ih hcs]
    · next hc =>
      -- The character joins the first piece, which is the last one too if there is no other.
      split at h
      · next hnil => exact absurd hnil (segments_ne_nil sep cs)
      · next s rest hs =>
        cases front with
        | nil =>
          obtain ⟨rfl, rfl⟩ : c :: s = last ∧ rest = [] := by simpa using h
          have hlast : segments sep (cs ++ v) = [] ++ [s ++ v] := ih hs
          simp [segments, hc, hlast]
        | cons x xs =>
          obtain ⟨rfl, rfl⟩ : c :: s = x ∧ rest = xs ++ [last] := by simpa using h
          have hlast : segments sep (cs ++ v) = s :: xs ++ [last ++ v] := ih hs
          simp [segments, hc, hlast]

/-! ### The pieces of a text -/

/-- The text consists of these pieces: no separator stands in a piece, and one stands between each
two of them. -/
inductive Pieces (sep : Char → Bool) : List Char → List (List Char) → Prop
  /-- The only piece, or the last one. -/
  | last {piece : List Char} : (∀ c ∈ piece, sep c = false) → Pieces sep piece [piece]
  /-- A piece, a separator, and the pieces behind it. -/
  | cons {piece cs : List Char} {mark : Char} {rest : List (List Char)} :
      (∀ c ∈ piece, sep c = false) → sep mark = true → Pieces sep cs rest →
        Pieces sep (piece ++ mark :: cs) (piece :: rest)

theorem pieces_segments (sep : Char → Bool) (cs : List Char) : Pieces sep cs (segments sep cs) := by
  induction cs with
  | nil => exact .last nofun
  | cons c cs ih =>
    unfold segments
    split
    · next hc =>
      have hnone : ∀ d ∈ [], sep d = false := nofun
      exact .cons hnone hc ih
    · next hc =>
      have hc := Bool.eq_false_iff.2 hc
      -- The character joins the first of the pieces behind it.
      split
      · next hnil => exact absurd hnil (segments_ne_nil sep cs)
      · next s rest hs =>
        rw [hs] at ih
        cases ih with
        | last hpiece => exact .last (List.forall_mem_cons.2 ⟨hc, hpiece⟩)
        | cons hpiece hmark hrest =>
          exact .cons (List.forall_mem_cons.2 ⟨hc, hpiece⟩) hmark hrest

theorem Pieces.segments_eq {sep : Char → Bool} {cs : List Char} {pieces : List (List Char)}
    (h : Pieces sep cs pieces) : segments sep cs = pieces := by
  induction h with
  | last hpiece =>
    have hnil : segments sep [] = [[]] := rfl
    simpa using segments_append_left hpiece hnil
  | @cons piece cs mark rest hpiece hmark _ ih =>
    have hrest : segments sep (mark :: cs) = [] :: rest := by simp [segments, hmark, ih]
    simpa using segments_append_left hpiece hrest

/-- **A text has its pieces** and is in no other way made of pieces. -/
theorem pieces_iff {sep : Char → Bool} {cs : List Char} {pieces : List (List Char)} :
    Pieces sep cs pieces ↔ pieces = segments sep cs :=
  ⟨fun h => h.segments_eq.symm, fun h => h ▸ pieces_segments sep cs⟩

end Registrar.Text
