import Mathlib.Algebra.GroupWithZero.Nat
import Mathlib.Tactic.SplitIfs
import Registrar.Json.Writer
import Registrar.Proofs.WholeNumber

/-!
# Reading what was written

A value that is written as JSON, in one line or in many, is read back as it was, with its fields in
the same order.  This holds of values whose numbers are whole and fit 64 bits and which are not
nested too deeply.

* `Json.tokens`: the tokens of a value.
* `Json.Token.Spells`: characters that are cut into these tokens, whatever comes behind them;
  `Json.Token.spells_quote` and `Json.Token.spells_numeral` say so of texts and of numbers.
* `Json.Plain`: the values that are read back.
* `Json.Plain.spells_compact`, `Json.Plain.spells_pretty`: what is written spells the tokens.
* `Json.Plain.run_tokens`: the machine that takes the tokens comes to the value.
* `Json.Plain.read?_compact`, `Json.Plain.read?_pretty`: **what was written is read back.**
-/

namespace Registrar

open Text (IsDigits)

namespace Json

namespace Token

/-! ### Cutting a text into tokens -/

/-- A number ends where such a text begins: there is no digit, no point and no exponent. -/
def EndsNumber (rest : List Char) : Prop :=
  ∀ c, rest.head? = some c → c.isDigit = false ∧ c ≠ '.' ∧ c ≠ 'e' ∧ c ≠ 'E'

/-- The characters are cut into these tokens, in front of every text that does not go on with a
number. -/
def Spells (cs : List Char) (ts : List Token) : Prop :=
  ∀ rest, EndsNumber rest → list? (cs ++ rest) = (list? rest).map (ts ++ ·)

theorem endsNumber_nil : EndsNumber [] := nofun

theorem endsNumber_cons {c : Char} (h : c.isDigit = false ∧ c ≠ '.' ∧ c ≠ 'e' ∧ c ≠ 'E')
    (rest : List Char) : EndsNumber (c :: rest) := by
  rintro d hd
  obtain rfl := Option.some.inj hd
  exact h

namespace Spells

variable {cs cs' : List Char} {ts ts' : List Token}

theorem nil : Spells [] [] := by
  intro rest _
  simp

theorem append (h : Spells cs ts) (h' : Spells cs' ts') (hends : ∀ rest, EndsNumber rest →
    EndsNumber (cs' ++ rest)) : Spells (cs ++ cs') (ts ++ ts') := by
  intro rest hrest
  rw [List.append_assoc, h _ (hends rest hrest), h' _ hrest, Option.map_map]
  simp only [Function.comp_def, List.append_assoc]

/-- What is scanned as one token in front of everything is a spelling of it. -/
theorem of_scan? {c : Char} {t : Token} (hc : isSpace c = false)
    (h : ∀ rest, EndsNumber rest → scan? (c :: cs ++ rest) = some (t, rest)) :
    Spells (c :: cs) [t] := by
  intro rest hrest
  rw [List.cons_append, list?_of_scan? hc, ← List.cons_append, h rest hrest, Option.bind_some]
  rfl

theorem mark {c : Char} {t : Token} (hc : isSpace c = false)
    (h : ∀ rest, scan? (c :: rest) = some (t, rest)) (hcs : Spells cs ts) :
    Spells (c :: cs) (t :: ts) := by
  intro rest hrest
  rw [List.cons_append, list?_of_scan? hc, h, Option.bind_some]
  dsimp only
  rw [hcs rest hrest, Option.map_map]
  rfl

theorem behind {blanks : List Char} (h : ∀ c ∈ blanks, isSpace c = true) (hcs : Spells cs ts) :
    Spells (blanks ++ cs) ts := by
  induction blanks with
  | nil => exact hcs
  | cons c blanks ih =>
    rw [List.forall_mem_cons] at h
    intro rest hrest
    rw [List.cons_append, List.cons_append, list?, if_pos h.1, ih h.2 rest hrest]

end Spells

/-! ### Texts in quotes -/

/-- The piece as which a character is read again. -/
def pieceOf (c : Char) : Piece :=
  if c.toNat < 0x20 ∧ c ∉ ['\x08', '\x0c', '\n', '\r', '\t'] then .unit c.toNat else .char c

theorem hex?_of_lt {n : Nat} (h : n < 0x20) :
    hex? ['0', '0', hexDigit (n / 16), hexDigit (n % 16)] = some n := by
  revert n
  decide

theorem pieces?_shortEscape {c e : Char} (hc : c ≠ 'u') (he : shortEscape? c = some e)
    (rest : List Char) :
    pieces? ('\\' :: c :: rest) = (pieces? rest).map fun (ps, rest) => (.char e :: ps, rest) := by
  rw [pieces?, he]
  · cases pieces? rest <;> rfl
  · rintro a b c d cs h -
    exact hc h

theorem pieces?_plain {c : Char} (hquote : c ≠ '"') (hslash : c ≠ '\\') (h : ¬ c.toNat < 0x20)
    (rest : List Char) :
    pieces? (c :: rest) = (pieces? rest).map fun (ps, rest) => (.char c :: ps, rest) := by
  rw [pieces?, if_neg h]
  · exact fun hc => hquote hc
  · exact fun a b d e cs hc _ => hslash hc
  · exact fun d cs hc _ => hslash hc

/-- A control character, which is written by its number. -/
theorem pieces?_control {n : Nat} (h : n < 0x20) (rest : List Char) :
    pieces? ('\\' :: 'u' :: '0' :: '0' :: hexDigit (n / 16) :: hexDigit (n % 16) :: rest) =
      (pieces? rest).map fun (ps, rest) => (.unit n :: ps, rest) := by
  rw [pieces?, hex?_of_lt h]
  cases pieces? rest <;> rfl

/-- **A character that is written in quotes** is read as one piece. -/
theorem pieces?_escape (c : Char) (rest : List Char) :
    pieces? (escape c ++ rest) = (pieces? rest).map fun (ps, rest) => (pieceOf c :: ps, rest) := by
  unfold escape
  split_ifs with hquote hslash hback hfeed hline hreturn htab hcontrol
  · subst hquote
    exact pieces?_shortEscape (by decide) rfl rest
  · subst hslash
    exact pieces?_shortEscape (by decide) rfl rest
  · subst hback
    exact pieces?_shortEscape (by decide) rfl rest
  · subst hfeed
    exact pieces?_shortEscape (by decide) rfl rest
  · subst hline
    exact pieces?_shortEscape (by decide) rfl rest
  · subst hreturn
    exact pieces?_shortEscape (by decide) rfl rest
  · subst htab
    exact pieces?_shortEscape (by decide) rfl rest
  · have hpiece : pieceOf c = .unit c.toNat :=
      if_pos ⟨hcontrol, by simp [hback, hfeed, hline, hreturn, htab]⟩
    rw [hpiece]
    exact pieces?_control hcontrol rest
  · have hpiece : pieceOf c = .char c := if_neg fun h => hcontrol h.1
    rw [hpiece]
    exact pieces?_plain hquote hslash hcontrol rest

theorem pieces?_quote (cs rest : List Char) :
    pieces? (cs.flatMap escape ++ '"' :: rest) = some (cs.map pieceOf, rest) := by
  induction cs with
  | nil => rfl
  | cons c cs ih =>
    rw [List.flatMap_cons, List.append_assoc, pieces?_escape, ih]
    rfl

/-- The numbers of control characters are no halves of a pair. -/
theorem join?_unit {n : Nat} (h : n < 0x20) (ps : List Piece) :
    join? (.unit n :: ps) = (join? ps).map (Char.ofNat n :: ·) := by
  rw [join?.eq_def]
  dsimp only
  rw [if_neg (by omega), if_neg (by omega)]

theorem join?_map_pieceOf (cs : List Char) : join? (cs.map pieceOf) = some cs := by
  induction cs with
  | nil => rfl
  | cons c cs ih =>
    rw [List.map_cons]
    by_cases hcontrol : c.toNat < 0x20 ∧ c ∉ ['\x08', '\x0c', '\n', '\r', '\t']
    · rw [pieceOf, if_pos hcontrol, join?_unit hcontrol.1, ih, Char.ofNat_toNat]
      rfl
    · rw [pieceOf, if_neg hcontrol, join?, ih]
      rfl

/-- **A text in quotes** spells the text. -/
theorem spells_quote (s : String) : Spells (quote s) [.text s] := by
  refine .of_scan? (by decide) fun rest _ => ?_
  have hchars : s.toList.flatMap escape ++ ['"'] ++ rest =
      s.toList.flatMap escape ++ '"' :: rest := by
    rw [List.append_assoc, List.singleton_append]
  change scan? ('"' :: (s.toList.flatMap escape ++ ['"'] ++ rest)) = _
  simp only [hchars, scan?, pieces?_quote, join?_map_pieceOf, Option.bind_eq_bind,
    Option.bind_some, String.ofList_toList]
  rfl

/-! ### Numbers -/

theorem head?_toDigits {n : Nat} (hn : 0 < n) : (Nat.toDigits 10 n).head? ≠ some '0' := by
  induction n using Nat.strongRecOn with
  | ind n ih =>
    by_cases hlt : n < 10
    · have hdigit : ∀ k < 10, 0 < k → Nat.digitChar k ≠ '0' := by decide
      rw [Nat.toDigits_of_lt_base hlt]
      exact fun h => hdigit n hlt hn (Option.some.inj h)
    · rw [Nat.toDigits_of_base_le (by decide) (by omega), List.head?_append,
        Option.or_eq_left_of_isSome (by simp [Nat.toDigits_ne_nil])]
      exact ih (n / 10) (by omega) (by omega)

/-- What is scanned of digits in front of such a text are the digits. -/
theorem EndsNumber.takeWhile_dropWhile {rest : List Char} (h : EndsNumber rest) {cs : List Char}
    (hcs : ∀ c ∈ cs, c.isDigit = true) :
    (cs ++ rest).takeWhile Char.isDigit = cs ∧ (cs ++ rest).dropWhile Char.isDigit = rest := by
  rw [List.takeWhile_append_of_pos hcs, List.dropWhile_append_of_pos hcs]
  cases rest with
  | nil => simp
  | cons c rest =>
    have hc : ¬ c.isDigit = true := by simp [(h c rfl).1]
    rw [List.takeWhile_cons_of_neg hc, List.dropWhile_cons_of_neg hc, List.append_nil]
    exact ⟨rfl, rfl⟩

theorem EndsNumber.scanFraction?_eq {rest : List Char} (h : EndsNumber rest) :
    scanFraction? rest = some (none, rest) := by
  unfold scanFraction?
  split
  · exact absurd rfl (h '.' rfl).2.1
  · rfl

theorem EndsNumber.scanExponent?_eq {rest : List Char} (h : EndsNumber rest) :
    scanExponent? rest = some (none, rest) := by
  unfold scanExponent?
  split
  · rfl
  · next c rest =>
    obtain ⟨-, -, hsmall, hlarge⟩ := h c rfl
    rw [if_neg (not_or.2 ⟨hsmall, hlarge⟩)]

/-- A whole number that fits 64 bits. -/
def Fits (n : Int) : Prop := -9223372036854775808 ≤ n ∧ n ≤ 18446744073709551615

theorem scanNumber?_toDigits {negative : Bool} {n : Nat} (hn : n ≤ 18446744073709551615)
    (hneg : negative = true → 1 ≤ n ∧ n ≤ 9223372036854775808) {rest : List Char}
    (hrest : EndsNumber rest) : scanNumber? negative (Nat.toDigits 10 n ++ rest) =
      some (.integer (if negative then -(n : Int) else n), rest) := by
  have hdigits := Text.isDigits_toDigits n
  obtain ⟨hwhole, hbehind⟩ := hrest.takeWhile_dropWhile hdigits.isDigit
  have hvalue : takeDigits 0 (Nat.toDigits 10 n) = (n, []) := by
    rw [takeDigits_eq (by rw [Nat.ofDigitChars_ten_toDigits]; omega),
      Nat.ofDigitChars_ten_toDigits]
  -- There is no zero in front of other digits.
  have hzero : ¬ ((Nat.toDigits 10 n).head? = some '0' ∧ (Nat.toDigits 10 n).length ≠ 1) := by
    rintro ⟨hhead, hlength⟩
    rcases Nat.eq_zero_or_pos n with rfl | hpos
    · exact hlength rfl
    · exact head?_toDigits hpos hhead
  rw [scanNumber?, hwhole, hbehind]
  dsimp only
  rw [if_neg (not_or.2 ⟨hdigits.ne_nil, hzero⟩), hrest.scanFraction?_eq]
  simp only [Option.bind_eq_bind, Option.bind_some, hrest.scanExponent?_eq, number?, hvalue]
  rw [if_pos ⟨trivial, trivial, trivial, hneg⟩]
  rfl

theorem isSpace_of_isDigit {c : Char} (h : c.isDigit = true) : isSpace c = false := by
  rw [Bool.eq_false_iff]
  intro hspace
  simp only [isSpace, Bool.or_eq_true, decide_eq_true_eq] at hspace
  rcases hspace with ((rfl | rfl) | rfl) | rfl <;> exact absurd h (by decide)

/-- **The numeral of a whole number** spells the number. -/
theorem spells_numeral {n : Int} (h : Fits n) :
    Spells (Text.numeral n).toList [.literal (.int n)] := by
  obtain ⟨hlo, hhi⟩ := h
  rw [Text.numeral, String.toList_ofList]
  split
  · next hneg =>
    refine .of_scan? (by decide) fun rest hrest => ?_
    change (scanNumber? true (Nat.toDigits 10 n.natAbs ++ rest)).map _ = _
    rw [scanNumber?_toDigits (by omega) (fun _ => by omega) hrest, if_pos rfl,
      show -(n.natAbs : Int) = n by omega]
    rfl
  · next hpos =>
    have hdigits := (Text.isDigits_toDigits n.natAbs).isDigit
    have hnumber {rest : List Char} (hrest : EndsNumber rest) :
        scanNumber? false (Nat.toDigits 10 n.natAbs ++ rest) = some (.integer n, rest) := by
      rw [scanNumber?_toDigits (by omega) (fun h => absurd h Bool.false_ne_true) hrest,
        if_neg Bool.false_ne_true, Int.natAbs_of_nonneg (by omega)]
    rw [List.nil_append]
    -- The first digit tells that a number comes.
    cases hchars : Nat.toDigits 10 n.natAbs with
    | nil => exact absurd hchars Nat.toDigits_ne_nil
    | cons c cs =>
      rw [hchars] at hnumber hdigits
      have hc := hdigits c List.mem_cons_self
      refine .of_scan? (isSpace_of_isDigit hc) fun rest hrest => ?_
      rw [List.cons_append, scan?_of_isDigit hc, ← List.cons_append, hnumber hrest]
      rfl

end Token

/-! ### Values -/

/-- The value has whole numbers only, which fit 64 bits, and is nested no deeper than this. -/
inductive Plain : Nat → Json → Prop
  /-- Nothing. -/
  | null {room : Nat} : Plain room null
  /-- Yes or no. -/
  | bool {room : Nat} (b : Bool) : Plain room (bool b)
  /-- A whole number. -/
  | int {room : Nat} {n : Int} : Token.Fits n → Plain room (int n)
  /-- A text. -/
  | string {room : Nat} (s : String) : Plain room (string s)
  /-- Such values in a row. -/
  | array {room : Nat} {items : List Json} :
      (∀ v ∈ items, Plain room v) → Plain (room + 1) (array items)
  /-- Such values with names. -/
  | object {room : Nat} {fields : List (String × Json)} :
      (∀ f ∈ fields, Plain room f.2) → Plain (room + 1) (object fields)

mutual

/-- The tokens of a value. -/
def tokens : Json → List Token
  | null => [.literal null]
  | bool b => [.literal (bool b)]
  | number n => [.literal (number n)]
  | string s => [.text s]
  | array items => .openArray :: tokensOfItems items ++ [.closeArray]
  | object fields => .openObject :: tokensOfFields fields ++ [.closeObject]

/-- The tokens of the items of an array. -/
def tokensOfItems : List Json → List Token
  | [] => []
  | [v] => tokens v
  | v :: vs => tokens v ++ .comma :: tokensOfItems vs

/-- The tokens of the fields of an object. -/
def tokensOfFields : List (String × Json) → List Token
  | [] => []
  | [(n, v)] => .text n :: .colon :: tokens v
  | (n, v) :: fs => .text n :: .colon :: tokens v ++ .comma :: tokensOfFields fs

end

/-! ### What is written spells the tokens -/

open Token

theorem spells_null : Spells (scalar null) null.tokens :=
  .of_scan? (by decide) fun _ _ => rfl

theorem spells_bool (b : Bool) : Spells (scalar (bool b)) (bool b).tokens := by
  cases b with
  | true => exact .of_scan? (by decide) fun _ _ => rfl
  | false => exact .of_scan? (by decide) fun _ _ => rfl

theorem endsNumber_append {c : Char} (h : c.isDigit = false ∧ c ≠ '.' ∧ c ≠ 'e' ∧ c ≠ 'E')
    (cs rest : List Char) : EndsNumber rest → EndsNumber (c :: cs ++ rest) :=
  fun _ => endsNumber_cons h _

theorem spells_compactItems {items : List Json}
    (h : ∀ v ∈ items, Spells v.compactChars v.tokens) :
    Spells (compactItems items) (tokensOfItems items) := by
  induction items with
  | nil => exact .nil
  | cons v vs ih =>
    rw [List.forall_mem_cons] at h
    cases vs with
    | nil => exact h.1
    | cons w vs =>
      exact h.1.append (.mark (by decide) (fun _ => rfl) (ih h.2))
        (endsNumber_append (by decide) _)

/-- A name stands in front of its value, with a colon between them. -/
theorem spells_field (name : String) {cs : List Char} {ts : List Token} (h : Spells cs ts) :
    Spells (quote name ++ ':' :: cs) (.text name :: .colon :: ts) :=
  (spells_quote name).append (.mark (by decide) (fun _ => rfl) h) (endsNumber_append (by decide) _)

theorem spells_compactFields {fields : List (String × Json)}
    (h : ∀ f ∈ fields, Spells f.2.compactChars f.2.tokens) :
    Spells (compactFields fields) (tokensOfFields fields) := by
  induction fields with
  | nil => exact .nil
  | cons f fs ih =>
    obtain ⟨name, v⟩ := f
    rw [List.forall_mem_cons] at h
    have hfirst := spells_field name h.1
    cases fs with
    | nil => exact hfirst
    | cons g fs =>
      exact hfirst.append (.mark (by decide) (fun _ => rfl) (ih h.2))
        (endsNumber_append (by decide) _)

/-- **A value in one line** spells its tokens. -/
theorem Plain.spells_compact {room : Nat} {v : Json} (h : Plain room v) :
    Spells v.compactChars v.tokens := by
  induction h with
  | null => exact spells_null
  | bool b => exact spells_bool b
  | int hn => exact spells_numeral hn
  | string s => exact spells_quote s
  | array _ ih =>
    exact (Spells.mark (by decide) (fun _ => rfl) (spells_compactItems ih)).append
      (.mark (by decide) (fun _ => rfl) .nil) (endsNumber_append (by decide) _)
  | object _ ih =>
    exact (Spells.mark (by decide) (fun _ => rfl) (spells_compactFields ih)).append
      (.mark (by decide) (fun _ => rfl) .nil) (endsNumber_append (by decide) _)

/-! ### In many lines -/

theorem isSpace_of_mem_newLine {depth : Nat} {c : Char} (h : c ∈ newLine depth) :
    isSpace c = true := by
  rcases List.mem_cons.1 h with rfl | h
  · rfl
  · rw [List.eq_of_mem_replicate h]
    rfl

theorem endsNumber_newLine (depth : Nat) (cs rest : List Char) : EndsNumber rest →
    EndsNumber (newLine depth ++ cs ++ rest) := by
  rw [newLine, List.cons_append]
  exact endsNumber_append (by decide) _ rest

theorem spells_prettyItems {depth : Nat} {items : List Json}
    (h : ∀ v ∈ items, Spells (v.prettyChars depth) v.tokens) :
    Spells (prettyItems depth items) (tokensOfItems items) := by
  induction items with
  | nil => exact .nil
  | cons v vs ih =>
    rw [List.forall_mem_cons] at h
    have hfirst : Spells (newLine depth ++ v.prettyChars depth) v.tokens :=
      .behind (fun _ => isSpace_of_mem_newLine) h.1
    cases vs with
    | nil => exact hfirst
    | cons w vs =>
      exact hfirst.append (.mark (by decide) (fun _ => rfl) (ih h.2))
        (endsNumber_append (by decide) _)

theorem spells_prettyFields {depth : Nat} {fields : List (String × Json)}
    (h : ∀ f ∈ fields, Spells (f.2.prettyChars depth) f.2.tokens) :
    Spells (prettyFields depth fields) (tokensOfFields fields) := by
  induction fields with
  | nil => exact .nil
  | cons f fs ih =>
    obtain ⟨name, v⟩ := f
    rw [List.forall_mem_cons] at h
    have hvalue : Spells ([' '] ++ v.prettyChars depth) v.tokens :=
      .behind (List.forall_mem_singleton.2 rfl) h.1
    have hfirst : Spells (newLine depth ++ quote name ++ ':' :: ' ' :: v.prettyChars depth)
        (.text name :: .colon :: v.tokens) := by
      rw [List.append_assoc]
      exact .behind (fun _ => isSpace_of_mem_newLine) (spells_field name hvalue)
    cases fs with
    | nil => exact hfirst
    | cons g fs =>
      exact hfirst.append (.mark (by decide) (fun _ => rfl) (ih h.2))
        (endsNumber_append (by decide) _)

/-- **A value in many lines** spells its tokens. -/
theorem Plain.spells_pretty {room : Nat} {v : Json} (h : Plain room v) (depth : Nat) :
    Spells (v.prettyChars depth) v.tokens := by
  -- The last line of a value that is not empty holds its closing bracket.
  have closed {c : Char} {t : Token} (hc : isSpace c = false)
      (hscan : ∀ rest, scan? (c :: rest) = some (t, rest)) {cs : List Char} {ts : List Token}
      (hcs : Spells cs ts) (depth : Nat) : Spells (cs ++ (newLine depth ++ [c])) (ts ++ [t]) :=
    hcs.append (.behind (fun _ => isSpace_of_mem_newLine) (.mark hc hscan .nil))
      (endsNumber_newLine depth _)
  induction h generalizing depth with
  | null => exact spells_null
  | bool b => exact spells_bool b
  | int hn => exact spells_numeral hn
  | string s => exact spells_quote s
  | @array _ items _ ih =>
    cases items with
    | nil => exact .mark (by decide) (fun _ => rfl) (.mark (by decide) (fun _ => rfl) .nil)
    | cons v vs =>
      rw [prettyChars, List.append_assoc]
      · exact closed (by decide) (fun _ => rfl) (.mark (by decide) (fun _ => rfl)
          (spells_prettyItems fun v hv => ih v hv (depth + 1))) depth
      · exact List.cons_ne_nil v vs
  | @object _ fields _ ih =>
    cases fields with
    | nil => exact .mark (by decide) (fun _ => rfl) (.mark (by decide) (fun _ => rfl) .nil)
    | cons f fs =>
      rw [prettyChars, List.append_assoc]
      · exact closed (by decide) (fun _ => rfl) (.mark (by decide) (fun _ => rfl)
          (spells_prettyFields fun f hf => ih f hf (depth + 1))) depth
      · exact List.cons_ne_nil f fs

/-! ### The machine takes the tokens -/

theorem run_of_step {st st' : Expect × List Frame} {t : Token} (h : step st t = some st')
    (ts : List Token) : run st (t :: ts) = run st' ts := by
  rw [run_cons, h, Option.bind_some]

/-- The machine takes the value wherever there is enough room for it. -/
def Taken (room : Nat) (v : Json) : Prop :=
  ∀ stack : List Frame, stack.length + room ≤ maxOpen → ∀ ts,
    run (.value, stack) (v.tokens ++ ts) = run (.after v, stack) ts

/-- A value starts with a token that does not close an array. -/
theorem exists_tokens_eq_cons (v : Json) :
    ∃ t ts, v.tokens = t :: ts ∧ t ≠ .closeArray := by
  cases v <;> exact ⟨_, _, rfl, nofun⟩

theorem Taken.inside {room : Nat} {v : Json} (h : Taken room v) (f : Frame) {stack : List Frame}
    (hroom : stack.length + 1 + room ≤ maxOpen) (ts : List Token) :
    run (.value, f :: stack) (v.tokens ++ ts) = run (.after v, f :: stack) ts :=
  h (f :: stack) hroom ts

theorem run_firstItem (v : Json) (vs : List Json) (stack : List Frame) (ts : List Token) :
    run (.firstItem, stack) (tokensOfItems (v :: vs) ++ ts) =
      run (.value, stack) (tokensOfItems (v :: vs) ++ ts) := by
  obtain ⟨t, ts', htokens, ht⟩ := exists_tokens_eq_cons v
  have hitems : ∃ ts', tokensOfItems (v :: vs) = t :: ts' := by
    cases vs with
    | nil => exact ⟨ts', htokens⟩
    | cons w vs => exact ⟨_, congrArg (· ++ _) htokens⟩
  obtain ⟨ts', hitems⟩ := hitems
  have hstep : step (.firstItem, stack) t = step (.value, stack) t := by
    rw [step, step]
    exact fun _ _ h _ => ht h
  rw [hitems, List.cons_append, run_cons, run_cons, hstep]

theorem run_firstName (f : String × Json) (fs : List (String × Json)) (stack : List Frame)
    (ts : List Token) : run (.firstName, stack) (tokensOfFields (f :: fs) ++ ts) =
      run (.name [], stack) (tokensOfFields (f :: fs) ++ ts) := by
  cases fs <;> rfl

theorem run_tokensOfItems {room : Nat} {v : Json} {vs : List Json}
    (h : ∀ w ∈ v :: vs, Taken room w) {stack : List Frame}
    (hroom : stack.length + 1 + room ≤ maxOpen) (held : List Json) (ts : List Token) :
    run (.value, .array held :: stack) (tokensOfItems (v :: vs) ++ .closeArray :: ts) =
      run (.after (.array (held.reverse ++ v :: vs)), stack) ts := by
  induction vs generalizing v held with
  | nil =>
    rw [tokensOfItems, (h v List.mem_cons_self).inside _ hroom]
    exact run_of_step (by simp [step, stepAfter]) ts
  | cons w vs ih =>
    rw [List.forall_mem_cons] at h
    rw [tokensOfItems, List.append_assoc, h.1.inside _ hroom, List.cons_append, run_of_step rfl,
      ih h.2 (v :: held), List.reverse_cons, List.append_assoc, List.singleton_append]
    exact List.cons_ne_nil w vs

theorem run_tokensOfFields {room : Nat} {name : String} {v : Json} {fs : List (String × Json)}
    (h : ∀ f ∈ (name, v) :: fs, Taken room f.2) {stack : List Frame}
    (hroom : stack.length + 1 + room ≤ maxOpen) (held : List (String × Json)) (ts : List Token) :
    run (.name held, stack) (tokensOfFields ((name, v) :: fs) ++ .closeObject :: ts) =
      run (.after (.object (held.reverse ++ (name, v) :: fs)), stack) ts := by
  induction fs generalizing name v held with
  | nil =>
    rw [tokensOfFields, List.cons_append, List.cons_append, run_of_step rfl, run_of_step rfl,
      (h _ List.mem_cons_self).inside _ hroom]
    exact run_of_step (by simp [step, stepAfter]) ts
  | cons f fs ih =>
    rw [List.forall_mem_cons] at h
    rw [tokensOfFields, List.cons_append, List.cons_append, List.cons_append, List.cons_append,
      List.append_assoc, run_of_step rfl, run_of_step rfl, h.1.inside _ hroom, List.cons_append,
      run_of_step rfl, ih h.2 ((name, v) :: held), List.reverse_cons, List.append_assoc,
      List.singleton_append]
    exact List.cons_ne_nil f fs

/-- **The machine comes to the value** whose tokens it takes. -/
theorem Plain.run_tokens {room : Nat} {v : Json} (h : Plain room v) : Taken room v := by
  induction h with
  | null => exact fun stack _ ts => run_of_step rfl ts
  | bool b => exact fun stack _ ts => run_of_step rfl ts
  | int _ => exact fun stack _ ts => run_of_step rfl ts
  | string s => exact fun stack _ ts => run_of_step rfl ts
  | @array room items _ ih =>
    intro stack hroom ts
    have hopen : step (.value, stack) .openArray = some (.firstItem, .array [] :: stack) :=
      if_pos (by omega)
    rw [tokens, List.cons_append, List.cons_append, List.append_assoc, run_of_step hopen,
      List.singleton_append]
    cases items with
    | nil => exact run_of_step rfl ts
    | cons v vs =>
      rw [run_firstItem]
      exact run_tokensOfItems ih (by omega) [] ts
  | @object room fields _ ih =>
    intro stack hroom ts
    have hopen : step (.value, stack) .openObject = some (.firstName, stack) :=
      if_pos (by omega)
    rw [tokens, List.cons_append, List.cons_append, List.append_assoc, run_of_step hopen,
      List.singleton_append]
    cases fields with
    | nil => exact run_of_step rfl ts
    | cons f fs =>
      rw [run_firstName]
      exact run_tokensOfFields ih (by omega) [] ts

/-! ### Reading what was written -/

theorem list?_nil : list? [] = some [] := by
  rw [list?]

theorem list?_newline : list? ['\n'] = some [] := by
  rw [list?, if_pos (by decide), list?_nil]

/-- A text that spells the tokens of a value is read as the value, also before blanks. -/
theorem Plain.read?_of_spells {v : Json} (h : Plain maxOpen v) {cs blanks : List Char}
    (hcs : Spells cs v.tokens) (hends : EndsNumber blanks) (hblanks : list? blanks = some []) :
    read? (.ofList (cs ++ blanks)) = some v := by
  have hrun : run (.value, []) v.tokens = some (.after v, []) := by
    rw [← List.append_nil v.tokens, h.run_tokens [] (by simp) []]
    rfl
  rw [read?, String.toList_ofList, hcs blanks hends, hblanks, Option.map_some, Option.bind_some,
    List.append_nil, ofTokens?, hrun]

theorem Plain.read?_compact {v : Json} (h : Plain maxOpen v) : read? v.compact = some v := by
  rw [compact, ← List.append_nil v.compactChars]
  exact h.read?_of_spells h.spells_compact endsNumber_nil list?_nil

theorem Plain.read?_pretty {v : Json} (h : Plain maxOpen v) : read? v.pretty = some v := by
  rw [pretty, ← List.append_nil (v.prettyChars 0)]
  exact h.read?_of_spells (h.spells_pretty 0) endsNumber_nil list?_nil

theorem Plain.read?_pretty_newline {v : Json} (h : Plain maxOpen v) :
    read? (v.pretty ++ "\n") = some v := by
  rw [pretty, ← String.ofList_toList (s := "\n"), ← String.ofList_append]
  exact h.read?_of_spells (h.spells_pretty 0) (endsNumber_cons (by decide) [])
    list?_newline

end Json

end Registrar
