import Registrar.Json.Basic

/-!
# JSON tokens

A JSON text is cut into brackets, marks and literals; the blanks between them are spaces, tabs,
line feeds and carriage returns.

* `Token.list?`: the tokens of a text, or nothing when some part of it is no token.
* `Token.scan?`: the next token and a rest that is shorter.

A text in quotes may not hold a bare control character; an escaped half of a surrogate pair
must be followed by the other half.  A number is kept as an integer within 64 bits when it is
written without a point and an exponent, and becomes a double otherwise.
-/

namespace Registrar.Json

/-- A piece of a JSON text. -/
inductive Token where
  /-- The bracket that opens an array. -/
  | openArray
  /-- The bracket that closes an array. -/
  | closeArray
  /-- The brace that opens an object. -/
  | openObject
  /-- The brace that closes an object. -/
  | closeObject
  /-- The mark between two items. -/
  | comma
  /-- The mark between a name and its value. -/
  | colon
  /-- A text in quotes. -/
  | text (value : String)
  /-- A number, a truth value or null. -/
  | literal (value : Json)

namespace Token

/-- The blanks between tokens. -/
def isSpace (c : Char) : Bool := c = ' ' || c = '\t' || c = '\n' || c = '\r'

/-! ### Texts in quotes -/

/-- A piece of a quoted text: a character, or a code unit written as an escape. -/
inductive Piece where
  /-- A character that stands for itself, or a short escape. -/
  | char (c : Char)
  /-- An escape of four hexadecimal digits. -/
  | unit (n : Nat)

/-- The value of a hexadecimal digit. -/
def hexDigit? (c : Char) : Option Nat :=
  if '0' ≤ c ∧ c ≤ '9' then some (c.toNat - '0'.toNat)
  else if 'a' ≤ c ∧ c ≤ 'f' then some (c.toNat - 'a'.toNat + 10)
  else if 'A' ≤ c ∧ c ≤ 'F' then some (c.toNat - 'A'.toNat + 10)
  else none

/-- The value of a run of hexadecimal digits. -/
def hex? (cs : List Char) : Option Nat :=
  cs.foldlM (fun n c => (hexDigit? c).map (n * 16 + ·)) 0

/-- The character that a short escape stands for. -/
def shortEscape? : Char → Option Char
  | '"' => some '"'
  | '\\' => some '\\'
  | '/' => some '/'
  | 'b' => some '\x08'
  | 'f' => some '\x0c'
  | 'n' => some '\n'
  | 'r' => some '\r'
  | 't' => some '\t'
  | _ => none

/-- The pieces of a quoted text up to its closing quote, and what follows the quote. -/
def pieces? : List Char → Option (List Piece × List Char)
  | [] => none
  | '"' :: cs => some ([], cs)
  | '\\' :: 'u' :: a :: b :: c :: d :: cs => do
    let n ← hex? [a, b, c, d]
    let (ps, rest) ← pieces? cs
    return (.unit n :: ps, rest)
  | '\\' :: c :: cs => do
    let e ← shortEscape? c
    let (ps, rest) ← pieces? cs
    return (.char e :: ps, rest)
  | c :: cs =>
    if c.toNat < 0x20 then none
    else (pieces? cs).map fun (ps, rest) => (.char c :: ps, rest)

/-- The characters that the pieces stand for; two halves of a surrogate pair make one. -/
def join? : List Piece → Option (List Char)
  | [] => some []
  | .char c :: ps => (join? ps).map (c :: ·)
  | .unit hi :: ps =>
    if 0xDC00 ≤ hi ∧ hi ≤ 0xDFFF then none
    else if 0xD800 ≤ hi ∧ hi ≤ 0xDBFF then
      match ps with
      | .unit lo :: ps =>
        if 0xDC00 ≤ lo ∧ lo ≤ 0xDFFF then
          (join? ps).map (Char.ofNat (0x10000 + (hi - 0xD800) * 0x400 + (lo - 0xDC00)) :: ·)
        else none
      | _ => none
    else (join? ps).map (Char.ofNat hi :: ·)

/-! ### Numbers -/

/-- Digits added to a whole number for as long as it fits 64 bits; the rest of the digits is
given back. -/
def takeDigits (n : Nat) : List Char → Nat × List Char
  | [] => (n, [])
  | c :: cs =>
    let m := n * 10 + (c.toNat - '0'.toNat)
    if m ≤ 18446744073709551615 then takeDigits m cs else (n, c :: cs)

/-- The number with the given digits before and after the point and the given exponent.
Digits beyond the twentieth are dropped. -/
def number? (negative : Bool) (whole : List Char) (fraction : Option (List Char))
    (exponent : Option Int) : Option Number :=
  let (n, dropped) := takeDigits 0 whole
  if dropped = [] ∧ fraction = none ∧ exponent = none ∧
      (negative = true → 1 ≤ n ∧ n ≤ 9223372036854775808) then
    some (.integer (if negative then -(n : Int) else n))
  else
    -- digits that do not fit shift the point if they stand before it, and are lost after it
    let digits := fraction.getD []
    let (m, unread) := takeDigits n digits
    let shift : Int := dropped.length - (digits.length - unread.length : Nat)
    (Double.ofDecimal? negative m (shift + exponent.getD 0)).map .double

/-- The digits after a point, when there is a point, and what follows them. -/
def scanFraction? : List Char → Option (Option (List Char) × List Char)
  | '.' :: cs =>
    if cs.takeWhile Char.isDigit = [] then none
    else some (some (cs.takeWhile Char.isDigit), cs.dropWhile Char.isDigit)
  | cs => some (none, cs)

/-- The sign of an exponent, and what follows it. -/
def scanSign : List Char → Int × List Char
  | '+' :: cs => (1, cs)
  | '-' :: cs => (-1, cs)
  | cs => (1, cs)

/-- The exponent, when there is one, and what follows it. -/
def scanExponent? : List Char → Option (Option Int × List Char)
  | [] => some (none, [])
  | c :: cs =>
    if c = 'e' ∨ c = 'E' then
      let (sign, cs) := scanSign cs
      (Text.digits? (cs.takeWhile Char.isDigit)).map fun n =>
        (some (sign * n), cs.dropWhile Char.isDigit)
    else some (none, c :: cs)

/-- A number at the front of a text, whose sign has been read, and what follows it. -/
def scanNumber? (negative : Bool) (cs : List Char) : Option (Number × List Char) :=
  let whole := cs.takeWhile Char.isDigit
  if whole = [] ∨ (whole.head? = some '0' ∧ whole.length ≠ 1) then none
  else do
    let (fraction, cs) ← scanFraction? (cs.dropWhile Char.isDigit)
    let (exponent, cs) ← scanExponent? cs
    let n ← number? negative whole fraction exponent
    return (n, cs)

/-! ### One token after the other -/

/-- The token at the front of a text that does not start with a blank, and what follows it. -/
def scan? : List Char → Option (Token × List Char)
  | '[' :: cs => some (openArray, cs)
  | ']' :: cs => some (closeArray, cs)
  | '{' :: cs => some (openObject, cs)
  | '}' :: cs => some (closeObject, cs)
  | ',' :: cs => some (comma, cs)
  | ':' :: cs => some (colon, cs)
  | '"' :: cs => do
    let (ps, rest) ← pieces? cs
    let text ← join? ps
    return (.text (.ofList text), rest)
  | 'n' :: 'u' :: 'l' :: 'l' :: cs => some (.literal .null, cs)
  | 't' :: 'r' :: 'u' :: 'e' :: cs => some (.literal (.bool true), cs)
  | 'f' :: 'a' :: 'l' :: 's' :: 'e' :: cs => some (.literal (.bool false), cs)
  | '-' :: cs => (scanNumber? true cs).map fun (n, rest) => (.literal (.number n), rest)
  | cs => (scanNumber? false cs).map fun (n, rest) => (.literal (.number n), rest)

/-! ### Every token is at least one character long -/

theorem length_pieces? {cs rest : List Char} {ps : List Piece}
    (h : pieces? cs = some (ps, rest)) : rest.length ≤ cs.length := by
  fun_induction pieces? cs generalizing ps with
  | case1 => simp at h
  | case2 cs => simp_all
  | case3 a b c d cs ih =>
    simp only [Option.bind_eq_bind, Option.bind_eq_some_iff, Option.pure_def,
      Option.some.injEq, Prod.mk.injEq] at h
    obtain ⟨_, _, ⟨qs, _⟩, hq, _, rfl⟩ := h
    exact Nat.le_trans (ih hq) (by simp; omega)
  | case4 c cs _ ih =>
    simp only [Option.bind_eq_bind, Option.bind_eq_some_iff, Option.pure_def,
      Option.some.injEq, Prod.mk.injEq] at h
    obtain ⟨_, _, ⟨qs, _⟩, hq, _, rfl⟩ := h
    exact Nat.le_trans (ih hq) (by simp; omega)
  | case5 => simp at h
  | case6 c cs _ _ _ _ ih =>
    obtain ⟨⟨qs, rest'⟩, hq, he⟩ := Option.map_eq_some_iff.1 h
    obtain ⟨_, rfl⟩ := Prod.mk.inj he
    exact Nat.le_trans (ih hq) (by simp)

theorem length_dropWhile_le (p : Char → Bool) (cs : List Char) :
    (cs.dropWhile p).length ≤ cs.length :=
  (List.dropWhile_suffix p).length_le

theorem length_scanFraction? {cs rest : List Char} {f : Option (List Char)}
    (h : scanFraction? cs = some (f, rest)) : rest.length ≤ cs.length := by
  unfold scanFraction? at h
  split at h
  · split at h
    · simp at h
    · obtain ⟨-, rfl⟩ : _ ∧ _ = rest := by simpa using h
      exact Nat.le_trans (length_dropWhile_le ..) (by simp)
  · obtain ⟨-, rfl⟩ : _ ∧ _ = rest := by simpa using h
    exact Nat.le_refl _

theorem length_scanSign (cs : List Char) : (scanSign cs).2.length ≤ cs.length := by
  unfold scanSign
  split <;> simp

theorem length_scanExponent? {cs rest : List Char} {e : Option Int}
    (h : scanExponent? cs = some (e, rest)) : rest.length ≤ cs.length := by
  unfold scanExponent? at h
  split at h
  · obtain ⟨-, rfl⟩ := Prod.mk.inj (Option.some.inj h)
    exact Nat.le_refl _
  · next c cs =>
    split at h
    · obtain ⟨n, -, he⟩ := Option.map_eq_some_iff.1 h
      obtain ⟨-, rfl⟩ := Prod.mk.inj he
      exact Nat.le_trans (length_dropWhile_le ..)
        (Nat.le_trans (length_scanSign cs) (by simp))
    · obtain ⟨-, rfl⟩ : _ ∧ _ = rest := by simpa using h
      exact Nat.le_refl _

theorem length_scanNumber? {negative : Bool} {cs rest : List Char} {n : Number}
    (h : scanNumber? negative cs = some (n, rest)) : rest.length < cs.length := by
  unfold scanNumber? at h
  simp only at h
  split at h
  · simp at h
  · next hw =>
    simp only [Option.bind_eq_bind, Option.bind_eq_some_iff, Option.pure_def,
      Option.some.injEq, Prod.mk.injEq] at h
    obtain ⟨⟨f, cs₁⟩, h₁, ⟨e, cs₂⟩, h₂, _, _, _, rfl⟩ := h
    have hlen : (cs.dropWhile Char.isDigit).length < cs.length := by
      have hne : cs.takeWhile Char.isDigit ≠ [] := fun h => hw (.inl h)
      have happ := congrArg List.length
        (List.takeWhile_append_dropWhile (p := Char.isDigit) (l := cs))
      have hpos := List.length_pos_iff.2 hne
      rw [List.length_append] at happ
      omega
    exact Nat.lt_of_le_of_lt (length_scanExponent? h₂)
      (Nat.lt_of_le_of_lt (length_scanFraction? h₁) hlen)

theorem length_scan? {cs rest : List Char} {t : Token} (h : scan? cs = some (t, rest)) :
    rest.length < cs.length := by
  unfold scan? at h
  split at h
  case h_7 cs =>
    simp only [Option.bind_eq_bind, Option.bind_eq_some_iff, Option.pure_def,
      Option.some.injEq, Prod.mk.injEq] at h
    obtain ⟨⟨ps, _⟩, hp, _, _, _, rfl⟩ := h
    exact Nat.lt_of_le_of_lt (length_pieces? hp) (by simp)
  case h_11 cs =>
    obtain ⟨⟨n, _⟩, hn, he⟩ := Option.map_eq_some_iff.1 h
    obtain ⟨_, rfl⟩ := Prod.mk.inj he
    exact Nat.lt_trans (length_scanNumber? hn) (by simp)
  case h_12 cs _ _ _ _ _ _ _ _ _ _ _ =>
    obtain ⟨⟨n, _⟩, hn, he⟩ := Option.map_eq_some_iff.1 h
    obtain ⟨_, rfl⟩ := Prod.mk.inj he
    exact length_scanNumber? hn
  all_goals
    obtain ⟨_, rfl⟩ := Prod.mk.inj (Option.some.inj h)
    simp only [List.length_cons]
    omega

/-- The tokens of a text. -/
def list? : List Char → Option (List Token)
  | [] => some []
  | c :: cs =>
    if isSpace c then list? cs
    else match _hs : scan? (c :: cs) with
      | none => none
      | some (t, rest) => (list? rest).map (t :: ·)
termination_by cs => cs.length
decreasing_by
  · exact Nat.lt_succ_self _
  · exact length_scan? _hs

end Token

end Registrar.Json
