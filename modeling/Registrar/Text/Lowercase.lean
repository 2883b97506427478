import Registrar.Text.CaseTable

/-!
# Lower case

The lower-case form of a text in any script.  Two letters need more than a table:

* the capital I with a dot above becomes the letter i followed by a combining dot;
* the capital sigma becomes the final form `ς` at the end of a word and `σ` elsewhere.  The end
  of a word is where a letter that has a case stands before, and none stands after, when
  characters that carry no case, such as accents and apostrophes, are skipped.

`Text.lowercase` is the lower-case form of a text.
-/

namespace Registrar.Text

/-- Some range of the list holds the code point of the character. -/
def inRanges (ranges : List (Nat × Nat)) (c : Char) : Bool :=
  ranges.any fun (first, last) => first ≤ c.toNat && c.toNat ≤ last

/-- The code point belongs to the run. -/
def CaseRun.holds (run : CaseRun) (n : Nat) : Bool :=
  run.first ≤ n && n ≤ run.last && (n - run.first) % run.step == 0

/-- The one-letter lower-case form of a letter, or the character itself. -/
def lowerLetter (c : Char) : Char :=
  if c.toNat < 0x80 then c.toLower
  else match lowerRuns.find? (·.holds c.toNat) with
    | some run => Char.ofNat (run.target + (c.toNat - run.first))
    | none => c

/-- The lower-case form of a character that does not depend on its neighbours. -/
def lowerChar (c : Char) : List Char :=
  if c = '\u0130' then ['i', '\u0307'] else [lowerLetter c]

/-- The nearest character that is not skipped has a case. -/
def nearestIsCased (cs : List Char) : Bool :=
  match cs.dropWhile (inRanges caseIgnorableRanges) with
  | [] => false
  | c :: _ => inRanges casedRanges c

/-- The lower-case form of `cs` where `before` is the text before it, read backwards. -/
def lowercaseAfter (before : List Char) : List Char → List Char
  | [] => []
  | c :: cs =>
    if c = 'Σ' then
      (if nearestIsCased before && !nearestIsCased cs then 'ς' else 'σ')
        :: lowercaseAfter (c :: before) cs
    else lowerChar c ++ lowercaseAfter (c :: before) cs

/-- The lower-case form of a text. -/
def lowercase (s : String) : String := .ofList (lowercaseAfter [] s.toList)

end Registrar.Text
