import Interop.Text.Case

/-!
# Lower case

Writing a text in lower case. Each character has a counterpart of its own, with two exceptions:
the capital I with a dot above becomes two characters, and a capital sigma at the end of a word
becomes a final sigma. A sigma ends a word if a cased character comes before it and none after it,
case-ignorable characters being skipped on both sides.
-/

namespace Interop.Text

/-- Whether a code point lies in one of the given ranges. -/
def inRanges (ranges : List (Nat × Nat)) (c : Char) : Bool :=
  ranges.any fun (low, high) => low ≤ c.toNat && c.toNat ≤ high

/-- Whether the first character that is not case-ignorable is cased. -/
def startsCased (text : List Char) : Bool :=
  match text.dropWhile (inRanges caseIgnorableRanges) with
  | [] => false
  | c :: _ => inRanges casedRanges c

namespace CaseRun

/-- Whether a run holds a code point. -/
def contains (run : CaseRun) (code : Nat) : Bool :=
  run.first ≤ code && code ≤ run.last && (code - run.first) % run.step = 0

end CaseRun

/-- A character in lower case, in a context that does not matter. -/
def lowerChar (c : Char) : Char :=
  if c.toNat < 0x80 then c.toLower
  else
    match caseRuns.find? (·.contains c.toNat) with
    | some run => Char.ofNat (c.toNat + run.shift).toNat
    | none => c

/-- Characters in lower case; `before` are those that come before them, the nearest first. -/
def lowerChars (before : List Char) : List Char → List Char
  | [] => []
  | c :: rest =>
    let lowered :=
      if c = 'Σ' then (if startsCased before && !startsCased rest then ['ς'] else ['σ'])
      else if c = 'İ' then ['i', '\u0307']
      else [lowerChar c]
    lowered ++ lowerChars (c :: before) rest

/-- A text in lower case. -/
def lower (text : String) : String :=
  String.ofList (lowerChars [] text.toList)

end Interop.Text
