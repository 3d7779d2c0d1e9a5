import Interchange.Text.CaseRuns
import Interchange.Text.CasedRanges
import Interchange.Text.Ranges
/-!
# Capitals and small letters

The full Unicode case mappings of a text.  A character may map to several.  The one mapping that
looks at its neighbours is that of the capital sigma, which has a form of its own at the end of a
word: after a cased letter and not before one, characters without influence on case passed over.

* `upper`, `lower` — the mappings of a text.
-/

namespace Interchange.Text

/-- The counterpart of a code point in a run. -/
def CaseRun.map? (r : CaseRun) (n : Nat) : Option Nat :=
  if r.first ≤ n && n ≤ r.last && (n - r.first) % r.step == 0 then
    some ((n : Int) + r.shift).toNat
  else none

/-- The counterpart of a character by runs and sequences; without one, the character. -/
def mapCase (runs : List (List CaseRun)) (sequences : List (Nat × List Nat)) (c : Char) :
    List Char :=
  match sequences.find? (·.1 == c.toNat) with
  | some (_, ns) => ns.map Char.ofNat
  | none =>
    match runs.findSome? fun part => part.findSome? (·.map? c.toNat) with
    | some n => [Char.ofNat n]
    | none => [c]

/-- The capital sigma. -/
def capitalSigma : Char := Char.ofNat 0x3A3

/-- Whether the nearest character that matters for case is a cased one. -/
def meetsCased (cs : List Char) : Bool :=
  match cs.dropWhile fun c => inRanges caseIgnorable c.toNat with
  | [] => false
  | c :: _ => inRanges cased c.toNat

/-- The small form of a text; `before` holds the characters passed, last first. -/
def lowerFrom (before : List Char) : List Char → List Char
  | [] => []
  | c :: cs =>
    let small :=
      if c = capitalSigma then
        [Char.ofNat (if meetsCased before && !meetsCased cs then 0x3C2 else 0x3C3)]
      else mapCase lowerRuns lowerSequences c
    small ++ lowerFrom (c :: before) cs

/-- The text in small letters. -/
def lower (s : String) : String := String.ofList (lowerFrom [] s.toList)

/-- The text in capitals. -/
def upper (s : String) : String :=
  String.ofList (s.toList.flatMap (mapCase upperRuns upperSequences))

end Interchange.Text
