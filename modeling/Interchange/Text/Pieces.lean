/-!
# Pieces of a text

Cutting a text at a character or at a delimiter, searching for a part of it, and joining pieces.
Everything is stated on lists of characters, with a `String` form where a caller wants one.

* `splitAt` — the pieces between the occurrences of one character; never empty.
* `splitOnText` — the pieces between the occurrences of a delimiter text, with the convention that
  the empty delimiter cuts before, between and after all characters.
* `occursIn`, `startsWith`, `endsWith` — containment tests.
-/

namespace Interchange.Text

/-- The pieces of `cs` between the characters equal to `sep`; there is always at least one. -/
def splitAt (sep : Char) : List Char → List (List Char)
  | [] => [[]]
  | c :: cs =>
    if c = sep then [] :: splitAt sep cs
    else
      match splitAt sep cs with
      | [] => [[c]]
      | piece :: rest => (c :: piece) :: rest

/-- The pieces of a text between the occurrences of one character. -/
def split (sep : Char) (s : String) : List String :=
  (splitAt sep s.toList).map String.ofList

/-- What follows `lead` in a list that begins with it. -/
def stripLead : (lead cs : List Char) → Option (List Char)
  | [], cs => some cs
  | _ :: _, [] => none
  | a :: lead, c :: cs => if a = c then stripLead lead cs else none

theorem stripLead_length : ∀ {lead cs rest : List Char}, stripLead lead cs = some rest →
    rest.length + lead.length = cs.length
  | [], _, _, h => by simp [stripLead] at h; simp [h]
  | _ :: _, [], _, h => by simp [stripLead] at h
  | a :: lead, c :: cs, rest, h => by
    simp only [stripLead] at h
    split at h
    · have := stripLead_length h; simp; omega
    · exact absurd h (by simp)

/-- The pieces between the occurrences of a delimiter that is not empty, found from the left and
not overlapping; `piece` is the current piece, last character first. -/
def splitOnList (delimiter : List Char) (h : delimiter ≠ []) :
    (piece cs : List Char) → List (List Char)
  | piece, [] => [piece.reverse]
  | piece, c :: cs =>
    match found : stripLead delimiter (c :: cs) with
    | some rest =>
      have : rest.length < (c :: cs).length := by
        have := stripLead_length found
        have := List.length_pos_iff.2 h
        omega
      piece.reverse :: splitOnList delimiter h [] rest
    | none => splitOnList delimiter h (c :: piece) cs
  termination_by _ cs => cs.length
  decreasing_by
    · assumption
    · exact Nat.lt_succ_self _

/-- The pieces of `s` between the occurrences of `delimiter`.  The empty delimiter occurs at both
ends and between any two characters. -/
def splitOnText (delimiter s : String) : List String :=
  if h : delimiter.toList = [] then
    "" :: (s.toList.map String.singleton ++ [""])
  else
    (splitOnList delimiter.toList h [] s.toList).map String.ofList

/-- Whether `cs` begins with `lead`. -/
def beginsWith (lead cs : List Char) : Bool := (stripLead lead cs).isSome

/-- Whether `part` stands somewhere in `cs`. -/
def occursIn (part : List Char) : List Char → Bool
  | [] => part.isEmpty
  | c :: cs => beginsWith part (c :: cs) || occursIn part cs

/-- Whether `part` stands somewhere in `s`. -/
def contains (s part : String) : Bool := occursIn part.toList s.toList

/-- Whether `s` begins with `lead`. -/
def startsWith (s lead : String) : Bool := beginsWith lead.toList s.toList

/-- Whether `s` ends with `tail`. -/
def endsWith (s tail : String) : Bool := beginsWith tail.toList.reverse s.toList.reverse

/-- Replaces the occurrences of `old`, found from the left and not overlapping, by `new`; `skip`
characters of an occurrence just replaced are still to be passed over. -/
def replaceList (old new : List Char) : (skip : Nat) → List Char → List Char
  | _, [] => []
  | skip + 1, _ :: cs => replaceList old new skip cs
  | 0, c :: cs =>
    if beginsWith old (c :: cs) && !old.isEmpty then
      new ++ replaceList old new (old.length - 1) cs
    else c :: replaceList old new 0 cs

/-- Replaces the occurrences of `old` in `s`, found from the left and not overlapping. -/
def replace (old new s : String) : String :=
  String.ofList (replaceList old.toList new.toList 0 s.toList)

/-- The pieces with `sep` between them. -/
def join (sep : String) (pieces : List String) : String := String.intercalate sep pieces

/-- The pieces of a text between its runs of characters for which `p` holds, empty ones left
out; `piece` is the current piece, last character first. -/
def wordsWhere (p : Char → Bool) : (piece cs : List Char) → List (List Char)
  | piece, [] => if piece.isEmpty then [] else [piece.reverse]
  | piece, c :: cs =>
    if p c then
      if piece.isEmpty then wordsWhere p [] cs else piece.reverse :: wordsWhere p [] cs
    else wordsWhere p (c :: piece) cs

end Interchange.Text
