import Interchange.Error
/-!
# Errors told apart by their texts

A report holds the text of an error and not the error.  The texts begin in fixed ways, which are
enough to tell the errors over something that is not there from all others that a step can come to.

* `Error.isDangling` — the errors over what is referred to and not there.
* `Error.Legitimate` — the errors that a step may come to all the same.
* `Error.Legitimate.message_ne` — no text of the one kind is a text of the other.
* `TransformError.message_ne_of_isLookup` — the same for the failures of lookups in mappings.
-/

namespace Interchange

/-! ### How texts begin -/

/-- Whether a text begins with another. -/
def Text.Opens (opening s : String) : Prop := ∃ rest, s = opening ++ rest

namespace Text

variable {p q a b : String}

/-- A text opens a longer one. -/
theorem Opens.start (a b : String) : Opens a (a ++ b) := ⟨b, rfl⟩

theorem Opens.nothing (a : String) : Opens "" a := ⟨a, String.empty_append.symm⟩

theorem Opens.all (a : String) : Opens a a := ⟨"", String.append_empty.symm⟩

/-- How a text begins does not depend on what is put behind it. -/
theorem Opens.append (opens : Opens p a) (b : String) : Opens p (a ++ b) := by
  obtain ⟨rest, rfl⟩ := opens
  exact ⟨rest ++ b, String.append_assoc⟩

/-- The same words may be put before both. -/
theorem Opens.after (a : String) (opens : Opens p b) : Opens (a ++ p) (a ++ b) := by
  obtain ⟨rest, rfl⟩ := opens
  exact ⟨rest, String.append_assoc.symm⟩

/-- Two openings neither of which begins the other. -/
def Apart (p q : String) : Prop := ¬ p.toList <+: q.toList ∧ ¬ q.toList <+: p.toList

instance (p q : String) : Decidable (Apart p q) := inferInstanceAs (Decidable (_ ∧ _))

/-- Texts with openings that are apart are not the same. -/
theorem Apart.ne (apart : Apart p q) (one : Opens p a) (other : Opens q b) : a ≠ b := by
  rintro rfl
  obtain ⟨r, rfl⟩ := one
  obtain ⟨s, same⟩ := other
  have lists := congrArg String.toList same
  rw [String.toList_append, String.toList_append] at lists
  have nested := List.prefix_or_prefix_of_prefix (List.prefix_append p.toList r.toList)
    (lists ▸ List.prefix_append q.toList s.toList)
  exact nested.elim apart.1 apart.2

end Text

/-! ### Errors of steps -/

/-- Whether an error is over something that is referred to and not there: a system, a table or a
type of steps. -/
def Error.isDangling : Error → Bool
  | .unknownSystem _ | .lookup (.unknownTable _) | .setup (.unknownStepType _) => true
  | _ => false

/-- The faults of an address or a header of a call. -/
inductive SetupFault.OfCall : SetupFault → Prop
  | badUrl (url : String) (fault : Url.Fault) : OfCall (.badUrl url fault)
  | badScheme (scheme url : String) : OfCall (.badScheme scheme url)
  | unsetVariable (name : String) : OfCall (.unsetVariable name)

/-- **The errors that a step may come to** although everything that it refers to is there. -/
inductive Error.Legitimate : Error → Prop
  | setup {fault : SetupFault} (ofCall : fault.OfCall) : Legitimate (.setup fault)
  | inactiveSystem (code : String) : Legitimate (.inactiveSystem code)
  | http (failure : HttpFailure) : Legitimate (.http failure)
  | unreadableReply (format : WireFormat) : Legitimate (.unreadableReply format)
  | requiredField (path : String) : Legitimate (.requiredField path)

/-- A legitimate error is not over something that is missing. -/
theorem Error.Legitimate.isDangling {e : Error} (legitimate : e.Legitimate) :
    e.isDangling = false := by
  cases legitimate with
  | setup ofCall => cases ofCall <;> rfl
  | inactiveSystem | http | unreadableReply | requiredField => rfl

/-- How the text of a fault begins. -/
def SetupFault.opening : SetupFault → String
  | .badUrl .. => "Invalid system URL '"
  | .badScheme .. => "Unsupported URL scheme '"
  | .unsetVariable _ => "Environment variable not found: "
  | .unknownStepType _ => "Unsupported step type '"
  | _ => ""

/-- The text of a fault begins as it should. -/
theorem SetupFault.opens_message (fault : SetupFault) : Text.Opens fault.opening fault.message := by
  cases fault with
  | badUrl => exact ((Text.Opens.start _ _).append _).append _
  | badScheme => exact (((Text.Opens.start _ _).append _).append _).append _
  | unsetVariable => exact .start _ _
  | unknownStepType => exact (Text.Opens.start _ _).append _
  | _ => exact .nothing _

/-- How the text of an error begins. -/
def Error.opening : Error → String
  | .setup fault => "Configuration error: " ++ fault.opening
  | .unknownSystem _ => "External system not found: "
  | .inactiveSystem _ => "External system is inactive: "
  | .lookup (.unknownTable _) => "Lookup table not found: "
  | .requiredField _ => "Required field missing: "
  | .unreadableReply format => format.name ++ " format error: "
  | .http _ => "HTTP error: "
  | _ => ""

/-- So does the text of an error. -/
theorem Error.opens_message (e : Error) : Text.Opens e.opening e.message := by
  cases e with
  | setup fault => exact fault.opens_message.after _
  | unknownSystem | inactiveSystem | requiredField | http => exact .start _ _
  | unreadableReply format => exact .all _
  | lookup fault =>
      cases fault with
      | unknownTable => exact .start _ _
      | unavailable => exact .nothing _
  | _ => exact .nothing _

/-- The ways in which texts over what is not there begin. -/
def Error.danglingOpenings : List String :=
  ["External system not found: ", "Lookup table not found: ",
    "Configuration error: " ++ "Unsupported step type '"]

/-- The ways in which the texts of all other errors of steps begin. -/
def Error.legitimateOpenings : List String :=
  ["Configuration error: " ++ "Invalid system URL '",
    "Configuration error: " ++ "Unsupported URL scheme '",
    "Configuration error: " ++ "Environment variable not found: ",
    "External system is inactive: ", "HTTP error: ", "Required field missing: ",
    WireFormat.json.name ++ " format error: ", WireFormat.xml.name ++ " format error: ",
    WireFormat.soap.name ++ " format error: "]

/-- How errors over what is not there begin. -/
theorem Error.opening_of_isDangling {e : Error} (dangling : e.isDangling = true) :
    e.opening ∈ danglingOpenings := by
  cases e with
  | unknownSystem => exact .head _
  | lookup fault =>
      cases fault with
      | unknownTable => exact .tail _ (.head _)
      | unavailable => cases dangling
  | setup fault =>
      cases fault with
      | unknownStepType => exact .tail _ (.tail _ (.head _))
      | _ => cases dangling
  | _ => cases dangling

/-- How the other ones begin. -/
theorem Error.Legitimate.opening {e : Error} (legitimate : e.Legitimate) :
    e.opening ∈ legitimateOpenings := by
  cases legitimate with
  | setup ofCall =>
      cases ofCall with
      | badUrl => exact List.mem_of_getElem? (i := 0) rfl
      | badScheme => exact List.mem_of_getElem? (i := 1) rfl
      | unsetVariable => exact List.mem_of_getElem? (i := 2) rfl
  | inactiveSystem => exact List.mem_of_getElem? (i := 3) rfl
  | http => exact List.mem_of_getElem? (i := 4) rfl
  | requiredField => exact List.mem_of_getElem? (i := 5) rfl
  | unreadableReply format =>
      cases format with
      | json => exact List.mem_of_getElem? (i := 6) rfl
      | xml => exact List.mem_of_getElem? (i := 7) rfl
      | soap => exact List.mem_of_getElem? (i := 8) rfl

/-- Of a beginning of the one kind and one of the other, neither begins with the other. -/
theorem Error.apart_openings :
    ∀ p ∈ legitimateOpenings, ∀ q ∈ danglingOpenings, Text.Apart p q := by decide

/-- No error over what is not there has the text of another error of a step. -/
theorem Error.Legitimate.message_ne {e dangling : Error} (legitimate : e.Legitimate)
    (isDangling : dangling.isDangling = true) : e.message ≠ dangling.message :=
  (apart_openings _ legitimate.opening _ (opening_of_isDangling isDangling)).ne e.opens_message
    dangling.opens_message

/-! ### Failures of lookups in mappings -/

/-- Whether an error is the failure of a lookup. -/
def TransformError.isLookup : TransformError → Bool
  | .lookup .. => true
  | _ => false

/-- How the text of an error begins. -/
def TransformError.opening : TransformError → String
  | .conversion .. => "Type conversion failed: cannot convert "
  | .invalidDate _ => "Invalid date: "
  | .divisionByZero _ => "Division by zero in "
  | .configuration _ => "Invalid transformation configuration: "
  | .expression (.refused ..) => "Unsafe expression '"
  | .expression (.failed ..) => "Expression evaluation failed for '"
  | .lookup .. => "Lookup in table '"

/-- The text of an error of a transformation begins as it should. -/
theorem TransformError.opens_message (e : TransformError) : Text.Opens e.opening e.message := by
  cases e with
  | conversion => exact ((Text.Opens.start _ _).append _).append _
  | invalidDate | divisionByZero | configuration => exact .start _ _
  | expression error => cases error <;> exact ((Text.Opens.start _ _).append _).append _
  | lookup => exact ((Text.Opens.start _ _).append _).append _

/-- The ways in which all other texts in the reports of fields begin. -/
def TransformError.otherOpenings : List String :=
  ["Type conversion failed: cannot convert ", "Invalid date: ", "Division by zero in ",
    "Invalid transformation configuration: ", "Unsafe expression '",
    "Expression evaluation failed for '", "Required field missing: "]

/-- Nor does any of the others begin like the text of a lookup, or that like it. -/
theorem TransformError.apart_openings :
    ∀ p ∈ otherOpenings, Text.Apart p "Lookup in table '" := by decide

theorem TransformError.opening_of_isLookup {e : TransformError} (isLookup : e.isLookup = true) :
    e.opening = "Lookup in table '" := by
  cases e with
  | lookup => rfl
  | _ => cases isLookup

theorem TransformError.opening_of_other {e : TransformError} (other : e.isLookup = false) :
    e.opening ∈ otherOpenings := by
  cases e with
  | conversion => exact List.mem_of_getElem? (i := 0) rfl
  | invalidDate => exact List.mem_of_getElem? (i := 1) rfl
  | divisionByZero => exact List.mem_of_getElem? (i := 2) rfl
  | configuration => exact List.mem_of_getElem? (i := 3) rfl
  | expression error =>
      cases error with
      | refused => exact List.mem_of_getElem? (i := 4) rfl
      | failed => exact List.mem_of_getElem? (i := 5) rfl
  | lookup => cases other

variable {failed : TransformError}

/-- No failure of a lookup has the text of another error. -/
theorem TransformError.message_ne_of_isLookup {e : TransformError} (other : e.isLookup = false)
    (isLookup : failed.isLookup = true) : e.message ≠ failed.message := by
  have opens := failed.opens_message
  rw [opening_of_isLookup isLookup] at opens
  exact (apart_openings _ (opening_of_other other)).ne e.opens_message opens

/-- No failure of a lookup has the text for a missing field. -/
theorem requiredMessage_ne_of_isLookup (isLookup : failed.isLookup = true) (path : String) :
    requiredMessage path ≠ failed.message := by
  have opens := failed.opens_message
  rw [TransformError.opening_of_isLookup isLookup] at opens
  exact (TransformError.apart_openings _ (List.mem_of_getElem? (i := 6) rfl)).ne (.start _ _) opens

end Interchange
