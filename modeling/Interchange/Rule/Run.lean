import Interchange.Panic
import Interchange.Rule.Basic
import Interchange.Value.Convert
/-!
# Running rules

The rules that are active and cover the phase are run by ascending order and, within one order, by
descending priority.  A rule whose conditions hold takes its actions one after the other; if one of
them fails, none of them counts and the other rules run on.

* `Condition.holds`, `Rule.holds` — the conditions.
* `Rule.apply`, `Rule.tryApply` — the document after the actions of a rule, and how many were known.
* `Rule.runAll`, `Rule.tryRunAll` — the report on a list of rules.
-/

namespace Interchange

/-- Why an action failed. -/
inductive RuleError
  | notNumeric (action target : String) (value : Value)
  | divisionByZero (target : String)
  | notFinite (action target : String)
deriving DecidableEq

/-- The wording of an error. -/
def RuleError.message : RuleError → String
  | .notNumeric action target value =>
    s!"Action '{action}' on {target}: value {value.render} is not numeric"
  | .divisionByZero target => s!"Action 'divide' on {target}: division by zero"
  | .notFinite action target => s!"Action '{action}' on {target}: result is not finite"

namespace Condition

def isBool : Value → Bool
  | .bool _ => true
  | _ => false

/-- Equality for conditions.  Values of one shape are compared as they are; scalars of different
shape as numbers, if both denote one and neither is a truth value, else as texts.  Null equals
null alone, and a container equals no scalar. -/
def looselyEqual (actual expected : Value) : Bool :=
  actual.same expected ||
    (!actual.isNull && !expected.isNull && !actual.isContainer && !expected.isContainer &&
      match actual.toNumber?, expected.toNumber? with
      | some a, some b =>
        if !isBool actual && !isBool expected then a == b else actual.toText == expected.toText
      | _, _ => actual.toText == expected.toText)

/-- Compares the numbers of two values, if both denote one. -/
def compare (p : Float → Float → Bool) (actual expected : Value) : Bool :=
  match actual.toNumber?, expected.toNumber? with
  | some a, some b => p a b
  | _, _ => false

/-- Whether a list has the value as an item, an object as a key, or a text as a part. -/
def contains (actual expected : Value) : Bool :=
  match actual with
  | .list items => items.any fun item => looselyEqual item expected
  | .null => false
  | .obj ms => (Table.get? expected.toText ms).isSome
  | v => Text.contains v.toText expected.toText

/-- Whether the value is an item of a list, or of a text of items separated by commas. -/
def memberOf (actual expected : Value) : Bool :=
  match expected with
  | .list items => items.any fun item => looselyEqual actual item
  | .str s => (Text.split ',' s).any fun item => Text.trim item == actual.toText
  | _ => false

/-- Whether a value is null or holds nothing. -/
def isVoid : Value → Bool
  | .null => true
  | .str s => s.isEmpty
  | .list items => items.isEmpty
  | .obj ms => ms.isEmpty
  | _ => false

/-- Whether an operator holds of two values. -/
def test (op : Operator) (actual expected : Value) : Bool :=
  match op with
  | .equals => looselyEqual actual expected
  | .notEquals => !looselyEqual actual expected
  | .greater => compare (fun a b => b < a) actual expected
  | .greaterOrEqual => compare (fun a b => b ≤ a) actual expected
  | .less => compare (fun a b => a < b) actual expected
  | .lessOrEqual => compare (fun a b => a ≤ b) actual expected
  | .contains => contains actual expected
  | .notContains => !contains actual expected
  | .startsWith => !actual.isNull && Text.startsWith actual.toText expected.toText
  | .endsWith => !actual.isNull && Text.endsWith actual.toText expected.toText
  | .isIn => memberOf actual expected
  | .notIn => !memberOf actual expected
  | .isNull => actual.isNull
  | .isNotNull => !actual.isNull
  | .isEmpty => isVoid actual
  | .isNotEmpty => !isVoid actual
  | .unknown _ => false

/-- Whether a condition holds of a document; what is missing counts as null. -/
def holds (c : Condition) (doc : Value) : Bool :=
  test c.operator (.ofOption (doc.at? c.path)) c.value

end Condition

namespace Action

/-- The result of an operation on the number at the target and the number of the action.  A missing
or null target counts as zero. -/
def arithmetic (a : Action) (name : String) (f : Float → Float → Except RuleError Float)
    (doc : Value) : Except RuleError Value := do
  let number (v : Value) : Except RuleError Float :=
    match v.toNumber? with
    | some x => .ok x
    | none => .error (.notNumeric name a.target v)
  let current ←
    match doc.at? a.target with
    | none | some .null => .ok 0.0
    | some v => number v
  let operand ← number a.value
  match Value.ofNumber? (← f current operand) with
  | some v => return v
  | none => .error (.notFinite name a.target)

/-- What `append` leaves in the place of a value. -/
def appended (x : Value) : Option Value → Value
  | none | some .null => .list [x]
  | some (.list items) => .list (items ++ [x])
  | some v => .list [v, x]

/-- What an action makes of a document: the document without what it takes out, and the value that
is then to be written at its target, if there is one.  An unknown action leaves the document
alone. -/
def effect (a : Action) (doc : Value) : Except RuleError (Value × Option Value) := do
  match a.kind with
  | .set => return (doc, a.value)
  | .add => return (doc, ← a.arithmetic "add" (fun x y => .ok (x + y)) doc)
  | .subtract => return (doc, ← a.arithmetic "subtract" (fun x y => .ok (x - y)) doc)
  | .multiply => return (doc, ← a.arithmetic "multiply" (fun x y => .ok (x * y)) doc)
  | .divide =>
    return (doc, ← a.arithmetic "divide"
      (fun x y => if y == 0.0 then .error (.divisionByZero a.target) else .ok (x / y)) doc)
  | .append =>
    let (old, rest) := doc.take a.target
    return (rest, appended a.value old)
  | .remove => return ((doc.take a.target).2, none)
  | .unknown _ => return (doc, none)

/-- Takes an action. -/
def take (a : Action) (doc : Value) : Except RuleError Value :=
  (a.effect doc).map fun
    | (doc, some v) => doc.write a.target v
    | (doc, none) => doc

/-- Takes an action, with the access to each item checked. -/
def tryTake (a : Action) (doc : Value) : Except Panic (Except RuleError Value) :=
  match a.effect doc with
  | .error e => .ok (.error e)
  | .ok (doc, some v) => (doc.checkedWrite a.target v).map .ok
  | .ok (doc, none) => .ok (.ok doc)

end Action

/-- A rule that was applied. -/
structure AppliedRule where
  ruleId : String
  name : String
  actionsApplied : Nat
deriving DecidableEq

/-- A rule whose conditions held and whose actions failed. -/
structure RuleFailure where
  ruleId : String
  name : String
  error : RuleError
deriving DecidableEq

/-- The report on a list of rules. -/
structure RuleReport where
  data : Value
  applied : List AppliedRule
  evaluated : Nat
  failures : List RuleFailure
deriving DecidableEq

def AppliedRule.toValue (a : AppliedRule) : Value :=
  .ofMembers [("ruleId", .str a.ruleId), ("name", .str a.name),
    ("actionsApplied", .count a.actionsApplied)]

def RuleFailure.toValue (f : RuleFailure) : Value :=
  .ofMembers [("ruleId", .str f.ruleId), ("name", .str f.name), ("error", .str f.error.message)]

namespace Rule

/-- Whether all conditions of a rule hold. -/
def holds (r : Rule) (doc : Value) : Bool := r.conditions.all fun c => c.holds doc

/-- Takes actions in order; nothing is left of them if one fails. -/
def takeAll : List Action → Value → Except RuleError Value
  | [], doc => .ok doc
  | a :: actions, doc => do takeAll actions (← a.take doc)

/-- How many of the actions are known. -/
def knownActions (r : Rule) : Nat := (r.actions.filter fun a => !a.kind.isUnknown).length

/-- The document after the actions of a rule, and how many of them are known. -/
def apply (r : Rule) (doc : Value) : Except RuleError (Value × Nat) :=
  (takeAll r.actions doc).map fun doc => (doc, r.knownActions)

/-- Takes actions in order, with the access to each item checked. -/
def tryTakeAll : List Action → Value → Except Panic (Except RuleError Value)
  | [], doc => .ok (.ok doc)
  | a :: actions, doc => do
    match ← a.tryTake doc with
    | .error e => return .error e
    | .ok doc => tryTakeAll actions doc

/-- The document after the actions of a rule, with the access to each item checked. -/
def tryApply (r : Rule) (doc : Value) : Except Panic (Except RuleError (Value × Nat)) :=
  (tryTakeAll r.actions doc).map fun taken => taken.map fun doc => (doc, r.knownActions)

/-- Whether a rule may stand before another in the order of execution. -/
def notAfter (a b : Rule) : Bool :=
  a.execOrder < b.execOrder || (a.execOrder = b.execOrder && b.priority ≤ a.priority)

/-- The rules that run in a phase, in the order of execution. -/
def inOrder (rules : List Rule) (phase : Scope) : List Rule :=
  (rules.filter fun r => r.isActive && r.scope.covers phase).mergeSort notAfter

/-- Adds to a report what came of a rule whose conditions held. -/
def record (r : Rule) (report : RuleReport) : Except RuleError (Value × Nat) → RuleReport
  | .ok (doc, n) => { report with data := doc, applied := report.applied ++ [⟨r.id, r.name, n⟩] }
  | .error e => { report with failures := report.failures ++ [⟨r.id, r.name, e⟩] }

/-- Runs one rule after others. -/
def runOne (report : RuleReport) (r : Rule) : RuleReport :=
  let report := { report with evaluated := report.evaluated + 1 }
  if r.holds report.data then r.record report (r.apply report.data) else report

/-- Runs the rules of a phase on a document. -/
def runAll (rules : List Rule) (doc : Value) (phase : Scope) : RuleReport :=
  (inOrder rules phase).foldl runOne ⟨doc, [], 0, []⟩

/-- Runs one rule after others, with the access to each item checked. -/
def tryRunOne (report : RuleReport) (r : Rule) : Except Panic RuleReport :=
  let report := { report with evaluated := report.evaluated + 1 }
  if r.holds report.data then (r.tryApply report.data).map (r.record report) else .ok report

/-- Runs the rules of a phase on a document, with the access to each item checked. -/
def tryRunAll (rules : List Rule) (doc : Value) (phase : Scope) : Except Panic RuleReport :=
  (inOrder rules phase).foldlM tryRunOne ⟨doc, [], 0, []⟩

end Rule

end Interchange
