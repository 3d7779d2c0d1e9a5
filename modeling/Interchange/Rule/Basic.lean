import Interchange.Record.Reader
import Interchange.Text.Ascii
import Interchange.Text.Blank
/-!
# Rules

A rule has conditions, all of which must hold, and actions, which change a document.  Operators and
actions are written by name; a name that is not known is kept as it was written, never holds and
changes nothing.

* `Rule.read`, `Rule.toValue` — the record and its written form.  Operators and actions are written
  by their first names, so the written form reads back as the same rule.
* `Rule.named`, `Rule.withCondition`, `Rule.withAction` — rules that are built step by step.
-/

namespace Interchange

/-- A comparison of the value at a path with an expected one. -/
inductive Operator
  | equals | notEquals
  | greater | greaterOrEqual | less | lessOrEqual
  | contains | notContains | startsWith | endsWith
  | isIn | notIn
  | isNull | isNotNull | isEmpty | isNotEmpty
  | unknown (name : String)
deriving DecidableEq

namespace Operator

/-- The operator of a name in its common spelling. -/
def ofSpelling? : String → Option Operator
  | "equals" | "eq" | "==" | "===" => some equals
  | "not_equals" | "ne" | "!=" | "!==" => some notEquals
  | "greater_than" | "gt" | ">" => some greater
  | "greater_than_or_equal" | "gte" | ">=" => some greaterOrEqual
  | "less_than" | "lt" | "<" => some less
  | "less_than_or_equal" | "lte" | "<=" => some lessOrEqual
  | "contains" => some contains
  | "not_contains" => some notContains
  | "starts_with" => some startsWith
  | "ends_with" => some endsWith
  | "in" => some isIn
  | "not_in" => some notIn
  | "is_null" => some isNull
  | "is_not_null" => some isNotNull
  | "is_empty" => some isEmpty
  | "is_not_empty" => some isNotEmpty
  | _ => none

/-- The operator of a name; case and surrounding blanks do not matter. -/
def ofName (name : String) : Operator :=
  (ofSpelling? (Text.asciiLower (Text.trim name))).getD (unknown name)

/-- The name under which an operator is written. -/
def name : Operator → String
  | equals => "equals"
  | notEquals => "not_equals"
  | greater => ">"
  | greaterOrEqual => ">="
  | less => "<"
  | lessOrEqual => "<="
  | contains => "contains"
  | notContains => "not_contains"
  | startsWith => "starts_with"
  | endsWith => "ends_with"
  | isIn => "in"
  | notIn => "not_in"
  | isNull => "is_null"
  | isNotNull => "is_not_null"
  | isEmpty => "is_empty"
  | isNotEmpty => "is_not_empty"
  | unknown name => name

/-- Whether the name was not known. -/
def isUnknown : Operator → Bool
  | unknown _ => true
  | _ => false

def read : Reader Operator := fun n => (Reader.text n).map ofName

end Operator

/-- A change of the value at a path. -/
inductive ActionKind
  | set | add | subtract | multiply | divide | append | remove
  | unknown (name : String)
deriving DecidableEq

namespace ActionKind

/-- The action of a name in its common spelling. -/
def ofSpelling? : String → Option ActionKind
  | "set" | "set_value" => some set
  | "add" | "increment" => some add
  | "subtract" | "decrement" => some subtract
  | "multiply" => some multiply
  | "divide" => some divide
  | "append" => some append
  | "remove" => some remove
  | _ => none

/-- The action of a name; case and surrounding blanks do not matter. -/
def ofName (name : String) : ActionKind :=
  (ofSpelling? (Text.asciiLower (Text.trim name))).getD (unknown name)

/-- The name under which an action is written. -/
def name : ActionKind → String
  | set => "set"
  | add => "add"
  | subtract => "subtract"
  | multiply => "multiply"
  | divide => "divide"
  | append => "append"
  | remove => "remove"
  | unknown name => name

/-- Whether the name was not known. -/
def isUnknown : ActionKind → Bool
  | unknown _ => true
  | _ => false

def read : Reader ActionKind := fun n => (Reader.text n).map ofName

end ActionKind

/-- A predicate on the value at a path. -/
structure Condition where
  path : String
  operator : Operator
  value : Value
deriving DecidableEq

namespace Condition

def read : Reader Condition :=
  Reader.record "RuleCondition"
    [.required "fieldPath" Reader.text ["field"],
     .required "operator" Operator.read,
     .default "value" Reader.value .null]
    fun (path, operator, value, ()) => .ok ⟨path, operator, value⟩

/-- The condition as a record. -/
def toValue (c : Condition) : Value :=
  .obj [("fieldPath", .str c.path), ("operator", .str c.operator.name), ("value", c.value)]

end Condition

/-- A change of the value at a path. -/
structure Action where
  kind : ActionKind
  target : String
  value : Value
deriving DecidableEq

namespace Action

def read : Reader Action :=
  Reader.record "RuleAction"
    [.required "actionType" ActionKind.read ["type"],
     .required "targetField" Reader.text ["field"],
     .default "value" Reader.value .null]
    fun (kind, target, value, ()) => .ok ⟨kind, target, value⟩

/-- The action as a record. -/
def toValue (a : Action) : Value :=
  .obj [("actionType", .str a.kind.name), ("targetField", .str a.target), ("value", a.value)]

end Action

/-- The state of a rule in its life. -/
inductive RuleStatus
  | active | draft | archived
deriving DecidableEq

namespace RuleStatus

def name : RuleStatus → String
  | active => "active"
  | draft => "draft"
  | archived => "archived"

def ofName? : String → Option RuleStatus
  | "active" => some active
  | "draft" => some draft
  | "archived" => some archived
  | _ => none

def read : Reader RuleStatus := Reader.oneOf ["active", "draft", "archived"] ofName?

end RuleStatus

/-- The side of an exchange on which a rule runs. -/
inductive Scope
  | request | response | all
deriving DecidableEq

namespace Scope

def name : Scope → String
  | request => "request"
  | response => "response"
  | all => "all"

def ofName? : String → Option Scope
  | "request" => some request
  | "response" => some response
  | "all" => some all
  | _ => none

def read : Reader Scope := Reader.oneOf ["request", "response", "all"] ofName?

/-- Whether a rule with this scope runs in a phase. -/
def covers (s phase : Scope) : Bool := s = .all || phase = .all || s = phase

end Scope

/-- Conditions that must all hold, and the actions that are then taken. -/
structure Rule where
  id : String
  name : String
  conditions : List Condition
  actions : List Action
  priority : Int32
  execOrder : Int32
  status : RuleStatus
  scope : Scope
deriving DecidableEq

namespace Rule

/-- An active rule without conditions and actions. -/
def named (name : String) : Rule := ⟨name, name, [], [], 0, 0, .active, .all⟩

def isActive (r : Rule) : Bool := r.status = .active

/-- The rule with one more condition; the operator is given by name. -/
def withCondition (r : Rule) (path operator : String) (value : Value) : Rule :=
  { r with conditions := r.conditions ++ [⟨path, .ofName operator, value⟩] }

/-- The rule with one more action, which is given by name. -/
def withAction (r : Rule) (kind target : String) (value : Value) : Rule :=
  { r with actions := r.actions ++ [⟨.ofName kind, target, value⟩] }

/-- The rule with another place in runs. -/
def withOrder (r : Rule) (execOrder priority : Int32) : Rule :=
  { r with execOrder := execOrder, priority := priority }

def withScope (r : Rule) (scope : Scope) : Rule := { r with scope := scope }

def withStatus (r : Rule) (status : RuleStatus) : Rule := { r with status := status }

def read : Reader Rule :=
  Reader.record "ConditionalRule"
    [.default "id" Reader.text "",
     .required "name" Reader.text,
     .default "conditions" (Reader.list Condition.read) [],
     .default "actions" (Reader.list Action.read) [],
     .default "priority" Reader.int32 0,
     .default "execOrder" Reader.int32 0,
     .default "status" RuleStatus.read .active,
     .default "scope" Scope.read .all]
    fun (id, name, conditions, actions, priority, execOrder, status, scope, ()) =>
      .ok ⟨id, name, conditions, actions, priority, execOrder, status, scope⟩

/-- The rule as a record. -/
def toValue (r : Rule) : Value :=
  .obj
    [("id", .str r.id), ("name", .str r.name),
     ("conditions", .list (r.conditions.map Condition.toValue)),
     ("actions", .list (r.actions.map Action.toValue)),
     ("priority", .ofInt r.priority.toInt), ("execOrder", .ofInt r.execOrder.toInt),
     ("status", .str r.status.name), ("scope", .str r.scope.name)]

end Rule

end Interchange
