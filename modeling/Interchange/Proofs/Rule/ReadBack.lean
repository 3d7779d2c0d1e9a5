import Interchange.Proofs.Record.ReadBack
import Interchange.Proofs.Value.InOrder
import Interchange.Rule.Basic
/-!
# Rules that are written and read back

Operators and actions have many names, and a name that is not known stands for itself.  A rule is
written with the first name of each, which is read as the same operator or action again, and with
the unknown names as they were: these are no other spelling of a known one, for then they would have
been read as that.  The values of a rule are in order, and so are read back as they are.

* `Operator.ofName_name`, `ActionKind.ofName_name` — what a name stands for has a name that stands
  for it.
* `Rule.Writable`, `Rule.Writable.comesBack` — what is needed of a rule to be read back.
* `Rule.Made`, `Rule.Made.writable` — and that a rule which was read or built has it.
* `Rule.ComesBack`, `Rule.comesBack_of_made` — rules are read back from their records, however they
  were made.
-/

namespace Interchange

/-! ### Names -/

/-- **A name is read again as what it stands for**, if the names under which things are written are
read as these things, and a name that is not known is written as it is. -/
theorem named_again {α : Type} {parse : String → Option α} {fallback : String → α}
    {name : α → String} {ofName : String → α}
    (ofName_eq : ∀ s, ofName s = (parse (Text.asciiLower (Text.trim s))).getD (fallback s))
    (known : ∀ s x, parse s = some x → ofName (name x) = x)
    (unknown : ∀ s, name (fallback s) = s) (s : String) : ofName (name (ofName s)) = ofName s := by
  cases spelled : parse (Text.asciiLower (Text.trim s)) with
  | none =>
      have itself : ofName s = fallback s := by rw [ofName_eq, spelled, Option.getD_none]
      rw [itself, unknown, itself]
  | some x =>
      have meant : ofName s = x := by rw [ofName_eq, spelled, Option.getD_some]
      rw [meant, known _ x spelled]

theorem Operator.isUnknown_of_ofSpelling? {s : String} {op : Operator}
    (spelled : ofSpelling? s = some op) : op.isUnknown = false := by
  unfold ofSpelling? at spelled
  split at spelled <;> cases spelled <;> rfl

theorem Operator.ofName_name_of_known {op : Operator} (known : op.isUnknown = false) :
    ofName op.name = op := by
  cases op with
  | unknown name => cases known
  | _ => decide +kernel

/-- The name under which an operator is written stands for it. -/
theorem Operator.ofName_name (s : String) : ofName (ofName s).name = ofName s :=
  named_again (fun _ => rfl)
    (fun _ _ spelled => ofName_name_of_known (isUnknown_of_ofSpelling? spelled)) (fun _ => rfl) s

theorem ActionKind.isUnknown_of_ofSpelling? {s : String} {kind : ActionKind}
    (spelled : ofSpelling? s = some kind) : kind.isUnknown = false := by
  unfold ofSpelling? at spelled
  split at spelled <;> cases spelled <;> rfl

theorem ActionKind.ofName_name_of_known {kind : ActionKind} (known : kind.isUnknown = false) :
    ofName kind.name = kind := by
  cases kind with
  | unknown name => cases known
  | _ => decide +kernel

/-- The name under which an action is written stands for it. -/
theorem ActionKind.ofName_name (s : String) : ofName (ofName s).name = ofName s :=
  named_again (fun _ => rfl)
    (fun _ _ spelled => ofName_name_of_known (isUnknown_of_ofSpelling? spelled)) (fun _ => rfl) s

/-! ### What can be written -/

/-- A condition whose operator is read back from its name, and whose value is in order. -/
structure Condition.Writable (c : Condition) : Prop where
  operator : Operator.ofName c.operator.name = c.operator
  value : c.value.InOrder

/-- An action that is read back from its name, and whose value is in order. -/
structure Action.Writable (a : Action) : Prop where
  kind : ActionKind.ofName a.kind.name = a.kind
  value : a.value.InOrder

theorem Condition.Writable.of_name {path name : String} {operator : Operator} {value : Value}
    (named : .ofName name = operator) (ordered : value.InOrder) :
    Writable ⟨path, operator, value⟩ := by
  have again := Operator.ofName_name name
  rw [named] at again
  exact ⟨again, ordered⟩

theorem Action.Writable.of_name {name target : String} {kind : ActionKind} {value : Value}
    (named : .ofName name = kind) (ordered : value.InOrder) : Writable ⟨kind, target, value⟩ := by
  have again := ActionKind.ofName_name name
  rw [named] at again
  exact ⟨again, ordered⟩

/-- **A rule that can be written**: its conditions and its actions can. -/
structure Rule.Writable (r : Rule) : Prop where
  conditions : ∀ c ∈ r.conditions, c.Writable
  actions : ∀ a ∈ r.actions, a.Writable

/-- A condition that can be written is read back from its record. -/
theorem Condition.read_toValue {c : Condition} (writable : c.Writable) :
    read (.ofValue c.toValue) = .ok c := by
  refine Reader.record_of_gives (.cons ?path (.cons ?operator (.cons ?value .nil)))
    (by decide +kernel) rfl (.refl _)
  case path => rfl
  case operator => exact congrArg Except.ok writable.operator
  case value => exact Reader.value_ofValue writable.value

/-- An action that can be written is read back from its record. -/
theorem Action.read_toValue {a : Action} (writable : a.Writable) :
    read (.ofValue a.toValue) = .ok a := by
  refine Reader.record_of_gives (.cons ?kind (.cons ?target (.cons ?value .nil)))
    (by decide +kernel) rfl (.refl _)
  case kind => exact congrArg Except.ok writable.kind
  case target => rfl
  case value => exact Reader.value_ofValue writable.value

theorem RuleStatus.read_name (status : RuleStatus) : read (.str status.name) = .ok status := by
  cases status <;> rfl

theorem Scope.read_name (scope : Scope) : read (.str scope.name) = .ok scope := by
  cases scope <;> rfl

/-- **A rule comes back** if the same rule is read from its record, in whatever order the members of
that stand. -/
def Rule.ComesBack (r : Rule) : Prop :=
  ∃ written, r.toValue = .obj written ∧
    ∀ members, members.Perm written → Rule.read (.ofValue (.obj members)) = .ok r

/-- Rules that can be written come back. -/
theorem Rule.Writable.comesBack {r : Rule} (writable : r.Writable) : r.ComesBack := by
  refine ⟨_, rfl, fun members perm => ?_⟩
  refine Reader.record_of_gives (.cons ?id (.cons ?name (.cons ?conditions (.cons ?actions
    (.cons ?priority (.cons ?execOrder (.cons ?status (.cons ?scope .nil)))))))) (by decide +kernel)
    rfl (Shape.ofMembers_perm perm.symm)
  case id => rfl
  case name => rfl
  case conditions =>
    exact Reader.list_map fun c member => Condition.read_toValue (writable.conditions c member)
  case actions =>
    exact Reader.list_map fun a member => Action.read_toValue (writable.actions a member)
  case priority => exact Reader.int32_ofInt r.priority
  case execOrder => exact Reader.int32_ofInt r.execOrder
  case status => exact RuleStatus.read_name r.status
  case scope => exact Scope.read_name r.scope

/-! ### What is read or built -/

/-- The value of a condition or an action was read, or it is null. -/
theorem Value.inOrder_of_fromRead {v : Value}
    (known : (Field.default "value" Reader.value .null).FromRead v) : v.InOrder := by
  obtain ⟨n, read⟩ | rfl := known.default
  · exact Reader.inOrder_value read
  · trivial

theorem Condition.writable_of_read {n : Shape} {c : Condition} (known : read n = .ok c) :
    c.Writable := by
  obtain ⟨⟨path, op, value, _⟩, ⟨-, operator, content, -⟩, made⟩ := Reader.exists_fromReads known
  cases made
  obtain ⟨m, operator⟩ := operator.required
  obtain ⟨s, -, named⟩ := map_eq_ok.mp operator
  exact .of_name named (Value.inOrder_of_fromRead content)

theorem Action.writable_of_read {n : Shape} {a : Action} (known : read n = .ok a) :
    a.Writable := by
  obtain ⟨⟨action, target, value, _⟩, ⟨kind, -, content, -⟩, made⟩ := Reader.exists_fromReads known
  cases made
  obtain ⟨m, kind⟩ := kind.required
  obtain ⟨s, -, named⟩ := map_eq_ok.mp kind
  exact .of_name named (Value.inOrder_of_fromRead content)

/-- Rules that are read can be written. -/
theorem Rule.writable_of_read {n : Shape} {r : Rule} (known : read n = .ok r) : r.Writable := by
  obtain ⟨⟨id, name, cs, as, rest⟩, ⟨-, -, conditions, actions, -⟩, made⟩ :=
    Reader.exists_fromReads known
  cases made
  exact ⟨conditions.forall_mem Condition.writable_of_read,
    actions.forall_mem Action.writable_of_read⟩

/-- **A rule is made** by reading a record, or step by step from its name; the values that are given
to the steps are in order. -/
inductive Rule.Made : Rule → Prop
  | read {n : Shape} {r : Rule} (known : Rule.read n = .ok r) : Made r
  | named (name : String) : Made (.named name)
  | withCondition {r : Rule} {value : Value} (made : Made r) (path operator : String)
      (ordered : value.InOrder) : Made (r.withCondition path operator value)
  | withAction {r : Rule} {value : Value} (made : Made r) (kind target : String)
      (ordered : value.InOrder) : Made (r.withAction kind target value)
  | withOrder {r : Rule} (made : Made r) (execOrder priority : Int32) :
      Made (r.withOrder execOrder priority)
  | withScope {r : Rule} (made : Made r) (scope : Scope) : Made (r.withScope scope)
  | withStatus {r : Rule} (made : Made r) (status : RuleStatus) : Made (r.withStatus status)

/-- Rules that are made can be written. -/
theorem Rule.Made.writable {r : Rule} (made : r.Made) : r.Writable := by
  induction made with
  | read known => exact writable_of_read known
  | named name => exact ⟨List.forall_mem_nil _, List.forall_mem_nil _⟩
  | withCondition _ path operator ordered ih =>
      refine ⟨List.forall_mem_append.mpr ⟨ih.conditions, ?_⟩, ih.actions⟩
      exact List.forall_mem_singleton.mpr (.of_name rfl ordered)
  | withAction _ kind target ordered ih =>
      refine ⟨ih.conditions, List.forall_mem_append.mpr ⟨ih.actions, ?_⟩⟩
      exact List.forall_mem_singleton.mpr (.of_name rfl ordered)
  | withOrder _ _ _ ih => exact ⟨ih.conditions, ih.actions⟩
  | withScope _ _ ih => exact ⟨ih.conditions, ih.actions⟩
  | withStatus _ _ ih => exact ⟨ih.conditions, ih.actions⟩

/-- **Rules come back** from their records, however they were made. -/
theorem Rule.comesBack_of_made {r : Rule} (made : r.Made) : r.ComesBack := made.writable.comesBack

/-- A record that spells its names in other ways, one of them unknown, and leaves out what it may.
-/
def Rule.surchargeRecord : Shape :=
  .map
    [("conditions", .list
      [.map [("operator", .str " IN "), ("field", .str "state"),
        ("value", .list [.str "CA", .str "NY"])],
       .map [("fieldPath", .str "driver"), ("operator", .str "Is Known ")]]),
     ("name", .str "surcharge"),
     ("actions", .list [.list [.str "Increment", .str "total", .ofValue (.ofInt 5)]])]

/-- The rule of this record. -/
def Rule.surcharge : Rule where
  id := ""
  name := "surcharge"
  conditions :=
    [⟨"state", .isIn, .list [.str "CA", .str "NY"]⟩, ⟨"driver", .unknown "Is Known ", .null⟩]
  actions := [⟨.add, "total", .ofInt 5⟩]
  priority := 0
  execOrder := 0
  status := .active
  scope := .all

theorem Rule.surcharge_comesBack :
    read surchargeRecord = .ok surcharge ∧ surcharge.ComesBack ∧
      ((surcharge.withAction "Rounded" "total" .null).withOrder 2 (-1)).ComesBack := by
  have known : read surchargeRecord = .ok surcharge := by rfl
  have made : surcharge.Made := .read known
  have ordered : Value.null.InOrder := trivial
  exact ⟨known, comesBack_of_made made,
    comesBack_of_made ((made.withAction "Rounded" "total" ordered).withOrder 2 (-1))⟩

end Interchange
