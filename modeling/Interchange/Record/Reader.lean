import Interchange.Record.Error
import Interchange.Yaml.Plain
/-!
# Reading records

A record type is described by its title and its fields; each field has a name, other names under
which it is accepted, a reader, and what stands for it when it is absent.  A record is read off an
object in the order of its members: a member that is no field is skipped, a field that occurs twice
is a fault, and a field that is still absent at the end is filled in or is a fault.  A list is
accepted in place of an object, its items being the fields in their declared order.

* `Reader` — how one type is read off a document.
* `Field`, `Slots`, `Filled` — the description of fields, what was read so far, and all of it.
* `Reader.record` — the reader of a record type.
-/

namespace Interchange

/-- How a type is read off a document. -/
abbrev Reader (α : Type) := Shape → Except RecordFault α

namespace Reader

/-- The part of a document cannot be read as what was expected. -/
def refuse {α : Type} (expected : String) (n : Shape) : Except RecordFault α :=
  match n with
  | .broken | .unreadable => .error .malformed
  | n => .error (.wrongType (.ofShape n) expected)

/-- A text.  A scalar without quotes is the text of its spelling. -/
def text : Reader String
  | .str s => .ok s
  | .plain s => .ok s
  | n => refuse "a string" n

/-- A truth value. -/
def bool : Reader Bool
  | .bool b => .ok b
  | .plain s =>
    match Plain.bool? s with
    | some b => .ok b
    | none => refuse "a boolean" (.plain s)
  | n => refuse "a boolean" n

/-- An integer between two bounds; `expected` names the type in a fault. -/
def integer (low high : Int) (expected : String) : Reader Int
  | .num (.int n _) =>
    if low ≤ n ∧ n ≤ high then .ok n else .error (.wrongValue (.integer n) expected)
  | .plain s =>
    match Plain.integer? s with
    | some n => if low ≤ n ∧ n ≤ high then .ok n else .error (.wrongValue (.integer n) expected)
    | none => refuse expected (.plain s)
  | n => refuse expected n

/-- A signed 32-bit integer. -/
def int32 : Reader Int32 := fun n =>
  (integer (-0x80000000) 0x7FFFFFFF "i32" n).map Int32.ofInt

/-- An unsigned integer of some width. -/
def natural (bits : Nat) (expected : String) : Reader Nat := fun n =>
  (integer 0 (Nat.pow 2 bits - 1 : Nat) expected n).map Int.toNat

/-- An optional part: nothing where null stands. -/
def option {α : Type} (r : Reader α) : Reader (Option α)
  | .null => .ok none
  | .plain s => if Plain.isNull s then .ok none else (r (.plain s)).map some
  | n => (r n).map some

/-- The items of a list, in order. -/
def items {α : Type} (r : Reader α) : List Shape → Except RecordFault (List α)
  | [] => .ok []
  | n :: ns => do
    let x ← r n
    let xs ← items r ns
    return x :: xs

/-- A list. -/
def list {α : Type} (r : Reader α) : Reader (List α)
  | .list ns => items r ns
  | .plain s => if s.isEmpty then .ok [] else refuse "a sequence" (.plain s)
  | n => refuse "a sequence" n

/-- The members of an object, in order. -/
def members {α : Type} (r : Reader α) :
    List (String × Shape) → Except RecordFault (List (String × α))
  | [] => .ok []
  | (k, n) :: ms => do
    let x ← r n
    let xs ← members r ms
    return (k, x) :: xs

/-- A table; of the values of a repeated key the last stands. -/
def table {α : Type} (r : Reader α) : Reader (List (String × α))
  | .map ms => (members r ms).map Table.ofList
  | .plain s => if s.isEmpty then .ok [] else refuse "a map" (.plain s)
  | n => refuse "a map" n

/-- The value that an unquoted scalar spells.  Infinities and NaN are no values and read as null;
an integer beyond the words is a fault. -/
def plainValue (s : String) : Except RecordFault Value :=
  if Plain.isNull s then .ok .null
  else
    match Plain.bool? s with
    | some b => .ok (.bool b)
    | none =>
      match Plain.integer? s with
      | some n =>
        match Number.ofInt? n with
        | some k => .ok (.num k)
        | none => .error (.wrongType (.integer n) "any valid JSON value")
      | none =>
        match Plain.float? s with
        | some x => .ok (.ofFloat x)
        | none => .ok (.str s)

mutual

/-- Any value. -/
def value : Reader Value
  | .null => .ok .null
  | .bool b => .ok (.bool b)
  | .num n => .ok (.num n)
  | .str s => .ok (.str s)
  | .plain s => plainValue s
  | .list ns => do return .list (← valueItems ns)
  | .map ms => do return .ofMembers (← valueMembers ms)
  | .unreadable | .broken => .error .malformed

/-- The values of the items of a list. -/
def valueItems : List Shape → Except RecordFault (List Value)
  | [] => .ok []
  | n :: ns => do
    let v ← value n
    let vs ← valueItems ns
    return v :: vs

/-- The values of the members of an object. -/
def valueMembers : List (String × Shape) → Except RecordFault (List (String × Value))
  | [] => .ok []
  | (k, n) :: ms => do
    let v ← value n
    let vs ← valueMembers ms
    return (k, v) :: vs

end

/-- One of the named constants of a type.  An object whose one key is the name and whose value is
null is accepted in place of the name. -/
def oneOf {α : Type} (known : List String) (parse : String → Option α) : Reader α
  | .str s | .plain s => named s
  | .map [(k, n)] =>
    match n with
    | .broken | .unreadable => .error .malformed
    | n => do
      let x ← named k
      match n with
      | .null => .ok x
      | n => refuse "unit" n
  | .map ms => if Shape.anyMemberBroken ms then .error .malformed else .error .noSingleName
  | .broken | .unreadable => .error .malformed
  | n => .error (.noName (.ofShape n))
where
  named (s : String) : Except RecordFault α :=
    match parse s with
    | some x => .ok x
    | none => .error (.unknownName s known)

end Reader

/-- One field of a record type. -/
structure Field where
  /-- What the field holds. -/
  Content : Type
  name : String
  /-- Other names under which the field is accepted. -/
  alsoNamed : List String
  read : Reader Content
  /-- What stands for the field when an object has no such member. -/
  whenAbsent : Option Content
  /-- What stands for the field when a list ends before it. -/
  whenCut : Option Content

namespace Field

/-- A field that must be there. -/
def required {α : Type} (name : String) (r : Reader α) (alsoNamed : List String := []) : Field :=
  ⟨α, name, alsoNamed, r, none, none⟩

/-- A field that has a value of its own when it is absent. -/
def default {α : Type} (name : String) (r : Reader α) (value : α) (alsoNamed : List String := []) :
    Field :=
  ⟨α, name, alsoNamed, r, some value, some value⟩

/-- A field that may be absent from an object but not from a list. -/
def optional {α : Type} (name : String) (r : Reader α) : Field :=
  ⟨Option α, name, [], Reader.option r, some none, none⟩

/-- Whether a key names the field. -/
def answersTo (f : Field) (key : String) : Bool := f.name == key || f.alsoNamed.contains key

end Field

/-- What was read so far of each field. -/
def Slots : List Field → Type
  | [] => Unit
  | f :: fs => Option f.Content × Slots fs

/-- The content of every field. -/
def Filled : List Field → Type
  | [] => Unit
  | f :: fs => f.Content × Filled fs

namespace Slots

/-- Nothing was read. -/
def none : (fs : List Field) → Slots fs
  | [] => ()
  | _ :: fs => (Option.none, none fs)

/-- Reads one member into its slot; a key that names no field leaves the slots alone, provided
that the text is not broken there. -/
def member : (fs : List Field) → Slots fs → String → Shape → Except RecordFault (Slots fs)
  | [], (), _, n => if n.isBroken then .error .malformed else .ok ()
  | f :: fs, (slot, slots), key, n =>
    if f.answersTo key then
      match slot with
      | some _ => .error (.repeated f.name)
      | Option.none => (f.read n).map fun x => (some x, slots)
    else (member fs slots key n).map fun rest => (slot, rest)

/-- Reads the members of an object in their order. -/
def members (fs : List Field) : Slots fs → List (String × Shape) → Except RecordFault (Slots fs)
  | slots, [] => .ok slots
  | slots, (key, n) :: ms => do
    let slots ← member fs slots key n
    members fs slots ms

/-- Fills in the absent fields. -/
def complete : (fs : List Field) → Slots fs → Except RecordFault (Filled fs)
  | [], () => .ok ()
  | f :: fs, (slot, slots) =>
    match slot.or f.whenAbsent with
    | some x => (complete fs slots).map fun rest => (x, rest)
    | Option.none => .error (.missing f.name)

end Slots

/-- Reads the items of a list as fields in their declared order; `done` fields were filled. -/
def Filled.ofItems (expected : String) (total : Nat) :
    (fs : List Field) → (done : Nat) → List Shape → Except RecordFault (Filled fs)
  | [], _, ns =>
    if ns.isEmpty then .ok ()
    else if Shape.anyBroken ns then .error .malformed
    else .error (.tooLong total)
  | f :: fs, done, [] =>
    match f.whenCut with
    | some x => (ofItems expected total fs (done + 1) []).map fun rest => (x, rest)
    | none => .error (.tooShort done expected)
  | f :: fs, done, n :: ns => do
    let x ← f.read n
    let rest ← ofItems expected total fs (done + 1) ns
    return (x, rest)

/-- How a list in the place of a record is described in a fault. -/
def expectedLength (title : String) (fields : Nat) : String :=
  s!"struct {title} with {fields} element" ++ (if fields = 1 then "" else "s")

/-- Reads a record with the given title and fields. -/
def Reader.record {α : Type} (title : String) (fs : List Field)
    (build : Filled fs → Except RecordFault α) : Reader α
  | .map ms => do
    let slots ← Slots.members fs (Slots.none fs) ms
    build (← Slots.complete fs slots)
  | .list ns => do
    build (← Filled.ofItems (expectedLength title fs.length) ns.length fs 0 ns)
  | .plain s =>
    if s.isEmpty then do build (← Slots.complete fs (Slots.none fs))
    else Reader.refuse s!"struct {title}" (.plain s)
  | n => Reader.refuse s!"struct {title}" n

end Interchange
