import Interchange.Proofs.Outcome
import Interchange.Record.Reader
/-!
# Reading records back

A record is read member by member, and each member finds its slot by its name alone.  So the order
of the members does not matter for a record that is read, and members that give every field by its
own name are read as what was given.  The other way round, whatever a record is read as was read
field by field, or stands for a field that was left out.

* `Slots.members_perm` — the order of members does not matter for what is read.
* `Filled.Gives`, `Reader.record_of_gives` — members that give every field.
* `Filled.FromReads`, `Reader.exists_fromReads` — what a record is read as.
* `Reader.int32_ofInt`, `Reader.list_map` — numbers and lists that are written and read back.
-/

namespace Interchange

variable {fs : List Field} {f : Field} {α : Type}

/-! ### The order of members -/

/-- The members of an object stand in its shape as they stand in the object. -/
theorem Shape.ofMembers_eq_map (ms : List (String × Value)) :
    ofMembers ms = ms.map fun m => (m.1, ofValue m.2) := by
  induction ms with
  | nil => rfl
  | cons m ms ih => rw [ofMembers, ih, List.map_cons]

theorem Shape.ofMembers_perm {ms ns : List (String × Value)} (perm : ms.Perm ns) :
    (ofMembers ms).Perm (ofMembers ns) := by
  rw [ofMembers_eq_map, ofMembers_eq_map]
  exact perm.map _

namespace Slots

variable {slots : Slots fs} {slot : Option f.Content} {out : Slots (f :: fs)} {key other : String}
  {m n : Shape}

/-- A member is read into the slot of the first field that answers to it, if that is empty. -/
theorem member_eq_ok_of_answersTo (answers : f.answersTo key = true) :
    member (f :: fs) (slot, slots) key n = .ok out ↔
      slot = Option.none ∧ ∃ x, f.read n = .ok x ∧ (some x, slots) = out := by
  have first : member (f :: fs) (slot, slots) key n = _ := if_pos answers
  rw [first]
  cases slot with
  | none => exact map_eq_ok.trans ⟨fun read => ⟨rfl, read⟩, fun read => read.2⟩
  | some x => exact ⟨nofun, nofun⟩

/-- A member that is not for the first field is read into the slots behind it. -/
theorem member_of_not_answersTo (other : f.answersTo key = false) :
    member (f :: fs) (slot, slots) key n = (member fs slots key n).map fun rest => (slot, rest) :=
  if_neg (by simp [other])

theorem member_eq_ok_of_not_answersTo (other : f.answersTo key = false) :
    member (f :: fs) (slot, slots) key n = .ok out ↔
      ∃ rest, member fs slots key n = .ok rest ∧ (slot, rest) = out := by
  rw [member_of_not_answersTo other]
  exact map_eq_ok

/-- Two members that are read one after the other may be read the other way round. -/
theorem member_comm {fs : List Field} {slots next out : Slots fs}
    (first : member fs slots key m = .ok next) (second : member fs next other n = .ok out) :
    ∃ mid, member fs slots other n = .ok mid ∧ member fs mid key m = .ok out := by
  induction fs with
  | nil => exact ⟨slots, second, first⟩
  | cons f fs ih =>
      obtain ⟨slot, slots⟩ := slots
      cases mine : f.answersTo key with
      | true =>
          obtain ⟨rfl, x, read, rfl⟩ := (member_eq_ok_of_answersTo mine).mp first
          cases yours : f.answersTo other with
          | true =>
              -- A field that two members are for is read once and then refused.
              obtain ⟨empty, -⟩ := (member_eq_ok_of_answersTo yours).mp second
              cases empty
          | false =>
              obtain ⟨rest, read', rfl⟩ := (member_eq_ok_of_not_answersTo yours).mp second
              exact ⟨(Option.none, rest), (member_eq_ok_of_not_answersTo yours).mpr ⟨rest, read', rfl⟩,
                (member_eq_ok_of_answersTo mine).mpr ⟨rfl, x, read, rfl⟩⟩
      | false =>
          obtain ⟨rest, read, rfl⟩ := (member_eq_ok_of_not_answersTo mine).mp first
          cases yours : f.answersTo other with
          | true =>
              obtain ⟨rfl, x, read', rfl⟩ := (member_eq_ok_of_answersTo yours).mp second
              exact ⟨(some x, slots), (member_eq_ok_of_answersTo yours).mpr ⟨rfl, x, read', rfl⟩,
                (member_eq_ok_of_not_answersTo mine).mpr ⟨rest, read, rfl⟩⟩
          | false =>
              obtain ⟨rest', read', rfl⟩ := (member_eq_ok_of_not_answersTo yours).mp second
              obtain ⟨mid, earlier, later⟩ := ih read read'
              exact ⟨(slot, mid), (member_eq_ok_of_not_answersTo yours).mpr ⟨mid, earlier, rfl⟩,
                (member_eq_ok_of_not_answersTo mine).mpr ⟨rest', later, rfl⟩⟩

/-- **The order of members does not matter** for a record that is read. -/
theorem members_perm {fs : List Field} {slots out : Slots fs} {ms ns : List (String × Shape)}
    (perm : ms.Perm ns) (read : members fs slots ms = .ok out) : members fs slots ns = .ok out := by
  induction perm generalizing slots with
  | nil => exact read
  | cons m _ ih =>
      obtain ⟨next, first, rest⟩ := bind_eq_ok.mp read
      exact bind_eq_ok.mpr ⟨next, first, ih rest⟩
  | swap m n ms =>
      obtain ⟨next, first, read⟩ := bind_eq_ok.mp read
      obtain ⟨last, second, rest⟩ := bind_eq_ok.mp read
      obtain ⟨mid, earlier, later⟩ := member_comm first second
      exact bind_eq_ok.mpr ⟨mid, earlier, bind_eq_ok.mpr ⟨last, later, rest⟩⟩
  | trans _ _ ih ih' => exact ih' (ih read)

/-! ### Members that give every field -/

/-- Members that are not for the first field are read into the slots behind it. -/
theorem members_of_not_answersTo {ms : List (String × Shape)}
    (others : ∀ m ∈ ms, f.answersTo m.1 = false) :
    members (f :: fs) (slot, slots) ms = (members fs slots ms).map fun rest => (slot, rest) := by
  induction ms generalizing slots with
  | nil => rfl
  | cons m ms ih =>
      obtain ⟨other, others⟩ := List.forall_mem_cons.mp others
      have first : members (f :: fs) (slot, slots) (m :: ms) =
          (member (f :: fs) (slot, slots) m.1 m.2 >>= fun s => members (f :: fs) s ms) := rfl
      have second : members fs slots (m :: ms) =
          (member fs slots m.1 m.2 >>= fun s => members fs s ms) := rfl
      rw [first, second, member_of_not_answersTo other]
      cases member fs slots m.1 m.2 with
      | error e => rfl
      | ok next => exact ih others

end Slots

namespace Filled

/-- **Members that give every field**, in the declared order and each by its own name. -/
inductive Gives : (fs : List Field) → Filled fs → List (String × Shape) → Prop
  | nil : Gives [] () []
  | cons {f : Field} {fs : List Field} {x : f.Content} {xs : Filled fs} {n : Shape}
      {ms : List (String × Shape)} (read : f.read n = .ok x) (rest : Gives fs xs ms) :
      Gives (f :: fs) (x, xs) ((f.name, n) :: ms)

theorem Gives.names {xs : Filled fs} {ms : List (String × Shape)} (gives : Gives fs xs ms) :
    ms.map Prod.fst = fs.map Field.name := by
  induction gives with
  | nil => rfl
  | cons _ _ ih => rw [List.map_cons, List.map_cons, ih]

end Filled

/-- No field answers to the name of one that is declared after it. -/
def Field.Apart (fs : List Field) : Prop := fs.Pairwise fun f g => f.answersTo g.name = false

instance Field.decidableApart (fs : List Field) : Decidable (Field.Apart fs) :=
  inferInstanceAs (Decidable (fs.Pairwise fun f g => f.answersTo g.name = false))

/-- Members that give every field fill all slots with what they give. -/
theorem Filled.Gives.exists_slots {xs : Filled fs} {ms : List (String × Shape)}
    (gives : Gives fs xs ms) (apart : Field.Apart fs) :
    ∃ slots, Slots.members fs (Slots.none fs) ms = .ok slots ∧
      Slots.complete fs slots = .ok xs := by
  induction gives with
  | nil => exact ⟨(), rfl, rfl⟩
  | @cons f fs x xs n ms read rest ih =>
      obtain ⟨other, apart⟩ := List.pairwise_cons.mp apart
      obtain ⟨slots, filled, completed⟩ := ih apart
      have others : ∀ m ∈ ms, f.answersTo m.1 = false := by
        intro m member
        have named : m.1 ∈ fs.map Field.name := rest.names ▸ List.mem_map_of_mem member
        obtain ⟨g, declared, same⟩ := List.mem_map.mp named
        exact same ▸ other g declared
      have mine : f.answersTo f.name = true := by simp [Field.answersTo]
      have first : Slots.member (f :: fs) (none, Slots.none fs) f.name n =
          .ok (some x, Slots.none fs) :=
        (Slots.member_eq_ok_of_answersTo mine).mpr ⟨rfl, x, read, rfl⟩
      refine ⟨(some x, slots), bind_eq_ok.mpr ⟨_, first, ?_⟩, ?_⟩
      · exact (Slots.members_of_not_answersTo others).trans (congrArg _ filled)
      · exact congrArg (Except.map fun rest => (x, rest)) completed

/-- **A record that gives every field is read as what it gives**, in whatever order its members
stand. -/
theorem Reader.record_of_gives {title : String} {build : Filled fs → Except RecordFault α}
    {xs : Filled fs} {ms ns : List (String × Shape)} {r : α} (gives : Filled.Gives fs xs ms)
    (apart : Field.Apart fs) (built : build xs = .ok r) (perm : ms.Perm ns) :
    record title fs build (.map ns) = .ok r := by
  obtain ⟨slots, filled, completed⟩ := gives.exists_slots apart
  have read := Slots.members_perm perm filled
  exact bind_eq_ok.mpr ⟨slots, read, bind_eq_ok.mpr ⟨xs, completed, built⟩⟩

/-! ### What a record is read as -/

/-- What a field holds was read off some document, or stands for a field that was left out. -/
def Field.FromRead (f : Field) (x : f.Content) : Prop :=
  (∃ n, f.read n = .ok x) ∨ f.whenAbsent = some x ∨ f.whenCut = some x

/-- What each field holds was read, or stands for a field that was left out. -/
def Filled.FromReads : (fs : List Field) → Filled fs → Prop
  | [], () => True
  | f :: fs, (x, xs) => f.FromRead x ∧ FromReads fs xs

/-- What stands in the slots was read. -/
def Slots.FromReads : (fs : List Field) → Slots fs → Prop
  | [], () => True
  | f :: fs, (slot, slots) => (∀ x, slot = some x → ∃ n, f.read n = .ok x) ∧ FromReads fs slots

namespace Slots

theorem fromReads_none : ∀ fs : List Field, FromReads fs (none fs)
  | [] => trivial
  | _ :: fs => ⟨nofun, fromReads_none fs⟩

/-- One member puts what was read into its slot. -/
theorem FromReads.member {fs : List Field} {slots out : Slots fs} {key : String} {n : Shape}
    (known : FromReads fs slots) (read : Slots.member fs slots key n = .ok out) :
    FromReads fs out := by
  induction fs with
  | nil => trivial
  | cons f fs ih =>
      obtain ⟨slot, slots⟩ := slots
      cases mine : f.answersTo key with
      | true =>
          obtain ⟨-, x, content, rfl⟩ := (member_eq_ok_of_answersTo mine).mp read
          exact ⟨fun y same => ⟨n, Option.some.inj same ▸ content⟩, known.2⟩
      | false =>
          obtain ⟨rest, behind, rfl⟩ := (member_eq_ok_of_not_answersTo mine).mp read
          exact ⟨known.1, ih known.2 behind⟩

theorem FromReads.members {fs : List Field} {slots out : Slots fs} {ms : List (String × Shape)}
    (known : FromReads fs slots) (read : Slots.members fs slots ms = .ok out) :
    FromReads fs out := by
  induction ms generalizing slots with
  | nil =>
      cases read
      exact known
  | cons m ms ih =>
      obtain ⟨next, first, rest⟩ := bind_eq_ok.mp read
      exact ih (known.member first) rest

theorem FromReads.complete {fs : List Field} {slots : Slots fs} {xs : Filled fs}
    (known : FromReads fs slots) (completed : Slots.complete fs slots = .ok xs) :
    Filled.FromReads fs xs := by
  induction fs with
  | nil => trivial
  | cons f fs ih =>
      obtain ⟨slot, slots⟩ := slots
      rw [Slots.complete] at completed
      cases slot with
      | some x =>
          obtain ⟨rest, behind, rfl⟩ := map_eq_ok.mp completed
          exact ⟨.inl (known.1 x rfl), ih known.2 behind⟩
      | none =>
          cases absent : f.whenAbsent with
          | none =>
              rw [absent] at completed
              cases completed
          | some x =>
              rw [absent] at completed
              obtain ⟨rest, behind, rfl⟩ := map_eq_ok.mp completed
              exact ⟨.inr (.inl absent), ih known.2 behind⟩

end Slots

/-- Items that are read as fields are what was read, up to where the list ends. -/
theorem Filled.fromReads_of_ofItems {expected : String} {total : Nat} {fs : List Field}
    {xs : Filled fs} {done : Nat} {ns : List Shape}
    (read : ofItems expected total fs done ns = .ok xs) : FromReads fs xs := by
  induction fs generalizing done ns with
  | nil => trivial
  | cons f fs ih =>
      cases ns with
      | nil =>
          rw [ofItems] at read
          cases cut : f.whenCut with
          | none =>
              rw [cut] at read
              cases read
          | some x =>
              rw [cut] at read
              obtain ⟨rest, behind, rfl⟩ := map_eq_ok.mp read
              exact ⟨.inr (.inr cut), ih behind⟩
      | cons n ns =>
          obtain ⟨x, first, read⟩ := bind_eq_ok.mp read
          obtain ⟨rest, behind, made⟩ := bind_eq_ok.mp read
          cases made
          exact ⟨.inl ⟨n, first⟩, ih behind⟩

/-- **What a record is read as** is built from fields that were read or left out. -/
theorem Reader.exists_fromReads {title : String} {build : Filled fs → Except RecordFault α}
    {n : Shape} {r : α} (read : record title fs build n = .ok r) :
    ∃ xs, Filled.FromReads fs xs ∧ build xs = .ok r := by
  have empty := Slots.fromReads_none fs
  cases n with
  | map ms =>
      obtain ⟨slots, filled, read⟩ := bind_eq_ok.mp read
      obtain ⟨xs, completed, built⟩ := bind_eq_ok.mp read
      exact ⟨xs, (empty.members filled).complete completed, built⟩
  | list ns =>
      obtain ⟨xs, filled, built⟩ := bind_eq_ok.mp read
      exact ⟨xs, Filled.fromReads_of_ofItems filled, built⟩
  | plain s =>
      rw [record] at read
      split at read
      · obtain ⟨xs, completed, built⟩ := bind_eq_ok.mp read
        exact ⟨xs, empty.complete completed, built⟩
      · cases read
  | _ => cases read

/-- A field that must be there was read. -/
theorem Field.FromRead.required {name : String} {r : Reader α} {alsoNamed : List String} {x : α}
    (known : (Field.required name r alsoNamed).FromRead x) : ∃ n, r n = .ok x := by
  obtain read | absent | cut := known
  · exact read
  · cases absent
  · cases cut

/-- A field with a value of its own was read, or it holds that value. -/
theorem Field.FromRead.default {name : String} {r : Reader α} {value : α} {alsoNamed : List String}
    {x : α} (known : (Field.default name r value alsoNamed).FromRead x) :
    (∃ n, r n = .ok x) ∨ x = value := by
  obtain read | absent | cut := known
  · exact .inl read
  · exact .inr (Option.some.inj absent).symm
  · exact .inr (Option.some.inj cut).symm

/-! ### Numbers and lists -/

/-- A 32-bit integer is read back from its number. -/
theorem Reader.int32_ofInt (n : Int32) : int32 (.ofValue (.ofInt n.toInt)) = .ok n := by
  have low := n.le_toInt
  have high := n.toInt_lt
  have word : -0x8000000000000000 ≤ n.toInt ∧ n.toInt < 0x10000000000000000 := by omega
  have written : Value.ofInt n.toInt = .num (.int n.toInt word) := by
    rw [Value.ofInt, Number.ofInt?, dif_pos word]
    rfl
  have read : integer (-0x80000000) 0x7FFFFFFF "i32" (.num (.int n.toInt word)) = .ok n.toInt :=
    if_pos (by omega)
  rw [written]
  show (integer (-0x80000000) 0x7FFFFFFF "i32" (.num (.int n.toInt word))).map Int32.ofInt = .ok n
  rw [read]
  exact congrArg Except.ok n.ofInt_toInt

/-- A list of written items is read back if each of them is. -/
theorem Reader.list_map {r : Reader α} {write : α → Value} {xs : List α}
    (back : ∀ x ∈ xs, r (.ofValue (write x)) = .ok x) :
    list r (.ofValue (.list (xs.map write))) = .ok xs := by
  show items r (Shape.ofItems (xs.map write)) = .ok xs
  induction xs with
  | nil => rfl
  | cons x xs ih =>
      obtain ⟨first, back⟩ := List.forall_mem_cons.mp back
      exact bind_eq_ok.mpr ⟨x, first, bind_eq_ok.mpr ⟨xs, ih back, rfl⟩⟩

theorem Reader.exists_of_mem_items {r : Reader α} {ns : List Shape} {xs : List α}
    (read : items r ns = .ok xs) : ∀ x ∈ xs, ∃ n, r n = .ok x := by
  induction ns generalizing xs with
  | nil =>
      cases read
      exact List.forall_mem_nil _
  | cons n ns ih =>
      obtain ⟨y, first, read⟩ := bind_eq_ok.mp read
      obtain ⟨ys, rest, made⟩ := bind_eq_ok.mp read
      cases made
      exact List.forall_mem_cons.mpr ⟨⟨n, first⟩, ih rest⟩

/-- Each item of a list that is read was read. -/
theorem Reader.exists_of_mem_list {r : Reader α} {n : Shape} {xs : List α}
    (read : list r n = .ok xs) : ∀ x ∈ xs, ∃ m, r m = .ok x := by
  cases n with
  | list ns => exact exists_of_mem_items read
  | plain s =>
      rw [list] at read
      split at read
      · cases read
        exact List.forall_mem_nil _
      · cases read
  | _ => cases read

/-- What holds of all that is read holds of the items of a list that was read or left out. -/
theorem Field.FromRead.forall_mem {name : String} {r : Reader α} {P : α → Prop}
    {xs : List α} (known : (Field.default name (Reader.list r) []).FromRead xs)
    (property : ∀ {n x}, r n = .ok x → P x) : ∀ x ∈ xs, P x := by
  obtain ⟨n, read⟩ | rfl := known.default
  · intro x member
    obtain ⟨m, item⟩ := Reader.exists_of_mem_list read x member
    exact property item
  · exact List.forall_mem_nil _

end Interchange
