import Interchange.Proofs.Path.Frame
import Interchange.Proofs.Path.Leaves
import Interchange.Proofs.Value.InOrder
/-!
# Merging loses and invents nothing

A patch is merged into a document along chains of object keys.  Under each key the patch either has
nothing, and the document keeps what it has, or it has a value, which is merged into the one that
the document has there; a missing value counts as null in this, since merging replaces a null.  So
merging is told key by key, and everything else follows along a chain.

* `Value.memberAt?` — what stands at the end of a chain of keys.
* `Value.member?_merge_of_some`, `Value.member?_merge_of_none` — one key of a merged document.
* `Value.merge_merge` — merging the same patch again changes nothing.
* `Value.MergesTo`, `Value.merge_mergesTo` — what is promised of merging, and that it is kept.
-/

namespace Interchange

namespace Value

/-- What stands at the end of a chain of object keys. -/
def memberAt? (v : Value) : List String → Option Value
  | [] => some v
  | key :: keys => (v.member? key).bind fun c => memberAt? c keys

variable {t p x : Value} {ts ps : List (String × Value)} {key : String} {q a : List String}

/-! ### One key -/

theorem merge_of_patch_not_object (plain : p.isObject = false) (t : Value) : t.merge p = p := by
  cases p with
  | obj ps => cases plain
  | _ => cases t <;> simp [merge]

/-- Only objects have members. -/
theorem exists_obj_of_member? (present : p.member? key = some x) :
    ∃ ps, p = obj ps ∧ Table.get? key ps = some x := by
  cases p with
  | obj ps => exact ⟨ps, rfl, present⟩
  | _ => cases present

/-- A member that the patch has is merged into the one of the document. -/
theorem member?_merge_of_some (sorted : Table.Sorted ps) (found : Table.get? key ps = some p)
    (t : Value) :
    (t.merge (obj ps)).member? key = some (((t.member? key).getD null).merge p) := by
  have missing : null.merge p = p := merge_of_not_object rfl p
  cases t with
  | obj ts =>
      rw [merge, member?, member?, get?_mergeMembers sorted, found]
      cases Table.get? key ts with
      | none => exact congrArg some missing.symm
      | some c => rfl
  | _ =>
      rw [merge_of_not_object rfl, member?, found]
      exact congrArg some missing.symm

/-- A member that the patch does not have stays as it is in the document. -/
theorem member?_merge_of_none (sorted : Table.Sorted ps) (absent : Table.get? key ps = none)
    (t : Value) : (t.merge (obj ps)).member? key = t.member? key := by
  cases t with
  | obj ts => rw [merge, member?, member?, get?_mergeMembers sorted, absent]
  | _ =>
      rw [merge_of_not_object rfl, member?, absent]
      rfl

theorem exists_obj_of_merge (t : Value) (ps : List (String × Value)) :
    ∃ ms, t.merge (obj ps) = obj ms := by
  cases t with
  | obj ts => exact ⟨_, by rw [merge]⟩
  | _ => exact ⟨ps, merge_of_not_object rfl _⟩

/-! ### Along a chain -/

/-- What the patch holds is held. -/
theorem memberAt?_merge_of_patch (ordered : p.InOrder) (held : p.memberAt? q = some x)
    (plain : x.isObject = false) (t : Value) : (t.merge p).memberAt? q = some x := by
  induction q generalizing t p with
  | nil =>
      cases held
      rw [merge_of_patch_not_object plain, memberAt?]
  | cons key q ih =>
      obtain ⟨c, present, below⟩ := Option.bind_eq_some_iff.mp held
      obtain ⟨ps, rfl, found⟩ := exists_obj_of_member? present
      have inside := membersInOrder_iff.mp ordered.2 _ (Table.mem_of_get? found)
      rw [memberAt?, member?_merge_of_some ordered.1 found, Option.bind_some, ih inside below]

/-- What the patch has nothing for is kept. -/
theorem memberAt?_merge_of_document (ordered : p.InOrder) (target : t.memberAt? a = some (obj ts))
    (patch : p.memberAt? a = some (obj ps)) (absent : Table.get? key ps = none)
    (rest : List String) :
    (t.merge p).memberAt? (a ++ key :: rest) = t.memberAt? (a ++ key :: rest) := by
  induction a generalizing t p with
  | nil =>
      cases patch
      rw [List.nil_append, memberAt?, member?_merge_of_none ordered.1 absent, memberAt?]
  | cons k a ih =>
      obtain ⟨c, presentT, belowT⟩ := Option.bind_eq_some_iff.mp target
      obtain ⟨d, presentP, belowP⟩ := Option.bind_eq_some_iff.mp patch
      obtain ⟨ns, rfl, found⟩ := exists_obj_of_member? presentP
      have inside := membersInOrder_iff.mp ordered.2 _ (Table.mem_of_get? found)
      rw [List.cons_append, memberAt?, member?_merge_of_some ordered.1 found, presentT,
        Option.bind_some, Option.getD_some, ih inside belowT belowP, memberAt?, presentT,
        Option.bind_some]

/-- A value without members is taken from the document or from the patch, and stands where it
stood. -/
theorem memberAt?_of_merge (ordered : p.InOrder) (held : (t.merge p).memberAt? q = some x)
    (bare : ∀ key, x.member? key = none) : t.memberAt? q = some x ∨ p.memberAt? q = some x := by
  induction q generalizing t p with
  | nil =>
      obtain rfl : t.merge p = x := Option.some.inj held
      cases p with
      | obj ps =>
          cases ps with
          | nil =>
              cases t with
              | obj ts => exact .inl (by rw [merge, mergeMembers, memberAt?])
              | _ => exact .inr (by rw [merge_of_not_object rfl, memberAt?])
          | cons m ps =>
              have found : Table.get? m.1 (m :: ps) = some m.2 := if_pos rfl
              have present := member?_merge_of_some ordered.1 found t
              rw [bare] at present
              cases present
      | _ => exact .inr (by rw [merge_of_patch_not_object rfl, memberAt?])
  | cons key q ih =>
      cases p with
      | obj ps =>
          cases found : Table.get? key ps with
          | none =>
              rw [memberAt?, member?_merge_of_none ordered.1 found] at held
              exact .inl held
          | some c =>
              have inside := membersInOrder_iff.mp ordered.2 _ (Table.mem_of_get? found)
              rw [memberAt?, member?_merge_of_some ordered.1 found, Option.bind_some] at held
              rw [memberAt?, memberAt?, member?.eq_1, found, Option.bind_some]
              cases present : t.member? key with
              | none =>
                  rw [present, Option.getD_none, merge_of_not_object rfl] at held
                  exact .inr held
              | some b =>
                  rw [present] at held
                  exact ih inside held
      | _ =>
          rw [merge_of_patch_not_object rfl] at held
          exact .inr held

/-! ### Leaves -/

mutual

/-- Each leaf of a merged document is a leaf of the document or of the patch, in its own place. -/
theorem mem_leaves_of_merge : ∀ {p t : Value}, ∀ l ∈ (t.merge p).leaves,
    l ∈ t.leaves ∨ l ∈ p.leaves
  | obj ps, t, l, member => by
    cases t with
    | obj ts =>
        rw [merge, leaves] at member
        rw [leaves, leaves]
        exact mem_memberLeaves_of_merge l member
    | _ => exact .inr (by rwa [merge_of_not_object rfl] at member)
  | null, t, l, member | bool _, t, l, member | num _, t, l, member | str _, t, l, member
  | list _, t, l, member => .inr (by rwa [merge_of_patch_not_object rfl] at member)

theorem mem_memberLeaves_of_merge : ∀ {ps ts : List (String × Value)},
    ∀ l ∈ memberLeaves (mergeMembers ts ps), l ∈ memberLeaves ts ∨ l ∈ memberLeaves ps
  | [], ts, l, member => .inl (by rwa [mergeMembers] at member)
  | (key, p) :: ps, ts, l, member => by
    have fromPatch : ∀ below ∈ p.leaves,
        (.key key :: below.1, below.2) ∈ memberLeaves ((key, p) :: ps) := by
      intro below inside
      exact mem_memberLeaves_iff.mpr ⟨(key, p), List.mem_cons_self, below, inside, rfl⟩
    rw [mergeMembers] at member
    rcases mem_memberLeaves_of_merge l member with written | later
    · obtain ⟨m, stored, below, inside, rfl⟩ := mem_memberLeaves_iff.mp written
      rcases Table.mem_put stored with rfl | before
      · -- The member that was written is the patch's, or it was merged into the document's.
        dsimp only at inside
        split at inside
        · next t found =>
            split at inside
            · rcases mem_leaves_of_merge below inside with old | new
              · exact .inl (mem_memberLeaves_iff.mpr
                  ⟨(key, t), Table.mem_of_get? found, below, old, rfl⟩)
              · exact .inr (fromPatch below new)
            · exact .inr (fromPatch below inside)
        · exact .inr (fromPatch below inside)
      · exact .inl (mem_memberLeaves_iff.mpr ⟨m, before, below, inside, rfl⟩)
    · refine .inr ?_
      rw [memberLeaves]
      exact List.mem_append_right _ later

end

/-! ### Merging again -/

/-- Members that are merged into what they have become change nothing. -/
theorem mergeMembers_eq_self {ms : List (String × Value)}
    (settled : ∀ m ∈ ps, ∃ v, Table.get? m.1 ms = some v ∧ v.merge m.2 = v) :
    mergeMembers ms ps = ms := by
  induction ps with
  | nil => rw [mergeMembers]
  | cons m ps ih =>
      obtain ⟨⟨v, found, same⟩, settled⟩ := List.forall_mem_cons.mp settled
      have merged : (if v.isObject then v.merge m.2 else m.2) = v := by
        cases object : v.isObject with
        | true => rw [if_pos rfl, same]
        | false => rw [if_neg Bool.false_ne_true, ← same, merge_of_not_object object]
      rw [mergeMembers, found]
      dsimp only
      rw [merged, Table.put_of_get? found, ih settled]

mutual

/-- **Merging the same patch again** changes nothing. -/
theorem merge_merge : ∀ {p : Value}, p.InOrder → ∀ t : Value, (t.merge p).merge p = t.merge p
  | obj ps, ordered, t => by
    obtain ⟨ms, merged⟩ := exists_obj_of_merge t ps
    have settled : ∀ m ∈ ps, ∃ v, Table.get? m.1 ms = some v ∧ v.merge m.2 = v := by
      intro m member
      have present := member?_merge_of_some ordered.1 (ordered.1.get?_of_mem member) t
      rw [merged, member?] at present
      exact ⟨_, present, merge_merge_of_mem ordered.2 m member _⟩
    rw [merged, merge, mergeMembers_eq_self settled]
  | null, _, t | bool _, _, t | num _, _, t | str _, _, t | list _, _, t => by
    rw [merge_of_patch_not_object rfl, merge_of_patch_not_object rfl]

theorem merge_merge_of_mem : ∀ {ps : List (String × Value)}, MembersInOrder ps → ∀ m ∈ ps,
    ∀ t : Value, (t.merge m.2).merge m.2 = t.merge m.2
  | [], _, m, member, t => by cases member
  | (key, p) :: ps, ordered, m, member, t => by
    rcases List.mem_cons.mp member with rfl | later
    · exact merge_merge ordered.1 t
    · exact merge_merge_of_mem ordered.2 m later t

end

/-! ### The promise -/

/-- **What is promised of merging** a patch into a document, with the document that comes of it. -/
structure MergesTo (t p m : Value) : Prop where
  /-- What the patch holds at the end of a chain, other than an object, is held there. -/
  patched : ∀ q x, p.memberAt? q = some x → x.isObject = false → m.memberAt? q = some x
  /-- Behind a key that the patch lacks, in an object where the document has an object too, all is
  as it was in the document. -/
  kept : ∀ a ts ps key rest, t.memberAt? a = some (obj ts) → p.memberAt? a = some (obj ps) →
    Table.get? key ps = none →
      m.memberAt? (a ++ key :: rest) = t.memberAt? (a ++ key :: rest)
  /-- A value without members stands where it stood in the document or in the patch. -/
  bare : ∀ q x, m.memberAt? q = some x → (∀ key, x.member? key = none) →
    t.memberAt? q = some x ∨ p.memberAt? q = some x
  /-- So does every leaf, also one inside of lists. -/
  leaf : ∀ l ∈ m.leaves, l ∈ t.leaves ∨ l ∈ p.leaves
  /-- Merging the patch again changes nothing. -/
  settled : m.merge p = m

/-- **Merging loses and invents nothing**, for every document and every patch in order. -/
theorem merge_mergesTo (ordered : p.InOrder) (t : Value) : MergesTo t p (t.merge p) where
  patched _ _ held plain := memberAt?_merge_of_patch ordered held plain t
  kept _ _ _ _ rest target patch absent :=
    memberAt?_merge_of_document ordered target patch absent rest
  bare _ _ held bare := memberAt?_of_merge ordered held bare
  leaf := mem_leaves_of_merge
  settled := merge_merge ordered t

/-- A policy gets a term, loses its list of drivers to a name, and keeps its number. -/
theorem policy_merged :
    let t := Value.obj [("keep", .bool true), ("policy", .obj
      [("drivers", .list [.str "Ann", .str "Bo"]), ("id", .str "Q-1"), ("insured", .obj [])])]
    let p := Value.obj [("keep", .bool false), ("policy", .obj
      [("drivers", .str "Cy"), ("insured", .obj [("name", .str "Acme")]), ("term", .null)])]
    let m := Value.obj [("keep", .bool false), ("policy", .obj
      [("drivers", .str "Cy"), ("id", .str "Q-1"), ("insured", .obj [("name", .str "Acme")]),
        ("term", .null)])]
    p.InOrder ∧ MergesTo t p m := by
  intro t p m
  have ordered : p.InOrder := by decide +kernel
  have merged : t.merge p = m := by decide +kernel
  exact ⟨ordered, merged ▸ merge_mergesTo ordered t⟩

end Value

end Interchange
