import Interchange.Http.Invoke
import Interchange.Proofs.Text.Replacing
import Mathlib.Logic.Basic
/-!
# References to the environment

A header is a template: characters that stand for themselves, and references to variables.  It would
be resolved in one pass if each reference were replaced where it stands.  But the names are read off
the template, and then each reference is replaced wherever it is found in a text that earlier
replacements have already changed.  What a value brings along is hence replaced as well.

* `IsCut` — the parts of a template: its references from the left, and all other characters.
* `onePass` — the template with each reference replaced by its value.
* `Undisturbed` — at its turn, each reference is found at its own places alone.
* `expand_onePass` — templates that fail, and templates and values that are resolved in one pass.
-/

namespace Interchange.Environment

/-! ### Templates -/

/-- A part of a template. -/
inductive Part where
  | plain (c : Char)
  | reference (name : String)
deriving DecidableEq

/-- The characters of a part. -/
def Part.spelling : Part → List Char
  | .plain c => [c]
  | .reference name => (Environment.reference name).toList

/-- The characters of a template. -/
def spell (ps : List Part) : List Char := ps.flatMap Part.spelling

/-- The name in a reference. -/
def Part.name? : Part → Option String
  | .plain _ => none
  | .reference name => some name

/-- The names in the references of a template, from the left. -/
def names (ps : List Part) : List String := ps.filterMap Part.name?

/-- A name that can stand in a reference. -/
def IsName (name : String) : Prop := name ≠ "" ∧ '\x7d' ∉ name.toList

/-- A reference begins here. -/
def BeginsReference (cs : List Char) : Prop :=
  ∃ name, IsName name ∧ (reference name).toList <+: cs

/-- **The parts of a template.** A reference is taken where one begins, and no other one within it;
any other character stands for itself. -/
inductive IsCut : List Char → List Part → Prop
  | nil : IsCut [] []
  | reference {name : String} {rest : List Char} {ps : List Part} (named : IsName name)
      (after : IsCut rest ps) :
      IsCut ((Environment.reference name).toList ++ rest) (.reference name :: ps)
  | plain {c : Char} {cs : List Char} {ps : List Part} (elsewhere : ¬ BeginsReference (c :: cs))
      (after : IsCut cs ps) : IsCut (c :: cs) (.plain c :: ps)

/-- Reads the parts of a text; `skip` characters belong to a reference that was found before. -/
def parts : (skip : Nat) → List Char → List Part
  | _, [] => []
  | skip + 1, _ :: cs => parts skip cs
  | 0, c :: cs =>
    match referenceAt? (c :: cs) with
    | some name => .reference (String.ofList name) :: parts (opening.length + name.length) cs
    | none => .plain c :: parts 0 cs

/-- The parts of a header value. -/
def template (s : String) : List Part := parts 0 s.toList

/-- A part with the references written out that have a value. -/
def Part.fill (env : Environment) : Part → List Part
  | .plain c => [.plain c]
  | .reference name =>
    match env name with
    | some v => v.toList.map .plain
    | none => [.reference name]

/-- A template with the references written out that have a value. -/
def fill (env : Environment) (ps : List Part) : List Part := ps.flatMap (Part.fill env)

/-- **One pass over a header value**: each reference is replaced where it stands. -/
def onePass (env : Environment) (s : String) : String :=
  String.ofList (spell (fill env (template s)))

/-- An environment with nothing but some of the variables. -/
def within (env : Environment) (done : List String) : Environment :=
  fun name => if name ∈ done then env name else none

/-- The reference is found in a template at the references to this name alone: between them it is
not to be read. -/
def Clear (name : String) (ps : List Part) : Prop :=
  ∀ stretch, stretch <:+: ps → .reference name ∉ stretch →
    ¬ (reference name).toList <:+: spell stretch

/-- **No reference disturbs another**: when the turn comes to a name, and the references before it
are written out, it is found at its own references alone. -/
def Undisturbed (env : Environment) (s : String) : Prop :=
  ∀ done name rest, names (template s) = done ++ name :: rest →
    Clear name (fill (env.within done) (template s))

section Spelling

variable {name other : String} {p : Part} {ps : List Part} {c : Char} {cs : List Char}

@[simp] theorem spell_nil : spell [] = [] := rfl

@[simp] theorem spell_plain_cons : spell (.plain c :: ps) = c :: spell ps := rfl

@[simp] theorem spell_reference_cons :
    spell (.reference name :: ps) = (reference name).toList ++ spell ps := rfl

@[simp] theorem spell_append (ps qs : List Part) : spell (ps ++ qs) = spell ps ++ spell qs :=
  List.flatMap_append

@[simp] theorem spell_map_plain (cs : List Char) : spell (cs.map .plain) = cs := by
  induction cs with
  | nil => rfl
  | cons c cs ih => rw [List.map_cons, spell_plain_cons, ih]

@[simp] theorem names_plain_cons : names (.plain c :: ps) = names ps := rfl

@[simp] theorem names_reference_cons : names (.reference name :: ps) = name :: names ps := rfl

theorem names_append (ps qs : List Part) : names (ps ++ qs) = names ps ++ names qs :=
  List.filterMap_append

theorem mem_names_iff : name ∈ names ps ↔ .reference name ∈ ps := by
  simp only [names, List.mem_filterMap]
  constructor
  · rintro ⟨_ | _, found, named⟩
    · cases named
    · cases named
      exact found
  · exact fun found => ⟨_, found, rfl⟩

/-! ### The text of a reference -/

theorem reference_toList (name : String) :
    (reference name).toList = opening ++ name.toList ++ ['\x7d'] :=
  String.toList_ofList

theorem reference_ne_nil (name : String) : (reference name).toList ≠ [] := by
  simp [reference_toList]

theorem unbordered_reference (named : IsName name) : Text.Unbordered (reference name).toList := by
  rw [reference_toList]
  refine Text.unbordered_concat ?_
  rw [List.mem_append, not_or]
  exact ⟨by decide, named.2⟩

/-- A reference closes once. -/
theorem countP_reference (named : IsName name) :
    (reference name).toList.countP (· = '\x7d') = 1 := by
  have open' : name.toList.countP (· = '\x7d') = 0 :=
    List.countP_eq_zero.mpr fun c inside closed => named.2 (of_decide_eq_true closed ▸ inside)
  rw [reference_toList, List.countP_append, List.countP_append, open']
  decide

/-- What stands up to the closing brace is the name. -/
theorem takeWhile_name (named : IsName name) (rest : List Char) :
    (name.toList ++ '\x7d' :: rest).takeWhile (· ≠ '\x7d') = name.toList := by
  rw [List.takeWhile_append_of_pos, List.takeWhile_cons_of_neg (by simp), List.append_nil]
  exact fun c inside => decide_eq_true fun closed => named.2 (closed ▸ inside)

/-- A text has one reference at its beginning at most. -/
theorem reference_unique (named : IsName name) (named' : IsName other) {rest : List Char}
    (begun : (reference name).toList <+: (reference other).toList ++ rest) : name = other := by
  obtain ⟨more, same⟩ := begun
  simp only [reference_toList, List.append_assoc, List.append_cancel_left_eq, List.cons_append,
    List.nil_append] at same
  have whole := congrArg (List.takeWhile (· ≠ '\x7d')) same
  rw [takeWhile_name named, takeWhile_name named'] at whole
  exact String.toList_injective whole

end Spelling

/-! ### Reading a template -/

section Reading

variable {name : String} {ps : List Part} {c : Char} {cs rest : List Char}

/-- The search finds the reference that a text begins with. -/
theorem referenceAt?_eq_some_iff {found : List Char} :
    referenceAt? cs = some found ↔
      IsName (String.ofList found) ∧ (reference (String.ofList found)).toList <+: cs := by
  rw [reference_toList, IsName, String.toList_ofList, referenceAt?, Option.bind_eq_some_iff]
  simp only [Text.stripLead_eq_some_iff]
  constructor
  · rintro ⟨rest, rfl, picked⟩
    split at picked
    · cases picked
    · next closes =>
        cases picked
        rw [Bool.or_eq_true, not_or, List.isEmpty_iff, decide_eq_true_eq] at closes
        have whole := List.takeWhile_append_dropWhile (p := (· ≠ '\x7d')) (l := rest)
        cases after : rest.dropWhile (· ≠ '\x7d') with
        | nil =>
            rw [after, List.append_nil] at whole
            exact absurd (congrArg List.length whole) closes.2
        | cons d more =>
            have brace := List.head_dropWhile_not (· ≠ '\x7d') (l := rest) (by rw [after]; simp)
            simp only [after, List.head_cons, decide_eq_false_iff_not, not_not] at brace
            refine ⟨⟨by simpa using closes.1, fun inside => ?_⟩, more, ?_⟩
            · simpa using List.all_eq_true.mp List.all_takeWhile _ inside
            · rw [List.append_assoc, List.append_assoc, List.singleton_append]
              exact congrArg (opening ++ ·) (by rw [← brace, ← after, brace, whole])
  · rintro ⟨⟨filled, closed⟩, more, rfl⟩
    have whole : (found ++ '\x7d' :: more).takeWhile (· ≠ '\x7d') = found := by
      have named : IsName (String.ofList found) := ⟨filled, by simpa using closed⟩
      simpa using takeWhile_name named more
    refine ⟨found ++ '\x7d' :: more, by simp, ?_⟩
    rw [whole, if_neg]
    simpa using filled

/-- A text has one cut. -/
theorem IsCut.unique {qs : List Part} (left : IsCut cs ps) (right : IsCut cs qs) : ps = qs := by
  induction left generalizing qs with
  | nil =>
      generalize start : ([] : List Char) = cs at right
      cases right with
      | nil => rfl
      | reference => exact absurd (List.append_eq_nil_iff.mp start.symm).1 (reference_ne_nil _)
      | plain => cases start
  | @reference name rest ps named after ih =>
      generalize start : (Environment.reference name).toList ++ rest = cs at right
      cases right with
      | nil => exact absurd (List.append_eq_nil_iff.mp start).1 (reference_ne_nil _)
      | reference named' after' =>
          obtain rfl := reference_unique named named' ⟨rest, start⟩
          rw [List.append_cancel_left_eq] at start
          subst start
          rw [ih after']
      | plain elsewhere => exact absurd ⟨name, named, rest, start⟩ elsewhere
  | @plain c cs ps elsewhere after ih =>
      generalize start : c :: cs = cs' at right
      cases right with
      | nil => cases start
      | reference named => exact absurd ⟨_, named, _, start.symm⟩ elsewhere
      | plain _ after' =>
          cases start
          rw [ih after']

theorem isCut_parts (skip : Nat) (cs : List Char) : IsCut (cs.drop skip) (parts skip cs) := by
  fun_induction parts skip cs with
  | case1 => rw [List.drop_nil]; exact .nil
  | case2 skip c cs ih => exact ih
  | case3 c cs found here ih =>
      obtain ⟨named, rest, begun⟩ := referenceAt?_eq_some_iff.mp here
      have passed : cs.drop (opening.length + found.length) = rest := by
        rw [← List.drop_succ_cons, ← begun]
        refine List.drop_left' ?_
        simp only [reference_toList, String.toList_ofList, List.length_append,
          List.length_singleton]
      rw [List.drop_zero, ← begun]
      exact .reference named (passed ▸ ih)
  | case4 c cs none_found ih =>
      refine .plain ?_ ih
      rintro ⟨name, named, begun⟩
      have found : referenceAt? (c :: cs) = some name.toList := by
        rw [referenceAt?_eq_some_iff, String.ofList_toList]
        exact ⟨named, begun⟩
      rw [found] at none_found
      cases none_found

/-- **Reading a text finds its cut.** -/
theorem isCut_iff : IsCut cs ps ↔ ps = parts 0 cs :=
  ⟨fun cut => cut.unique (isCut_parts 0 cs), fun same => same ▸ isCut_parts 0 cs⟩

theorem isCut_template (s : String) : IsCut s.toList (template s) := isCut_iff.mpr rfl

/-- The parts make up the text. -/
theorem IsCut.spell_eq (cut : IsCut cs ps) : spell ps = cs := by
  induction cut with
  | nil => rfl
  | reference _ _ ih => rw [spell_reference_cons, ih]
  | plain _ _ ih => rw [spell_plain_cons, ih]

theorem IsCut.isName (cut : IsCut cs ps) : ∀ name ∈ names ps, IsName name := by
  induction cut with
  | nil => exact List.forall_mem_nil _
  | reference named _ ih => exact List.forall_mem_cons.mpr ⟨named, ih⟩
  | plain _ _ ih => exact ih

theorem IsCut.of_append {front : List Part} (cut : IsCut cs (front ++ ps)) :
    IsCut (spell ps) ps := by
  induction front generalizing cs with
  | nil => exact cut.spell_eq.symm ▸ cut
  | cons p front ih =>
      cases cut with
      | reference _ after => exact ih after
      | plain _ after => exact ih after

/-- In a stretch of a text without references, none is to be read. -/
theorem IsCut.not_infix_of_names_eq_nil {stretch : List Part} (cut : IsCut cs (stretch ++ ps))
    (without : names stretch = []) (named : IsName name) :
    ¬ (Environment.reference name).toList <:+: spell stretch := by
  induction stretch generalizing cs with
  | nil => simpa using reference_ne_nil name
  | cons p stretch ih =>
      cases cut with
      | reference => cases without
      | plain elsewhere after =>
          rw [spell_plain_cons, List.infix_cons_iff, not_or]
          refine ⟨fun begun => elsewhere ⟨name, named, ?_⟩, ih after without⟩
          rw [← after.spell_eq]
          exact begun.trans ⟨spell ps, congrArg (_ :: ·) (spell_append stretch ps).symm⟩

/-- The names of the references are those that are read off the text. -/
theorem names_parts (skip : Nat) (cs : List Char) :
    names (parts skip cs) = (references skip cs).map String.ofList := by
  fun_induction parts skip cs with
  | case1 => simp [references, names]
  | case2 skip c cs ih => rw [references, ih]
  | case3 c cs name found ih =>
      simp only [references, found, names_reference_cons, ih, List.map_cons]
  | case4 c cs found ih => simp only [references, found, names_plain_cons, ih]

theorem expand_eq_resolve (env : Environment) (s : String) :
    env.expand s = resolve env (names (template s)) s := by
  rw [expand, template, names_parts]

end Reading

/-! ### Writing references out -/

section Filling

variable {env : Environment} {name v : String} {ps : List Part}

/-- An environment with one variable. -/
def only (name v : String) : Environment := fun other => if other = name then some v else none

@[simp] theorem fill_plain_cons (c : Char) :
    fill env (.plain c :: ps) = .plain c :: fill env ps := rfl

theorem fill_reference_cons_of_some (set : env name = some v) :
    fill env (.reference name :: ps) = v.toList.map .plain ++ fill env ps := by
  rw [fill, List.flatMap_cons, Part.fill, set, ← fill]

theorem fill_reference_cons_of_none (unset : env name = none) :
    fill env (.reference name :: ps) = .reference name :: fill env ps := by
  rw [fill, List.flatMap_cons, Part.fill, unset, ← fill, List.singleton_append]

theorem fill_append (ps qs : List Part) : fill env (ps ++ qs) = fill env ps ++ fill env qs :=
  List.flatMap_append

@[simp] theorem fill_map_plain (cs : List Char) : fill env (cs.map .plain) = cs.map .plain := by
  induction cs with
  | nil => rfl
  | cons c cs ih => rw [List.map_cons, fill_plain_cons, ih]

/-- Templates are filled in the same way by environments that agree on their names. -/
theorem fill_congr (other : Environment) (same : ∀ name ∈ names ps, env name = other name) :
    fill env ps = fill other ps := by
  refine List.flatMap_congr fun p inside => ?_
  cases p with
  | plain c => rfl
  | reference name => rw [Part.fill, Part.fill, same name (mem_names_iff.mpr inside)]

/-- What no environment says anything about stays. -/
theorem fill_of_forall_eq_none (unset : ∀ name ∈ names ps, env name = none) : fill env ps = ps := by
  rw [fill_congr (fun _ => none) unset]
  exact (List.flatMap_congr fun p _ => by cases p <;> rfl).trans (List.flatMap_singleton' ps)

theorem fill_within_nil (env : Environment) (ps : List Part) : fill (env.within []) ps = ps :=
  fill_of_forall_eq_none fun _ _ => if_neg List.not_mem_nil

/-- Filling twice is filling once, by the first environment that has the variable. -/
theorem fill_fill (env other : Environment) (ps : List Part) :
    fill other (fill env ps) = fill (fun name => (env name).or (other name)) ps := by
  induction ps with
  | nil => rfl
  | cons p ps ih =>
      cases p with
      | plain c => rw [fill_plain_cons, fill_plain_cons, fill_plain_cons, ih]
      | reference name =>
          cases set : env name with
          | some v =>
              rw [fill_reference_cons_of_some set, fill_append, fill_map_plain, ih,
                fill_reference_cons_of_some (by rw [set, Option.some_or])]
          | none =>
              rw [fill_reference_cons_of_none set]
              cases set' : other name with
              | some v =>
                  rw [fill_reference_cons_of_some set', ih,
                    fill_reference_cons_of_some (by rw [set, set', Option.none_or])]
              | none =>
                  rw [fill_reference_cons_of_none set', ih,
                    fill_reference_cons_of_none (by rw [set, set', Option.none_or])]

theorem Clear.of_append {before after : List Part} (clear : Clear name (before ++ after)) :
    Clear name before ∧ Clear name after :=
  ⟨fun stretch inside => clear stretch (inside.trans (List.infix_append' [] before after)),
    fun stretch inside => clear stretch (inside.trans (List.suffix_append before after).isInfix)⟩

/-- **Replacing a reference that is to be read at its own places alone** writes it out there. -/
theorem replaceList_of_clear (named : IsName name) (v : String) :
    ∀ {ps : List Part}, Clear name ps →
      Text.replaceList (reference name).toList v.toList 0 (spell ps) = spell (fill (only name v) ps)
  | ps, clear => by
      have stays {stretch : List Part} (without : .reference name ∉ stretch) :
          fill (only name v) stretch = stretch :=
        fill_of_forall_eq_none fun other inside =>
          if_neg fun same => without (mem_names_iff.mp (same ▸ inside))
      by_cases inside : .reference name ∈ ps
      · obtain ⟨before, after, split, first⟩ := List.eq_append_cons_of_mem inside
        have shorter : after.length < ps.length := by
          rw [split, List.length_append, List.length_cons]
          omega
        subst split
        have clear' : Clear name ([.reference name] ++ after) := clear.of_append.2
        rw [spell_append, spell_reference_cons,
          Text.replaceList_append_of_unbordered (unbordered_reference named)
            (reference_ne_nil name),
          Text.replaceList_of_not_infix _ (clear.of_append.1 before (List.infix_refl _) first),
          replaceList_of_clear named v clear'.of_append.2, fill_append, stays first,
          fill_reference_cons_of_some (if_pos rfl), spell_append, spell_append, spell_map_plain]
      · rw [Text.replaceList_of_not_infix _ (clear ps (List.infix_refl ps) inside), stays inside]
  termination_by ps => ps.length

/-- Writing out one reference more. -/
theorem fill_within_concat (env : Environment) (done : List String) (set : env name = some v)
    (ps : List Part) :
    fill (only name v) (fill (env.within done) ps) = fill (env.within (done ++ [name])) ps := by
  rw [fill_fill]
  refine fill_congr _ fun other _ => ?_
  by_cases here : other = name
  · subst here
    simp only [within, only, List.mem_append, List.mem_singleton, if_true, or_true, set]
    split <;> rfl
  · simp [within, only, here]

/-- **The references are written out one after the other.** -/
theorem resolve_of_clear (isName : ∀ name ∈ names ps, IsName name)
    (set : ∀ name ∈ names ps, env name ≠ none)
    (clear : ∀ done name rest, names ps = done ++ name :: rest →
      Clear name (fill (env.within done) ps)) (todo : List String) :
    ∀ done, names ps = done ++ todo →
      resolve env todo (String.ofList (spell (fill (env.within done) ps))) =
        .ok (String.ofList (spell (fill env ps))) := by
  induction todo with
  | nil =>
      intro done all
      rw [List.append_nil] at all
      have known : fill (env.within done) ps = fill env ps :=
        fill_congr env fun name inside => if_pos (all ▸ inside)
      rw [resolve, known]
  | cons name todo ih =>
      intro done all
      have inside : name ∈ names ps := by simp [all]
      obtain ⟨v, has⟩ := Option.ne_none_iff_exists'.mp (set name inside)
      rw [resolve, has]
      dsimp only
      rw [Text.replace, String.toList_ofList, replaceList_of_clear (isName name inside) v
        (clear done name todo all), fill_within_concat env done has, ih (done ++ [name])]
      rw [all, List.append_assoc, List.singleton_append]

end Filling

/-! ### Resolving a header value -/

section Resolving

variable {env : Environment} {s : String}

/-- **Undisturbed references are resolved in one pass.** -/
theorem expand_of_undisturbed (set : ∀ name ∈ names (template s), env name ≠ none)
    (apart : Undisturbed env s) : env.expand s = .ok (onePass env s) := by
  have run := resolve_of_clear (isCut_template s).isName set apart (names (template s)) [] rfl
  rw [fill_within_nil, (isCut_template s).spell_eq, String.ofList_toList] at run
  rw [expand_eq_resolve, run, onePass]

/-- A template with a single reference is undisturbed. -/
theorem undisturbed_of_single (single : (names (template s)).length ≤ 1) : Undisturbed env s := by
  intro done name rest split
  have alone : done = [] ∧ rest = [] := by
    rw [split, List.length_append, List.length_cons] at single
    exact ⟨List.length_eq_zero_iff.mp (by omega), List.length_eq_zero_iff.mp (by omega)⟩
  obtain ⟨rfl, rfl⟩ := alone
  rw [fill_within_nil]
  intro stretch inside without
  obtain ⟨front, back, whole⟩ := inside
  have cut := isCut_template s
  rw [← whole, List.append_assoc] at cut
  refine cut.of_append.not_infix_of_names_eq_nil ?_
    ((isCut_template s).isName name (by rw [split]; exact List.mem_singleton_self name))
  refine List.eq_nil_iff_forall_not_mem.mpr fun other found => without ?_
  have known : other ∈ names (template s) := by
    rw [← whole, names_append, names_append]
    exact List.mem_append_left _ (List.mem_append_right _ found)
  rw [split, List.nil_append, List.mem_singleton] at known
  exact known ▸ mem_names_iff.mp found

/-- References fail at an unset variable and nowhere else. -/
theorem resolve_fails_iff (todo : List String) (s : String) :
    (∃ fault, resolve env todo s = .error fault) ↔ ∃ name ∈ todo, env name = none := by
  induction todo generalizing s with
  | nil => simp [resolve]
  | cons name todo ih =>
      rw [resolve, List.exists_mem_cons_iff]
      cases has : env name with
      | none => simp
      | some v => simp [ih]

end Resolving

/-! ### Values with references in them -/

section Disturbing

variable {v : String} {ps : List Part}

/-- The closing braces of a text. -/
def closings (cs : List Char) : Nat := cs.countP (· = '\x7d')

/-- The same value for each variable. -/
def constant (v : String) : Environment := fun _ => some v

/-- One pass replaces the one closing brace of each reference by those of its value. -/
theorem closings_fill_constant (isName : ∀ name ∈ names ps, IsName name) (v : String) :
    closings (spell (fill (constant v) ps)) + (names ps).length =
      closings (spell ps) + (names ps).length * closings v.toList := by
  induction ps with
  | nil => simp [names, fill]
  | cons p ps ih =>
      cases p with
      | plain c =>
          have ih := ih isName
          simp only [closings, fill_plain_cons, spell_plain_cons, names_plain_cons,
            List.countP_cons] at ih ⊢
          omega
      | reference name =>
          obtain ⟨named, isName⟩ := List.forall_mem_cons.mp isName
          have ih := ih isName
          have one := countP_reference named
          rw [fill_reference_cons_of_some (show constant v name = some v from rfl)]
          simp only [closings, spell_append, spell_map_plain, spell_reference_cons,
            names_reference_cons, List.countP_append, List.length_cons, Nat.succ_mul] at ih ⊢
          omega

/-- Values with a closing brace take none away. -/
theorem closings_le_of_resolve (closes : 1 ≤ closings v.toList) {todo : List String} {t : String}
    (isName : ∀ name ∈ todo, IsName name) {s : String}
    (run : resolve (constant v) todo s = .ok t) : closings s.toList ≤ closings t.toList := by
  induction todo generalizing s with
  | nil =>
      cases run
      exact Nat.le_refl _
  | cons name todo ih =>
      obtain ⟨named, isName⟩ := List.forall_mem_cons.mp isName
      refine Nat.le_trans ?_ (ih isName run)
      rw [Text.replace, String.toList_ofList]
      exact Text.countP_le_replaceList (reference_ne_nil name)
        (by rw [countP_reference named]; exact closes) _

/-- The value that consists of copies of a reference. -/
def copies (n : Nat) (name : String) : String :=
  String.ofList (List.replicate n (reference name).toList).flatten

theorem closings_copies {name : String} (named : IsName name) (n : Nat) :
    closings (copies n name).toList = n := by
  rw [copies, closings, String.toList_ofList, List.countP_flatten, List.map_replicate,
    countP_reference named, List.sum_replicate_nat, Nat.mul_one]

/-- Each copy of a reference that stands in a row is replaced with its value. -/
theorem closings_add_le_replaceList {name : String} (named : IsName name)
    (closes : 1 ≤ closings v.toList) (n : Nat) {cs : List Char}
    (inside : (copies (n + 1) name).toList <:+: cs) :
    closings cs + (n + 1) * closings v.toList ≤
      closings (Text.replaceList (reference name).toList v.toList 0 cs) + (n + 1) := by
  obtain ⟨a, b, rfl⟩ := inside
  have one := countP_reference named
  have counted := Text.countP_add_le_replaceList (unbordered_reference named)
    (reference_ne_nil name) (one.symm ▸ closes) n a b
  rw [one, Nat.mul_one] at counted
  rw [copies, String.toList_ofList, List.append_assoc]
  exact counted

/-- **Values full of references disturb** as soon as there are two references to resolve: those in
the first value are resolved with the second, so that more closing braces come out than one pass
would write. -/
theorem exists_disturbing {s : String} (two : 1 < (names (template s)).length) :
    ∃ v, (constant v).expand s ≠ .ok ((constant v).onePass s) := by
  have cut := isCut_template s
  cases all : names (template s) with
  | nil => simp [all] at two
  | cons first todo =>
      cases todo with
      | nil => simp [all] at two
      | cons second todo =>
          have isName := cut.isName
          rw [all] at isName
          obtain ⟨named, isName⟩ := List.forall_mem_cons.mp isName
          obtain ⟨named', isName⟩ := List.forall_mem_cons.mp isName
          have begun : (copies (0 + 1) first).toList <:+: s.toList := by
            obtain ⟨front, back, split⟩ :=
              List.append_of_mem (mem_names_iff.mp (all ▸ List.mem_cons_self))
            rw [← cut.spell_eq, split, spell_append, spell_reference_cons, ← List.append_assoc]
            simp [copies]
          -- As many copies as there are references make up for all that one pass would write.
          generalize size : todo.length + 1 = n
          have value := closings_copies named' (n + 1)
          have closes : 1 ≤ closings (copies (n + 1) second).toList := by omega
          refine ⟨copies (n + 1) second, fun same => ?_⟩
          rw [expand_eq_resolve, all] at same
          have afterFirst := closings_add_le_replaceList named closes 0 begun
          have afterSecond := closings_add_le_replaceList named' closes n
            (Text.infix_replaceList (unbordered_reference named) (reference_ne_nil first) _
              ((by simpa [copies] using begun) : _ <:+: s.toList))
          have atEnd := closings_le_of_resolve closes isName same
          have inOnePass := closings_fill_constant cut.isName (copies (n + 1) second)
          simp only [Text.replace, onePass, String.toList_ofList] at atEnd
          rw [all, cut.spell_eq, List.length_cons, List.length_cons, size, value] at inOnePass
          rw [value] at afterFirst afterSecond
          omega

end Disturbing

/-! ### Values without a dollar -/

section Dollarless

variable {env : Environment} {name : String} {s : String} {ps : List Part}

/-- A part with no dollar but the one that begins a reference. -/
def Part.Dollarless : Part → Prop
  | .plain c => c ≠ '$'
  | .reference name => IsName name ∧ '$' ∉ name.toList

/-- Without other dollars, a reference is read at its own places alone. -/
theorem mem_of_infix_of_dollarless (named : IsName name) (free : ∀ p ∈ ps, p.Dollarless)
    (inside : (reference name).toList <:+: spell ps) : .reference name ∈ ps := by
  have begins (other : String) : (reference other).toList =
      '$' :: ("\x7bENV:".toList ++ other.toList ++ ['\x7d']) := reference_toList other
  induction ps with
  | nil => exact absurd (List.infix_nil.mp inside) (reference_ne_nil name)
  | cons p ps ih =>
      obtain ⟨first, others⟩ := List.forall_mem_cons.mp free
      cases p with
      | plain c =>
          have skipped : '$' ∉ [c] := fun found => first (List.mem_singleton.mp found).symm
          rw [begins] at inside
          refine List.mem_cons_of_mem _ (ih others ?_)
          rw [begins]
          exact Text.infix_of_not_mem skipped inside
      | reference other =>
          by_cases here : name = other
          · exact here ▸ List.mem_cons_self
          · refine List.mem_cons_of_mem _ (ih others ?_)
            have elsewhere : ¬ (reference name).toList <+: (reference other).toList ++ spell ps :=
              fun begun => here (reference_unique named first.1 begun)
            have skipped : '$' ∉ "\x7bENV:".toList ++ other.toList ++ ['\x7d'] := by
              simp [first.2]
            rw [spell_reference_cons, begins other, List.cons_append, List.infix_cons_iff] at inside
            rw [begins other, List.cons_append] at elsewhere
            have later := inside.resolve_left elsewhere
            rw [begins] at later ⊢
            exact Text.infix_of_not_mem skipped later

/-- **Where dollars only begin references**, in the template and in the values, no reference
disturbs another. -/
theorem undisturbed_of_dollarless (plain : .plain '$' ∉ template s)
    (inNames : ∀ name ∈ names (template s), '$' ∉ name.toList)
    (inValues : ∀ name v, env name = some v → '$' ∉ v.toList) : Undisturbed env s := by
  have isName := (isCut_template s).isName
  have free : ∀ p ∈ template s, p.Dollarless := by
    rintro (c | name) inside
    · exact fun dollar => plain (dollar ▸ inside)
    · exact ⟨isName name (mem_names_iff.mpr inside), inNames name (mem_names_iff.mpr inside)⟩
  intro done name rest all stretch part without read
  refine without (mem_of_infix_of_dollarless (isName name (by simp [all])) ?_ read)
  intro p inside
  obtain ⟨source, among, written⟩ := List.mem_flatMap.mp (part.subset inside)
  cases source with
  | plain c => exact List.mem_singleton.mp written ▸ free _ among
  | reference other =>
      rw [Part.fill] at written
      split at written
      · next v has =>
          obtain ⟨c, inValue, rfl⟩ := List.mem_map.mp written
          have value : env other = some v := (Option.ite_none_right_eq_some.mp has).2
          exact fun dollar => inValues other v value (dollar ▸ inValue)
      · exact List.mem_singleton.mp written ▸ free _ among

end Dollarless

/-! ### The value of a header -/

/-- **References to the environment.** A header value has one cut into references and other
characters.  It fails exactly if a variable that it refers to is not set.  Otherwise it is resolved
in one pass if its references are undisturbed, and whatever the values are exactly if it has no two
references. -/
theorem expand_onePass (s : String) :
    (∀ ps, IsCut s.toList ps ↔ ps = template s) ∧
      (∀ env : Environment, (∃ fault, env.expand s = .error fault) ↔
        ∃ name ∈ names (template s), env name = none) ∧
      (∀ env : Environment, (∀ name ∈ names (template s), env name ≠ none) → Undisturbed env s →
        env.expand s = .ok (env.onePass s)) ∧
      ((∀ env : Environment, (∀ name ∈ names (template s), env name ≠ none) →
        env.expand s = .ok (env.onePass s)) ↔ (names (template s)).length ≤ 1) := by
  refine ⟨fun ps => isCut_iff, fun env => ?_, fun env => expand_of_undisturbed, ?_⟩
  · rw [expand_eq_resolve]
    exact resolve_fails_iff _ _
  · constructor
    · intro always
      refine Nat.le_of_not_lt fun two => ?_
      obtain ⟨v, other⟩ := exists_disturbing two
      exact other (always (constant v) fun _ _ => Option.some_ne_none v)
    · intro single env set
      exact expand_of_undisturbed set (undisturbed_of_single single)

/-- A value that refers to the second variable is resolved with it. -/
theorem value_resolved_again :
    (ofTable [("FIRST", "$\x7bENV:SECOND\x7d"), ("SECOND", "x")]).expand
        "$\x7bENV:FIRST\x7d $\x7bENV:SECOND\x7d" = .ok "x x" ∧
      (ofTable [("FIRST", "$\x7bENV:SECOND\x7d"), ("SECOND", "x")]).onePass
        "$\x7bENV:FIRST\x7d $\x7bENV:SECOND\x7d" = "$\x7bENV:SECOND\x7d x" :=
  ⟨rfl, by decide +kernel⟩

/-- Two references to values without a dollar are resolved in one pass. -/
theorem credentials_resolved :
    (ofTable [("USER", "ann"), ("PASSWORD", "\x7b?\x7d")]).expand
      "Basic $\x7bENV:USER\x7d:$\x7bENV:PASSWORD\x7d" = .ok "Basic ann:\x7b?\x7d" := by
  have values : ∀ name v, ofTable [("USER", "ann"), ("PASSWORD", "\x7b?\x7d")] name = some v →
      '$' ∉ v.toList := by
    intro name v has
    simp only [ofTable, Table.get?] at has
    split at has
    · cases has
      decide
    · split at has
      · cases has
        decide
      · cases has
  have apart := undisturbed_of_dollarless (s := "Basic $\x7bENV:USER\x7d:$\x7bENV:PASSWORD\x7d")
    (by decide +kernel) (by decide +kernel) values
  exact (expand_onePass _).2.2.1 _ (by decide +kernel) apart

end Interchange.Environment
