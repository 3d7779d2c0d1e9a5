import Interchange.Cli.Commands
import Mathlib.Data.List.Forall2
/-!
# Masked reports show no secrets

What masking takes away as a whole is decided by keys: whatever stands under a sensitive key, null
apart, becomes the same stars.  So two documents that differ in nothing else are masked alike, and
so is whatever is printed of them.  Outside of sensitive keys a document keeps its form; only from
its texts the words of secrets are taken.

* `Value.AgreeBesideSecrets`, `RunReport.AgreeBesideSecrets` — what differs in secrets alone.
* `Value.outline` — what of a value masking must not touch.
* `Cli.Printer.hides_secrets` — secrets are hidden, and all else keeps its form.
-/

namespace Interchange

open Masking

namespace Value

/-! ### Documents that differ in secrets -/

mutual

/-- **Documents that agree beside their secrets**: they are equal but for what they hold, other than
null, under sensitive keys. -/
inductive AgreeBesideSecrets : Value → Value → Prop
  | same (v : Value) : AgreeBesideSecrets v v
  | list {as bs : List Value} (items : ItemsAgree as bs) : AgreeBesideSecrets (.list as) (.list bs)
  | obj {as bs : List (String × Value)} (members : MembersAgree as bs) :
      AgreeBesideSecrets (.obj as) (.obj bs)

/-- Lists of equal length whose items agree. -/
inductive ItemsAgree : List Value → List Value → Prop
  | nil : ItemsAgree [] []
  | cons {a b : Value} {as bs : List Value} (first : AgreeBesideSecrets a b)
      (rest : ItemsAgree as bs) : ItemsAgree (a :: as) (b :: bs)

/-- Members with the same keys, each of which holds values that agree or, where it is sensitive,
any values but null. -/
inductive MembersAgree : List (String × Value) → List (String × Value) → Prop
  | nil : MembersAgree [] []
  | shown {a b : Value} {as bs : List (String × Value)} (key : String)
      (first : AgreeBesideSecrets a b) (rest : MembersAgree as bs) :
      MembersAgree ((key, a) :: as) ((key, b) :: bs)
  | secret {a b : Value} {as bs : List (String × Value)} {key : String}
      (sensitive : isSensitiveKey key = true) (held : a.isNull = false) (held' : b.isNull = false)
      (rest : MembersAgree as bs) : MembersAgree ((key, a) :: as) ((key, b) :: bs)

end

theorem AgreeBesideSecrets.isNull_eq {a b : Value} (agree : AgreeBesideSecrets a b) :
    a.isNull = b.isNull := by
  cases agree with
  | same _ => rfl
  | list _ => rfl
  | obj _ => rfl

mutual

/-- Documents that agree beside their secrets are masked alike. -/
theorem AgreeBesideSecrets.masked_eq {a b : Value} : AgreeBesideSecrets a b → a.masked = b.masked
  | .same _ => rfl
  | .list items => by rw [masked, masked, items.masked_eq]
  | .obj members => by rw [masked, masked, members.masked_eq]

theorem ItemsAgree.masked_eq {as bs : List Value} :
    ItemsAgree as bs → maskedItems as = maskedItems bs
  | .nil => rfl
  | .cons first rest => by rw [maskedItems, maskedItems, first.masked_eq, rest.masked_eq]

theorem MembersAgree.masked_eq {as bs : List (String × Value)} :
    MembersAgree as bs → maskedMembers as = maskedMembers bs
  | .nil => rfl
  | .shown _ first rest => by
      rw [maskedMembers, maskedMembers, first.masked_eq, first.isNull_eq, rest.masked_eq]
  | .secret sensitive held held' rest => by
      simp [maskedMembers, sensitive, held, held', rest.masked_eq]

end

/-! ### What masking keeps -/

/-- A way down into a document: to a member by its key, or to an item by its place. -/
inductive Descent
  | key (key : String)
  | item (place : Nat)
deriving DecidableEq

/-- What stands at a place in a document, if there is such a place. -/
def below? : Value → List Descent → Option Value
  | v, [] => some v
  | .obj members, .key key :: place => (Table.get? key members).bind fun v => v.below? place
  | .list items, .item i :: place => items[i]?.bind fun v => v.below? place
  | _, _ :: _ => none

/-- The form of a value: all of it for null, a truth value or a number, the length of a list, and
the keys of an object. -/
inductive Outline
  | null
  | bool (b : Bool)
  | num (n : Number)
  | text
  | list (length : Nat)
  | obj (keys : List String)
deriving DecidableEq

/-- What of a value masking must not touch. -/
def outline : Value → Outline
  | .null => .null
  | .bool b => .bool b
  | .num n => .num n
  | .str _ => .text
  | .list items => .list items.length
  | .obj members => .obj (members.map Prod.fst)

theorem maskedItems_eq_map (items : List Value) : maskedItems items = items.map masked := by
  induction items with
  | nil => rfl
  | cons v vs ih => rw [maskedItems, ih, List.map_cons]

theorem map_fst_maskedMembers (ms : List (String × Value)) :
    (maskedMembers ms).map Prod.fst = ms.map Prod.fst := by
  induction ms with
  | nil => rfl
  | cons m ms ih => rw [maskedMembers, List.map_cons, List.map_cons, ih]

theorem outline_masked (v : Value) : v.masked.outline = v.outline := by
  cases v with
  | list items => rw [masked, outline, outline, maskedItems_eq_map, List.length_map]
  | obj ms => rw [masked, outline, outline, map_fst_maskedMembers]
  | _ => rfl

/-- A key that is not sensitive holds what it held, masked. -/
theorem get?_maskedMembers {key : String} (shown : isSensitiveKey key = false)
    (ms : List (String × Value)) :
    Table.get? key (maskedMembers ms) = (Table.get? key ms).map masked := by
  induction ms with
  | nil => rfl
  | cons m ms ih =>
      rw [maskedMembers, Table.get?, Table.get?, ih]
      by_cases here : m.1 = key
      · simp [here, shown]
      · simp [here]

/-- What stands at a place without sensitive keys stands there masked. -/
theorem below?_masked {place : List Descent}
    (shown : ∀ key, .key key ∈ place → isSensitiveKey key = false) (v : Value) :
    v.masked.below? place = (v.below? place).map masked := by
  induction place generalizing v with
  | nil => rfl
  | cons d place ih =>
      have further := ih fun key member => shown key (List.mem_cons_of_mem _ member)
      cases d with
      | key key =>
          cases v with
          | obj ms =>
              rw [masked, below?, below?, get?_maskedMembers (shown key List.mem_cons_self)]
              cases Table.get? key ms with
              | none => rfl
              | some c => exact further c
          | _ => rfl
      | item i =>
          cases v with
          | list items =>
              rw [masked, below?, below?, maskedItems_eq_map, List.getElem?_map]
              cases items[i]? with
              | none => rfl
              | some c => exact further c
          | _ => rfl

end Value

/-! ### Reports -/

/-- Reports on a step that are equal but for secrets in their details. -/
structure StepReport.AgreeBesideSecrets (a b : StepReport) : Prop where
  order : a.order = b.order
  name : a.name = b.name
  stepType : a.stepType = b.stepType
  error : a.error = b.error
  details : a.details.AgreeBesideSecrets b.details

/-- **Reports on runs that agree beside their secrets**: they are equal but for secrets in the
input, in the output and in the details of steps. -/
structure RunReport.AgreeBesideSecrets (a b : RunReport) : Prop where
  pipelineId : a.pipelineId = b.pipelineId
  input : a.input.AgreeBesideSecrets b.input
  output : a.output.AgreeBesideSecrets b.output
  steps : List.Forall₂ StepReport.AgreeBesideSecrets a.steps b.steps
  failure : a.failure = b.failure

theorem StepReport.AgreeBesideSecrets.masked_eq {a b : StepReport}
    (agree : a.AgreeBesideSecrets b) : a.masked = b.masked := by
  obtain ⟨order, name, stepType, error, details⟩ := agree
  rw [StepReport.masked, StepReport.masked, details.masked_eq, order, name, stepType, error]

/-- Lists of items that agree are taken to the same by what does not tell such items apart. -/
theorem map_eq_of_forall₂ {α β : Type} {agree : α → α → Prop} {h : α → β} {as bs : List α}
    (items : List.Forall₂ agree as bs) (same : ∀ a ∈ as, ∀ b, agree a b → h a = h b) :
    as.map h = bs.map h := by
  induction items with
  | nil => rfl
  | cons first _ ih =>
      obtain ⟨here, later⟩ := List.forall_mem_cons.mp same
      rw [List.map_cons, List.map_cons, here _ first, ih later]

theorem RunReport.AgreeBesideSecrets.masked_eq {a b : RunReport}
    (agree : a.AgreeBesideSecrets b) : a.masked = b.masked := by
  rw [RunReport.masked, RunReport.masked, agree.input.masked_eq, agree.output.masked_eq,
    map_eq_of_forall₂ agree.steps fun _ _ _ same => StepReport.AgreeBesideSecrets.masked_eq same,
    agree.pipelineId, agree.failure]

namespace Cli.Printer

/-- **Masking hides secrets and nothing else.**  Documents that agree beside their secrets are
masked alike; a document keeps its form at every place that no sensitive key leads to; and of
reports on runs that agree beside their secrets the same is printed, in every format, by a printer
that masks. -/
theorem hides_secrets :
    (∀ {a b : Value}, a.AgreeBesideSecrets b → a.masked = b.masked) ∧
    (∀ (v : Value) {place : List Value.Descent},
      (∀ key, .key key ∈ place → isSensitiveKey key = false) →
        (v.masked.below? place).map Value.outline = (v.below? place).map Value.outline) ∧
    (∀ {a b : RunReport}, a.AgreeBesideSecrets b → ∀ {p : Printer}, p.masks = true →
      ∀ {m : Type → Type} [Monad m] (steps : Bool),
        (p.run a steps : Job m Unit) = p.run b steps) := by
  refine ⟨fun agree => agree.masked_eq, fun v place shown => ?_,
    fun agree p masks m _ steps => ?_⟩
  · rw [Value.below?_masked shown, Option.map_map]
    exact congrArg (fun f => Option.map f (v.below? place)) (funext Value.outline_masked)
  · rw [run, run, masks, if_pos rfl, if_pos rfl, agree.masked_eq]

/-- The report on a quote whose request and reply hold credentials, one of them a list. -/
def quoteReport (apiKey token signature : Value) : RunReport where
  pipelineId := "quote"
  input := .obj [("apiKey", apiKey),
    ("drivers", .list [.obj [("age", .ofInt 30), ("sessionToken", token)], .null])]
  output := .obj [("premium", .bool true)]
  steps := [⟨1, "call", "call_system", none, .obj [("headers", .obj [("Authorization", signature),
    ("keyless", .null)])]⟩]
  failure := none

theorem quoteReport_hides_secrets :
    let a := quoteReport (.str "k-1") (.list [.str "s", .null]) (.bool false)
    let b := quoteReport (.obj []) (.str "t") (.str "Basic abc")
    let age := [Value.Descent.key "drivers", .item 0, .key "age"]
    a.AgreeBesideSecrets b ∧ a.input.AgreeBesideSecrets b.input ∧
      (∀ key, .key key ∈ age → isSensitiveKey key = false) ∧ a.input.masked = b.input.masked ∧
      (a.input.masked.below? age).map Value.outline = some (.num (.int 30 (by decide))) ∧
      ∀ format, ((⟨format, false, 0, true⟩ : Printer).run a true : Job Id Unit) =
        (⟨format, false, 0, true⟩ : Printer).run b true := by
  intro a b age
  have sensitive : isSensitiveKey "apiKey" = true ∧ isSensitiveKey "sessionToken" = true ∧
      isSensitiveKey "Authorization" = true := by decide +kernel
  have others : isSensitiveKey "drivers" = false ∧ isSensitiveKey "age" = false := by
    decide +kernel
  have shown : ∀ key, .key key ∈ age → isSensitiveKey key = false := by
    intro key member
    simp only [age, List.mem_cons, Value.Descent.key.injEq, reduceCtorEq, List.not_mem_nil,
      or_false, false_or] at member
    rcases member with rfl | rfl
    · exact others.1
    · exact others.2
  have driver : Value.ItemsAgree
      [.obj [("age", .ofInt 30), ("sessionToken", .list [.str "s", .null])], .null]
      [.obj [("age", .ofInt 30), ("sessionToken", .str "t")], .null] :=
    .cons (.obj (.shown _ (.same _) (.secret sensitive.2.1 rfl rfl .nil))) (.cons (.same _) .nil)
  have input : a.input.AgreeBesideSecrets b.input :=
    .obj (.secret sensitive.1 rfl rfl (.shown _ (.list driver) .nil))
  have headers : Value.MembersAgree [("Authorization", .bool false), ("keyless", .null)]
      [("Authorization", .str "Basic abc"), ("keyless", .null)] :=
    .secret sensitive.2.2 rfl rfl (.shown _ (.same _) .nil)
  have agree : a.AgreeBesideSecrets b :=
    ⟨rfl, input, .same _,
      .cons ⟨rfl, rfl, rfl, rfl, .obj (.shown _ (.obj headers) .nil)⟩ .nil, rfl⟩
  refine ⟨agree, input, shown, hides_secrets.1 input, ?_,
    fun format => hides_secrets.2.2 agree rfl true⟩
  rw [hides_secrets.2.1 a.input shown]
  decide +kernel

end Cli.Printer

end Interchange
