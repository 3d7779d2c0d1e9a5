import Interchange.Proofs.Masking
import Interchange.Proofs.Value.Written
/-!
# Masked reports on mappings

The report on a mapping shows a value in three places: in the output, and as what a field has read
and written.  The output is masked as any document is.  The values of a field are replaced if the
last name of its target is sensitive, and are otherwise shown as they are, so that nothing hides
what stands in them under a sensitive key, or what is written below one.  A report for people shows
no values of fields at all.

* `MappingReport.AgreeBesideSecrets` — reports that differ in secrets alone.
* `FieldReport.Exposes` — the fields with a secret that is shown.
* `Cli.Printer.mapping_hides_secrets_iff` — secrets are hidden exactly without such fields.
-/

namespace Interchange

open Masking

namespace Value

/-! ### Secrets in a value -/

/-- **A value holds a secret**: something other than null stands in it under a sensitive key. -/
inductive HoldsSecret : Value → Prop
  | item {v : Value} {items : List Value} (inside : v ∈ items) (held : HoldsSecret v) :
      HoldsSecret (.list items)
  | member {key : String} {v : Value} {members : List (String × Value)}
      (inside : (key, v) ∈ members) (held : HoldsSecret v) : HoldsSecret (.obj members)
  | secret {key : String} {v : Value} {members : List (String × Value)}
      (inside : (key, v) ∈ members) (sensitive : isSensitiveKey key = true)
      (present : v.isNull = false) : HoldsSecret (.obj members)

mutual

/-- Without secrets, only the same values agree. -/
theorem AgreeBesideSecrets.eq {a b : Value} :
    AgreeBesideSecrets a b → ¬ a.HoldsSecret → a = b
  | .same _, _ => rfl
  | .list items, without =>
      congrArg Value.list (items.eq fun _ inside held => without (.item inside held))
  | .obj members, without =>
      congrArg Value.obj (members.eq (fun _ inside held => without (.member inside held))
        fun _ inside sensitive present => without (.secret inside sensitive present))

/-- Items without secrets agree only if they are equal, -/
theorem ItemsAgree.eq {as bs : List Value} :
    ItemsAgree as bs → (∀ v ∈ as, ¬ v.HoldsSecret) → as = bs
  | .nil, _ => rfl
  | .cons first rest, without => by
      obtain ⟨here, later⟩ := List.forall_mem_cons.mp without
      rw [first.eq here, rest.eq later]

/-- and so do members, where also no key is one of a secret. -/
theorem MembersAgree.eq {as bs : List (String × Value)} :
    MembersAgree as bs → (∀ m ∈ as, ¬ m.2.HoldsSecret) →
      (∀ m ∈ as, isSensitiveKey m.1 = true → m.2.isNull ≠ false) → as = bs
  | .nil, _, _ => rfl
  | .shown key first rest, without, without' => by
      obtain ⟨here, later⟩ := List.forall_mem_cons.mp without
      rw [first.eq here, rest.eq later (List.forall_mem_cons.mp without').2]
  | .secret sensitive held _ _, _, without' =>
      absurd held ((List.forall_mem_cons.mp without').1 sensitive)

end

theorem ItemsAgree.refl (as : List Value) : ItemsAgree as as := by
  induction as with
  | nil => exact .nil
  | cons a as ih => exact .cons (.same a) ih

theorem ItemsAgree.behind {as bs : List Value} (agree : ItemsAgree as bs) (front : List Value) :
    ItemsAgree (front ++ as) (front ++ bs) := by
  induction front with
  | nil => exact agree
  | cons a front ih => exact .cons (.same a) ih

theorem MembersAgree.refl (as : List (String × Value)) : MembersAgree as as := by
  induction as with
  | nil => exact .nil
  | cons m as ih => exact .shown m.1 (.same m.2) ih

theorem MembersAgree.behind {as bs : List (String × Value)} (agree : MembersAgree as bs)
    (front : List (String × Value)) : MembersAgree (front ++ as) (front ++ bs) := by
  induction front with
  | nil => exact agree
  | cons m front ih => exact .shown m.1 (.same m.2) ih

/-- **A secret may be any text.** -/
theorem HoldsSecret.exists_holds {v : Value} (held : v.HoldsSecret) (text : String) :
    ∃ w, v.AgreeBesideSecrets w ∧ w.Holds text := by
  induction held with
  | item inside _ ih =>
      obtain ⟨w, agree, holds⟩ := ih
      obtain ⟨front, back, rfl⟩ := List.append_of_mem inside
      exact ⟨.list (front ++ w :: back), .list ((ItemsAgree.cons agree (.refl back)).behind front),
        .item (List.mem_append_right front List.mem_cons_self) holds⟩
  | @member key v members inside _ ih =>
      obtain ⟨w, agree, holds⟩ := ih
      obtain ⟨front, back, rfl⟩ := List.append_of_mem inside
      exact ⟨.obj (front ++ (key, w) :: back),
        .obj ((MembersAgree.shown key agree (.refl back)).behind front),
        .member (List.mem_append_right front List.mem_cons_self) holds⟩
  | @secret key v members inside sensitive present =>
      obtain ⟨front, back, rfl⟩ := List.append_of_mem inside
      exact ⟨.obj (front ++ (key, .str text) :: back),
        .obj ((MembersAgree.secret sensitive present rfl (.refl back)).behind front),
        .member (List.mem_append_right front List.mem_cons_self) .here⟩

end Value

/-! ### Reports on fields -/

namespace FieldReport

/-- The target of a field lies below a sensitive key, or is one. -/
def IsSensitive (f : FieldReport) : Prop :=
  ∃ s ∈ Path.segments f.targetPath, isSensitiveKey s = true

/-- Values of a field that agree beside their secrets.  Where they are secret as a whole, they may
be any values but null. -/
inductive ValuesAgree (secret : Prop) : Option Value → Option Value → Prop
  | none : ValuesAgree secret none none
  | shown {v w : Value} (agree : v.AgreeBesideSecrets w) : ValuesAgree secret (some v) (some w)
  | secret {v w : Value} (sensitive : secret) (held : v.isNull = false) (held' : w.isNull = false) :
      ValuesAgree secret (some v) (some w)

/-- Reports on a field that are equal but for secrets in its values. -/
structure AgreeBesideSecrets (f g : FieldReport) : Prop where
  sourcePath : f.sourcePath = g.sourcePath
  targetPath : f.targetPath = g.targetPath
  status : f.status = g.status
  kind : f.kind = g.kind
  source : ValuesAgree f.IsSensitive f.source g.source
  output : ValuesAgree f.IsSensitive f.output g.output
  error : f.error = g.error
  fatal : f.fatal = g.fatal

/-- **A field exposes a secret**: the last name of its target is harmless, and one of its values is
a secret as a whole or holds one. -/
def Exposes (f : FieldReport) : Prop :=
  isSensitiveKey (leafName f.targetPath) = false ∧
    ∃ v, (f.source = some v ∨ f.output = some v) ∧
      (f.IsSensitive ∧ v.isNull = false ∨ v.HoldsSecret)

/-- The report without the values of the field. -/
def withoutValues (f : FieldReport) : FieldReport := { f with source := none, output := none }

variable {f g : FieldReport} {secret : Prop} {x y : Option Value}

theorem ValuesAgree.refl (secret : Prop) : ∀ x : Option Value, ValuesAgree secret x x
  | .none => .none
  | some v => .shown (.same v)

/-- Values that agree are both there or both missing. -/
theorem ValuesAgree.map_eq (agree : ValuesAgree secret x y) (w : Value) :
    (x.map fun _ => w) = y.map fun _ => w := by
  cases agree <;> rfl

/-- They are equal where there is nothing to be hidden. -/
theorem ValuesAgree.eq (agree : ValuesAgree secret x y)
    (without : ∀ v, x = some v → ¬ (secret ∧ v.isNull = false ∨ v.HoldsSecret)) : x = y := by
  cases agree with
  | none => rfl
  | shown agree => rw [agree.eq fun held => without _ rfl (.inr held)]
  | secret sensitive held => exact absurd (.inl ⟨sensitive, held⟩) (without _ rfl)

/-- A field that exposes nothing is masked alike whatever its secrets are. -/
theorem AgreeBesideSecrets.masked_eq (agree : f.AgreeBesideSecrets g) (hides : ¬ f.Exposes) :
    f.masked = g.masked := by
  cases f
  cases g
  obtain ⟨rfl, rfl, rfl, rfl, source, output, rfl, rfl⟩ := agree
  rw [masked, masked]
  split
  · dsimp only at source output ⊢
    rw [source.map_eq, output.map_eq]
  · next harmless =>
      have harmless : isSensitiveKey (leafName _) = false := eq_false_of_ne_true harmless
      obtain rfl := source.eq fun v read exposed => hides ⟨harmless, v, .inl read, exposed⟩
      obtain rfl := output.eq fun v written exposed => hides ⟨harmless, v, .inr written, exposed⟩
      rfl

/-- A value with something to be hidden agrees with one that holds any text one likes. -/
theorem exists_valuesAgree {v : Value} (exposed : secret ∧ v.isNull = false ∨ v.HoldsSecret)
    (text : String) : ∃ w, ValuesAgree secret (some v) (some w) ∧ w.Holds text := by
  rcases exposed with ⟨sensitive, present⟩ | held
  · exact ⟨.str text, .secret sensitive present rfl, .here⟩
  · obtain ⟨w, agree, holds⟩ := held.exists_holds text
    exact ⟨w, .shown agree, holds⟩

theorem AgreeBesideSecrets.refl (f : FieldReport) : f.AgreeBesideSecrets f :=
  ⟨rfl, rfl, rfl, rfl, .refl _ _, .refl _ _, rfl, rfl⟩

/-- What a value of a field holds is held by the record of its report. -/
theorem holds_toValue {w : Value} {text : String} (place : f.source = some w ∨ f.output = some w)
    (holds : w.Holds text) : f.toValue.Holds text := by
  rw [toValue]
  rcases place with read | written
  · have inside : ("sourceValue", w) ∈ optionalMember "sourceValue" f.source := by
      rw [read]
      exact List.mem_singleton_self _
    exact .member (List.mem_append_left _ (List.mem_append_left _ (List.mem_append_left _
      (List.mem_append_right _ inside)))) holds
  · have inside : ("outputValue", w) ∈ optionalMember "outputValue" f.output := by
      rw [written]
      exact List.mem_singleton_self _
    exact .member (List.mem_append_left _ (List.mem_append_left _ (List.mem_append_right _ inside)))
      holds

/-- **What a field exposes may be any text.** -/
theorem Exposes.exists_holds (exposes : f.Exposes) (text : String) :
    ∃ g, f.AgreeBesideSecrets g ∧ g.masked.toValue.Holds text := by
  obtain ⟨harmless, v, place, exposed⟩ := exposes
  obtain ⟨w, agree, holds⟩ := exists_valuesAgree exposed text
  have shown {g : FieldReport} (same : g.targetPath = f.targetPath) : g.masked = g := by
    rw [masked, same, if_neg (by rw [harmless]; exact Bool.false_ne_true)]
  rcases place with read | written
  · refine ⟨{ f with source := some w },
      { AgreeBesideSecrets.refl f with source := read ▸ agree }, ?_⟩
    rw [shown (g := { f with source := some w }) rfl]
    exact holds_toValue (.inl rfl) holds
  · refine ⟨{ f with output := some w },
      { AgreeBesideSecrets.refl f with output := written ▸ agree }, ?_⟩
    rw [shown (g := { f with output := some w }) rfl]
    exact holds_toValue (.inr rfl) holds

/-- Masking a report touches its values and nothing else. -/
theorem withoutValues_masked (f : FieldReport) : f.masked.withoutValues = f.withoutValues := by
  rw [masked]
  split <;> rfl

/-- So reports on fields that agree beside secrets are equal without their values. -/
theorem AgreeBesideSecrets.withoutValues_eq (agree : f.AgreeBesideSecrets g) :
    f.withoutValues = g.withoutValues := by
  obtain ⟨sourcePath, targetPath, status, kind, -, -, error, fatal⟩ := agree
  rw [withoutValues, withoutValues, sourcePath, targetPath, status, kind, error, fatal]

end FieldReport

/-! ### Reports on mappings -/

namespace MappingReport

/-- **Reports on mappings that agree beside their secrets**: they are equal but for secrets in the
output and in the values of fields. -/
structure AgreeBesideSecrets (a b : MappingReport) : Prop where
  mappingId : a.mappingId = b.mappingId
  output : a.output.AgreeBesideSecrets b.output
  fields : List.Forall₂ FieldReport.AgreeBesideSecrets a.fields b.fields

/-- The report without the values of fields. -/
def withoutValues (r : MappingReport) : MappingReport :=
  { r with fields := r.fields.map FieldReport.withoutValues }

variable {a b : MappingReport}

/-- Reports without exposed secrets are masked alike. -/
theorem AgreeBesideSecrets.masked_eq (agree : a.AgreeBesideSecrets b)
    (hides : ∀ f ∈ a.fields, ¬ f.Exposes) : a.masked = b.masked := by
  have fields := map_eq_of_forall₂ agree.fields fun f among g same =>
    FieldReport.AgreeBesideSecrets.masked_eq same (hides f among)
  rw [masked, masked, agree.mappingId, agree.output.masked_eq, fields]

/-- What is no value of a field is masked alike in any case. -/
theorem AgreeBesideSecrets.withoutValues_eq (agree : a.AgreeBesideSecrets b) :
    a.masked.withoutValues = b.masked.withoutValues := by
  have fields := map_eq_of_forall₂ agree.fields fun f _ g same =>
    FieldReport.AgreeBesideSecrets.withoutValues_eq same
  have alone : FieldReport.withoutValues ∘ FieldReport.masked = FieldReport.withoutValues :=
    funext FieldReport.withoutValues_masked
  rw [masked, masked, withoutValues, withoutValues, List.map_map, List.map_map, alone, fields,
    agree.mappingId, agree.output.masked_eq]

/-- **What a field of a report exposes may be any text.** -/
theorem exists_holds {f : FieldReport} (among : f ∈ a.fields) (exposes : f.Exposes)
    (text : String) : ∃ b, a.AgreeBesideSecrets b ∧ b.masked.toValue.Holds text := by
  obtain ⟨g, agree, holds⟩ := exposes.exists_holds text
  obtain ⟨front, back, split⟩ := List.append_of_mem among
  have same (fs : List FieldReport) : List.Forall₂ FieldReport.AgreeBesideSecrets fs fs :=
    List.forall₂_same.mpr fun f _ => .refl f
  refine ⟨{ a with fields := front ++ g :: back }, ⟨rfl, .same _, ?_⟩, ?_⟩
  · rw [split]
    exact List.rel_append (same front) (.cons agree (same back))
  · have inside : g.masked.toValue ∈
        ((front ++ g :: back).map FieldReport.masked).map FieldReport.toValue :=
      List.mem_map_of_mem (List.mem_map_of_mem (List.mem_append_right front List.mem_cons_self))
    rw [toValue]
    exact .member (List.mem_cons_of_mem _ (List.mem_cons_of_mem _ List.mem_cons_self))
      (.item inside holds)

theorem mappingId_withoutValues (r : MappingReport) : r.withoutValues.mappingId = r.mappingId :=
  rfl

theorem output_withoutValues (r : MappingReport) : r.withoutValues.output = r.output := rfl

/-- The counts do not depend on values. -/
theorem countOf_withoutValues (r : MappingReport) (s : FieldStatus) :
    r.withoutValues.countOf s = r.countOf s := by
  rw [countOf, countOf, withoutValues, List.filter_map, List.length_map]
  rfl

end MappingReport

namespace Cli

/-- A report for people shows no values of fields. -/
theorem describeMapping_withoutValues (r : MappingReport) (fields : Bool) :
    describeMapping r.withoutValues fields = describeMapping r fields := by
  have rows : fieldRow ∘ FieldReport.withoutValues = fieldRow := rfl
  have lines : failedFieldLine ∘ FieldReport.withoutValues = failedFieldLine := rfl
  have failed : (fun f : FieldReport => decide (f.status = .error)) ∘ FieldReport.withoutValues =
      fun f => decide (f.status = .error) := rfl
  have parts : fieldPart r.withoutValues fields = fieldPart r fields := by
    rw [fieldPart, fieldPart, MappingReport.withoutValues]
    simp only [List.filter_map, List.map_map, List.isEmpty_map, rows, lines, failed]
  unfold describeMapping
  rw [parts]
  simp only [MappingReport.countOf_withoutValues, MappingReport.mappingId_withoutValues,
    MappingReport.output_withoutValues]

/-- **Two reports on mappings are printed alike** by all printers that mask and print in a
format. -/
def PrintedAlike (format : OutputFormat) (a b : MappingReport) : Prop :=
  ∀ p : Printer, p.masks = true → p.format = format → ∀ {m : Type → Type} [Monad m]
    (fields : Bool), (p.mapping a fields : Job m Unit) = p.mapping b fields

/-- Reports are printed alike if they are in each choice of what is to be shown of fields. -/
theorem printedAlike_iff {format : OutputFormat} {a b : MappingReport} :
    PrintedAlike format a b ↔
      ∀ fields, format.renderMapping a.masked fields = format.renderMapping b.masked fields := by
  constructor
  · intro alike fields
    have job := alike ⟨format, false, 0, true⟩ rfl rfl (m := Id) fields
    have printed : "" ++ format.renderMapping a.masked fields =
        "" ++ format.renderMapping b.masked fields :=
      congrArg (fun job : Job Id Unit => (job ⟨"", ""⟩).2.out) job
    simpa using printed
  · rintro same p masks rfl m _ fields
    rw [Printer.mapping, Printer.mapping, masks, if_pos rfl, if_pos rfl, same]

/-- What is printed is not lost at the end of a line. -/
theorem isPartOf_endLine {part s : String} (inside : Text.IsPartOf part s) :
    Text.IsPartOf part (endLine s) := by
  rw [endLine]
  split
  · exact inside
  · exact inside.before _

/-- What a value holds is a part of what is printed in any format. -/
theorem isPartOf_render {v : Value} {text : String} (format : OutputFormat) (held : v.Holds text)
    (word : Text.IsWord text) : Text.IsPartOf text (format.render v) := by
  cases format with
  | json => exact isPartOf_endLine (held.render word)
  | jsonPretty => exact isPartOf_endLine (held.prettyAt word 0)
  | human => exact isPartOf_endLine (held.prettyAt word 0)
  | yaml => exact isPartOf_endLine (held.yaml word)

/-- **Printing a report on a mapping hides its secrets** from people always, and in any other format
exactly if no field exposes one.  Reports that differ in secrets alone are then printed alike by
every printer that masks. -/
theorem mapping_hides_secrets_iff (r : MappingReport) :
    (∀ other, r.AgreeBesideSecrets other → PrintedAlike .human r other) ∧
      ∀ format, format ≠ .human →
        ((∀ other, r.AgreeBesideSecrets other → PrintedAlike format r other) ↔
          ∀ f ∈ r.fields, ¬ f.Exposes) := by
  refine ⟨fun other agree => printedAlike_iff.mpr fun fields => ?_, fun format machine => ?_⟩
  · rw [OutputFormat.renderMapping, OutputFormat.renderMapping, if_pos rfl, if_pos rfl,
      ← describeMapping_withoutValues, agree.withoutValues_eq, describeMapping_withoutValues]
  · constructor
    · intro alike f among exposes
      -- A secret that is longer than the report cannot be a part of it.
      generalize long : (format.renderMapping r.masked false).length = length
      have word : Text.IsWord (String.ofList (List.replicate (length + 1) 'x')) := by
        intro c inside
        rw [String.toList_ofList] at inside
        rw [List.eq_of_mem_replicate inside]
        decide
      obtain ⟨other, agree, holds⟩ := MappingReport.exists_holds among exposes _
      have same := printedAlike_iff.mp (alike other agree) false
      have shown := (isPartOf_render format holds word).length_le
      rw [same, OutputFormat.renderMapping, if_neg machine] at long
      rw [long, String.length_ofList, List.length_replicate] at shown
      exact absurd shown (Nat.not_succ_le_self length)
    · exact fun hides other agree => printedAlike_iff.mpr fun fields => by
        rw [agree.masked_eq hides]

/-- The report on a mapping that copies a value from one place to another. -/
def copyReport (source target : String) (v output : Value) : MappingReport :=
  ⟨"copy", output, [⟨source, target, .success, "direct", some v, some v, none, false⟩]⟩

/-- A driver with a password. -/
def driver (password : String) : Value :=
  .obj [("name", .str "Ann"), ("password", .str password)]

/-- The text of an object ends with its brace, so that its line has to be ended. -/
theorem endLine_render_obj (ms : List (String × Value)) :
    endLine (Value.obj ms).render = (Value.obj ms).render ++ "\n" := by
  rw [endLine, if_neg]
  simp [Value.render, Text.endsWith, Text.beginsWith, Text.stripLead]

/-- In JSON the whole report is printed, with fields or without. -/
theorem renderMapping_json (r : MappingReport) (fields : Bool) :
    OutputFormat.json.renderMapping r fields = r.toValue.render ++ "\n" := by
  rw [OutputFormat.renderMapping, if_neg (by decide), MappingReport.toValue]
  exact endLine_render_obj _

/-- The report on a driver that is copied as a whole. -/
def driverReport (password : String) : MappingReport :=
  copyReport "driver" "driver" (driver password) (.obj [("driver", driver password)])

/-- Only in the output is the password of the driver masked. -/
theorem masked_driverReport (password : String) :
    (driverReport password).masked =
      copyReport "driver" "driver" (driver password) (.obj [("driver", driver stars)]) := by
  have keys : isSensitiveKey "driver" = false ∧ isSensitiveKey "name" = false ∧
      isSensitiveKey "password" = true := by decide +kernel
  have leaf : leafName "driver" = "driver" := by decide +kernel
  have name : maskText "Ann" = "Ann" := by decide +kernel
  have output : (Value.obj [("driver", driver password)]).masked =
      .obj [("driver", driver stars)] := by
    simp [driver, Value.masked, Value.maskedMembers, keys, name, Value.isNull]
  simp [driverReport, copyReport, MappingReport.masked, FieldReport.masked, output, leaf, keys]

/-- The password of a driver that is copied as a whole is masked in the output and shown with the
field. -/
theorem copied_password_shown :
    let a := driverReport "hunter22"
    let b := driverReport "letmein"
    a.AgreeBesideSecrets b ∧ a.output.masked = b.output.masked ∧ ¬ PrintedAlike .json a b := by
  intro a b
  have sensitive : isSensitiveKey "password" = true := by decide +kernel
  have agree : (driver "hunter22").AgreeBesideSecrets (driver "letmein") :=
    .obj (.shown _ (.same _) (.secret sensitive rfl rfl .nil))
  have output : a.output.AgreeBesideSecrets b.output := .obj (.shown _ agree .nil)
  refine ⟨⟨rfl, output, .cons ⟨rfl, rfl, rfl, rfl, .shown agree, .shown agree, rfl, rfl⟩ .nil⟩,
    output.masked_eq, fun alike => ?_⟩
  have same := printedAlike_iff.mp alike false
  rw [renderMapping_json, renderMapping_json, masked_driverReport, masked_driverReport] at same
  exact absurd same (by decide +kernel)

/-- A token that is copied under a sensitive key is shown nowhere. -/
theorem copied_token_hidden :
    let a := copyReport "quote.token" "rateRequest.authToken" (.str "t-1")
      (.obj [("rateRequest", .obj [("authToken", .str "t-1")])])
    let b := copyReport "quote.token" "rateRequest.authToken" (.list [.bool true])
      (.obj [("rateRequest", .obj [("authToken", .list [.bool true])])])
    a.AgreeBesideSecrets b ∧ (∀ f ∈ a.fields, ¬ f.Exposes) ∧ ∀ format, PrintedAlike format a b := by
  intro a b
  have sensitive : isSensitiveKey "authToken" = true := by decide +kernel
  have below : ∃ s ∈ Path.segments "rateRequest.authToken", isSensitiveKey s = true :=
    ⟨"authToken", by decide +kernel, sensitive⟩
  have agree : a.AgreeBesideSecrets b :=
    ⟨rfl, .obj (.shown _ (.obj (.secret sensitive rfl rfl .nil)) .nil),
      .cons ⟨rfl, rfl, rfl, rfl, .secret below rfl rfl, .secret below rfl rfl, rfl, rfl⟩ .nil⟩
  have hides : ∀ f ∈ a.fields, ¬ f.Exposes := by
    intro f among exposes
    rw [List.mem_singleton.mp among] at exposes
    exact absurd exposes.1 (by decide +kernel)
  refine ⟨agree, hides, fun format => ?_⟩
  by_cases people : format = .human
  · exact people ▸ (mapping_hides_secrets_iff a).1 b agree
  · exact ((mapping_hides_secrets_iff a).2 format people).mpr hides b agree

end Cli

end Interchange
