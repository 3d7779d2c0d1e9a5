import Mathlib.Data.List.Forall2
import Interchange.Mapping.Run
import Interchange.Proofs.Panic
/-!
# Two policies for required fields

A required field that has neither a value nor a default is fatal: it stops a mapping that aborts,
and a mapping that continues reports it like any other error.  Whether a field is fatal can be told
from the field and the source document before anything is run.  So there is one run of the fields,
of which an aborting mapping may see no more than a beginning.

Nothing else stops a mapping in order.  But what a field has put out is written before the next
field is run, and a write may ask for an item that no list can have; then the program panics, under
both policies.  Whether it does can be told from what is written, by the items that each write
reaches for in the output of those before it.

* `FieldMapping.IsFatal` — the fields that are fatal for a source document.
* `FieldMapping.run_reports` — what the report on a field tells of it.
* `FieldRuns` — the fields of a mapping with the reports on them, as a relation.
* `WritesFit` — writes that can all be made, one after the other.
* `FieldRuns.tryRunFields_goesOn`, `FieldRuns.tryRunFields_stops` — how far a mapping sees the run
  of its fields.
* `Mapping.policies_agree` — what a mapping does under the two policies.
-/

namespace Interchange

/-- **The fatal fields** for a source document: they are not to be skipped and must have a value,
but have no default, and in the document their value is missing or null. -/
structure FieldMapping.IsFatal (f : FieldMapping) (source : Value) : Prop where
  notSkipped : f.skip = false
  required : f.isRequired = true
  noDefault : f.defaultValue = none
  missing : source.at? f.sourcePath = none ∨ source.at? f.sourcePath = some .null

instance (f : FieldMapping) (source : Value) : Decidable (f.IsFatal source) :=
  decidable_of_iff
    (f.skip = false ∧ f.isRequired = true ∧ f.defaultValue = none ∧
      (source.at? f.sourcePath = none ∨ source.at? f.sourcePath = some .null))
    ⟨fun ⟨notSkipped, required, noDefault, missing⟩ => ⟨notSkipped, required, noDefault, missing⟩,
      fun ⟨notSkipped, required, noDefault, missing⟩ => ⟨notSkipped, required, noDefault, missing⟩⟩

/-- A null in the place of a required value is fatal. -/
example : ({ FieldMapping.ofPaths "driver.age" "age" .direct with isRequired := true }).IsFatal
    (.obj [("driver", .obj [("age", .null)])]) := by decide +kernel

/-- **What a report tells of its field.** -/
structure FieldMapping.Reports (f : FieldMapping) (source : Value) (r : FieldReport) : Prop where
  sourcePath : r.sourcePath = f.sourcePath
  targetPath : r.targetPath = f.targetPath
  /-- There is an output exactly with the two statuses for which it is written. -/
  output : r.output.isSome = true ↔ r.status = .success ∨ r.status = .default
  fatal : r.fatal = true ↔ f.IsFatal source
  /-- A fatal field is an error that names the path of the field. -/
  named : f.IsFatal source → r.status = .error ∧ r.error = some (requiredMessage f.sourcePath)

/-! ### One field -/

/-- A null counts as missing. -/
theorem Value.present?_eq_none_iff {source : Value} {path : String} :
    source.present? path = none ↔ source.at? path = none ∨ source.at? path = some .null := by
  unfold present?
  cases found : source.at? path with
  | none => simp
  | some v => cases v <;> simp [isNull]

namespace FieldMapping

variable {f : FieldMapping} {source : Value} {r : FieldReport}

/-- The report on a field that is not fatal, before the field was looked at. -/
theorem reports_blankReport (mild : ¬ f.IsFatal source) : f.Reports source f.blankReport where
  sourcePath := rfl
  targetPath := rfl
  output := by simp [blankReport]
  fatal := by simp [blankReport, mild]
  named fatal := absurd fatal mild

/-- Falling back on a default is no fault. -/
theorem Reports.orDefault (reports : f.Reports source r) (mild : ¬ f.IsFatal source) :
    f.Reports source (f.orDefault r) := by
  unfold FieldMapping.orDefault
  split
  · exact ⟨reports.sourcePath, reports.targetPath, by simp, reports.fatal,
      fun fatal => absurd fatal mild⟩
  · exact reports

/-- Without a source value, a field is fatal or falls back on its default, if it has one. -/
theorem reports_whenMissing (notSkipped : f.skip = false)
    (missing : source.present? f.sourcePath = none) : f.Reports source f.whenMissing := by
  unfold whenMissing
  split
  · next fatal =>
      rw [Bool.and_eq_true, Option.isNone_iff_eq_none] at fatal
      have isFatal : f.IsFatal source :=
        ⟨notSkipped, fatal.2, fatal.1, Value.present?_eq_none_iff.mp missing⟩
      exact ⟨rfl, rfl, by simp [blankReport], by simp [isFatal], fun _ => ⟨rfl, rfl⟩⟩
  · next notBoth =>
      have mild : ¬ f.IsFatal source := by
        intro fatal
        exact notBoth (by simp [fatal.noDefault, fatal.required])
      exact (reports_blankReport mild).orDefault mild

/-- **The report on a field** tells where it belongs, whether it is fatal and whether something is
to be written, whatever its transformation does. -/
theorem run_reports {σ : Type} (resolver : Resolver σ) (f : FieldMapping) (source context : Value)
    (s : σ) : f.Reports source ((f.run resolver source context).run s).1 := by
  unfold FieldMapping.run
  by_cases skipped : f.skip = true
  · have mild : ¬ f.IsFatal source := by
      intro fatal
      rw [fatal.notSkipped] at skipped
      cases skipped
    rw [if_pos skipped]
    by_cases default : f.skipBehavior = .useDefault
    · rw [if_pos default]
      exact (reports_blankReport mild).orDefault mild
    · rw [if_neg default]
      exact reports_blankReport mild
  · rw [if_neg skipped]
    cases present : source.present? f.sourcePath with
    | none => exact reports_whenMissing (by simpa using skipped) present
    | some v =>
        have mild : ¬ f.IsFatal source := by
          intro fatal
          rw [Value.present?_eq_none_iff.mpr fatal.missing] at present
          cases present
        dsimp only
        rw [StateT.run_bind]
        rcases (f.transformation.apply resolver v context).run s with ⟨e | w, next⟩
        · have failed : f.Reports source { f.blankReport with
              source := some v, status := .error, error := some e.message } :=
            ⟨rfl, rfl, by simp [blankReport], by simp [blankReport, mild],
              fun fatal => absurd fatal mild⟩
          exact failed.orDefault mild
        · have succeeded : f.Reports source { f.blankReport with
              source := some v, status := .success, output := some w } :=
            ⟨rfl, rfl, by simp, by simp [blankReport, mild], fun fatal => absurd fatal mild⟩
          exact succeeded

end FieldMapping

/-! ### All fields -/

section Fields

variable {σ : Type} {resolver : Resolver σ} {source : Value}

/-- **The fields of a mapping**, run one after the other: the state of the resolver before, the
reports, and the state of the resolver after. -/
inductive FieldRuns (resolver : Resolver σ) (source : Value) :
    List FieldMapping → σ → List FieldReport → σ → Prop
  | done {s : σ} : FieldRuns resolver source [] s [] s
  | step {f : FieldMapping} {fs : List FieldMapping} {r : FieldReport} {rs : List FieldReport}
      {s next last : σ} (ran : (f.run resolver source source).run s = (r, next))
      (rest : FieldRuns resolver source fs next rs last) :
      FieldRuns resolver source (f :: fs) s (r :: rs) last

/-- The first field is run, and the others in the state that it leaves. -/
theorem FieldRuns.next (f : FieldMapping) {fs : List FieldMapping} {rs : List FieldReport}
    {s last : σ}
    (rest : FieldRuns resolver source fs ((f.run resolver source source).run s).2 rs last) :
    FieldRuns resolver source (f :: fs) s (((f.run resolver source source).run s).1 :: rs) last :=
  .step rfl rest

/-- Fields can always be run to their end, since no field stops another one here. -/
theorem exists_fieldRuns (resolver : Resolver σ) (source : Value) (fields : List FieldMapping)
    (s : σ) : ∃ rs last, FieldRuns resolver source fields s rs last := by
  induction fields generalizing s with
  | nil => exact ⟨[], s, .done⟩
  | cons f fields ih =>
      obtain ⟨rs, last, rest⟩ := ih ((f.run resolver source source).run s).2
      exact ⟨_, last, .next f rest⟩

/-- The reports tell of the fields, one by one, -/
theorem FieldRuns.reports {fields : List FieldMapping} {rs : List FieldReport} {s last : σ}
    (runs : FieldRuns resolver source fields s rs last) :
    List.Forall₂ (fun f r => f.Reports source r) fields rs := by
  induction runs with
  | done => exact .nil
  | @step f _ _ _ s _ _ ran _ ih =>
      have reports := f.run_reports resolver source source s
      rw [ran] at reports
      exact .cons reports ih

/-- and belong to their paths. -/
theorem FieldRuns.targetPaths {fields : List FieldMapping} {rs : List FieldReport} {s last : σ}
    (runs : FieldRuns resolver source fields s rs last) :
    rs.map FieldReport.targetPath = fields.map FieldMapping.targetPath := by
  have reports := runs.reports
  clear runs
  induction reports with
  | nil => rfl
  | cons reported _ ih => rw [List.map_cons, List.map_cons, reported.targetPath, ih]

/-- What fields write, one after the other. -/
def writeAll (reports : List FieldReport) (output : Value) : Value :=
  reports.foldl (fun output r => r.writeTo output) output

/-- What fields write, one after the other, with the access to each item checked. -/
def tryWriteAll (reports : List FieldReport) (output : Value) : Except Panic Value :=
  reports.foldlM (fun output r => r.tryWriteTo output) output

theorem writeAll_cons (r : FieldReport) (reports : List FieldReport) (output : Value) :
    writeAll (r :: reports) output = writeAll reports (r.writeTo output) := rfl

theorem tryWriteAll_cons (r : FieldReport) (reports : List FieldReport) (output : Value) :
    tryWriteAll (r :: reports) output = r.tryWriteTo output >>= tryWriteAll reports :=
  List.foldlM_cons

/-- A mapping that ends with a report has seen the whole run of its fields. -/
theorem Mapping.runFields_eq_ok {policy : RequiredPolicy} {fields : List FieldMapping} {last : σ}
    {result : Value} {after : List FieldReport} :
    ∀ {s : σ} {output : Value} {before : List FieldReport},
      (runFields resolver source policy fields output before).run s =
          (.ok (result, after), last) →
        ∃ rs, FieldRuns resolver source fields s rs last ∧ result = writeAll rs output ∧
          after = before ++ rs := by
  induction fields with
  | nil =>
      intro s output before ended
      cases ended
      exact ⟨[], .done, rfl, (List.append_nil _).symm⟩
  | cons f fields ih =>
      intro s output before ended
      rcases ran : (f.run resolver source source).run s with ⟨r, next⟩
      rw [runFields, StateT.run_bind, ran] at ended
      change StateT.run (if _ then _ else _) next = _ at ended
      split at ended
      · cases ended
      · obtain ⟨rs, runs, rfl, rfl⟩ := ih ended
        exact ⟨r :: rs, .step ran runs, rfl, by simp⟩

/-- A field stops a mapping that aborts, if it is fatal; else what it has put out is written, and
the mapping goes on. -/
theorem Mapping.tryRunFields_cons {policy : RequiredPolicy} {f : FieldMapping} {r : FieldReport}
    {s next : σ} (ran : (f.run resolver source source).run s = (r, next))
    (fs : List FieldMapping) (output : Value) (before : List FieldReport) :
    (tryRunFields resolver source policy (f :: fs) output before).run s =
      if f.IsFatal source ∧ policy = .abort then .ok (.error f.sourcePath, next)
      else r.tryWriteTo output >>= fun output =>
        (tryRunFields resolver source policy fs output (before ++ [r])).run next := by
  have reports := f.run_reports resolver source source s
  rw [ran] at reports
  have fatal : r.fatal = true ↔ f.IsFatal source := reports.fatal
  have here : (liftM (f.run resolver source source) : Checked σ FieldReport).run s =
      .ok (r, next) := congrArg Except.ok ran
  rw [tryRunFields, StateT.run_bind, here]
  change StateT.run (if _ then _ else _) next = _
  by_cases stops : f.IsFatal source ∧ policy = .abort
  · rw [if_pos stops, if_pos (by simp [fatal.mpr stops.1, stops.2])]
    rfl
  · rw [if_neg stops, if_neg (by simpa [fatal] using stops), StateT.run_bind]
    cases r.tryWriteTo output <;> rfl

/-- **A mapping that is not stopped** sees the whole run of its fields. -/
theorem FieldRuns.tryRunFields_goesOn {policy : RequiredPolicy} {fields : List FieldMapping}
    {rs : List FieldReport} {s last : σ} (runs : FieldRuns resolver source fields s rs last)
    (goesOn : policy = .abort → ∀ f ∈ fields, ¬ f.IsFatal source) (output : Value)
    (before : List FieldReport) :
    (Mapping.tryRunFields resolver source policy fields output before).run s =
      (tryWriteAll rs output).map fun result => (.ok (result, before ++ rs), last) := by
  -- Whether a field stops the mapping depends on no earlier field, so the output and the reports
  -- before it are general.
  induction runs generalizing output before with
  | done => rw [List.append_nil]; rfl
  | @step _ _ r _ _ _ _ ran rest ih =>
      have here : ¬ (_ ∧ policy = .abort) := fun ⟨fatal, abort⟩ =>
        goesOn abort _ List.mem_cons_self fatal
      have later := fun abort f member => goesOn abort f (List.mem_cons_of_mem _ member)
      rw [Mapping.tryRunFields_cons ran, if_neg here, tryWriteAll_cons]
      cases r.tryWriteTo output with
      | error p => rfl
      | ok output =>
          refine (ih later output (before ++ [r])).trans ?_
          rw [List.append_assoc]
          rfl

/-- **A mapping that aborts** is stopped by its first fatal field, after what the fields before it
have put out was written. -/
theorem FieldRuns.tryRunFields_stops {fields : List FieldMapping} {rs : List FieldReport}
    {s last : σ} (runs : FieldRuns resolver source fields s rs last)
    {front rest : List FieldMapping} {first : FieldMapping}
    (split : fields = front ++ first :: rest)
    (mild : ∀ f ∈ front, ¬ f.IsFatal source) (fatal : first.IsFatal source) (output : Value)
    (before : List FieldReport) :
    ∃ next, (Mapping.tryRunFields resolver source .abort fields output before).run s =
      (tryWriteAll (rs.take front.length) output).map fun _ => (.error first.sourcePath, next) := by
  induction runs generalizing front output before with
  | done => cases front <;> cases split
  | @step f _ r _ _ next _ ran _ ih =>
      rw [Mapping.tryRunFields_cons ran]
      cases front with
      | nil =>
          cases split
          exact ⟨next, if_pos ⟨fatal, rfl⟩⟩
      | cons g front =>
          obtain ⟨rfl, behind⟩ := List.cons.inj split
          have later := fun f member => mild f (List.mem_cons_of_mem _ member)
          rw [if_neg fun stops => mild _ List.mem_cons_self stops.1, List.length_cons,
            List.take_succ_cons, tryWriteAll_cons]
          cases r.tryWriteTo output with
          | error p => exact ⟨next, rfl⟩
          | ok output => exact ih behind later output (before ++ [r])

/-! ### The whole mapping -/

namespace Mapping

variable {m : Mapping} {policy : RequiredPolicy} {rs : List FieldReport} {s last : σ}

/-- The output of a mapping is what its fields write into an empty object. -/
theorem run_ok {r : MappingReport} (ran : (m.run resolver source policy).run s = (.ok r, last)) :
    r.output = writeAll r.fields .empty ∧
      r.fields.map FieldReport.targetPath = m.fields.map FieldMapping.targetPath := by
  rw [Mapping.run, StateT.run_bind] at ran
  rcases ended : (runFields resolver source policy m.fields .empty []).run s with ⟨_ | result, next⟩
  · rw [ended] at ran
    cases ran
  · rw [ended] at ran
    cases ran
    obtain ⟨rs, runs, output, reports⟩ := runFields_eq_ok ended
    rw [List.nil_append] at reports
    rw [reports]
    exact ⟨output, runs.targetPaths⟩

/-- A mapping ends as its fields end, and reports what they have written. -/
theorem tryRun_of_tryRunFields {written : Except Panic Value} {next : σ}
    {outcome : Value → Except String (Value × List FieldReport)}
    (ran : (tryRunFields resolver source policy m.fields .empty []).run s =
      written.map fun result => (outcome result, next)) :
    (m.tryRun resolver source policy).run s = written.map fun result =>
      ((outcome result).map fun p => ⟨m.id, p.1, p.2⟩, next) := by
  rw [Mapping.tryRun, StateT.run_bind, ran]
  cases written with
  | error p => rfl
  | ok result =>
      dsimp only [Except.map]
      change Except.bind (.ok (outcome result, next)) _ = _
      dsimp only [Except.bind]
      cases outcome result <;> rfl

/-- A mapping that is not stopped reports on all of its fields, if all can be written; -/
theorem tryRun_of_goesOn (runs : FieldRuns resolver source m.fields s rs last)
    (goesOn : policy = .abort → ∀ f ∈ m.fields, ¬ f.IsFatal source) :
    (m.tryRun resolver source policy).run s =
      (tryWriteAll rs .empty).map fun output => (.ok ⟨m.id, output, rs⟩, last) :=
  tryRun_of_tryRunFields (runs.tryRunFields_goesOn goesOn .empty [])

/-- one that continues never is, -/
theorem tryRun_continue (runs : FieldRuns resolver source m.fields s rs last) :
    (m.tryRun resolver source .continue).run s =
      (tryWriteAll rs .empty).map fun output => (.ok ⟨m.id, output, rs⟩, last) :=
  tryRun_of_goesOn runs nofun

/-- and one that aborts is stopped by its first fatal field. -/
theorem tryRun_of_stops (runs : FieldRuns resolver source m.fields s rs last)
    {front rest : List FieldMapping} {first : FieldMapping}
    (split : m.fields = front ++ first :: rest) (mild : ∀ f ∈ front, ¬ f.IsFatal source)
    (fatal : first.IsFatal source) :
    ∃ next, (m.tryRun resolver source .abort).run s =
      (tryWriteAll (rs.take front.length) .empty).map fun _ => (.error first.sourcePath, next) := by
  obtain ⟨next, stopped⟩ := runs.tryRunFields_stops split mild fatal .empty []
  exact ⟨next, tryRun_of_tryRunFields stopped⟩

end Mapping

/-! ### What is written and counted -/

/-- Whether a field ended with success or with its default. -/
def FieldReport.isWritten (r : FieldReport) : Bool := r.status = .success || r.status = .default

/-- What a field that ended so put out, with the path that it is written to. -/
def FieldReport.write? (r : FieldReport) : Option (String × Value) :=
  if r.isWritten then r.output.map fun v => (r.targetPath, v) else none

/-- A field that ended so has put something out. -/
theorem FieldMapping.Reports.isSome_write? {f : FieldMapping} {r : FieldReport}
    (reports : f.Reports source r) : r.write?.isSome = r.isWritten := by
  rw [FieldReport.write?]
  cases written : r.isWritten with
  | false => rfl
  | true =>
      have status : r.status = .success ∨ r.status = .default := by
        simpa [FieldReport.isWritten] using written
      rw [if_pos rfl, Option.isSome_map, reports.output.mpr status]

/-- So among the fields of a mapping, something is to be written for exactly those. -/
theorem FieldRuns.isSome_write? {fields : List FieldMapping} {rs : List FieldReport} {s last : σ}
    (runs : FieldRuns resolver source fields s rs last) :
    ∀ r ∈ rs, r.write?.isSome = r.isWritten := by
  have reports := runs.reports
  clear runs
  induction reports with
  | nil => exact nofun
  | cons reported _ ih =>
      intro r member
      obtain rfl | member := List.mem_cons.mp member
      · exact reported.isSome_write?
      · exact ih r member

/-- What is to be written goes to the path of the report. -/
theorem FieldReport.path_of_write? (r : FieldReport) {w : String × Value}
    (write : r.write? = some w) : w.1 = r.targetPath := by
  rw [write?, Option.ite_none_right_eq_some, Option.map_eq_some_iff] at write
  obtain ⟨-, v, -, rfl⟩ := write
  rfl

/-- That is what is written for it, and nothing else is. -/
theorem FieldReport.writeTo_eq_elim (r : FieldReport) (output : Value) :
    r.writeTo output = r.write?.elim output fun w => output.write w.1 w.2 := by
  rw [writeTo, producedOutput, write?, isWritten]
  cases (decide (r.status = .success) || decide (r.status = .default)) <;>
    cases r.output <;> rfl

/-- Checked or not, the same is to be written. -/
theorem FieldReport.tryWriteTo_eq_elim (r : FieldReport) (output : Value) :
    r.tryWriteTo output = r.write?.elim (.ok output) fun w => output.checkedWrite w.1 w.2 := by
  rw [tryWriteTo, producedOutput, write?, isWritten]
  cases (decide (r.status = .success) || decide (r.status = .default)) <;>
    cases r.output <;> rfl

/-- A report either writes nothing, or one value at the path of its field. -/
theorem FieldReport.writeTo_eq (r : FieldReport) :
    (r.producedOutput = false ∧ ∀ output, r.writeTo output = output) ∨
      (r.producedOutput = true ∧
        ∃ v, ∀ output, r.writeTo output = output.set (Path.segments r.targetPath) v) := by
  unfold writeTo
  cases produced : r.producedOutput with
  | false => exact .inl ⟨rfl, fun _ => rfl⟩
  | true =>
      refine .inr ⟨rfl, ?_⟩
      cases found : r.output with
      | none => simp [producedOutput, found] at produced
      | some v => exact ⟨v, fun _ => rfl⟩

/-- Every field has ended in one of the four ways. -/
theorem MappingReport.countOf_total (r : MappingReport) :
    r.countOf .success + r.countOf .default + r.countOf .skipped + r.countOf .error =
      r.fields.length := by
  obtain ⟨id, output, fields⟩ := r
  unfold countOf
  induction fields with
  | nil => rfl
  | cons f fields ih =>
      cases status : f.status <;> simp [status] at ih ⊢ <;> omega

end Fields

/-! ### Writes that can be made -/

/-- What writes make of a document, one after the other. -/
def written (writes : List (String × Value)) (output : Value) : Value :=
  writes.foldl (fun output w => output.write w.1 w.2) output

/-- **Writes that can all be made**, one after the other: none of them reaches for the greatest word
as an index that a list of the output before it does not have. -/
def WritesFit : List (String × Value) → Value → Prop
  | [], _ => True
  | w :: writes, output =>
    (∀ t ∈ output.sites (Path.segments w.1), ¬ t.Overruns) ∧
      WritesFit writes (output.write w.1 w.2)

instance decidableWritesFit : (writes : List (String × Value)) → (output : Value) →
    Decidable (WritesFit writes output)
  | [], _ => isTrue trivial
  | w :: writes, output =>
    have := decidableWritesFit writes (output.write w.1 w.2)
    inferInstanceAs (Decidable (_ ∧ _))

/-- What some fields put out, to be written in order. -/
def writesOf (reports : List FieldReport) : List (String × Value) :=
  reports.filterMap FieldReport.write?

/-- **What fields write**: all of it if all can be written, and else the program panics. -/
theorem tryWriteAll_eq (reports : List FieldReport) (output : Value) :
    tryWriteAll reports output =
      if WritesFit (writesOf reports) output then .ok (written (writesOf reports) output)
      else .error .ofWrite := by
  induction reports generalizing output with
  | nil => exact (if_pos trivial).symm
  | cons r reports ih =>
      rw [tryWriteAll_cons, r.tryWriteTo_eq_elim]
      cases here : r.write? with
      | none =>
          have others : writesOf (r :: reports) = writesOf reports := List.filterMap_cons_none here
          rw [others]
          exact ih output
      | some w =>
          have first : writesOf (r :: reports) = w :: writesOf reports :=
            List.filterMap_cons_some here
          rw [first, Option.elim_some]
          by_cases short : ∀ t ∈ output.sites (Path.segments w.1), ¬ t.Overruns
          · have others : WritesFit (w :: writesOf reports) output ↔
                WritesFit (writesOf reports) (output.write w.1 w.2) := and_iff_right short
            rw [Value.checkedWrite_eq_ok short]
            exact (ih _).trans (if_congr others rfl rfl).symm
          · have long : ∃ t ∈ output.sites (Path.segments w.1), t.Overruns := by
              simpa using short
            have wide : ¬ WritesFit (w :: writesOf reports) output := fun fit => short fit.1
            rw [Value.checkedWrite_eq_error long, if_neg wide]
            rfl

theorem map_tryWriteAll {α : Type} (f : Value → α) (reports : List FieldReport) (output : Value) :
    (tryWriteAll reports output).map f =
      if WritesFit (writesOf reports) output then .ok (f (written (writesOf reports) output))
      else .error .ofWrite := by
  rw [tryWriteAll_eq]
  split <;> rfl

/-- A mapping that continues and whose fields write nothing that does not fit ends. -/
theorem Mapping.tryRun_of_writesFit {σ : Type} {resolver : Resolver σ} {source : Value}
    {m : Mapping} {rs : List FieldReport} {s last : σ}
    (runs : FieldRuns resolver source m.fields s rs last) (fit : WritesFit (writesOf rs) .empty) :
    (m.tryRun resolver source .continue).run s =
      .ok (.ok ⟨m.id, written (writesOf rs) .empty, rs⟩, last) := by
  rw [tryRun_continue runs, map_tryWriteAll, if_pos fit]

/-! ### The two policies -/

/-- **What a mapping does under the two policies**: if it continues, it ends with a report and a
state of the resolver, and if it aborts, it does the same unless a field is fatal.  Under both the
program panics where something is to be written that cannot be. -/
structure Mapping.PoliciesAgree {σ : Type} (m : Mapping) (resolver : Resolver σ) (source : Value)
    (s : σ) (r : MappingReport) (last : σ) : Prop where
  mappingId : r.mappingId = m.id
  /-- Every field is run, in order, and what is reported on it holds of it. -/
  ran : FieldRuns resolver source m.fields s r.fields last
  reports : List.Forall₂ (fun f fr => f.Reports source fr) m.fields r.fields
  counted : r.countOf .success + r.countOf .default + r.countOf .skipped + r.countOf .error =
    m.fields.length
  /-- Something is to be written for exactly the fields with success or a default, -/
  chosen : ∀ fr ∈ r.fields, fr.write?.isSome = fr.isWritten
  /-- and it is written in order to an empty object. -/
  output : r.output = written (writesOf r.fields) .empty
  /-- A mapping that continues does not fail, unless something cannot be written. -/
  goesOn : (m.tryRun resolver source .continue).run s =
    if WritesFit (writesOf r.fields) .empty then .ok (.ok r, last) else .error .ofWrite
  /-- A mapping that aborts fails with the path of its first fatal field, unless something that the
  fields before it put out cannot be written. -/
  stops : ∀ front first rest, m.fields = front ++ first :: rest →
    (∀ f ∈ front, ¬ f.IsFatal source) → first.IsFatal source →
      ∃ next, (m.tryRun resolver source .abort).run s =
        if WritesFit (writesOf (r.fields.take front.length)) .empty then
          .ok (.error first.sourcePath, next)
        else .error .ofWrite
  /-- Without a fatal field it makes no difference that a mapping aborts. -/
  sameOtherwise : (∀ f ∈ m.fields, ¬ f.IsFatal source) →
    (m.tryRun resolver source .abort).run s = (m.tryRun resolver source .continue).run s

/-- **The two policies agree**, for every mapping, source document and resolver. -/
theorem Mapping.policies_agree {σ : Type} (m : Mapping) (resolver : Resolver σ) (source : Value)
    (s : σ) : ∃ r last, m.PoliciesAgree resolver source s r last := by
  obtain ⟨rs, last, runs⟩ := exists_fieldRuns resolver source m.fields s
  have reports := runs.reports
  refine ⟨⟨m.id, written (writesOf rs) .empty, rs⟩, last, ?_⟩
  exact {
    mappingId := rfl
    ran := runs
    reports := reports
    counted := by rw [MappingReport.countOf_total, reports.length_eq]
    chosen := runs.isSome_write?
    output := rfl
    goesOn := (tryRun_continue runs).trans (map_tryWriteAll _ rs .empty)
    stops := fun front first rest parted mild fatal => by
      obtain ⟨next, stopped⟩ := tryRun_of_stops runs parted mild fatal
      exact ⟨next, stopped.trans (map_tryWriteAll _ (rs.take front.length) .empty)⟩
    sameOtherwise := fun mild => by
      rw [tryRun_of_goesOn runs fun _ => mild, tryRun_continue runs] }

/-- A list of rates is copied, and something is to be written to its item at the greatest word.
Nothing is fatal, and the program panics. -/
theorem Mapping.rates_panic :
    let rates := FieldMapping.ofPaths "rates" "rates" .direct
    let last := FieldMapping.ofPaths "x" "rates[18446744073709551615]" .direct
    let m : Mapping := ⟨"m", "", .request, true, [rates, last]⟩
    let source := Value.obj [("rates", .list [.bool true]), ("x", .bool false)]
    (∀ f ∈ m.fields, ¬ f.IsFatal source) ∧
      (m.tryRun (Tables.resolver [] : Resolver Unit) source .continue).run () =
        .error (.outOfBounds ⟨18446744073709551615, 0⟩) := by
  intro rates last m source
  refine ⟨by decide +kernel, ?_⟩
  have runs := @FieldRuns.next Unit (Tables.resolver []) source rates _ _ () _ (.next last .done)
  rw [tryRun_continue (m := m) runs, tryWriteAll_eq, if_neg (by decide +kernel)]
  rfl

end Interchange
