import MetricCheck.Family
import MetricCheck.Proofs.Sample.Adaptation

/-!
This module contains what becomes of a row of records: each gives its family, or the first one that
does not fit gives its fault and the ones after it are left. The records of the samples in a family
are taken in the same way.
-/

namespace MetricCheck

/--
What a record gives: a family gives itself, and an object with a name and with samples the family of
these, or else the fault of the first record among its samples that gives one.
-/
inductive FamilyRecord.Gives : FamilyRecord → Except Fault Family → Prop
  | family (f : Family) : Gives (.family f) (.ok f)
  | value (v : Value) : Gives (.value v) (.error .missingMember)
  | noName (samples : Option (List SampleRecord)) :
      Gives (.fields none samples) (.error .missingMember)
  | noSamples (name : Value) : Gives (.fields (some name) none) (.error .missingMember)
  | fields (name : Value) {records left : List SampleRecord}
      {samples : Except Fault (List Sample)} :
      InTurn SampleRecord.Gives records samples left →
      Gives (.fields (some name) (some records))
        (samples.map fun samples => ⟨name, samples.map .sample⟩)

namespace FamilyRecord

variable {record : FamilyRecord} {records left : List FamilyRecord} {families : List Family}
  {outcome : Except Fault (List Family)} {fault : Fault}

theorem toFamily_fields (name : Value) (records : List SampleRecord) :
    toFamily (.fields (some name) (some records)) =
      (records.mapM SampleRecord.toSample).map fun samples => ⟨name, samples.map .sample⟩ := by
  change (do
    let samples ← records.mapM SampleRecord.toSample
    return Family.mk name (samples.map .sample)) = _
  cases records.mapM SampleRecord.toSample <;> rfl

theorem gives_toFamily (record : FamilyRecord) : record.Gives record.toFamily := by
  cases record with
  | family f => exact .family f
  | value v => exact .value v
  | fields name samples =>
    cases name with
    | none => exact .noName samples
    | some name =>
      cases samples with
      | none => exact .noSamples name
      | some records =>
        obtain ⟨left, hturn⟩ :=
          (InTurn.exists_iff_mapM @SampleRecord.gives_iff).mpr (Eq.refl (records.mapM _))
        rw [toFamily_fields]
        exact .fields name hturn

theorem Gives.unique {x y : Except Fault Family} (hx : record.Gives x) (hy : record.Gives y) :
    x = y := by
  cases hx with
  | fields name hsamples =>
    cases hy with
    | fields _ hsamples' =>
      have hsame := hsamples.unique (fun _ _ _ h h' => h.unique h') hsamples'
      rw [hsame.1]
  | _ => cases hy; rfl

theorem inTurn_toFamilies (records : List FamilyRecord) :
    InTurn Gives records (toFamilies records).1 (toFamilies records).2 := by
  induction records with
  | nil => exact .done .nil
  | cons record rest ih =>
    have hrecord := record.gives_toFamily
    rw [toFamilies]
    cases hfamily : record.toFamily with
    | error fault =>
      rw [hfamily] at hrecord
      exact .cons_error hrecord
    | ok f =>
      rw [hfamily] at hrecord
      exact ih.cons_ok hrecord

theorem inTurn_iff : InTurn Gives records outcome left ↔ toFamilies records = (outcome, left) := by
  have hadapted := inTurn_toFamilies records
  constructor
  . intro h
    obtain ⟨houtcome, hleft⟩ := hadapted.unique (fun _ _ _ hx hy => hx.unique hy) h
    exact Prod.ext houtcome hleft
  . intro h
    rwa [h] at hadapted

theorem inTurn_families (families : List Family) :
    InTurn Gives (families.map .family) (.ok families) [] := by
  apply InTurn.done
  rw [List.forall₂_map_left_iff]
  exact List.forall₂_same.mpr fun f _ => .family f

end FamilyRecord

end MetricCheck
