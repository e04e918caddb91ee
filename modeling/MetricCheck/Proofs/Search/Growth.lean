import Mathlib.Data.List.Infix
import MetricCheck.Proofs.Search.Verdict

/-!
This module contains how reports grow. A search only adds to its report: names, values and records
come in at the end, and nothing that stands in the report is taken back, whatever the search ends
in.
-/

namespace MetricCheck

namespace Report

def lookup (name : Value) : List (Value × List Value) → List Value
  | [] => []
  | (k, vs) :: rest => if k.same name then vs else lookup name rest

def valuesUnder (report : Report) (name : Value) : List Value :=
  lookup name report.values

/--
A report holds all that an earlier one does, and what it adds to a row stands at the end of it.
-/
structure GrowsTo (earlier later : Report) : Prop where
  familyNames : earlier.familyNames ⊆ later.familyNames
  sampleNames : earlier.sampleNames ⊆ later.sampleNames
  values : ∀ name, earlier.valuesUnder name <+: later.valuesUnder name
  records : earlier.records <+: later.records

theorem GrowsTo.refl (report : Report) : report.GrowsTo report :=
  ⟨List.Subset.refl _, List.Subset.refl _, fun _ => List.prefix_rfl, List.prefix_rfl⟩

theorem GrowsTo.trans {a b c : Report} (hab : a.GrowsTo b) (hbc : b.GrowsTo c) : a.GrowsTo c :=
  ⟨List.Subset.trans hab.familyNames hbc.familyNames,
    List.Subset.trans hab.sampleNames hbc.sampleNames,
    fun name => (hab.values name).trans (hbc.values name), hab.records.trans hbc.records⟩

theorem subset_addDistinct (vs : List Value) (v : Value) : vs ⊆ Value.addDistinct vs v := by
  unfold Value.addDistinct
  split
  . exact List.Subset.refl vs
  . exact List.subset_append_left vs [v]

theorem lookup_prefix_addUnder (name other value : Value) (entries : List (Value × List Value)) :
    lookup name entries <+: lookup name (addUnder other value entries) := by
  induction entries with
  | nil => exact List.nil_prefix
  | cons entry rest ih =>
    obtain ⟨k, vs⟩ := entry
    rw [addUnder]
    split
    . simp only [lookup]
      split
      . exact List.prefix_append vs [value]
      . exact List.prefix_rfl
    . simp only [lookup]
      split
      . exact List.prefix_rfl
      . exact ih

variable {report report' : Report}

theorem growsTo_of_addFamilyName {name : Value} (h : report.addFamilyName name = .ok report') :
    report.GrowsTo report' := by
  unfold addFamilyName at h
  split at h
  . cases h
    exact ⟨subset_addDistinct _ _, List.Subset.refl _, fun _ => List.prefix_rfl, List.prefix_rfl⟩
  . contradiction

theorem growsTo_of_addSampleName {name : Value} (h : report.addSampleName name = .ok report') :
    report.GrowsTo report' := by
  unfold addSampleName at h
  split at h
  . cases h
    exact ⟨List.Subset.refl _, subset_addDistinct _ _, fun _ => List.prefix_rfl, List.prefix_rfl⟩
  . contradiction

theorem growsTo_of_addValue {name value : Value} (h : report.addValue name value = .ok report') :
    report.GrowsTo report' := by
  unfold addValue at h
  split at h
  . cases h
    exact ⟨List.Subset.refl _, List.Subset.refl _,
      fun other => lookup_prefix_addUnder other name value report.values, List.prefix_rfl⟩
  . contradiction

theorem growsTo_addRecord (report : Report) (record : LabelRecord) :
    report.GrowsTo (report.addRecord record) :=
  ⟨List.Subset.refl _, List.Subset.refl _, fun _ => List.prefix_rfl,
    List.prefix_append report.records [record]⟩

end Report

namespace Request

variable {r : Request}

theorem searchSamples_growsTo (found : Bool) (report : Report) (samples : List SampleRecord) :
    report.GrowsTo (r.searchSamples found report samples).1 := by
  induction samples generalizing found report with
  | nil => exact .refl report
  | cons s rest ih =>
    rw [searchSamples]
    split
    . exact .refl report
    . next noted hnoted =>
      obtain ⟨name, _, hadded⟩ := Except.of_bind_eq_ok hnoted
      have hgrows := Report.growsTo_of_addSampleName hadded
      split
      . exact hgrows
      . exact hgrows.trans (ih _ _)
      . split
        . exact hgrows
        . exact hgrows.trans (ih _ _)
      . split
        . exact hgrows
        . next valued hvalued =>
          obtain ⟨_, _, hadded⟩ := Except.of_bind_eq_ok hvalued
          replace hgrows := hgrows.trans (Report.growsTo_of_addValue hadded)
          split
          . exact hgrows
          . split
            . exact hgrows
            . exact hgrows.trans (ih _ _)
      . next record _ =>
        exact hgrows.trans ((Report.growsTo_addRecord noted record).trans (ih _ _))

theorem searchFamily_growsTo (family : FamilyRecord) (report : Report) :
    report.GrowsTo (r.searchFamily family report).1 := by
  unfold searchFamily
  split
  . exact .refl report
  . exact searchSamples_growsTo false report _

def visitFamily (r : Request) (found : Bool) (report : Report) (family : FamilyRecord) :
    Report × Except Fault (Option Bool) :=
  match (do report.addFamilyName (← family.name)) with
  | .error fault => (report, .error fault)
  | .ok noted =>
    match r.candidacy family with
    | .error fault => (noted, .error fault)
    | .ok .unrelated => (noted, .ok none)
    | .ok candidacy =>
      let (searched, verdict) :=
        if candidacy = .extending && !r.isConstrained then (noted, .ok true)
        else r.searchFamily family noted
      (searched, verdict.map fun own => some (if candidacy = .derived then own || found else own))

theorem searchFamilies_cons_eq (found : Bool) (report : Report) (family : FamilyRecord)
    (rest : List FamilyRecord) :
    r.searchFamilies found report (family :: rest) =
      match r.visitFamily found report family with
      | (visited, .error fault) => (visited, .error fault)
      | (visited, .ok none) => r.searchFamilies found visited rest
      | (visited, .ok (some found)) =>
        if found && r.stopsWhenFound then (visited, .ok found)
        else r.searchFamilies found visited rest := by
  rw [searchFamilies, visitFamily]
  cases (do report.addFamilyName (← family.name)) with
  | error fault => rfl
  | ok noted =>
    cases r.candidacy family with
    | error fault => rfl
    | ok candidacy =>
      cases candidacy with
      | unrelated => rfl
      | extending =>
        cases r.isConstrained with
        | false => simp [Except.map]
        | true =>
          simp only [Bool.not_true, Bool.and_false, Bool.false_eq_true, ↓reduceIte]
          obtain ⟨searched, _ | own⟩ := r.searchFamily family noted <;> rfl
      | derived =>
        simp only [reduceCtorEq, decide_false, Bool.false_and, Bool.false_eq_true, ↓reduceIte]
        obtain ⟨searched, _ | own⟩ := r.searchFamily family noted <;> rfl

theorem visitFamily_growsTo (found : Bool) (report : Report) (family : FamilyRecord) :
    report.GrowsTo (r.visitFamily found report family).1 := by
  unfold visitFamily
  split
  . exact .refl report
  . next noted hnoted =>
    obtain ⟨_, _, hadded⟩ := Except.of_bind_eq_ok hnoted
    have hgrows := Report.growsTo_of_addFamilyName hadded
    split
    . exact hgrows
    . exact hgrows
    . dsimp only
      split
      . exact hgrows
      . exact hgrows.trans (searchFamily_growsTo family noted)

theorem searchFamilies_growsTo (found : Bool) (report : Report) (families : List FamilyRecord) :
    report.GrowsTo (r.searchFamilies found report families).1 := by
  induction families generalizing found report with
  | nil => exact .refl report
  | cons family rest ih =>
    have hvisit := visitFamily_growsTo (r := r) found report family
    rw [searchFamilies_cons_eq]
    split
    next visited _ heq =>
      rw [heq] at hvisit
      exact hvisit
    next visited heq =>
      rw [heq] at hvisit
      exact hvisit.trans (ih _ _)
    next visited found' heq =>
      rw [heq] at hvisit
      split
      . exact hvisit
      . exact hvisit.trans (ih _ _)

-- If the search has stopped, or failed, the rest of the longer row is never looked at.
theorem searchFamilies_append {found : Bool} (hfound : (found && r.stopsWhenFound) = false)
    (report : Report) (families more : List FamilyRecord) :
    r.searchFamilies found report (families ++ more) =
      match r.searchFamilies found report families with
      | (report, .error fault) => (report, .error fault)
      | (report, .ok found) =>
        if found && r.stopsWhenFound then (report, .ok found)
        else r.searchFamilies found report more := by
  induction families generalizing found report with
  | nil => simp [searchFamilies, hfound]
  | cons family rest ih =>
    rw [List.cons_append, searchFamilies_cons_eq, searchFamilies_cons_eq]
    obtain ⟨visited, _ | _ | found'⟩ := r.visitFamily found report family
    . rfl
    . exact ih hfound visited
    . dsimp only
      cases hstop : found' && r.stopsWhenFound with
      | true => simp [hstop]
      | false => simp [ih hstop visited]

theorem evaluate_of_search {families : List FamilyRecord} {searched : Report} {found : Bool}
    (h : r.searchFamilies false .empty families = (searched, .ok found)) :
    r.evaluate families = .ok { searched with matched := r.present == found } := by
  rw [evaluate, h]
  rfl

theorem evaluate_of_search_error {families : List FamilyRecord} {searched : Report} {fault : Fault}
    (h : r.searchFamilies false .empty families = (searched, .error fault)) :
    r.evaluate families = .error fault := by
  rw [evaluate, h]
  rfl

theorem evaluate_append (r : Request) (families more : List FamilyRecord) :
    ((r.isConstrained = true ∨ r.present = true) →
      ∀ report, r.evaluate families = .ok report → report.matched = r.present →
        r.evaluate (families ++ more) = .ok report) ∧
    (∀ fault, r.evaluate families = .error fault → r.evaluate (families ++ more) = .error fault) ∧
    (∀ report report', r.evaluate families = .ok report →
      r.evaluate (families ++ more) = .ok report' → report.GrowsTo report') := by
  have hnothing : (false && r.stopsWhenFound) = false := rfl
  have happend := searchFamilies_append hnothing .empty families more
  rcases hsearch : r.searchFamilies false .empty families with ⟨searched, fault | found⟩
  . rw [hsearch] at happend
    simp [evaluate_of_search_error hsearch, evaluate_of_search_error happend]
  . simp only [hsearch] at happend
    rw [evaluate_of_search hsearch]
    cases hstop : found && r.stopsWhenFound with
    | true =>
      rw [if_pos hstop] at happend
      rw [evaluate_of_search happend]
      refine ⟨fun _ _ h _ => h, fun _ h => h, ?_⟩
      intro report report' hreport hreport'
      rw [hreport, Except.ok.injEq] at hreport'
      exact hreport' ▸ .refl report
    | false =>
      rw [hstop, if_neg Bool.false_ne_true] at happend
      refine ⟨?_, by simp, ?_⟩
      . intro hstops report hreport hmatched
        cases hreport
        have hfound : found = true := by
          cases hpresent : r.present <;> simpa [hpresent] using hmatched
        simp [hfound, stopsWhenFound] at hstop
        simp [hstop] at hstops
      . intro report report' hreport hreport'
        have hgrows := searchFamilies_growsTo (r := r) found searched more
        cases hreport
        rcases hmore : r.searchFamilies found searched more with ⟨continued, fault | found'⟩
        . rw [hmore] at happend
          simp [evaluate_of_search_error happend] at hreport'
        . rw [hmore] at happend hgrows
          rw [evaluate_of_search happend, Except.ok.injEq] at hreport'
          rw [← hreport']
          exact ⟨hgrows.familyNames, hgrows.sampleNames, hgrows.values, hgrows.records⟩

theorem evaluate_of_verdict {families : List FamilyRecord} {b : Bool}
    (h : r.verdict families = .ok b) :
    ∃ report, r.evaluate families = .ok report ∧ report.matched = b := by
  unfold verdict at h
  cases hreport : r.evaluate families with
  | error fault => simp [hreport, Except.map] at h
  | ok report =>
    simp only [hreport, Except.map, Except.ok.injEq] at h
    exact ⟨report, rfl, h⟩

theorem evaluate_append_jobsSnapshot :
    ∃ report, (jobsRequest true .greater).evaluate jobsSnapshot = .ok report ∧
      report.matched = true ∧
        (jobsRequest true .greater).evaluate [.value .null] = .error .missingMember ∧
          (jobsRequest true .greater).evaluate (jobsSnapshot ++ [.value .null]) = .ok report := by
  have hverdict : (jobsRequest true .greater).verdict jobsSnapshot = .ok true := by decide +kernel
  obtain ⟨report, hreport, hmatched⟩ := evaluate_of_verdict hverdict
  refine ⟨report, hreport, hmatched, rfl, ?_⟩
  exact (evaluate_append _ _ _).1 (.inl rfl) report hreport hmatched

end Request

end MetricCheck
