import MetricCheck.Proofs.Explanation.Total
import MetricCheck.Proofs.Search.Alike

/-!
This module contains what an expectation says about the request that it describes. If its predicates
are trees it can be read back piece by piece, so two requests with the same expectation are alike:
on every snapshot they agree on the verdict and on the words that explain it.
-/

namespace MetricCheck

section Mismatch

variable {r r' : Request} {report report' : Report}

theorem LabelMismatch.Alike.mismatchLine_eq {a b : LabelMismatch} (h : a.Alike b) :
    Explanation.mismatchLine a = Explanation.mismatchLine b := by
  rw [Explanation.mismatchLine, Explanation.mismatchLine, h.name.describe, h.expected.describe,
    h.actual]

theorem LabelRecord.Alike.recordBlock_eq {a b : LabelRecord} (h : a.Alike b) (present : Bool) :
    Explanation.recordBlock present a = Explanation.recordBlock present b := by
  have hmissing := Predicate.map_describe_eq h.missing
  have hmismatches : a.mismatches.map Explanation.mismatchLine =
      b.mismatches.map Explanation.mismatchLine := by
    apply map_eq_of_forall₂ _ h.mismatches
    intro x y hxy
    exact hxy.mismatchLine_eq
  rw [Explanation.recordBlock, Explanation.recordBlock, Explanation.labelFaults,
    Explanation.labelFaults, h.labels, hmissing, hmismatches, isEmpty_eq_of_forall₂ h.missing,
    isEmpty_eq_of_forall₂ h.mismatches]

theorem Request.Alike.byValues_eq (h : r.Alike r') {rule rule' : Predicate}
    (hrule : rule.Alike rule') (hreport : report.Alike report') :
    Explanation.byValues r rule report = Explanation.byValues r' rule' report' := by
  rw [Explanation.byValues, Explanation.byValues, h.present, hrule.describe, Report.sortedValues,
    Report.sortedValues, hreport.values]

theorem Request.Alike.byLabels_eq (h : r.Alike r') (hreport : report.Alike report') :
    Explanation.byLabels r report = Explanation.byLabels r' report' := by
  have hrecords :
      report.records.map (Explanation.recordBlock r'.present) =
        report'.records.map (Explanation.recordBlock r'.present) := by
    apply map_eq_of_forall₂ _ hreport.records
    intro a b hab
    exact hab.recordBlock_eq r'.present
  rw [Explanation.byLabels, Explanation.byLabels, h.present, hrecords]

theorem Request.Alike.byNames_eq (h : r.Alike r') (familyNames sampleNames : List Value) :
    Explanation.byNames r familyNames sampleNames =
      Explanation.byNames r' familyNames sampleNames := by
  rw [Explanation.byNames, Explanation.byNames, h.present, h.name]

theorem Request.Alike.renderMismatch_eq (h : r.Alike r') (hreport : report.Alike report') :
    r.renderMismatch report = r'.renderMismatch report' := by
  have hvalue := h.valueRule
  simp only [renderMismatch, h.byLabels_eq hreport, h.byNames_eq, hreport.values,
    isEmpty_eq_of_forall₂ hreport.records, Report.sortedFamilyNames, Report.sortedSampleNames,
    hreport.familyNames, hreport.sampleNames]
  generalize r.valueRule = rule at hvalue ⊢
  generalize r'.valueRule = rule' at hvalue ⊢
  cases hvalue with
  | none => cases report'.values <;> rfl
  | some hrule =>
    cases report'.values with
    | nil => rfl
    | cons _ _ => exact h.byValues_eq hrule hreport

end Mismatch

section Reading

def valueSpelling (rule : Option Predicate) : List Char :=
  rule.elim [] fun p => " value: ".toList ++ p.spelling

def LabelRule.spelling (rule : LabelRule) : List Char :=
  rule.name.spelling ++ '=' :: (rule.value.spelling ++ ['\n'])

def labelsSpelling (rules : List LabelRule) : List Char :=
  if rules.isEmpty then [] else " and labels:\n".toList ++ rules.flatMap LabelRule.spelling

def headingSpelling (kind : SourceKind) (present : Bool) : List Char :=
  "a ".toList ++ kind.title.toList ++ (if present then [] else " not".toList) ++
    " containing a sample with name: ".toList

variable {r r' : Request} {rules rules' : List LabelRule} {u w : List Char}

theorem heading_spells (kind : SourceKind) (present : Bool) :
    (Rendering.ofText ("a " ++ kind.title ++ (if present then "" else " not") ++
      " containing a sample with name: ")).Spells (headingSpelling kind present) := by
  refine ⟨rfl, ?_⟩
  cases present <;> simp [headingSpelling]

theorem rules_spells (hrules : ∀ rule ∈ rules, rule.name.IsTree ∧ rule.value.IsTree)
    (hdescribes : ∀ rule ∈ rules,
      rule.name.describe.fault? = none ∧ rule.value.describe.fault? = none) :
    (Rendering.concat (rules.map fun rule =>
      rule.name.describe ++ Rendering.ofText "=" ++ rule.value.describe ++
        Rendering.ofText "\n")).Spells (rules.flatMap LabelRule.spelling) := by
  apply Rendering.spells_concat
  intro rule hrule
  have hname := (hrules rule hrule).1.spells (hdescribes rule hrule).1
  have hvalue := (hrules rule hrule).2.spells (hdescribes rule hrule).2
  rw [LabelRule.spelling, List.append_cons, ← List.append_assoc]
  exact ((hname.append (Rendering.spells_ofText "=")).append hvalue).append
    (Rendering.spells_ofText "\n")

theorem valueSpelling_none : valueSpelling none = [] := rfl

theorem valueSpelling_some (p : Predicate) :
    valueSpelling (some p) = " value: ".toList ++ p.spelling := rfl

theorem headingSpelling_append_inj {kind kind' : SourceKind} {present present' : Bool}
    (h : headingSpelling kind present ++ u = headingSpelling kind' present' ++ w) :
    kind = kind' ∧ present = present' ∧ u = w := by
  cases kind <;> cases kind' <;> cases present <;> cases present' <;>
    simp_all [headingSpelling, SourceKind.title]

theorem rules_alike_of_spelling (hrules : ∀ rule ∈ rules, rule.name.IsTree ∧ rule.value.IsTree)
    (hrules' : ∀ rule ∈ rules', rule.name.IsTree ∧ rule.value.IsTree)
    (h : rules.flatMap LabelRule.spelling = rules'.flatMap LabelRule.spelling) :
    List.Forall₂ LabelRule.Alike rules rules' := by
  induction rules generalizing rules' with
  | nil =>
    cases rules' with
    | nil => exact .nil
    | cons rule' rest' => simp [LabelRule.spelling] at h
  | cons rule rest ih =>
    cases rules' with
    | nil => simp [LabelRule.spelling] at h
    | cons rule' rest' =>
      rw [List.forall_mem_cons] at hrules hrules'
      simp only [List.flatMap_cons, LabelRule.spelling, List.append_assoc, List.cons_append] at h
      obtain ⟨hname, hvalue⟩ := hrules.1.1.readsBack hrules'.1.1 h
      rw [List.cons.injEq] at hvalue
      obtain ⟨hvalue, hrest⟩ := hrules.1.2.readsBack hrules'.1.2 hvalue.2
      simp only [List.nil_append, List.cons.injEq, true_and] at hrest
      exact .cons ⟨hname, hvalue⟩ (ih hrules.2 hrules'.2 hrest)

theorem rules_alike_of_labelsSpelling
    (hrules : ∀ rule ∈ rules, rule.name.IsTree ∧ rule.value.IsTree)
    (hrules' : ∀ rule ∈ rules', rule.name.IsTree ∧ rule.value.IsTree)
    (h : labelsSpelling rules = labelsSpelling rules') :
    List.Forall₂ LabelRule.Alike rules rules' := by
  apply rules_alike_of_spelling hrules hrules'
  cases rules with
  | nil =>
    cases rules' with
    | nil => rfl
    | cons _ _ => simp [labelsSpelling] at h
  | cons _ _ =>
    cases rules' with
    | nil => simp [labelsSpelling] at h
    | cons _ _ => simpa [labelsSpelling] using h

theorem valueSpelling_append_inj {rule rule' : Option Predicate} (hrule : ∀ p ∈ rule, p.IsTree)
    (hrule' : ∀ p ∈ rule', p.IsTree)
    (h : valueSpelling rule ++ labelsSpelling rules =
      valueSpelling rule' ++ labelsSpelling rules') :
    Option.Rel Predicate.Alike rule rule' ∧ labelsSpelling rules = labelsSpelling rules' := by
  -- The parts about the value and about the labels start with different words.
  have hparts : ∀ (rules : List LabelRule) (cs : List Char),
      labelsSpelling rules ≠ " value: ".toList ++ cs := by
    intro rules cs
    unfold labelsSpelling
    split <;> simp
  cases rule with
  | none =>
    cases rule' with
    | none => exact ⟨.none, by simpa only [valueSpelling_none, List.nil_append] using h⟩
    | some p' =>
      rw [valueSpelling_none, valueSpelling_some, List.nil_append, List.append_assoc] at h
      exact absurd h (hparts rules _)
  | some p =>
    cases rule' with
    | none =>
      rw [valueSpelling_none, valueSpelling_some, List.nil_append, List.append_assoc] at h
      exact absurd h.symm (hparts rules' _)
    | some p' =>
      rw [valueSpelling_some, valueSpelling_some, List.append_assoc, List.append_assoc,
        List.append_cancel_left_eq] at h
      obtain ⟨halike, hlabels⟩ := (hrule p rfl).readsBack (hrule' p' rfl) h
      exact ⟨.some halike, hlabels⟩

end Reading

namespace Request

variable {r r' : Request} {text : String}

theorem IsReadable.renderExpectation_spells (h : r.IsReadable) (hdescribes : r.Describes)
    {name : String} (hname : r.name = .text name) :
    r.renderExpectation.Spells (headingSpelling r.kind r.present ++
      ((Text.quoted name).toList ++ (valueSpelling r.valueRule ++ labelsSpelling r.rules))) := by
  rw [← List.append_assoc, ← List.append_assoc, renderExpectation, hname, Value.render_text]
  apply Rendering.Spells.append
  . apply Rendering.Spells.append
    . apply Rendering.Spells.append
      . apply heading_spells
      . exact Rendering.spells_ofText _
    . cases hrule : r.valueRule with
      | none => exact Rendering.spells_ofText ""
      | some rule =>
        have hspells := (h.valueRule rule hrule).spells (hdescribes.valueRule rule hrule)
        exact (Rendering.spells_ofText _).append hspells
  . unfold labelsSpelling
    split
    . exact Rendering.spells_ofText ""
    . exact (Rendering.spells_ofText _).append (rules_spells h.rules hdescribes.rules)

theorem alike_of_expectationText (hr : r.IsReadable) (hr' : r'.IsReadable)
    (htext : r.expectationText = .ok text) (htext' : r'.expectationText = .ok text) :
    r.Alike r' := by
  obtain ⟨name, hname⟩ := hr.name
  obtain ⟨name', hname'⟩ := hr'.name
  have hspells := hr.renderExpectation_spells (hr.describes htext) hname
  have hspells' := hr'.renderExpectation_spells (hr'.describes htext') hname'
  have hspelling := hspells.eq_of_complete hspells' (htext.trans htext'.symm)
  obtain ⟨hkind, hpresent, hrest⟩ := headingSpelling_append_inj hspelling
  obtain ⟨hquoted, hrest⟩ := Text.quoted_append_inj hrest
  obtain ⟨hvalue, hlabels⟩ := valueSpelling_append_inj hr.valueRule hr'.valueRule hrest
  exact ⟨hkind, hpresent, by rw [hname, hname', hquoted],
    rules_alike_of_labelsSpelling hr.rules hr'.rules hlabels, hvalue⟩

theorem same_assertion_of_expectationText (hr : r.IsReadable) (hr' : r'.IsReadable)
    (htext : r.expectationText = .ok text) (htext' : r'.expectationText = .ok text) :
    r.kind = r'.kind ∧ r.present = r'.present ∧ r.name = r'.name ∧
      r.rules.length = r'.rules.length ∧ r.valueRule.isSome = r'.valueRule.isSome ∧
      ∀ families : List FamilyRecord, (∀ family ∈ families, family.IsTextual) →
        ∃ report report' text, r.evaluate families = .ok report ∧
          r'.evaluate families = .ok report' ∧ report.matched = report'.matched ∧
            r.mismatchText report = .ok text ∧ r'.mismatchText report' = .ok text := by
  have halike := alike_of_expectationText hr hr' htext htext'
  refine ⟨halike.kind, halike.present, halike.name, halike.rules.length_eq,
    halike.valueRule_isSome_eq, ?_⟩
  intro families hfamilies
  have htotal := hr.isTotal (hr.describes htext)
  have htotal' := hr'.isTotal (hr'.describes htext')
  obtain ⟨report, hreport, hmismatch⟩ := htotal.exists_mismatchText hfamilies
  obtain ⟨report', hreport', hmismatch'⟩ := htotal'.exists_mismatchText hfamilies
  have hreports := halike.evaluate families
  rw [hreport, hreport'] at hreports
  cases hreports with
  | ok hreports =>
    refine ⟨report, report', _, hreport, hreport', hreports.matched, hmismatch, ?_⟩
    rw [hmismatch', halike.renderMismatch_eq hreports]

theorem same_assertion_of_single_operand :
    ∃ report report' text,
      (valuedRequest (.allOf [.equalTo (.int 2)])).evaluate jobsSnapshot = .ok report ∧
        (valuedRequest (.anyOf [.equalTo (.int 2)])).evaluate jobsSnapshot = .ok report' ∧
          report.matched = report'.matched ∧
            (valuedRequest (.allOf [.equalTo (.int 2)])).mismatchText report = .ok text ∧
              (valuedRequest (.anyOf [.equalTo (.int 2)])).mismatchText report' = .ok text := by
  have htree : ∀ p ∈ [Predicate.equalTo (.int 2)], p.IsTree := by
    simpa using Predicate.IsTree.int 2
  have hall := isReadable_valuedRequest (.allOf (List.cons_ne_nil _ _) htree)
  have hany := isReadable_valuedRequest (.anyOf (List.cons_ne_nil _ _) htree)
  have htext : (valuedRequest (.allOf [.equalTo (.int 2)])).expectationText =
      .ok ("a CollectorRegistry containing a sample with name: \"jobs_total\" value: (<2>)" ++
        " and labels:\n\"queue\"=\"in\"\n") := by decide +kernel
  have htext' : (valuedRequest (.anyOf [.equalTo (.int 2)])).expectationText =
      .ok ("a CollectorRegistry containing a sample with name: \"jobs_total\" value: (<2>)" ++
        " and labels:\n\"queue\"=\"in\"\n") := by decide +kernel
  obtain ⟨-, -, -, -, -, hruns⟩ := same_assertion_of_expectationText hall hany htext htext'
  exact hruns jobsSnapshot isTextual_jobsSnapshot

end Request

end MetricCheck
