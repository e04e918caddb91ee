import MetricCheck.Assertion
import MetricCheck.Proofs.Explanation.Total
import MetricCheck.Proofs.Request.Narrowing

/-!
This module contains why an assertion either passes or fails with a message. Narrowing a request by
texts, numbers and predicates that come out of their constructors keeps it one that never fails on a
sample, so neither the search nor the words that explain it can end in a fault.
-/

namespace MetricCheck

def Value.HoldsBuilt (v : Value) : Prop :=
  ∀ id p, v = .predicate id p → p.IsBuilt

def Request.Step.UsesBuilt : Step → Prop
  | .label _ name v => name.HoldsBuilt ∧ v.HoldsBuilt
  | .value v _ => v.HoldsBuilt
  | .wholeValue _ => True

namespace Request

variable {r : Request} {step : Step} {write : Write} {v : Value}

theorem isTotal_of_isLabelPart {made key : Nat} {p : Predicate} (hpart : IsLabelPart made v key p)
    (hbuilt : v.HoldsBuilt) : p.IsTotal := by
  cases hpart with
  | text s => exact Predicate.isTotal_equalTo (.text s)
  | predicate => exact (hbuilt _ _ rfl).isTotal

theorem IsTotal.put (h : r.IsTotal) {rule : LabelRule} (hname : rule.name.IsTotal)
    (hvalue : rule.value.IsTotal) : IsTotal { r with rules := LabelRule.put rule r.rules } where
  name := h.name
  rules := by
    intro other hother
    cases LabelRule.mem_of_mem_put hother with
    | inl heq =>
      rw [heq]
      exact ⟨hname, hvalue⟩
    | inr hold => exact h.rules other hold
  valueRule := h.valueRule

theorem IsTotal.withValueRule (h : r.IsTotal) {rule : Option Predicate}
    (hrule : ∀ p ∈ rule, p.IsTotal) : IsTotal { r with valueRule := rule } :=
  ⟨h.name, h.rules, hrule⟩

theorem IsTotal.writes (h : r.IsTotal) (hbuilt : step.UsesBuilt) (hwrites : step.Writes write) :
    (write.on r).IsTotal := by
  cases hwrites with
  | unvalued _ => exact h
  | label hname hvalue =>
    exact h.put (isTotal_of_isLabelPart hname hbuilt.1) (isTotal_of_isLabelPart hvalue hbuilt.2)
  | freed _ => exact h.withValueRule (by simp)
  | chosen id p _ => exact h.withValueRule (by simpa using (hbuilt id p rfl).isTotal)
  | close _ _ _ _ _ => exact h.withValueRule (by simpa using Predicate.isTotal_closeTo _ _)
  | wholeFreed => exact h.withValueRule (by simp)
  | whole _ _ => exact h.withValueRule (by simpa using Predicate.isTotal_closeTo _ _)

theorem IsTotal.narrowed (h : r.IsTotal) (hbuilt : step.UsesBuilt) : (r.narrowed step).IsTotal := by
  cases writes_or_fails step with
  | inl hwrites =>
    obtain ⟨write, hwrites⟩ := hwrites
    rw [narrowed_of_does (.writes hwrites)]
    exact h.writes hbuilt hwrites
  | inr hfails =>
    obtain ⟨fault, hfails⟩ := hfails
    rw [narrowed_of_does (.fails hfails)]
    exact h

theorem IsTotal.narrowedBy (h : r.IsTotal) {steps : List Step}
    (hbuilt : ∀ step ∈ steps, step.UsesBuilt) : (r.narrowedBy steps).IsTotal := by
  induction steps generalizing r with
  | nil => exact h
  | cons step rest ih =>
    rw [List.forall_mem_cons] at hbuilt
    exact ih (h.narrowed hbuilt.1) hbuilt.2

theorem isTotal_of_text (name : String) (present : Bool) (kind : SourceKind) :
    IsTotal ⟨.text name, present, kind, [], none⟩ :=
  ⟨⟨name, rfl⟩, by simp, by simp⟩

theorem outcome_eq {report : Report} {expectation mismatch reason : String}
    (hexpectation : r.expectationText = .ok expectation)
    (hmismatch : r.mismatchText report = .ok mismatch) :
    r.outcome (.text reason) report = .ok (if report.matched then .passed
      else .failed (reason ++ "\nExpected: " ++ expectation ++ "\n     but: " ++ mismatch)) := by
  have hmessage : r.failureMessage (.text reason) report =
      .ok (reason ++ "\nExpected: " ++ expectation ++ "\n     but: " ++ mismatch) := by
    rw [failureMessage, hexpectation, hmismatch]
    rfl
  rw [outcome, hmessage]
  split <;> rfl

theorem assertThat_of_report {σ : Type} {read : Reader σ} {s : σ} {families : List Family}
    {report : Report} (hread : (read s).1 = .ok families)
    (hreport : r.evaluate (families.map .family) = .ok report) (reason : Value) :
    (r.assertThat reason read s).1 = r.outcome reason report := by
  -- What is left of the source stands in the second components and decides nothing.
  have hcheck : (r.check read s).1 = .ok report := by
    change ((read s).1 >>= fun fs => r.evaluate (fs.map .family)) = .ok report
    rw [hread]
    exact hreport
  change (r.check read s).1 >>= r.outcome reason = r.outcome reason report
  rw [hcheck]
  rfl

theorem assertThat_eq_outcome {name : String} (hname : Text.trim name.toList ≠ [])
    (present : Bool) (kind : SourceKind) {steps : List Step}
    (hsteps : ∀ step ∈ steps, step.UsesBuilt) {families : List Family}
    (hfamilies : ∀ family ∈ families, (FamilyRecord.family family).IsTextual) :
    ∃ r report expectation mismatch, Request.ofName (.text name) present kind = .ok r ∧
      (r.narrowedBy steps).evaluate (families.map .family) = .ok report ∧
      (r.narrowedBy steps).expectationText = .ok expectation ∧
      (r.narrowedBy steps).mismatchText report = .ok mismatch ∧
      ∀ {σ : Type} (read : Reader σ) (s : σ) (reason : String), (read s).1 = .ok families →
        ((r.narrowedBy steps).assertThat (.text reason) read s).1 =
          .ok (if report.matched then .passed
            else .failed (reason ++ "\nExpected: " ++ expectation ++
              "\n     but: " ++ mismatch)) := by
  have htotal := (isTotal_of_text name present kind).narrowedBy hsteps
  have htextual : ∀ family ∈ families.map FamilyRecord.family, family.IsTextual := by
    simpa using hfamilies
  obtain ⟨report, hreport, hmismatch⟩ := htotal.exists_mismatchText htextual
  have hexpectation := htotal.expectationText
  refine ⟨_, report, _, _, ofName_text hname present kind, hreport, hexpectation, hmismatch, ?_⟩
  intro σ read s reason hread
  rw [assertThat_of_report hread hreport, outcome_eq hexpectation hmismatch]

def nestedLabel : Predicate :=
  .not (.anyOf [.equalTo (.list [.bytes [0], .tuple [], .double .nan]), .textual .endingWith "t"])

def nestedValue : Predicate :=
  .allOf [.ordered .less (.int (Int.pow 10 400)), .not .anything]

def nestedSteps : List Step :=
  [.label 3 (.text "queue") (.predicate 0 nestedLabel), .wholeValue (.int 2),
    .label 4 (.predicate 1 (.allOf [])) .null, .value (.predicate 2 nestedValue) .null]

def nanFamilies : List Family :=
  [⟨.text "jobs", [.sample ⟨.text "jobs", [(.text "queue", .text "in")], .double .nan⟩,
    .sample ⟨.text "jobs", [(.text "queue", .text "out")], .double (.infinite true)⟩]⟩]

theorem isBuilt_nestedLabel : nestedLabel.IsBuilt := by
  have hrows : (Predicate.equalTo (.list [.bytes [0], .tuple [], .double .nan])).IsBuilt := by
    refine .equality (.list ?_) rfl
    simp only [List.forall_mem_cons]
    exact ⟨.bytes [0], .tuple (by simp), .double .nan, by simp⟩
  have hending : (Predicate.textual .endingWith "t").IsBuilt :=
    .text (by simp) (rfl : Predicate.text .endingWith (.text "t") = _)
  exact .not (.anyOf (by simp [hrows, hending]))

theorem isShort_nestedBound : Number.IsShort (Int.pow 10 400) := by
  decide +kernel

theorem isBuilt_nestedValue : nestedValue.IsBuilt := by
  have hbound : (Predicate.ordered .less (.int (Int.pow 10 400))).IsBuilt :=
    .order (.int isShort_nestedBound) (rfl : Predicate.order .less (.int (Int.pow 10 400)) = _)
  have hnothing : (Predicate.not .anything).IsBuilt := .not .anything
  apply Predicate.IsBuilt.allOf
  simp only [List.forall_mem_cons]
  exact ⟨hbound, hnothing, by simp⟩

theorem holdsBuilt_predicate {p : Predicate} (h : p.IsBuilt) (id : Nat) :
    (Value.predicate id p).HoldsBuilt := by
  intro _ _ heq
  cases heq
  exact h

theorem usesBuilt_nestedSteps : ∀ step ∈ nestedSteps, step.UsesBuilt := by
  simp only [nestedSteps, List.forall_mem_cons]
  refine ⟨⟨?_, holdsBuilt_predicate isBuilt_nestedLabel 0⟩, trivial,
    ⟨holdsBuilt_predicate (.allOf (by simp)) 1, ?_⟩, holdsBuilt_predicate isBuilt_nestedValue 2,
    by simp⟩
  . simp [Value.HoldsBuilt]
  . simp [Value.HoldsBuilt]

theorem isTextual_nanFamilies :
    ∀ family ∈ nanFamilies, (FamilyRecord.family family).IsTextual := by
  simp only [nanFamilies, List.forall_mem_cons]
  refine ⟨⟨⟨_, rfl⟩, _, rfl, ?_⟩, by simp⟩
  simp only [List.forall_mem_cons]
  exact ⟨⟨⟨_, rfl⟩, ⟨_, rfl, by simp⟩, _, rfl⟩, ⟨⟨_, rfl⟩, ⟨_, rfl, by simp⟩, _, rfl⟩, by simp⟩

theorem assertThat_eq_outcome_nanFamilies :
    Text.trim "jobs".toList ≠ [] ∧ (∀ step ∈ nestedSteps, step.UsesBuilt) ∧
      (∀ family ∈ nanFamilies, (FamilyRecord.family family).IsTextual) ∧
      ∃ r message, hasMetric (.text "jobs") = .ok r ∧
        ((r.narrowedBy nestedSteps).assertThat (.text "late") Source.read
          (.ofGenerator (nanFamilies.map .family))).1 = .ok (.failed message) := by
  have hname : Text.trim "jobs".toList ≠ [] := by decide
  obtain ⟨r, report, expectation, mismatch, hr, hreport, -, -, hassert⟩ :=
    assertThat_eq_outcome hname true .registry usesBuilt_nestedSteps isTextual_nanFamilies
  have hread : (Source.read (.ofGenerator (nanFamilies.map .family))).1 = .ok nanFamilies := rfl
  have hverdict : (r.narrowedBy nestedSteps).verdict (nanFamilies.map .family) = .ok false := by
    rw [fresh_of_ofName hr]
    decide +kernel
  obtain ⟨other, hother, hmatched⟩ := evaluate_of_verdict hverdict
  rw [hreport, Except.ok.injEq] at hother
  have houtcome := hassert Source.read _ "late" hread
  rw [hother, hmatched] at houtcome
  exact ⟨hname, usesBuilt_nestedSteps, isTextual_nanFamilies, r, _, hr, houtcome⟩

def longBound : Int :=
  Number.roundNumber 5000

theorem not_isShort_longBound : ¬Number.IsShort longBound :=
  Number.not_isShort_roundNumber (by decide)

def longBoundRequest : Request :=
  ⟨.text "jobs", true, .registry, [], some (.ordered .greater (.int longBound))⟩

theorem expectationText_longBoundRequest :
    longBoundRequest.expectationText = .error .tooManyDigits := by
  have hwrite : (Number.int longBound).write = .error .tooManyDigits :=
    Number.writeInt_of_not_isShort not_isShort_longBound
  have hdescribe : (Predicate.ordered .greater (.int longBound)).describe =
      Rendering.ofText "a value greater than " ++ Rendering.fail .tooManyDigits := by
    rw [Predicate.describe, hwrite]
    rfl
  simp only [expectationText, renderExpectation, longBoundRequest, hdescribe]
  rfl

theorem not_described_longBound :
    Predicate.order .greater (.int longBound) = .ok (.ordered .greater (.int longBound)) ∧
      (∃ r, hasMetric (.text "jobs") = .ok r ∧
        (Request.value (.predicate 0 (.ordered .greater (.int longBound))) .null).run r =
          .ok () longBoundRequest) ∧
      (∃ report, longBoundRequest.evaluate [] = .ok report ∧ report.matched = false) ∧
      longBoundRequest.expectationText = .error .tooManyDigits ∧
      (longBoundRequest.assertThat (.text "") Source.read (.ofGenerator [])).1 =
        .error .tooManyDigits := by
  have hread : (Source.read (.ofGenerator [])).1 = .ok [] := rfl
  have hevaluate : ∃ report, longBoundRequest.evaluate [] = .ok report ∧ report.matched = false :=
    ⟨_, rfl, rfl⟩
  refine ⟨rfl, ⟨_, rfl, rfl⟩, hevaluate, expectationText_longBoundRequest, ?_⟩
  obtain ⟨report, hreport, hmatched⟩ := hevaluate
  rw [assertThat_of_report hread hreport, outcome, hmatched, failureMessage,
    expectationText_longBoundRequest]
  rfl

end Request

end MetricCheck
