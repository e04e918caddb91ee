import MetricCheck.Explanation
import MetricCheck.Proofs.Predicate.Tree
import MetricCheck.Proofs.Search.Growth

/-!
This module contains what two requests have in common if their predicates describe themselves in the
same way and decide alike: they come to the same outcome on every snapshot, step by step, and
explain it in the same words. Which of two like predicates stands in a report makes no difference.
-/

namespace MetricCheck

inductive AlikeOutcomes {α : Type} (R : α → α → Prop) : Except Fault α → Except Fault α → Prop where
  | error (fault : Fault) : AlikeOutcomes R (.error fault) (.error fault)
  | ok {a b : α} : R a b → AlikeOutcomes R (.ok a) (.ok b)

theorem AlikeOutcomes.bind {α β : Type} {R : α → α → Prop} {S : β → β → Prop}
    {x y : Except Fault α} {f g : α → Except Fault β} (h : AlikeOutcomes R x y)
    (hnext : ∀ a b, R a b → AlikeOutcomes S (f a) (g b)) :
    AlikeOutcomes S (do f (← x)) (do g (← y)) := by
  cases h with
  | error fault => exact .error fault
  | ok hab => exact hnext _ _ hab

theorem AlikeOutcomes.bind_same {α β : Type} {S : β → β → Prop} (x : Except Fault α)
    {f g : α → Except Fault β} (hnext : ∀ a, AlikeOutcomes S (f a) (g a)) :
    AlikeOutcomes S (do f (← x)) (do g (← x)) := by
  cases x with
  | error fault => exact .error fault
  | ok a => exact hnext a

theorem isEmpty_eq_of_forall₂ {α : Type} {R : α → α → Prop} {xs ys : List α}
    (h : List.Forall₂ R xs ys) : xs.isEmpty = ys.isEmpty := by
  cases h with
  | nil => rfl
  | cons _ _ => rfl

structure LabelRule.Alike (a b : LabelRule) : Prop where
  name : a.name.Alike b.name
  value : a.value.Alike b.value

structure Request.Alike (r r' : Request) : Prop where
  kind : r.kind = r'.kind
  present : r.present = r'.present
  name : r.name = r'.name
  rules : List.Forall₂ LabelRule.Alike r.rules r'.rules
  valueRule : Option.Rel Predicate.Alike r.valueRule r'.valueRule

structure LabelMismatch.Alike (a b : LabelMismatch) : Prop where
  name : a.name.Alike b.name
  expected : a.expected.Alike b.expected
  actual : a.actual = b.actual

structure LabelRecord.Alike (a b : LabelRecord) : Prop where
  labels : a.labels = b.labels
  missing : List.Forall₂ Predicate.Alike a.missing b.missing
  mismatches : List.Forall₂ LabelMismatch.Alike a.mismatches b.mismatches

structure Report.Alike (a b : Report) : Prop where
  matched : a.matched = b.matched
  values : a.values = b.values
  records : List.Forall₂ LabelRecord.Alike a.records b.records
  familyNames : a.familyNames = b.familyNames
  sampleNames : a.sampleNames = b.sampleNames

structure LabelCheck.Alike (a b : LabelCheck) : Prop where
  rules : List.Forall₂ (fun x y => x.1.Alike y.1 ∧ x.2 = y.2) a.rules b.rules
  mismatches : List.Forall₂ LabelMismatch.Alike a.mismatches b.mismatches

inductive Finding.Alike : Finding → Finding → Prop where
  | otherName : Alike .otherName .otherName
  | named : Alike .named .named
  | labelled (value : Value) (verdict : Except Fault Bool) :
      Alike (.labelled value verdict) (.labelled value verdict)
  | mislabelled {a b : LabelRecord} : a.Alike b → Alike (.mislabelled a) (.mislabelled b)

section Labels

variable {rules rules' : List LabelRule}

theorem LabelRule.Alike.judge_eq {a b : LabelRule} (h : a.Alike b) (name value : Value) :
    a.judge name value = b.judge name value := by
  simp only [LabelRule.judge, h.name.accepts, h.value.accepts]

theorem LabelCheck.judgeLabel_alike (name value : Value) {marked marked' : List (LabelRule × Bool)}
    (h : List.Forall₂ (fun x y => x.1.Alike y.1 ∧ x.2 = y.2) marked marked') :
    AlikeOutcomes (fun a b => LabelCheck.Alike ⟨a.1, a.2⟩ ⟨b.1, b.2⟩)
      (judgeLabel name value marked) (judgeLabel name value marked') := by
  induction h with
  | nil => exact .ok ⟨.nil, .nil⟩
  | @cons x y marked marked' hhead _ ih =>
    obtain ⟨rule, missing⟩ := x
    obtain ⟨rule', missing'⟩ := y
    obtain ⟨hrule, hmissing⟩ := hhead
    rw [judgeLabel, judgeLabel, hrule.judge_eq]
    cases rule'.judge name value with
    | error fault => exact .error fault
    | ok verdict =>
      apply ih.bind
      intro a b hab
      cases verdict with
      | unrelated => exact .ok ⟨.cons ⟨hrule, hmissing⟩ hab.rules, hab.mismatches⟩
      | fitting => exact .ok ⟨.cons ⟨hrule, rfl⟩ hab.rules, hab.mismatches⟩
      | wrong =>
        exact .ok ⟨.cons ⟨hrule, rfl⟩ hab.rules,
          .cons ⟨hrule.name, hrule.value, rfl⟩ hab.mismatches⟩

theorem LabelCheck.judgeLabels_alike {check check' : LabelCheck} (h : check.Alike check')
    (labels : List (Value × Value)) :
    AlikeOutcomes LabelCheck.Alike (check.judgeLabels labels) (check'.judgeLabels labels) := by
  induction labels generalizing check check' with
  | nil => exact .ok h
  | cons label rest ih =>
    apply (judgeLabel_alike label.1 label.2 h.rules).bind
    intro a b hab
    exact ih ⟨hab.rules, List.rel_append h.mismatches hab.mismatches⟩

theorem LabelCheck.Alike.record {check check' : LabelCheck} (h : check.Alike check') :
    check.record.Alike check'.record where
  labels := rfl
  missing := by
    apply List.rel_map (R := fun x y => x.1.Alike y.1 ∧ x.2 = y.2)
    . intro x y hxy
      exact hxy.1.name
    . apply List.rel_filter _ h.rules
      intro x y hxy
      simp only [hxy.2]
  mismatches := h.mismatches

theorem checkLabels_alike (h : List.Forall₂ LabelRule.Alike rules rules')
    (labels : List (Value × Value)) :
    AlikeOutcomes LabelRecord.Alike (checkLabels rules labels) (checkLabels rules' labels) := by
  have hstart : (LabelCheck.start rules).Alike (LabelCheck.start rules') := by
    refine ⟨?_, .nil⟩
    simp only [LabelCheck.start, List.forall₂_map_left_iff, List.forall₂_map_right_iff, and_true]
    exact h
  apply (LabelCheck.judgeLabels_alike hstart labels).bind
  intro a b hab
  exact .ok hab.record

theorem LabelRecord.Alike.isFullMatch_eq {a b : LabelRecord} (h : a.Alike b) :
    a.isFullMatch = b.isFullMatch := by
  rw [isFullMatch, isFullMatch, isEmpty_eq_of_forall₂ h.missing,
    isEmpty_eq_of_forall₂ h.mismatches]

end Labels

namespace Report

variable {report report' : Report}

theorem alike_empty : Report.empty.Alike Report.empty :=
  ⟨rfl, rfl, .nil, rfl, rfl⟩

theorem Alike.addFamilyName (h : report.Alike report') (name : Value) :
    AlikeOutcomes Report.Alike (report.addFamilyName name) (report'.addFamilyName name) := by
  rw [Report.addFamilyName, Report.addFamilyName, h.familyNames]
  split
  . exact .ok { h with familyNames := rfl }
  . exact .error _

theorem Alike.addSampleName (h : report.Alike report') (name : Value) :
    AlikeOutcomes Report.Alike (report.addSampleName name) (report'.addSampleName name) := by
  rw [Report.addSampleName, Report.addSampleName, h.sampleNames]
  split
  . exact .ok { h with sampleNames := rfl }
  . exact .error _

theorem Alike.addValue (h : report.Alike report') (name value : Value) :
    AlikeOutcomes Report.Alike (report.addValue name value) (report'.addValue name value) := by
  rw [Report.addValue, Report.addValue, h.values]
  split
  . exact .ok { h with values := rfl }
  . exact .error _

theorem Alike.addRecord (h : report.Alike report') {record record' : LabelRecord}
    (hrecord : record.Alike record') :
    (report.addRecord record).Alike (report'.addRecord record') :=
  { h with records := List.rel_append h.records (.cons hrecord .nil) }

end Report

namespace Request

variable {r r' : Request} {report report' : Report}

theorem Alike.valueRule_isSome_eq (h : r.Alike r') :
    r.valueRule.isSome = r'.valueRule.isSome := by
  have hvalue := h.valueRule
  generalize r.valueRule = rule at hvalue ⊢
  generalize r'.valueRule = rule' at hvalue ⊢
  cases hvalue with
  | none => rfl
  | some _ => rfl

theorem Alike.isConstrained_eq (h : r.Alike r') : r.isConstrained = r'.isConstrained := by
  rw [isConstrained, isConstrained, h.valueRule_isSome_eq, isEmpty_eq_of_forall₂ h.rules]

theorem Alike.stopsWhenFound_eq (h : r.Alike r') : r.stopsWhenFound = r'.stopsWhenFound := by
  rw [stopsWhenFound, stopsWhenFound, h.isConstrained_eq, h.present]

theorem Alike.acceptsValue_eq (h : r.Alike r') (v : Value) :
    r.acceptsValue v = r'.acceptsValue v := by
  have hvalue := h.valueRule
  unfold acceptsValue
  generalize r.valueRule = rule at hvalue ⊢
  generalize r'.valueRule = rule' at hvalue ⊢
  cases hvalue with
  | none => rfl
  | some hrule => exact hrule.accepts v

theorem Alike.judge (h : r.Alike r') (s : SampleRecord) :
    AlikeOutcomes Finding.Alike (r.judge s) (r'.judge s) := by
  rw [Request.judge, Request.judge, h.name, h.isConstrained_eq]
  apply AlikeOutcomes.bind_same s.name
  intro name
  apply AlikeOutcomes.bind_same (name.startsWith r'.name)
  intro covered
  split
  . split
    . apply AlikeOutcomes.bind_same s.labels
      intro labels
      apply (checkLabels_alike h.rules labels).bind
      intro record record' hrecord
      rw [hrecord.isFullMatch_eq]
      split
      . apply AlikeOutcomes.bind_same s.observed
        intro value
        rw [h.acceptsValue_eq]
        exact .ok (.labelled _ _)
      . apply AlikeOutcomes.bind_same (Value.putEntries [] labels)
        intro entries
        exact .ok (.mislabelled { hrecord with labels := rfl })
    . exact .ok .named
  . exact .ok .otherName

def AlikeRuns {α : Type} (a b : Report × Except Fault α) : Prop :=
  a.1.Alike b.1 ∧ a.2 = b.2

theorem Alike.searchSamples (h : r.Alike r') (hreport : report.Alike report') (found : Bool)
    (samples : List SampleRecord) :
    AlikeRuns (r.searchSamples found report samples) (r'.searchSamples found report' samples) := by
  induction samples generalizing found report report' with
  | nil => exact ⟨hreport, rfl⟩
  | cons s rest ih =>
    have hname : AlikeOutcomes Report.Alike (do report.addSampleName (← s.name))
        (do report'.addSampleName (← s.name)) := by
      apply AlikeOutcomes.bind_same s.name
      intro name
      exact hreport.addSampleName name
    rw [Request.searchSamples, Request.searchSamples]
    generalize (do report.addSampleName (← s.name)) = noted at hname ⊢
    generalize (do report'.addSampleName (← s.name)) = noted' at hname ⊢
    cases hname with
    | error fault => exact ⟨hreport, rfl⟩
    | @ok noted noted' hnoted =>
      have hjudge := h.judge s
      generalize r.judge s = judged at hjudge ⊢
      generalize r'.judge s = judged' at hjudge ⊢
      cases hjudge with
      | error fault => exact ⟨hnoted, rfl⟩
      | ok hfinding =>
        cases hfinding with
        | otherName => exact ih hnoted found
        | named =>
          dsimp only
          rw [h.present]
          split
          . exact ⟨hnoted, rfl⟩
          . exact ih hnoted true
        | labelled value verdict =>
          have hvalue : AlikeOutcomes Report.Alike (do noted.addValue (← s.name) value)
              (do noted'.addValue (← s.name) value) := by
            apply AlikeOutcomes.bind_same s.name
            intro name
            exact hnoted.addValue name value
          dsimp only
          generalize (do noted.addValue (← s.name) value) = valued at hvalue ⊢
          generalize (do noted'.addValue (← s.name) value) = valued' at hvalue ⊢
          cases hvalue with
          | error fault => exact ⟨hnoted, rfl⟩
          | ok hvalued =>
            cases verdict with
            | error fault => exact ⟨hvalued, rfl⟩
            | ok accepted =>
              dsimp only
              rw [h.present]
              split
              . exact ⟨hvalued, rfl⟩
              . exact ih hvalued accepted
        | mislabelled hrecord => exact ih (hnoted.addRecord hrecord) found

theorem Alike.searchFamily (h : r.Alike r') (hreport : report.Alike report')
    (family : FamilyRecord) :
    AlikeRuns (r.searchFamily family report) (r'.searchFamily family report') := by
  rw [Request.searchFamily, Request.searchFamily]
  split
  . exact ⟨hreport, rfl⟩
  . exact h.searchSamples hreport false _

theorem Alike.candidacy_eq (h : r.Alike r') (family : FamilyRecord) :
    r.candidacy family = r'.candidacy family := by
  rw [Request.candidacy, Request.candidacy, h.name]

theorem Alike.visitFamily (h : r.Alike r') (hreport : report.Alike report') (found : Bool)
    (family : FamilyRecord) :
    AlikeRuns (r.visitFamily found report family) (r'.visitFamily found report' family) := by
  have hname : AlikeOutcomes Report.Alike (do report.addFamilyName (← family.name))
      (do report'.addFamilyName (← family.name)) := by
    apply AlikeOutcomes.bind_same family.name
    intro name
    exact hreport.addFamilyName name
  rw [Request.visitFamily, Request.visitFamily]
  generalize (do report.addFamilyName (← family.name)) = noted at hname ⊢
  generalize (do report'.addFamilyName (← family.name)) = noted' at hname ⊢
  cases hname with
  | error fault => exact ⟨hreport, rfl⟩
  | @ok noted noted' hnoted =>
    rw [h.candidacy_eq, h.isConstrained_eq]
    cases r'.candidacy family with
    | error fault => exact ⟨hnoted, rfl⟩
    | ok candidacy =>
      have hsearch := h.searchFamily hnoted family
      cases candidacy with
      | unrelated => exact ⟨hnoted, rfl⟩
      | extending =>
        dsimp only
        split
        . exact ⟨hnoted, rfl⟩
        . exact ⟨hsearch.1, by rw [hsearch.2]⟩
      | derived =>
        dsimp only
        split
        . exact ⟨hnoted, rfl⟩
        . exact ⟨hsearch.1, by rw [hsearch.2]⟩

theorem Alike.searchFamilies (h : r.Alike r') (hreport : report.Alike report') (found : Bool)
    (families : List FamilyRecord) :
    AlikeRuns (r.searchFamilies found report families)
      (r'.searchFamilies found report' families) := by
  induction families generalizing found report report' with
  | nil => exact ⟨hreport, rfl⟩
  | cons family rest ih =>
    have hvisit := h.visitFamily hreport found family
    rw [searchFamilies_cons_eq, searchFamilies_cons_eq]
    generalize r.visitFamily found report family = visit at hvisit ⊢
    generalize r'.visitFamily found report' family = visit' at hvisit ⊢
    obtain ⟨visited, verdict⟩ := visit
    obtain ⟨visited', verdict'⟩ := visit'
    obtain ⟨hvisited, rfl⟩ := hvisit
    obtain fault | _ | found' := verdict
    . exact ⟨hvisited, rfl⟩
    . exact ih hvisited found
    . dsimp only
      rw [h.stopsWhenFound_eq]
      split
      . exact ⟨hvisited, rfl⟩
      . exact ih hvisited found'

theorem Alike.evaluate (h : r.Alike r') (families : List FamilyRecord) :
    AlikeOutcomes Report.Alike (r.evaluate families) (r'.evaluate families) := by
  have hsearch := h.searchFamilies Report.alike_empty false families
  rw [Request.evaluate, Request.evaluate]
  generalize r.searchFamilies false .empty families = search at hsearch ⊢
  generalize r'.searchFamilies false .empty families = search' at hsearch ⊢
  obtain ⟨report, verdict⟩ := search
  obtain ⟨report', verdict'⟩ := search'
  obtain ⟨hreport, rfl⟩ := hsearch
  obtain fault | found := verdict
  . exact .error fault
  . exact .ok { hreport with matched := by rw [h.present] }

end Request

end MetricCheck
