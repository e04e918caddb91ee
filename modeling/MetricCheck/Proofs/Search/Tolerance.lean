import MetricCheck.Proofs.Request.Closeness
import MetricCheck.Proofs.Search.Alike
import MetricCheck.Proofs.Search.Widening

/-!
This module contains what becomes of a search when its value rule accepts more. As long as neither
search has found its sample they go on with the same report, so the one with the weaker rule finds a
sample no later than the other one, and what it does not look at any more cannot fail it.
-/

namespace MetricCheck

namespace Predicate

theorem closeTo_implies_of_wider {d width wider : Double}
    (hwider : OrderRelation.lessOrEqual.holds (.double wider) (.double width) = true) :
    (closeTo d width).Implies (closeTo d wider) := by
  intro v h
  unfold accepts at *
  split at h
  . split at h
    . rw [Except.ok.injEq] at *
      apply Double.isWithin_of_wider hwider h
    . contradiction
  . contradiction

theorem decides_closeTo_double (d width x : Double) : (closeTo d width).Decides (.double x) :=
  ⟨_, rfl⟩

end Predicate

namespace Request

/--
The outcome of a search that finds its sample no later than another one: it has found it, or both
are still without it and have the same report.
-/
inductive Anticipates : Report × Except Fault Bool → Report × Except Fault Bool → Prop where
  | found {report : Report} {other : Report × Except Fault Bool} :
      Anticipates (report, .ok true) other
  | level (report : Report) : Anticipates (report, .ok false) (report, .ok false)
  | failed {outcome : Report × Except Fault Bool} {report : Report} {fault : Fault} :
      Anticipates outcome (report, .error fault)

inductive Rejudges (p q : Predicate) (s : SampleRecord) : Finding → Finding → Prop where
  | otherName : Rejudges p q s .otherName .otherName
  | labelled {v : Value} : s.observed = .ok v →
      Rejudges p q s (.labelled v (p.accepts v)) (.labelled v (q.accepts v))
  | mislabelled (record : LabelRecord) :
      Rejudges p q s (.mislabelled record) (.mislabelled record)

variable {r : Request} {p q : Predicate}

theorem isConstrained_of_valueRule (rule : Predicate) :
    { r with valueRule := some rule }.isConstrained = true :=
  rfl

theorem judge_rejudges (s : SampleRecord) :
    AlikeOutcomes (Rejudges p q s) ({ r with valueRule := some p }.judge s)
      ({ r with valueRule := some q }.judge s) := by
  rw [judge, judge, isConstrained_of_valueRule, isConstrained_of_valueRule]
  apply AlikeOutcomes.bind_same s.name
  intro name
  apply AlikeOutcomes.bind_same (name.startsWith r.name)
  intro covered
  split
  . apply AlikeOutcomes.bind_same s.labels
    intro labels
    apply AlikeOutcomes.bind_same (checkLabels r.rules labels)
    intro record
    split
    . cases hobserved : s.observed with
      | error fault => exact .error fault
      | ok v => exact .ok (.labelled hobserved)
    . apply AlikeOutcomes.bind_same (Value.putEntries [] labels)
      intro entries
      exact .ok (.mislabelled _)
  . exact .ok .otherName

theorem searchSamples_anticipates (hpresent : r.present = true) (himplies : p.Implies q)
    {samples : List SampleRecord}
    (hdecides : ∀ s ∈ samples, ∀ v, s.observed = .ok v → q.Decides v) (report : Report) :
    Anticipates ({ r with valueRule := some q }.searchSamples false report samples)
      ({ r with valueRule := some p }.searchSamples false report samples) := by
  induction samples generalizing report with
  | nil => exact .level report
  | cons s rest ih =>
    rw [List.forall_mem_cons] at hdecides
    replace ih := ih hdecides.2
    have hjudge := judge_rejudges (r := r) (p := p) (q := q) s
    rw [searchSamples, searchSamples]
    generalize { r with valueRule := some p }.judge s = judged at hjudge ⊢
    generalize { r with valueRule := some q }.judge s = rejudged at hjudge ⊢
    cases (do report.addSampleName (← s.name)) with
    | error fault => exact .failed
    | ok noted =>
      dsimp only
      cases hjudge with
      | error fault => exact .failed
      | ok hfinding =>
        cases hfinding with
        | otherName => apply ih
        | mislabelled record => apply ih
        | @labelled v hobserved =>
          obtain ⟨accepted, haccepted⟩ := hdecides.1 v hobserved
          dsimp only
          cases (do noted.addValue (← s.name) v) with
          | error fault => exact .failed
          | ok valued =>
            rw [haccepted]
            dsimp only
            cases accepted with
            | true =>
              rw [hpresent]
              exact .found
            | false =>
              -- What the weaker rule rejects, the other one rejects or fails on.
              cases hother : p.accepts v with
              | error fault => exact .failed
              | ok accepted' =>
                cases accepted' with
                | false => apply ih
                | true =>
                  rw [himplies v hother] at haccepted
                  contradiction

def DecidesValues (q : Predicate) (family : FamilyRecord) : Prop :=
  ∀ samples, family.samples = .ok samples → ∀ s ∈ samples, ∀ v, s.observed = .ok v → q.Decides v

theorem searchFamily_anticipates (hpresent : r.present = true) (himplies : p.Implies q)
    {family : FamilyRecord} (hdecides : DecidesValues q family) (report : Report) :
    Anticipates ({ r with valueRule := some q }.searchFamily family report)
      ({ r with valueRule := some p }.searchFamily family report) := by
  unfold searchFamily
  cases hsamples : family.samples with
  | error fault => exact .failed
  | ok samples =>
    apply searchSamples_anticipates hpresent himplies (hdecides samples hsamples)

theorem searchFamilies_anticipates (hpresent : r.present = true) (himplies : p.Implies q)
    {families : List FamilyRecord} (hdecides : ∀ family ∈ families, DecidesValues q family)
    (report : Report) :
    Anticipates ({ r with valueRule := some q }.searchFamilies false report families)
      ({ r with valueRule := some p }.searchFamilies false report families) := by
  induction families generalizing report with
  | nil => exact .level report
  | cons family rest ih =>
    rw [List.forall_mem_cons] at hdecides
    replace ih := ih hdecides.2
    have hcandidacy (rule : Predicate) :
        { r with valueRule := some rule }.candidacy family = r.candidacy family := rfl
    rw [searchFamilies, searchFamilies, hcandidacy, hcandidacy, isConstrained_of_valueRule,
      isConstrained_of_valueRule]
    cases (do report.addFamilyName (← family.name)) with
    | error fault => exact .failed
    | ok noted =>
      dsimp only
      have hfamily := searchFamily_anticipates hpresent himplies hdecides.1 noted
      split
      . exact .failed
      . apply ih
      . rw [Bool.not_true, Bool.and_false, if_neg Bool.false_ne_true, if_neg Bool.false_ne_true]
        generalize { r with valueRule := some p }.searchFamily family noted = other at hfamily ⊢
        generalize { r with valueRule := some q }.searchFamily family noted = outcome at hfamily ⊢
        cases hfamily with
        | failed => exact .failed
        | found =>
          simp only [Bool.or_false, ite_self]
          exact .found
        | level searched =>
          simp only [Bool.or_false, ite_self]
          apply ih

theorem matched_of_implies (hpresent : r.present = true) (himplies : p.Implies q)
    {families : List FamilyRecord} (hdecides : ∀ family ∈ families, DecidesValues q family)
    {report : Report} (h : { r with valueRule := some p }.evaluate families = .ok report)
    (hmatched : report.matched = true) :
    ∃ report', { r with valueRule := some q }.evaluate families = .ok report' ∧
      report'.matched = true := by
  have hsearch := searchFamilies_anticipates hpresent himplies hdecides .empty
  unfold evaluate at *
  generalize { r with valueRule := some p }.searchFamilies false .empty families = other at *
  generalize { r with valueRule := some q }.searchFamilies false .empty families = outcome at *
  cases hsearch with
  | failed => contradiction
  | found =>
    rw [hpresent]
    exact ⟨_, rfl, rfl⟩
  | level searched =>
    cases h
    rw [hpresent] at hmatched
    contradiction

def HoldsDoubles (family : FamilyRecord) : Prop :=
  ∀ samples, family.samples = .ok samples → ∀ s ∈ samples, ∀ v, s.observed = .ok v →
    ∃ x, v = .double x

theorem decidesValues_of_holdsDoubles (d width : Double) {family : FamilyRecord}
    (h : HoldsDoubles family) : DecidesValues (.closeTo d width) family := by
  intro samples hsamples s hs v hv
  obtain ⟨x, rfl⟩ := h samples hsamples s hs v hv
  apply Predicate.decides_closeTo_double

theorem matched_of_wider_tolerance {d width : Double}
    (h : Predicate.closeness (.double d) (.double width) = .ok p) :
    (∀ wider, OrderRelation.lessOrEqual.holds (.double wider) (.double width) = true →
      ∃ q, Predicate.closeness (.double d) (.double wider) = .ok q ∧ p.Implies q ∧
        ∀ r : Request, r.present = true → ∃ narrow wide,
          (Request.value (.double d) (.double width)).run r = .ok () narrow ∧
          (Request.value (.double d) (.double wider)).run r = .ok () wide ∧
          ∀ families report, (∀ family ∈ families, HoldsDoubles family) →
            narrow.evaluate families = .ok report → report.matched = true →
            ∃ report', wide.evaluate families = .ok report' ∧ report'.matched = true) ∧
    ∀ x, ∃ q accepted, Predicate.closeness (.double x) (.double width) = .ok q ∧
      p.accepts (.double x) = .ok accepted ∧ q.accepts (.double d) = .ok accepted := by
  obtain ⟨hsign, rfl⟩ := Predicate.closeness_of_doubles h
  constructor
  . intro wider hwider
    have hsign' := Double.not_less_zero_of_wider hwider hsign
    have himplies := Predicate.closeTo_implies_of_wider (d := d) hwider
    refine ⟨_, Predicate.closeness_of_numbers rfl rfl hsign' rfl rfl, himplies, ?_⟩
    intro r hpresent
    refine ⟨_, _, run_value_of_close rfl rfl hsign rfl rfl,
      run_value_of_close rfl rfl hsign' rfl rfl, ?_⟩
    intro families report hdoubles hreport hmatched
    apply matched_of_implies hpresent himplies _ hreport hmatched
    intro family hfamily
    apply decidesValues_of_holdsDoubles d wider (hdoubles family hfamily)
  . intro x
    have hclose : Predicate.closeness (.double x) (.double width) = .ok (.closeTo x width) :=
      Predicate.closeness_of_numbers rfl rfl hsign rfl rfl
    refine ⟨_, Double.isWithin d width x, hclose, rfl, ?_⟩
    rw [Double.isWithin_comm]
    rfl

theorem holdsDoubles_jobsSnapshot : ∀ family ∈ jobsSnapshot, HoldsDoubles family := by
  have hsample (queue : String) (negative : Bool) (v : Value)
      (h : (jobsSample queue negative).observed = .ok v) : ∃ x, v = .double x := by
    cases h
    exact ⟨_, rfl⟩
  simp only [jobsSnapshot, List.forall_mem_cons]
  refine ⟨?_, ?_, by simp⟩
  . intro samples hsamples
    cases hsamples
    simp only [List.forall_mem_singleton]
    apply hsample
  . intro samples hsamples
    cases hsamples
    simp only [List.forall_mem_cons]
    exact ⟨hsample _ _, hsample _ _, hsample _ _, by simp⟩

theorem matched_of_wider_tolerance_jobsSnapshot :
    ∃ p wide report q accepted,
      Predicate.closeness (.double (.ofInt 0)) (.double (.ofInt 1)) = .ok p ∧
      OrderRelation.lessOrEqual.holds (.double (.ofInt 2)) (.double (.ofInt 1)) = true ∧
      (Request.value (.double (.ofInt 0)) (.double (.ofInt 2))).run (jobsRequest true .less) =
        .ok () wide ∧
      wide.evaluate jobsSnapshot = .ok report ∧ report.matched = true ∧
      Predicate.closeness (.double (.infinite true)) (.double (.ofInt 1)) = .ok q ∧
      p.accepts (.double (.infinite true)) = .ok accepted ∧
      q.accepts (.double (.ofInt 0)) = .ok accepted := by
  have hsign : Number.less (.double (.ofInt 1)) (.int 0) = false := by decide +kernel
  have hwider :
      OrderRelation.lessOrEqual.holds (.double (.ofInt 2)) (.double (.ofInt 1)) = true := by
    decide +kernel
  have hclose : Predicate.closeness (.double (.ofInt 0)) (.double (.ofInt 1)) =
      .ok (.closeTo (.ofInt 0) (.ofInt 1)) :=
    Predicate.closeness_of_numbers rfl rfl hsign rfl rfl
  have hverdict : { jobsRequest true .less with
      valueRule := some (.closeTo (.ofInt 0) (.ofInt 1)) }.verdict jobsSnapshot = .ok true := by
    decide +kernel
  obtain ⟨report, hreport, hmatched⟩ := evaluate_of_verdict hverdict
  obtain ⟨hmonotone, hsymmetric⟩ := matched_of_wider_tolerance hclose
  obtain ⟨-, -, -, hlifts⟩ := hmonotone _ hwider
  obtain ⟨narrow, wide, hnarrow, hwide, hsearch⟩ := hlifts (jobsRequest true .less) rfl
  rw [run_value_of_close rfl rfl hsign rfl rfl] at hnarrow
  cases hnarrow
  obtain ⟨report', hreport', hmatched'⟩ :=
    hsearch _ _ holdsDoubles_jobsSnapshot hreport hmatched
  obtain ⟨q, accepted, hq, hp, hqd⟩ := hsymmetric (.infinite true)
  exact ⟨_, wide, report', q, accepted, hclose, hwider, hwide, hreport', hmatched', hq, hp, hqd⟩

end Request

end MetricCheck
