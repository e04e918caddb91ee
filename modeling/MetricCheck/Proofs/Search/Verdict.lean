import MetricCheck.Proofs.Search.Families

/-!
This module contains what the verdict of an evaluation is made of: the own verdicts of the
candidates, whatever their order. It also says when a request decides a snapshot whose names are
texts, as they are in all snapshots that sources promise.
-/

namespace MetricCheck

namespace Request

variable {r : Request} {requested : String}

theorem decides_of_texts (hrequested : r.name = .text requested) {sample : Sample} {name : String}
    (hname : sample.name = .text name)
    (hlabels : ∀ label ∈ sample.labels,
      (∃ labelName, label.1 = .text labelName) ∧ ∀ rule ∈ r.rules, rule.Decides label)
    (hvalue : ∀ rule ∈ r.valueRule, rule.Decides sample.value) : r.Decides (.sample sample) where
  name := by
    refine ⟨sample.name, rfl, by simp [hname, Value.isKey], ?_⟩
    rw [hname, hrequested, Value.startsWith_text]
    exact ⟨_, rfl⟩
  labels := by
    intro _ _
    refine ⟨sample.labels, rfl, ?_⟩
    intro label hlabel
    obtain ⟨⟨labelName, htext⟩, hrules⟩ := hlabels label hlabel
    exact ⟨by simp [htext, Value.isKey], hrules⟩
  value := by
    intro _ _
    exact ⟨sample.value, rfl, hvalue⟩

theorem exists_candidacy_of_texts (hrequested : r.name = .text requested) {family : FamilyRecord}
    {name : String} (hname : family.name = .ok (.text name)) :
    ∃ candidacy, r.candidacy family = .ok candidacy := by
  simp only [candidacy, hname, hrequested, Value.startsWith_text, bind, Except.bind]
  split
  . exact ⟨_, rfl⟩
  . split
    . exact ⟨_, rfl⟩
    . exact ⟨_, rfl⟩

theorem decidesFamily_of_texts (hrequested : r.name = .text requested) {family : Family}
    {name : String} (hname : family.name = .text name)
    (hsamples : ∀ s ∈ family.samples, r.Decides s) : r.DecidesFamily (.family family) where
  name := ⟨family.name, rfl, by simp [hname, Value.isKey]⟩
  candidacy := exists_candidacy_of_texts hrequested (congrArg Except.ok hname)
  samples := by
    intro _ _
    exact ⟨family.samples, rfl, hsamples⟩

def jobsRequest (present : Bool) (relation : OrderRelation) : Request :=
  ⟨.text "jobs_total", present, .registry,
    [⟨0, .equalTo (.text "queue"), .equalTo (.text "in")⟩], some (.ordered relation (.int 0))⟩

def jobsSample (queue : String) (negative : Bool) : SampleRecord :=
  .sample ⟨.text "jobs_total", [(.text "queue", .text queue)], .double (.ofDecimal negative 1 0)⟩

/--
Two samples of the queue `in`, of which the last one is negative, and one of another queue.
-/
def jobsFamily : FamilyRecord :=
  .family ⟨.text "jobs", [jobsSample "in" false, jobsSample "in" true, jobsSample "out" false]⟩

def createdFamily : FamilyRecord :=
  .family ⟨.text "jobs_total_created", [jobsSample "out" false]⟩

def jobsSnapshot : List FamilyRecord :=
  [createdFamily, jobsFamily]

theorem decides_jobsSample (present : Bool) (relation : OrderRelation) (queue : String)
    (negative : Bool) : (jobsRequest present relation).Decides (jobsSample queue negative) := by
  apply decides_of_texts rfl rfl
  . simp [jobsRequest, LabelRule.Decides, Predicate.Decides, Predicate.accepts]
  . simp [jobsRequest, Predicate.Decides, Predicate.accepts, Value.number?]

theorem decidesFamily_jobsSnapshot (present : Bool) (relation : OrderRelation) :
    ∀ family ∈ jobsSnapshot, (jobsRequest present relation).DecidesFamily family := by
  intro family hfamily
  simp only [jobsSnapshot, List.mem_cons, List.not_mem_nil, or_false] at hfamily
  cases hfamily with
  | inl hcreated =>
    rw [hcreated]
    apply decidesFamily_of_texts rfl rfl
    simp [decides_jobsSample]
  | inr hjobs =>
    rw [hjobs]
    apply decidesFamily_of_texts rfl rfl
    simp [decides_jobsSample]

theorem fits_jobsSample_iff (present : Bool) (relation : OrderRelation) (queue : String)
    (negative : Bool) :
    (jobsRequest present relation).Fits (jobsSample queue negative) ↔ queue = "in" := by
  have hcovers : (jobsRequest present relation).Covers (jobsSample queue negative) :=
    ⟨.text "jobs_total", rfl, by simp [jobsRequest, Text.startsWith]⟩
  rw [Fits, and_iff_right hcovers, eq_comm]
  simp [FitsLabels, jobsRequest, jobsSample, SampleRecord.labels, LabelRule.KeptBy,
    LabelRule.Concerns, LabelRule.Allows, Predicate.accepts, Value.same, Value.text?]

theorem acceptsValue_jobsSample_iff (present : Bool) (relation : OrderRelation) (queue : String)
    (negative : Bool) :
    (jobsRequest present relation).AcceptsValue (jobsSample queue negative) ↔
      relation.holds (.int 0) (.double (.ofDecimal negative 1 0)) = true := by
  simp [AcceptsValue, jobsRequest, jobsSample, SampleRecord.observed, Predicate.accepts,
    Value.number?]

theorem isCandidate_jobsFamily (present : Bool) (relation : OrderRelation) :
    (jobsRequest present relation).IsCandidate jobsFamily :=
  .inr ⟨.text "jobs", rfl, by simp [jobsRequest, Text.startsWith]⟩

theorem matched_iff_exists_ownVerdict {families : List FamilyRecord}
    (hdecides : ∀ family ∈ families, r.DecidesFamily family) :
    (∃ report, r.evaluate families = .ok report ∧
      (report.matched = true ↔
        (r.present = true ↔
          ∃ family ∈ families, r.IsCandidate family ∧ r.ownVerdict family = .ok true))) ∧
    (∀ scanned, scanned <+: families →
      (r.searchFamilies false .empty scanned).2 = .ok true →
        (r.searchFamilies false .empty families).2 = .ok true) ∧
    (∀ families', (∀ family ∈ families', r.DecidesFamily family) →
      (∀ family, r.IsCandidate family → (family ∈ families ↔ family ∈ families')) →
        r.verdict families' = r.verdict families) := by
  refine ⟨evaluate_matched hdecides, ?_, ?_⟩
  . intro scanned hscan hscanned
    obtain ⟨before, hbefore, hfound⟩ := searchFamilies_verdict_of_nothing
      (fun family hfamily => hdecides family (hscan.mem hfamily))
    obtain ⟨found, hall, hiff⟩ := searchFamilies_verdict_of_nothing hdecides
    rw [hbefore, Except.ok.injEq] at hscanned
    obtain ⟨family, hfamily, hown⟩ := hfound.mp hscanned
    rw [hall, hiff.mpr ⟨family, hscan.mem hfamily, hown⟩]
  . intro families' hdecides' hsame
    apply verdict_congr hdecides hdecides' rfl
    constructor
    . intro ⟨family, hfamily, hcandidate, hown⟩
      exact ⟨family, (hsame family hcandidate).mpr hfamily, hcandidate, hown⟩
    . intro ⟨family, hfamily, hcandidate, hown⟩
      exact ⟨family, (hsame family hcandidate).mp hfamily, hcandidate, hown⟩

theorem not_matched_of_ownVerdict_jobsFamily :
    (∀ family ∈ jobsSnapshot, (jobsRequest false .less).DecidesFamily family) ∧
      ∃ report, (jobsRequest false .less).evaluate jobsSnapshot = .ok report ∧
        report.matched = false := by
  have hdecides := decidesFamily_jobsSnapshot false .less
  obtain ⟨⟨report, hreport, hmatched⟩, _⟩ := matched_iff_exists_ownVerdict hdecides
  refine ⟨hdecides, report, hreport, ?_⟩
  have hfound : ∃ family ∈ jobsSnapshot, (jobsRequest false .less).IsCandidate family ∧
      (jobsRequest false .less).ownVerdict family = .ok true :=
    ⟨jobsFamily, by simp [jobsSnapshot], isCandidate_jobsFamily false .less, by decide +kernel⟩
  rw [Bool.eq_false_iff]
  intro htrue
  have hpresent := (hmatched.mp htrue).mpr hfound
  simp [jobsRequest] at hpresent

end Request

end MetricCheck
