import MetricCheck.Assertion
import MetricCheck.Proofs.Explanation.Failure
import MetricCheck.Proofs.Explanation.Total

/-!
This module contains what an explanation says when the absence of a sample is asserted and the
sample is there. The search stops at a family whose last fitting sample is accepted, and comes to
all samples of that family. If only labels are asked for, though, the label sets in the explanation
are those of the other samples: the ones whose names fit and whose labels do not.
-/

namespace MetricCheck

namespace Request

structure ListsMisfits (r : Request) (families : List FamilyRecord) (records : List LabelRecord) :
    Prop where
  documents : List.Forall₂ r.Documents
    ((r.inspectedSamples families).filter fun s => r.RecordsLabels s) records
  faults : ∀ record ∈ records, record.missing ≠ [] ∨ record.mismatches ≠ []

structure StopsAt (r : Request) (families : List FamilyRecord) (family : FamilyRecord)
    (s : SampleRecord) : Prop where
  scanned : ∃ before after, families = before ++ family :: after ∧
    r.scannedFamilies families = before ++ [family]
  last : ∃ samples, family.samples = .ok samples ∧ r.LastFitting samples s

variable {r : Request} {families : List FamilyRecord} {samples : List SampleRecord}
  {report : Report}

theorem mem_inspectedSamples_of_absent (habsent : r.present = false) {family : FamilyRecord}
    (hfamily : family ∈ r.scannedFamilies families) (hsearches : r.Searches family)
    {s : SampleRecord} (hs : s ∈ family.allSamples) : s ∈ r.inspectedSamples families := by
  have hall : r.inspectedIn family = family.allSamples := by
    apply throughFirst_eq_self
    simp [habsent]
  apply List.mem_flatMap.mpr
  exact ⟨family, by simp [hfamily, hsearches], by rwa [hall]⟩

theorem exists_endsSearch_of_not_matched (habsent : r.present = false)
    (hconstrained : r.isConstrained = true)
    (hdecides : ∀ family ∈ families, r.DecidesFamily family)
    (hreport : r.evaluate families = .ok report) (hmatched : report.matched = false) :
    ∃ family ∈ families, r.EndsSearch family := by
  have hiff := matched_iff_of_evaluate hdecides hreport
  rw [hmatched, habsent] at hiff
  simp only [Bool.false_eq_true, false_iff, not_not] at hiff
  obtain ⟨family, hfamily, hcandidate, hfinds⟩ := hiff
  exact ⟨family, hfamily, by simp [stopsWhenFound, hconstrained], hcandidate, hfinds⟩

theorem exists_stopsAt_of_not_matched (habsent : r.present = false)
    (hconstrained : r.isConstrained = true)
    (hdecides : ∀ family ∈ families, r.DecidesFamily family)
    (hreport : r.evaluate families = .ok report) (hmatched : report.matched = false) :
    ∃ family s, r.StopsAt families family s ∧ r.IsCandidate family ∧ r.AcceptsValue s := by
  obtain ⟨before, family, after, hsplit, hscanned, -, hcandidate, hfinds⟩ := throughFirst_split
    (exists_endsSearch_of_not_matched habsent hconstrained hdecides hreport hmatched)
  have hsettled : ¬r.SettledByName family := by simp [SettledByName, hconstrained]
  rw [Finds, or_iff_right hsettled, habsent] at hfinds
  obtain ⟨samples, hsamples, s, hlast, haccepts⟩ := hfinds
  exact ⟨family, s, ⟨⟨before, after, hsplit, hscanned⟩, samples, hsamples, hlast⟩, hcandidate,
    haccepts⟩

theorem exists_lastFitting_of_not_matched (habsent : r.present = false)
    (hconstrained : r.isConstrained = true)
    (hdecides : ∀ family ∈ families, r.DecidesFamily family)
    (hreport : r.evaluate families = .ok report) (hmatched : report.matched = false) :
    ∃ family ∈ r.scannedFamilies families, ∃ samples s, family.samples = .ok samples ∧
      r.LastFitting samples s ∧ r.AcceptsValue s ∧
        ∀ t ∈ samples, t ∈ r.inspectedSamples families := by
  obtain ⟨family, s, hstops, hcandidate, haccepts⟩ :=
    exists_stopsAt_of_not_matched habsent hconstrained hdecides hreport hmatched
  obtain ⟨before, after, -, hscanned⟩ := hstops.scanned
  obtain ⟨samples, hsamples, hlast⟩ := hstops.last
  have hfamily : family ∈ r.scannedFamilies families := by simp [hscanned]
  refine ⟨family, hfamily, samples, s, hsamples, hlast, haccepts, ?_⟩
  intro t ht
  apply mem_inspectedSamples_of_absent habsent hfamily
    ⟨hcandidate, by simp [SettledByName, hconstrained]⟩
  simpa [FamilyRecord.allSamples, hsamples] using ht

theorem Accounts.listsMisfits
    (h : r.Accounts (r.scannedFamilies families) (r.inspectedSamples families) report) :
    r.ListsMisfits families report.records where
  documents := h.records
  faults := by
    intro record hrecord
    obtain ⟨s, hs, hdocuments⟩ := exists_left_of_forall₂ h.records hrecord
    rw [List.mem_filter, decide_eq_true_eq] at hs
    exact hdocuments.faults hs.2.2

theorem labels_listed_of_found (habsent : r.present = false) (hrules : r.rules ≠ [])
    (hfree : r.valueRule = none) (hdecides : ∀ family ∈ families, r.DecidesFamily family)
    (hreport : r.evaluate families = .ok report) (hmatched : report.matched = false) :
    (∃ s ∈ r.inspectedSamples families, r.Fits s) ∧
    ∃ records, r.ListsMisfits families records ∧
      (∀ record ∈ records, ∃ s ∈ r.inspectedSamples families,
        r.Covers s ∧ ¬r.FitsLabels s ∧ r.Documents s record) ∧
      (records ≠ [] →
        r.renderMismatch report = Rendering.ofText "labels did match:" ++
          Rendering.concat (records.map (Explanation.recordBlock false)) ∧
        ∀ text, r.mismatchText report = .ok text → text.toList = "labels did match:".toList ++
          records.flatMap fun record => Explanation.tupleSpelling record.labels) ∧
      (records = [] → ∃ familyNames sampleNames,
        r.renderMismatch report = Explanation.byNames r familyNames sampleNames) ∧
      (r.Describes → (∀ s ∈ r.inspectedSamples families, s.Shows) →
        r.mismatchText report = .ok (r.renderMismatch report).text) := by
  have hconstrained : r.isConstrained = true := by
    cases hrows : r.rules with
    | nil => contradiction
    | cons rule rest => simp [isConstrained, hrows]
  obtain ⟨_, -, samples, s, -, hlast, -, hinspected⟩ :=
    exists_lastFitting_of_not_matched habsent hconstrained hdecides hreport hmatched
  obtain ⟨report', hreport', haccounts⟩ := evaluate_accounts hdecides
  rw [hreport, Except.ok.injEq] at hreport'
  subst hreport'
  have hsort := haccounts.isSortable hdecides
  refine ⟨⟨s, hinspected s hlast.mem, hlast.fits⟩, report.records, haccounts.listsMisfits,
    ?_, ?_, ?_, ?_⟩
  . intro record hrecord
    obtain ⟨t, ht, hdocuments⟩ := exists_left_of_forall₂ haccounts.records hrecord
    rw [List.mem_filter, decide_eq_true_eq] at ht
    exact ⟨t, ht.1, ht.2.1, ht.2.2, hdocuments⟩
  . intro hrecords
    have hrender : r.renderMismatch report = Explanation.byLabels r report := by
      rw [renderMismatch_of_no_values (.inr hfree), if_neg (by simpa using hrecords)]
    constructor
    . rw [hrender, Explanation.byLabels, habsent]
      rfl
    . rw [mismatchText, hrender]
      exact Explanation.reads_byLabels_of_absent habsent
  . intro hrecords
    obtain ⟨familyNames, hfamilies, -⟩ := haccounts.exists_sortedFamilyNames hsort
    obtain ⟨sampleNames, hsamples, -⟩ := haccounts.exists_sortedSampleNames hsort
    refine ⟨familyNames, sampleNames, ?_⟩
    rw [renderMismatch_of_no_values (.inr hfree), hrecords, hfamilies, hsamples]
    rfl
  . intro hdescribes hshows
    exact Rendering.complete_of_fault? (haccounts.fault?_renderMismatch hsort hdescribes hshows)

def absentQueueRequest : Request :=
  { jobsRequest false .less with valueRule := none }

def mixedFamily : FamilyRecord :=
  .family ⟨.text "jobs", [jobsSample "out" false, jobsSample "in" false]⟩

theorem isReadable_absentQueueRequest : absentQueueRequest.IsReadable where
  name := ⟨_, rfl⟩
  rules := (isReadable_valuedRequest .anything).rules
  valueRule := by simp [absentQueueRequest]

theorem isTextual_mixedFamily : ∀ family ∈ [mixedFamily], family.IsTextual := by
  rw [List.forall_mem_singleton]
  exact ⟨⟨_, rfl⟩, _, rfl, by simp [isTextual_jobsSample]⟩

theorem decidesFamily_mixedFamily :
    ∀ family ∈ [mixedFamily], absentQueueRequest.DecidesFamily family :=
  fun family hfamily =>
    isReadable_absentQueueRequest.decidesTexts.decidesFamily (isTextual_mixedFamily family hfamily)

theorem not_matched_mixedFamily :
    ∃ report, absentQueueRequest.evaluate [mixedFamily] = .ok report ∧ report.matched = false :=
  evaluate_of_verdict (by decide +kernel)

theorem labels_listed_of_found_mixedFamily :
    absentQueueRequest.present = false ∧ absentQueueRequest.rules ≠ [] ∧
      absentQueueRequest.valueRule = none ∧
      (∀ family ∈ [mixedFamily], absentQueueRequest.DecidesFamily family) ∧
      ∃ report records, absentQueueRequest.evaluate [mixedFamily] = .ok report ∧
        report.matched = false ∧ records.length = 1 ∧
        absentQueueRequest.ListsMisfits [mixedFamily] records ∧
        absentQueueRequest.renderMismatch report = Rendering.ofText "labels did match:" ++
          Rendering.concat (records.map (Explanation.recordBlock false)) := by
  have hdecides := decidesFamily_mixedFamily
  have hrules : absentQueueRequest.rules ≠ [] := List.cons_ne_nil _ _
  obtain ⟨report, hreport, hmatched⟩ := not_matched_mixedFamily
  obtain ⟨-, records, hlists, -, hlabels, -⟩ :=
    labels_listed_of_found rfl hrules rfl hdecides hreport hmatched
  have hlength : records.length = 1 := by
    rw [← hlists.documents.length_eq]
    decide +kernel
  refine ⟨rfl, hrules, rfl, hdecides, report, records, hreport, hmatched, hlength, hlists, ?_⟩
  apply (hlabels _).1
  rw [← List.length_pos_iff, hlength]
  decide

theorem labels_listed_unlike_fitting_mixedFamily :
    (∃ r, lacksMetric (.text "jobs_total") = .ok r ∧
        (Request.label 0 (.text "queue") (.text "in")).run r = .ok () absentQueueRequest) ∧
      (∀ family ∈ [mixedFamily], absentQueueRequest.DecidesFamily family) ∧
      ∃ report, absentQueueRequest.evaluate [mixedFamily] = .ok report ∧
        report.matched = false ∧
        absentQueueRequest.mismatchText report = .ok "labels did match:\n(queue=out)" ∧
        ∀ s ∈ absentQueueRequest.inspectedSamples [mixedFamily], absentQueueRequest.Fits s →
          (do Explanation.labelTuple (← s.labelMap)) = .ok "(queue=in)" := by
  obtain ⟨report, hreport, hmatched, htext⟩ := exists_report_of_text
    "labels did match:\n(queue=out)"
    (by decide +kernel : absentQueueRequest.verdict [mixedFamily] = .ok false) (by decide +kernel)
  refine ⟨⟨_, rfl, rfl⟩, decidesFamily_mixedFamily, report, hreport, hmatched, htext, ?_⟩
  decide +kernel

end Request

end MetricCheck
