import MetricCheck.Proofs.Explanation.Complete
import MetricCheck.Proofs.Explanation.Spelling
import MetricCheck.Proofs.Search.Readable

/-!
This module contains what an explanation says when a sample is asked for and not found. A search
that finds nothing comes to all samples of all candidates, so its report is about the whole
snapshot, and what a report holds then settles which of the three explanations is given.
-/

namespace MetricCheck

namespace Request

def candidateSamples (r : Request) (families : List FamilyRecord) : List SampleRecord :=
  (families.filter fun family => r.IsCandidate family).flatMap FamilyRecord.allSamples

def coveredSamples (r : Request) (families : List FamilyRecord) : List SampleRecord :=
  (r.candidateSamples families).filter fun s => r.Covers s

/--
Entries list the values of all samples that fit by name and labels: each name once and in ascending
order, with its values in the order of the samples. None of the values is accepted.
-/
structure ListsValues (r : Request) (families : List FamilyRecord) (rule : Predicate)
    (entries : List (Value × List Value)) : Prop where
  ascending : entries.Pairwise fun a b => a.1.before b.1 = .ok true
  mem_iff : ∀ name vs, (name, vs) ∈ entries ↔ vs ≠ [] ∧
    List.Forall₂ (fun s value => s.observed = .ok value)
      ((r.coveredSamples families).filter fun s => r.FitsLabels s ∧ s.IsNamed name) vs
  rejected : ∀ entry ∈ entries, ∀ value ∈ entry.2, rule.accepts value = .ok false

structure ListsRecords (r : Request) (families : List FamilyRecord) (records : List LabelRecord) :
    Prop where
  documents : List.Forall₂ r.Documents (r.coveredSamples families) records
  faults : ∀ record ∈ records, record.missing ≠ [] ∨ record.mismatches ≠ []

structure ListsNames (r : Request) (families : List FamilyRecord)
    (familyNames sampleNames : List Value) : Prop where
  families_ascending : familyNames.Pairwise fun a b => a.before b = .ok true
  samples_ascending : sampleNames.Pairwise fun a b => a.before b = .ok true
  mem_families : ∀ name, name ∈ familyNames ↔ ∃ family ∈ families, family.name = .ok name
  mem_samples : ∀ name, name ∈ sampleNames ↔ ∃ s ∈ r.candidateSamples families, s.name = .ok name

variable {r : Request} {families : List FamilyRecord} {samples : List SampleRecord}
  {report : Report}

theorem not_finds_of_not_matched (hpresent : r.present = true)
    (hdecides : ∀ family ∈ families, r.DecidesFamily family)
    (hreport : r.evaluate families = .ok report) (hmatched : report.matched = false) :
    ∀ family ∈ families, r.IsCandidate family → ¬r.Finds family := by
  have hiff := matched_iff_of_evaluate hdecides hreport
  rw [hmatched, hpresent] at hiff
  intro family hfamily hcandidate hfinds
  simpa using hiff.mpr (by simpa using ⟨family, hfamily, hcandidate, hfinds⟩)

theorem not_accepts_of_not_finds (hpresent : r.present = true) {family : FamilyRecord}
    (hfinds : ¬r.Finds family) : ∀ s ∈ family.allSamples, ¬r.Accepts s := by
  intro s hs haccepts
  apply hfinds
  rw [Finds, if_pos hpresent]
  unfold FamilyRecord.allSamples at hs
  split at hs
  . next row hrow => exact .inr ⟨row, hrow, s, hs, haccepts⟩
  . contradiction

theorem scannedFamilies_of_not_finds
    (hnone : ∀ family ∈ families, r.IsCandidate family → ¬r.Finds family) :
    r.scannedFamilies families = families := by
  apply throughFirst_eq_self
  intro family hfamily hends
  exact hnone family hfamily hends.2.1 hends.2.2

theorem inspectedSamples_of_not_finds (hpresent : r.present = true)
    (hnone : ∀ family ∈ families, r.IsCandidate family → ¬r.Finds family) :
    r.inspectedSamples families = r.candidateSamples families := by
  have hsearches : ∀ family ∈ families, r.Searches family ↔ r.IsCandidate family := by
    intro family hfamily
    apply and_iff_left_of_imp
    intro hcandidate hsettled
    exact hnone family hfamily hcandidate (.inl hsettled)
  rw [inspectedSamples, candidateSamples, scannedFamilies_of_not_finds hnone,
    List.filter_congr fun family hfamily => decide_eq_decide.mpr (hsearches family hfamily)]
  apply List.flatMap_congr
  intro family hfamily
  rw [List.mem_filter, decide_eq_true_eq] at hfamily
  apply throughFirst_eq_self
  intro s hs haccepts
  exact not_accepts_of_not_finds hpresent (hnone family hfamily.1 hfamily.2) s hs haccepts.2

theorem not_accepts_of_mem_candidateSamples (hpresent : r.present = true)
    (hnone : ∀ family ∈ families, r.IsCandidate family → ¬r.Finds family) {s : SampleRecord}
    (hs : s ∈ r.candidateSamples families) : ¬r.Accepts s := by
  obtain ⟨family, hfamily, hmem⟩ := List.mem_flatMap.mp hs
  rw [List.mem_filter, decide_eq_true_eq] at hfamily
  exact not_accepts_of_not_finds hpresent (hnone family hfamily.1 hfamily.2) s hmem

theorem mem_coveredSamples {s : SampleRecord} :
    s ∈ r.coveredSamples families ↔ s ∈ r.candidateSamples families ∧ r.Covers s := by
  rw [coveredSamples, List.mem_filter, decide_eq_true_eq]

theorem Accounts.values_eq_nil_iff (h : r.Accounts families samples report) :
    report.values = [] ↔ ∀ s ∈ samples, ¬r.RecordsValue s := by
  constructor
  . intro hnil s hs hrecords
    obtain ⟨name, hname, hstarts⟩ := hrecords.2.1
    have hnamed : s.IsNamed name :=
      ⟨name, hname, ((Value.isName_of_startsWith hstarts).same_iff name).mpr rfl⟩
    have hvalues := h.values name
    rw [Report.valuesUnder, hnil, Report.lookup, List.forall₂_nil_right_iff,
      List.filter_eq_nil_iff] at hvalues
    apply hvalues s hs
    rw [decide_eq_true_eq]
    exact ⟨hrecords, hnamed⟩
  . intro hnone
    rw [List.eq_nil_iff_forall_not_mem]
    rintro ⟨name, vs⟩ hmem
    obtain ⟨value, hvalue⟩ := List.exists_mem_of_ne_nil vs (h.values_ne_nil (name, vs) hmem)
    obtain ⟨s, hs, hrecords, -⟩ := h.exists_observed hmem hvalue
    exact hnone s hs hrecords

theorem Documents.faults {s : SampleRecord} {record : LabelRecord} (h : r.Documents s record)
    (hmisfits : ¬r.FitsLabels s) : record.missing ≠ [] ∨ record.mismatches ≠ [] := by
  obtain ⟨labels, hlabels, -, hmissing, hmismatches⟩ := h
  rw [fitsLabels_iff hlabels, ← LabelRecord.isFullMatch_iff, LabelRecord.isFullMatch, ← hmissing,
    ← hmismatches, Bool.and_eq_true, List.isEmpty_iff, List.isEmpty_iff] at hmisfits
  rwa [← not_and_or]

theorem accounts_of_not_matched (hpresent : r.present = true)
    (hdecides : ∀ family ∈ families, r.DecidesFamily family)
    (hreport : r.evaluate families = .ok report) (hmatched : report.matched = false) :
    r.Accounts families (r.candidateSamples families) report ∧ report.IsSortable ∧
      ∀ s ∈ r.candidateSamples families, r.Decides s ∧ ¬r.Accepts s := by
  have hnone := not_finds_of_not_matched hpresent hdecides hreport hmatched
  have hsamples := inspectedSamples_of_not_finds hpresent hnone
  have haccounts := accounts_of_evaluate hdecides hreport
  have hsort := haccounts.isSortable hdecides
  rw [scannedFamilies_of_not_finds hnone, hsamples] at haccounts
  refine ⟨haccounts, hsort, ?_⟩
  intro s hs
  exact ⟨(decides_of_mem_inspectedSamples hdecides (hsamples ▸ hs)).1,
    not_accepts_of_mem_candidateSamples hpresent hnone hs⟩

theorem renderMismatch_eq_byValues {rule : Predicate} (hrule : r.valueRule = some rule)
    (hvalues : report.values ≠ []) :
    r.renderMismatch report = Explanation.byValues r rule report := by
  obtain ⟨entry, rest, hcons⟩ := List.exists_cons_of_ne_nil hvalues
  rw [renderMismatch, hcons, hrule]

theorem renderMismatch_of_no_values (h : report.values = [] ∨ r.valueRule = none) :
    r.renderMismatch report =
      if report.records.isEmpty then
        match (do return (← report.sortedFamilyNames, ← report.sortedSampleNames)) with
        | .error fault => Rendering.fail fault
        | .ok (familyNames, sampleNames) => Explanation.byNames r familyNames sampleNames
      else Explanation.byLabels r report := by
  unfold renderMismatch
  split
  . next hcons hrule =>
    simp [hcons, hrule] at h
  . rfl

theorem filter_recordsValue (hconstrained : r.isConstrained = true) (name : Value) :
    (samples.filter fun s => r.RecordsValue s ∧ s.IsNamed name) =
      (samples.filter fun s => r.Covers s).filter fun s => r.FitsLabels s ∧ s.IsNamed name := by
  rw [List.filter_filter]
  apply List.filter_congr
  intro s _
  rw [← Bool.decide_and, decide_eq_decide, RecordsValue, Fits, and_iff_right hconstrained,
    and_assoc, and_comm (a := r.Covers s), and_assoc]

theorem filter_recordsLabels (hmisfits : ∀ s ∈ samples, r.Covers s → ¬r.FitsLabels s) :
    (samples.filter fun s => r.RecordsLabels s) = samples.filter fun s => r.Covers s := by
  apply List.filter_congr
  intro s hs
  rw [decide_eq_decide, RecordsLabels]
  exact and_iff_left_of_imp (hmisfits s hs)

theorem Accounts.listsValues (h : r.Accounts families (r.candidateSamples families) report)
    (hsamples : ∀ s ∈ r.candidateSamples families, r.Decides s ∧ ¬r.Accepts s) {rule : Predicate}
    (hrule : r.valueRule = some rule) {entries : List (Value × List Value)}
    (hperm : entries.Perm report.values)
    (hascending : entries.Pairwise fun a b => a.1.before b.1 = .ok true) :
    r.ListsValues families rule entries := by
  have hconstrained : r.isConstrained = true := by simp [isConstrained, hrule]
  refine ⟨hascending, ?_, ?_⟩
  . intro name vs
    rw [hperm.mem_iff, h.mem_values_iff, filter_recordsValue hconstrained, coveredSamples]
  . intro entry hentry value hvalue
    obtain ⟨s, hs, hrecords, hobserved⟩ := h.exists_observed (hperm.mem_iff.mp hentry) hvalue
    obtain ⟨hdecides, hrejects⟩ := hsamples s hs
    -- A listed sample fits, so only its value can be why it is not accepted.
    have hvalueRejected : ¬r.AcceptsValue s := fun haccepts => hrejects ⟨hrecords.2, haccepts⟩
    rw [← rejectsValue_iff hdecides hrecords.2 (by simp [hrule])] at hvalueRejected
    obtain ⟨_, hrule', _, hobserved', hrejected⟩ := hvalueRejected
    rw [hrule, Option.mem_some] at hrule'
    rw [hobserved, Except.ok.injEq] at hobserved'
    subst hrule' hobserved'
    exact hrejected

theorem Accounts.listsRecords (h : r.Accounts families (r.candidateSamples families) report)
    (hmisfits : ∀ s ∈ r.coveredSamples families, ¬r.FitsLabels s) :
    r.ListsRecords families report.records := by
  have hrecords := h.records
  rw [filter_recordsLabels fun s hs hcovers => hmisfits s (mem_coveredSamples.mpr ⟨hs, hcovers⟩)]
    at hrecords
  refine ⟨hrecords, ?_⟩
  intro record hrecord
  obtain ⟨s, hs, hdocuments⟩ := exists_left_of_forall₂ hrecords hrecord
  exact hdocuments.faults (hmisfits s hs)

theorem Accounts.values_eq_nil_of_misfits
    (h : r.Accounts families (r.candidateSamples families) report)
    (hmisfits : ∀ s ∈ r.coveredSamples families, ¬r.FitsLabels s) : report.values = [] := by
  rw [h.values_eq_nil_iff]
  intro s hs hrecords
  exact hmisfits s (mem_coveredSamples.mpr ⟨hs, hrecords.2.1⟩) hrecords.2.2

theorem Accounts.explains_values (h : r.Accounts families (r.candidateSamples families) report)
    (hsort : report.IsSortable) (hpresent : r.present = true)
    (hsamples : ∀ s ∈ r.candidateSamples families, r.Decides s ∧ ¬r.Accepts s) {rule : Predicate}
    (hrule : r.valueRule = some rule) (hfits : ∃ s ∈ r.coveredSamples families, r.FitsLabels s) :
    ∃ entries, r.ListsValues families rule entries ∧
      (r.renderMismatch report).Reads
        ("no value matches: ".toList ++ rule.describe.text.toList ++
          "\n          found values: ".toList ++ entries.flatMap Explanation.entrySpelling) := by
  obtain ⟨s, hs, hfits⟩ := hfits
  rw [mem_coveredSamples] at hs
  obtain ⟨entries, hentries, hperm, hascending⟩ := h.exists_sortedValues hsort
  have hvalues : report.values ≠ [] := by
    intro hnil
    apply h.values_eq_nil_iff.mp hnil s hs.1
    exact ⟨by simp [isConstrained, hrule], hs.2, hfits⟩
  refine ⟨entries, h.listsValues hsamples hrule hperm hascending, ?_⟩
  have hreads := @Explanation.reads_byValues r report rule entries hentries
  rwa [hpresent, if_pos rfl, ← renderMismatch_eq_byValues hrule hvalues] at hreads

theorem Accounts.explains_labels (h : r.Accounts families (r.candidateSamples families) report)
    (hpresent : r.present = true) (hmisfits : ∀ s ∈ r.coveredSamples families, ¬r.FitsLabels s)
    (hcovered : r.coveredSamples families ≠ []) :
    ∃ records, r.ListsRecords families records ∧
      (r.renderMismatch report).Reads
        ("labels did not match:".toList ++ records.flatMap Explanation.recordSpelling) := by
  have hlists := h.listsRecords hmisfits
  refine ⟨report.records, hlists, ?_⟩
  rw [renderMismatch_of_no_values (.inl (h.values_eq_nil_of_misfits hmisfits)), if_neg]
  . exact Explanation.reads_byLabels hpresent
  . rw [List.isEmpty_iff]
    intro hnil
    have hdocuments := hlists.documents
    rw [hnil, List.forall₂_nil_right_iff] at hdocuments
    exact hcovered hdocuments

theorem Accounts.explains_names (h : r.Accounts families (r.candidateSamples families) report)
    (hsort : report.IsSortable) (hpresent : r.present = true)
    (hcovered : r.coveredSamples families = []) :
    ∃ familyNames sampleNames, r.ListsNames families familyNames sampleNames ∧
      (r.renderMismatch report).Reads
        ("no metric with name: ".toList ++ r.name.spelling ++ "\n          ".toList ++
          Explanation.allNamesSpelling familyNames sampleNames) := by
  have hmisfits : ∀ s ∈ r.coveredSamples families, ¬r.FitsLabels s := by simp [hcovered]
  have hrecords := (h.listsRecords hmisfits).documents
  rw [hcovered, List.forall₂_nil_left_iff] at hrecords
  obtain ⟨familyNames, hfamilies, hfamiliesPerm, hfamiliesAscending⟩ :=
    h.exists_sortedFamilyNames hsort
  obtain ⟨sampleNames, hsamples, hsamplesPerm, hsamplesAscending⟩ :=
    h.exists_sortedSampleNames hsort
  refine ⟨familyNames, sampleNames, ⟨hfamiliesAscending, hsamplesAscending, ?_, ?_⟩, ?_⟩
  . intro name
    rw [hfamiliesPerm.mem_iff, h.mem_familyNames]
  . intro name
    rw [hsamplesPerm.mem_iff, h.mem_sampleNames]
  . have hreads := @Explanation.reads_byNames r familyNames sampleNames
    rw [Explanation.byNamesSpelling, hpresent, if_pos rfl] at hreads
    rw [renderMismatch_of_no_values (.inl (h.values_eq_nil_of_misfits hmisfits)), hrecords,
      hfamilies, hsamples]
    exact hreads

theorem mismatchText_of_not_matched (hpresent : r.present = true)
    (hdecides : ∀ family ∈ families, r.DecidesFamily family)
    (hreport : r.evaluate families = .ok report) (hmatched : report.matched = false) :
    (∀ rule ∈ r.valueRule, (∃ s ∈ r.coveredSamples families, r.FitsLabels s) →
      ∃ entries, r.ListsValues families rule entries ∧
        ∀ text, r.mismatchText report = .ok text →
          text.toList = "no value matches: ".toList ++ rule.describe.text.toList ++
            "\n          found values: ".toList ++ entries.flatMap Explanation.entrySpelling) ∧
    (r.valueRule = none ∨ (∀ s ∈ r.coveredSamples families, ¬r.FitsLabels s) →
      r.coveredSamples families ≠ [] →
        ∃ records, r.ListsRecords families records ∧
          ∀ text, r.mismatchText report = .ok text →
            text.toList = "labels did not match:".toList ++
              records.flatMap Explanation.recordSpelling) ∧
    (r.coveredSamples families = [] →
      ∃ familyNames sampleNames, r.ListsNames families familyNames sampleNames ∧
        ∀ text, r.mismatchText report = .ok text →
          text.toList = "no metric with name: ".toList ++ r.name.spelling ++
            "\n          ".toList ++ Explanation.allNamesSpelling familyNames sampleNames) ∧
    (r.Describes → (∀ s ∈ r.candidateSamples families, s.Shows) →
      ∃ text, r.mismatchText report = .ok text) := by
  obtain ⟨haccounts, hsort, hsamples⟩ :=
    accounts_of_not_matched hpresent hdecides hreport hmatched
  refine ⟨?_, ?_, ?_, ?_⟩
  . intro rule hrule hfits
    exact haccounts.explains_values hsort hpresent hsamples hrule hfits
  . intro hcase hcovered
    apply haccounts.explains_labels hpresent _ hcovered
    cases hcase with
    | inl hfree =>
      -- Without a rule for values, a sample that fits would have been accepted.
      intro s hs hfits
      rw [mem_coveredSamples] at hs
      exact (hsamples s hs.1).2 ⟨⟨hs.2, hfits⟩, acceptsValue_of_no_rule hfree⟩
    | inr hmisfits => exact hmisfits
  . intro hcovered
    exact haccounts.explains_names hsort hpresent hcovered
  . intro hdescribes hshows
    exact ⟨_, Rendering.complete_of_fault?
      (haccounts.fault?_renderMismatch hsort hdescribes hshows)⟩

def backlogRequest : Request :=
  valuedRequest (.ordered .greater (.int 5))

def hostRequest : Request :=
  { backlogRequest with
    rules := backlogRequest.rules ++ [⟨1, .equalTo (.text "host"), .equalTo (.text "a")⟩] }

def lateRequest : Request :=
  { backlogRequest with name := .text "jobs_late" }

theorem isReadable_backlogRequest : backlogRequest.IsReadable :=
  isReadable_valuedRequest (.ordered .greater 5)

theorem isReadable_hostRequest : hostRequest.IsReadable where
  name := ⟨_, rfl⟩
  rules := by
    rw [hostRequest, List.forall_mem_append, List.forall_mem_singleton]
    exact ⟨isReadable_backlogRequest.rules, .text "host", .text "a"⟩
  valueRule := isReadable_backlogRequest.valueRule

theorem isReadable_lateRequest : lateRequest.IsReadable where
  name := ⟨_, rfl⟩
  rules := isReadable_backlogRequest.rules
  valueRule := isReadable_backlogRequest.valueRule

theorem IsReadable.decidesFamily_jobsSnapshot (h : r.IsReadable) :
    ∀ family ∈ jobsSnapshot, r.DecidesFamily family :=
  fun family hfamily => h.decidesTexts.decidesFamily (isTextual_jobsSnapshot family hfamily)

theorem exists_report_of_text (text : String) (hverdict : r.verdict families = .ok false)
    (htext : (do r.mismatchText (← r.evaluate families)) = .ok text) :
    ∃ report, r.evaluate families = .ok report ∧ report.matched = false ∧
      r.mismatchText report = .ok text := by
  obtain ⟨report, hreport, hmatched⟩ := evaluate_of_verdict hverdict
  rw [hreport] at htext
  exact ⟨report, hreport, hmatched, htext⟩

theorem mismatchText_of_not_matched_jobsSnapshot :
    (∃ report entries text, backlogRequest.present = true ∧
      (∀ family ∈ jobsSnapshot, backlogRequest.DecidesFamily family) ∧
      backlogRequest.evaluate jobsSnapshot = .ok report ∧ report.matched = false ∧
      backlogRequest.mismatchText report = .ok text ∧
      text = "no value matches: a value greater than <5>\n          found values: \n" ++
        "          - <1.0>, <-1.0> for sample \"jobs_total\"" ∧
      backlogRequest.ListsValues jobsSnapshot (.ordered .greater (.int 5)) entries ∧
      text.toList = "no value matches: ".toList ++ "a value greater than <5>".toList ++
        "\n          found values: ".toList ++ entries.flatMap Explanation.entrySpelling) ∧
    (∃ report records text, hostRequest.present = true ∧
      (∀ family ∈ [createdFamily], hostRequest.DecidesFamily family) ∧
      hostRequest.evaluate [createdFamily] = .ok report ∧ report.matched = false ∧
      hostRequest.mismatchText report = .ok text ∧
      text = "labels did not match:\n(queue=out)\n  missing names: \"host\"\n" ++
        "  unmatched label values:\n  - for \"queue\" expected: \"in\" but got: \"out\"\n" ∧
      hostRequest.ListsRecords [createdFamily] records ∧
      text.toList =
        "labels did not match:".toList ++ records.flatMap Explanation.recordSpelling) ∧
    ∃ report familyNames sampleNames text, lateRequest.present = true ∧
      (∀ family ∈ jobsSnapshot, lateRequest.DecidesFamily family) ∧
      lateRequest.evaluate jobsSnapshot = .ok report ∧ report.matched = false ∧
      lateRequest.mismatchText report = .ok text ∧
      text = "no metric with name: \"jobs_late\"\n          found metric names:\n" ++
        "          - \"jobs\"\n          - \"jobs_total_created\"\n" ++
        "          found metric sample names:\n          - \"jobs_total\"" ∧
      lateRequest.ListsNames jobsSnapshot familyNames sampleNames ∧
      text.toList = "no metric with name: ".toList ++ (Value.text "jobs_late").spelling ++
        "\n          ".toList ++ Explanation.allNamesSpelling familyNames sampleNames := by
  refine ⟨?_, ?_, ?_⟩
  . have hdecides := isReadable_backlogRequest.decidesFamily_jobsSnapshot
    obtain ⟨report, hreport, hmatched, htext⟩ := exists_report_of_text
      ("no value matches: a value greater than <5>\n          found values: \n" ++
        "          - <1.0>, <-1.0> for sample \"jobs_total\"")
      (by decide +kernel : backlogRequest.verdict jobsSnapshot = .ok false) (by decide +kernel)
    have hfits : ∃ s ∈ backlogRequest.coveredSamples jobsSnapshot,
        backlogRequest.FitsLabels s := by decide +kernel
    have hdescribes : (Predicate.ordered .greater (.int 5)).describe.text =
        "a value greater than <5>" := by decide +kernel
    obtain ⟨entries, hlists, hspelled⟩ :=
      (mismatchText_of_not_matched rfl hdecides hreport hmatched).1 _ rfl hfits
    rw [hdescribes] at hspelled
    exact ⟨report, entries, _, rfl, hdecides, hreport, hmatched, htext, rfl, hlists,
      hspelled _ htext⟩
  . have hdecides : ∀ family ∈ [createdFamily], hostRequest.DecidesFamily family :=
      List.forall_mem_singleton.mpr
        (isReadable_hostRequest.decidesFamily_jobsSnapshot createdFamily List.mem_cons_self)
    obtain ⟨report, hreport, hmatched, htext⟩ := exists_report_of_text
      ("labels did not match:\n(queue=out)\n  missing names: \"host\"\n" ++
        "  unmatched label values:\n  - for \"queue\" expected: \"in\" but got: \"out\"\n")
      (by decide +kernel : hostRequest.verdict [createdFamily] = .ok false) (by decide +kernel)
    have hmisfits : ∀ s ∈ hostRequest.coveredSamples [createdFamily],
        ¬hostRequest.FitsLabels s := by decide +kernel
    have hcovered : (hostRequest.coveredSamples [createdFamily]).length ≠ 0 := by decide +kernel
    obtain ⟨records, hlists, hspelled⟩ :=
      (mismatchText_of_not_matched rfl hdecides hreport hmatched).2.1 (.inr hmisfits)
        (mt List.length_eq_zero_iff.mpr hcovered)
    exact ⟨report, records, _, rfl, hdecides, hreport, hmatched, htext, rfl, hlists,
      hspelled _ htext⟩
  . have hdecides := isReadable_lateRequest.decidesFamily_jobsSnapshot
    obtain ⟨report, hreport, hmatched, htext⟩ := exists_report_of_text
      ("no metric with name: \"jobs_late\"\n          found metric names:\n" ++
        "          - \"jobs\"\n          - \"jobs_total_created\"\n" ++
        "          found metric sample names:\n          - \"jobs_total\"")
      (by decide +kernel : lateRequest.verdict jobsSnapshot = .ok false) (by decide +kernel)
    have hcovered : lateRequest.coveredSamples jobsSnapshot = [] :=
      List.length_eq_zero_iff.mp (by decide +kernel)
    obtain ⟨familyNames, sampleNames, hlists, hspelled⟩ :=
      (mismatchText_of_not_matched rfl hdecides hreport hmatched).2.2.1 hcovered
    exact ⟨report, familyNames, sampleNames, _, rfl, hdecides, hreport, hmatched, htext, rfl,
      hlists, hspelled _ htext⟩

end Request

end MetricCheck
