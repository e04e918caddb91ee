import MetricCheck.Proofs.Explanation.Absence

/-!
This module contains what an explanation says when the absence of a value is asserted and a sample
has such a value. The values of all fitting samples that the search came to are listed, also those
that are rejected, and the last one from the family at which the search stopped is the value whose
absence was asserted.
-/

namespace MetricCheck

theorem exists_last_of_forall₂ {α β : Type} {R : α → β → Prop} {xs : List α} {x : α} {ys : List β}
    (h : List.Forall₂ R (xs ++ [x]) ys) : ∃ zs y, ys = zs ++ [y] ∧ R x y := by
  induction xs generalizing ys with
  | nil =>
    obtain ⟨y, rest, hy, hrest, rfl⟩ := List.forall₂_cons_left_iff.mp h
    rw [List.forall₂_nil_left_iff] at hrest
    exact ⟨[], y, by rw [hrest]; rfl, hy⟩
  | cons x' xs ih =>
    obtain ⟨y, rest, -, hrest, rfl⟩ := List.forall₂_cons_left_iff.mp h
    obtain ⟨zs, last, rfl, hlast⟩ := ih hrest
    exact ⟨y :: zs, last, rfl, hlast⟩

namespace Request

/--
Entries list the values of all samples that a search came to and that fit by name and labels: each
name once and in ascending order, with its values in the order of the search.
-/
structure ListsInspected (r : Request) (families : List FamilyRecord)
    (entries : List (Value × List Value)) : Prop where
  ascending : entries.Pairwise fun a b => a.1.before b.1 = .ok true
  mem_iff : ∀ name vs, (name, vs) ∈ entries ↔ vs ≠ [] ∧
    List.Forall₂ (fun s value => s.observed = .ok value)
      ((r.inspectedSamples families).filter fun s => r.Fits s ∧ s.IsNamed name) vs

variable {r : Request} {families : List FamilyRecord} {samples : List SampleRecord}
  {report : Report}

theorem StopsAt.filter_inspectedSamples {family : FamilyRecord} {s : SampleRecord}
    (h : r.StopsAt families family s) (habsent : r.present = false)
    (hconstrained : r.isConstrained = true) (hcandidate : r.IsCandidate family) {name : Value}
    (hnamed : s.IsNamed name) :
    ∃ earlier, (r.inspectedSamples families).filter (fun t => r.Fits t ∧ t.IsNamed name) =
      earlier ++ [s] := by
  obtain ⟨before, after, -, hscanned⟩ := h.scanned
  obtain ⟨samples, hsamples, front, back, rfl, hfits, hback⟩ := h.last
  have hsearches : r.Searches family := ⟨hcandidate, by simp [SettledByName, hconstrained]⟩
  have hall : r.inspectedIn family = front ++ s :: back := by
    rw [inspectedIn, FamilyRecord.allSamples, hsamples]
    apply throughFirst_eq_self
    simp [habsent]
  -- After the last fitting sample of the family the search comes to no other one that fits.
  have hnone : back.filter (fun t => r.Fits t ∧ t.IsNamed name) = [] := by
    rw [List.filter_eq_nil_iff]
    intro t ht
    simp [hback t ht]
  have hinspected : r.inspectedSamples families =
      (before.filter (r.Searches ·)).flatMap r.inspectedIn ++ (front ++ s :: back) := by
    rw [inspectedSamples, hscanned, List.filter_append, List.flatMap_append,
      List.filter_cons_of_pos (by simpa using hsearches), List.filter_nil, List.flatMap_singleton,
      hall]
  rw [hinspected, List.filter_append, List.filter_append,
    List.filter_cons_of_pos (by simpa using ⟨hfits, hnamed⟩), hnone, ← List.append_assoc]
  exact ⟨_, rfl⟩

theorem Accounts.listsInspected
    (h : r.Accounts (r.scannedFamilies families) (r.inspectedSamples families) report)
    (hconstrained : r.isConstrained = true) {entries : List (Value × List Value)}
    (hperm : entries.Perm report.values)
    (hascending : entries.Pairwise fun a b => a.1.before b.1 = .ok true) :
    r.ListsInspected families entries where
  ascending := hascending
  mem_iff := by
    intro name vs
    rw [hperm.mem_iff, h.mem_values_iff]
    simp only [RecordsValue, hconstrained, true_and]

theorem Accounts.exists_last_value
    (h : r.Accounts (r.scannedFamilies families) (r.inspectedSamples families) report)
    {family : FamilyRecord} {s : SampleRecord} (hstops : r.StopsAt families family s)
    (habsent : r.present = false) (hconstrained : r.isConstrained = true)
    (hcandidate : r.IsCandidate family) {name value : Value} (hnamed : s.IsNamed name)
    (hvalue : s.observed = .ok value) : ∃ vs, (name, vs ++ [value]) ∈ report.values := by
  obtain ⟨earlier, hfilter⟩ :=
    hstops.filter_inspectedSamples habsent hconstrained hcandidate hnamed
  have hvalues := h.values name
  simp only [RecordsValue, hconstrained, true_and, hfilter] at hvalues
  obtain ⟨vs, last, hlast, hobserved⟩ := exists_last_of_forall₂ hvalues
  rw [hvalue, Except.ok.injEq] at hobserved
  subst hobserved
  refine ⟨vs, h.mem_values_iff.mpr ⟨by simp, ?_⟩⟩
  rw [← hlast]
  exact h.values name

theorem values_listed_of_found {rule : Predicate} (habsent : r.present = false)
    (hrule : r.valueRule = some rule) (hdecides : ∀ family ∈ families, r.DecidesFamily family)
    (hreport : r.evaluate families = .ok report) (hmatched : report.matched = false) :
    ∃ entries, r.ListsInspected families entries ∧
      r.renderMismatch report = Rendering.ofText "a value matches: " ++ rule.describe ++
        Rendering.ofText (Explanation.indented ++ "found values: ") ++
          Rendering.concat (entries.map fun entry => Explanation.valueLine entry.1 entry.2) ∧
      (∀ text, r.mismatchText report = .ok text →
        text.toList = "a value matches: ".toList ++ rule.describe.text.toList ++
          "\n          found values: ".toList ++ entries.flatMap Explanation.entrySpelling) ∧
      (∃ family s name value vs, r.StopsAt families family s ∧ s.name = .ok name ∧
        s.observed = .ok value ∧ rule.accepts value = .ok true ∧ (name, vs ++ [value]) ∈ entries) ∧
      (r.Describes → (∀ s ∈ r.inspectedSamples families, s.Shows) →
        r.mismatchText report = .ok (r.renderMismatch report).text) := by
  have hconstrained : r.isConstrained = true := by simp [isConstrained, hrule]
  obtain ⟨family, s, hstops, hcandidate, haccepts⟩ :=
    exists_stopsAt_of_not_matched habsent hconstrained hdecides hreport hmatched
  obtain ⟨value, hvalue, haccepted⟩ := haccepts rule hrule
  obtain ⟨samples, -, hlast⟩ := hstops.last
  obtain ⟨name, hname, hstarts⟩ := hlast.fits.1
  have hnamed : s.IsNamed name :=
    ⟨name, hname, ((Value.isName_of_startsWith hstarts).same_iff name).mpr rfl⟩
  have haccounts := accounts_of_evaluate hdecides hreport
  obtain ⟨vs, hmem⟩ :=
    haccounts.exists_last_value hstops habsent hconstrained hcandidate hnamed hvalue
  have hsort := haccounts.isSortable hdecides
  obtain ⟨entries, hentries, hperm, hascending⟩ := haccounts.exists_sortedValues hsort
  have hrender := renderMismatch_eq_byValues hrule (List.ne_nil_of_mem hmem)
  refine ⟨entries, haccounts.listsInspected hconstrained hperm hascending, ?_, ?_, ?_, ?_⟩
  . rw [hrender, Explanation.byValues, habsent, hentries]
    rfl
  . have hreads := @Explanation.reads_byValues r report rule entries hentries
    rwa [habsent, if_neg Bool.false_ne_true, ← hrender] at hreads
  . exact ⟨family, s, name, value, vs, hstops, hname, hvalue, haccepted, hperm.mem_iff.mpr hmem⟩
  . intro hdescribes hshows
    exact Rendering.complete_of_fault? (haccounts.fault?_renderMismatch hsort hdescribes hshows)

theorem isReadable_jobsRequest (present : Bool) (relation : OrderRelation) :
    (jobsRequest present relation).IsReadable where
  name := ⟨_, rfl⟩
  rules := (isReadable_valuedRequest .anything).rules
  valueRule := by
    intro rule hrule
    cases hrule
    exact .ordered relation 0

theorem values_listed_of_found_jobsSnapshot :
    (jobsRequest false .less).present = false ∧
      (jobsRequest false .less).valueRule = some (.ordered .less (.int 0)) ∧
      (∀ family ∈ jobsSnapshot, (jobsRequest false .less).DecidesFamily family) ∧
      ∃ report entries, (jobsRequest false .less).evaluate jobsSnapshot = .ok report ∧
        report.matched = false ∧
        (jobsRequest false .less).ListsInspected jobsSnapshot entries ∧
        (∃ family s name value vs, (jobsRequest false .less).StopsAt jobsSnapshot family s ∧
          s.name = .ok name ∧ s.observed = .ok value ∧
          (Predicate.ordered .less (.int 0)).accepts value = .ok true ∧
          (name, vs ++ [value]) ∈ entries) ∧
        (jobsRequest false .less).mismatchText report =
          .ok ((jobsRequest false .less).renderMismatch report).text ∧
        ((jobsRequest false .less).renderMismatch report).text =
          "a value matches: a value less than <0>\n          found values: \n" ++
            "          - <1.0>, <-1.0> for sample \"jobs_total\"" := by
  have hdecides := decidesFamily_jobsSnapshot false .less
  obtain ⟨report, hreport, hmatched, hspelled⟩ := exists_report_of_text
    ("a value matches: a value less than <0>\n          found values: \n" ++
      "          - <1.0>, <-1.0> for sample \"jobs_total\"")
    (by decide +kernel : (jobsRequest false .less).verdict jobsSnapshot = .ok false)
    (by decide +kernel)
  obtain ⟨entries, hlists, -, -, hstops, hwhole⟩ :=
    values_listed_of_found rfl rfl hdecides hreport hmatched
  have hexpected : (jobsRequest false .less).expectationText =
      .ok ("a CollectorRegistry not containing a sample with name: \"jobs_total\"" ++
        " value: a value less than <0> and labels:\n\"queue\"=\"in\"\n") := by decide +kernel
  have hdescribes := (isReadable_jobsRequest false .less).describes hexpected
  have htext := hwhole hdescribes (shows_of_mem_inspectedSamples isTextual_jobsSnapshot)
  refine ⟨rfl, rfl, hdecides, report, entries, hreport, hmatched, hlists, hstops, htext, ?_⟩
  exact Except.ok.inj (htext.symm.trans hspelled)

end Request

end MetricCheck
