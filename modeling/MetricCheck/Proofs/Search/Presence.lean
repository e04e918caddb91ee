import Mathlib.Data.Multiset.Defs
import MetricCheck.Proofs.Search.Verdict

/-!
This module contains what an assertion of presence says: some candidate holds a sample that fits by
name, labels and value, or settles the matter by its name. The statement knows no order, and neither
does the verdict.
-/

namespace MetricCheck

def SampleRecord.unordered (s : SampleRecord) :
    Except Fault Value × Except Fault (Multiset (Value × Value)) × Except Fault Value :=
  (s.name, s.labels.map Multiset.ofList, s.observed)

def FamilyRecord.unordered (family : FamilyRecord) : Except Fault Value × Except Fault (Multiset
    (Except Fault Value × Except Fault (Multiset (Value × Value)) × Except Fault Value)) :=
  (family.name, family.samples.map fun samples =>
    Multiset.ofList (samples.map SampleRecord.unordered))

theorem SampleRecord.labels_perm {s t : SampleRecord} (h : s.unordered = t.unordered)
    {labels : List (Value × Value)} (hlabels : s.labels = .ok labels) :
    ∃ labels', t.labels = .ok labels' ∧ labels.Perm labels' := by
  simp only [unordered, Prod.mk.injEq, hlabels, Except.map] at h
  cases hlabels' : t.labels with
  | error fault => simp [hlabels'] at h
  | ok labels' =>
    simp only [hlabels', Except.ok.injEq] at h
    exact ⟨labels', rfl, Multiset.coe_eq_coe.mp h.2.1⟩

theorem FamilyRecord.samples_perm {family other : FamilyRecord}
    (h : family.unordered = other.unordered) {samples : List SampleRecord}
    (hsamples : family.samples = .ok samples) :
    ∃ samples', other.samples = .ok samples' ∧
      (samples.map SampleRecord.unordered).Perm (samples'.map SampleRecord.unordered) := by
  simp only [unordered, Prod.mk.injEq, hsamples, Except.map] at h
  cases hsamples' : other.samples with
  | error fault => simp [hsamples'] at h
  | ok samples' =>
    simp only [hsamples', Except.ok.injEq] at h
    exact ⟨samples', rfl, Multiset.coe_eq_coe.mp h.2⟩

theorem exists_mem_of_map_perm {α β : Type} {f : α → β} {xs ys : List α} {x : α}
    (h : (xs.map f).Perm (ys.map f)) (hx : x ∈ xs) : ∃ y ∈ ys, f x = f y := by
  have hmem := h.mem_iff.mp (List.mem_map_of_mem hx)
  obtain ⟨y, hy, heq⟩ := List.mem_map.mp hmem
  exact ⟨y, hy, heq.symm⟩

theorem LabelRule.keptBy_perm {rule : LabelRule} {labels labels' : List (Value × Value)}
    (h : labels.Perm labels') : rule.KeptBy labels ↔ rule.KeptBy labels' := by
  simp only [KeptBy, h.mem_iff]

namespace Request

variable {r : Request} {rules : List LabelRule}

theorem isConstrained_perm (hrules : r.rules.Perm rules) :
    isConstrained { r with rules := rules } = r.isConstrained := by
  simp [isConstrained, hrules.isEmpty_eq]

theorem covers_unordered {s t : SampleRecord} (h : s.unordered = t.unordered) :
    r.Covers s ↔ r.Covers t := by
  simp only [SampleRecord.unordered, Prod.mk.injEq] at h
  simp only [Covers, h.1]

theorem acceptsValue_unordered {s t : SampleRecord} (h : s.unordered = t.unordered) :
    r.AcceptsValue s ↔ r.AcceptsValue t := by
  simp only [SampleRecord.unordered, Prod.mk.injEq] at h
  simp only [AcceptsValue, h.2.2]

theorem FitsLabels.unordered {s t : SampleRecord} (hfits : r.FitsLabels s)
    (hrules : r.rules.Perm rules) (h : s.unordered = t.unordered) :
    FitsLabels { r with rules := rules } t := by
  intro rule hrule
  obtain ⟨labels, hlabels, hkept⟩ := hfits rule (hrules.mem_iff.mpr hrule)
  obtain ⟨labels', hlabels', hperm⟩ := SampleRecord.labels_perm h hlabels
  exact ⟨labels', hlabels', (LabelRule.keptBy_perm hperm).mp hkept⟩

theorem Fits.unordered {s t : SampleRecord} (hfits : r.Fits s) (hrules : r.rules.Perm rules)
    (h : s.unordered = t.unordered) : Fits { r with rules := rules } t :=
  ⟨(covers_unordered h).mp hfits.1, hfits.2.unordered hrules h⟩

theorem Decides.unordered {s t : SampleRecord} (hdecides : r.Decides s)
    (hrules : r.rules.Perm rules) (h : s.unordered = t.unordered) :
    Decides { r with rules := rules } t where
  name := by
    simp only [SampleRecord.unordered, Prod.mk.injEq] at h
    rw [← h.1]
    exact hdecides.name
  labels := by
    intro hconstrained hcovers
    rw [isConstrained_perm hrules] at hconstrained
    obtain ⟨labels, hlabels, hall⟩ :=
      hdecides.labels hconstrained ((covers_unordered h).mpr hcovers)
    obtain ⟨labels', hlabels', hperm⟩ := SampleRecord.labels_perm h hlabels
    refine ⟨labels', hlabels', ?_⟩
    intro label hlabel
    specialize hall label (hperm.mem_iff.mpr hlabel)
    exact ⟨hall.1, fun rule hrule => hall.2 rule (hrules.mem_iff.mpr hrule)⟩
  value := by
    intro hconstrained hfits
    rw [isConstrained_perm hrules] at hconstrained
    obtain ⟨value, hvalue, hall⟩ :=
      hdecides.value hconstrained (hfits.unordered hrules.symm h.symm)
    simp only [SampleRecord.unordered, Prod.mk.injEq] at h
    exact ⟨value, by rw [← h.2.2, hvalue], hall⟩

theorem extends_unordered {family other : FamilyRecord} (h : family.unordered = other.unordered) :
    r.Extends family ↔ r.Extends other := by
  simp only [FamilyRecord.unordered, Prod.mk.injEq] at h
  simp only [Extends, h.1]

theorem isCandidate_unordered {family other : FamilyRecord}
    (h : family.unordered = other.unordered) : r.IsCandidate family ↔ r.IsCandidate other := by
  rw [IsCandidate, IsCandidate, extends_unordered h]
  simp only [FamilyRecord.unordered, Prod.mk.injEq] at h
  simp only [Derives, h.1]

theorem DecidesFamily.unordered {family other : FamilyRecord} (hdecides : r.DecidesFamily family)
    (hrules : r.rules.Perm rules) (h : family.unordered = other.unordered) :
    DecidesFamily { r with rules := rules } other where
  name := by
    simp only [FamilyRecord.unordered, Prod.mk.injEq] at h
    rw [← h.1]
    exact hdecides.name
  candidacy := by
    simp only [FamilyRecord.unordered, Prod.mk.injEq] at h
    have hcandidacy := hdecides.candidacy
    rw [Request.candidacy, h.1] at hcandidacy
    exact hcandidacy
  samples := by
    intro hcandidate hsettled
    have hfree : ¬r.SettledByName family := by
      intro hfamily
      rw [SettledByName, ← isConstrained_perm hrules, extends_unordered h] at hfamily
      exact hsettled hfamily
    obtain ⟨samples, hsamples, hall⟩ :=
      hdecides.samples ((isCandidate_unordered h).mpr hcandidate) hfree
    obtain ⟨samples', hsamples', hperm⟩ := FamilyRecord.samples_perm h hsamples
    refine ⟨samples', hsamples', ?_⟩
    intro t ht
    obtain ⟨s, hs, heq⟩ := exists_mem_of_map_perm hperm.symm ht
    exact (hall s hs).unordered hrules heq.symm

theorem HoldsAccepted.unordered {family other : FamilyRecord} (hholds : r.HoldsAccepted family)
    (hrules : r.rules.Perm rules) (h : family.unordered = other.unordered) :
    HoldsAccepted { r with rules := rules } other := by
  obtain ⟨samples, hsamples, s, hs, hfits, hvalue⟩ := hholds
  obtain ⟨samples', hsamples', hperm⟩ := FamilyRecord.samples_perm h hsamples
  obtain ⟨t, ht, heq⟩ := exists_mem_of_map_perm hperm hs
  exact ⟨samples', hsamples', t, ht, hfits.unordered hrules heq,
    (acceptsValue_unordered heq).mp hvalue⟩

theorem FoundAmong.unordered {families families' : List FamilyRecord}
    (hfound : r.FoundAmong families) (hpresent : r.present = true)
    (hdecides : ∀ family ∈ families, r.DecidesFamily family)
    (hdecides' : ∀ family ∈ families', DecidesFamily { r with rules := rules } family)
    (hrules : r.rules.Perm rules)
    (h : (families.map FamilyRecord.unordered).Perm (families'.map FamilyRecord.unordered)) :
    FoundAmong { r with rules := rules } families' := by
  rw [foundAmong_of_present hpresent hdecides] at hfound
  rw [foundAmong_of_present (r := { r with rules := rules }) hpresent hdecides']
  obtain ⟨family, hfamily, hcandidate, hholds⟩ := hfound
  obtain ⟨other, hother, heq⟩ := exists_mem_of_map_perm h hfamily
  refine ⟨other, hother, (isCandidate_unordered heq).mp hcandidate, ?_⟩
  cases hholds with
  | inl hsettled =>
    rw [SettledByName, ← isConstrained_perm hrules, extends_unordered heq] at hsettled
    exact .inl hsettled
  | inr hholds => exact .inr (hholds.unordered hrules heq)

theorem matched_of_present_iff (hpresent : r.present = true) {families : List FamilyRecord}
    (hdecides : ∀ family ∈ families, r.DecidesFamily family) :
    (∃ report, r.evaluate families = .ok report ∧
      (report.matched = true ↔ ∃ family ∈ families, r.IsCandidate family ∧
        ((r.isConstrained = false ∧ r.Extends family) ∨
          ∃ samples, family.samples = .ok samples ∧ ∃ s ∈ samples, r.Accepts s))) ∧
    (∀ rules families', r.rules.Perm rules →
      (families.map FamilyRecord.unordered).Perm (families'.map FamilyRecord.unordered) →
        verdict { r with rules := rules } families' = r.verdict families) := by
  constructor
  . exact evaluate_matched_of_present hpresent hdecides
  . intro rules families' hrules h
    have hdecides' : ∀ other ∈ families', DecidesFamily { r with rules := rules } other := by
      intro other hother
      obtain ⟨family, hfamily, heq⟩ := exists_mem_of_map_perm h.symm hother
      exact (hdecides family hfamily).unordered hrules heq.symm
    apply verdict_congr hdecides hdecides' rfl
    constructor
    . intro hfound
      exact hfound.unordered hpresent hdecides' hdecides hrules.symm h.symm
    . intro hfound
      exact hfound.unordered hpresent hdecides hdecides' hrules h

theorem matched_of_accepted_jobsFamily :
    (jobsRequest true .greater).present = true ∧
      (∀ family ∈ jobsSnapshot, (jobsRequest true .greater).DecidesFamily family) ∧
        ∃ report, (jobsRequest true .greater).evaluate jobsSnapshot = .ok report ∧
          report.matched = true := by
  have hdecides := decidesFamily_jobsSnapshot true .greater
  obtain ⟨⟨report, hreport, hmatched⟩, _⟩ := matched_of_present_iff rfl hdecides
  refine ⟨rfl, hdecides, report, hreport, hmatched.mpr ?_⟩
  refine ⟨jobsFamily, by simp [jobsSnapshot], isCandidate_jobsFamily true .greater, .inr ?_⟩
  refine ⟨_, rfl, jobsSample "in" false, by simp, ?_, ?_⟩
  . exact (fits_jobsSample_iff true .greater "in" false).mpr rfl
  . exact (acceptsValue_jobsSample_iff true .greater "in" false).mpr (by decide +kernel)

end Request

end MetricCheck
