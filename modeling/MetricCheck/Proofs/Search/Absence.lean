import MetricCheck.Proofs.Search.Verdict

/-!
This module contains what an assertion of absence says: it fails if and only if some candidate
counts as found, where the last fitting sample of a candidate speaks for all its samples. An
assertion and its opposite never both fail, and both hold only if a value that was accepted is not
the last one.
-/

namespace MetricCheck

namespace Request

/--
A family counts as found by an assertion of absence. If only a name is asked for, the name of the
family or of one of its samples is enough; otherwise the last sample that fits by name and labels
must have an accepted value.
-/
def CountsAsFound (r : Request) (family : FamilyRecord) : Prop :=
  (r.isConstrained = false ∧ (r.Extends family ∨
    ∃ samples, family.samples = .ok samples ∧ ∃ s ∈ samples, r.Covers s)) ∨
  (r.isConstrained = true ∧
    ∃ samples, family.samples = .ok samples ∧ ∃ s, r.LastFitting samples s ∧ r.AcceptsValue s)

def FollowedByMisfits (r : Request) (family longer : FamilyRecord) : Prop :=
  longer.name = family.name ∧ ∃ samples misfits, family.samples = .ok samples ∧
    longer.samples = .ok (samples ++ misfits) ∧ ∀ s ∈ misfits, ¬r.Fits s

variable {r : Request} {family : FamilyRecord}

theorem holdsAccepted_of_endsAccepted (h : r.EndsAccepted family) : r.HoldsAccepted family := by
  obtain ⟨samples, hsamples, s, hlast, hvalue⟩ := h
  exact ⟨samples, hsamples, s, hlast.mem, hlast.fits, hvalue⟩

theorem endsAccepted_iff_of_no_rule (hrule : r.valueRule = none) :
    r.EndsAccepted family ↔ r.HoldsAccepted family := by
  constructor
  . exact holdsAccepted_of_endsAccepted
  . intro ⟨samples, hsamples, s, hs, hfits, _⟩
    obtain ⟨last, hlast⟩ := exists_lastFitting.mp ⟨s, hs, hfits⟩
    exact ⟨samples, hsamples, last, hlast, acceptsValue_of_no_rule hrule⟩

theorem holdsAccepted_of_unconstrained (hfree : r.isConstrained = false) :
    r.HoldsAccepted family ↔
      ∃ samples, family.samples = .ok samples ∧ ∃ s ∈ samples, r.Covers s := by
  simp only [HoldsAccepted, Accepts, fits_of_unconstrained hfree,
    acceptsValue_of_no_rule (rules_of_unconstrained hfree).2, and_true]

theorem countsAsFound_iff :
    r.CountsAsFound family ↔ r.SettledByName family ∨ r.EndsAccepted family := by
  unfold CountsAsFound SettledByName
  cases hconstrained : r.isConstrained with
  | true => simp [EndsAccepted]
  | false =>
    rw [endsAccepted_iff_of_no_rule (rules_of_unconstrained hconstrained).2,
      holdsAccepted_of_unconstrained hconstrained]
    simp

theorem CountsAsFound.followed {longer : FamilyRecord} (h : r.CountsAsFound family)
    (hlonger : r.FollowedByMisfits family longer) : r.CountsAsFound longer := by
  rw [countsAsFound_iff] at h ⊢
  obtain ⟨hname, samples, misfits, hsamples, hmore, hmisfits⟩ := hlonger
  cases h with
  | inl hsettled =>
    obtain ⟨hfree, hextends⟩ := hsettled
    exact .inl ⟨hfree, by rwa [Extends, hname]⟩
  | inr hends =>
    obtain ⟨row, hrow, s, hlast, hvalue⟩ := hends
    rw [hsamples, Except.ok.injEq] at hrow
    subst hrow
    exact .inr ⟨samples ++ misfits, hmore, s, hlast.append hmisfits, hvalue⟩

theorem not_matched_of_absent_iff (habsent : r.present = false) {families : List FamilyRecord}
    (hdecides : ∀ family ∈ families, r.DecidesFamily family) :
    (∃ report, r.evaluate families = .ok report ∧
      (report.matched = false ↔ ∃ family ∈ families, r.IsCandidate family ∧
        r.CountsAsFound family)) ∧
    (∀ family ∈ families, r.IsCandidate family → r.CountsAsFound family →
      ∀ families', (∀ other ∈ families', r.DecidesFamily other) →
        (family ∈ families' ∨ ∃ longer ∈ families', r.FollowedByMisfits family longer) →
          r.verdict families' = .ok false) := by
  simp only [countsAsFound_iff]
  refine ⟨evaluate_matched_of_absent habsent hdecides, ?_⟩
  simp only [← countsAsFound_iff]
  intro family hfamily hcandidate hcounts families' hdecides' hstill
  obtain ⟨report, hreport, hmatched⟩ := evaluate_matched_of_absent habsent hdecides'
  simp only [← countsAsFound_iff] at hmatched
  suffices hfound : ∃ other ∈ families', r.IsCandidate other ∧ r.CountsAsFound other by
    simp [verdict, hreport, Except.map, hmatched.mpr hfound]
  cases hstill with
  | inl hmem => exact ⟨family, hmem, hcandidate, hcounts⟩
  | inr hlonger =>
    obtain ⟨longer, hmem, hlonger⟩ := hlonger
    refine ⟨longer, hmem, ?_, hcounts.followed hlonger⟩
    rwa [IsCandidate, Extends, Derives, hlonger.1]

theorem not_matched_of_last_jobsFamily :
    (jobsRequest false .less).present = false ∧
      (∀ family ∈ jobsSnapshot, (jobsRequest false .less).DecidesFamily family) ∧
        ∃ report, (jobsRequest false .less).evaluate jobsSnapshot = .ok report ∧
          report.matched = false := by
  have hdecides := decidesFamily_jobsSnapshot false .less
  obtain ⟨⟨report, hreport, hmatched⟩, _⟩ := not_matched_of_absent_iff rfl hdecides
  refine ⟨rfl, hdecides, report, hreport, hmatched.mpr ?_⟩
  refine ⟨jobsFamily, by simp [jobsSnapshot], isCandidate_jobsFamily false .less, .inr ⟨rfl, ?_⟩⟩
  refine ⟨_, rfl, jobsSample "in" true, ⟨[jobsSample "in" false], [jobsSample "out" false], rfl,
    ?_, ?_⟩, ?_⟩
  . exact (fits_jobsSample_iff false .less "in" true).mpr rfl
  . simp [fits_jobsSample_iff]
  . exact (acceptsValue_jobsSample_iff false .less "in" true).mpr (by decide +kernel)

theorem Decides.asking (b : Bool) {s : SampleRecord} (h : r.Decides s) :
    Decides { r with present := b } s :=
  ⟨h.name, h.labels, h.value⟩

theorem DecidesFamily.asking (b : Bool) (h : r.DecidesFamily family) :
    DecidesFamily { r with present := b } family where
  name := h.name
  candidacy := h.candidacy
  samples := by
    intro hcandidate hsettled
    obtain ⟨samples, hsamples, hall⟩ := h.samples hcandidate hsettled
    exact ⟨samples, hsamples, fun s hs => (hall s hs).asking b⟩

theorem not_settledByName_of_rule (hrule : r.valueRule.isSome = true) :
    ¬r.SettledByName family := by
  intro hsettled
  have hfree := hsettled.1
  simp [isConstrained, hrule] at hfree

-- A rule for values leaves no third way: the last fitting value is accepted or rejected.
theorem not_endsAccepted_iff (hrule : r.valueRule.isSome = true) (hcandidate : r.IsCandidate family)
    (hdecides : r.DecidesFamily family) :
    ¬r.EndsAccepted family ↔ ∀ samples, family.samples = .ok samples →
      ∀ s, r.LastFitting samples s → r.RejectsValue s := by
  obtain ⟨samples, hsamples, hall⟩ :=
    hdecides.samples hcandidate (not_settledByName_of_rule hrule)
  simp only [EndsAccepted, hsamples, Except.ok.injEq, exists_eq_left', forall_eq', not_exists,
    not_and]
  constructor
  . intro hnone s hlast
    exact (rejectsValue_iff (hall s hlast.mem) hlast.fits hrule).mpr (hnone s hlast)
  . intro hrejects s hlast
    exact (rejectsValue_iff (hall s hlast.mem) hlast.fits hrule).mp (hrejects s hlast)

theorem matched_or_matched_opposite {families : List FamilyRecord}
    (hdecides : ∀ family ∈ families, r.DecidesFamily family) :
    ∃ positive negative,
      evaluate { r with present := true } families = .ok positive ∧
      evaluate { r with present := false } families = .ok negative ∧
      (positive.matched = true ∨ negative.matched = true) ∧
      (r.valueRule = none → positive.matched = !negative.matched) ∧
      (r.valueRule.isSome = true →
        ((positive.matched = true ∧ negative.matched = true) ↔
          (∃ family ∈ families, r.IsCandidate family ∧
            ∃ samples, family.samples = .ok samples ∧ ∃ s ∈ samples, r.Accepts s) ∧
          ∀ family ∈ families, r.IsCandidate family →
            ∀ samples, family.samples = .ok samples →
              ∀ s, r.LastFitting samples s → r.RejectsValue s)) := by
  obtain ⟨positive, hpositive, hfound⟩ := evaluate_matched_of_present
    (r := { r with present := true }) rfl
    (fun family hfamily => (hdecides family hfamily).asking true)
  obtain ⟨negative, hnegative, hlost⟩ := evaluate_matched_of_absent
    (r := { r with present := false }) rfl
    (fun family hfamily => (hdecides family hfamily).asking false)
  change _ ↔ ∃ family ∈ families, r.IsCandidate family ∧
    (r.SettledByName family ∨ r.HoldsAccepted family) at hfound
  change _ ↔ ∃ family ∈ families, r.IsCandidate family ∧
    (r.SettledByName family ∨ r.EndsAccepted family) at hlost
  refine ⟨positive, negative, hpositive, hnegative, ?_, ?_, ?_⟩
  . cases hmatched : negative.matched with
    | true => exact .inr rfl
    | false =>
      obtain ⟨family, hfamily, hcandidate, hends⟩ := hlost.mp hmatched
      exact .inl (hfound.mpr
        ⟨family, hfamily, hcandidate, hends.imp_right holdsAccepted_of_endsAccepted⟩)
  . intro hrule
    simp only [endsAccepted_iff_of_no_rule hrule] at hlost
    rw [← hfound] at hlost
    rw [Bool.eq_iff_iff, ← hlost, Bool.not_eq_true']
  . intro hrule
    simp only [not_settledByName_of_rule hrule, false_or] at hfound hlost
    rw [hfound, ← Bool.not_eq_false, hlost]
    simp only [not_exists, not_and]
    apply and_congr_right
    intro _
    apply forall_congr'
    intro family
    apply forall_congr'
    intro hfamily
    apply forall_congr'
    intro hcandidate
    exact not_endsAccepted_iff hrule hcandidate (hdecides family hfamily)

theorem matched_and_matched_opposite_jobsSnapshot :
    (∀ family ∈ jobsSnapshot, (jobsRequest true .greater).DecidesFamily family) ∧
      ∃ positive negative, (jobsRequest true .greater).evaluate jobsSnapshot = .ok positive ∧
        (jobsRequest false .greater).evaluate jobsSnapshot = .ok negative ∧
          positive.matched = true ∧ negative.matched = true := by
  have hdecides := decidesFamily_jobsSnapshot true .greater
  obtain ⟨positive, negative, hpositive, hnegative, _, _, hboth⟩ :=
    matched_or_matched_opposite hdecides
  refine ⟨hdecides, positive, negative, hpositive, hnegative, (hboth rfl).mpr ⟨?_, ?_⟩⟩
  . refine ⟨jobsFamily, by simp [jobsSnapshot], isCandidate_jobsFamily true .greater, _, rfl,
      jobsSample "in" false, by simp, ?_, ?_⟩
    . exact (fits_jobsSample_iff true .greater "in" false).mpr rfl
    . exact (acceptsValue_jobsSample_iff true .greater "in" false).mpr (by decide +kernel)
  . intro family hfamily _ samples hsamples s hlast
    simp only [jobsSnapshot, List.mem_cons, List.not_mem_nil, or_false] at hfamily
    cases hfamily with
    | inl hcreated =>
      subst hcreated
      cases hsamples
      simp [lastFitting_cons, lastFitting_nil, fits_jobsSample_iff] at hlast
    | inr hjobs =>
      subst hjobs
      cases hsamples
      simp [lastFitting_cons, lastFitting_nil, fits_jobsSample_iff] at hlast
      subst hlast
      exact ⟨_, rfl, _, rfl, by decide +kernel⟩

end Request

end MetricCheck
