import MetricCheck.Assertion
import MetricCheck.Proofs.Request.Narrowing
import MetricCheck.Proofs.Search.Absence
import MetricCheck.Proofs.Search.Account
import MetricCheck.Proofs.Search.Readable

/-!
This module contains what a request by name alone finds. It takes the name of a family for enough,
where the same request for any value at all wants a sample, so the two differ exactly if a family
extends the requested name and no sample of a candidate does.
-/

namespace MetricCheck

namespace Request

def NamesFamily (r : Request) (families : List FamilyRecord) : Prop :=
  ∃ family ∈ families, r.Extends family

def NamesSample (r : Request) (families : List FamilyRecord) : Prop :=
  ∃ family ∈ families, r.IsCandidate family ∧
    ∃ samples, family.samples = .ok samples ∧ ∃ s ∈ samples, r.Covers s

def withAnyValue (r : Request) : Request :=
  { r with valueRule := some .anything }

variable {r : Request} {families : List FamilyRecord} {family : FamilyRecord}

theorem finds_of_bareName (hfree : r.isConstrained = false) :
    r.Finds family ↔ r.Extends family ∨
      ∃ samples, family.samples = .ok samples ∧ ∃ s ∈ samples, r.Covers s := by
  have hends : r.EndsAccepted family ↔ r.HoldsAccepted family :=
    endsAccepted_iff_of_no_rule (rules_of_unconstrained hfree).2
  simp only [Finds, SettledByName, hfree, true_and, hends, ite_self,
    holdsAccepted_of_unconstrained hfree]

theorem fits_withAnyValue (hfree : r.isConstrained = false) {s : SampleRecord} :
    r.withAnyValue.Fits s ↔ r.Covers s := by
  rw [← fits_of_unconstrained hfree]
  rfl

theorem acceptsValue_withAnyValue {s : SampleRecord} (hdecides : r.withAnyValue.Decides s)
    (hfits : r.withAnyValue.Fits s) : r.withAnyValue.AcceptsValue s := by
  obtain ⟨value, hvalue, _⟩ := hdecides.value rfl hfits
  intro rule hrule
  cases hrule
  exact ⟨value, hvalue, rfl⟩

-- Every value is accepted, so the last sample that fits is as good as any other one.
theorem finds_withAnyValue (hfree : r.isConstrained = false) (hcandidate : r.IsCandidate family)
    (hdecides : r.withAnyValue.DecidesFamily family) :
    r.withAnyValue.Finds family ↔
      ∃ samples, family.samples = .ok samples ∧ ∃ s ∈ samples, r.Covers s := by
  have hsettled : ¬r.withAnyValue.SettledByName family := not_settledByName_of_rule rfl
  obtain ⟨samples, hsamples, hall⟩ := hdecides.samples hcandidate hsettled
  have hholds : r.withAnyValue.HoldsAccepted family ↔ ∃ s ∈ samples, r.withAnyValue.Fits s := by
    simp only [HoldsAccepted, hsamples, Except.ok.injEq, exists_eq_left']
    constructor
    . rintro ⟨s, hs, hfits, -⟩
      exact ⟨s, hs, hfits⟩
    . rintro ⟨s, hs, hfits⟩
      exact ⟨s, hs, hfits, acceptsValue_withAnyValue (hall s hs) hfits⟩
  have hends : r.withAnyValue.EndsAccepted family ↔ ∃ s ∈ samples, r.withAnyValue.Fits s := by
    rw [exists_lastFitting]
    simp only [EndsAccepted, hsamples, Except.ok.injEq, exists_eq_left']
    constructor
    . rintro ⟨s, hlast, -⟩
      exact ⟨s, hlast⟩
    . rintro ⟨s, hlast⟩
      exact ⟨s, hlast, acceptsValue_withAnyValue (hall s hlast.mem) hlast.fits⟩
  simp only [Finds, hsettled, false_or, hholds, hends, ite_self, fits_withAnyValue hfree, hsamples,
    Except.ok.injEq, exists_eq_left']

theorem evaluate_of_bareName (hfree : r.isConstrained = false)
    (hdecides : ∀ family ∈ families, r.DecidesFamily family) :
    ∃ report, r.evaluate families = .ok report ∧
      (report.matched = true ↔
        (r.present = true ↔ r.NamesFamily families ∨ r.NamesSample families)) := by
  obtain ⟨report, hreport, hmatched⟩ := evaluate_matched hdecides
  refine ⟨report, hreport, ?_⟩
  rw [hmatched, foundAmong_iff_finds hdecides]
  apply iff_congr Iff.rfl
  simp only [finds_of_bareName hfree]
  constructor
  . intro ⟨family, hfamily, hcandidate, hfinds⟩
    cases hfinds with
    | inl hextends => exact .inl ⟨family, hfamily, hextends⟩
    | inr hholds => exact .inr ⟨family, hfamily, hcandidate, hholds⟩
  . intro hnames
    cases hnames with
    | inl hextends =>
      obtain ⟨family, hfamily, hextends⟩ := hextends
      exact ⟨family, hfamily, .inl hextends, .inl hextends⟩
    | inr hholds =>
      obtain ⟨family, hfamily, hcandidate, hholds⟩ := hholds
      exact ⟨family, hfamily, hcandidate, .inr hholds⟩

theorem evaluate_withAnyValue (hfree : r.isConstrained = false)
    (hdecides : ∀ family ∈ families, r.withAnyValue.DecidesFamily family) :
    ∃ report, r.withAnyValue.evaluate families = .ok report ∧
      (report.matched = true ↔ (r.present = true ↔ r.NamesSample families)) := by
  obtain ⟨report, hreport, hmatched⟩ := evaluate_matched hdecides
  refine ⟨report, hreport, ?_⟩
  rw [hmatched, foundAmong_iff_finds hdecides]
  apply iff_congr Iff.rfl
  constructor
  . intro ⟨family, hfamily, hcandidate, hfinds⟩
    rw [finds_withAnyValue hfree hcandidate (hdecides family hfamily)] at hfinds
    exact ⟨family, hfamily, hcandidate, hfinds⟩
  . intro ⟨family, hfamily, hcandidate, hholds⟩
    rw [← finds_withAnyValue hfree hcandidate (hdecides family hfamily)] at hholds
    exact ⟨family, hfamily, hcandidate, hholds⟩

theorem bareName_matched_iff {name : String} (hname : Text.trim name.toList ≠ [])
    (present : Bool) (kind : SourceKind) (id : Nat) (tolerance : Value)
    (hfamilies : ∀ family ∈ families, family.IsTextual) :
    ∃ r r' report report', Request.ofName (.text name) present kind = .ok r ∧
      (Request.value (.predicate id .anything) tolerance).run r = .ok () r' ∧
      r.evaluate families = .ok report ∧ r'.evaluate families = .ok report' ∧
      (report.matched = true ↔
        (present = true ↔ r.NamesFamily families ∨ r.NamesSample families)) ∧
      (report'.matched = true ↔ (present = true ↔ r.NamesSample families)) ∧
      (report.matched = report'.matched ↔
        (r.NamesFamily families → r.NamesSample families)) := by
  have hr := ofName_text hname present kind
  generalize hbare : (⟨.text name, present, kind, [], none⟩ : Request) = r at hr
  have hfree : r.isConstrained = false := by rw [← hbare]; rfl
  have hpresent : r.present = present := by rw [← hbare]
  have hreadable : r.IsReadable := by
    rw [← hbare]
    exact ⟨⟨name, rfl⟩, by simp, by simp⟩
  have hreadable' : r.withAnyValue.IsReadable := by
    refine ⟨hreadable.name, hreadable.rules, ?_⟩
    intro rule hrule
    cases hrule
    exact .anything
  obtain ⟨report, hreport, hmatched⟩ := evaluate_of_bareName hfree
    (fun family hfamily => hreadable.decidesTexts.decidesFamily (hfamilies family hfamily))
  obtain ⟨report', hreport', hmatched'⟩ := evaluate_withAnyValue hfree
    (fun family hfamily => hreadable'.decidesTexts.decidesFamily (hfamilies family hfamily))
  rw [hpresent] at hmatched hmatched'
  refine ⟨r, r.withAnyValue, report, report', hr, rfl, hreport, hreport', hmatched, hmatched', ?_⟩
  rw [Bool.eq_iff_iff, hmatched, hmatched']
  by_cases hsample : r.NamesSample families
  . simp [hsample]
  . simp only [hsample, or_false, iff_false, imp_false]
    cases present <;> simp

/--
A family that has no samples yet, as a metric with labels before its first observation.
-/
def idleFamily : FamilyRecord :=
  .family ⟨.text "jobs", []⟩

theorem isTextual_idleFamily : idleFamily.IsTextual :=
  ⟨⟨"jobs", rfl⟩, [], rfl, by simp⟩

theorem extends_idleFamily {present : Bool} {kind : SourceKind} :
    Extends ⟨.text "jobs", present, kind, [], none⟩ idleFamily :=
  ⟨.text "jobs", rfl, by rw [Value.startsWith_text]; decide⟩

theorem not_namesSample_idleFamily (r : Request) : ¬r.NamesSample [idleFamily] := by
  simp [NamesSample, idleFamily, FamilyRecord.samples]

theorem bareName_matched_idleFamily :
    Text.trim "jobs".toList ≠ [] ∧ (∀ family ∈ [idleFamily], family.IsTextual) ∧
      ∃ r r' report report', Request.ofName (.text "jobs") true .registry = .ok r ∧
        (Request.value (.predicate 0 .anything) .null).run r = .ok () r' ∧
        r.evaluate [idleFamily] = .ok report ∧ r'.evaluate [idleFamily] = .ok report' ∧
        report.matched = true ∧ report'.matched = false := by
  have hname : Text.trim "jobs".toList ≠ [] := by decide
  have htextual : ∀ family ∈ [idleFamily], family.IsTextual := by simp [isTextual_idleFamily]
  obtain ⟨r, r', report, report', hr, hr', hreport, hreport', hmatched, hmatched', -⟩ :=
    bareName_matched_iff hname true .registry 0 .null htextual
  rw [ofName_text hname, Except.ok.injEq] at hr
  have hextends : r.NamesFamily [idleFamily] := by
    simp only [NamesFamily, List.mem_singleton, exists_eq_left, ← hr]
    exact extends_idleFamily
  refine ⟨hname, htextual, r, r', report, report', ?_, hr', hreport, hreport', ?_, ?_⟩
  . rw [ofName_text hname, hr]
  . simp [hmatched, hextends]
  . rw [← Bool.not_eq_true, hmatched']
    simp [not_namesSample_idleFamily]

theorem bareName_unlike_anyValue_idleFamily :
    ∃ found found' lacking lacking', hasMetric (.text "jobs") = .ok found ∧
      lacksMetric (.text "jobs") = .ok lacking ∧
      (Request.value (.predicate 0 .anything) .null).run found = .ok () found' ∧
      (Request.value (.predicate 0 .anything) .null).run lacking = .ok () lacking' ∧
      found.verdict [idleFamily] = .ok true ∧ found'.verdict [idleFamily] = .ok false ∧
      lacking.verdict [idleFamily] = .ok false ∧ lacking'.verdict [idleFamily] = .ok true ∧
      ¬found.NamesSample [idleFamily] := by
  have hname : Text.trim "jobs".toList ≠ [] := by decide
  refine ⟨_, _, _, _, ofName_text hname true .registry, ofName_text hname false .registry, rfl, rfl,
    ?_, ?_, ?_, ?_, not_namesSample_idleFamily _⟩
  . decide +kernel
  . decide +kernel
  . decide +kernel
  . decide +kernel

end Request

end MetricCheck
