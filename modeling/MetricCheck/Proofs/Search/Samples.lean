import MetricCheck.Proofs.Search.Judgement

/-!
This module contains the verdict of a search through the samples of one family. If a sample is asked
for, the search finds the family's samples that the request accepts. If its absence is, the family's
last sample that fits by name and labels decides alone.
-/

namespace MetricCheck

namespace Report

theorem addSampleName_of_isKey {name : Value} (report : Report) (h : name.isKey = true) :
    report.addSampleName name =
      .ok { report with sampleNames := Value.addDistinct report.sampleNames name } := by
  simp [addSampleName, h]

theorem addValue_of_isKey {name : Value} (report : Report) (value : Value)
    (h : name.isKey = true) :
    report.addValue name value =
      .ok { report with values := addUnder name value report.values } := by
  simp [addValue, h]

def note (report : Report) (name : Value) (finding : Finding) : Report :=
  let named := { report with sampleNames := Value.addDistinct report.sampleNames name }
  match finding with
  | .otherName => named
  | .named => named
  | .labelled value _ => { named with values := addUnder name value report.values }
  | .mislabelled record => { named with records := report.records ++ [record] }

end Report

namespace Request

def LastFitting (r : Request) (samples : List SampleRecord) (s : SampleRecord) : Prop :=
  ∃ before after, samples = before ++ s :: after ∧ r.Fits s ∧ ∀ other ∈ after, ¬r.Fits other

def Notes (r : Request) (s : SampleRecord) (report report' : Report) : Prop :=
  ∃ name finding, s.name = .ok name ∧ r.Judges s finding ∧ report' = report.note name finding

variable {r : Request}

theorem lastFitting_nil {s : SampleRecord} : ¬r.LastFitting [] s := by
  intro ⟨before, after, hsplit, _⟩
  simp at hsplit

theorem lastFitting_cons {s t : SampleRecord} {rest : List SampleRecord} :
    r.LastFitting (t :: rest) s ↔
      r.LastFitting rest s ∨ (s = t ∧ r.Fits t ∧ ∀ other ∈ rest, ¬r.Fits other) := by
  constructor
  . intro ⟨before, after, hsplit, hfits, hafter⟩
    cases before with
    | nil =>
      simp only [List.nil_append, List.cons.injEq] at hsplit
      obtain ⟨rfl, rfl⟩ := hsplit
      exact .inr ⟨rfl, hfits, hafter⟩
    | cons _ before =>
      simp only [List.cons_append, List.cons.injEq] at hsplit
      exact .inl ⟨before, after, hsplit.2, hfits, hafter⟩
  . intro h
    cases h with
    | inl h =>
      obtain ⟨before, after, hsplit, hfits, hafter⟩ := h
      exact ⟨t :: before, after, by simp [hsplit], hfits, hafter⟩
    | inr h =>
      obtain ⟨rfl, hfits, hafter⟩ := h
      exact ⟨[], rest, rfl, hfits, hafter⟩

theorem LastFitting.mem {samples : List SampleRecord} {s : SampleRecord}
    (h : r.LastFitting samples s) : s ∈ samples := by
  obtain ⟨before, after, hsplit, _⟩ := h
  simp [hsplit]

theorem LastFitting.fits {samples : List SampleRecord} {s : SampleRecord}
    (h : r.LastFitting samples s) : r.Fits s := by
  obtain ⟨_, _, _, hfits, _⟩ := h
  exact hfits

theorem LastFitting.append {samples misfits : List SampleRecord} {s : SampleRecord}
    (h : r.LastFitting samples s) (hmisfits : ∀ other ∈ misfits, ¬r.Fits other) :
    r.LastFitting (samples ++ misfits) s := by
  obtain ⟨before, after, hsplit, hfits, hafter⟩ := h
  refine ⟨before, after ++ misfits, by simp [hsplit], hfits, ?_⟩
  rw [List.forall_mem_append]
  exact ⟨hafter, hmisfits⟩

theorem exists_lastFitting {samples : List SampleRecord} :
    (∃ s ∈ samples, r.Fits s) ↔ ∃ s, r.LastFitting samples s := by
  constructor
  . intro h
    induction samples with
    | nil => simp at h
    | cons t rest ih =>
      by_cases hrest : ∃ s ∈ rest, r.Fits s
      . obtain ⟨s, hs⟩ := ih hrest
        exact ⟨s, lastFitting_cons.mpr (.inl hs)⟩
      . simp only [not_exists, not_and] at hrest
        have hfits : r.Fits t := by
          obtain ⟨s, hs, hfits⟩ := h
          cases List.mem_cons.mp hs with
          | inl heq => rwa [← heq]
          | inr hs => exact absurd hfits (hrest s hs)
        exact ⟨t, lastFitting_cons.mpr (.inr ⟨rfl, hfits, hrest⟩)⟩
  . intro ⟨s, hs⟩
    exact ⟨s, hs.mem, hs.fits⟩

theorem lastFitting_iff {samples : List SampleRecord} {s : SampleRecord} :
    r.LastFitting samples s ↔ (samples.filter fun t => r.Fits t).getLast? = some s := by
  induction samples with
  | nil => simp [lastFitting_nil]
  | cons t rest ih =>
    rw [lastFitting_cons, ih]
    by_cases hfits : r.Fits t
    . rw [List.filter_cons_of_pos (by simpa), List.getLast?_cons]
      cases hrest : (rest.filter fun t => r.Fits t).getLast? with
      | none =>
        rw [List.getLast?_eq_none_iff, List.filter_eq_nil_iff] at hrest
        simp only [decide_eq_true_eq] at hrest
        rw [and_iff_left ⟨hfits, hrest⟩]
        simp [eq_comm]
      | some u =>
        have hu := List.mem_of_getLast? hrest
        rw [List.mem_filter, decide_eq_true_eq] at hu
        have hsome : ¬∀ other ∈ rest, ¬r.Fits other := fun hnone => hnone u hu.1 hu.2
        simp [hsome]
    . simp [hfits]

theorem searchSamples_verdict_eq (found : Bool) (report report' : Report)
    (samples : List SampleRecord) :
    (r.searchSamples found report samples).2 = (r.searchSamples found report' samples).2 := by
  induction samples generalizing found report report' with
  | nil => rfl
  | cons s rest ih =>
    cases hname : s.name with
    | error fault => simp [searchSamples, hname, bind, Except.bind]
    | ok name =>
      cases hkey : name.isKey with
      | false => simp [searchSamples, hname, hkey, Report.addSampleName, bind, Except.bind]
      | true =>
        simp only [searchSamples, hname, Report.addSampleName_of_isKey _ hkey,
          Report.addValue_of_isKey _ _ hkey, bind, Except.bind]
        split
        . rfl
        . apply ih
        . split
          . rfl
          . apply ih
        . split
          . rfl
          . split
            . rfl
            . apply ih
        . apply ih

-- A sample that does not fit leaves the verdict as it was, and one that fits sets it to whether
-- its value is accepted.
theorem searchSamples_cons {s : SampleRecord} (h : r.Decides s) (found : Bool) (report : Report)
    (rest : List SampleRecord) :
    ∃ report', r.Notes s report report' ∧
      ((¬r.Fits s ∧
        r.searchSamples found report (s :: rest) = r.searchSamples found report' rest) ∨
      (r.Fits s ∧ ∃ accepted, (accepted = true ↔ r.AcceptsValue s) ∧
        r.searchSamples found report (s :: rest) =
          if accepted && r.present then (report', .ok true)
          else r.searchSamples accepted report' rest)) := by
  obtain ⟨name, hname, hkey, _⟩ := h.name
  obtain ⟨finding, hjudge, hfinding⟩ := judge_of_decides h
  refine ⟨report.note name finding, ⟨name, finding, hname, hfinding, rfl⟩, ?_⟩
  simp only [searchSamples, hname, Report.addSampleName_of_isKey _ hkey,
    Report.addValue_of_isKey _ _ hkey, hjudge, bind, Except.bind]
  cases hfinding with
  | otherName hcovers => exact .inl ⟨fun hfits => hcovers hfits.1, rfl⟩
  | named hfree hcovers =>
    have haccepts : r.AcceptsValue s := acceptsValue_of_no_rule (rules_of_unconstrained hfree).2
    exact .inr ⟨(fits_of_unconstrained hfree).mpr hcovers, true, by simp [haccepts],
      by simp [Report.note]⟩
  | labelled _ hfits _ haccepted => exact .inr ⟨hfits, _, haccepted, rfl⟩
  | mislabelled _ hlabels => exact .inl ⟨fun hfits => hlabels hfits.2, rfl⟩

-- The search for a present sample only goes on while nothing is found, so the induction starts from
-- `false` each time.
theorem searchSamples_verdict_of_present (hpresent : r.present = true) (report : Report)
    {samples : List SampleRecord} (hdecides : ∀ s ∈ samples, r.Decides s) :
    ∃ b, (r.searchSamples false report samples).2 = .ok b ∧
      (b = true ↔ ∃ s ∈ samples, r.Accepts s) := by
  induction samples generalizing report with
  | nil => exact ⟨false, rfl, by simp⟩
  | cons s rest ih =>
    replace ih := fun report => ih report (fun other hother => hdecides other (by simp [hother]))
    obtain ⟨report', _, hstep⟩ := searchSamples_cons (hdecides s (by simp)) false report rest
    obtain ⟨b, hb, hiff⟩ := ih report'
    cases hstep with
    | inl hmisfit =>
      refine ⟨b, by rw [hmisfit.2, hb], ?_⟩
      simp [hiff, Accepts, hmisfit.1]
    | inr hfit =>
      obtain ⟨hfits, accepted, haccepted, hsearch⟩ := hfit
      rw [hsearch]
      cases accepted with
      | false =>
        refine ⟨b, by simp [hb], ?_⟩
        simp at haccepted
        simp [hiff, Accepts, haccepted]
      | true =>
        refine ⟨true, by simp [hpresent], ?_⟩
        simp at haccepted
        simp [Accepts, hfits, haccepted]

-- Every fitting sample overwrites the verdict, so `found` survives only a row without one.
theorem searchSamples_verdict_of_absent (habsent : r.present = false) (found : Bool)
    (report : Report) {samples : List SampleRecord} (hdecides : ∀ s ∈ samples, r.Decides s) :
    ∃ b, (r.searchSamples found report samples).2 = .ok b ∧
      (b = true ↔ (∃ s, r.LastFitting samples s ∧ r.AcceptsValue s) ∨
        (found = true ∧ ∀ s ∈ samples, ¬r.Fits s)) := by
  induction samples generalizing found report with
  | nil => exact ⟨found, rfl, by simp [lastFitting_nil]⟩
  | cons s rest ih =>
    replace ih := fun found report =>
      ih found report (fun other hother => hdecides other (by simp [hother]))
    obtain ⟨report', _, hstep⟩ := searchSamples_cons (hdecides s (by simp)) found report rest
    cases hstep with
    | inl hmisfit =>
      obtain ⟨b, hb, hiff⟩ := ih found report'
      refine ⟨b, by rw [hmisfit.2, hb], ?_⟩
      simp [hiff, lastFitting_cons, hmisfit.1]
    | inr hfit =>
      obtain ⟨hfits, accepted, haccepted, hsearch⟩ := hfit
      obtain ⟨b, hb, hiff⟩ := ih accepted report'
      refine ⟨b, by simp [hsearch, habsent, hb], ?_⟩
      rw [hiff, haccepted]
      simp only [lastFitting_cons, List.mem_cons, forall_eq_or_imp, hfits]
      constructor
      . intro h
        cases h with
        | inl h =>
          obtain ⟨t, hlast, haccepts⟩ := h
          exact .inl ⟨t, .inl hlast, haccepts⟩
        | inr h => exact .inl ⟨s, .inr ⟨rfl, trivial, h.2⟩, h.1⟩
      . intro h
        cases h with
        | inl h =>
          obtain ⟨t, hlast, haccepts⟩ := h
          cases hlast with
          | inl hlast => exact .inl ⟨t, hlast, haccepts⟩
          | inr hlast =>
            obtain ⟨rfl, _, hrest⟩ := hlast
            exact .inr ⟨haccepts, hrest⟩
        | inr h => exact absurd trivial h.2.1

end Request

end MetricCheck
