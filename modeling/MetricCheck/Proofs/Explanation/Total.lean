import MetricCheck.Proofs.Explanation.Complete
import MetricCheck.Proofs.Search.Readable

/-!
This module contains why a request that never fails on a sample comes to a verdict on every snapshot
of texts and numbers, says what it expects and explains what it found.
-/

namespace MetricCheck

namespace Request

variable {r : Request}

theorem IsTotal.describes (h : r.IsTotal) : r.Describes where
  name := by
    obtain ⟨name, hname⟩ := h.name
    exact ⟨name, by rw [hname, Value.asText_text]⟩
  rules := by
    intro rule hrule
    exact ⟨(h.rules rule hrule).1.describes, (h.rules rule hrule).2.describes⟩
  valueRule := by
    intro rule hrule
    exact (h.valueRule rule hrule).describes

theorem Describes.fault?_renderExpectation (h : r.Describes) :
    r.renderExpectation.fault? = none := by
  unfold renderExpectation
  simp only [Rendering.fault?_append, Rendering.fault?_ofText, true_and]
  refine ⟨⟨h.name.fault?_render, ?_⟩, ?_⟩
  . split
    . next rule hrule =>
      rw [Rendering.fault?_append]
      exact ⟨rfl, h.valueRule rule hrule⟩
    . rfl
  . split
    . rfl
    . rw [Rendering.fault?_append, Rendering.fault?_concat, List.forall_mem_map]
      refine ⟨rfl, ?_⟩
      intro rule hrule
      simp [h.rules rule hrule]

theorem IsReadable.describes (h : r.IsReadable) {text : String}
    (htext : r.expectationText = .ok text) : r.Describes := by
  obtain ⟨name, hname⟩ := h.name
  have hwhole := Rendering.fault?_of_complete htext
  unfold renderExpectation at hwhole
  simp only [Rendering.fault?_append, Rendering.fault?_ofText, true_and] at hwhole
  obtain ⟨⟨-, hvalue⟩, hrules⟩ := hwhole
  refine ⟨⟨name, by rw [hname, Value.asText_text]⟩, ?_, ?_⟩
  . intro rule hrule
    rw [if_neg (by simpa using List.ne_nil_of_mem hrule), Rendering.fault?_append,
      Rendering.fault?_concat, List.forall_mem_map] at hrules
    simpa using hrules.2 rule hrule
  . intro rule hrule
    rw [Option.mem_def.mp hrule, Rendering.fault?_append] at hvalue
    exact hvalue.2

theorem IsReadable.isTotal (h : r.IsReadable) (hdescribes : r.Describes) : r.IsTotal where
  name := h.name
  rules rule hrule :=
    ⟨(h.rules rule hrule).1.isTotal (hdescribes.rules rule hrule).1,
      (h.rules rule hrule).2.isTotal (hdescribes.rules rule hrule).2⟩
  valueRule rule hrule := (h.valueRule rule hrule).isTotal (hdescribes.valueRule rule hrule)

theorem shows_of_isTextual {s : SampleRecord} (hs : s.IsTextual) : s.Shows where
  labels := by
    intro labels hlabels label hlabel
    obtain ⟨labels', hlabels', htexts⟩ := hs.labels
    rw [hlabels, Except.ok.injEq] at hlabels'
    subst hlabels'
    obtain ⟨name, value, rfl⟩ := htexts label hlabel
    exact ⟨⟨name, rfl⟩, value, rfl⟩
  observed := by
    intro value hvalue
    obtain ⟨d, hd⟩ := hs.observed
    rw [hvalue, Except.ok.injEq] at hd
    subst hd
    exact ⟨_, rfl⟩

theorem shows_of_mem_inspectedSamples {families : List FamilyRecord}
    (hfamilies : ∀ family ∈ families, family.IsTextual) :
    ∀ s ∈ r.inspectedSamples families, s.Shows := by
  intro s hs
  obtain ⟨family, hfamily, hmem⟩ := List.mem_flatMap.mp hs
  obtain ⟨samples, hsamples, htextual⟩ :=
    (hfamilies family (mem_of_mem_throughFirst (List.mem_of_mem_filter hfamily))).samples
  apply shows_of_isTextual
  apply htextual
  simpa [FamilyRecord.allSamples, hsamples] using mem_of_mem_throughFirst hmem

theorem IsTotal.exists_mismatchText (h : r.IsTotal) {families : List FamilyRecord}
    (hfamilies : ∀ family ∈ families, family.IsTextual) :
    ∃ report, r.evaluate families = .ok report ∧
      r.mismatchText report = .ok (r.renderMismatch report).text := by
  have hdecides : ∀ family ∈ families, r.DecidesFamily family :=
    fun family hfamily => h.decidesTexts.decidesFamily (hfamilies family hfamily)
  obtain ⟨report, hreport, haccounts⟩ := evaluate_accounts hdecides
  refine ⟨report, hreport, ?_⟩
  exact Rendering.complete_of_fault? (haccounts.fault?_renderMismatch
    (haccounts.isSortable hdecides) h.describes (shows_of_mem_inspectedSamples hfamilies))

theorem IsTotal.expectationText (h : r.IsTotal) :
    r.expectationText = .ok r.renderExpectation.text :=
  Rendering.complete_of_fault? h.describes.fault?_renderExpectation

end Request

end MetricCheck
