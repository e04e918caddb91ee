import MetricCheck.Proofs.Predicate.Total
import MetricCheck.Proofs.Search.Verdict

/-!
This module contains the requests and the snapshots that go together without a fault: a request with
a text for its name and predicates that decide texts and numbers decides every snapshot of these.
All requests with trees for their predicates are of this kind.
-/

namespace MetricCheck

structure Request.IsReadable (r : Request) : Prop where
  name : ∃ name, r.name = .text name
  rules : ∀ rule ∈ r.rules, rule.name.IsTree ∧ rule.value.IsTree
  valueRule : ∀ rule ∈ r.valueRule, rule.IsTree

structure Request.IsTotal (r : Request) : Prop where
  name : ∃ name, r.name = .text name
  rules : ∀ rule ∈ r.rules, rule.name.IsTotal ∧ rule.value.IsTotal
  valueRule : ∀ rule ∈ r.valueRule, rule.IsTotal

structure Request.DecidesTexts (r : Request) : Prop where
  name : ∃ name, r.name = .text name
  rules : ∀ rule ∈ r.rules, ∀ s, rule.name.Decides (.text s) ∧ rule.value.Decides (.text s)
  valueRule : ∀ rule ∈ r.valueRule, ∀ d, rule.Decides (.double d)

structure SampleRecord.IsTextual (s : SampleRecord) : Prop where
  name : ∃ name, s.name = .ok (.text name)
  labels : ∃ labels, s.labels = .ok labels ∧
    ∀ label ∈ labels, ∃ name value, label = (.text name, .text value)
  observed : ∃ d, s.observed = .ok (.double d)

structure FamilyRecord.IsTextual (family : FamilyRecord) : Prop where
  name : ∃ name, family.name = .ok (.text name)
  samples : ∃ samples, family.samples = .ok samples ∧ ∀ s ∈ samples, s.IsTextual

namespace Request

variable {r : Request}

theorem IsTotal.decidesTexts (h : r.IsTotal) : r.DecidesTexts where
  name := h.name
  rules rule hrule s := ⟨(h.rules rule hrule).1.decidesText s, (h.rules rule hrule).2.decidesText s⟩
  valueRule rule hrule := (h.valueRule rule hrule).decidesDouble

theorem IsReadable.decidesTexts (h : r.IsReadable) : r.DecidesTexts where
  name := h.name
  rules rule hrule _ := ⟨(h.rules rule hrule).1.decides _, (h.rules rule hrule).2.decides _⟩
  valueRule rule hrule _ := (h.valueRule rule hrule).decides _

theorem DecidesTexts.decides (h : r.DecidesTexts) {s : SampleRecord} (hs : s.IsTextual) :
    r.Decides s where
  name := by
    obtain ⟨requested, hrequested⟩ := h.name
    obtain ⟨name, hname⟩ := hs.name
    refine ⟨.text name, hname, rfl, ?_⟩
    rw [hrequested, Value.startsWith_text]
    exact ⟨_, rfl⟩
  labels := by
    intro _ _
    obtain ⟨labels, hlabels, htexts⟩ := hs.labels
    refine ⟨labels, hlabels, ?_⟩
    intro label hlabel
    obtain ⟨name, value, rfl⟩ := htexts label hlabel
    refine ⟨rfl, ?_⟩
    intro rule hrule
    exact ⟨(h.rules rule hrule name).1, fun _ => (h.rules rule hrule value).2⟩
  value := by
    intro _ _
    obtain ⟨d, hd⟩ := hs.observed
    refine ⟨.double d, hd, ?_⟩
    intro rule hrule
    exact h.valueRule rule hrule d

theorem DecidesTexts.decidesFamily (h : r.DecidesTexts) {family : FamilyRecord}
    (hfamily : family.IsTextual) : r.DecidesFamily family where
  name := by
    obtain ⟨name, hname⟩ := hfamily.name
    exact ⟨.text name, hname, rfl⟩
  candidacy := by
    obtain ⟨requested, hrequested⟩ := h.name
    obtain ⟨name, hname⟩ := hfamily.name
    exact exists_candidacy_of_texts hrequested hname
  samples := by
    intro _ _
    obtain ⟨samples, hsamples, htextual⟩ := hfamily.samples
    exact ⟨samples, hsamples, fun s hs => h.decides (htextual s hs)⟩

def valuedRequest (rule : Predicate) : Request :=
  { jobsRequest true .greater with valueRule := some rule }

theorem isReadable_valuedRequest {rule : Predicate} (h : rule.IsTree) :
    (valuedRequest rule).IsReadable where
  name := ⟨_, rfl⟩
  rules := by
    simp only [valuedRequest, jobsRequest, List.forall_mem_singleton]
    exact ⟨.text "queue", .text "in"⟩
  valueRule := by simpa [valuedRequest] using h

theorem isTextual_jobsSample (queue : String) (negative : Bool) :
    (jobsSample queue negative).IsTextual :=
  ⟨⟨_, rfl⟩, ⟨_, rfl, by simp⟩, _, rfl⟩

theorem isTextual_jobsSnapshot : ∀ family ∈ jobsSnapshot, family.IsTextual := by
  simp only [jobsSnapshot, List.forall_mem_cons]
  refine ⟨⟨⟨_, rfl⟩, _, rfl, ?_⟩, ⟨⟨_, rfl⟩, _, rfl, ?_⟩, by simp⟩
  . simp [isTextual_jobsSample]
  . simp [isTextual_jobsSample]

end Request

end MetricCheck
