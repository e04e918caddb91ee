import MetricCheck.Explanation
import MetricCheck.Proofs.Search.Account
import MetricCheck.Proofs.Value.Sorting

/-!
This module contains why an explanation of a report comes out whole. The names in a report are of
one kind, so sorting them is no fault, and nothing else can cut an explanation short if everything
that it shows can be shown.
-/

namespace MetricCheck

namespace Value

def Shows (v : Value) : Prop :=
  ∃ s, v.asText = .ok s

theorem IsName.shows {name : Value} (h : name.IsName) : name.Shows := by
  cases h with
  | text s => exact ⟨s, rfl⟩
  | bytes bs => exact ⟨_, rfl⟩

theorem Shows.fault?_render {v : Value} (h : v.Shows) : v.render.fault? = none := by
  obtain ⟨s, hs⟩ := h
  cases v with
  | text s => rfl
  | _ =>
    rw [asText] at hs
    . rw [render, hs]
      rfl
    . simp

theorem sameKind_of_startsWith {v w start : Value} {b c : Bool} (hstart : start ≠ .tuple [])
    (hv : v.startsWith start = .ok b) (hw : w.startsWith start = .ok c) : v.SameKind w := by
  -- The first alternative of a start only goes with names of its own kind.
  have hmixed : ∀ s bs, ¬((∃ b, (text s).startsWith start = .ok b) ∧
      ∃ c, (bytes bs).startsWith start = .ok c) := by
    intro s bs ⟨⟨b, hs⟩, c, hbs⟩
    cases start with
    | tuple alternatives =>
      cases alternatives with
      | nil => contradiction
      | cons first rest =>
        cases first <;>
          simp [startsWith, startsWith.against, startsWithAny, text?, bytes?] at hs hbs
    | _ => simp [startsWith, startsWith.against, startsWithAny, text?, bytes?] at hs hbs
  cases isName_of_startsWith hv with
  | text s =>
    cases isName_of_startsWith hw with
    | text t => exact .text s t
    | bytes bs => exact absurd ⟨⟨b, hv⟩, c, hw⟩ (hmixed s bs)
  | bytes bs =>
    cases isName_of_startsWith hw with
    | text t => exact absurd ⟨⟨c, hw⟩, b, hv⟩ (hmixed t bs)
    | bytes cs => exact .bytes bs cs

theorem putEntry_forall {P Q : Value → Prop} {key value : Value} {entries : List (Value × Value)}
    (hkey : P key) (hvalue : Q value) (h : ∀ entry ∈ entries, P entry.1 ∧ Q entry.2) :
    ∀ entry ∈ putEntry key value entries, P entry.1 ∧ Q entry.2 := by
  induction entries with
  | nil => simpa [putEntry] using ⟨hkey, hvalue⟩
  | cons other rest ih =>
    rw [List.forall_mem_cons] at h
    rw [putEntry]
    split
    . rw [List.forall_mem_cons]
      exact ⟨⟨h.1.1, hvalue⟩, h.2⟩
    . rw [List.forall_mem_cons]
      exact ⟨h.1, ih h.2⟩

theorem putEntries_forall {P Q : Value → Prop} {entries added all : List (Value × Value)}
    (hall : putEntries entries added = .ok all) (h : ∀ entry ∈ entries, P entry.1 ∧ Q entry.2)
    (hadded : ∀ entry ∈ added, P entry.1 ∧ Q entry.2) : ∀ entry ∈ all, P entry.1 ∧ Q entry.2 := by
  induction added generalizing entries with
  | nil =>
    cases hall
    exact h
  | cons entry rest ih =>
    rw [List.forall_mem_cons] at hadded
    obtain ⟨put, hput, hrest⟩ := Except.of_bind_eq_ok hall
    dsimp only at hput
    split at hput
    . cases hput
      exact ih hrest (putEntry_forall hadded.1.1 hadded.1.2 h) hadded.2
    . contradiction

end Value

structure Report.IsSortable (report : Report) : Prop where
  familyNames : ∀ v ∈ report.familyNames, ∀ w ∈ report.familyNames, v.SameKind w
  sampleNames : ∀ v ∈ report.sampleNames, ∀ w ∈ report.sampleNames, v.SameKind w

structure LabelRecord.Shows (record : LabelRecord) : Prop where
  labels : ∀ label ∈ record.labels, label.1.Shows ∧ label.2.Shows
  missing : ∀ p ∈ record.missing, p.describe.fault? = none
  mismatches : ∀ mismatch ∈ record.mismatches, mismatch.name.describe.fault? = none ∧
    mismatch.expected.describe.fault? = none ∧ mismatch.actual.Shows

structure SampleRecord.Shows (s : SampleRecord) : Prop where
  labels : ∀ labels, s.labels = .ok labels → ∀ label ∈ labels, label.1.Shows ∧ label.2.Shows
  observed : ∀ value, s.observed = .ok value → value.Shows

structure Request.Describes (r : Request) : Prop where
  name : r.name.Shows
  rules : ∀ rule ∈ r.rules, rule.name.describe.fault? = none ∧ rule.value.describe.fault? = none
  valueRule : ∀ rule ∈ r.valueRule, rule.describe.fault? = none

namespace Explanation

theorem fault?_map_render {vs : List Value} (h : ∀ v ∈ vs, v.Shows) :
    ∀ rendering ∈ vs.map Value.render, rendering.fault? = none := by
  rw [List.forall_mem_map]
  exact fun v hv => (h v hv).fault?_render

theorem fault?_valueLine {name : Value} {vs : List Value} (hname : name.Shows)
    (hvs : ∀ v ∈ vs, v.Shows) : (valueLine name vs).fault? = none := by
  rw [valueLine, Rendering.fault?_append, Rendering.fault?_enclosed]
  exact ⟨fault?_map_render hvs, hname.fault?_render⟩

theorem fault?_nameList {heading : String} {names : List Value} (h : ∀ v ∈ names, v.Shows) :
    (nameList heading names).fault? = none := by
  rw [nameList, Rendering.fault?_enclosed]
  exact fault?_map_render h

theorem labelTuple_eq {labels : List (Value × Value)} (text : Value × Value → String)
    (h : ∀ label ∈ labels,
      (do return (← label.1.asText) ++ "=" ++ (← label.2.asText)) = Except.ok (text label)) :
    labelTuple labels = .ok ("(" ++ ", ".intercalate (labels.map text) ++ ")") := by
  have hparts : (labels.mapM fun label => show Except Fault String from do
      return (← label.1.asText) ++ "=" ++ (← label.2.asText)) = .ok (labels.map text) := by
    induction labels with
    | nil => rfl
    | cons label rest ih =>
      rw [List.forall_mem_cons] at h
      rw [List.mapM_cons, ih h.2, h.1]
      rfl
  rw [labelTuple]
  exact congrArg (fun parts => do return "(" ++ ", ".intercalate (← parts) ++ ")") hparts

theorem labelTuple_of_shows {labels : List (Value × Value)}
    (h : ∀ label ∈ labels, label.1.Shows ∧ label.2.Shows) : ∃ s, labelTuple labels = .ok s := by
  let text (label : Value × Value) : Except Fault String := do
    return (← label.1.asText) ++ "=" ++ (← label.2.asText)
  refine ⟨_, labelTuple_eq (fun label => (text label).toOption.getD "") ?_⟩
  intro label hlabel
  obtain ⟨⟨name, hname⟩, value, hvalue⟩ := h label hlabel
  simp only [text, hname, hvalue]
  rfl

theorem fault?_labelFaults {record : LabelRecord} (h : record.Shows) :
    (labelFaults record).fault? = none := by
  unfold labelFaults
  simp only [Rendering.fault?_append, Rendering.fault?_ofText, and_true]
  constructor
  . split
    . rfl
    . rw [Rendering.fault?_append, Rendering.fault?_separated, List.forall_mem_map]
      exact ⟨rfl, h.missing⟩
  . split
    . rfl
    . rw [Rendering.fault?_append, Rendering.fault?_concat, List.forall_mem_map]
      refine ⟨rfl, ?_⟩
      intro mismatch hmismatch
      obtain ⟨hname, hexpected, hactual⟩ := h.mismatches mismatch hmismatch
      simp [mismatchLine, hname, hexpected, hactual.fault?_render]

theorem fault?_recordBlock {record : LabelRecord} (present : Bool) (h : record.Shows) :
    (recordBlock present record).fault? = none := by
  obtain ⟨s, hs⟩ := labelTuple_of_shows h.labels
  rw [recordBlock, hs]
  simp only [Rendering.ofExcept, Rendering.fault?_append, Rendering.fault?_ofText, true_and]
  split
  . exact fault?_labelFaults h
  . rfl

theorem fault?_byNames {r : Request} (hname : r.name.Shows) {familyNames sampleNames : List Value}
    (hfamilies : ∀ v ∈ familyNames, v.Shows) (hsamples : ∀ v ∈ sampleNames, v.Shows) :
    (byNames r familyNames sampleNames).fault? = none := by
  unfold byNames
  simp only [Rendering.fault?_append]
  refine ⟨⟨⟨?_, ?_⟩, ?_⟩, ?_⟩
  . split
    . simp [hname.fault?_render]
    . rfl
  . split
    . rfl
    . exact fault?_nameList hfamilies
  . split
    . rfl
    . rfl
  . split
    . rfl
    . exact fault?_nameList hsamples

end Explanation

namespace Request

variable {r : Request} {families : List FamilyRecord} {samples : List SampleRecord}
  {report : Report}

theorem Documents.shows (hr : r.Describes) {s : SampleRecord} (hs : s.Shows)
    {record : LabelRecord} (h : r.Documents s record) : record.Shows := by
  obtain ⟨labels, hlabels, hput, hmissing, hmismatches⟩ := h
  have hshows := hs.labels labels hlabels
  refine ⟨Value.putEntries_forall hput (by simp) hshows, ?_, ?_⟩
  . rw [hmissing, LabelRule.missing, List.forall_mem_map]
    intro rule hrule
    exact (hr.rules rule (List.mem_of_mem_filter hrule)).1
  . rw [hmismatches]
    intro mismatch hmismatch
    obtain ⟨label, hlabel, hmismatch⟩ := List.mem_flatMap.mp hmismatch
    obtain ⟨rule, hrule, rfl⟩ := List.mem_map.mp hmismatch
    have hdescribes := hr.rules rule (List.mem_of_mem_filter hrule)
    exact ⟨hdescribes.1, hdescribes.2, (hshows label hlabel).2⟩

theorem Accounts.exists_sortedFamilyNames (h : r.Accounts families samples report)
    (hsort : report.IsSortable) :
    ∃ names, report.sortedFamilyNames = .ok names ∧ names.Perm report.familyNames ∧
      names.Pairwise fun a b => a.before b = .ok true :=
  Value.sortBy_of_sameKind hsort.familyNames (by simpa using h.familyNames_nodup)

theorem Accounts.exists_sortedSampleNames (h : r.Accounts families samples report)
    (hsort : report.IsSortable) :
    ∃ names, report.sortedSampleNames = .ok names ∧ names.Perm report.sampleNames ∧
      names.Pairwise fun a b => a.before b = .ok true :=
  Value.sortBy_of_sameKind hsort.sampleNames (by simpa using h.sampleNames_nodup)

theorem Accounts.exists_sortedValues (h : r.Accounts families samples report)
    (hsort : report.IsSortable) :
    ∃ entries, report.sortedValues = .ok entries ∧ entries.Perm report.values ∧
      entries.Pairwise fun a b => a.1.before b.1 = .ok true := by
  have hnames : ∀ entry ∈ report.values, entry.1 ∈ report.sampleNames :=
    fun entry hentry => h.valueNames_subset (List.mem_map_of_mem hentry)
  exact Value.sortBy_of_sameKind
    (fun a ha b hb => hsort.sampleNames a.1 (hnames a ha) b.1 (hnames b hb)) h.valueNames_nodup

theorem Accounts.exists_observed (h : r.Accounts families samples report) {name : Value}
    {vs : List Value} (hmem : (name, vs) ∈ report.values) {value : Value} (hvalue : value ∈ vs) :
    ∃ s ∈ samples, r.RecordsValue s ∧ s.observed = .ok value := by
  obtain ⟨s, hs, hobserved⟩ := exists_left_of_forall₂ (h.mem_values_iff.mp hmem).2 hvalue
  rw [List.mem_filter, decide_eq_true_eq] at hs
  exact ⟨s, hs.1, hs.2.1, hobserved⟩

theorem Accounts.fault?_renderMismatch (h : r.Accounts families samples report)
    (hsort : report.IsSortable) (hr : r.Describes) (hs : ∀ s ∈ samples, s.Shows) :
    (r.renderMismatch report).fault? = none := by
  unfold renderMismatch
  split
  . next rule _ hrule =>
    obtain ⟨entries, hentries, hperm, -⟩ := h.exists_sortedValues hsort
    rw [Explanation.byValues, hentries]
    simp only [Rendering.fault?_append, Rendering.fault?_ofText, Rendering.fault?_concat,
      List.forall_mem_map, true_and, and_true]
    refine ⟨hr.valueRule rule hrule, ?_⟩
    rintro ⟨name, vs⟩ hmem
    replace hmem := hperm.mem_iff.mp hmem
    apply Explanation.fault?_valueLine (h.isName_of_mem_values hmem).shows
    intro value hvalue
    obtain ⟨s, hsample, -, hobserved⟩ := h.exists_observed hmem hvalue
    exact (hs s hsample).observed value hobserved
  . split
    . obtain ⟨familyNames, hfamilies, hfamiliesPerm, -⟩ := h.exists_sortedFamilyNames hsort
      obtain ⟨sampleNames, hsamples, hsamplesPerm, -⟩ := h.exists_sortedSampleNames hsort
      rw [hfamilies, hsamples]
      apply Explanation.fault?_byNames hr.name
      . intro v hv
        exact (h.familyNames_isName v (hfamiliesPerm.mem_iff.mp hv)).shows
      . intro v hv
        exact (h.sampleNames_isName v (hsamplesPerm.mem_iff.mp hv)).shows
    . rw [Explanation.byLabels, Rendering.fault?_append, Rendering.fault?_concat,
        List.forall_mem_map]
      refine ⟨rfl, ?_⟩
      intro record hrecord
      apply Explanation.fault?_recordBlock
      obtain ⟨s, hsample, hdocuments⟩ := exists_left_of_forall₂ h.records hrecord
      exact hdocuments.shows hr (hs s (List.mem_of_mem_filter hsample))

theorem decides_of_mem_inspectedSamples (hdecides : ∀ family ∈ families, r.DecidesFamily family)
    {s : SampleRecord} (hs : s ∈ r.inspectedSamples families) :
    r.Decides s ∧ r.name ≠ .tuple [] := by
  obtain ⟨family, hfamily, hmem⟩ := List.mem_flatMap.mp hs
  rw [List.mem_filter, decide_eq_true_eq] at hfamily
  have hfamilyDecides := hdecides family (mem_of_mem_throughFirst hfamily.1)
  obtain ⟨row, hrow, hall⟩ := hfamilyDecides.samples hfamily.2.1 hfamily.2.2
  obtain ⟨name, hname, -⟩ := hfamilyDecides.name
  refine ⟨hall s ?_, (hfamilyDecides.compares hname).2⟩
  simpa [inspectedIn, FamilyRecord.allSamples, hrow] using mem_of_mem_throughFirst hmem

theorem Accounts.isSortable (hdecides : ∀ family ∈ families, r.DecidesFamily family)
    (h : r.Accounts (r.scannedFamilies families) (r.inspectedSamples families) report) :
    report.IsSortable where
  familyNames := by
    intro v hv w hw
    obtain ⟨family, hfamily, hname⟩ := (h.mem_familyNames v).mp hv
    obtain ⟨family', hfamily', hname'⟩ := (h.mem_familyNames w).mp hw
    obtain ⟨⟨b, hb⟩, hstart⟩ := (hdecides family (mem_of_mem_throughFirst hfamily)).compares hname
    obtain ⟨⟨c, hc⟩, -⟩ := (hdecides family' (mem_of_mem_throughFirst hfamily')).compares hname'
    exact Value.sameKind_of_startsWith hstart hb hc
  sampleNames := by
    intro v hv w hw
    obtain ⟨s, hs, hname⟩ := (h.mem_sampleNames v).mp hv
    obtain ⟨t, ht, hname'⟩ := (h.mem_sampleNames w).mp hw
    obtain ⟨hsDecides, hstart⟩ := decides_of_mem_inspectedSamples hdecides hs
    obtain ⟨htDecides, -⟩ := decides_of_mem_inspectedSamples hdecides ht
    obtain ⟨b, hb⟩ := hsDecides.compares hname
    obtain ⟨c, hc⟩ := htDecides.compares hname'
    exact Value.sameKind_of_startsWith hstart hb hc

end Request

end MetricCheck
