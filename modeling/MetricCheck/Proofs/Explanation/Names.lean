import Mathlib.Data.Finset.Sort
import Mathlib.Data.Finset.Union
import Mathlib.Data.String.Basic
import MetricCheck.Proofs.Explanation.Failure
import MetricCheck.Proofs.Text.Readable

/-!
This module contains why the explanation by names loses no name and merges none. The names are noted
as sets and written as rows, in ascending order and each name once. A row begins with a bullet and
says where it ends, whatever characters its name has, so all names can be read back from the text.
-/

namespace MetricCheck

structure Value.Lists (vs : List Value) (names : Finset String) : Prop where
  nodup : vs.Nodup
  mem_iff : ∀ v, v ∈ vs ↔ ∃ name ∈ names, v = .text name

structure Report.HoldsNames (report : Report) (families samples : Finset String) : Prop where
  values : report.values = []
  records : report.records = []
  familyNames : Value.Lists report.familyNames families
  sampleNames : Value.Lists report.sampleNames samples

inductive Notice where
  | family (name : String)
  | sample (name : String)
  deriving DecidableEq

namespace Notice

def families : Notice → Finset String
  | family name => {name}
  | sample _ => ∅

def samples : Notice → Finset String
  | family _ => ∅
  | sample name => {name}

def allFamilies (notices : List Notice) : Finset String :=
  notices.toFinset.biUnion families

def allSamples (notices : List Notice) : Finset String :=
  notices.toFinset.biUnion samples

end Notice

def Report.noteName (report : Report) : Notice → Except Fault Report
  | .family name => report.addFamilyName (.text name)
  | .sample name => report.addSampleName (.text name)

namespace Explanation

def rows (names : List String) : List Char :=
  names.flatMap fun name => bullet.toList ++ (Text.quoted name).toList

def listing (heading : String) (names : Finset String) : List Char :=
  if names = ∅ then [] else heading.toList ++ rows names.sort

def headline (present : Bool) (name : String) : List Char :=
  if present then
    "no metric with name: ".toList ++ ((Text.quoted name).toList ++ indented.toList)
  else []

def sampleListing (families samples : Finset String) : List Char :=
  (if families = ∅ ∨ samples = ∅ then [] else indented.toList) ++
    listing "found metric sample names:" samples

def namesSpelling (present : Bool) (name : String) (families samples : Finset String) :
    List Char :=
  headline present name ++
    (listing "found metric names:" families ++ sampleListing families samples)

/--
Two rows of characters differ before any of them ends.
-/
def Diverge (cs ds : List Char) : Prop :=
  ¬cs <+: ds ∧ ¬ds <+: cs

instance (cs ds : List Char) : Decidable (Diverge cs ds) :=
  inferInstanceAs (Decidable (¬cs <+: ds ∧ ¬ds <+: cs))

end Explanation

namespace Value

variable {vs : List Value} {names : Finset String}

theorem Lists.empty : Lists [] ∅ :=
  ⟨.nil, by simp⟩

theorem Lists.addDistinct (h : Lists vs names) (name : String) :
    Lists (Value.addDistinct vs (.text name)) (insert name names) where
  nodup := nodup_addDistinct (.text name) h.nodup
  mem_iff := by
    intro v
    rw [mem_addDistinct (.text name), h.mem_iff, Finset.exists_mem_insert]
    exact or_comm

theorem before_text_iff (s t : String) : (text s).before (text t) = .ok true ↔ s < t := by
  rw [before, text?, Except.ok.injEq, decide_eq_true_eq]

theorem Lists.perm (h : Lists vs names) : vs.Perm (names.sort.map text) := by
  have hnodup : (names.sort.map text).Nodup :=
    (names.sort_nodup _).map fun _ _ => text.inj
  rw [List.perm_ext_iff_of_nodup h.nodup hnodup]
  intro v
  simp [h.mem_iff, eq_comm]

theorem Lists.sameKind (h : Lists vs names) : ∀ v ∈ vs, ∀ w ∈ vs, v.SameKind w := by
  intro v hv w hw
  obtain ⟨s, -, rfl⟩ := (h.mem_iff v).mp hv
  obtain ⟨t, -, rfl⟩ := (h.mem_iff w).mp hw
  exact .text s t

theorem Lists.sort_eq (h : Lists vs names) : Value.sort vs = .ok (names.sort.map text) := by
  have hkind : ∀ v ∈ vs, ∀ w ∈ vs, (id v).SameKind (id w) := h.sameKind
  obtain ⟨sorted, hsort, hperm, hascending⟩ :=
    sortBy_of_sameKind hkind (by simpa using h.nodup)
  have hnames : (names.sort.map text).Pairwise fun v w => v.before w = .ok true := by
    rw [List.pairwise_map]
    exact names.sortedLT_sort.pairwise.imp (before_text_iff _ _).mpr
  rw [Value.sort, hsort, Except.ok.injEq]
  refine (hperm.trans h.perm).eq_of_pairwise ?_ hascending hnames
  -- Two texts never come before each other.
  intro v w hv hw hvw hwv
  obtain ⟨s, -, rfl⟩ := (h.mem_iff v).mp (hperm.mem_iff.mp hv)
  obtain ⟨t, -, rfl⟩ := (h.mem_iff w).mp (h.perm.mem_iff.mpr hw)
  exact absurd ((before_text_iff t s).mp hwv) ((before_text_iff s t).mp hvw).not_gt

end Value

namespace Report

variable {report : Report} {families samples : Finset String}

theorem holdsNames_empty : empty.HoldsNames ∅ ∅ :=
  ⟨rfl, rfl, .empty, .empty⟩

theorem HoldsNames.noteName (h : report.HoldsNames families samples) (notice : Notice) :
    ∃ noted, report.noteName notice = .ok noted ∧
      noted.HoldsNames (notice.families ∪ families) (notice.samples ∪ samples) := by
  cases notice with
  | family name =>
    refine ⟨_, rfl, h.values, h.records, ?_, ?_⟩
    . exact h.familyNames.addDistinct name
    . rw [Notice.samples, Finset.empty_union]
      exact h.sampleNames
  | sample name =>
    refine ⟨_, rfl, h.values, h.records, ?_, ?_⟩
    . rw [Notice.families, Finset.empty_union]
      exact h.familyNames
    . exact h.sampleNames.addDistinct name

theorem HoldsNames.noteNames (h : report.HoldsNames families samples) (notices : List Notice) :
    ∃ noted, notices.foldlM Report.noteName report = .ok noted ∧
      noted.HoldsNames (Notice.allFamilies notices ∪ families)
        (Notice.allSamples notices ∪ samples) := by
  induction notices generalizing report families samples with
  | nil => exact ⟨report, rfl, by simpa [Notice.allFamilies, Notice.allSamples] using h⟩
  | cons notice rest ih =>
    obtain ⟨next, hnext, hholds⟩ := h.noteName notice
    obtain ⟨noted, hnoted, hall⟩ := ih hholds
    refine ⟨noted, by rw [List.foldlM_cons, hnext]; exact hnoted, ?_⟩
    simpa only [Notice.allFamilies, Notice.allSamples, List.toFinset_cons, Finset.biUnion_insert,
      Finset.union_assoc, Finset.union_left_comm] using hall

end Report

namespace Explanation

variable {xs ys : List String} {u v : List Char} {names others : Finset String}

theorem rows_cons (x : String) (xs : List String) :
    rows (x :: xs) = bullet.toList ++ ((Text.quoted x).toList ++ rows xs) := by
  rw [rows, List.flatMap_cons, List.append_assoc, rows]

theorem rows_append_inj (hu : ¬bullet.toList <+: u) (hv : ¬bullet.toList <+: v)
    (h : rows xs ++ u = rows ys ++ v) : xs = ys ∧ u = v := by
  -- Only a rest that begins with a bullet could be taken for one more row.
  induction xs generalizing ys with
  | nil =>
    cases ys with
    | nil => exact ⟨rfl, h⟩
    | cons y ys =>
      rw [rows_cons, List.append_assoc] at h
      exact absurd ⟨_, h.symm⟩ hu
  | cons x xs ih =>
    cases ys with
    | nil =>
      rw [rows_cons, List.append_assoc] at h
      exact absurd ⟨_, h⟩ hv
    | cons y ys =>
      simp only [rows_cons, List.append_assoc, List.append_cancel_left_eq] at h
      obtain ⟨rfl, hrest⟩ := Text.quoted_append_inj h
      obtain ⟨rfl, htail⟩ := ih hrest
      exact ⟨rfl, htail⟩

theorem listing_append_inj {heading : String} (hu : ¬bullet.toList <+: u)
    (hu' : ¬heading.toList <+: u) (hv : ¬bullet.toList <+: v) (hv' : ¬heading.toList <+: v)
    (h : listing heading names ++ u = listing heading others ++ v) : names = others ∧ u = v := by
  -- If only one side has names, the heading of its list begins the rest of the other side.
  unfold listing at h
  split at h
  . next hnames =>
    split at h
    . next hothers => exact ⟨hnames.trans hothers.symm, h⟩
    . rw [List.nil_append, List.append_assoc] at h
      exact absurd ⟨_, h.symm⟩ hu'
  . split at h
    . rw [List.nil_append, List.append_assoc] at h
      exact absurd ⟨_, h⟩ hv'
    . rw [List.append_assoc, List.append_assoc, List.append_cancel_left_eq] at h
      obtain ⟨hsort, htail⟩ := rows_append_inj hu hv h
      refine ⟨?_, htail⟩
      rw [← names.sort_toFinset (· ≤ ·), hsort, Finset.sort_toFinset]

theorem listing_inj {heading : String} (hheading : heading ≠ "")
    (h : listing heading names = listing heading others) : names = others := by
  have hnil : ¬heading.toList <+: [] := by simpa using hheading
  have hbullet : ¬bullet.toList <+: [] := by decide
  apply (listing_append_inj hbullet hnil hbullet hnil _).1
  rw [h]

theorem Diverge.not_prefix_append {cs ds : List Char} (h : Diverge cs ds) (u : List Char) :
    ¬cs <+: ds ++ u := by
  intro hbegins
  cases List.prefix_or_prefix_of_prefix hbegins (List.prefix_append ds u) with
  | inl hcs => exact h.1 hcs
  | inr hds => exact h.2 hds

theorem Diverge.not_prefix_nil {cs ds : List Char} (h : Diverge cs ds) : ¬cs <+: [] := by
  intro hbegins
  rw [List.prefix_nil] at hbegins
  exact h.1 (hbegins ▸ List.nil_prefix)

theorem not_prefix_listing_append {start : List Char} {heading : String}
    (hheading : Diverge start heading.toList) (hu : ¬start <+: u) :
    ¬start <+: listing heading names ++ u := by
  unfold listing
  split
  . exact hu
  . rw [List.append_assoc]
    exact hheading.not_prefix_append _

theorem not_prefix_sampleListing {start : List Char} {families samples : Finset String}
    (hheading : Diverge start "found metric sample names:".toList)
    (hindented : Diverge start (indented.toList ++ "found metric sample names:".toList)) :
    ¬start <+: sampleListing families samples := by
  unfold sampleListing listing
  by_cases hsamples : samples = ∅
  . rw [if_pos (.inr hsamples), if_pos hsamples]
    exact hheading.not_prefix_nil
  . rw [if_neg hsamples]
    split
    . exact hheading.not_prefix_append _
    . rw [← List.append_assoc]
      exact hindented.not_prefix_append _

theorem sampleListing_inj {families : Finset String}
    (h : sampleListing families names = sampleListing families others) : names = others := by
  unfold sampleListing at h
  by_cases hnames : names = ∅
  . by_cases hothers : others = ∅
    . rw [hnames, hothers]
    . simp [hnames, hothers, listing] at h
  . by_cases hothers : others = ∅
    . simp [hnames, hothers, listing] at h
    . simp only [hnames, hothers, List.append_cancel_left_eq] at h
      exact listing_inj (by decide) h

theorem headline_append_inj {present present' : Bool} {name name' : String}
    (hu : ¬"no metric with name: ".toList <+: u) (hv : ¬"no metric with name: ".toList <+: v)
    (h : headline present name ++ u = headline present' name' ++ v) :
    (present = true ∨ present' = true → present = present' ∧ name = name') ∧ u = v := by
  unfold headline at h
  cases present with
  | false =>
    cases present' with
    | false => exact ⟨by simp, h⟩
    | true =>
      rw [if_pos rfl, List.append_assoc] at h
      exact absurd ⟨_, h.symm⟩ hu
  | true =>
    rw [if_pos rfl, List.append_assoc] at h
    cases present' with
    | false => exact absurd ⟨_, h⟩ hv
    | true =>
      rw [if_pos rfl, List.append_assoc, List.append_assoc, List.append_cancel_left_eq,
        List.append_assoc] at h
      obtain ⟨rfl, hrest⟩ := Text.quoted_append_inj h
      exact ⟨fun _ => ⟨rfl, rfl⟩, List.append_cancel_left hrest⟩

theorem namesSpelling_inj {present present' : Bool} {name name' : String}
    {families families' samples samples' : Finset String}
    (h : namesSpelling present name families samples =
      namesSpelling present' name' families' samples') :
    (present = true ∨ present' = true → present = present' ∧ name = name') ∧
      families = families' ∧ samples = samples' := by
  have hbullet {families samples : Finset String} :
      ¬bullet.toList <+: sampleListing families samples :=
    not_prefix_sampleListing (by decide) (by decide)
  have hfamilies {families samples : Finset String} :
      ¬"found metric names:".toList <+: sampleListing families samples :=
    not_prefix_sampleListing (by decide) (by decide)
  have hheadline {families samples : Finset String} : ¬"no metric with name: ".toList <+:
      listing "found metric names:" families ++ sampleListing families samples :=
    not_prefix_listing_append (by decide) (not_prefix_sampleListing (by decide) (by decide))
  obtain ⟨hsame, hlistings⟩ := headline_append_inj hheadline hheadline h
  obtain ⟨rfl, hsamples⟩ := listing_append_inj hbullet hfamilies hbullet hfamilies hlistings
  exact ⟨hsame, rfl, sampleListing_inj hsamples⟩

theorem sort_eq_nil_iff : names.sort = [] ↔ names = ∅ := by
  rw [← List.length_eq_zero_iff, Finset.length_sort, Finset.card_eq_zero]

theorem isEmpty_map_sort : (names.sort.map Value.text).isEmpty = decide (names = ∅) := by
  rw [Bool.eq_iff_iff, decide_eq_true_eq, List.isEmpty_iff, List.map_eq_nil_iff, sort_eq_nil_iff]

theorem namesBelow_sort (heading : String) :
    namesBelow heading (names.sort.map Value.text) = listing heading names := by
  rw [namesBelow, listing, isEmpty_map_sort, List.flatMap_map]
  by_cases hnames : names = ∅
  . rw [if_pos (decide_eq_true hnames), if_pos hnames]
  . rw [if_neg (by simpa using hnames), if_neg hnames]
    rfl

theorem byNamesSpelling_sort {r : Request} {name : String} (hname : r.name = .text name) :
    byNamesSpelling r (names.sort.map Value.text) (others.sort.map Value.text) =
      namesSpelling r.present name names others := by
  have hbreak : (if (names.sort.map Value.text).isEmpty || (others.sort.map Value.text).isEmpty
      then [] else "\n          ".toList) =
        if names = ∅ ∨ others = ∅ then [] else indented.toList := by
    rw [isEmpty_map_sort, isEmpty_map_sort, ← Bool.decide_or]
    by_cases hempty : names = ∅ ∨ others = ∅
    . rw [decide_eq_true hempty, if_pos rfl, if_pos hempty]
    . rw [decide_eq_false hempty, if_neg Bool.false_ne_true, if_neg hempty, indented]
  rw [byNamesSpelling, allNamesSpelling, hname, hbreak, namesBelow_sort, namesBelow_sort,
    namesSpelling, sampleListing, List.append_assoc, headline, List.append_assoc]
  rfl

end Explanation

namespace Request

variable {r r' : Request} {name name' : String} {report report' : Report}
  {families families' samples samples' : Finset String}

theorem renderMismatch_of_names (hholds : report.HoldsNames families samples) :
    r.renderMismatch report = Explanation.byNames r (families.sort.map Value.text)
      (samples.sort.map Value.text) := by
  rw [renderMismatch_of_no_values (.inl hholds.values), hholds.records, Report.sortedFamilyNames,
    Report.sortedSampleNames, hholds.familyNames.sort_eq, hholds.sampleNames.sort_eq]
  rfl

theorem renderMismatch_spells (hname : r.name = .text name)
    (hholds : report.HoldsNames families samples) :
    (r.renderMismatch report).Spells
      (Explanation.namesSpelling r.present name families samples) := by
  have hshows (names : Finset String) : ∀ v ∈ names.sort.map Value.text, v.Shows :=
    List.forall_mem_map.mpr fun name _ => ⟨name, rfl⟩
  rw [renderMismatch_of_names hholds, ← Explanation.byNamesSpelling_sort hname]
  apply (Explanation.reads_byNames _ _).spells
  exact Explanation.fault?_byNames ⟨name, by rw [hname]; rfl⟩ (hshows families) (hshows samples)

theorem mismatchText_of_names (hname : r.name = .text name)
    (hholds : report.HoldsNames families samples) :
    r.mismatchText report =
      .ok (String.ofList (Explanation.namesSpelling r.present name families samples)) := by
  have hspells := renderMismatch_spells hname hholds
  rw [mismatchText, Rendering.complete_of_fault? hspells.fault?, ← hspells.text,
    String.ofList_toList]

theorem same_names_of_mismatchText (hname : r.name = .text name) (hname' : r'.name = .text name')
    (hholds : report.HoldsNames families samples)
    (hholds' : report'.HoldsNames families' samples') :
    r.mismatchText report =
        .ok (String.ofList (Explanation.namesSpelling r.present name families samples)) ∧
      (∀ notices : List Notice, Notice.allFamilies notices = families →
        Notice.allSamples notices = samples → ∃ noted,
          notices.foldlM Report.noteName .empty = .ok noted ∧
            r.mismatchText noted = r.mismatchText report) ∧
      (r.mismatchText report = r'.mismatchText report' →
        (r.present = true ∨ r'.present = true → r.present = r'.present ∧ name = name') ∧
          families = families' ∧ samples = samples') := by
  have htext := mismatchText_of_names hname hholds
  refine ⟨htext, ?_, ?_⟩
  . rintro notices rfl rfl
    obtain ⟨noted, hnoted, hall⟩ := Report.holdsNames_empty.noteNames notices
    rw [Finset.union_empty, Finset.union_empty] at hall
    exact ⟨noted, hnoted, by rw [htext, mismatchText_of_names hname hall]⟩
  . intro hsame
    exact Explanation.namesSpelling_inj ((renderMismatch_spells hname hholds).eq_of_complete
      (renderMismatch_spells hname' hholds') hsame)

def plainReport : Report :=
  ⟨false, [], [], [.text "b", .text "a"], [.text "a"]⟩

/--
A report of a sample and a single family, whose name looks like the rows of two families.
-/
def forgedReport : Report :=
  ⟨false, [], [], [.text "a\"\n          - \"b"], [.text "a"]⟩

theorem same_names_of_mismatchText_forgedReport :
    (jobsRequest true .greater).name = .text "jobs_total" ∧
      (jobsRequest false .greater).name = .text "jobs_total" ∧
      plainReport.HoldsNames {"a", "b"} {"a"} ∧
      forgedReport.HoldsNames {"a\"\n          - \"b"} {"a"} ∧
      (jobsRequest true .greater).mismatchText plainReport =
        .ok ("no metric with name: \"jobs_total\"\n          found metric names:" ++
          "\n          - \"a\"\n          - \"b\"" ++
          "\n          found metric sample names:\n          - \"a\"") ∧
      (jobsRequest true .greater).mismatchText plainReport ≠
        (jobsRequest true .greater).mismatchText forgedReport ∧
      (jobsRequest true .greater).mismatchText plainReport ≠
        (jobsRequest false .greater).mismatchText plainReport ∧
      ∃ noted,
        [.sample "a", .family "b", .family "a", .family "b"].foldlM Report.noteName .empty =
          .ok noted ∧
        (jobsRequest true .greater).mismatchText noted =
          (jobsRequest true .greater).mismatchText plainReport := by
  have hplain : plainReport.HoldsNames {"a", "b"} {"a"} := by
    refine ⟨rfl, rfl, ⟨?_, ?_⟩, ⟨?_, ?_⟩⟩
    . simp [plainReport]
    . simp [plainReport, or_comm]
    . simp [plainReport]
    . simp [plainReport]
  have hforged : forgedReport.HoldsNames {"a\"\n          - \"b"} {"a"} := by
    refine ⟨rfl, rfl, ⟨?_, ?_⟩, ⟨?_, ?_⟩⟩
    . simp [forgedReport]
    . simp [forgedReport]
    . simp [forgedReport]
    . simp [forgedReport]
  have hrequest : (jobsRequest true .greater).name = .text "jobs_total" := rfl
  have hopposite : (jobsRequest false .greater).name = .text "jobs_total" := rfl
  obtain ⟨-, hnoted, hforgery⟩ := same_names_of_mismatchText hrequest hrequest hplain hforged
  obtain ⟨-, -, hheadline⟩ := same_names_of_mismatchText hrequest hopposite hplain hplain
  refine ⟨rfl, rfl, hplain, hforged, by decide +kernel, ?_, ?_, ?_⟩
  . intro hsame
    exact absurd (hforgery hsame).2.1 (by decide)
  . intro hsame
    exact absurd ((hheadline hsame).1 (.inl rfl)).1 (by decide)
  . apply hnoted
    . decide
    . decide

end Request

end MetricCheck
