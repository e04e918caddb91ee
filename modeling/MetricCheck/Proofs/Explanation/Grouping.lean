import MetricCheck.Proofs.Explanation.Names

/-!
This module contains how a report groups the values that are noted in it. Every name has one entry,
which holds the values under it in the order in which they were noted. No two entries have one name,
so sorting them never looks at the values, and their order is settled by the names. What is noted
under different names can therefore come in any order without any effect on the explanation.
-/

namespace MetricCheck

namespace Report

def notedUnder (name : String) (notes : List (String × Value)) : List Value :=
  (notes.filter fun note => note.1 = name).map Prod.snd

def noteValues (report : Report) (notes : List (String × Value)) : Except Fault Report :=
  notes.foldlM (fun report note => report.addValue (.text note.1) note.2) report

/--
Entries group noted values: every name that is used has one entry with all values under it, and the
entries stand in ascending order of the code points of their names.
-/
structure Groups (notes : List (String × Value)) (entries : List (Value × List Value)) : Prop where
  ascending : entries.Pairwise fun a b => a.1.units < b.1.units
  mem_iff : ∀ name vs, (name, vs) ∈ entries ↔
    ∃ s ∈ notes.map Prod.fst, name = .text s ∧ vs = notedUnder s notes

structure HoldsValues (report : Report) (notes : List (String × Value)) : Prop where
  names : Value.Lists (report.values.map Prod.fst) (notes.map Prod.fst).toFinset
  values : ∀ name, report.valuesUnder (.text name) = notedUnder name notes
  records : report.records = []
  familyNames : report.familyNames = []
  sampleNames : report.sampleNames = []

def entryPair (entry : Value × List Value) : Value :=
  .tuple [entry.1, .list entry.2]

variable {report report' : Report} {notes notes' : List (String × Value)}
  {entries entries' : List (Value × List Value)} {name : String}

theorem mem_names_iff : name ∈ notes.map Prod.fst ↔ notedUnder name notes ≠ [] := by
  simp [notedUnder]

theorem notedUnder_concat (name : String) (notes : List (String × Value)) (note : String × Value) :
    notedUnder name (notes ++ [note]) =
      notedUnder name notes ++ if note.1 = name then [note.2] else [] := by
  unfold notedUnder
  rw [List.filter_append, List.map_append]
  by_cases hname : note.1 = name
  . simp [hname]
  . simp [hname]

theorem toFinset_names_concat (notes : List (String × Value)) (note : String × Value) :
    ((notes ++ [note]).map Prod.fst).toFinset = insert note.1 (notes.map Prod.fst).toFinset := by
  rw [List.map_append, List.toFinset_append, Finset.union_comm]
  rfl

theorem holdsValues_empty : empty.HoldsValues [] :=
  ⟨.empty, fun _ => rfl, rfl, rfl, rfl⟩

theorem HoldsValues.addValue (h : report.HoldsValues notes) (note : String × Value) :
    ∃ noted, report.addValue (.text note.1) note.2 = .ok noted ∧
      noted.HoldsValues (notes ++ [note]) := by
  refine ⟨_, rfl, ?_, ?_, h.records, h.familyNames, h.sampleNames⟩
  . rw [map_fst_addUnder, toFinset_names_concat]
    exact h.names.addDistinct note.1
  . intro name
    have hsame : (Value.text note.1).same (.text name) = true ↔ note.1 = name := by
      rw [(Value.IsName.text note.1).same_iff, Value.text.injEq, eq_comm]
    rw [valuesUnder, lookup_addUnder (.text note.1), ← valuesUnder, h.values, notedUnder_concat]
    simp only [hsame]

theorem HoldsValues.noteValues {noted : List (String × Value)} (h : report.HoldsValues noted)
    (notes : List (String × Value)) :
    ∃ next, report.noteValues notes = .ok next ∧ next.HoldsValues (noted ++ notes) := by
  induction notes generalizing report noted with
  | nil => exact ⟨report, rfl, by simpa using h⟩
  | cons note rest ih =>
    obtain ⟨once, honce, hholds⟩ := h.addValue note
    obtain ⟨next, hnext, hall⟩ := ih hholds
    refine ⟨next, ?_, by simpa using hall⟩
    rw [Report.noteValues, List.foldlM_cons, honce]
    exact hnext

theorem HoldsValues.mem_values_iff (h : report.HoldsValues notes) (name : Value)
    (vs : List Value) : (name, vs) ∈ report.values ↔
      ∃ s ∈ notes.map Prod.fst, name = .text s ∧ vs = notedUnder s notes := by
  constructor
  . intro hmem
    obtain ⟨s, hs, rfl⟩ := (h.names.mem_iff name).mp (List.mem_map_of_mem hmem)
    refine ⟨s, List.mem_toFinset.mp hs, rfl, ?_⟩
    rw [← h.values, valuesUnder, lookup_of_mem (.text s) h.names.nodup hmem]
  . rintro ⟨s, hs, rfl, rfl⟩
    rw [mem_names_iff, ← h.values] at hs
    rw [← h.values]
    exact mem_of_lookup_ne_nil (.text s) hs

theorem HoldsValues.values_eq_nil_iff (h : report.HoldsValues notes) :
    report.values = [] ↔ ∀ name, notedUnder name notes = [] := by
  constructor
  . intro hnil name
    rw [← h.values, valuesUnder, hnil]
    rfl
  . intro hnone
    rw [List.eq_nil_iff_forall_not_mem]
    rintro ⟨name, vs⟩ hmem
    obtain ⟨s, hs, -⟩ := (h.mem_values_iff name vs).mp hmem
    exact mem_names_iff.mp hs (hnone s)

theorem HoldsValues.sameKind (h : report.HoldsValues notes) :
    ∀ a ∈ report.values, ∀ b ∈ report.values, a.1.SameKind b.1 :=
  fun a ha b hb =>
    h.names.sameKind a.1 (List.mem_map_of_mem ha) b.1 (List.mem_map_of_mem hb)

theorem HoldsValues.exists_groups (h : report.HoldsValues notes) :
    ∃ entries, report.sortedValues = .ok entries ∧ Groups notes entries := by
  obtain ⟨entries, hsort, hperm, hascending⟩ := Value.sortBy_units h.sameKind h.names.nodup
  refine ⟨entries, hsort, hascending, ?_⟩
  intro name vs
  rw [hperm.mem_iff, h.mem_values_iff]

theorem Groups.nodup (h : Groups notes entries) : entries.Nodup := by
  apply h.ascending.imp
  intro a b hlt heq
  rw [heq] at hlt
  exact lt_irrefl _ hlt

theorem Groups.unique (h : Groups notes entries) (h' : Groups notes' entries')
    (hnoted : ∀ name, notedUnder name notes' = notedUnder name notes) : entries' = entries := by
  have hperm : entries'.Perm entries := by
    rw [List.perm_ext_iff_of_nodup h'.nodup h.nodup]
    rintro ⟨name, vs⟩
    rw [h'.mem_iff, h.mem_iff]
    simp only [mem_names_iff, hnoted]
  refine hperm.eq_of_pairwise ?_ h'.ascending h.ascending
  intro a b _ _ hlt hgt
  exact absurd hlt hgt.asymm

-- Different names settle how pairs compare, so the values in them are never reached.
theorem HoldsValues.before_entryPair (h : report.HoldsValues notes) {a : Value × List Value}
    (ha : a ∈ report.values) {name : Value} (hne : a.1 ≠ name) (vs ws : List Value) :
    (entryPair (a.1, vs)).before (entryPair (name, ws)) = a.1.before name := by
  obtain ⟨s, -, hs⟩ := (h.names.mem_iff a.1).mp (List.mem_map_of_mem ha)
  have hsame : a.1.same name = false := by
    rw [← Bool.not_eq_true, hs, (Value.IsName.text s).same_iff, ← hs]
    exact hne.symm
  simp [entryPair, Value.before, Value.tuple?, Value.rowBefore, hsame]

theorem HoldsValues.sortBy_entryPair (h : report.HoldsValues notes) :
    Value.sortBy entryPair report.values = report.sortedValues := by
  symm
  apply Value.sortBy_congr h.sameKind h.names.nodup
  intro a ha b _ hne
  exact (h.before_entryPair ha hne a.2 b.2).symm

end Report

namespace Request

open Report

variable {r : Request} {report report' : Report} {notes notes' : List (String × Value)}

theorem renderMismatch_of_holdsValues (h : report.HoldsValues notes) {rule : Predicate}
    (hrule : r.valueRule = some rule) (hnotes : notes ≠ []) :
    r.renderMismatch report = Explanation.byValues r rule report := by
  apply renderMismatch_eq_byValues hrule
  obtain ⟨note, rest, rfl⟩ := List.exists_cons_of_ne_nil hnotes
  exact List.ne_nil_of_mem ((h.mem_values_iff _ _).mpr ⟨note.1, by simp, rfl, rfl⟩)

theorem renderMismatch_eq_byNames (h : report.HoldsValues notes)
    (hno : report.values = [] ∨ r.valueRule = none) :
    r.renderMismatch report = Explanation.byNames r [] [] := by
  rw [renderMismatch_of_no_values hno, h.records, sortedFamilyNames, h.familyNames,
    sortedSampleNames, h.sampleNames]
  rfl

theorem renderMismatch_congr (h : report.HoldsValues notes) (h' : report'.HoldsValues notes')
    (hnoted : ∀ name, notedUnder name notes' = notedUnder name notes) :
    r.renderMismatch report' = r.renderMismatch report := by
  have hnil : report'.values = [] ↔ report.values = [] := by
    rw [h.values_eq_nil_iff, h'.values_eq_nil_iff]
    simp only [hnoted]
  by_cases hno : report.values = [] ∨ r.valueRule = none
  . rw [renderMismatch_eq_byNames h hno, renderMismatch_eq_byNames h' (hno.imp_left hnil.mpr)]
  . rw [not_or] at hno
    obtain ⟨rule, hrule⟩ := Option.ne_none_iff_exists'.mp hno.2
    obtain ⟨entries, hsorted, hgroups⟩ := h.exists_groups
    obtain ⟨entries', hsorted', hgroups'⟩ := h'.exists_groups
    rw [renderMismatch_eq_byValues hrule hno.1,
      renderMismatch_eq_byValues hrule (mt hnil.mp hno.1), Explanation.byValues,
      Explanation.byValues, hsorted, hsorted', hgroups.unique hgroups' hnoted]

end Request

namespace Report

theorem sortedValues_of_notes (notes : List (String × Value)) :
    ∃ report entries, Report.empty.noteValues notes = .ok report ∧
      report.sortedValues = .ok entries ∧ Groups notes entries ∧
      (Value.sortBy entryPair report.values = .ok entries ∧
        ∀ a ∈ report.values, ∀ b ∈ report.values, a ≠ b → ∀ vs ws,
          (entryPair (a.1, vs)).before (entryPair (b.1, ws)) = a.1.before b.1) ∧
      (∀ (r : Request) (rule : Predicate), r.valueRule = some rule → notes ≠ [] →
        r.renderMismatch report =
          Rendering.ofText ((if r.present then "no" else "a") ++ " value matches: ") ++
            rule.describe ++ Rendering.ofText (Explanation.indented ++ "found values: ") ++
              Rendering.concat (entries.map fun entry =>
                Explanation.valueLine entry.1 entry.2)) ∧
      ∀ notes' : List (String × Value),
        (∀ name, notedUnder name notes' = notedUnder name notes) →
          ∃ report', Report.empty.noteValues notes' = .ok report' ∧
            report'.sortedValues = .ok entries ∧
            ∀ r : Request, r.mismatchText report' = r.mismatchText report := by
  obtain ⟨report, hnote, hholds⟩ := holdsValues_empty.noteValues notes
  rw [List.nil_append] at hholds
  obtain ⟨entries, hsorted, hgroups⟩ := hholds.exists_groups
  refine ⟨report, entries, hnote, hsorted, hgroups, ⟨?_, ?_⟩, ?_, ?_⟩
  . rw [hholds.sortBy_entryPair, hsorted]
  . intro a ha b hb hne
    apply hholds.before_entryPair ha
    exact mt (List.inj_on_of_nodup_map hholds.names.nodup ha hb) hne
  . intro r rule hrule hnotes
    rw [Request.renderMismatch_of_holdsValues hholds hrule hnotes, Explanation.byValues, hsorted]
  . intro notes' hnoted
    obtain ⟨report', hnote', hholds'⟩ := holdsValues_empty.noteValues notes'
    rw [List.nil_append] at hholds'
    obtain ⟨entries', hsorted', hgroups'⟩ := hholds'.exists_groups
    refine ⟨report', hnote', ?_, ?_⟩
    . rw [hsorted', hgroups.unique hgroups' hnoted]
    . intro r
      rw [Request.mismatchText, Request.mismatchText,
        Request.renderMismatch_congr hholds hholds' hnoted]

def interleavedNotes : List (String × Value) :=
  [("jobs_total", .double (.ofDecimal false 1 0)), ("jobs", .double .nan),
    ("jobs_total", .double .nan), ("jobs", .double (.ofDecimal true 1 0))]

def separateNotes : List (String × Value) :=
  [("jobs", .double .nan), ("jobs", .double (.ofDecimal true 1 0)),
    ("jobs_total", .double (.ofDecimal false 1 0)), ("jobs_total", .double .nan)]

theorem notedUnder_separateNotes (name : String) :
    notedUnder name separateNotes = notedUnder name interleavedNotes := by
  by_cases hlong : "jobs_total" = name
  . simp [notedUnder, separateNotes, interleavedNotes, ← hlong]
  . by_cases hshort : "jobs" = name
    . simp [notedUnder, separateNotes, interleavedNotes, ← hshort]
    . simp [notedUnder, separateNotes, interleavedNotes, hlong, hshort]

theorem sortedValues_of_notes_interleaved :
    (Request.jobsRequest true .greater).valueRule = some (.ordered .greater (.int 0)) ∧
      interleavedNotes ≠ [] ∧
      (∀ name, notedUnder name separateNotes = notedUnder name interleavedNotes) ∧
      ∃ report report' entries, Report.empty.noteValues interleavedNotes = .ok report ∧
        Report.empty.noteValues separateNotes = .ok report' ∧
        report.sortedValues = .ok entries ∧ report'.sortedValues = .ok entries ∧
        Groups interleavedNotes entries ∧
        (Request.jobsRequest true .greater).mismatchText report =
          .ok ("no value matches: a value greater than <0>\n          found values: \n" ++
            "          - <nan>, <-1.0> for sample \"jobs\"\n" ++
            "          - <1.0>, <nan> for sample \"jobs_total\"") ∧
        (Request.jobsRequest true .greater).mismatchText report' =
          (Request.jobsRequest true .greater).mismatchText report := by
  obtain ⟨report, entries, hnote, hsorted, hgroups, -, -, hsame⟩ :=
    sortedValues_of_notes interleavedNotes
  obtain ⟨report', hnote', hsorted', htext⟩ := hsame separateNotes notedUnder_separateNotes
  have hrun : (do
      let report ← Report.empty.noteValues interleavedNotes
      (Request.jobsRequest true .greater).mismatchText report) =
      .ok ("no value matches: a value greater than <0>\n          found values: \n" ++
        "          - <nan>, <-1.0> for sample \"jobs\"\n" ++
        "          - <1.0>, <nan> for sample \"jobs_total\"") := by decide +kernel
  rw [hnote] at hrun
  exact ⟨rfl, by decide, notedUnder_separateNotes, report, report', entries, hnote, hnote',
    hsorted, hsorted', hgroups, hrun, htext _⟩

end Report

end MetricCheck
