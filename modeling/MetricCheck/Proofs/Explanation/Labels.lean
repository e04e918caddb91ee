import Mathlib.Data.List.Chain
import Mathlib.Data.List.Infix
import Mathlib.Data.String.Basic
import MetricCheck.Proofs.Explanation.Failure
import MetricCheck.Proofs.Text.Readable

/-!
This module contains what a reader can tell from the labels in an explanation. They are written as
they are, so separators inside them can pass for separators between them. Where that cannot happen,
the labels of all records can be read back from the text.
-/

namespace MetricCheck

structure LabelRecord.SameFaults (a b : LabelRecord) : Prop where
  missing : a.missing = b.missing
  mismatches : a.mismatches = b.mismatches

theorem Rendering.exists_text_append {a b : Rendering} {c : Char}
    (h : ∃ cs, a.text.toList = c :: cs) : ∃ rest, (a ++ b).text.toList = c :: rest := by
  obtain ⟨cs, hcs⟩ := h
  rw [append_def, append]
  split
  . exact ⟨cs, hcs⟩
  . rw [String.toList_append, hcs]
    exact ⟨_, rfl⟩

namespace Explanation

/--
No closing parenthesis stands right before a line break.
-/
def Unbroken (cs : List Char) : Prop :=
  cs.IsChain fun c d => ¬(c = ')' ∧ d = '\n')

instance (cs : List Char) : Decidable (Unbroken cs) :=
  inferInstanceAs (Decidable (cs.IsChain fun c d => ¬(c = ')' ∧ d = '\n')))

def labelText : Value × Value → String
  | (.text name, .text value) => name ++ "=" ++ value
  | _ => ""

/--
A label that says where it ends. Its name has neither an equals sign nor a separator, and its value
has no separator that an equals sign comes after.
-/
inductive IsPlainLabel : Value × Value → Prop where
  | texts {name value : String} : '=' ∉ name.toList → ¬[',', ' '] <:+: name.toList →
      (∀ start rest, value.toList = start ++ ',' :: ' ' :: rest → '=' ∉ rest) →
      IsPlainLabel (.text name, .text value)

/--
The labels of records say where they end, and so does a row of labels that another record comes
after.
-/
structure AreReadable (records : List LabelRecord) : Prop where
  labels : ∀ record ∈ records, ∀ label ∈ record.labels, IsPlainLabel label
  rows : ∀ record ∈ records.dropLast, ∀ label ∈ record.labels, Unbroken (labelText label).toList

def moreLabels (labels : List (Value × Value)) : List Char :=
  labels.flatMap fun label => ',' :: ' ' :: (labelText label).toList

def labelsRow : List (Value × Value) → List Char
  | [] => []
  | label :: rest => (labelText label).toList ++ moreLabels rest

def blockSpelling (record : LabelRecord) : List Char :=
  '\n' :: '(' :: (labelsRow record.labels ++ ')' :: (labelFaults record).text.toList)

section Row

variable {label other : Value × Value} {labels others : List (Value × Value)}
  {cs ds u v : List Char}

theorem moreLabels_cons (label : Value × Value) (rest : List (Value × Value)) :
    moreLabels (label :: rest) =
      ',' :: ' ' :: ((labelText label).toList ++ moreLabels rest) := by
  rw [moreLabels, List.flatMap_cons, List.cons_append, List.cons_append, moreLabels]

theorem toList_labelText (name value : String) :
    (labelText (.text name, .text value)).toList = name.toList ++ '=' :: value.toList := by
  rw [labelText, String.toList_append, String.toList_append, List.append_assoc]
  rfl

-- What comes before an equals sign in further labels begins with a separator.
theorem separator_prefix_of_moreLabels (h : moreLabels labels = cs ++ '=' :: u) :
    [',', ' '] <+: cs := by
  cases labels with
  | nil => simp [moreLabels] at h
  | cons label rest =>
    rw [moreLabels_cons] at h
    match cs with
    | [] => simp at h
    | [c] => simp at h
    | c :: d :: cs =>
      simp only [List.cons_append, List.cons.injEq] at h
      rw [← h.1, ← h.2.1]
      apply List.prefix_append [',', ' '] cs

-- No further label hides in the end of a value.
theorem eq_nil_of_moreLabels {start extra : List Char}
    (hvalue : ∀ before after, start ++ extra = before ++ ',' :: ' ' :: after → '=' ∉ after)
    (hlabels : ∀ label ∈ labels, IsPlainLabel label)
    (h : moreLabels labels = extra ++ moreLabels others) : extra = [] := by
  cases labels with
  | nil => exact (List.append_eq_nil_iff.mp h.symm).1
  | cons label rest =>
    rw [List.forall_mem_cons] at hlabels
    obtain ⟨@⟨name, value, _, hseparator, _⟩, -⟩ := hlabels
    rw [moreLabels_cons, toList_labelText, List.append_assoc, List.cons_append] at h
    match extra with
    | [] => rfl
    | [c] =>
      simp only [List.cons_append, List.nil_append, List.cons.injEq] at h
      cases others with
      | nil => simp [moreLabels] at h
      | cons other rest => simp [moreLabels_cons] at h
    | c :: d :: extra =>
      simp only [List.cons_append, List.cons.injEq] at h
      obtain ⟨rfl, rfl, h⟩ := h
      have hequals := hvalue start extra rfl
      cases List.append_eq_append_iff.mp h with
      | inl hname =>
        obtain ⟨middle, hextra, hrest⟩ := hname
        cases middle with
        | nil =>
          have hprefix : [',', ' '] <+: [] := separator_prefix_of_moreLabels hrest.symm
          simp at hprefix
        | cons c middle =>
          rw [List.cons_append, List.cons.injEq] at hrest
          simp [hextra, ← hrest.1] at hequals
      | inr hname =>
        obtain ⟨middle, hname, hrest⟩ := hname
        have hprefix := separator_prefix_of_moreLabels hrest
        exact absurd (hname ▸ hprefix.isInfix.trans (List.suffix_append _ _).isInfix) hseparator

theorem label_append_inj (hlabel : IsPlainLabel label) (hother : IsPlainLabel other)
    (hlabels : ∀ label ∈ labels, IsPlainLabel label)
    (hothers : ∀ other ∈ others, IsPlainLabel other)
    (h : (labelText label).toList ++ moreLabels labels =
      (labelText other).toList ++ moreLabels others) :
    label = other ∧ moreLabels labels = moreLabels others := by
  obtain @⟨name, value, hname, _, hvalue⟩ := hlabel
  obtain @⟨name', value', hname', _, hvalue'⟩ := hother
  simp only [toList_labelText, List.append_assoc, List.cons_append] at h
  obtain ⟨hnames, hrest⟩ := Text.append_cons_inj hname hname' h
  have hvalues : value.toList = value'.toList ∧ moreLabels labels = moreLabels others := by
    cases List.append_eq_append_iff.mp hrest with
    | inl hlonger =>
      obtain ⟨extra, hextra, hmore⟩ := hlonger
      rw [hextra] at hvalue'
      have hnil := eq_nil_of_moreLabels hvalue' hlabels hmore
      rw [hextra, hmore, hnil, List.append_nil, List.nil_append]
      exact ⟨rfl, rfl⟩
    | inr hshorter =>
      obtain ⟨extra, hextra, hmore⟩ := hshorter
      rw [hextra] at hvalue
      have hnil := eq_nil_of_moreLabels hvalue hothers hmore
      rw [hextra, hmore, hnil, List.append_nil, List.nil_append]
      exact ⟨rfl, rfl⟩
  rw [String.toList_inj.mp hnames, String.toList_inj.mp hvalues.1]
  exact ⟨rfl, hvalues.2⟩

theorem moreLabels_inj (hlabels : ∀ label ∈ labels, IsPlainLabel label)
    (hothers : ∀ other ∈ others, IsPlainLabel other)
    (h : moreLabels labels = moreLabels others) : labels = others := by
  induction labels generalizing others with
  | nil =>
    cases others with
    | nil => rfl
    | cons other rest => simp [moreLabels] at h
  | cons label labels ih =>
    cases others with
    | nil => simp [moreLabels] at h
    | cons other others =>
      rw [List.forall_mem_cons] at hlabels hothers
      simp only [moreLabels_cons, List.cons.injEq, true_and] at h
      obtain ⟨rfl, hrest⟩ := label_append_inj hlabels.1 hothers.1 hlabels.2 hothers.2 h
      rw [ih hlabels.2 hothers.2 hrest]

theorem labelsRow_inj (hlabels : ∀ label ∈ labels, IsPlainLabel label)
    (hothers : ∀ other ∈ others, IsPlainLabel other)
    (h : labelsRow labels = labelsRow others) : labels = others := by
  -- A row without labels is empty, and any label is written with an equals sign.
  have hequals {label : Value × Value} (hlabel : IsPlainLabel label) (rest : List Char) :
      (labelText label).toList ++ rest ≠ [] := by
    cases hlabel
    simp [toList_labelText]
  cases labels with
  | nil =>
    cases others with
    | nil => rfl
    | cons other rest => exact absurd h.symm (hequals (hothers other List.mem_cons_self) _)
  | cons label labels =>
    cases others with
    | nil => exact absurd h (hequals (hlabels label List.mem_cons_self) _)
    | cons other others =>
      apply moreLabels_inj hlabels hothers
      rw [moreLabels_cons, moreLabels_cons]
      exact congrArg (',' :: ' ' :: ·) h

theorem Unbroken.append_cons {c : Char} (hcs : Unbroken cs) (hc : c ≠ '\n')
    (hds : Unbroken (c :: ds)) : Unbroken (cs ++ c :: ds) := by
  unfold Unbroken at *
  rw [List.isChain_append]
  refine ⟨hcs, hds, ?_⟩
  simp [hc]

theorem Unbroken.cons {c : Char} (hc : c ≠ ')') (hcs : Unbroken cs) : Unbroken (c :: cs) := by
  unfold Unbroken at *
  rw [List.isChain_cons]
  exact ⟨by simp [hc], hcs⟩

theorem Unbroken.append_moreLabels (hcs : Unbroken cs)
    (hlabels : ∀ label ∈ labels, Unbroken (labelText label).toList) :
    Unbroken (cs ++ moreLabels labels) := by
  induction labels generalizing cs with
  | nil => simpa [moreLabels] using hcs
  | cons label rest ih =>
    rw [List.forall_mem_cons] at hlabels
    rw [moreLabels_cons]
    apply hcs.append_cons (by decide)
    apply Unbroken.cons (by decide)
    apply Unbroken.cons (by decide)
    apply ih hlabels.1 hlabels.2

theorem unbroken_labelsRow (hlabels : ∀ label ∈ labels, Unbroken (labelText label).toList) :
    Unbroken (labelsRow labels) := by
  cases labels with
  | nil => exact .nil
  | cons label rest =>
    rw [List.forall_mem_cons] at hlabels
    apply hlabels.1.append_moreLabels hlabels.2

theorem Unbroken.ne_nil_append {d : Char} (hds : Unbroken (d :: ds)) :
    ')' :: '\n' :: u ≠ d :: ds ++ ')' :: '\n' :: v := by
  intro h
  cases ds with
  | nil => simp at h
  | cons e ds =>
    simp only [List.cons_append, List.cons.injEq] at h
    unfold Unbroken at hds
    rw [List.isChain_cons_cons] at hds
    exact hds.1 ⟨h.1.symm, h.2.1.symm⟩

theorem Unbroken.tail {c : Char} (h : Unbroken (c :: cs)) : Unbroken cs := by
  unfold Unbroken at *
  rw [List.isChain_cons] at h
  exact h.2

-- The first parenthesis before a line break is the one that ends the row.
theorem Unbroken.append_inj (hcs : Unbroken cs) (hds : Unbroken ds)
    (h : cs ++ ')' :: '\n' :: u = ds ++ ')' :: '\n' :: v) : cs = ds ∧ u = v := by
  induction cs generalizing ds with
  | nil =>
    cases ds with
    | nil => simpa using h
    | cons d ds => exact absurd h hds.ne_nil_append
  | cons c cs ih =>
    cases ds with
    | nil => exact absurd h.symm hcs.ne_nil_append
    | cons d ds =>
      rw [List.cons_append, List.cons_append, List.cons.injEq] at h
      obtain ⟨rfl, hrest⟩ := ih hcs.tail hds.tail h.2
      rw [h.1]
      exact ⟨rfl, hrest⟩

end Row

section Blocks

variable {record other : LabelRecord} {records others : List LabelRecord}

theorem AreReadable.tail (h : AreReadable (record :: records)) : AreReadable records where
  labels := fun other hother => h.labels other (List.mem_cons_of_mem record hother)
  rows := by
    intro other hother
    apply h.rows other
    cases records with
    | nil => contradiction
    | cons next rest => exact List.mem_cons_of_mem record hother

theorem AreReadable.unbroken_head {next : LabelRecord}
    (h : AreReadable (record :: next :: records)) : Unbroken (labelsRow record.labels) := by
  apply unbroken_labelsRow
  apply h.rows record
  simp

theorem labelFaults_eq_of_sameFaults (h : record.SameFaults other) :
    labelFaults record = labelFaults other := by
  rw [labelFaults, labelFaults, h.missing, h.mismatches]

theorem exists_text_labelFaults (record : LabelRecord) :
    ∃ rest, (labelFaults record).text.toList = '\n' :: rest := by
  unfold labelFaults
  cases record.missing.isEmpty with
  | false =>
    apply Rendering.exists_text_append
    apply Rendering.exists_text_append
    apply Rendering.exists_text_append
    exact ⟨_, rfl⟩
  | true =>
    rw [if_pos rfl, Rendering.empty_append]
    cases record.mismatches.isEmpty with
    | false =>
      apply Rendering.exists_text_append
      apply Rendering.exists_text_append
      exact ⟨_, rfl⟩
    | true =>
      rw [if_pos rfl, Rendering.empty_append]
      exact ⟨[], rfl⟩

theorem labels_eq_of_blocks (hfaults : List.Forall₂ LabelRecord.SameFaults records others)
    (hrecords : AreReadable records) (hothers : AreReadable others)
    (h : records.flatMap blockSpelling = others.flatMap blockSpelling) :
    records.map LabelRecord.labels = others.map LabelRecord.labels := by
  induction hfaults with
  | nil => rfl
  | @cons record other records others hsame hrest ih =>
    have hlabels := labelsRow_inj (hrecords.labels record List.mem_cons_self)
      (hothers.labels other List.mem_cons_self)
    rw [List.flatMap_cons, List.flatMap_cons, blockSpelling, blockSpelling,
      labelFaults_eq_of_sameFaults hsame] at h
    simp only [List.cons_append, List.cons.injEq, true_and, List.append_assoc] at h
    cases hrest with
    | nil => rw [List.map_cons, List.map_cons, hlabels (List.append_cancel_right h)]
    | cons _ _ =>
      -- The faults begin with a line break, and the same faults follow on both sides.
      obtain ⟨faults, hfaults⟩ := exists_text_labelFaults other
      rw [hfaults] at h
      obtain ⟨hrows, hblocks⟩ := hrecords.unbroken_head.append_inj hothers.unbroken_head h
      have htail := ih hrecords.tail hothers.tail (List.append_cancel_left hblocks)
      apply congrArg₂ List.cons (hlabels hrows) htail

theorem labelsRow_eq_intercalate (labels : List (Value × Value)) :
    labelsRow labels = (", ".intercalate (labels.map labelText)).toList := by
  rw [Text.toList_intercalate]
  cases labels with
  | nil => rfl
  | cons label rest => simp [labelsRow, moreLabels, Text.joined, List.flatMap_map]

theorem labelTuple_spells {labels : List (Value × Value)}
    (hlabels : ∀ label ∈ labels, IsPlainLabel label) :
    (Rendering.ofExcept (labelTuple labels)).Spells ('(' :: (labelsRow labels ++ [')'])) := by
  have htuple :
      labelTuple labels = .ok ("(" ++ ", ".intercalate (labels.map labelText) ++ ")") := by
    apply labelTuple_eq
    intro label hlabel
    cases hlabels label hlabel
    rfl
  rw [htuple, labelsRow_eq_intercalate]
  refine ⟨rfl, ?_⟩
  rw [Rendering.ofExcept, Rendering.text_ofText, String.toList_append, String.toList_append]
  rfl

theorem recordBlock_spells (hlabels : ∀ label ∈ record.labels, IsPlainLabel label)
    (hfaults : (labelFaults record).fault? = none) :
    (recordBlock true record).Spells (blockSpelling record) := by
  have hblock := ((Rendering.spells_ofText "\n").append (labelTuple_spells hlabels)).append
    ⟨hfaults, rfl⟩
  rw [recordBlock, if_pos rfl, blockSpelling]
  simpa using hblock

end Blocks

end Explanation

namespace Request

variable {r : Request} {report report' : Report}

theorem renderMismatch_of_records (hvalues : report.values = []) (hrecords : report.records ≠ []) :
    r.renderMismatch report = Explanation.byLabels r report := by
  rw [renderMismatch_of_no_values (.inl hvalues), if_neg]
  rwa [List.isEmpty_iff]

theorem renderMismatch_spells_of_records (hpresent : r.present = true)
    (hvalues : report.values = []) (hrecords : report.records ≠ [])
    (hlabels : ∀ record ∈ report.records, ∀ label ∈ record.labels, Explanation.IsPlainLabel label)
    (hfaults : ∀ record ∈ report.records, (Explanation.labelFaults record).fault? = none) :
    (r.renderMismatch report).Spells
      ("labels did not match:".toList ++ report.records.flatMap Explanation.blockSpelling) := by
  rw [renderMismatch_of_records hvalues hrecords, Explanation.byLabels, hpresent]
  apply (Rendering.spells_ofText _).append
  apply Rendering.spells_concat
  intro record hrecord
  apply Explanation.recordBlock_spells (hlabels record hrecord) (hfaults record hrecord)

theorem fault?_labelFaults_of_mismatchText (hpresent : r.present = true)
    (hvalues : report.values = []) (hrecords : report.records ≠ []) {text : String}
    (h : r.mismatchText report = .ok text) :
    ∀ record ∈ report.records, (Explanation.labelFaults record).fault? = none := by
  have hwhole := Rendering.fault?_of_complete h
  rw [renderMismatch_of_records hvalues hrecords, Explanation.byLabels, hpresent,
    Rendering.fault?_append, Rendering.fault?_concat, List.forall_mem_map] at hwhole
  intro record hrecord
  have hblock := hwhole.2 record hrecord
  rw [Explanation.recordBlock, Rendering.fault?_append] at hblock
  exact hblock.2

theorem mismatchText_ne_of_labels (hpresent : r.present = true) (hvalues : report.values = [])
    (hvalues' : report'.values = []) (hrecords : report.records ≠ [])
    (hfaults : List.Forall₂ LabelRecord.SameFaults report.records report'.records)
    (hreadable : Explanation.AreReadable report.records)
    (hreadable' : Explanation.AreReadable report'.records)
    (hlabels : report.records.map LabelRecord.labels ≠ report'.records.map LabelRecord.labels) :
    (∀ text, r.mismatchText report = .ok text →
      ∃ text', r.mismatchText report' = .ok text' ∧ text ≠ text') ∧
    ((∀ record ∈ report.records, record.Shows) → ∃ text, r.mismatchText report = .ok text) := by
  have hrecords' : report'.records ≠ [] := by
    intro hnil
    rw [hnil, List.forall₂_nil_right_iff] at hfaults
    exact hrecords hfaults
  constructor
  . intro text htext
    have hwhole := fault?_labelFaults_of_mismatchText hpresent hvalues hrecords htext
    have hwhole' : ∀ record ∈ report'.records, (Explanation.labelFaults record).fault? = none := by
      intro record' hrecord'
      obtain ⟨record, hrecord, hsame⟩ := exists_left_of_forall₂ hfaults hrecord'
      rw [← Explanation.labelFaults_eq_of_sameFaults hsame]
      apply hwhole record hrecord
    have hspells :=
      renderMismatch_spells_of_records hpresent hvalues hrecords hreadable.labels hwhole
    have hspells' :=
      renderMismatch_spells_of_records hpresent hvalues' hrecords' hreadable'.labels hwhole'
    have htext' : r.mismatchText report' = .ok (r.renderMismatch report').text :=
      Rendering.complete_of_fault? hspells'.fault?
    refine ⟨_, htext', ?_⟩
    intro hsame
    have hblocks := hspells.eq_of_complete hspells' (htext.trans (hsame ▸ htext'.symm))
    apply hlabels
    apply Explanation.labels_eq_of_blocks hfaults hreadable hreadable'
    apply List.append_cancel_left hblocks
  . intro hshows
    refine ⟨_, Rendering.complete_of_fault? ?_⟩
    rw [renderMismatch_of_records hvalues hrecords, Explanation.byLabels, Rendering.fault?_append,
      Rendering.fault?_concat, List.forall_mem_map]
    refine ⟨rfl, ?_⟩
    intro record hrecord
    apply Explanation.fault?_recordBlock r.present (hshows record hrecord)

def zoneReport (rows : List (List (String × String))) : Report where
  matched := false
  values := []
  records := rows.map fun row =>
    ⟨row.map fun label => (.text label.1, .text label.2), [.equalTo (.text "zone")], []⟩
  familyNames := []
  sampleNames := []

theorem areReadable_zoneReport {rows : List (List (String × String))}
    (hlabels : ∀ row ∈ rows, ∀ label ∈ row, '=' ∉ label.1.toList ∧
      ¬[',', ' '] <:+: label.1.toList ∧ '=' ∉ label.2.toList)
    (hrows : ∀ row ∈ rows.dropLast, ∀ label ∈ row,
      Explanation.Unbroken (label.1.toList ++ '=' :: label.2.toList)) :
    Explanation.AreReadable (zoneReport rows).records where
  labels := by
    unfold zoneReport
    simp only [List.forall_mem_map]
    intro row hrow label hlabel
    obtain ⟨hequals, hseparator, hvalue⟩ := hlabels row hrow label hlabel
    refine .texts hequals hseparator ?_
    intro start rest hsplit hrest
    apply hvalue
    simp [hsplit, hrest]
  rows := by
    unfold zoneReport
    simp only [← List.map_dropLast, List.forall_mem_map, Explanation.toList_labelText]
    exact hrows

def lateRows : List (List (String × String)) :=
  [[("queue", "out")], [("queue", "in, late")]]

def splitRows : List (List (String × String)) :=
  [[("queue", "out")], [("queue", "in"), ("late", "")]]

theorem mismatchText_ne_of_labels_lateRows :
    (jobsRequest true .greater).present = true ∧ (zoneReport lateRows).records ≠ [] ∧
      Explanation.AreReadable (zoneReport lateRows).records ∧
      Explanation.AreReadable (zoneReport splitRows).records ∧
      ∃ text text', (jobsRequest true .greater).mismatchText (zoneReport lateRows) = .ok text ∧
        (jobsRequest true .greater).mismatchText (zoneReport splitRows) = .ok text' ∧
        text ≠ text' := by
  have hrecords : (zoneReport lateRows).records ≠ [] := nofun
  have hfaults : List.Forall₂ LabelRecord.SameFaults (zoneReport lateRows).records
      (zoneReport splitRows).records := .cons ⟨rfl, rfl⟩ (.cons ⟨rfl, rfl⟩ .nil)
  have hreadable : Explanation.AreReadable (zoneReport lateRows).records :=
    areReadable_zoneReport (by decide) (by decide)
  have hreadable' : Explanation.AreReadable (zoneReport splitRows).records :=
    areReadable_zoneReport (by decide) (by decide)
  have hlabels : (zoneReport lateRows).records.map LabelRecord.labels ≠
      (zoneReport splitRows).records.map LabelRecord.labels := by
    simp [zoneReport, lateRows, splitRows]
  have htext : (jobsRequest true .greater).mismatchText (zoneReport lateRows) =
      .ok ("labels did not match:\n(queue=out)\n  missing names: \"zone\"\n" ++
        "\n(queue=in, late)\n  missing names: \"zone\"\n") := by
    decide +kernel
  obtain ⟨hdiffers, -⟩ := mismatchText_ne_of_labels (r := jobsRequest true .greater) rfl rfl rfl
    hrecords hfaults hreadable hreadable' hlabels
  obtain ⟨text', htext', hne⟩ := hdiffers _ htext
  exact ⟨rfl, hrecords, hreadable, hreadable', _, text', htext, htext', hne⟩

structure Forges (rows rows' : List (List (String × String))) : Prop where
  faults : List.Forall₂ LabelRecord.SameFaults (zoneReport rows).records (zoneReport rows').records
  labels : (zoneReport rows).records.map LabelRecord.labels ≠
    (zoneReport rows').records.map LabelRecord.labels
  text : (jobsRequest true .greater).mismatchText (zoneReport rows) =
    (jobsRequest true .greater).mismatchText (zoneReport rows')

theorem forges_by_separators :
    Forges [[("a", "b, c=d")]] [[("a", "b"), ("c", "d")]] ∧
      Forges [[("a=b", "c")]] [[("a", "b=c")]] ∧
      Forges [[("a", "b"), ("x, c", "d")]] [[("a", "b, x"), ("c", "d")]] ∧
      Forges [[("a", "b)\n  missing names: \"zone\"\n\n(a=b")], [("a", "c")]]
        [[("a", "b")], [("a", "b)\n  missing names: \"zone\"\n\n(a=c")]] := by
  refine ⟨⟨.cons ⟨rfl, rfl⟩ .nil, ?_, ?_⟩, ⟨.cons ⟨rfl, rfl⟩ .nil, ?_, ?_⟩,
    ⟨.cons ⟨rfl, rfl⟩ .nil, ?_, ?_⟩, ⟨.cons ⟨rfl, rfl⟩ (.cons ⟨rfl, rfl⟩ .nil), ?_, ?_⟩⟩
  . simp [zoneReport]
  . decide +kernel
  . simp [zoneReport]
  . decide +kernel
  . simp [zoneReport]
  . decide +kernel
  . simp [zoneReport]
  . decide +kernel

end Request

end MetricCheck
