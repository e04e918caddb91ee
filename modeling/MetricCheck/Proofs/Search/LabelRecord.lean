import Mathlib.Data.List.Perm.Basic
import MetricCheck.Proofs.Search.Labels

/-!
This module contains what the record of a check of labels says, spelled out for every rule and every
label: which names are missing, which combinations of a label and a rule are at odds, and when the
labels fit. The names that are missing come out the same if each label strikes off the names that
accept it by their identity, so it makes no difference how often a name is shared by rules.
-/

namespace MetricCheck

/--
A record says all that is wrong with a row of labels and nothing else. The names of the rules that
accept no label name stand in it in the order of the rules; the values that are rejected stand in it
in the order of the labels, and for each label in that of the rules.
-/
structure LabelRecord.IsExact (rules : List LabelRule) (labels : List (Value × Value))
    (record : LabelRecord) : Prop where
  missing : record.missing =
    (rules.filter fun rule => ∀ label ∈ labels, rule.name.accepts label.1 = .ok false).map
      LabelRule.name
  mismatches : record.mismatches =
    ((labels.product rules).filter fun (label, rule) =>
      rule.name.accepts label.1 = .ok true ∧ rule.value.accepts label.2 = .ok false).map
        fun (label, rule) => ⟨rule.name, rule.value, label.2⟩
  isFullMatch_iff : record.isFullMatch = true ↔ ∀ rule ∈ rules,
    (∃ label ∈ labels, rule.name.accepts label.1 = .ok true) ∧
      ¬∃ label ∈ labels, rule.name.accepts label.1 = .ok true ∧
        rule.value.accepts label.2 = .ok false

namespace LabelRule

variable {rule : LabelRule} {rules : List LabelRule} {label : Value × Value}
  {labels : List (Value × Value)}

theorem not_concerns_iff (h : rule.Decides label) :
    ¬rule.Concerns label ↔ rule.name.accepts label.1 = .ok false := by
  obtain ⟨⟨accepted, haccepted⟩, -⟩ := h
  simp [Concerns, haccepted]

theorem concerns_and_not_allows_iff (h : rule.Decides label) :
    rule.Concerns label ∧ ¬rule.Allows label ↔
      rule.name.accepts label.1 = .ok true ∧ rule.value.accepts label.2 = .ok false := by
  apply and_congr_right
  intro hconcerns
  obtain ⟨accepted, haccepted⟩ := h.2 hconcerns
  simp [Allows, haccepted]

theorem missing_eq (h : ∀ label ∈ labels, ∀ rule ∈ rules, rule.Decides label) :
    missing rules labels =
      (rules.filter fun rule => ∀ label ∈ labels, rule.name.accepts label.1 = .ok false).map
        LabelRule.name := by
  rw [missing, List.filter_congr]
  intro rule hrule
  rw [decide_eq_decide]
  exact forall₂_congr fun label hlabel => not_concerns_iff (h label hlabel rule hrule)

theorem mismatchesAt_eq (h : ∀ rule ∈ rules, rule.Decides label) :
    mismatchesAt rules label =
      ((rules.map (Prod.mk label)).filter fun (label, rule) =>
        rule.name.accepts label.1 = .ok true ∧ rule.value.accepts label.2 = .ok false).map
          fun (label, rule) => ⟨rule.name, rule.value, label.2⟩ := by
  rw [mismatchesAt, List.filter_map, List.map_map, List.filter_congr]
  . rfl
  . intro rule hrule
    exact decide_eq_decide.mpr (concerns_and_not_allows_iff (h rule hrule))

theorem flatMap_mismatchesAt_eq (h : ∀ label ∈ labels, ∀ rule ∈ rules, rule.Decides label) :
    labels.flatMap (mismatchesAt rules) =
      ((labels.product rules).filter fun (label, rule) =>
        rule.name.accepts label.1 = .ok true ∧ rule.value.accepts label.2 = .ok false).map
          fun (label, rule) => ⟨rule.name, rule.value, label.2⟩ := by
  rw [List.product, List.filter_flatMap, List.map_flatMap]
  exact List.flatMap_congr fun label hlabel => mismatchesAt_eq (h label hlabel)

theorem keptBy_iff (h : ∀ label ∈ labels, rule.Decides label) :
    rule.KeptBy labels ↔ (∃ label ∈ labels, rule.name.accepts label.1 = .ok true) ∧
      ¬∃ label ∈ labels, rule.name.accepts label.1 = .ok true ∧
        rule.value.accepts label.2 = .ok false := by
  apply and_congr_right
  intro _
  push Not
  refine forall₂_congr fun label hlabel => ?_
  have hiff := concerns_and_not_allows_iff (h label hlabel)
  rw [← not_iff_not] at hiff
  simpa using hiff

end LabelRule

theorem checkLabels_isExact {rules : List LabelRule} {labels : List (Value × Value)}
    (h : ∀ label ∈ labels, ∀ rule ∈ rules, rule.Decides label) :
    ∃ record, checkLabels rules labels = .ok record ∧ record.IsExact rules labels := by
  refine ⟨_, checkLabels_eq h, LabelRule.missing_eq h, LabelRule.flatMap_mismatchesAt_eq h, ?_⟩
  rw [LabelRecord.isFullMatch_iff]
  exact forall₂_congr fun rule hrule =>
    LabelRule.keptBy_iff fun label hlabel => h label hlabel rule hrule

namespace LabelRecord

variable {rules rules' : List LabelRule} {labels labels' : List (Value × Value)}
  {record record' : LabelRecord}

theorem IsExact.missing_perm (h : record.IsExact rules labels) (h' : record'.IsExact rules' labels')
    (hrules : rules'.Perm rules) (hlabels : labels'.Perm labels) :
    record'.missing.Perm record.missing := by
  rw [h.missing, h'.missing]
  simp only [hlabels.mem_iff]
  exact (hrules.filter _).map _

theorem IsExact.mismatches_perm (h : record.IsExact rules labels)
    (h' : record'.IsExact rules' labels') (hrules : rules'.Perm rules)
    (hlabels : labels'.Perm labels) : record'.mismatches.Perm record.mismatches := by
  rw [h.mismatches, h'.mismatches]
  exact ((hlabels.product hrules).filter _).map _

theorem IsExact.isFullMatch_eq (h : record.IsExact rules labels)
    (h' : record'.IsExact rules' labels') (hrules : rules'.Perm rules)
    (hlabels : labels'.Perm labels) : record'.isFullMatch = record.isFullMatch := by
  rw [Bool.eq_iff_iff, h.isFullMatch_iff, h'.isFullMatch_iff]
  simp only [hrules.mem_iff, hlabels.mem_iff]

end LabelRecord

section Identity

def SharesNames (entries : List (Nat × LabelRule)) : Prop :=
  ∀ a ∈ entries, ∀ b ∈ entries, a.1 = b.1 → a.2.name = b.2.name

def strikeOff (entries missing : List (Nat × LabelRule)) (label : Value × Value) :
    List (Nat × LabelRule) :=
  entries.foldl (fun missing entry =>
    if entry.2.Concerns label then missing.filter fun other => other.1 ≠ entry.1 else missing)
    missing

def notStruckOff (entries : List (Nat × LabelRule)) (labels : List (Value × Value)) :
    List Predicate :=
  (labels.foldl (strikeOff entries) entries).map fun entry => entry.2.name

variable {entries : List (Nat × LabelRule)}

theorem strikeOff_eq_filter (entries missing : List (Nat × LabelRule)) (label : Value × Value) :
    strikeOff entries missing label = missing.filter fun other =>
      ∀ entry ∈ entries, entry.2.Concerns label → other.1 ≠ entry.1 := by
  unfold strikeOff
  induction entries generalizing missing with
  | nil => simp
  | cons entry rest ih =>
    rw [List.foldl_cons, ih]
    split
    next hconcerns =>
      rw [List.filter_filter]
      refine List.filter_congr fun other _ => ?_
      rw [← Bool.decide_and, decide_eq_decide, List.forall_mem_cons, imp_iff_right hconcerns,
        and_comm]
    next hconcerns =>
      refine List.filter_congr fun other _ => ?_
      rw [decide_eq_decide, List.forall_mem_cons, and_iff_right (absurd · hconcerns)]

theorem foldl_strikeOff_eq_filter (missing : List (Nat × LabelRule))
    (labels : List (Value × Value)) :
    labels.foldl (strikeOff entries) missing = missing.filter fun other =>
      ∀ label ∈ labels, ∀ entry ∈ entries, entry.2.Concerns label → other.1 ≠ entry.1 := by
  induction labels generalizing missing with
  | nil => simp
  | cons label rest ih =>
    rw [List.foldl_cons, ih, strikeOff_eq_filter, List.filter_filter]
    refine List.filter_congr fun other _ => ?_
    rw [← Bool.decide_and, decide_eq_decide, List.forall_mem_cons, and_comm]

-- A name is struck off exactly if it accepts a label, whichever rule it is struck off for.
theorem notStruckOff_eq_missing (h : SharesNames entries) (labels : List (Value × Value)) :
    notStruckOff entries labels = LabelRule.missing (entries.map Prod.snd) labels := by
  rw [notStruckOff, foldl_strikeOff_eq_filter, LabelRule.missing, List.filter_map, List.map_map]
  rw [List.filter_congr]
  . rfl
  . intro other hother
    rw [Function.comp_apply, decide_eq_decide]
    refine forall₂_congr fun label _ => ?_
    constructor
    . intro hkept hconcerns
      exact hkept other hother hconcerns rfl
    . intro hother' entry hentry hconcerns hsame
      apply hother'
      rw [LabelRule.Concerns, h other hother entry hentry hsame]
      exact hconcerns

end Identity

theorem checkLabels_exact {rules : List LabelRule} {labels : List (Value × Value)}
    (h : ∀ label ∈ labels, ∀ rule ∈ rules, rule.Decides label) :
    ∃ record, checkLabels rules labels = .ok record ∧ record.IsExact rules labels ∧
      (∀ entries, entries.map Prod.snd = rules → SharesNames entries →
        record.missing = notStruckOff entries labels) ∧
      ∀ rules' labels', rules'.Perm rules → labels'.Perm labels →
        ∃ record', checkLabels rules' labels' = .ok record' ∧
          record'.missing.Perm record.missing ∧ record'.mismatches.Perm record.mismatches ∧
          record'.isFullMatch = record.isFullMatch := by
  obtain ⟨record, hrecord, hexact⟩ := checkLabels_isExact h
  refine ⟨record, hrecord, hexact, ?_, ?_⟩
  . intro entries hentries hshares
    rw [notStruckOff_eq_missing hshares, hentries, hexact.missing, LabelRule.missing_eq h]
  . intro rules' labels' hrules hlabels
    have h' : ∀ label ∈ labels', ∀ rule ∈ rules', rule.Decides label :=
      fun label hlabel rule hrule =>
        h label (hlabels.mem_iff.mp hlabel) rule (hrules.mem_iff.mp hrule)
    obtain ⟨record', hrecord', hexact'⟩ := checkLabels_isExact h'
    exact ⟨record', hrecord', hexact.missing_perm hexact' hrules hlabels,
      hexact.mismatches_perm hexact' hrules hlabels, hexact.isFullMatch_eq hexact' hrules hlabels⟩

def queueEntries : List (Nat × LabelRule) :=
  [(0, ⟨0, .textual .startingWith "q", .equalTo (.text "in")⟩),
    (0, ⟨0, .textual .startingWith "q", .textual .endingWith "t"⟩),
    (1, ⟨1, .equalTo (.text "state"), .anything⟩)]

def queueLabels : List (Value × Value) :=
  [(.text "queue", .text "out"), (.text "quota", .text "in")]

theorem decides_queueEntries :
    ∀ label ∈ queueLabels, ∀ rule ∈ queueEntries.map Prod.snd, rule.Decides label := by
  simp [queueLabels, queueEntries, LabelRule.Decides, Predicate.Decides, Predicate.accepts,
    Value.text?, TextRelation.holds]

theorem sharesNames_queueEntries : SharesNames queueEntries := by
  simp [SharesNames, queueEntries]

theorem checkLabels_exact_queueLabels :
    (∀ label ∈ queueLabels, ∀ rule ∈ queueEntries.map Prod.snd, rule.Decides label) ∧
      ∃ record, checkLabels (queueEntries.map Prod.snd) queueLabels = .ok record ∧
        SharesNames queueEntries ∧ record.missing = notStruckOff queueEntries queueLabels ∧
        record.missing = [.equalTo (.text "state")] ∧
        record.mismatches =
          [⟨.textual .startingWith "q", .equalTo (.text "in"), .text "out"⟩,
            ⟨.textual .startingWith "q", .textual .endingWith "t", .text "in"⟩] := by
  obtain ⟨record, hrecord, hexact, hidentity, -⟩ := checkLabels_exact decides_queueEntries
  refine ⟨decides_queueEntries, record, hrecord, sharesNames_queueEntries,
    hidentity queueEntries rfl sharesNames_queueEntries, ?_, ?_⟩
  . rw [hexact.missing]
    rfl
  . rw [hexact.mismatches]
    rfl

end MetricCheck
