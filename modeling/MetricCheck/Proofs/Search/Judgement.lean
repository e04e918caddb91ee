import MetricCheck.Proofs.Search.Labels
import MetricCheck.Search.Basic

/-!
This module contains what a request asks of a single sample, said without the search: its name, its
labels and its value. Judging a sample finds out which of them fit.
-/

namespace MetricCheck

theorem Value.putEntries_of_keys {added : List (Value × Value)} (entries : List (Value × Value))
    (h : ∀ entry ∈ added, entry.1.isKey = true) :
    ∃ all, Value.putEntries entries added = .ok all := by
  induction added generalizing entries with
  | nil => exact ⟨entries, rfl⟩
  | cons entry rest ih =>
    obtain ⟨all, hall⟩ := ih (Value.putEntry entry.1 entry.2 entries)
      (fun other hother => h other (by simp [hother]))
    refine ⟨all, ?_⟩
    rw [← hall]
    simp [putEntries, h entry (by simp), bind, Except.bind]

namespace Request

def Covers (r : Request) (s : SampleRecord) : Prop :=
  ∃ name, s.name = .ok name ∧ name.startsWith r.name = .ok true

def FitsLabels (r : Request) (s : SampleRecord) : Prop :=
  ∀ rule ∈ r.rules, ∃ labels, s.labels = .ok labels ∧ rule.KeptBy labels

def AcceptsValue (r : Request) (s : SampleRecord) : Prop :=
  ∀ rule ∈ r.valueRule, ∃ value, s.observed = .ok value ∧ rule.accepts value = .ok true

def RejectsValue (r : Request) (s : SampleRecord) : Prop :=
  ∃ rule ∈ r.valueRule, ∃ value, s.observed = .ok value ∧ rule.accepts value = .ok false

def Fits (r : Request) (s : SampleRecord) : Prop :=
  r.Covers s ∧ r.FitsLabels s

def Accepts (r : Request) (s : SampleRecord) : Prop :=
  r.Fits s ∧ r.AcceptsValue s

/--
A request decides a sample if what it has to look at is there and no predicate fails on it. It looks
at the labels only if the name fits, and at the value only if the labels fit too.
-/
structure Decides (r : Request) (s : SampleRecord) : Prop where
  name : ∃ name, s.name = .ok name ∧ name.isKey = true ∧ ∃ b, name.startsWith r.name = .ok b
  labels : r.isConstrained = true → r.Covers s → ∃ labels, s.labels = .ok labels ∧
    ∀ label ∈ labels, label.1.isKey = true ∧ ∀ rule ∈ r.rules, rule.Decides label
  value : r.isConstrained = true → r.Fits s → ∃ value, s.observed = .ok value ∧
    ∀ rule ∈ r.valueRule, rule.Decides value

inductive Judges (r : Request) (s : SampleRecord) : Finding → Prop where
  | otherName : ¬r.Covers s → Judges r s .otherName
  | named : r.isConstrained = false → r.Covers s → Judges r s .named
  | labelled {value : Value} {accepted : Bool} :
      r.isConstrained = true → r.Fits s → s.observed = .ok value →
      (accepted = true ↔ r.AcceptsValue s) → Judges r s (.labelled value (.ok accepted))
  | mislabelled {labels : List (Value × Value)} {record : LabelRecord} :
      r.Covers s → ¬r.FitsLabels s → s.labels = .ok labels →
      Value.putEntries [] labels = .ok record.labels →
      record.missing = LabelRule.missing r.rules labels →
      record.mismatches = labels.flatMap (LabelRule.mismatchesAt r.rules) →
      Judges r s (.mislabelled record)

instance {α : Type} (outcome : Except Fault α) (p : α → Prop) [DecidablePred p] :
    Decidable (∃ a, outcome = .ok a ∧ p a) :=
  match outcome with
  | .ok a => decidable_of_iff (p a) (by simp)
  | .error _ => isFalse (by simp)

instance (r : Request) (s : SampleRecord) : Decidable (r.Covers s) :=
  inferInstanceAs (Decidable (∃ name, s.name = .ok name ∧ name.startsWith r.name = .ok true))

instance (r : Request) (s : SampleRecord) : Decidable (r.FitsLabels s) :=
  inferInstanceAs (Decidable (∀ rule ∈ r.rules, ∃ labels, s.labels = .ok labels ∧
    rule.KeptBy labels))

instance (r : Request) (s : SampleRecord) : Decidable (r.AcceptsValue s) :=
  decidable_of_iff (∀ rule ∈ r.valueRule.toList, ∃ value, s.observed = .ok value ∧
    rule.accepts value = .ok true) (by simp [AcceptsValue])

instance (r : Request) (s : SampleRecord) : Decidable (r.Fits s) :=
  inferInstanceAs (Decidable (_ ∧ _))

instance (r : Request) (s : SampleRecord) : Decidable (r.Accepts s) :=
  inferInstanceAs (Decidable (_ ∧ _))

variable {r : Request} {s : SampleRecord}

theorem rules_of_unconstrained (h : r.isConstrained = false) :
    r.rules = [] ∧ r.valueRule = none := by
  unfold isConstrained at h
  simp only [Bool.or_eq_false_iff, Option.isSome_eq_false_iff, Bool.not_eq_false',
    List.isEmpty_iff, Option.isNone_iff_eq_none] at h
  exact ⟨h.2, h.1⟩

theorem fits_of_unconstrained (h : r.isConstrained = false) : r.Fits s ↔ r.Covers s := by
  simp [Fits, FitsLabels, rules_of_unconstrained h]

theorem acceptsValue_of_no_rule (h : r.valueRule = none) : r.AcceptsValue s := by
  simp [AcceptsValue, h]

theorem fitsLabels_iff {labels : List (Value × Value)} (h : s.labels = .ok labels) :
    r.FitsLabels s ↔ ∀ rule ∈ r.rules, rule.KeptBy labels := by
  simp [FitsLabels, h]

theorem covers_iff {name : Value} (h : s.name = .ok name) :
    r.Covers s ↔ name.startsWith r.name = .ok true := by
  simp [Covers, h]

theorem acceptsValue_eq {value : Value} (hvalue : s.observed = .ok value)
    (hdecides : ∀ rule ∈ r.valueRule, rule.Decides value) :
    ∃ accepted, r.acceptsValue value = .ok accepted ∧ (accepted = true ↔ r.AcceptsValue s) := by
  unfold acceptsValue
  cases hrule : r.valueRule with
  | none => exact ⟨true, rfl, by simp [AcceptsValue, hrule]⟩
  | some rule =>
    obtain ⟨accepted, haccepted⟩ := hdecides rule hrule
    refine ⟨accepted, haccepted, ?_⟩
    simp [AcceptsValue, hrule, hvalue, haccepted]

theorem rejectsValue_iff (h : r.Decides s) (hfits : r.Fits s) (hrule : r.valueRule.isSome = true) :
    r.RejectsValue s ↔ ¬r.AcceptsValue s := by
  obtain ⟨rule, hrule⟩ := Option.isSome_iff_exists.mp hrule
  obtain ⟨value, hvalue, hdecides⟩ := h.value (by simp [isConstrained, hrule]) hfits
  obtain ⟨accepted, haccepted⟩ := hdecides rule hrule
  simp [RejectsValue, AcceptsValue, hrule, hvalue, haccepted]

theorem judge_of_decides (h : r.Decides s) : ∃ finding, r.judge s = .ok finding ∧
    r.Judges s finding := by
  obtain ⟨name, hname, -, covered, hcovered⟩ := h.name
  have hcovers := covers_iff (r := r) hname
  rw [hcovered] at hcovers
  cases covered with
  | false =>
    refine ⟨.otherName, ?_, .otherName (by simp [hcovers])⟩
    simp [judge, hname, hcovered, bind, Except.bind, pure, Except.pure]
  | true =>
    replace hcovers : r.Covers s := by simp [hcovers]
    cases hconstrained : r.isConstrained with
    | false =>
      refine ⟨.named, ?_, .named hconstrained hcovers⟩
      simp [judge, hname, hcovered, hconstrained, bind, Except.bind, pure, Except.pure]
    | true =>
      obtain ⟨labels, hlabels, hdecides⟩ := h.labels hconstrained hcovers
      have hcheck := checkLabels_eq (fun label hlabel => (hdecides label hlabel).2)
      have hfull := LabelRecord.isFullMatch_iff r.rules labels
      rw [← fitsLabels_iff hlabels] at hfull
      by_cases hfits : r.FitsLabels s
      . obtain ⟨value, hvalue, hvalueRule⟩ := h.value hconstrained ⟨hcovers, hfits⟩
        obtain ⟨accepted, haccepted, hiff⟩ := acceptsValue_eq hvalue hvalueRule
        refine ⟨.labelled value (.ok accepted), ?_,
          .labelled hconstrained ⟨hcovers, hfits⟩ hvalue hiff⟩
        simp [judge, hname, hcovered, hconstrained, hlabels, hcheck, hfull.mpr hfits, hvalue,
          haccepted, bind, Except.bind, pure, Except.pure]
      . obtain ⟨entries, hentries⟩ :=
          Value.putEntries_of_keys [] (fun label hlabel => (hdecides label hlabel).1)
        refine ⟨.mislabelled ⟨entries, LabelRule.missing r.rules labels,
          labels.flatMap (LabelRule.mismatchesAt r.rules)⟩, ?_,
          .mislabelled hcovers hfits hlabels hentries rfl rfl⟩
        rw [← hfull, Bool.not_eq_true] at hfits
        simp [judge, hname, hcovered, hconstrained, hlabels, hcheck, hfits, hentries, bind,
          Except.bind, pure, Except.pure]

end Request

end MetricCheck
