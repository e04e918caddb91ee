import MetricCheck.Proofs.Sample.Adaptation
import MetricCheck.Proofs.Value.Entries

/-!
This module contains how the labels of a sample turn into a mapping and back. A mapping has every
label name once, so a row of labels can be read back from it if no name repeats. Then it also makes
no difference whether a record has its labels in two rows or as a mapping.
-/

namespace MetricCheck

namespace Value

theorem toDouble_text {s : String} {number : Double} (h : Double.ofText? s = some number) :
    (text s).toDouble = .ok number := by
  rw [toDouble, h]

theorem same_double_self {d : Double} (hd : d ≠ .nan) :
    (double d).same (.double d) = true := by
  cases d with
  | nan => contradiction
  | _ => simp [same, parts?, real?, number?, Number.same, Number.place?]

end Value

namespace Sample

/--
Entries hold labels by name: every name once, in the order and the spelling of the first places, and
each with the value of the last label of that name.
-/
structure HoldsByName (labels entries : List (Value × Value)) : Prop where
  differ : Value.KeysDiffer entries
  names : entries.map Prod.fst = (labels.map Prod.fst).eraseDupsBy fun a b => b.same a
  last : ∀ entry ∈ entries, ∃ before label after, labels = before ++ label :: after ∧
    entry.1.same label.1 = true ∧ entry.2 = label.2 ∧
    ∀ later ∈ after, entry.1.same later.1 = false

variable {name value : Value} {labels entries : List (Value × Value)} {s : Sample}

theorem holdsByName_nil : HoldsByName [] [] :=
  ⟨.nil, rfl, nofun⟩

theorem HoldsByName.putEntry (h : HoldsByName labels entries) (hname : name.FindsItself)
    (value : Value) :
    HoldsByName (labels ++ [(name, value)]) (Value.putEntry name value entries) where
  differ := h.differ.putEntry name value
  names := by
    rw [Value.map_fst_putEntry, h.names, List.map_append, List.map_singleton,
      Value.eraseDupsBy_concat]
  last := by
    intro entry hmem
    cases Value.of_mem_putEntry hname h.differ hmem with
    | inl hput => exact ⟨labels, (name, value), [], rfl, hput.1, hput.2, nofun⟩
    | inr hkept =>
      obtain ⟨before, label, after, rfl, hsame, hvalue, hafter⟩ := h.last entry hkept.1
      refine ⟨before, label, after ++ [(name, value)], by simp, hsame, hvalue, ?_⟩
      rw [List.forall_mem_append, List.forall_mem_singleton]
      exact ⟨hafter, hkept.2⟩

theorem exists_labelMap (hnames : ∀ label ∈ s.labels, label.1.FindsItself) :
    ∃ entries, s.labelMap = .ok entries ∧ HoldsByName s.labels entries := by
  unfold labelMap
  generalize s.labels = labels at hnames
  -- The mapping built so far holds the labels before the last one.
  induction labels using List.reverseRecOn with
  | nil => exact ⟨[], rfl, holdsByName_nil⟩
  | append_singleton labels label ih =>
    obtain ⟨entries, hput, hholds⟩ := ih fun other hother => hnames other (by simp [hother])
    have hname := hnames label (by simp)
    refine ⟨_, ?_, hholds.putEntry hname label.2⟩
    rw [Value.putEntries_concat, hput]
    simp [hname.isKey, bind, Except.bind]

-- The truth value equals the number `1`, which came first.
example : (Sample.mk .null [(.int 1, .text "a"), (.null, .text "b"), (.bool true, .text "c")]
    .null).labelMap = .ok [(.int 1, .text "c"), (.null, .text "b")] := by
  rfl

theorem mapM_textLabel (labels : List (Value × Value)) :
    labels.mapM textLabel = (do
      return (labels.map Prod.fst).zip (← (labels.map Prod.snd).mapM valueText)) := by
  induction labels with
  | nil => rfl
  | cons label rest ih =>
    rw [List.mapM_cons, ih, List.map_cons, List.map_cons, List.mapM_cons, textLabel, valueText]
    cases label.2.asText with
    | error fault => rfl
    | ok text =>
      cases (rest.map Prod.snd).mapM valueText with
      | error fault => rfl
      | ok texts => rfl

theorem mapM_textLabel_of_texts (htexts : ∀ label ∈ labels, ∃ t, label.2 = .text t) :
    labels.mapM textLabel = .ok labels := by
  induction labels with
  | nil => rfl
  | cons label rest ih =>
    rw [List.forall_mem_cons] at htexts
    obtain ⟨name, value⟩ := label
    obtain ⟨⟨t, rfl⟩, hrest⟩ := htexts
    rw [List.mapM_cons, ih hrest]
    rfl

theorem length_of_mapM_valueText {vs texts : List Value} (h : vs.mapM valueText = .ok texts) :
    texts.length = vs.length := by
  obtain ⟨left, hturn⟩ := InTurn.of_mapM valueText vs
  rw [h] at hturn
  exact hturn.of_ok.1

theorem isName_of_mapM_valueText {vs texts : List Value} (h : vs.mapM valueText = .ok texts) :
    ∀ t ∈ texts, t.IsName := by
  induction vs generalizing texts with
  | nil =>
    cases h
    nofun
  | cons v rest ih =>
    rw [List.mapM_cons] at h
    obtain ⟨t, ht, h⟩ := Except.of_bind_eq_ok h
    obtain ⟨ts, hts, h⟩ := Except.of_bind_eq_ok h
    cases h
    obtain ⟨text, -, htext⟩ := Except.of_bind_eq_ok ht
    cases htext
    rw [List.forall_mem_cons]
    exact ⟨.text text, ih hts⟩

theorem ofLabels_dictionary (name value : Value) (labels : List (Value × Value)) :
    ofLabels name (.dictionary labels) value = (do
      let labels ← labels.mapM textLabel
      return ⟨name, labels, .double (← value.toDouble)⟩) := by
  cases labels with
  | nil => rfl
  | cons label rest => rfl

theorem same_self {d : Double} (hname : name.same name = true)
    (hlabels : ∀ label ∈ labels, label.1.FindsItself ∧ label.2.IsName) (hd : d ≠ .nan) :
    (Sample.mk name labels (.double d)).same ⟨name, labels, .double d⟩ = true := by
  have hlabelNames : ∀ v ∈ labels.map Prod.fst, v.same v = true := by
    rw [List.forall_mem_map]
    exact fun label hlabel => (hlabels label hlabel).1.same
  have hlabelValues : ∀ v ∈ labels.map Prod.snd, v.same v = true := by
    rw [List.forall_mem_map]
    exact fun label hlabel => (hlabels label hlabel).2.findsItself.same
  simp [same, labelNames, labelValues, hname, Value.sameAll_self hlabelNames,
    Value.sameAll_self hlabelValues, Value.same_double_self hd]

end Sample

namespace SampleRecord

def ofRows (name : Value) (labels : List (Value × Value)) (value : Value) : SampleRecord :=
  .fields ⟨some name, some (labels.map Prod.fst), some (labels.map Prod.snd), none, some value⟩

def ofMapping (name mapping value : Value) : SampleRecord :=
  .fields ⟨some name, none, none, some mapping, some value⟩

variable {name value : Value} {labels : List (Value × Value)} {s : Sample}

theorem toSample_ofRows (name value : Value) (labels : List (Value × Value)) :
    (ofRows name labels value).toSample = (do
      let texts ← (labels.map Prod.snd).mapM Sample.valueText
      let number ← value.toDouble
      Sample.ofColumns name (labels.map Prod.fst) texts (.double number)) := rfl

theorem toSample_ofMapping (name mapping value : Value) :
    (ofMapping name mapping value).toSample = Sample.ofLabels name mapping value := rfl

theorem toSample_ofRows_eq (name value : Value) (labels : List (Value × Value)) :
    (ofRows name labels value).toSample = (ofMapping name (.dictionary labels) value).toSample := by
  rw [toSample_ofRows, toSample_ofMapping, Sample.ofLabels_dictionary, Sample.mapM_textLabel]
  cases htexts : (labels.map Prod.snd).mapM Sample.valueText with
  | error fault => rfl
  | ok texts =>
    have hlength := Sample.length_of_mapM_valueText htexts
    rw [List.length_map] at hlength
    cases hnumber : value.toDouble with
    | error fault => rfl
    | ok number => simp [Sample.ofColumns, hlength, bind, Except.bind, pure, Except.pure]

theorem exists_of_toSample_ofRows (h : (ofRows name labels value).toSample = .ok s) :
    ∃ texts number, (labels.map Prod.snd).mapM Sample.valueText = .ok texts ∧
      value.toDouble = .ok number ∧
      s = ⟨name, (labels.map Prod.fst).zip texts, .double number⟩ := by
  rw [toSample_ofRows_eq, toSample_ofMapping, Sample.ofLabels_dictionary,
    Sample.mapM_textLabel] at h
  obtain ⟨pairs, hpairs, h⟩ := Except.of_bind_eq_ok h
  obtain ⟨texts, htexts, hzip⟩ := Except.of_bind_eq_ok hpairs
  obtain ⟨number, hnumber, h⟩ := Except.of_bind_eq_ok h
  cases h
  cases hzip
  exact ⟨texts, number, htexts, hnumber, rfl⟩

theorem same_self_of_toSample_ofRows (hnames : ∀ label ∈ labels, label.1.FindsItself)
    (h : (ofRows name labels value).toSample = .ok s) (hname : name.same name = true)
    (hnumber : value.toDouble ≠ .ok .nan) : s.same s = true := by
  obtain ⟨texts, number, htexts, hvalue, rfl⟩ := exists_of_toSample_ofRows h
  apply Sample.same_self hname
  . intro label hlabel
    obtain ⟨hname, htext⟩ := List.of_mem_zip hlabel
    obtain ⟨other, hother, heq⟩ := List.mem_map.mp hname
    exact ⟨heq ▸ hnames other hother, Sample.isName_of_mapM_valueText htexts _ htext⟩
  . rintro rfl
    exact hnumber hvalue

theorem labels_round_trip (name value : Value)
    (hnames : ∀ label ∈ labels, label.1.FindsItself) :
    (∃ entries, (Sample.mk name labels value).labelMap = .ok entries ∧
      Sample.HoldsByName labels entries) ∧
    (Value.KeysDiffer labels →
      (∃ mapping, Value.ofEntries labels = .ok mapping ∧
        (ofRows name labels value).toSample = (ofMapping name mapping value).toSample ∧
        ∀ s t, (ofRows name labels value).toSample = .ok s →
          (ofMapping name mapping value).toSample = .ok t →
          name.same name = true → value.toDouble ≠ .ok .nan → s.same t = true) ∧
      ∀ number, value = .double number → (∀ label ∈ labels, ∃ text, label.2 = .text text) →
        ∃ entries s, (Sample.mk name labels value).labelMap = .ok entries ∧
          Sample.ofLabels name (.dictionary entries) value = .ok s ∧ s = ⟨name, labels, value⟩ ∧
          (name.same name = true → number ≠ .nan → s.same ⟨name, labels, value⟩ = true)) := by
  refine ⟨Sample.exists_labelMap hnames, ?_⟩
  intro hdiffer
  have hkeys : ∀ label ∈ labels, label.1.isKey = true :=
    fun label hlabel => (hnames label hlabel).isKey
  have hput := Value.putEntries_of_keysDiffer hkeys hdiffer
  constructor
  . refine ⟨.dictionary labels, ?_, toSample_ofRows_eq name value labels, ?_⟩
    . rw [Value.ofEntries, hput]
      rfl
    . intro s t hs ht hname hnumber
      rw [← toSample_ofRows_eq, hs, Except.ok.injEq] at ht
      rw [← ht]
      exact same_self_of_toSample_ofRows hnames hs hname hnumber
  . rintro number rfl htexts
    refine ⟨labels, ⟨name, labels, .double number⟩, hput, ?_, rfl, ?_⟩
    . rw [Sample.ofLabels_dictionary, Sample.mapM_textLabel_of_texts htexts]
      rfl
    . intro hname hnumber
      apply Sample.same_self hname _ hnumber
      intro label hlabel
      obtain ⟨text, htext⟩ := htexts label hlabel
      exact ⟨hnames label hlabel, htext ▸ .text text⟩

def zoneLabels (zone : Value) : List (Value × Value) :=
  [(.text "queue", .text "in"), (.text "zone", zone)]

theorem isName_zoneLabels (zone : Value) : ∀ label ∈ zoneLabels zone, label.1.IsName := by
  simp only [zoneLabels, List.forall_mem_cons]
  exact ⟨.text "queue", .text "zone", nofun⟩

theorem findsItself_zoneLabels (zone : Value) :
    ∀ label ∈ zoneLabels zone, label.1.FindsItself :=
  fun label hlabel => (isName_zoneLabels zone label hlabel).findsItself

theorem keysDiffer_zoneLabels (zone : Value) : Value.KeysDiffer (zoneLabels zone) := by
  rw [Value.keysDiffer_iff_nodup (isName_zoneLabels zone)]
  simp [zoneLabels]

theorem toDouble_text_one : (Value.text "1").toDouble = .ok (.ofDecimal false 1 0) :=
  Value.toDouble_text (by decide +kernel)

theorem labels_round_trip_zoneLabels :
    (∀ zone, (∀ label ∈ zoneLabels zone, label.1.FindsItself) ∧
      Value.KeysDiffer (zoneLabels zone)) ∧
    (∃ mapping s t, Value.ofEntries (zoneLabels (.int 3)) = .ok mapping ∧
      (ofRows (.text "jobs_total") (zoneLabels (.int 3)) (.text "1")).toSample = .ok s ∧
      (ofMapping (.text "jobs_total") mapping (.text "1")).toSample = .ok t ∧ s.same t = true) ∧
    (∃ entries s, (Sample.mk (.text "jobs_total") (zoneLabels (.text "3"))
        (.double (.ofDecimal false 1 0))).labelMap = .ok entries ∧
      Sample.ofLabels (.text "jobs_total") (.dictionary entries)
        (.double (.ofDecimal false 1 0)) = .ok s ∧
      s.same ⟨.text "jobs_total", zoneLabels (.text "3"), .double (.ofDecimal false 1 0)⟩ =
        true) ∧
    ∃ entries, (Sample.mk (.text "jobs_total") (zoneLabels (.int 3) ++ zoneLabels .null)
        .null).labelMap = .ok entries ∧
      Sample.HoldsByName (zoneLabels (.int 3) ++ zoneLabels .null) entries := by
  have hone : Double.ofDecimal false 1 0 ≠ .nan := by decide +kernel
  refine ⟨fun zone => ⟨findsItself_zoneLabels zone, keysDiffer_zoneLabels zone⟩, ?_, ?_, ?_⟩
  . obtain ⟨-, hdiffer⟩ :=
      labels_round_trip (.text "jobs_total") (.text "1") (findsItself_zoneLabels (.int 3))
    obtain ⟨⟨mapping, hmapping, hsame, hequal⟩, -⟩ := hdiffer (keysDiffer_zoneLabels _)
    have hrows : (ofRows (.text "jobs_total") (zoneLabels (.int 3)) (.text "1")).toSample =
        .ok ⟨.text "jobs_total", zoneLabels (.text "3"), .double (.ofDecimal false 1 0)⟩ := by
      rw [toSample_ofRows, toDouble_text_one]
      rfl
    have hnumber : (Value.text "1").toDouble ≠ .ok .nan := by
      rw [toDouble_text_one, Ne, Except.ok.injEq]
      exact hone
    exact ⟨mapping, _, _, hmapping, hrows, hsame ▸ hrows,
      hequal _ _ hrows (hsame ▸ hrows) rfl hnumber⟩
  . obtain ⟨-, hdiffer⟩ := labels_round_trip (.text "jobs_total")
      (.double (.ofDecimal false 1 0)) (findsItself_zoneLabels (.text "3"))
    obtain ⟨-, hback⟩ := hdiffer (keysDiffer_zoneLabels _)
    have htexts : ∀ label ∈ zoneLabels (.text "3"), ∃ text, label.2 = .text text := by
      simp [zoneLabels]
    obtain ⟨entries, s, hentries, hs, -, hsame⟩ := hback _ rfl htexts
    exact ⟨entries, s, hentries, hs, hsame rfl hone⟩
  . apply (labels_round_trip (.text "jobs_total") .null _).1
    rw [List.forall_mem_append]
    exact ⟨findsItself_zoneLabels (.int 3), findsItself_zoneLabels .null⟩

theorem unequal_of_nan :
    ∃ mapping, Value.ofEntries (zoneLabels .null) = .ok mapping ∧
      (∃ s t, (ofRows (.text "jobs_total") (zoneLabels .null) (.text "nan")).toSample = .ok s ∧
        (ofMapping (.text "jobs_total") mapping (.text "nan")).toSample = .ok t ∧
        s.same t = false) ∧
      ∃ s t, (ofRows (.double .nan) (zoneLabels .null) (.text "1")).toSample = .ok s ∧
        (ofMapping (.double .nan) mapping (.text "1")).toSample = .ok t ∧ s.same t = false := by
  have hnan : (Value.text "nan").toDouble = .ok .nan := Value.toDouble_text (by decide +kernel)
  refine ⟨.dictionary (zoneLabels .null), rfl, ?_, ?_⟩
  . have hrows : (ofRows (.text "jobs_total") (zoneLabels .null) (.text "nan")).toSample =
        .ok ⟨.text "jobs_total", zoneLabels (.text "None"), .double .nan⟩ := by
      rw [toSample_ofRows, hnan]
      rfl
    exact ⟨_, _, hrows, toSample_ofRows_eq _ _ _ ▸ hrows, rfl⟩
  . have hrows : (ofRows (.double .nan) (zoneLabels .null) (.text "1")).toSample =
        .ok ⟨.double .nan, zoneLabels (.text "None"), .double (.ofDecimal false 1 0)⟩ := by
      rw [toSample_ofRows, toDouble_text_one]
      rfl
    exact ⟨_, _, hrows, toSample_ofRows_eq _ _ _ ▸ hrows, rfl⟩

end SampleRecord

end MetricCheck
