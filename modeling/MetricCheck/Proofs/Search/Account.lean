import MetricCheck.Proofs.Search.Growth
import MetricCheck.Proofs.Value.Name

/-!
This module contains the account of a search, said without the search: which families and samples it
comes to, and what its report says about them. The report names exactly these families and samples,
and if more than a name is asked for, every sample that fits by name is recorded once, by its value
if its labels fit and by its labels if they do not.
-/

namespace MetricCheck

/--
A row up to its first item with a property, that item included; all of it if there is none.
-/
def throughFirst {α : Type} (p : α → Prop) [DecidablePred p] : List α → List α
  | [] => []
  | a :: rest => if p a then [a] else a :: throughFirst p rest

theorem throughFirst_eq_self {α : Type} {p : α → Prop} [DecidablePred p] {xs : List α}
    (h : ∀ a ∈ xs, ¬p a) : throughFirst p xs = xs := by
  induction xs with
  | nil => rfl
  | cons a rest ih =>
    rw [throughFirst, if_neg (h a (by simp)), ih (fun b hb => h b (by simp [hb]))]

theorem mem_of_mem_throughFirst {α : Type} {p : α → Prop} [DecidablePred p] {xs : List α} {a : α}
    (h : a ∈ throughFirst p xs) : a ∈ xs := by
  induction xs with
  | nil => exact h
  | cons b rest ih =>
    rw [throughFirst] at h
    split at h
    . rw [List.mem_singleton] at h
      exact h ▸ List.mem_cons_self
    . rw [List.mem_cons] at h
      exact List.mem_cons.mpr (h.imp_right ih)

theorem throughFirst_split {α : Type} {p : α → Prop} [DecidablePred p] {xs : List α}
    (h : ∃ a ∈ xs, p a) :
    ∃ before a after, xs = before ++ a :: after ∧ throughFirst p xs = before ++ [a] ∧ p a := by
  induction xs with
  | nil => simp at h
  | cons b rest ih =>
    rw [throughFirst]
    by_cases hb : p b
    . exact ⟨[], b, rest, rfl, by simp [hb], hb⟩
    . rw [List.exists_mem_cons_iff, or_iff_right hb] at h
      obtain ⟨before, a, after, hsplit, hthrough, ha⟩ := ih h
      exact ⟨b :: before, a, after, by simp [hsplit], by simp [hb, hthrough], ha⟩

section Forall₂

variable {α β : Type} {R : α → β → Prop} {p : α → Prop} [DecidablePred p] {xs : List α} {x : α}
  {ys : List β} {y : β}

theorem forall₂_filter_concat_of_neg (hx : ¬p x) (h : List.Forall₂ R (xs.filter fun a => p a) ys) :
    List.Forall₂ R ((xs ++ [x]).filter fun a => p a) ys := by
  simpa [hx] using h

theorem forall₂_filter_concat_of_pos (hx : p x) (hy : R x y)
    (h : List.Forall₂ R (xs.filter fun a => p a) ys) :
    List.Forall₂ R ((xs ++ [x]).filter fun a => p a) (ys ++ [y]) := by
  rw [List.filter_append, List.filter_cons_of_pos (by simpa), List.filter_nil]
  exact List.rel_append h (.cons hy .nil)

theorem exists_left_of_forall₂ (h : List.Forall₂ R xs ys) (hy : y ∈ ys) : ∃ x ∈ xs, R x y := by
  induction h with
  | nil => contradiction
  | @cons x y' xs ys hhead _ ih =>
    cases List.mem_cons.mp hy with
    | inl heq => exact ⟨x, List.mem_cons_self, heq ▸ hhead⟩
    | inr hrest =>
      obtain ⟨x', hx', hR⟩ := ih hrest
      exact ⟨x', List.mem_cons_of_mem x hx', hR⟩

end Forall₂

namespace Report

variable {name : Value}

theorem map_fst_addUnder (name value : Value) (entries : List (Value × List Value)) :
    (addUnder name value entries).map Prod.fst =
      Value.addDistinct (entries.map Prod.fst) name := by
  induction entries with
  | nil => rfl
  | cons entry rest ih =>
    obtain ⟨k, vs⟩ := entry
    rw [addUnder]
    cases hsame : k.same name with
    | true => simp [Value.addDistinct, hsame]
    | false =>
      simp only [Bool.false_eq_true, ↓reduceIte, List.map_cons, ih, Value.addDistinct,
        List.any_cons, hsame, Bool.false_or]
      split
      . rfl
      . rfl

theorem ne_nil_of_mem_addUnder {value : Value} {entries : List (Value × List Value)}
    (h : ∀ entry ∈ entries, entry.2 ≠ []) :
    ∀ entry ∈ addUnder name value entries, entry.2 ≠ [] := by
  induction entries with
  | nil => simp [addUnder]
  | cons entry rest ih =>
    obtain ⟨k, vs⟩ := entry
    rw [List.forall_mem_cons] at h
    rw [addUnder]
    split
    . rw [List.forall_mem_cons]
      exact ⟨by simp, h.2⟩
    . rw [List.forall_mem_cons]
      exact ⟨h.1, ih h.2⟩

theorem lookup_addUnder (h : name.IsName) (other value : Value)
    (entries : List (Value × List Value)) :
    lookup other (addUnder name value entries) =
      lookup other entries ++ if name.same other then [value] else [] := by
  induction entries with
  | nil => simp [addUnder, lookup]
  | cons entry rest ih =>
    obtain ⟨k, vs⟩ := entry
    rw [addUnder]
    split
    next hsame =>
      rw [h.same_right_iff] at hsame
      subst hsame
      simp only [lookup]
      split
      . rfl
      . simp
    next hsame =>
      simp only [lookup, ih]
      split
      next hother =>
        have hne : ¬name.same other = true := by
          rw [h.same_iff]
          intro heq
          exact hsame (heq ▸ hother)
        simp [hne]
      . rfl

theorem lookup_of_mem (h : name.IsName) {entries : List (Value × List Value)}
    (hdistinct : (entries.map Prod.fst).Nodup) {vs : List Value} (hmem : (name, vs) ∈ entries) :
    lookup name entries = vs := by
  induction entries with
  | nil => contradiction
  | cons entry rest ih =>
    obtain ⟨k, ws⟩ := entry
    rw [List.map_cons, List.nodup_cons] at hdistinct
    rw [lookup]
    cases List.mem_cons.mp hmem with
    | inl heq =>
      cases heq
      rw [if_pos ((h.same_right_iff name).mpr rfl)]
    | inr hrest =>
      have hne : ¬k.same name = true := by
        rw [h.same_right_iff]
        intro heq
        exact hdistinct.1 (heq ▸ List.mem_map.mpr ⟨_, hrest, rfl⟩)
      rw [if_neg hne]
      exact ih hdistinct.2 hrest

theorem mem_of_lookup_ne_nil (h : name.IsName) {entries : List (Value × List Value)}
    (hne : lookup name entries ≠ []) : (name, lookup name entries) ∈ entries := by
  induction entries with
  | nil => contradiction
  | cons entry rest ih =>
    obtain ⟨k, ws⟩ := entry
    rw [lookup] at hne ⊢
    split at hne
    next hsame =>
      rw [if_pos hsame, ← (h.same_right_iff k).mp hsame]
      exact List.mem_cons_self
    next hsame =>
      rw [if_neg hsame]
      exact List.mem_cons_of_mem _ (ih hne)

end Report

def SampleRecord.IsNamed (s : SampleRecord) (name : Value) : Prop :=
  ∃ own, s.name = .ok own ∧ own.same name = true

instance (s : SampleRecord) (name : Value) : Decidable (s.IsNamed name) :=
  inferInstanceAs (Decidable (∃ own, s.name = .ok own ∧ own.same name = true))

def FamilyRecord.allSamples (family : FamilyRecord) : List SampleRecord :=
  match family.samples with
  | .ok samples => samples
  | .error _ => []

namespace Request

def EndsSearch (r : Request) (family : FamilyRecord) : Prop :=
  r.stopsWhenFound = true ∧ r.IsCandidate family ∧ r.Finds family

instance (r : Request) (family : FamilyRecord) : Decidable (r.EndsSearch family) :=
  inferInstanceAs (Decidable (_ ∧ _))

/--
The families that a search comes to: all up to the first one that ends it.
-/
def scannedFamilies (r : Request) (families : List FamilyRecord) : List FamilyRecord :=
  throughFirst (fun family => r.EndsSearch family) families

/--
The samples that a search of a family comes to: all of them, but none after the first accepted one
if a sample is asked for.
-/
def inspectedIn (r : Request) (family : FamilyRecord) : List SampleRecord :=
  throughFirst (fun s => r.present = true ∧ r.Accepts s) family.allSamples

def inspectedSamples (r : Request) (families : List FamilyRecord) : List SampleRecord :=
  ((r.scannedFamilies families).filter fun family => r.Searches family).flatMap r.inspectedIn

def RecordsValue (r : Request) (s : SampleRecord) : Prop :=
  r.isConstrained = true ∧ r.Fits s

def RecordsLabels (r : Request) (s : SampleRecord) : Prop :=
  r.Covers s ∧ ¬r.FitsLabels s

def Documents (r : Request) (s : SampleRecord) (record : LabelRecord) : Prop :=
  ∃ labels, s.labels = .ok labels ∧ Value.putEntries [] labels = .ok record.labels ∧
    record.missing = LabelRule.missing r.rules labels ∧
    record.mismatches = labels.flatMap (LabelRule.mismatchesAt r.rules)

instance (r : Request) (s : SampleRecord) : Decidable (r.RecordsValue s) :=
  inferInstanceAs (Decidable (_ ∧ _))

instance (r : Request) (s : SampleRecord) : Decidable (r.RecordsLabels s) :=
  inferInstanceAs (Decidable (_ ∧ _))

/--
A report accounts for the families and the samples that a search has come to. Names stand in it once
each; values stand under the names of their samples, and records in a row, both in the order of the
samples.
-/
structure Accounts (r : Request) (families : List FamilyRecord) (samples : List SampleRecord)
    (report : Report) : Prop where
  familyNames_nodup : report.familyNames.Nodup
  familyNames_isName : ∀ name ∈ report.familyNames, name.IsName
  mem_familyNames : ∀ name, name ∈ report.familyNames ↔
    ∃ family ∈ families, family.name = .ok name
  sampleNames_nodup : report.sampleNames.Nodup
  sampleNames_isName : ∀ name ∈ report.sampleNames, name.IsName
  mem_sampleNames : ∀ name, name ∈ report.sampleNames ↔ ∃ s ∈ samples, s.name = .ok name
  valueNames_nodup : (report.values.map Prod.fst).Nodup
  valueNames_subset : report.values.map Prod.fst ⊆ report.sampleNames
  values_ne_nil : ∀ entry ∈ report.values, entry.2 ≠ []
  values : ∀ name, List.Forall₂ (fun s value => s.observed = .ok value)
    (samples.filter fun s => r.RecordsValue s ∧ s.IsNamed name) (report.valuesUnder name)
  records : List.Forall₂ r.Documents (samples.filter fun s => r.RecordsLabels s) report.records

variable {r : Request} {families : List FamilyRecord} {samples : List SampleRecord}
  {report report' : Report}

theorem Decides.compares {s : SampleRecord} (h : r.Decides s) {name : Value}
    (hname : s.name = .ok name) : ∃ b, name.startsWith r.name = .ok b := by
  obtain ⟨own, hown, -, hcompares⟩ := h.name
  rw [hname, Except.ok.injEq] at hown
  exact hown ▸ hcompares

theorem DecidesFamily.compares {family : FamilyRecord} (h : r.DecidesFamily family) {name : Value}
    (hname : family.name = .ok name) :
    (∃ b, name.startsWith r.name = .ok b) ∧ r.name ≠ .tuple [] := by
  obtain ⟨candidacy, hcandidacy⟩ := h.candidacy
  simp only [Request.candidacy, hname, bind, Except.bind] at hcandidacy
  split at hcandidacy
  . contradiction
  . next b hextends =>
    refine ⟨⟨b, hextends⟩, ?_⟩
    intro hempty
    -- Nothing starts with an empty tuple, and an empty tuple starts with nothing.
    rw [hempty] at hextends hcandidacy
    cases Value.isName_of_startsWith hextends with
    | text s =>
      cases hextends
      contradiction
    | bytes bs =>
      cases hextends
      contradiction

theorem Decides.isName {s : SampleRecord} (h : r.Decides s) {name : Value}
    (hname : s.name = .ok name) : name.IsName := by
  obtain ⟨b, hb⟩ := h.compares hname
  exact Value.isName_of_startsWith hb

theorem DecidesFamily.isName {family : FamilyRecord} (h : r.DecidesFamily family) {name : Value}
    (hname : family.name = .ok name) : name.IsName := by
  obtain ⟨⟨b, hb⟩, -⟩ := h.compares hname
  exact Value.isName_of_startsWith hb

theorem accounts_empty (r : Request) : r.Accounts [] [] .empty where
  familyNames_nodup := List.nodup_nil
  familyNames_isName := by simp [Report.empty]
  mem_familyNames := by simp [Report.empty]
  sampleNames_nodup := List.nodup_nil
  sampleNames_isName := by simp [Report.empty]
  mem_sampleNames := by simp [Report.empty]
  valueNames_nodup := List.nodup_nil
  valueNames_subset := List.nil_subset _
  values_ne_nil := by simp [Report.empty]
  values := fun _ => .nil
  records := .nil

theorem exists_mem_concat_iff {α : Type} {f : α → Except Fault Value} {xs : List α} {x : α}
    {name other : Value} (h : f x = .ok name) :
    (∃ a ∈ xs ++ [x], f a = .ok other) ↔ (∃ a ∈ xs, f a = .ok other) ∨ other = name := by
  simp [or_and_right, exists_or, h, eq_comm]

theorem Accounts.note {s : SampleRecord} (h : r.Accounts families samples report)
    (hdecides : r.Decides s) (hnotes : r.Notes s report report') :
    r.Accounts families (samples ++ [s]) report' := by
  obtain ⟨name, finding, hname, hfinding, rfl⟩ := hnotes
  have hisName := hdecides.isName hname
  have hmem : ∀ other, other ∈ Value.addDistinct report.sampleNames name ↔
      ∃ t ∈ samples ++ [s], t.name = .ok other := by
    intro other
    rw [Value.mem_addDistinct hisName, h.mem_sampleNames, exists_mem_concat_iff hname]
  have hsubset : report.values.map Prod.fst ⊆ Value.addDistinct report.sampleNames name :=
    List.Subset.trans h.valueNames_subset (Report.subset_addDistinct _ _)
  have hnodup := Value.nodup_addDistinct hisName h.sampleNames_nodup
  have hnames := Value.isName_of_mem_addDistinct hisName h.sampleNames_isName
  have hnamed (hvalue : ¬r.RecordsValue s) (hlabels : ¬r.RecordsLabels s) :
      r.Accounts families (samples ++ [s])
        { report with sampleNames := Value.addDistinct report.sampleNames name } :=
    { h with
      sampleNames_nodup := hnodup
      sampleNames_isName := hnames
      mem_sampleNames := hmem
      valueNames_subset := hsubset
      values := fun other =>
        forall₂_filter_concat_of_neg (fun hrecords => hvalue hrecords.1) (h.values other)
      records := forall₂_filter_concat_of_neg hlabels h.records }
  -- What is recorded by its value, and what by its labels, depends on the finding.
  cases hfinding with
  | otherName hcovers =>
    apply hnamed
    . exact fun hrecords => hcovers hrecords.2.1
    . exact fun hrecords => hcovers hrecords.1
  | named hfree hcovers =>
    apply hnamed
    . simp [RecordsValue, hfree]
    . exact fun hrecords => hrecords.2 ((fits_of_unconstrained hfree).mpr hcovers).2
  | @labelled value accepted hconstrained hfits hobserved _ =>
    have hlabels : ¬r.RecordsLabels s := fun hrecords => hrecords.2 hfits.2
    refine { h with
      sampleNames_nodup := hnodup
      sampleNames_isName := hnames
      mem_sampleNames := hmem
      valueNames_nodup := ?_
      valueNames_subset := ?_
      values_ne_nil := Report.ne_nil_of_mem_addUnder h.values_ne_nil
      values := ?_
      records := forall₂_filter_concat_of_neg hlabels h.records }
    . simp only [Report.note, Report.map_fst_addUnder]
      exact Value.nodup_addDistinct hisName h.valueNames_nodup
    . simp only [Report.note, Report.map_fst_addUnder]
      intro other hother
      rw [Value.mem_addDistinct hisName] at hother ⊢
      exact hother.imp_left fun hmem => h.valueNames_subset hmem
    . intro other
      simp only [Report.valuesUnder, Report.note, Report.lookup_addUnder hisName]
      have hown : s.IsNamed other ↔ name.same other = true := by
        simp [SampleRecord.IsNamed, hname]
      split
      next hsame =>
        exact forall₂_filter_concat_of_pos ⟨⟨hconstrained, hfits⟩, hown.mpr hsame⟩ hobserved
          (h.values other)
      next hsame =>
        rw [List.append_nil]
        exact forall₂_filter_concat_of_neg (fun hrecords => hsame (hown.mp hrecords.2))
          (h.values other)
  | mislabelled hcovers hmisfits hread hentries hmissing hmismatches =>
    exact { h with
      sampleNames_nodup := hnodup
      sampleNames_isName := hnames
      mem_sampleNames := hmem
      valueNames_subset := hsubset
      values := fun other =>
        forall₂_filter_concat_of_neg (fun hrecords => hmisfits hrecords.1.2.2) (h.values other)
      records := forall₂_filter_concat_of_pos ⟨hcovers, hmisfits⟩
        ⟨_, hread, hentries, hmissing, hmismatches⟩ h.records }

theorem Accounts.searchSamples (h : r.Accounts families samples report) (found : Bool)
    {rest : List SampleRecord} (hdecides : ∀ s ∈ rest, r.Decides s) :
    r.Accounts families (samples ++ throughFirst (fun s => r.present = true ∧ r.Accepts s) rest)
      (r.searchSamples found report rest).1 := by
  induction rest generalizing found report samples with
  | nil => simpa [throughFirst, Request.searchSamples] using h
  | cons s rest ih =>
    rw [List.forall_mem_cons] at hdecides
    obtain ⟨report', hnotes, hstep⟩ := searchSamples_cons hdecides.1 found report rest
    replace h := h.note hdecides.1 hnotes
    replace ih := fun found => ih h found hdecides.2
    rw [List.append_assoc, List.singleton_append] at ih
    rw [throughFirst]
    cases hstep with
    | inl hmisfit =>
      rw [hmisfit.2, if_neg (fun hstop => hmisfit.1 hstop.2.1)]
      exact ih found
    | inr hfit =>
      obtain ⟨hfits, accepted, haccepted, hsearch⟩ := hfit
      have hstop : (accepted && r.present) = true ↔ r.present = true ∧ r.Accepts s := by
        simp [Accepts, hfits, haccepted, and_comm]
      rw [hsearch]
      by_cases haccepts : r.present = true ∧ r.Accepts s
      . rw [if_pos haccepts, if_pos (hstop.mpr haccepts)]
        exact h
      . rw [if_neg haccepts, if_neg (mt hstop.mp haccepts)]
        exact ih accepted

theorem Accounts.noteFamily {family : FamilyRecord} (h : r.Accounts families samples report)
    (hdecides : r.DecidesFamily family) (hnotes : r.NotesFamily family report report') :
    r.Accounts (families ++ [family])
      (samples ++ if r.Searches family then r.inspectedIn family else []) report' := by
  obtain ⟨name, hname, hreport⟩ := hnotes
  have hisName := hdecides.isName hname
  have hnamed : r.Accounts (families ++ [family]) samples
      { report with familyNames := Value.addDistinct report.familyNames name } :=
    { h with
      familyNames_nodup := Value.nodup_addDistinct hisName h.familyNames_nodup
      familyNames_isName := Value.isName_of_mem_addDistinct hisName h.familyNames_isName
      mem_familyNames := by
        intro other
        rw [Value.mem_addDistinct hisName, h.mem_familyNames, exists_mem_concat_iff hname] }
  subst hreport
  by_cases hsearches : r.Searches family
  . obtain ⟨row, hrow, hall⟩ := hdecides.samples hsearches.1 hsearches.2
    simp only [if_pos hsearches, searchFamily, inspectedIn, FamilyRecord.allSamples, hrow]
    exact hnamed.searchSamples false hall
  . simpa [hsearches] using hnamed

theorem scannedFamilies_cons (r : Request) (family : FamilyRecord) (rest : List FamilyRecord) :
    r.scannedFamilies (family :: rest) =
      if r.EndsSearch family then [family] else family :: r.scannedFamilies rest := rfl

theorem inspectedSamples_cons (r : Request) (family : FamilyRecord) (rest : List FamilyRecord) :
    r.inspectedSamples (family :: rest) =
      (if r.Searches family then r.inspectedIn family else []) ++
        if r.EndsSearch family then [] else r.inspectedSamples rest := by
  rw [inspectedSamples, scannedFamilies_cons]
  by_cases hsearches : r.Searches family <;> split <;> simp [hsearches, inspectedSamples]

theorem Accounts.searchFamilies {found : Bool} (h : r.Accounts families samples report)
    (hfound : found = true → r.stopsWhenFound = false) {rest : List FamilyRecord}
    (hdecides : ∀ family ∈ rest, r.DecidesFamily family) :
    r.Accounts (families ++ r.scannedFamilies rest) (samples ++ r.inspectedSamples rest)
      (r.searchFamilies found report rest).1 := by
  induction rest generalizing found report families samples with
  | nil => simpa [scannedFamilies, inspectedSamples, throughFirst, Request.searchFamilies] using h
  | cons family rest ih =>
    rw [List.forall_mem_cons] at hdecides
    obtain ⟨report', hnotes, hstep⟩ := searchFamilies_cons hdecides.1 hfound report rest
    replace h := h.noteFamily hdecides.1 hnotes
    rw [scannedFamilies_cons, inspectedSamples_cons, ← List.append_assoc]
    cases hstep with
    | inl hother =>
      have hends : ¬r.EndsSearch family := fun hends => hother.1 hends.2.1
      rw [if_neg hends, if_neg hends, hother.2, List.append_cons]
      exact ih h hfound hdecides.2
    | inr hcandidate =>
      obtain ⟨hcandidate, own, _, hfinds, hsearch⟩ := hcandidate
      rw [hsearch]
      -- What was found before does not stop the search, or it would have stopped before.
      have hstop : ((own || found) && r.stopsWhenFound) = true ↔ r.EndsSearch family := by
        cases hstops : r.stopsWhenFound with
        | false => simp [EndsSearch, hstops]
        | true =>
          have hnothing : found = false := by
            cases found with
            | false => rfl
            | true => simp [hstops] at hfound
          simp [EndsSearch, hstops, hcandidate, hnothing, hfinds]
      by_cases hends : r.EndsSearch family
      . rw [if_pos hends, if_pos hends, if_pos (hstop.mpr hends), List.append_nil]
        exact h
      . rw [if_neg hends, if_neg hends, if_neg (mt hstop.mp hends), List.append_cons]
        refine ih h ?_ hdecides.2
        intro hsome
        simpa [hsome] using mt hstop.mp hends

theorem evaluate_accounts (hdecides : ∀ family ∈ families, r.DecidesFamily family) :
    ∃ report, r.evaluate families = .ok report ∧
      r.Accounts (r.scannedFamilies families) (r.inspectedSamples families) report := by
  have hnothing : false = true → r.stopsWhenFound = false := by
    intro h
    contradiction
  have haccounts := (accounts_empty r).searchFamilies hnothing hdecides
  obtain ⟨found, hfound, -⟩ := searchFamilies_verdict_of_nothing hdecides
  rcases hsearch : r.searchFamilies false .empty families with ⟨searched, verdict⟩
  rw [hsearch] at haccounts hfound
  cases hfound
  exact ⟨_, evaluate_of_search hsearch, { haccounts with }⟩

theorem foundAmong_iff_finds (hdecides : ∀ family ∈ families, r.DecidesFamily family) :
    r.FoundAmong families ↔ ∃ family ∈ families, r.IsCandidate family ∧ r.Finds family := by
  apply foundAmong_iff
  intro family hfamily hcandidate
  exact exists_ownVerdict hcandidate (hdecides family hfamily)

theorem accounts_of_evaluate (hdecides : ∀ family ∈ families, r.DecidesFamily family)
    (hreport : r.evaluate families = .ok report) :
    r.Accounts (r.scannedFamilies families) (r.inspectedSamples families) report := by
  obtain ⟨report', hreport', haccounts⟩ := evaluate_accounts hdecides
  rw [hreport, Except.ok.injEq] at hreport'
  rwa [hreport']

theorem matched_iff_of_evaluate (hdecides : ∀ family ∈ families, r.DecidesFamily family)
    (hreport : r.evaluate families = .ok report) :
    report.matched = true ↔
      (r.present = true ↔ ∃ family ∈ families, r.IsCandidate family ∧ r.Finds family) := by
  obtain ⟨report', hreport', hiff⟩ := evaluate_matched hdecides
  rw [hreport, Except.ok.injEq] at hreport'
  rwa [hreport', ← foundAmong_iff_finds hdecides]

theorem Accounts.isName_of_mem_values (h : r.Accounts families samples report) {name : Value}
    {vs : List Value} (hmem : (name, vs) ∈ report.values) : name.IsName :=
  h.sampleNames_isName name (h.valueNames_subset (List.mem_map_of_mem hmem))

theorem Accounts.name_eq_of_isNamed (h : r.Accounts families samples report) {s : SampleRecord}
    (hs : s ∈ samples) {name : Value} (hnamed : s.IsNamed name) :
    s.name = .ok name ∧ name.IsName := by
  obtain ⟨own, hown, hsame⟩ := hnamed
  have hisName := h.sampleNames_isName own ((h.mem_sampleNames own).mpr ⟨s, hs, hown⟩)
  rw [hisName.same_iff] at hsame
  exact hsame ▸ ⟨hown, hisName⟩

theorem Accounts.mem_values_iff (h : r.Accounts families samples report) {name : Value}
    {vs : List Value} :
    (name, vs) ∈ report.values ↔ vs ≠ [] ∧
      List.Forall₂ (fun s value => s.observed = .ok value)
        (samples.filter fun s => r.RecordsValue s ∧ s.IsNamed name) vs := by
  have hvalues := h.values name
  constructor
  . intro hmem
    rw [Report.valuesUnder,
      Report.lookup_of_mem (h.isName_of_mem_values hmem) h.valueNames_nodup hmem] at hvalues
    exact ⟨h.values_ne_nil (name, vs) hmem, hvalues⟩
  . intro ⟨hne, hvs⟩
    obtain ⟨s, hs⟩ : ∃ s, s ∈ samples.filter fun s => r.RecordsValue s ∧ s.IsNamed name := by
      apply List.exists_mem_of_ne_nil
      intro hnil
      rw [hnil, List.forall₂_nil_left_iff] at hvs
      exact hne hvs
    rw [List.mem_filter, decide_eq_true_eq] at hs
    have hname := (h.name_eq_of_isNamed hs.1 hs.2.2).2
    have hunique : Relator.RightUnique fun (s : SampleRecord) value => s.observed = .ok value := by
      intro s v w hv hw
      rwa [hv, Except.ok.injEq] at hw
    have heq : report.valuesUnder name = vs := List.right_unique_forall₂' hunique hvalues hvs
    rw [← heq]
    exact Report.mem_of_lookup_ne_nil hname (by rwa [← Report.valuesUnder, heq])

theorem Accounts.of_unconstrained (h : r.Accounts families samples report)
    (hfree : r.isConstrained = false) : report.values = [] ∧ report.records = [] := by
  constructor
  . rw [List.eq_nil_iff_forall_not_mem]
    intro ⟨name, vs⟩ hmem
    have hvalues := h.mem_values_iff.mp hmem
    simp [RecordsValue, hfree] at hvalues
  . have hrecords := h.records
    have hnone : ∀ s, ¬r.RecordsLabels s :=
      fun s hlabels => hlabels.2 ((fits_of_unconstrained hfree).mpr hlabels.1).2
    simpa [hnone] using hrecords

theorem evaluate_eq_account (hdecides : ∀ family ∈ families, r.DecidesFamily family) :
    ∃ report, r.evaluate families = .ok report ∧
      (report.matched = true ↔
        (r.present = true ↔ ∃ family ∈ families, r.IsCandidate family ∧ r.Finds family)) ∧
      r.Accounts (r.scannedFamilies families) (r.inspectedSamples families) report ∧
      (r.isConstrained = true → ∀ s ∈ r.inspectedSamples families, r.Covers s →
        (r.RecordsValue s ↔ ¬r.RecordsLabels s)) ∧
      (r.isConstrained = false → report.values = [] ∧ report.records = []) := by
  obtain ⟨report, hreport, haccounts⟩ := evaluate_accounts hdecides
  obtain ⟨report', hreport', hmatched⟩ := evaluate_matched hdecides
  rw [hreport, Except.ok.injEq] at hreport'
  subst hreport'
  rw [foundAmong_iff_finds hdecides] at hmatched
  refine ⟨report, hreport, hmatched, haccounts, ?_, haccounts.of_unconstrained⟩
  intro hconstrained s _ hcovers
  simp [RecordsValue, RecordsLabels, Fits, hconstrained, hcovers]

theorem evaluate_eq_account_jobsSnapshot :
    (∀ family ∈ jobsSnapshot, (jobsRequest true .greater).DecidesFamily family) ∧
      ∃ report, (jobsRequest true .greater).evaluate jobsSnapshot = .ok report ∧
        ((jobsRequest true .greater).inspectedSamples jobsSnapshot).length = 2 ∧
          report.records.length = 1 ∧ (report.valuesUnder (.text "jobs_total")).length = 1 := by
  have hdecides := decidesFamily_jobsSnapshot true .greater
  obtain ⟨report, hreport, -, haccounts, -⟩ := evaluate_eq_account hdecides
  refine ⟨hdecides, report, hreport, by decide +kernel, ?_, ?_⟩
  . rw [← haccounts.records.length_eq]
    decide +kernel
  . rw [← (haccounts.values (.text "jobs_total")).length_eq]
    decide +kernel

end Request

end MetricCheck
