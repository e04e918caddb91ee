import MetricCheck.Proofs.Search.Samples

/-!
This module contains the verdict of a search through families. Each candidate has a verdict of its
own, and the search finds its sample if and only if one of the candidates does: a family that sets
the verdict anew is only reached while nothing is found, or finds the sample itself.
-/

namespace MetricCheck

theorem Report.addFamilyName_of_isKey {name : Value} (report : Report)
    (h : name.isKey = true) :
    report.addFamilyName name =
      .ok { report with familyNames := Value.addDistinct report.familyNames name } := by
  simp [addFamilyName, h]

namespace Request

def Extends (r : Request) (family : FamilyRecord) : Prop :=
  ∃ name, family.name = .ok name ∧ name.startsWith r.name = .ok true

def Derives (r : Request) (family : FamilyRecord) : Prop :=
  ∃ name, family.name = .ok name ∧ r.name.startsWith name = .ok true

def IsCandidate (r : Request) (family : FamilyRecord) : Prop :=
  r.Extends family ∨ r.Derives family

def SettledByName (r : Request) (family : FamilyRecord) : Prop :=
  r.isConstrained = false ∧ r.Extends family

def HoldsAccepted (r : Request) (family : FamilyRecord) : Prop :=
  ∃ samples, family.samples = .ok samples ∧ ∃ s ∈ samples, r.Accepts s

def EndsAccepted (r : Request) (family : FamilyRecord) : Prop :=
  ∃ samples, family.samples = .ok samples ∧ ∃ s, r.LastFitting samples s ∧ r.AcceptsValue s

/--
A family counts as found: by its name, or by its samples, of which the last one that fits speaks for
all if the request is for an absence.
-/
def Finds (r : Request) (family : FamilyRecord) : Prop :=
  r.SettledByName family ∨ if r.present then r.HoldsAccepted family else r.EndsAccepted family

def Searches (r : Request) (family : FamilyRecord) : Prop :=
  r.IsCandidate family ∧ ¬r.SettledByName family

instance (r : Request) (family : FamilyRecord) : Decidable (r.Extends family) :=
  inferInstanceAs (Decidable (∃ name, family.name = .ok name ∧
    name.startsWith r.name = .ok true))

instance (r : Request) (family : FamilyRecord) : Decidable (r.IsCandidate family) :=
  inferInstanceAs (Decidable (r.Extends family ∨ ∃ name, family.name = .ok name ∧
    r.name.startsWith name = .ok true))

instance (r : Request) (family : FamilyRecord) : Decidable (r.SettledByName family) :=
  inferInstanceAs (Decidable (_ ∧ _))

instance (r : Request) (family : FamilyRecord) : Decidable (r.HoldsAccepted family) :=
  inferInstanceAs (Decidable (∃ samples, family.samples = .ok samples ∧
    ∃ s ∈ samples, r.Accepts s))

instance (r : Request) (family : FamilyRecord) : Decidable (r.EndsAccepted family) :=
  decidable_of_iff (∃ samples, family.samples = .ok samples ∧
      ∃ s ∈ ((samples.filter fun t => r.Fits t).getLast?).toList, r.AcceptsValue s)
    (by simp only [EndsAccepted, lastFitting_iff, Option.mem_toList])

instance (r : Request) (family : FamilyRecord) : Decidable (r.Finds family) :=
  inferInstanceAs (Decidable (_ ∨ _))

instance (r : Request) (family : FamilyRecord) : Decidable (r.Searches family) :=
  inferInstanceAs (Decidable (_ ∧ _))

def NotesFamily (r : Request) (family : FamilyRecord) (report report' : Report) : Prop :=
  ∃ name, family.name = .ok name ∧
    let named := { report with familyNames := Value.addDistinct report.familyNames name }
    report' = if r.Searches family then (r.searchFamily family named).1 else named

/--
A request decides a family if its name can be noted and compared, and every sample that might have
to be looked at is decided.
-/
structure DecidesFamily (r : Request) (family : FamilyRecord) : Prop where
  name : ∃ name, family.name = .ok name ∧ name.isKey = true
  candidacy : ∃ candidacy, r.candidacy family = .ok candidacy
  samples : r.IsCandidate family → ¬r.SettledByName family →
    ∃ samples, family.samples = .ok samples ∧ ∀ s ∈ samples, r.Decides s

/--
The verdict of a family alone: found if its name settles that, and otherwise what a search of its
samples from nothing says.
-/
def ownVerdict (r : Request) (family : FamilyRecord) : Except Fault Bool := do
  if (← r.candidacy family) = .extending && !r.isConstrained then return true
  else (r.searchFamily family .empty).2

def FoundAmong (r : Request) (families : List FamilyRecord) : Prop :=
  ∃ family ∈ families, r.IsCandidate family ∧ r.ownVerdict family = .ok true

variable {r : Request} {family : FamilyRecord}

theorem candidacy_cases {candidacy : Candidacy} (h : r.candidacy family = .ok candidacy) :
    (candidacy = .extending ↔ r.Extends family) ∧
      (candidacy = .unrelated ↔ ¬r.IsCandidate family) := by
  unfold Request.candidacy at h
  unfold IsCandidate Extends Derives
  cases hname : family.name with
  | error fault => simp [hname, bind, Except.bind] at h
  | ok name =>
    simp only [hname, bind, Except.bind] at h
    split at h
    . contradiction
    . next extending hextends =>
      split at h
      . next hextending =>
        cases h
        simp [hextends, hextending]
      . next hextending =>
        split at h
        . contradiction
        . next derived hderives =>
          split at h
          . next hderived =>
            cases h
            simp [hextends, hextending, hderives, hderived]
          . next hderived =>
            cases h
            simp [hextends, hextending, hderives, hderived]

theorem searchFamily_verdict_eq (report report' : Report) :
    (r.searchFamily family report).2 = (r.searchFamily family report').2 := by
  unfold searchFamily
  split
  . rfl
  . apply searchSamples_verdict_eq

theorem ownVerdict_of_settled (h : r.SettledByName family) (hdecides : r.DecidesFamily family) :
    r.ownVerdict family = .ok true := by
  obtain ⟨candidacy, hcandidacy⟩ := hdecides.candidacy
  have hextending := (candidacy_cases hcandidacy).1.mpr h.2
  simp [ownVerdict, hcandidacy, hextending, h.1, bind, Except.bind, pure, Except.pure]

theorem ownVerdict_of_not_settled (h : ¬r.SettledByName family)
    (hdecides : r.DecidesFamily family) (report : Report) :
    r.ownVerdict family = (r.searchFamily family report).2 := by
  obtain ⟨candidacy, hcandidacy⟩ := hdecides.candidacy
  have hextending := (candidacy_cases hcandidacy).1
  rw [searchFamily_verdict_eq report .empty]
  have hsearch : (decide (candidacy = .extending) && !r.isConstrained) = false := by
    rw [Bool.eq_false_iff]
    intro hboth
    simp only [Bool.and_eq_true, decide_eq_true_eq, Bool.not_eq_true'] at hboth
    exact h ⟨hboth.2, hextending.mp hboth.1⟩
  simp [ownVerdict, hcandidacy, hsearch, bind, Except.bind]

theorem ownVerdict_of_present (hpresent : r.present = true) (hcandidate : r.IsCandidate family)
    (hdecides : r.DecidesFamily family) :
    ∃ own, r.ownVerdict family = .ok own ∧
      (own = true ↔ r.SettledByName family ∨ r.HoldsAccepted family) := by
  by_cases hsettled : r.SettledByName family
  . exact ⟨true, ownVerdict_of_settled hsettled hdecides, by simp [hsettled]⟩
  . obtain ⟨samples, hsamples, hall⟩ := hdecides.samples hcandidate hsettled
    obtain ⟨own, hown, hiff⟩ := searchSamples_verdict_of_present hpresent .empty hall
    refine ⟨own, ?_, ?_⟩
    . rw [ownVerdict_of_not_settled hsettled hdecides .empty]
      simp [searchFamily, hsamples, hown]
    . simp [hiff, hsettled, HoldsAccepted, hsamples]

theorem ownVerdict_of_absent (habsent : r.present = false) (hcandidate : r.IsCandidate family)
    (hdecides : r.DecidesFamily family) :
    ∃ own, r.ownVerdict family = .ok own ∧
      (own = true ↔ r.SettledByName family ∨ r.EndsAccepted family) := by
  by_cases hsettled : r.SettledByName family
  . exact ⟨true, ownVerdict_of_settled hsettled hdecides, by simp [hsettled]⟩
  . obtain ⟨samples, hsamples, hall⟩ := hdecides.samples hcandidate hsettled
    obtain ⟨own, hown, hiff⟩ := searchSamples_verdict_of_absent habsent false .empty hall
    refine ⟨own, ?_, ?_⟩
    . rw [ownVerdict_of_not_settled hsettled hdecides .empty]
      simp [searchFamily, hsamples, hown]
    . simp [hiff, hsettled, EndsAccepted, hsamples]

theorem exists_ownVerdict (hcandidate : r.IsCandidate family)
    (hdecides : r.DecidesFamily family) :
    ∃ own, r.ownVerdict family = .ok own ∧ (own = true ↔ r.Finds family) := by
  unfold Finds
  cases hpresent : r.present with
  | true => exact ownVerdict_of_present hpresent hcandidate hdecides
  | false => exact ownVerdict_of_absent hpresent hcandidate hdecides

theorem foundAmong_iff {P : FamilyRecord → Prop} {families : List FamilyRecord}
    (h : ∀ family ∈ families, r.IsCandidate family →
      ∃ own, r.ownVerdict family = .ok own ∧ (own = true ↔ P family)) :
    r.FoundAmong families ↔ ∃ family ∈ families, r.IsCandidate family ∧ P family := by
  constructor
  . intro ⟨family, hfamily, hcandidate, hown⟩
    obtain ⟨own, hverdict, hiff⟩ := h family hfamily hcandidate
    rw [hverdict, Except.ok.injEq] at hown
    exact ⟨family, hfamily, hcandidate, hiff.mp hown⟩
  . intro ⟨family, hfamily, hcandidate, hfound⟩
    obtain ⟨own, hverdict, hiff⟩ := h family hfamily hcandidate
    exact ⟨family, hfamily, hcandidate, by rw [hverdict, hiff.mpr hfound]⟩

theorem foundAmong_of_present (hpresent : r.present = true) {families : List FamilyRecord}
    (hdecides : ∀ family ∈ families, r.DecidesFamily family) :
    r.FoundAmong families ↔ ∃ family ∈ families, r.IsCandidate family ∧
      (r.SettledByName family ∨ r.HoldsAccepted family) := by
  apply foundAmong_iff
  intro family hfamily hcandidate
  exact ownVerdict_of_present hpresent hcandidate (hdecides family hfamily)

theorem foundAmong_of_absent (habsent : r.present = false) {families : List FamilyRecord}
    (hdecides : ∀ family ∈ families, r.DecidesFamily family) :
    r.FoundAmong families ↔ ∃ family ∈ families, r.IsCandidate family ∧
      (r.SettledByName family ∨ r.EndsAccepted family) := by
  apply foundAmong_iff
  intro family hfamily hcandidate
  exact ownVerdict_of_absent habsent hcandidate (hdecides family hfamily)

-- Although an extending family replaces the verdict, what comes out is whether anything was
-- found before or in this family.
theorem searchFamilies_cons (hdecides : r.DecidesFamily family) {found : Bool}
    (hfound : found = true → r.stopsWhenFound = false) (report : Report)
    (rest : List FamilyRecord) :
    ∃ report', r.NotesFamily family report report' ∧
      ((¬r.IsCandidate family ∧
        r.searchFamilies found report (family :: rest) = r.searchFamilies found report' rest) ∨
      (r.IsCandidate family ∧ ∃ own, r.ownVerdict family = .ok own ∧ (own = true ↔ r.Finds family) ∧
        r.searchFamilies found report (family :: rest) =
          if (own || found) && r.stopsWhenFound then (report', .ok (own || found))
          else r.searchFamilies (own || found) report' rest)) := by
  obtain ⟨name, hname, hkey⟩ := hdecides.name
  obtain ⟨candidacy, hcandidacy⟩ := hdecides.candidacy
  obtain ⟨hextending, hunrelated⟩ := candidacy_cases hcandidacy
  simp only [searchFamilies, NotesFamily, hname, Report.addFamilyName_of_isKey _ hkey, hcandidacy,
    bind, Except.bind, Except.ok.injEq, exists_eq_left']
  generalize ({ report with familyNames := Value.addDistinct report.familyNames name }) = noted
  cases candidacy with
  | unrelated =>
    have hother := hunrelated.mp rfl
    exact ⟨noted, by simp [Searches, hother], .inl ⟨hother, rfl⟩⟩
  | extending =>
    have hcandidate : r.IsCandidate family := .inl (hextending.mp rfl)
    obtain ⟨own, hown, hfinds⟩ := exists_ownVerdict hcandidate hdecides
    cases hconstrained : r.isConstrained with
    | false =>
      have hsettled : r.SettledByName family := ⟨hconstrained, hextending.mp rfl⟩
      have htrue : own = true := hfinds.mpr (.inl hsettled)
      refine ⟨noted, by simp [Searches, hsettled], .inr ⟨hcandidate, own, hown, hfinds, ?_⟩⟩
      simp [htrue]
    | true =>
      -- An extending family replaces the verdict, but `hfound` leaves nothing to replace.
      have hnone : found = false := by
        rw [Bool.eq_false_iff]
        intro hsome
        simp [stopsWhenFound, hconstrained] at hfound
        exact absurd hsome (by simp [hfound])
      have hsettled : ¬r.SettledByName family := by simp [SettledByName, hconstrained]
      have hsearch := ownVerdict_of_not_settled hsettled hdecides noted
      cases hpair : r.searchFamily family noted with
      | mk report' verdict =>
        rw [hpair, hown] at hsearch
        refine ⟨report', by simp [Searches, hcandidate, hsettled],
          .inr ⟨hcandidate, own, hown, hfinds, ?_⟩⟩
        simp [← hsearch, hnone]
  | derived =>
    have hextends : ¬r.Extends family := by simp [← hextending]
    have hcandidate : r.IsCandidate family := by
      by_contra hother
      simp [← hunrelated] at hother
    have hsettled : ¬r.SettledByName family := fun hsettled => hextends hsettled.2
    obtain ⟨own, hown, hfinds⟩ := exists_ownVerdict hcandidate hdecides
    have hsearch := ownVerdict_of_not_settled hsettled hdecides noted
    cases hpair : r.searchFamily family noted with
    | mk report' verdict =>
      rw [hpair, hown] at hsearch
      refine ⟨report', by simp [Searches, hcandidate, hsettled],
        .inr ⟨hcandidate, own, hown, hfinds, ?_⟩⟩
      simp [← hsearch]

-- The invariant is `hfound`: the search never goes on with something found that could be undone.
theorem searchFamilies_verdict {found : Bool} (hfound : found = true → r.stopsWhenFound = false)
    (report : Report) {families : List FamilyRecord}
    (hdecides : ∀ family ∈ families, r.DecidesFamily family) :
    ∃ b, (r.searchFamilies found report families).2 = .ok b ∧
      (b = true ↔ found = true ∨ r.FoundAmong families) := by
  induction families generalizing found report with
  | nil => exact ⟨found, rfl, by simp [FoundAmong]⟩
  | cons family rest ih =>
    have hrest : ∀ other ∈ rest, r.DecidesFamily other :=
      fun other hother => hdecides other (by simp [hother])
    obtain ⟨report', _, hstep⟩ := searchFamilies_cons (hdecides family (by simp)) hfound report rest
    cases hstep with
    | inl hother =>
      obtain ⟨b, hb, hiff⟩ := ih hfound report' hrest
      refine ⟨b, by rw [hother.2, hb], ?_⟩
      simp [hiff, FoundAmong, hother.1]
    | inr hcandidate =>
      obtain ⟨hcandidate, own, hown, _, hsearch⟩ := hcandidate
      rw [hsearch]
      have hhead : r.FoundAmong (family :: rest) ↔ own = true ∨ r.FoundAmong rest := by
        simp [FoundAmong, hcandidate, hown]
      rw [hhead]
      split
      next hstop =>
        simp only [Bool.and_eq_true, Bool.or_eq_true] at hstop
        refine ⟨own || found, rfl, ?_⟩
        rw [Bool.or_eq_true]
        cases hstop.1 with
        | inl hown => simp [hown]
        | inr hfound => simp [hfound]
      next hgoes =>
        have hinv : (own || found) = true → r.stopsWhenFound = false := by
          intro hsome
          simpa [hsome] using hgoes
        obtain ⟨b, hb, hiff⟩ := ih hinv report' hrest
        refine ⟨b, hb, ?_⟩
        rw [hiff, Bool.or_eq_true, or_comm (a := own = true), or_assoc]

theorem searchFamilies_verdict_of_nothing {families : List FamilyRecord}
    (hdecides : ∀ family ∈ families, r.DecidesFamily family) :
    ∃ found, (r.searchFamilies false .empty families).2 = .ok found ∧
      (found = true ↔ r.FoundAmong families) := by
  have hnothing : false = true → r.stopsWhenFound = false := by
    intro h
    contradiction
  obtain ⟨found, hfound, hiff⟩ := searchFamilies_verdict hnothing .empty hdecides
  simp only [Bool.false_eq_true, false_or] at hiff
  exact ⟨found, hfound, hiff⟩

def verdict (r : Request) (families : List FamilyRecord) : Except Fault Bool :=
  (r.evaluate families).map Report.matched

theorem evaluate_matched {families : List FamilyRecord}
    (hdecides : ∀ family ∈ families, r.DecidesFamily family) :
    ∃ report, r.evaluate families = .ok report ∧
      (report.matched = true ↔ (r.present = true ↔ r.FoundAmong families)) := by
  obtain ⟨found, hfound, hiff⟩ := searchFamilies_verdict_of_nothing hdecides
  unfold evaluate
  cases hpair : r.searchFamilies false .empty families with
  | mk report verdict =>
    rw [hpair] at hfound
    simp only at hfound
    subst hfound
    refine ⟨{ report with matched := r.present == found }, rfl, ?_⟩
    rw [← hiff, beq_iff_eq, Bool.eq_iff_iff]

theorem evaluate_matched_of_present (hpresent : r.present = true) {families : List FamilyRecord}
    (hdecides : ∀ family ∈ families, r.DecidesFamily family) :
    ∃ report, r.evaluate families = .ok report ∧
      (report.matched = true ↔ ∃ family ∈ families, r.IsCandidate family ∧
        (r.SettledByName family ∨ r.HoldsAccepted family)) := by
  obtain ⟨report, hreport, hmatched⟩ := evaluate_matched hdecides
  rw [foundAmong_of_present hpresent hdecides] at hmatched
  simp only [hpresent, true_iff] at hmatched
  exact ⟨report, hreport, hmatched⟩

theorem evaluate_matched_of_absent (habsent : r.present = false) {families : List FamilyRecord}
    (hdecides : ∀ family ∈ families, r.DecidesFamily family) :
    ∃ report, r.evaluate families = .ok report ∧
      (report.matched = false ↔ ∃ family ∈ families, r.IsCandidate family ∧
        (r.SettledByName family ∨ r.EndsAccepted family)) := by
  obtain ⟨report, hreport, hmatched⟩ := evaluate_matched hdecides
  rw [foundAmong_of_absent habsent hdecides] at hmatched
  simp only [habsent, Bool.false_eq_true, false_iff] at hmatched
  refine ⟨report, hreport, ?_⟩
  rw [← Bool.not_eq_true, hmatched, not_not]

theorem verdict_congr {r r' : Request} {families families' : List FamilyRecord}
    (hdecides : ∀ family ∈ families, r.DecidesFamily family)
    (hdecides' : ∀ family ∈ families', r'.DecidesFamily family)
    (hpresent : r'.present = r.present)
    (hfound : r'.FoundAmong families' ↔ r.FoundAmong families) :
    r'.verdict families' = r.verdict families := by
  obtain ⟨report, hreport, hmatched⟩ := evaluate_matched hdecides
  obtain ⟨report', hreport', hmatched'⟩ := evaluate_matched hdecides'
  rw [hpresent, hfound, ← hmatched] at hmatched'
  unfold verdict
  rw [hreport, hreport']
  exact congrArg Except.ok (Bool.eq_iff_iff.mpr hmatched')

end Request

end MetricCheck
