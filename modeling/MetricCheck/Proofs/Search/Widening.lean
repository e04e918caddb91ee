import Mathlib.Logic.Relation
import MetricCheck.Proofs.Search.Absence
import MetricCheck.Proofs.Search.Account
import MetricCheck.Proofs.Search.Readable

/-!
This module contains what becomes of a verdict when a request asks for less or a snapshot holds
more: a sample that was found is still found. A shorter name turns derived families into extending
ones, and a request without constraints is settled by names, so the two searches may look at
different things.
-/

namespace MetricCheck

def Predicate.Implies (p q : Predicate) : Prop :=
  ∀ v, p.accepts v = .ok true → q.accepts v = .ok true

namespace Request

inductive Widens (r : Request) : Request → Prop where
  | withoutRule {before after : List LabelRule} {rule : LabelRule} :
      r.rules = before ++ rule :: after → Widens r { r with rules := before ++ after }
  | weakerRule {before after : List LabelRule} {rule : LabelRule} {p : Predicate} :
      r.rules = before ++ rule :: after → rule.value.Implies p →
      Widens r { r with rules := before ++ { rule with value := p } :: after }
  | withoutValueRule : Widens r { r with valueRule := none }
  | weakerValueRule {p q : Predicate} : r.valueRule = some p → p.Implies q →
      Widens r { r with valueRule := some q }
  | shorterName {name start : String} : r.name = .text name →
      Text.startsWith start name = true → Widens r { r with name := .text start }

end Request

inductive SnapshotGrows : List FamilyRecord → List FamilyRecord → Prop where
  | family (before after : List FamilyRecord) (family : FamilyRecord) :
      SnapshotGrows (before ++ after) (before ++ family :: after)
  | sample (before after : List FamilyRecord) {family larger : FamilyRecord}
      {first last : List SampleRecord} {s : SampleRecord} : larger.name = family.name →
      family.samples = .ok (first ++ last) → larger.samples = .ok (first ++ s :: last) →
      SnapshotGrows (before ++ family :: after) (before ++ larger :: after)

def FamilyRecord.IsWithin (family larger : FamilyRecord) : Prop :=
  larger.name = family.name ∧ ∀ samples, family.samples = .ok samples →
    ∃ more, larger.samples = .ok more ∧ samples ⊆ more

theorem FamilyRecord.IsWithin.refl (family : FamilyRecord) : family.IsWithin family :=
  ⟨rfl, fun samples hsamples => ⟨samples, hsamples, List.Subset.refl samples⟩⟩

theorem FamilyRecord.IsWithin.trans {a b c : FamilyRecord} (hab : a.IsWithin b)
    (hbc : b.IsWithin c) : a.IsWithin c := by
  refine ⟨hbc.1.trans hab.1, ?_⟩
  intro samples hsamples
  obtain ⟨more, hmore, hsubset⟩ := hab.2 samples hsamples
  obtain ⟨most, hmost, hsubset'⟩ := hbc.2 more hmore
  exact ⟨most, hmost, List.Subset.trans hsubset hsubset'⟩

section Snapshots

variable {families larger : List FamilyRecord} {family : FamilyRecord}

theorem SnapshotGrows.exists_isWithin (h : SnapshotGrows families larger)
    (hfamily : family ∈ families) : ∃ other ∈ larger, family.IsWithin other := by
  cases h with
  | family before after added =>
    refine ⟨family, ?_, .refl family⟩
    rw [List.mem_append] at hfamily
    rw [List.mem_append, List.mem_cons]
    exact hfamily.imp_right .inr
  | @sample before after old grown first last s hname hold hgrown =>
    rw [List.mem_append, List.mem_cons] at hfamily
    rcases hfamily with hbefore | rfl | hafter
    . exact ⟨family, by simp [hbefore], .refl family⟩
    . refine ⟨grown, by simp, hname, ?_⟩
      intro samples hsamples
      rw [hold, Except.ok.injEq] at hsamples
      subst hsamples
      exact ⟨_, hgrown, by simp⟩
    . exact ⟨family, by simp [hafter], .refl family⟩

theorem exists_isWithin_of_grown (h : Relation.ReflTransGen SnapshotGrows families larger)
    (hfamily : family ∈ families) : ∃ other ∈ larger, family.IsWithin other := by
  induction h with
  | refl => exact ⟨family, hfamily, .refl family⟩
  | tail _ hstep ih =>
    obtain ⟨other, hother, hwithin⟩ := ih
    obtain ⟨larger, hlarger, hwithin'⟩ := hstep.exists_isWithin hother
    exact ⟨larger, hlarger, hwithin.trans hwithin'⟩

end Snapshots

namespace Request

structure AsksNoMoreThan (r' r : Request) : Prop where
  present : r'.present = r.present
  name : r'.name = r.name ∨ ∃ name start : String, r.name = .text name ∧ r'.name = .text start ∧
    Text.startsWith start name = true
  rules : ∀ rule' ∈ r'.rules, ∃ rule ∈ r.rules, rule'.name = rule.name ∧
    rule.value.Implies rule'.value
  valueRule : ∀ q ∈ r'.valueRule, ∃ p ∈ r.valueRule, p.Implies q

variable {r r' : Request} {s : SampleRecord} {family larger : FamilyRecord}

theorem AsksNoMoreThan.refl (r : Request) : r.AsksNoMoreThan r :=
  ⟨rfl, .inl rfl, fun rule hrule => ⟨rule, hrule, rfl, fun _ h => h⟩,
    fun p hp => ⟨p, hp, fun _ h => h⟩⟩

theorem AsksNoMoreThan.trans {a b c : Request} (hab : a.AsksNoMoreThan b)
    (hbc : b.AsksNoMoreThan c) : a.AsksNoMoreThan c where
  present := hab.present.trans hbc.present
  name := by
    rcases hab.name with hsame | ⟨middle, start, hmiddle, hstart, hprefix⟩
    . rw [hsame]
      exact hbc.name
    . rcases hbc.name with hsame | ⟨name, middle', hname, hmiddle', hprefix'⟩
      . exact .inr ⟨middle, start, hsame ▸ hmiddle, hstart, hprefix⟩
      . rw [hmiddle', Value.text.injEq] at hmiddle
        subst hmiddle
        refine .inr ⟨name, start, hname, hstart, ?_⟩
        rw [Text.startsWith_iff] at hprefix hprefix' ⊢
        exact hprefix.trans hprefix'
  rules := by
    intro rule hrule
    obtain ⟨middle, hmiddle, hname, himplies⟩ := hab.rules rule hrule
    obtain ⟨other, hother, hname', himplies'⟩ := hbc.rules middle hmiddle
    exact ⟨other, hother, hname.trans hname', fun v hv => himplies v (himplies' v hv)⟩
  valueRule := by
    intro p hp
    obtain ⟨middle, hmiddle, himplies⟩ := hab.valueRule p hp
    obtain ⟨other, hother, himplies'⟩ := hbc.valueRule middle hmiddle
    exact ⟨other, hother, fun v hv => himplies v (himplies' v hv)⟩

theorem Widens.asksNoMoreThan (h : r.Widens r') : r'.AsksNoMoreThan r := by
  have hsame := AsksNoMoreThan.refl r
  cases h with
  | @withoutRule before after rule hrules =>
    refine { hsame with rules := ?_ }
    intro other hother
    apply hsame.rules
    rw [List.mem_append] at hother
    rw [hrules, List.mem_append, List.mem_cons]
    exact hother.imp_right .inr
  | @weakerRule before after rule p hrules himplies =>
    refine { hsame with rules := ?_ }
    intro other hother
    rw [List.mem_append, List.mem_cons] at hother
    rcases hother with hbefore | rfl | hafter
    . exact hsame.rules other (by simp [hrules, hbefore])
    . exact ⟨rule, by simp [hrules], rfl, himplies⟩
    . exact hsame.rules other (by simp [hrules, hafter])
  | withoutValueRule => exact { hsame with valueRule := by simp }
  | @weakerValueRule p q hrule himplies =>
    refine { hsame with valueRule := ?_ }
    intro other hother
    cases hother
    exact ⟨p, hrule, himplies⟩
  | @shorterName name start hname hstart =>
    exact { hsame with name := .inr ⟨name, start, hname, rfl, hstart⟩ }

theorem asksNoMoreThan_of_widened (h : Relation.ReflTransGen Widens r r') :
    r'.AsksNoMoreThan r := by
  induction h with
  | refl => exact .refl r
  | tail _ hstep ih => exact hstep.asksNoMoreThan.trans ih

theorem AsksNoMoreThan.valueRule_eq_none (h : r'.AsksNoMoreThan r) (hrule : r.valueRule = none) :
    r'.valueRule = none := by
  rw [Option.eq_none_iff_forall_not_mem]
  intro q hq
  obtain ⟨p, hp, _⟩ := h.valueRule q hq
  simp [hrule] at hp

theorem AsksNoMoreThan.isConstrained_eq_false (h : r'.AsksNoMoreThan r)
    (hfree : r.isConstrained = false) : r'.isConstrained = false := by
  obtain ⟨hrules, hvalue⟩ := rules_of_unconstrained hfree
  have hrules' : r'.rules = [] := by
    rw [List.eq_nil_iff_forall_not_mem]
    intro rule' hrule'
    obtain ⟨rule, hrule, _⟩ := h.rules rule' hrule'
    simp [hrules] at hrule
  simp [isConstrained, hrules', h.valueRule_eq_none hvalue]

theorem AsksNoMoreThan.startsWith (h : r'.AsksNoMoreThan r) {name : Value}
    (hname : name.startsWith r.name = .ok true) : name.startsWith r'.name = .ok true := by
  rcases h.name with hsame | ⟨requested, start, hrequested, hstart, hprefix⟩
  . rwa [hsame]
  . rw [hrequested] at hname
    obtain ⟨own, rfl⟩ := Value.exists_text_of_startsWith hname
    rw [Value.startsWith_text, Except.ok.injEq, Text.startsWith_iff] at hname
    rw [hstart, Value.startsWith_text, Except.ok.injEq, Text.startsWith_iff]
    rw [Text.startsWith_iff] at hprefix
    exact hprefix.trans hname

theorem AsksNoMoreThan.covers (h : r'.AsksNoMoreThan r) (hcovers : r.Covers s) : r'.Covers s := by
  obtain ⟨name, hname, hstarts⟩ := hcovers
  exact ⟨name, hname, h.startsWith hstarts⟩

theorem AsksNoMoreThan.fitsLabels (h : r'.AsksNoMoreThan r) (hfits : r.FitsLabels s) :
    r'.FitsLabels s := by
  intro rule' hrule'
  obtain ⟨rule, hrule, hname, himplies⟩ := h.rules rule' hrule'
  obtain ⟨labels, hlabels, ⟨label, hlabel, hconcerns⟩, hallows⟩ := hfits rule hrule
  -- Both rules concern the same labels, since their names are the same.
  have hsame : ∀ label, rule'.Concerns label ↔ rule.Concerns label := by
    intro label
    rw [LabelRule.Concerns, LabelRule.Concerns, hname]
  refine ⟨labels, hlabels, ⟨label, hlabel, (hsame label).mpr hconcerns⟩, ?_⟩
  intro other hother hconcerns'
  exact himplies other.2 (hallows other hother ((hsame other).mp hconcerns'))

theorem AsksNoMoreThan.acceptsValue (h : r'.AsksNoMoreThan r) (haccepts : r.AcceptsValue s) :
    r'.AcceptsValue s := by
  intro q hq
  obtain ⟨p, hp, himplies⟩ := h.valueRule q hq
  obtain ⟨value, hvalue, hp⟩ := haccepts p hp
  exact ⟨value, hvalue, himplies value hp⟩

theorem AsksNoMoreThan.accepts (h : r'.AsksNoMoreThan r) (haccepts : r.Accepts s) : r'.Accepts s :=
  ⟨⟨h.covers haccepts.1.1, h.fitsLabels haccepts.1.2⟩, h.acceptsValue haccepts.2⟩

theorem AsksNoMoreThan.extends (h : r'.AsksNoMoreThan r) (hwithin : family.IsWithin larger)
    (hextends : r.Extends family) : r'.Extends larger := by
  obtain ⟨name, hname, hstarts⟩ := hextends
  exact ⟨name, by rw [hwithin.1, hname], h.startsWith hstarts⟩

theorem AsksNoMoreThan.settledByName (h : r'.AsksNoMoreThan r) (hwithin : family.IsWithin larger)
    (hsettled : r.SettledByName family) : r'.SettledByName larger :=
  ⟨h.isConstrained_eq_false hsettled.1, h.extends hwithin hsettled.2⟩

theorem AsksNoMoreThan.holdsAccepted (h : r'.AsksNoMoreThan r) (hwithin : family.IsWithin larger)
    (hholds : r.HoldsAccepted family) : r'.HoldsAccepted larger := by
  obtain ⟨samples, hsamples, s, hs, haccepts⟩ := hholds
  obtain ⟨more, hmore, hsubset⟩ := hwithin.2 samples hsamples
  exact ⟨more, hmore, s, hsubset hs, h.accepts haccepts⟩

-- Two starts of one name are starts of one another, so a derived family stays a candidate when the
-- requested name is cut down to less than its own.
theorem AsksNoMoreThan.isCandidate (h : r'.AsksNoMoreThan r) (hwithin : family.IsWithin larger)
    (hdecides : r.DecidesFamily family) (hcandidate : r.IsCandidate family) :
    r'.IsCandidate larger := by
  cases hcandidate with
  | inl hextends => exact .inl (h.extends hwithin hextends)
  | inr hderives =>
    obtain ⟨own, hown, hstarts⟩ := hderives
    have hlarger : larger.name = .ok own := by rw [hwithin.1, hown]
    rcases h.name with hsame | ⟨requested, start, hrequested, hstart, hprefix⟩
    . exact .inr ⟨own, hlarger, by rwa [hsame]⟩
    . obtain ⟨⟨b, hb⟩, _⟩ := hdecides.compares hown
      rw [hrequested] at hb hstarts
      obtain ⟨own, rfl⟩ := Value.exists_text_of_startsWith hb
      rw [Value.startsWith_text, Except.ok.injEq, Text.startsWith_iff] at hstarts
      rw [Text.startsWith_iff] at hprefix
      cases List.prefix_or_prefix_of_prefix hstarts hprefix with
      | inl hderived =>
        refine .inr ⟨.text own, hlarger, ?_⟩
        rw [hstart, Value.startsWith_text, Text.startsWith_iff.mpr hderived]
      | inr hextending =>
        refine .inl ⟨.text own, hlarger, ?_⟩
        rw [hstart, Value.startsWith_text, Text.startsWith_iff.mpr hextending]

-- Without a rule for values, the last fitting sample decides no more than any other one.
theorem foundAmong_iff_holdsAccepted {families : List FamilyRecord}
    (hregime : r.present = true ∨ r.valueRule = none)
    (hdecides : ∀ family ∈ families, r.DecidesFamily family) :
    r.FoundAmong families ↔ ∃ family ∈ families, r.IsCandidate family ∧
      (r.SettledByName family ∨ r.HoldsAccepted family) := by
  cases hpresent : r.present with
  | true => exact foundAmong_of_present hpresent hdecides
  | false =>
    have hrule : r.valueRule = none := by simpa [hpresent] using hregime
    simp only [foundAmong_of_absent hpresent hdecides, endsAccepted_iff_of_no_rule hrule]

theorem AsksNoMoreThan.foundAmong (h : r'.AsksNoMoreThan r) {families larger : List FamilyRecord}
    (hgrown : ∀ family ∈ families, ∃ other ∈ larger, family.IsWithin other)
    (hregime : r.present = true ∨ r.valueRule = none)
    (hdecides : ∀ family ∈ families, r.DecidesFamily family)
    (hdecides' : ∀ family ∈ larger, r'.DecidesFamily family) (hfound : r.FoundAmong families) :
    r'.FoundAmong larger := by
  have hregime' : r'.present = true ∨ r'.valueRule = none := by
    rw [h.present]
    exact hregime.imp_right h.valueRule_eq_none
  rw [foundAmong_iff_holdsAccepted hregime hdecides] at hfound
  rw [foundAmong_iff_holdsAccepted hregime' hdecides']
  obtain ⟨family, hfamily, hcandidate, hfinds⟩ := hfound
  obtain ⟨other, hother, hwithin⟩ := hgrown family hfamily
  refine ⟨other, hother, h.isCandidate hwithin (hdecides family hfamily) hcandidate, ?_⟩
  exact hfinds.imp (h.settledByName hwithin) (h.holdsAccepted hwithin)

theorem matched_of_widened {families larger : List FamilyRecord}
    (hwidened : Relation.ReflTransGen Widens r r')
    (hgrown : Relation.ReflTransGen SnapshotGrows families larger)
    (hdecides : ∀ family ∈ families, r.DecidesFamily family)
    (hdecides' : ∀ family ∈ larger, r'.DecidesFamily family) :
    ∃ report report', r.evaluate families = .ok report ∧ r'.evaluate larger = .ok report' ∧
      (r.present = true → report.matched = true → report'.matched = true) ∧
      (r.present = false → r.valueRule = none → report'.matched = true →
        report.matched = true) := by
  have hasks := asksNoMoreThan_of_widened hwidened
  have hwithin : ∀ family ∈ families, ∃ other ∈ larger, family.IsWithin other :=
    fun family hfamily => exists_isWithin_of_grown hgrown hfamily
  obtain ⟨report, hreport, hmatched⟩ := evaluate_matched hdecides
  obtain ⟨report', hreport', hmatched'⟩ := evaluate_matched hdecides'
  rw [hasks.present] at hmatched'
  refine ⟨report, report', hreport, hreport', ?_, ?_⟩
  . intro hpresent
    simp only [hpresent, true_iff] at hmatched hmatched'
    rw [hmatched, hmatched']
    exact hasks.foundAmong hwithin (.inl hpresent) hdecides hdecides'
  . intro habsent hrule
    simp only [habsent, Bool.false_eq_true, false_iff] at hmatched hmatched'
    rw [hmatched, hmatched']
    intro hlost hfound
    exact hlost (hasks.foundAmong hwithin (.inr hrule) hdecides hdecides' hfound)

def anyQueueRequest : Request :=
  ⟨.text "jobs", true, .registry, [⟨0, .equalTo (.text "queue"), .anything⟩], none⟩

def jobFamily : FamilyRecord :=
  .family ⟨.text "job", [jobsSample "out" true]⟩

def busierSnapshot : List FamilyRecord :=
  [createdFamily,
    .family ⟨.text "jobs", [jobsSample "in" false, jobsSample "retry" false, jobsSample "in" true,
      jobsSample "out" false]⟩,
    jobFamily]

theorem widened_anyQueueRequest :
    Relation.ReflTransGen Widens (jobsRequest true .greater) anyQueueRequest := by
  let r := jobsRequest true .greater
  have hname : Widens r { r with name := .text "jobs" } := .shorterName rfl (by decide)
  have hvalue : Widens { r with name := .text "jobs" }
      { r with name := .text "jobs", valueRule := none } := .withoutValueRule
  have hqueue : Widens { r with name := .text "jobs", valueRule := none } anyQueueRequest :=
    @Widens.weakerRule _ [] [] ⟨0, .equalTo (.text "queue"), .equalTo (.text "in")⟩ .anything rfl
      (fun _ _ => rfl)
  exact ((Relation.ReflTransGen.single hname).tail hvalue).tail hqueue

theorem grown_busierSnapshot : Relation.ReflTransGen SnapshotGrows jobsSnapshot busierSnapshot := by
  have hfamily := SnapshotGrows.family jobsSnapshot [] jobFamily
  have hsample : SnapshotGrows (jobsSnapshot ++ [jobFamily]) busierSnapshot :=
    @SnapshotGrows.sample [createdFamily] [jobFamily] jobsFamily _ [jobsSample "in" false] _
      (jobsSample "retry" false) rfl rfl rfl
  exact (Relation.ReflTransGen.single hfamily).tail hsample

theorem matched_of_widened_busierSnapshot :
    Relation.ReflTransGen Widens (jobsRequest true .greater) anyQueueRequest ∧
      Relation.ReflTransGen SnapshotGrows jobsSnapshot busierSnapshot ∧
      (∀ family ∈ jobsSnapshot, (jobsRequest true .greater).DecidesFamily family) ∧
      (∀ family ∈ busierSnapshot, anyQueueRequest.DecidesFamily family) ∧
        ∃ report, anyQueueRequest.evaluate busierSnapshot = .ok report ∧
          report.matched = true := by
  have hdecides := decidesFamily_jobsSnapshot true .greater
  have hreadable : anyQueueRequest.IsReadable := by
    refine ⟨⟨_, rfl⟩, ?_, by simp [anyQueueRequest]⟩
    simp only [anyQueueRequest, List.forall_mem_singleton]
    exact ⟨.text "queue", .anything⟩
  have htextual : ∀ family ∈ busierSnapshot, family.IsTextual := by
    simp only [busierSnapshot, List.forall_mem_cons]
    refine ⟨⟨⟨_, rfl⟩, _, rfl, ?_⟩, ⟨⟨_, rfl⟩, _, rfl, ?_⟩, ⟨⟨_, rfl⟩, _, rfl, ?_⟩, by simp⟩
    . simp [isTextual_jobsSample]
    . simp [isTextual_jobsSample]
    . simp [isTextual_jobsSample]
  have hdecides' : ∀ family ∈ busierSnapshot, anyQueueRequest.DecidesFamily family :=
    fun family hfamily => hreadable.decidesTexts.decidesFamily (htextual family hfamily)
  have hverdict : (jobsRequest true .greater).verdict jobsSnapshot = .ok true := by decide +kernel
  obtain ⟨_, hreport, hmatched⟩ := evaluate_of_verdict hverdict
  obtain ⟨report, report', hreport', hwidened, hpresent, _⟩ :=
    matched_of_widened widened_anyQueueRequest grown_busierSnapshot hdecides hdecides'
  rw [hreport, Except.ok.injEq] at hreport'
  subst hreport'
  exact ⟨widened_anyQueueRequest, grown_busierSnapshot, hdecides, hdecides', report', hwidened,
    hpresent rfl hmatched⟩

end Request

end MetricCheck
