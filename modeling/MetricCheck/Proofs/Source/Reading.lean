import MetricCheck.Proofs.Source.Adaptation
import MetricCheck.Source

/-!
This module contains what reading a source comes to. Of the ways in which a source offers its
families, the first one is taken, and the same records have the same outcome in whatever way they
are offered.
-/

namespace MetricCheck

inductive Way where
  | enumeration
  | iteration
  | collection
  deriving DecidableEq

def Way.kind : Way → SourceKind
  | enumeration => .registry
  | iteration => .registry
  | collection => .collector

namespace Feed

inductive Yields : Feed → List FamilyRecord → Prop
  | steady (records : List FamilyRecord) : Yields (.steady records) records
  | oneShot (records : List FamilyRecord) : Yields (.oneShot records) records
  | exposition {parse : Parser} {text : String} {records : List FamilyRecord} :
      parse text = (records, none) → Yields (.exposition parse text) records

def leaving (left : List FamilyRecord) : Feed → Feed
  | oneShot _ => oneShot left
  | feed => feed

theorem Yields.read {feed : Feed} {records : List FamilyRecord} (h : feed.Yields records) :
    feed.read =
      ((FamilyRecord.toFamilies records).1, feed.leaving (FamilyRecord.toFamilies records).2) := by
  cases h with
  | steady | oneShot => rfl
  | exposition hparse =>
    rw [Feed.read, hparse]
    dsimp only
    rw [bind_pure]
    rfl

end Feed

inductive Shape where
  | list
  | tuple
  | generator
  | registry
  | collector

def Shape.source (records : List FamilyRecord) : Shape → Source
  | list => Source.ofList records
  | tuple => Source.ofTuple records
  | generator => Source.ofGenerator records
  | registry => Source.ofFeeds (some (.steady records)) none none
  | collector => Source.ofFeeds none none (some (.steady records))

namespace Source

def offer (s : Source) : Way → Option Feed
  | .enumeration => s.enumerated
  | .iteration => s.iterated
  | .collection => s.collected

def withOffer (s : Source) (feed : Feed) : Way → Source
  | .enumeration => { s with enumerated := some feed }
  | .iteration => { s with iterated := some feed }
  | .collection => { s with collected := some feed }

/--
The way that is taken to a source and the feed found there. No earlier way is offered.
-/
inductive Takes (s : Source) : Way → Feed → Prop
  | enumeration {feed : Feed} : s.offer .enumeration = some feed → Takes s .enumeration feed
  | iteration {feed : Feed} : s.offer .enumeration = none → s.offer .iteration = some feed →
      Takes s .iteration feed
  | collection {feed : Feed} : s.offer .enumeration = none → s.offer .iteration = none →
      s.offer .collection = some feed → Takes s .collection feed

variable {s : Source} {way : Way} {feed : Feed} {fault : Fault} {records : List FamilyRecord}

theorem takes_or_offers_nothing (s : Source) :
    (∃ way feed, s.Takes way feed) ∨ ∀ way, s.offer way = none := by
  cases henumerated : s.offer .enumeration with
  | some feed => exact .inl ⟨_, feed, .enumeration henumerated⟩
  | none =>
    cases hiterated : s.offer .iteration with
    | some feed => exact .inl ⟨_, feed, .iteration henumerated hiterated⟩
    | none =>
      cases hcollected : s.offer .collection with
      | some feed => exact .inl ⟨_, feed, .collection henumerated hiterated hcollected⟩
      | none =>
        refine .inr fun way => ?_
        cases way <;> assumption

theorem Takes.offer (h : s.Takes way feed) : s.offer way = some feed := by
  cases h <;> assumption

theorem Takes.read (h : s.Takes way feed) :
    s.read = (feed.read.1, { s.withOffer feed.read.2 way with reads := s.reads.map (· + 1) }) := by
  cases h <;> simp_all [Source.read, Source.offer, feed?, setFeed, withOffer]

theorem Takes.kind (h : s.Takes way feed) : s.kind = .ok way.kind := by
  cases h <;> simp_all [Source.kind, Source.offer, Way.kind]

theorem kind_of_offers_nothing (h : ∀ way, s.offer way = none) :
    s.kind = .error (.unsupportedSource s.typeName) := by
  have henumerated : s.enumerated = none := h .enumeration
  have hiterated : s.iterated = none := h .iteration
  have hcollected : s.collected = none := h .collection
  simp [Source.kind, henumerated, hiterated, hcollected]

theorem read_of_offers_nothing (h : ∀ way, s.offer way = none) :
    s.read = (.error (.unsupportedSource s.typeName), s) := by
  have henumerated : s.enumerated = none := h .enumeration
  have hiterated : s.iterated = none := h .iteration
  have hcollected : s.collected = none := h .collection
  simp [Source.read, feed?, henumerated, hiterated, hcollected]

theorem kind_eq_ok_iff {kind : SourceKind} :
    s.kind = .ok kind ↔ ∃ way feed, s.Takes way feed ∧ way.kind = kind := by
  constructor
  . intro hkind
    obtain ⟨way, feed, htakes⟩ | hnothing := s.takes_or_offers_nothing
    . rw [htakes.kind, Except.ok.injEq] at hkind
      exact ⟨way, feed, htakes, hkind⟩
    . rw [kind_of_offers_nothing hnothing] at hkind
      contradiction
  . rintro ⟨way, feed, htakes, rfl⟩
    exact htakes.kind

theorem kind_eq_collector_iff :
    s.kind = .ok .collector ↔ ∃ feed, s.Takes .collection feed := by
  rw [kind_eq_ok_iff]
  constructor
  . rintro ⟨way, feed, htakes, hkind⟩
    cases way with
    | enumeration | iteration => contradiction
    | collection => exact ⟨feed, htakes⟩
  . rintro ⟨feed, htakes⟩
    exact ⟨_, feed, htakes, rfl⟩

theorem kind_eq_error_iff :
    s.kind = .error fault ↔ (∀ way, s.offer way = none) ∧ s.read = (.error fault, s) := by
  obtain ⟨way, feed, htakes⟩ | hnothing := s.takes_or_offers_nothing
  . rw [htakes.kind]
    constructor
    . intro h
      contradiction
    . rintro ⟨hnothing, -⟩
      have hoffer := htakes.offer
      rw [hnothing way] at hoffer
      contradiction
  . rw [kind_of_offers_nothing hnothing, read_of_offers_nothing hnothing]
    simp [hnothing]

theorem takes_shape (records : List FamilyRecord) (shape : Shape) :
    ∃ way feed, (shape.source records).Takes way feed ∧ feed.Yields records := by
  cases shape with
  | list | tuple => exact ⟨_, _, .iteration rfl rfl, .steady records⟩
  | generator => exact ⟨_, _, .iteration rfl rfl, .oneShot records⟩
  | registry => exact ⟨_, _, .enumeration rfl, .steady records⟩
  | collector => exact ⟨_, _, .collection rfl rfl rfl, .steady records⟩

theorem Takes.read_of_yields (htakes : s.Takes way feed) (hyields : feed.Yields records)
    {outcome : Except Fault (List Family)} {left : List FamilyRecord}
    (hgives : InTurn FamilyRecord.Gives records outcome left) :
    s.read =
      (outcome, { s.withOffer (feed.leaving left) way with reads := s.reads.map (· + 1) }) := by
  rw [FamilyRecord.inTurn_iff] at hgives
  rw [htakes.read, hyields.read, hgives]

theorem read_families (families : List Family) :
    (ofList (families.map .family)).read = (.ok families, ofList (families.map .family)) :=
  Takes.read_of_yields (.iteration rfl rfl) (.steady _) (FamilyRecord.inTurn_families families)

theorem exists_outcome_of_records (records : List FamilyRecord) :
    ∃ outcome left, InTurn FamilyRecord.Gives records outcome left ∧
      (∀ outcome' left', InTurn FamilyRecord.Gives records outcome' left' →
        outcome' = outcome ∧ left' = left) ∧
      (∀ families, outcome = .ok families → families.length = records.length ∧ left = [] ∧
        (ofList (families.map .family)).read = (.ok families, ofList (families.map .family))) ∧
      (∀ shape : Shape, ∃ way feed, (shape.source records).Takes way feed ∧ feed.Yields records) ∧
      (∀ (s : Source) (way : Way) (feed : Feed), s.Takes way feed → feed.Yields records →
        s.read = (outcome,
          { s.withOffer (feed.leaving left) way with reads := s.reads.map (· + 1) })) ∧
      ∀ s : Source, (s.kind = .ok .collector ↔ ∃ feed, s.Takes .collection feed) ∧
        ∀ fault, s.kind = .error fault ↔
          (∀ way, s.offer way = none) ∧ s.read = (.error fault, s) := by
  have hgives := FamilyRecord.inTurn_toFamilies records
  refine ⟨_, _, hgives, ?_, ?_, takes_shape records, ?_, ?_⟩
  . intro outcome' left' h
    exact h.unique (fun _ _ _ hx hy => hx.unique hy) hgives
  . intro families hfamilies
    rw [hfamilies] at hgives
    exact ⟨hgives.of_ok.1, hgives.of_ok.2, read_families families⟩
  . intro s way feed htakes hyields
    exact htakes.read_of_yields hyields hgives
  . exact fun s => ⟨kind_eq_collector_iff, fun _ => kind_eq_error_iff⟩

def unevenRecords : List FamilyRecord :=
  [.family ⟨.text "up", []⟩,
    .fields (some (.text "jobs"))
      (some [.fields
        ⟨some (.text "jobs"), some [.text "queue"], some [], none, some (.double .nan)⟩]),
    .value .null]

def unevenSource : Source :=
  ofFeeds (some (.oneShot unevenRecords)) none (some (.steady []))

def mappedRecords : List FamilyRecord :=
  [.fields (some (.text "jobs"))
    (some [.fields ⟨some (.text "jobs"), none, none,
      some (.dictionary [(.text "queue", .int 1)]), some (.bool true)⟩])]

def mappedFamilies : List Family :=
  [⟨.text "jobs", [.sample ⟨.text "jobs", [(.text "queue", .text "1")], .double (.ofInt 1)⟩]⟩]

theorem inTurn_mappedRecords :
    InTurn FamilyRecord.Gives mappedRecords (.ok mappedFamilies) [] := by
  have hlabel : GivesLabel (.text "queue", .int 1) (.ok (.text "queue", .text "1")) :=
    .entry (.text "queue") (.shown rfl (by decide +kernel))
  have hsample : SampleRecord.Gives (.fields ⟨some (.text "jobs"), none, none,
      some (.dictionary [(.text "queue", .int 1)]), some (.bool true)⟩)
      (.ok ⟨.text "jobs", [(.text "queue", .text "1")], .double (.ofInt 1)⟩) :=
    .fields (.mapping _ _ (.dictionary _) (.done (.cons hlabel .nil)) (.bool true))
  have hfamily := FamilyRecord.Gives.fields (.text "jobs") (.done (.cons hsample .nil))
  exact .done (.cons hfamily .nil)

theorem inTurn_unevenRecords : InTurn FamilyRecord.Gives unevenRecords
    (.error (.labelCount "'jobs'" 1 0)) [.value .null] := by
  have hshown : (Value.text "jobs").display = .ok "'jobs'" := by decide +kernel
  have hsamples : InTurn SampleRecord.Gives [.fields
      ⟨some (.text "jobs"), some [.text "queue"], some [], none, some (.double .nan)⟩]
      (.error (.labelCount "'jobs'" 1 0)) [] :=
    .cons_error (.fields (.count none (.done .nil) (.double .nan) (by decide) hshown))
  have hfamily := FamilyRecord.Gives.fields (.text "jobs") hsamples
  exact InTurn.cons_ok (.family _) (.cons_error hfamily)

theorem exists_outcome_of_records_unevenRecords :
    unevenSource.Takes .enumeration (.oneShot unevenRecords) ∧
      (Feed.oneShot unevenRecords).Yields unevenRecords ∧
      unevenSource.read = (.error (.labelCount "'jobs'" 1 0),
        { unevenSource with enumerated := some (.oneShot [.value .null]), reads := some 1 }) ∧
      (ofGenerator mappedRecords).Takes .iteration (.oneShot mappedRecords) ∧
      (Feed.oneShot mappedRecords).Yields mappedRecords ∧
      (ofGenerator mappedRecords).read = (.ok mappedFamilies, ofGenerator []) := by
  have htakes : unevenSource.Takes .enumeration (.oneShot unevenRecords) := .enumeration rfl
  have hyields : (Feed.oneShot unevenRecords).Yields unevenRecords := .oneShot _
  have htakes' : (ofGenerator mappedRecords).Takes .iteration (.oneShot mappedRecords) :=
    .iteration rfl rfl
  have hyields' : (Feed.oneShot mappedRecords).Yields mappedRecords := .oneShot _
  obtain ⟨outcome, left, -, hunique, -, -, hread, -⟩ := exists_outcome_of_records unevenRecords
  obtain ⟨rfl, rfl⟩ := hunique _ _ inTurn_unevenRecords
  obtain ⟨outcome, left, -, hunique', -, -, hread', -⟩ := exists_outcome_of_records mappedRecords
  obtain ⟨rfl, rfl⟩ := hunique' _ _ inTurn_mappedRecords
  refine ⟨htakes, hyields, ?_, htakes', hyields', ?_⟩
  . rw [hread _ _ _ htakes hyields]
    rfl
  . rw [hread' _ _ _ htakes' hyields']
    rfl

end Source

end MetricCheck
