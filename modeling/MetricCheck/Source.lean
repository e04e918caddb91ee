import MetricCheck.Family
import MetricCheck.Request

/-!
This module contains sources, the objects under test. A source offers its families in up to three
ways; reading it takes the first of them that it has, and takes it once.
-/

namespace MetricCheck

/--
A parser of texts that another library provides. It yields records one after another and may end
with a fault.
-/
abbrev Parser := String → List FamilyRecord × Option Fault

inductive Feed where
  /-- The same records on every read. -/
  | steady (records : List FamilyRecord)
  /-- Each record once. A reading that fails has consumed the record it failed at. -/
  | oneShot (records : List FamilyRecord)
  /-- The families of a text, which every read parses. -/
  | exposition (parse : Parser) (text : String)

def Feed.read : Feed → Except Fault (List Family) × Feed
  | steady records => ((FamilyRecord.toFamilies records).1, steady records)
  | oneShot records =>
    let (families, left) := FamilyRecord.toFamilies records
    (families, oneShot left)
  | exposition parse text =>
    let (records, fault?) := parse text
    -- The records before a fault are adapted first, so theirs is the fault that counts.
    let families := do
      let families ← (FamilyRecord.toFamilies records).1
      match fault? with
      | none => return families
      | some fault => throw fault
    (families, exposition parse text)

inductive Renewal where
  | taken
  | ignored
  | refused
  deriving DecidableEq

/--
An object under test. It may enumerate its families, be a row of families, or collect them; an
object that does neither has its type reported. `reads` tells how often it has been read, if it
counts that.
-/
structure Source where
  typeName : String
  enumerated : Option Feed
  iterated : Option Feed
  collected : Option Feed
  renewal : Renewal
  reads : Option Nat

instance : Inhabited Source := ⟨⟨"", none, none, none, .refused, none⟩⟩

abbrev Reader (σ : Type) := σ → Except Fault (List Family) × σ

namespace Source

def ofList (records : List FamilyRecord) : Source :=
  ⟨"list", none, some (.steady records), none, .taken, none⟩

def ofTuple (records : List FamilyRecord) : Source :=
  ⟨"tuple", none, some (.steady records), none, .refused, none⟩

def ofGenerator (records : List FamilyRecord) : Source :=
  ⟨"generator", none, some (.oneShot records), none, .refused, none⟩

def ofValue : Value → Source
  | .list items => ofList (items.map .value)
  | .tuple items => ofTuple (items.map .value)
  | .object _ className => ⟨className, none, none, none, .ignored, none⟩
  | .foreign _ className _ _ => ⟨className, none, none, none, .ignored, none⟩
  | .predicate _ p => ⟨p.className, none, none, none, .ignored, none⟩
  | v => ⟨v.typeName, none, none, none, .refused, none⟩

def ofExposition (parse : Parser) (text : String) : Source :=
  ⟨"exposition", some (.exposition parse text), none, none, .ignored, none⟩

def ofEncodedExposition (parse : Parser) (bytes : List UInt8) : Except Fault Source :=
  match String.fromUTF8? ⟨bytes.toArray⟩ with
  | some text => .ok (ofExposition parse text)
  | none => .error .invalidEncoding

def ofFeeds (enumerated iterated collected : Option Feed) : Source :=
  ⟨"source", enumerated, iterated, collected, .taken, some 0⟩

def kind (s : Source) : Except Fault SourceKind :=
  if s.enumerated.isSome || s.iterated.isSome then .ok .registry
  else if s.collected.isSome then .ok .collector
  else .error (.unsupportedSource s.typeName)

def setFeed (s : Source) (feed : Feed) : Source :=
  match s.enumerated, s.iterated with
  | some _, _ => { s with enumerated := some feed }
  | none, some _ => { s with iterated := some feed }
  | none, none => { s with collected := s.collected.map fun _ => feed }

def feed? (s : Source) : Option Feed :=
  s.enumerated <|> s.iterated <|> s.collected

def read : Reader Source := fun s =>
  match s.feed? with
  | none => (.error (.unsupportedSource s.typeName), s)
  | some feed =>
    let (families, left) := feed.read
    (families, { s.setFeed left with reads := s.reads.map (· + 1) })

def renew (s : Source) (records : List FamilyRecord) : Except Fault Source :=
  match s.renewal with
  | .taken => .ok (s.setFeed (.steady records))
  | .ignored => .ok s
  | .refused => .error .missingMember

def readCount (s : Source) : Except Fault Nat :=
  requireField s.reads

end Source

end MetricCheck
