import MetricCheck.Sample.Record

/-!
This module contains families, the named groups of samples that a snapshot consists of, and the
records that stand for them. Records are adapted in order, and the first one that does not fit ends
the reading.
-/

namespace MetricCheck

/--
A named group of related samples. It takes them as they are given, even records that no sample can
be made of.
-/
structure Family where
  name : Value
  samples : List SampleRecord

instance : Inhabited Family := ⟨⟨.null, []⟩⟩

def Family.same (a b : Family) : Bool :=
  a.name.same b.name && SampleRecord.sameAll a.samples b.samples

inductive FamilyRecord where
  | family (f : Family)
  | fields (name : Option Value) (samples : Option (List SampleRecord))
  | value (v : Value)

instance : Inhabited FamilyRecord := ⟨.family default⟩

namespace FamilyRecord

def name : FamilyRecord → Except Fault Value
  | family f => .ok f.name
  | fields name _ => requireField name
  | value _ => .error .missingMember

def samples : FamilyRecord → Except Fault (List SampleRecord)
  | family f => .ok f.samples
  | fields _ samples => requireField samples
  | value _ => .error .missingMember

def toFamily : FamilyRecord → Except Fault Family
  | family f => .ok f
  | value _ => .error .missingMember
  | fields name samples => do
    let name ← requireField name
    let samples ← (← requireField samples).mapM SampleRecord.toSample
    return ⟨name, samples.map .sample⟩

def toFamilies : List FamilyRecord → Except Fault (List Family) × List FamilyRecord
  | [] => (.ok [], [])
  | record :: rest =>
    match record.toFamily with
    | .error fault => (.error fault, rest)
    | .ok f =>
      let (families, left) := toFamilies rest
      (families.map (f :: ·), left)

def same : FamilyRecord → FamilyRecord → Bool
  | family f, family g => f.same g
  | fields name samples, fields name' samples' =>
    sameField Value.same name name' && sameField SampleRecord.sameAll samples samples'
  | value v, value w => v.same w
  | _, _ => false

end FamilyRecord

end MetricCheck
