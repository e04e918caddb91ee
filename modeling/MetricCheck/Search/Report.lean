import MetricCheck.Value.Order

/-!
This module contains the report of a search: its verdict, and what it saw on the way, so that a
failed assertion can be explained without looking at the source again.
-/

namespace MetricCheck

structure LabelMismatch where
  name : Predicate
  expected : Predicate
  actual : Value

/--
How the labels of one sample fit the rules: the names of the rules that no label name fits, and the
labels with a wrong value. A record that goes into a report also has the labels.
-/
structure LabelRecord where
  labels : List (Value × Value)
  missing : List Predicate
  mismatches : List LabelMismatch

instance : Inhabited LabelRecord := ⟨⟨[], [], []⟩⟩

def LabelRecord.isFullMatch (record : LabelRecord) : Bool :=
  record.missing.isEmpty && record.mismatches.isEmpty

/--
What a search found and saw. Values are kept under the name of their sample; the names of families
and samples are distinct.
-/
structure Report where
  matched : Bool
  values : List (Value × List Value)
  records : List LabelRecord
  familyNames : List Value
  sampleNames : List Value

namespace Report

def empty : Report :=
  ⟨false, [], [], [], []⟩

instance : Inhabited Report := ⟨empty⟩

def addUnder (name value : Value) : List (Value × List Value) → List (Value × List Value)
  | [] => [(name, [value])]
  | (k, vs) :: rest =>
    if k.same name then (k, vs ++ [value]) :: rest else (k, vs) :: addUnder name value rest

def addValue (report : Report) (name value : Value) : Except Fault Report :=
  if name.isKey then .ok { report with values := addUnder name value report.values }
  else .error .wrongType

def addRecord (report : Report) (record : LabelRecord) : Report :=
  { report with records := report.records ++ [record] }

def addFamilyName (report : Report) (name : Value) : Except Fault Report :=
  if name.isKey then
    .ok { report with familyNames := Value.addDistinct report.familyNames name }
  else .error .wrongType

def addSampleName (report : Report) (name : Value) : Except Fault Report :=
  if name.isKey then
    .ok { report with sampleNames := Value.addDistinct report.sampleNames name }
  else .error .wrongType

def sortedValues (report : Report) : Except Fault (List (Value × List Value)) :=
  Value.sortBy Prod.fst report.values

def sortedFamilyNames (report : Report) : Except Fault (List Value) :=
  Value.sort report.familyNames

def sortedSampleNames (report : Report) : Except Fault (List Value) :=
  Value.sort report.sampleNames

end Report

end MetricCheck
