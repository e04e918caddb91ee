import MetricCheck.Sample

/-!
This module contains the records that stand for samples. A record is a sample, an object with some
of the fields of one, or a value without any; a search reads the fields it needs, and an adaptation
turns the whole record into a sample.
-/

namespace MetricCheck

structure SampleFields where
  name : Option Value
  labelNames : Option (List Value)
  labelValues : Option (List Value)
  labels : Option Value
  value : Option Value

inductive SampleRecord where
  | sample (s : Sample)
  | fields (fields : SampleFields)
  | value (v : Value)

instance : Inhabited SampleRecord := ⟨.sample default⟩

def requireField {α : Type} (field : Option α) : Except Fault α :=
  match field with
  | some a => .ok a
  | none => .error .missingMember

def sameField {α : Type} (same : α → α → Bool) : Option α → Option α → Bool
  | none, none => true
  | some a, some b => same a b
  | _, _ => false

def SampleFields.same (a b : SampleFields) : Bool :=
  sameField Value.same a.name b.name && sameField Value.sameAll a.labelNames b.labelNames &&
    sameField Value.sameAll a.labelValues b.labelValues &&
    sameField Value.same a.labels b.labels && sameField Value.same a.value b.value

namespace SampleRecord

def name : SampleRecord → Except Fault Value
  | sample s => .ok s.name
  | fields record => requireField record.name
  | value _ => .error .missingMember

def labelNames : SampleRecord → Except Fault (List Value)
  | sample s => .ok s.labelNames
  | fields record => requireField record.labelNames
  | value _ => .error .missingMember

def labelValues : SampleRecord → Except Fault (List Value)
  | sample s => .ok s.labelValues
  | fields record => requireField record.labelValues
  | value _ => .error .missingMember

def labels : SampleRecord → Except Fault (List (Value × Value))
  | sample s => .ok s.labels
  | fields record => do
    return (← requireField record.labelNames).zip (← requireField record.labelValues)
  | value _ => .error .missingMember

def labelMap : SampleRecord → Except Fault (List (Value × Value))
  | sample s => s.labelMap
  | fields record => do requireField (← requireField record.labels).dictionary?
  | value _ => .error .missingMember

def observed : SampleRecord → Except Fault Value
  | sample s => .ok s.value
  | fields record => requireField record.value
  | value _ => .error .missingMember

/--
The sample that a record stands for. An object with a row of label names is read by rows, and any
other by its dictionary of labels; label values become texts and the value a number.
-/
def toSample : SampleRecord → Except Fault Sample
  | sample s => .ok s
  | value _ => .error .missingMember
  | fields record => do
    let name ← requireField record.name
    match record.labelNames with
    | some names =>
      let values ← (← requireField record.labelValues).mapM fun v => return .text (← v.asText)
      let value ← (← requireField record.value).toDouble
      Sample.ofColumns name names values (.double value)
    | none => Sample.ofLabels name (record.labels.getD .null) (← requireField record.value)

def same : SampleRecord → SampleRecord → Bool
  | sample s, sample t => s.same t
  | fields a, fields b => a.same b
  | value v, value w => v.same w
  | _, _ => false

def sameAll : List SampleRecord → List SampleRecord → Bool
  | [], [] => true
  | a :: as, b :: bs => a.same b && sameAll as bs
  | _, _ => false

theorem labels_eq (r : SampleRecord) :
    r.labels = (do return (← r.labelNames).zip (← r.labelValues)) := by
  cases r with
  | sample s =>
    have hzip : s.labelNames.zip s.labelValues = s.labels := by
      simp [Sample.labelNames, Sample.labelValues, List.zip_map']
    exact congrArg Except.ok hzip.symm
  | fields record => rfl
  | value v => rfl

end SampleRecord

end MetricCheck
