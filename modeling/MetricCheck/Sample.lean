import MetricCheck.Predicate.Basic

/-!
This module contains samples, the single observations of a metric.
-/

namespace MetricCheck

/--
A single observation. The labels stand in the order in which the source gives them, and a label name
may repeat.
-/
structure Sample where
  name : Value
  labels : List (Value × Value)
  value : Value

instance : Inhabited Sample := ⟨⟨.null, [], .null⟩⟩

namespace Sample

def labelNames (s : Sample) : List Value :=
  s.labels.map Prod.fst

def labelValues (s : Sample) : List Value :=
  s.labels.map Prod.snd

def ofColumns (name : Value) (names values : List Value) (value : Value) : Except Fault Sample :=
  if names.length = values.length then .ok ⟨name, names.zip values, value⟩
  else do throw (.labelCount (← name.display) names.length values.length)

def labelEntries (labels : Value) : Except Fault (List (Value × Value)) :=
  -- Whatever counts as false stands for no labels.
  if labels.countsAsFalse then .ok []
  else
    match labels.dictionary? with
    | some entries => .ok entries
    | none => .error .missingMember

def ofLabels (name labels value : Value) : Except Fault Sample := do
  let entries ← labelEntries labels
  let labels ← entries.mapM fun (name, value) => return (name, .text (← value.asText))
  return ⟨name, labels, .double (← value.toDouble)⟩

/--
The labels by name: each name once, in its first place and with its last value.
-/
def labelMap (s : Sample) : Except Fault (List (Value × Value)) :=
  Value.putEntries [] s.labels

def same (a b : Sample) : Bool :=
  a.name.same b.name && Value.sameAll a.labelNames b.labelNames &&
    Value.sameAll a.labelValues b.labelValues && a.value.same b.value

@[simp]
theorem labelNames_zip {name value : Value} {names values : List Value}
    (h : names.length = values.length) :
    labelNames ⟨name, names.zip values, value⟩ = names :=
  List.map_fst_zip (by omega)

@[simp]
theorem labelValues_zip {name value : Value} {names values : List Value}
    (h : names.length = values.length) :
    labelValues ⟨name, names.zip values, value⟩ = values :=
  List.map_snd_zip (by omega)

end Sample

end MetricCheck
