import MetricCheck.Request
import MetricCheck.Search.Report

/-!
This module contains the explanations of assertions: what a request expects, and why a report does
not come out as expected. Names and expected texts are quoted, so that a reader can tell them apart.
-/

namespace MetricCheck

namespace Explanation

def indented : String := "\n          "

def bullet : String := indented ++ "- "

def nameList (heading : String) (names : List Value) : Rendering :=
  Rendering.enclosed (heading ++ bullet) bullet "" (names.map Value.render)

def valueLine (name : Value) (values : List Value) : Rendering :=
  Rendering.enclosed bullet ", " " for sample " (values.map Value.render) ++ name.render

def labelTuple (labels : List (Value × Value)) : Except Fault String := do
  let parts ← labels.mapM fun (name, value) => return (← name.asText) ++ "=" ++ (← value.asText)
  return "(" ++ ", ".intercalate parts ++ ")"

def mismatchLine (mismatch : LabelMismatch) : Rendering :=
  Rendering.ofText "\n  - for " ++ mismatch.name.describe ++
    Rendering.ofText " expected: " ++ mismatch.expected.describe ++
    Rendering.ofText " but got: " ++ mismatch.actual.render

def labelFaults (record : LabelRecord) : Rendering :=
  (if record.missing.isEmpty then Rendering.empty
    else Rendering.ofText "\n  missing names: " ++
      Rendering.separated ", " (record.missing.map Predicate.describe)) ++
  (if record.mismatches.isEmpty then Rendering.empty
    else Rendering.ofText "\n  unmatched label values:" ++
      Rendering.concat (record.mismatches.map mismatchLine)) ++
  Rendering.ofText "\n"

def recordBlock (present : Bool) (record : LabelRecord) : Rendering :=
  Rendering.ofText "\n" ++ Rendering.ofExcept (labelTuple record.labels) ++
    -- Where a sample should be absent, its labels say enough.
    (if present then labelFaults record else Rendering.empty)

def byValues (r : Request) (rule : Predicate) (report : Report) : Rendering :=
  Rendering.ofText ((if r.present then "no" else "a") ++ " value matches: ") ++ rule.describe ++
    Rendering.ofText (indented ++ "found values: ") ++
    match report.sortedValues with
    | .error fault => Rendering.fail fault
    | .ok values => Rendering.concat (values.map fun (name, vs) => valueLine name vs)

def byLabels (r : Request) (report : Report) : Rendering :=
  Rendering.ofText ("labels did" ++ (if r.present then " not" else "") ++ " match:") ++
    Rendering.concat (report.records.map (recordBlock r.present))

def byNames (r : Request) (familyNames sampleNames : List Value) : Rendering :=
  (if r.present then
    Rendering.ofText "no metric with name: " ++ r.name.render ++ Rendering.ofText indented
    else Rendering.empty) ++
  (if familyNames.isEmpty then Rendering.empty
    else nameList "found metric names:" familyNames) ++
  (if familyNames.isEmpty || sampleNames.isEmpty then Rendering.empty
    else Rendering.ofText indented) ++
  (if sampleNames.isEmpty then Rendering.empty
    else nameList "found metric sample names:" sampleNames)

end Explanation

namespace Request

/--
Explain why a report did not come out as the request expected. The first explanation that applies is
given: by values if there are any and the request has a rule for them, by labels if any did not fit,
and by names otherwise.
-/
def renderMismatch (r : Request) (report : Report) : Rendering :=
  match report.values, r.valueRule with
  | _ :: _, some rule => Explanation.byValues r rule report
  | _, _ =>
    if report.records.isEmpty then
      match (do return (← report.sortedFamilyNames, ← report.sortedSampleNames)) with
      | .error fault => Rendering.fail fault
      | .ok (familyNames, sampleNames) => Explanation.byNames r familyNames sampleNames
    else Explanation.byLabels r report

def renderExpectation (r : Request) : Rendering :=
  Rendering.ofText ("a " ++ r.kind.title ++ (if r.present then "" else " not") ++
    " containing a sample with name: ") ++ r.name.render ++
  (match r.valueRule with
    | some rule => Rendering.ofText " value: " ++ rule.describe
    | none => Rendering.empty) ++
  (if r.rules.isEmpty then Rendering.empty
    else Rendering.ofText " and labels:\n" ++
      Rendering.concat (r.rules.map fun rule =>
        rule.name.describe ++ Rendering.ofText "=" ++ rule.value.describe ++
          Rendering.ofText "\n"))

def mismatchText (r : Request) (report : Report) : Except Fault String :=
  (r.renderMismatch report).complete

def expectationText (r : Request) : Except Fault String :=
  r.renderExpectation.complete

end Request

end MetricCheck
