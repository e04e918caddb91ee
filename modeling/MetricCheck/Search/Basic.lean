import MetricCheck.Family
import MetricCheck.Search.Labels

/-!
This module contains the search of a snapshot for the sample that a request asks for. Families are
searched in order, and the search stops as soon as nothing can change its verdict. Families and
samples need only the fields that the search comes to, and what was noted before a fault stays in
the report.
-/

namespace MetricCheck

inductive Finding where
  | otherName
  | named
  | labelled (value : Value) (verdict : Except Fault Bool)
  | mislabelled (record : LabelRecord)

namespace Request

def acceptsValue (r : Request) (v : Value) : Except Fault Bool :=
  match r.valueRule with
  | some p => p.accepts v
  | none => .ok true

def judge (r : Request) (s : SampleRecord) : Except Fault Finding := do
  if ← (← s.name).startsWith r.name then
    if r.isConstrained then
      let labels ← s.labels
      let record ← checkLabels r.rules labels
      if record.isFullMatch then
        let value ← s.observed
        return .labelled value (r.acceptsValue value)
      else return .mislabelled { record with labels := ← Value.putEntries [] labels }
    else return .named
  else return .otherName

/--
Search a row of samples. The verdict is that of the last sample whose name and labels fit, or
`found` if there is none; a request for a present sample stops at the first one that it accepts.
-/
def searchSamples (r : Request) (found : Bool) (report : Report) :
    List SampleRecord → Report × Except Fault Bool
  | [] => (report, .ok found)
  | s :: rest =>
    match (do report.addSampleName (← s.name)) with
    | .error fault => (report, .error fault)
    | .ok report =>
      match r.judge s with
      | .error fault => (report, .error fault)
      | .ok .otherName => r.searchSamples found report rest
      | .ok .named => if r.present then (report, .ok true) else r.searchSamples true report rest
      | .ok (.labelled value verdict) =>
        -- The value is noted before its verdict counts, even if that is a fault.
        match (do report.addValue (← s.name) value) with
        | .error fault => (report, .error fault)
        | .ok report =>
          match verdict with
          | .error fault => (report, .error fault)
          | .ok accepted =>
            if accepted && r.present then (report, .ok true)
            else r.searchSamples accepted report rest
      | .ok (.mislabelled record) => r.searchSamples found (report.addRecord record) rest

def searchFamily (r : Request) (family : FamilyRecord) (report : Report) :
    Report × Except Fault Bool :=
  match family.samples with
  | .error fault => (report, .error fault)
  | .ok samples => r.searchSamples false report samples

inductive Candidacy where
  | unrelated
  | extending
  /-- The requested name starts with the family's name, as the names of its samples do. -/
  | derived
  deriving DecidableEq

def candidacy (r : Request) (family : FamilyRecord) : Except Fault Candidacy := do
  let name ← family.name
  if ← name.startsWith r.name then return .extending
  else if ← r.name.startsWith name then return .derived
  else return .unrelated

/--
Whether a search that has found its sample is over. Only a request for the absence of a name goes
on, to name all families in its explanation.
-/
def stopsWhenFound (r : Request) : Bool :=
  r.isConstrained || r.present

/--
Search a row of families. A family that extends the requested name sets the verdict anew, and a
derived one can only confirm it.
-/
def searchFamilies (r : Request) (found : Bool) (report : Report) :
    List FamilyRecord → Report × Except Fault Bool
  | [] => (report, .ok found)
  | family :: rest =>
    match (do report.addFamilyName (← family.name)) with
    | .error fault => (report, .error fault)
    | .ok report =>
      match r.candidacy family with
      | .error fault => (report, .error fault)
      | .ok .unrelated => r.searchFamilies found report rest
      | .ok candidacy =>
        let (report, verdict) :=
          if candidacy = .extending && !r.isConstrained then (report, .ok true)
          else r.searchFamily family report
        match verdict with
        | .error fault => (report, .error fault)
        | .ok own =>
          let found := if candidacy = .derived then own || found else own
          if found && r.stopsWhenFound then (report, .ok found)
          else r.searchFamilies found report rest

def evaluate (r : Request) (families : List FamilyRecord) : Except Fault Report :=
  let (report, verdict) := r.searchFamilies false .empty families
  verdict.map fun found => { report with matched := r.present == found }

end Request

end MetricCheck
