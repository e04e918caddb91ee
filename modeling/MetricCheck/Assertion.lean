import MetricCheck.Explanation
import MetricCheck.Search.Basic
import MetricCheck.Source

/-!
This module contains assertions: a request is held against a source, which is read exactly once each
time, and a failed assertion says what was expected and what was found instead.
-/

namespace MetricCheck

def hasMetric (name : Value) : Except Fault Request :=
  Request.ofName name true .registry

def lacksMetric (name : Value) : Except Fault Request :=
  Request.ofName name false .registry

def collectsMetric (name : Value) : Except Fault Request :=
  Request.ofName name true .collector

def omitsMetric (name : Value) : Except Fault Request :=
  Request.ofName name false .collector

inductive Outcome where
  | passed
  | failed (message : String)
  deriving DecidableEq

namespace Request

variable {σ : Type}

def check (r : Request) (read : Reader σ) (s : σ) : Except Fault Report × σ :=
  let (families, s) := read s
  (families >>= fun fs => r.evaluate (fs.map .family), s)

def holds (r : Request) (read : Reader σ) (s : σ) : Except Fault Bool × σ :=
  let (report, s) := r.check read s
  (report.map Report.matched, s)

def explain (r : Request) (read : Reader σ) (s : σ) : Except Fault String × σ :=
  let (report, s) := r.check read s
  (report >>= r.mismatchText, s)

def failureMessage (r : Request) (reason : Value) (report : Report) : Except Fault String := do
  let reason ← reason.asText
  let expectation ← r.expectationText
  let mismatch ← r.mismatchText report
  return reason ++ "\nExpected: " ++ expectation ++ "\n     but: " ++ mismatch

def outcome (r : Request) (reason : Value) (report : Report) : Except Fault Outcome :=
  if report.matched then .ok .passed
  else (r.failureMessage reason report).map .failed

def assertThat (r : Request) (reason : Value) (read : Reader σ) (s : σ) :
    Except Fault Outcome × σ :=
  let (report, s) := r.check read s
  (report >>= r.outcome reason, s)

def display (r : Request) : Except Fault String :=
  r.expectationText.map fun s => "<MetricMatcher " ++ Text.literal s ++ ">"

end Request

end MetricCheck
