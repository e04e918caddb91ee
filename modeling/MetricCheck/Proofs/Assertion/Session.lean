import MetricCheck.Proofs.Assertion.Total
import MetricCheck.Proofs.Request.Narrowing
import MetricCheck.Proofs.Search.Growth

/-!
This module contains sessions, in which one request is narrowed and held against sources again and
again. Sources may be read differently every time. Each question is answered from a reading of its
own, and only narrowing changes the request.
-/

namespace MetricCheck

def Reader.frozen (snapshot : Except Fault (List Family)) : Reader Unit :=
  fun _ => (snapshot, ())

def Reader.counted {σ : Type} (read : Reader σ) : Reader (σ × Nat) :=
  fun (s, count) => ((read s).1, (read s).2, count + 1)

inductive Question where
  | report
  | holds
  | explain
  | assertThat (reason : String)

inductive Call (σ : Type) where
  | narrow (step : Request.Step)
  | describe
  | ask (question : Question) (read : Reader σ)

def Request.narrowing (r : Request) (step : Request.Step) : Except Fault Unit :=
  match (Request.narrow step).run r with
  | .ok _ _ => .ok ()
  | .error fault _ => .error fault

inductive Answer where
  | narrowed (done : Except Fault Unit)
  | text (text : Except Fault String)
  | report (report : Except Fault Report)
  | verdict (holds : Except Fault Bool)
  | outcome (outcome : Except Fault Outcome)

/--
The request and the state of the sources at a point of a session, with the answers up to there.
-/
structure Session (σ : Type) where
  request : Request
  state : σ
  answers : List Answer

variable {σ : Type} {r : Request} {s : σ} {read : Reader σ} {families : List Family}
  {report : Report} {expectation mismatch : String}

namespace Question

def put (r : Request) (read : Reader σ) (s : σ) : Question → Answer × σ
  | .report =>
    let (report, s) := r.check read s
    (.report report, s)
  | .holds =>
    let (verdict, s) := r.holds read s
    (.verdict verdict, s)
  | .explain =>
    let (text, s) := r.explain read s
    (.text text, s)
  | .assertThat reason =>
    let (outcome, s) := r.assertThat (.text reason) read s
    (.outcome outcome, s)

def answer (report : Report) (expectation mismatch : String) : Question → Answer
  | .report => .report (.ok report)
  | .holds => .verdict (.ok report.matched)
  | .explain => .text (.ok mismatch)
  | .assertThat reason => .outcome (.ok (if report.matched then .passed
      else .failed (reason ++ "\nExpected: " ++ expectation ++ "\n     but: " ++ mismatch)))

end Question

structure Request.Explains (r : Request) (families : List Family) (report : Report)
    (expectation mismatch : String) : Prop where
  reports : r.evaluate (families.map .family) = .ok report
  expects : r.expectationText = .ok expectation
  finds : r.mismatchText report = .ok mismatch

theorem Request.exists_explains {matched : Bool}
    (hverdict : r.verdict (families.map .family) = .ok matched)
    (hexpects : r.expectationText = .ok expectation)
    (hfinds : (do r.mismatchText (← r.evaluate (families.map .family))) = .ok mismatch) :
    ∃ report, r.Explains families report expectation mismatch ∧ report.matched = matched := by
  obtain ⟨report, hreport, hmatched⟩ := evaluate_of_verdict hverdict
  rw [hreport] at hfinds
  exact ⟨report, ⟨hreport, hexpects, hfinds⟩, hmatched⟩

namespace Question

theorem put_eq (r : Request) (read : Reader σ) (s : σ) (question : Question) :
    question.put r read s = ((question.put r (.frozen (read s).1) ()).1, (read s).2) := by
  cases question <;> rfl

theorem put_of_explains (hread : (read s).1 = .ok families)
    (h : r.Explains families report expectation mismatch) (question : Question) :
    (question.put r read s).1 = question.answer report expectation mismatch := by
  have hcheck : (r.check read s).1 = .ok report := by
    change ((read s).1 >>= fun fs => r.evaluate (fs.map .family)) = .ok report
    rw [hread]
    exact h.reports
  cases question with
  | report => exact congrArg Answer.report hcheck
  | holds =>
    change Answer.verdict ((r.check read s).1.map Report.matched) = _
    rw [hcheck]
    rfl
  | explain =>
    change Answer.text ((r.check read s).1 >>= r.mismatchText) = _
    rw [hcheck]
    exact congrArg Answer.text h.finds
  | assertThat reason =>
    change Answer.outcome (r.assertThat (.text reason) read s).1 = _
    rw [Request.assertThat_of_report hread h.reports, Request.outcome_eq h.expects h.finds]
    rfl

end Question

namespace Call

def step? : Call σ → Option Request.Step
  | narrow step => some step
  | _ => none

def reads : Call σ → Bool
  | ask _ _ => true
  | _ => false

def leaves (s : σ) : Call σ → σ
  | ask _ read => (read s).2
  | _ => s

def counted : Call σ → Call (σ × Nat)
  | narrow step => narrow step
  | describe => describe
  | ask question read => ask question read.counted

def answer (r : Request) (s : σ) : Call σ → Answer
  | narrow step => .narrowed (r.narrowing step)
  | describe => .text r.expectationText
  | ask question read => (question.put r (.frozen (read s).1) ()).1

def steps (calls : List (Call σ)) : List Request.Step :=
  calls.filterMap step?

def stateAfter (calls : List (Call σ)) (s : σ) : σ :=
  calls.foldl leaves s

theorem stateAfter_counted (calls : List (Call σ)) (s : σ) (count : Nat) :
    stateAfter (calls.map counted) (s, count) =
      (stateAfter calls s, count + calls.countP reads) := by
  induction calls generalizing s count with
  | nil => rfl
  | cons call rest ih =>
    cases call with
    | narrow step => exact ih s count
    | describe => exact ih s count
    | ask question read =>
      have hrest := ih (read s).2 (count + 1)
      rw [List.countP_cons_of_pos rfl, Nat.add_comm _ 1, ← Nat.add_assoc]
      exact hrest

end Call

namespace Session

def start (r : Request) (s : σ) : Session σ :=
  ⟨r, s, []⟩

def perform (session : Session σ) : Call σ → Session σ
  | .narrow step =>
    let answer := .narrowed (session.request.narrowing step)
    ⟨session.request.narrowed step, session.state, session.answers ++ [answer]⟩
  | .describe =>
    { session with answers := session.answers ++ [.text session.request.expectationText] }
  | .ask question read =>
    let (answer, state) := question.put session.request read session.state
    { session with state, answers := session.answers ++ [answer] }

def run (session : Session σ) (calls : List (Call σ)) : Session σ :=
  calls.foldl perform session

variable (session : Session σ) (call : Call σ) (calls : List (Call σ))

theorem request_perform :
    (session.perform call).request = session.request.narrowedBy call.step?.toList := by
  cases call <;> rfl

theorem state_perform : (session.perform call).state = call.leaves session.state := by
  cases call with
  | narrow | describe => rfl
  | ask question read =>
    change (question.put session.request read session.state).2 = _
    rw [Question.put_eq]
    rfl

theorem answers_perform :
    (session.perform call).answers =
      session.answers ++ [call.answer session.request session.state] := by
  cases call with
  | narrow | describe => rfl
  | ask question read =>
    change session.answers ++ [(question.put session.request read session.state).1] = _
    rw [Question.put_eq]
    rfl

theorem request_run :
    (session.run calls).request = session.request.narrowedBy (Call.steps calls) := by
  induction calls generalizing session with
  | nil => rfl
  | cons call rest ih =>
    have hrest := ih (session.perform call)
    rw [request_perform] at hrest
    cases call <;> exact hrest

theorem state_run : (session.run calls).state = Call.stateAfter calls session.state := by
  induction calls generalizing session with
  | nil => rfl
  | cons call rest ih =>
    have hrest := ih (session.perform call)
    rw [state_perform] at hrest
    exact hrest

theorem exists_answers_run : ∃ later, later.length = calls.length ∧
    (session.run calls).answers = session.answers ++ later := by
  induction calls generalizing session with
  | nil => exact ⟨[], rfl, (List.append_nil _).symm⟩
  | cons call rest ih =>
    obtain ⟨later, hlength, hlater⟩ := ih (session.perform call)
    rw [answers_perform, List.append_assoc] at hlater
    exact ⟨_, congrArg (· + 1) hlength, hlater⟩

theorem answer_run (before after : List (Call σ)) :
    ((start r s).run (before ++ call :: after)).answers[before.length]? =
      some (call.answer (r.narrowedBy (Call.steps before)) (Call.stateAfter before s)) := by
  -- Answers are only ever added at the end, so this one stays in its place.
  obtain ⟨earlier, hlength, hearlier⟩ := (start r s).exists_answers_run before
  obtain ⟨later, -, hlater⟩ := (((start r s).run before).perform call).exists_answers_run after
  have hrun : (start r s).run (before ++ call :: after) =
      (((start r s).run before).perform call).run after := List.foldl_append
  rw [hrun, hlater, answers_perform, hearlier, request_run, state_run, ← hlength]
  simp [start]

theorem reads_once (r : Request) (s : σ) (calls : List (Call σ)) :
    (∀ (reason : String) (read : Reader σ) (families : List Family) (report : Report)
        (expectation mismatch : String), (read s).1 = .ok families →
        r.Explains families report expectation mismatch →
        r.assertThat (.text reason) read s = (.ok (if report.matched then .passed
          else .failed (reason ++ "\nExpected: " ++ expectation ++ "\n     but: " ++ mismatch)),
          (read s).2)) ∧
      ((start r s).run calls).request = r.narrowedBy (Call.steps calls) ∧
      ((start r s).run calls).state = Call.stateAfter calls s ∧
      ((start r (s, 0)).run (calls.map Call.counted)).state =
        (Call.stateAfter calls s, calls.countP Call.reads) ∧
      (∀ before call after, calls = before ++ call :: after →
        ((start r s).run calls).answers[before.length]? =
          some (call.answer (r.narrowedBy (Call.steps before)) (Call.stateAfter before s))) ∧
      ∀ before question read after families report expectation mismatch,
        calls = before ++ .ask question read :: after →
        (read (Call.stateAfter before s)).1 = .ok families →
        (r.narrowedBy (Call.steps before)).Explains families report expectation mismatch →
        ((start r s).run calls).answers[before.length]? =
          some (question.answer report expectation mismatch) := by
  refine ⟨?_, request_run _ _, state_run _ _, ?_, ?_, ?_⟩
  . intro reason read families report expectation mismatch hread hexplains
    rw [← Request.outcome_eq hexplains.expects hexplains.finds,
      ← Request.assertThat_of_report hread hexplains.reports]
    rfl
  . have hcounted := Call.stateAfter_counted calls s 0
    rw [Nat.zero_add] at hcounted
    rw [state_run]
    exact hcounted
  . rintro before call after rfl
    exact answer_run call before after
  . rintro before question read after families report expectation mismatch rfl hread hexplains
    rw [answer_run, Call.answer, ← Question.put_of_explains hread hexplains question,
      Question.put_eq _ read]

def drainedSource : Source :=
  .ofFeeds none none (some (.oneShot [.family ⟨.text "jobs", []⟩]))

def collectsJobs : Request :=
  ⟨.text "jobs", true, .collector, [], none⟩

def repeatedCalls : List (Call Source) :=
  [.ask .holds Source.read, .ask (.assertThat "late") Source.read]

theorem reads_once_repeatedCalls :
    collectsMetric (.text "jobs") = .ok collectsJobs ∧
      ∃ first second mismatch,
        collectsJobs.Explains [⟨.text "jobs", []⟩] first
          "a Collector containing a sample with name: \"jobs\"" mismatch ∧
        collectsJobs.Explains [] second "a Collector containing a sample with name: \"jobs\""
          "no metric with name: \"jobs\"\n          " ∧
        ((start collectsJobs drainedSource).run repeatedCalls).state.reads = some 2 ∧
        ((start collectsJobs drainedSource).run repeatedCalls).answers[0]? =
          some (.verdict (.ok true)) ∧
        ((start collectsJobs drainedSource).run repeatedCalls).answers[1]? =
          some (.outcome (.ok (.failed ("late" ++ "\nExpected: " ++
            "a Collector containing a sample with name: \"jobs\"" ++ "\n     but: " ++
            "no metric with name: \"jobs\"\n          ")))) := by
  have hexpects : collectsJobs.expectationText =
      .ok "a Collector containing a sample with name: \"jobs\"" := by decide +kernel
  have hfirst : ∃ report, collectsJobs.Explains [⟨.text "jobs", []⟩] report
      "a Collector containing a sample with name: \"jobs\""
      "no metric with name: \"jobs\"\n          found metric names:\n          - \"jobs\"" ∧
      report.matched = true :=
    Request.exists_explains (by decide +kernel) hexpects (by decide +kernel)
  have hsecond : ∃ report, collectsJobs.Explains [] report
      "a Collector containing a sample with name: \"jobs\""
      "no metric with name: \"jobs\"\n          " ∧ report.matched = false :=
    Request.exists_explains (by decide +kernel) hexpects (by decide +kernel)
  obtain ⟨first, hfirst, htrue⟩ := hfirst
  obtain ⟨second, hsecond, hfalse⟩ := hsecond
  obtain ⟨-, -, hstate, -, -, hanswers⟩ := reads_once collectsJobs drainedSource repeatedCalls
  refine ⟨rfl, first, second, _, hfirst, hsecond, ?_, ?_, ?_⟩
  . rw [hstate]
    rfl
  . have hanswer := hanswers [] .holds Source.read _ _ _ _ _ rfl rfl hfirst
    rw [Question.answer, htrue] at hanswer
    exact hanswer
  . have hanswer := hanswers [_] (.assertThat "late") Source.read [] _ _ _ _ rfl rfl hsecond
    rw [Question.answer, hfalse] at hanswer
    exact hanswer

end Session

end MetricCheck
