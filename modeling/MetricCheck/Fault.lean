/-!
This module contains the faults that building a request or reading a source can end in, and the
messages of those that have one.
-/

namespace MetricCheck

inductive InvalidRequest where
  | blankName
  | noLabelName
  | labelPart (role typeName : String)
  | valueRule (typeName : String)
  | noTolerance
  | wholeValueRule (typeName : String)
  | equalToNothing
  | textNeeded (relationship typeName : String)
  | closenessNeedsNumbers
  | negativeTolerance (tolerance : String)
  | boundNeeded (relationship typeName : String)
  deriving DecidableEq

inductive Fault where
  | invalidRequest (reason : InvalidRequest)
  | unsupportedSource (typeName : String)
  | labelCount (sampleName : String) (names values : Nat)
  | malformed
  /-- A value is asked for something that values of its type do not have. -/
  | missingMember
  | wrongType
  | overflow
  | tooManyDigits
  | abstractPredicate
  | invalidEncoding
  /-- Code of another library fails, with an error of its own kind. -/
  | external (kind : String)
  deriving DecidableEq

def InvalidRequest.message : InvalidRequest → String
  | blankName => "Cannot match a metric without at least a name"
  | noLabelName => "Cannot match a label without a name"
  | labelPart role typeName =>
    "Label " ++ role ++ " must be a string or a Predicate, got " ++ typeName
  | valueRule typeName => "A value must be a number or a Predicate, got " ++ typeName
  | noTolerance => "A numeric value needs an epsilon, use int_value() for integers"
  | wholeValueRule typeName => "An int value must be a number, got " ++ typeName
  | equalToNothing => "Cannot build an equality predicate on None"
  | textNeeded relationship typeName =>
    relationship ++ " requires a string, got " ++ typeName
  | closenessNeedsNumbers => "close_to requires numeric target and epsilon"
  | negativeTolerance tolerance => "epsilon must not be negative, got " ++ tolerance
  | boundNeeded relationship typeName =>
    relationship ++ " requires a number, got " ++ typeName

def Fault.message? : Fault → Option String
  | invalidRequest reason => some reason.message
  | unsupportedSource typeName => some ("Cannot match an object of type: " ++ typeName)
  | labelCount sampleName names values =>
    some ("sample " ++ sampleName ++ " has " ++ toString names ++ " label names but " ++
      toString values ++ " label values")
  | _ => none

theorem Except.of_bind_eq_ok {α β : Type} {x : Except Fault α} {f : α → Except Fault β} {b : β}
    (h : (do f (← x)) = .ok b) : ∃ a, x = .ok a ∧ f a = .ok b := by
  cases x with
  | error fault => contradiction
  | ok a => exact ⟨a, rfl, h⟩

end MetricCheck
