import MetricCheck.Fault
import MetricCheck.Text.Affix
import MetricCheck.Value.Basic

/-!
This module contains how one name starts with another. Names are texts; a name of another type takes
part where its type allows it.
-/

namespace MetricCheck

namespace Value

def startsWithAny (test : Value → Option Bool) : List Value → Except Fault Bool
  | [] => .ok false
  | alternative :: rest =>
    match test alternative with
    | none => .error .wrongType
    | some true => .ok true
    | some false => startsWithAny test rest

def startsWith (v start : Value) : Except Fault Bool :=
  match v with
  | text s => against fun start => start.text?.map (Text.startsWith · s)
  | bytes bs => against fun start => start.bytes?.map (·.isPrefixOf bs)
  | _ => .error .missingMember
where
  against (test : Value → Option Bool) : Except Fault Bool :=
    match start with
    | tuple alternatives => startsWithAny test alternatives
    | start => startsWithAny test [start]

@[simp]
theorem startsWith_text (s start : String) :
    startsWith (text s) (text start) = .ok (Text.startsWith start s) := by
  cases h : Text.startsWith start s <;>
    simp [startsWith, startsWith.against, startsWithAny, text?, h]

end Value

end MetricCheck
