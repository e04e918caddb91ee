import MetricCheck.Predicate.Description
import MetricCheck.Value.Equality

/-!
This module contains the ways to build predicates. They check their arguments; composing predicates
checks nothing and takes any value for an operand.
-/

namespace MetricCheck

namespace Predicate

def ofValue : Value → Predicate
  | .predicate _ p => p
  | v => .plain v

def equality (expected : Value) : Except Fault Predicate :=
  if expected.isNull then .error (.invalidRequest .equalToNothing) else .ok (.equalTo expected)

def text (relation : TextRelation) (part : Value) : Except Fault Predicate :=
  match part.text? with
  | some s => .ok (.textual relation s)
  | none => .error (.invalidRequest (.textNeeded relation.phrase part.typeName))

def order (relation : OrderRelation) (bound : Value) : Except Fault Predicate :=
  match bound.number? with
  | some n => .ok (.ordered relation n)
  | none => .error (.invalidRequest (.boundNeeded relation.phrase bound.typeName))

def closeness (target tolerance : Value) : Except Fault Predicate :=
  match target.number?, tolerance.number? with
  | some t, some e =>
    -- The message tells the tolerance, so one that cannot be written is another fault.
    if e.less (.int 0) then do throw (.invalidRequest (.negativeTolerance (← e.write)))
    else
      match t.toDouble?, e.toDouble? with
      | some t, some e => .ok (.closeTo t e)
      | _, _ => .error .overflow
  | _, _ => .error (.invalidRequest .closenessNeedsNumbers)

end Predicate

namespace Value

def both (left right : Value) : Except Fault Predicate :=
  match left.predicate? with
  | some (_, p) => .ok (.allOf [p, .ofValue right])
  | none => .error .wrongType

def either (left right : Value) : Except Fault Predicate :=
  match left.predicate? with
  | some (_, p) => .ok (.anyOf [p, .ofValue right])
  | none => .error .wrongType

def opposite (v : Value) : Except Fault Predicate :=
  match v.predicate? with
  | some (_, p) => .ok (.not p)
  | none => .error .wrongType

def toDouble (v : Value) : Except Fault Double :=
  match v with
  | .text s =>
    match Double.ofText? s with
    | some d => .ok d
    | none => .error .malformed
  | .bytes bs =>
    match Double.ofBytes? bs with
    | some d => .ok d
    | none => .error .malformed
  | v =>
    match v.real? with
    | some n =>
      match n.toDouble? with
      | some d => .ok d
      | none => .error .overflow
    | none => .error .wrongType

def ofEntries (entries : List (Value × Value)) : Except Fault Value :=
  (putEntries [] entries).map .dictionary

end Value

end MetricCheck
