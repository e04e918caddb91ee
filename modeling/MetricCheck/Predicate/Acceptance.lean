import MetricCheck.Value.Affix
import MetricCheck.Value.Equality

/-!
This module contains which values a predicate accepts. Deciding goes from left to right and stops as
soon as the answer is known, so an operand that cannot decide is a fault only if it is reached.
-/

namespace MetricCheck

def TextRelation.holds (relation : TextRelation) (part s : String) : Except Fault Bool :=
  match relation with
  | containing => .ok (Text.contains part s)
  | startingWith => .ok (Text.startsWith part s)
  | endingWith => .ok (Text.endsWith part s)
  | unspecified => .error .abstractPredicate

def OrderRelation.holds (relation : OrderRelation) (bound n : Number) : Bool :=
  match relation with
  | greater => bound.less n
  | greaterOrEqual => bound.less n || bound.same n
  | less => n.less bound
  | lessOrEqual => n.less bound || n.same bound

/--
Whether a number lies within a tolerance of a target, the boundary included. The distance is rounded
like any difference of binary64 numbers.
-/
def Double.isWithin (target tolerance d : Double) : Bool :=
  OrderRelation.lessOrEqual.holds (.double tolerance) (.double (d.distance target))

mutual

def Predicate.accepts : Predicate → Value → Except Fault Bool
  | .anything, _ => .ok true
  | .equalTo expected, item => .ok (item.same expected)
  | .textual relation part, item =>
    match item.text? with
    | some s => relation.holds part s
    | none => .ok false
  | .closeTo target tolerance, item =>
    match item.number? with
    | some n =>
      match n.toDouble? with
      | some d => .ok (Double.isWithin target tolerance d)
      | none => .error .overflow
    | none => .ok false
  | .ordered relation bound, item =>
    match item.number? with
    | some n => .ok (relation.holds bound n)
    | none => .ok false
  | .not operand, item => (operand.accepts item).map (! ·)
  | .allOf operands, item => Predicate.allAccept operands item
  | .anyOf operands, item => Predicate.anyAccepts operands item
  | .plain (.predicate _ p), item => p.accepts item
  | .plain (.foreign _ _ _ test), item => test item.datum
  | .plain _, _ => .error .missingMember
  | .custom _ _ test, item => test item.datum
  | .abstract, _ => .error .abstractPredicate
termination_by structural p => p

def Predicate.allAccept : List Predicate → Value → Except Fault Bool
  | [], _ => .ok true
  | p :: rest, item =>
    match p.accepts item with
    | .ok true => Predicate.allAccept rest item
    | decided => decided
termination_by structural ps => ps

def Predicate.anyAccepts : List Predicate → Value → Except Fault Bool
  | [], _ => .ok false
  | p :: rest, item =>
    match p.accepts item with
    | .ok false => Predicate.anyAccepts rest item
    | decided => decided
termination_by structural ps => ps

end

namespace Predicate

variable (p : Predicate) (ps : List Predicate) (v : Value)

theorem accepts_not : (Predicate.not p).accepts v = (p.accepts v).map (! ·) := by
  rw [accepts]

theorem accepts_allOf : (allOf ps).accepts v = allAccept ps v := by
  rw [accepts]

theorem accepts_anyOf : (anyOf ps).accepts v = anyAccepts ps v := by
  rw [accepts]

end Predicate

end MetricCheck
