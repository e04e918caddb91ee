import MetricCheck.Predicate.Basic
import MetricCheck.Text.Blank

/-!
This module contains requests, which say what sample an assertion looks for or must not find, and
the steps that narrow a request. A step writes into the request as it goes: what it has written when
it fails stays written.
-/

namespace MetricCheck

inductive SourceKind where
  | registry
  | collector
  deriving DecidableEq

def SourceKind.title : SourceKind → String
  | registry => "CollectorRegistry"
  | collector => "Collector"

/--
A rule for labels: every label whose name is accepted must have an accepted value, and there must be
such a label. The `key` is the identity of the predicate for the name, which may have been made from
a text.
-/
structure LabelRule where
  key : Nat
  name : Predicate
  value : Predicate

instance : Inhabited LabelRule := ⟨⟨0, .anything, .anything⟩⟩

namespace LabelRule

def sharesKey (a b : LabelRule) : Bool :=
  a.key == b.key

def put (rule : LabelRule) : List LabelRule → List LabelRule
  | [] => [rule]
  | other :: rest => if other.sharesKey rule then rule :: rest else other :: put rule rest

end LabelRule

/--
What an assertion looks for. If `present` is false the assertion is that there is no such sample.
-/
structure Request where
  name : Value
  present : Bool
  kind : SourceKind
  rules : List LabelRule
  valueRule : Option Predicate

instance : Inhabited Request := ⟨⟨.null, true, .registry, [], none⟩⟩

/--
What writes into a request. The request is there after a fault, too.
-/
abbrev Narrowing := EStateM Fault Request

namespace Request

/--
The tolerance of a whole value, since counters only hold whole numbers.
-/
def wholeTolerance : Double :=
  .ofDecimal false 1 (-1)

def ofName (name : Value) (present : Bool) (kind : SourceKind) : Except Fault Request := do
  let text ← if name.isNull then .ok "" else name.asText
  if Text.trim text.toList = [] then .error (.invalidRequest .blankName)
  else return ⟨name, present, kind, [], none⟩

def isConstrained (r : Request) : Bool :=
  r.valueRule.isSome || !r.rules.isEmpty

/--
A part of a label rule, with its identity. A text makes a predicate, which gets the identity `made`.
-/
def labelPart (role : String) (made : Nat) (part : Value) : Except Fault (Nat × Predicate) :=
  match part with
  | .text s => .ok (made, .equalTo (.text s))
  | .predicate id p => .ok (id, p)
  | v => .error (.invalidRequest (.labelPart role v.typeName))

def label (made : Nat) (name value : Value) : Narrowing Unit :=
  if name.isNull then throw (.invalidRequest .noLabelName)
  else if value.isNull then return ()
  else do
    let (key, namePredicate) ← liftExcept (labelPart "name" made name)
    let (_, valuePredicate) ← liftExcept (labelPart "value" made value)
    modify fun r => { r with rules := LabelRule.put ⟨key, namePredicate, valuePredicate⟩ r.rules }

def value (value tolerance : Value) : Narrowing Unit :=
  match value with
  | .null => modify fun r => { r with valueRule := none }
  | .predicate _ p => modify fun r => { r with valueRule := some p }
  | v =>
    if v.number?.isNone then throw (.invalidRequest (.valueRule v.typeName))
    else if tolerance.isNull then throw (.invalidRequest .noTolerance)
    else do
      let p ← liftExcept (Predicate.closeness v tolerance)
      modify fun r => { r with valueRule := some p }

def wholeValue (value : Value) : Narrowing Unit :=
  match value with
  | .null => Request.value .null .null
  | v =>
    match v.number? with
    | none => throw (.invalidRequest (.wholeValueRule v.typeName))
    | some n =>
      match n.toDouble? with
      | none => throw .overflow
      | some d => Request.value (.double d) (.double wholeTolerance)

/--
A step that narrows a request. A label comes with the identity of the predicate that is made if its
name is a text.
-/
inductive Step where
  | label (made : Nat) (name value : Value)
  | value (value tolerance : Value)
  | wholeValue (value : Value)

def narrow : Step → Narrowing Unit
  | .label made name value => label made name value
  | .value value tolerance => Request.value value tolerance
  | .wholeValue value => wholeValue value

end Request

end MetricCheck
