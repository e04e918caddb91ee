import MetricCheck.Double.Shortest
import MetricCheck.Rendering
import MetricCheck.Text.Literal
import MetricCheck.Text.Quoted
import MetricCheck.Value.Basic

/-!
This module contains how values show and how predicates describe themselves. In explanations a text
is quoted and any other value stands in angle brackets as it shows.
-/

namespace MetricCheck

def Double.writeComplex (re im : Double) : String :=
  let imaginary := im.writePart
  if re.write = "0.0" then imaginary ++ "j"
  else
    let signed := if imaginary.startsWith "-" then imaginary else "+" ++ imaginary
    "(" ++ re.writePart ++ signed ++ "j)"

namespace Value

def joinShown (start : String) (items : List String) (stop : String) : String :=
  start ++ ", ".intercalate items ++ stop

def showTuple : List String → String
  | [item] => "(" ++ item ++ ",)"
  | items => joinShown "(" items ")"

def renderShown (v : Value) (shown : Except Fault String) : Rendering :=
  match v with
  | .text s => Rendering.ofText (Text.quoted s)
  | _ => Rendering.ofExcept (shown.map fun s => "<" ++ s ++ ">")

end Value

namespace Number

def maxDigits : Nat := 4300

def IsShort (n : Int) : Prop :=
  Double.digitCount n.natAbs ≤ maxDigits

instance (n : Int) : Decidable (IsShort n) :=
  inferInstanceAs (Decidable (_ ≤ _))

def writeInt (n : Int) : Except Fault String :=
  if IsShort n then .ok (toString n) else .error .tooManyDigits

def write : Number → Except Fault String
  | .int n => writeInt n
  | .double d => .ok d.write

variable {n : Int}

theorem isShort_neg : IsShort (-n) ↔ IsShort n := by
  rw [IsShort, Int.natAbs_neg, IsShort]

theorem writeInt_of_isShort (h : IsShort n) : writeInt n = .ok (toString n) :=
  if_pos h

theorem writeInt_of_not_isShort (h : ¬IsShort n) : writeInt n = .error .tooManyDigits :=
  if_neg h

end Number

mutual

def Value.display : Value → Except Fault String
  | .null => .ok "None"
  | .bool b => .ok (if b then "True" else "False")
  | .int n => Number.writeInt n
  | .double d => .ok d.write
  | .complex re im => .ok (Double.writeComplex re im)
  | .text s => .ok (Text.literal s)
  | .bytes bs => .ok (Text.bytesLiteral bs)
  | .list items => (Value.displayAll items).map fun shown => Value.joinShown "[" shown "]"
  | .tuple items => (Value.displayAll items).map Value.showTuple
  | .dictionary entries =>
    (Value.displayEntries entries).map fun shown => Value.joinShown "\x7b" shown "\x7d"
  | .object _ className => .ok ("<" ++ className ++ ">")
  | .foreign _ className _ _ => .ok ("<" ++ className ++ ">")
  | .predicate _ p => p.describe.complete.map fun s => "<" ++ p.className ++ " " ++ s ++ ">"
termination_by structural v => v

def Value.displayAll : List Value → Except Fault (List String)
  | [] => .ok []
  | v :: rest => do
    let shown ← v.display
    return shown :: (← Value.displayAll rest)
termination_by structural vs => vs

def Value.displayEntries : List (Value × Value) → Except Fault (List String)
  | [] => .ok []
  | (k, v) :: rest => do
    let key ← k.display
    let value ← v.display
    return (key ++ ": " ++ value) :: (← Value.displayEntries rest)
termination_by structural entries => entries

def Predicate.describe : Predicate → Rendering
  | .anything => Rendering.ofText "ANYTHING"
  | .equalTo expected => expected.renderShown expected.display
  | .textual relation part =>
    Rendering.ofText ("a string " ++ relation.phrase ++ " " ++ Text.quoted part)
  | .closeTo target tolerance =>
    Rendering.ofText
      ("a numeric value within <" ++ tolerance.write ++ "> of <" ++ target.write ++ ">")
  | .ordered relation bound =>
    Rendering.ofText ("a value " ++ relation.phrase ++ " ") ++
      Rendering.ofExcept (bound.write.map fun s => "<" ++ s ++ ">")
  | .not operand => Rendering.ofText "not " ++ operand.describe
  | .allOf operands => Rendering.enclosed "(" " and " ")" (Predicate.describeAll operands)
  | .anyOf operands => Rendering.enclosed "(" " or " ")" (Predicate.describeAll operands)
  | .plain (.predicate _ p) => p.describe
  | .plain (.foreign _ _ description _) => Rendering.ofExcept description
  | .plain v => v.renderShown v.display
  | .custom _ description _ => description
  | .abstract => Rendering.fail .abstractPredicate
termination_by structural p => p

def Predicate.describeAll : List Predicate → List Rendering
  | [] => []
  | p :: rest => p.describe :: Predicate.describeAll rest
termination_by structural ps => ps

end

namespace Predicate

variable (p : Predicate) (ps : List Predicate)

theorem describeAll_eq_map : describeAll ps = ps.map describe := by
  induction ps with
  | nil => rfl
  | cons p rest ih => rw [describeAll, ih, List.map_cons]

theorem describe_not : (Predicate.not p).describe = Rendering.ofText "not " ++ p.describe := by
  rw [describe]

theorem describe_allOf :
    (allOf ps).describe = Rendering.enclosed "(" " and " ")" (ps.map describe) := by
  rw [describe, describeAll_eq_map]

theorem describe_anyOf :
    (anyOf ps).describe = Rendering.enclosed "(" " or " ")" (ps.map describe) := by
  rw [describe, describeAll_eq_map]

end Predicate

namespace Value

def render (v : Value) : Rendering :=
  v.renderShown v.display

def renderItems (start separator stop : String) (write : Value → Rendering) (v : Value) :
    Rendering :=
  match v.items? with
  | some items => Rendering.enclosed start separator stop (items.map write)
  | none => Rendering.ofText start ++ Rendering.fail .wrongType

def asText : Value → Except Fault String
  | .text s => .ok s
  | v => v.display

def selfDescription : Value → Except Fault String
  | .predicate _ p => p.describe.complete
  | .foreign _ _ description _ => description
  | _ => .error .missingMember

@[simp]
theorem render_text (s : String) : render (.text s) = Rendering.ofText (Text.quoted s) := rfl

@[simp]
theorem asText_text (s : String) : asText (.text s) = .ok s := rfl

end Value

end MetricCheck
