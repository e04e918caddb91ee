import MetricCheck.Number
import MetricCheck.Rendering

/-!
This module contains the values that samples, labels and expectations are made of, together with the
predicates on them. The two depend on each other: a predicate can expect any value, and a predicate
is itself a value that can be handed over and compared.
-/

namespace MetricCheck

inductive TextRelation where
  | containing
  | startingWith
  | endingWith
  | unspecified
  deriving DecidableEq

inductive OrderRelation where
  | greater
  | greaterOrEqual
  | less
  | lessOrEqual
  deriving DecidableEq

/--
What a test of another library sees of a value. Objects and predicates are known by their identity
and their class.
-/
inductive Datum where
  | null
  | bool (b : Bool)
  | int (n : Int)
  | double (d : Double)
  | complex (re im : Double)
  | text (s : String)
  | bytes (bs : List UInt8)
  | list (items : List Datum)
  | tuple (items : List Datum)
  | dictionary (entries : List (Datum × Datum))
  | object (id : Nat) (className : String)

mutual

/--
A value as sources and requests hold it. Objects, foreign tests and predicates have an identity: two
of them are the same one if their `id` is the same.
-/
inductive Value where
  | null
  | bool (b : Bool)
  | int (n : Int)
  | double (d : Double)
  | complex (re im : Double)
  | text (s : String)
  | bytes (bs : List UInt8)
  | list (items : List Value)
  | tuple (items : List Value)
  | dictionary (entries : List (Value × Value))
  | object (id : Nat) (className : String)
  /-- A test that is no predicate of this library, but decides and describes itself. -/
  | foreign (id : Nat) (className : String) (description : Except Fault String)
    (test : Datum → Except Fault Bool)
  | predicate (id : Nat) (p : Predicate)

inductive Predicate where
  | anything
  | equalTo (expected : Value)
  | textual (relation : TextRelation) (part : String)
  | closeTo (target tolerance : Double)
  | ordered (relation : OrderRelation) (bound : Number)
  | not (operand : Predicate)
  | allOf (operands : List Predicate)
  | anyOf (operands : List Predicate)
  /-- A value that is no predicate and stands where one is expected. -/
  | plain (value : Value)
  /-- A predicate of a class that another library derives from those of this one. -/
  | custom (className : String) (description : Rendering) (test : Datum → Except Fault Bool)
  | abstract

end

instance : Inhabited Value := ⟨.null⟩

instance : Inhabited Predicate := ⟨.anything⟩

def TextRelation.phrase : TextRelation → String
  | containing => "containing"
  | startingWith => "starting with"
  | endingWith => "ending with"
  | unspecified => ""

def OrderRelation.phrase : OrderRelation → String
  | greater => "greater than"
  | greaterOrEqual => "greater than or equal to"
  | less => "less than"
  | lessOrEqual => "less than or equal to"

mutual

def Value.typeName : Value → String
  | .null => "NoneType"
  | .bool _ => "bool"
  | .int _ => "int"
  | .double _ => "float"
  | .complex _ _ => "complex"
  | .text _ => "str"
  | .bytes _ => "bytes"
  | .list _ => "list"
  | .tuple _ => "tuple"
  | .dictionary _ => "dict"
  | .object _ className => className
  | .foreign _ className _ _ => className
  | .predicate _ p => p.className
termination_by structural v => v

def Predicate.className : Predicate → String
  | .anything => "IsAnything"
  | .equalTo _ => "IsEqual"
  | .textual .containing _ => "StringContains"
  | .textual .startingWith _ => "StringStartsWith"
  | .textual .endingWith _ => "StringEndsWith"
  | .textual .unspecified _ => "_StringPredicate"
  | .closeTo _ _ => "IsCloseTo"
  | .ordered _ _ => "OrderingComparison"
  | .not _ => "IsNot"
  | .allOf _ => "AllOf"
  | .anyOf _ => "AnyOf"
  | .plain v => v.typeName
  | .custom className _ _ => className
  | .abstract => "Predicate"
termination_by structural p => p

end

mutual

def Value.datum : Value → Datum
  | .null => .null
  | .bool b => .bool b
  | .int n => .int n
  | .double d => .double d
  | .complex re im => .complex re im
  | .text s => .text s
  | .bytes bs => .bytes bs
  | .list items => .list (Value.data items)
  | .tuple items => .tuple (Value.data items)
  | .dictionary entries => .dictionary (Value.dataEntries entries)
  | .object id className => .object id className
  | .foreign id className _ _ => .object id className
  | .predicate id p => .object id p.className
termination_by structural v => v

def Value.data : List Value → List Datum
  | [] => []
  | v :: rest => v.datum :: Value.data rest
termination_by structural vs => vs

def Value.dataEntries : List (Value × Value) → List (Datum × Datum)
  | [] => []
  | (k, v) :: rest => (k.datum, v.datum) :: Value.dataEntries rest
termination_by structural entries => entries

end

namespace Value

def isNull : Value → Bool
  | null => true
  | _ => false

def number? : Value → Option Number
  | int n => some (.int n)
  | double d => some (.double d)
  | _ => none

def real? : Value → Option Number
  | bool b => some (.int (if b then 1 else 0))
  | v => v.number?

def parts? : Value → Option (Number × Number)
  | complex re im => some (.double re, .double im)
  | v => v.real?.map fun re => (re, .int 0)

def text? : Value → Option String
  | text s => some s
  | _ => none

def bytes? : Value → Option (List UInt8)
  | bytes bs => some bs
  | _ => none

def list? : Value → Option (List Value)
  | list items => some items
  | _ => none

def tuple? : Value → Option (List Value)
  | tuple items => some items
  | _ => none

def dictionary? : Value → Option (List (Value × Value))
  | dictionary entries => some entries
  | _ => none

def items? : Value → Option (List Value)
  | text s => some (s.toList.map fun c => text (String.singleton c))
  | bytes bs => some (bs.map fun b => int b.toNat)
  | list items => some items
  | tuple items => some items
  | dictionary entries => some (entries.map Prod.fst)
  | _ => none

def predicate? : Value → Option (Nat × Predicate)
  | predicate id p => some (id, p)
  | _ => none

def countsAsFalse : Value → Bool
  | null => true
  | bool b => !b
  | int n => n = 0
  | double d => Number.same (.double d) (.int 0)
  | complex re im => Number.same (.double re) (.int 0) && Number.same (.double im) (.int 0)
  | text s => s = ""
  | bytes bs => bs.isEmpty
  | list items => items.isEmpty
  | tuple items => items.isEmpty
  | dictionary entries => entries.isEmpty
  | object _ _ => false
  | foreign _ _ _ _ => false
  | predicate _ _ => false

end Value

end MetricCheck
