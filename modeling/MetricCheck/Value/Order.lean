import MetricCheck.Value.Equality

/-!
This module contains the order of values and sorting by it. Texts are ordered by code point, numbers
by value and containers by their first difference; values of unlike types have no order, and sorting
them fails.
-/

namespace MetricCheck

def Value.bytesLess (xs ys : List UInt8) : Bool :=
  decide (xs < ys)

mutual

def Value.before : Value → Value → Except Fault Bool
  | .text s, b => match b.text? with
    | some t => .ok (decide (s < t))
    | none => .error .wrongType
  | .bytes xs, b => match b.bytes? with
    | some ys => .ok (Value.bytesLess xs ys)
    | none => .error .wrongType
  | .list xs, b => match b.list? with
    | some ys => Value.rowBefore xs ys
    | none => .error .wrongType
  | .tuple xs, b => match b.tuple? with
    | some ys => Value.rowBefore xs ys
    | none => .error .wrongType
  | a, b => match a.real?, b.real? with
    | some x, some y => .ok (x.less y)
    | _, _ => .error .wrongType
termination_by structural a => a

def Value.rowBefore : List Value → List Value → Except Fault Bool
  | [], ys => .ok !ys.isEmpty
  | x :: xs, ys => match ys with
    | [] => .ok false
    | y :: ys => if x.same y then Value.rowBefore xs ys else x.before y
termination_by structural xs => xs

end

namespace Value

def insertSorted {α : Type} (key : α → Value) (item : α) : List α → Except Fault (List α)
  | [] => .ok [item]
  | other :: rest => do
    -- An item goes behind its equals, so they keep their order.
    if ← (key item).before (key other) then return item :: other :: rest
    else return other :: (← insertSorted key item rest)

def sortBy {α : Type} (key : α → Value) (items : List α) : Except Fault (List α) :=
  items.foldlM (fun sorted item => insertSorted key item sorted) []

def sort (vs : List Value) : Except Fault (List Value) :=
  sortBy id vs

end Value

end MetricCheck
