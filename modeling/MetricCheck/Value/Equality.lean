import MetricCheck.Fault
import MetricCheck.Value.Basic

/-!
This module contains the equality of values, and the lists of distinct values and of keyed entries
that rest on it. Numbers are equal by their exact value whatever their type, containers of one type
by their items, dictionaries without regard to order, and everything with an identity by identity.
-/

namespace MetricCheck

mutual

def Value.same : Value → Value → Bool
  | .null, b => b.isNull
  | .text s, b => b.text? == some s
  | .bytes bs, b => b.bytes? == some bs
  | .list xs, b => match b.list? with
    | some ys => Value.sameAll xs ys
    | none => false
  | .tuple xs, b => match b.tuple? with
    | some ys => Value.sameAll xs ys
    | none => false
  | .dictionary xs, b => match b.dictionary? with
    | some ys => xs.length == ys.length && Value.sameEntries xs ys
    | none => false
  | .object i _, b => match b with
    | .object j _ => i == j
    | _ => false
  | .foreign i _ _ _, b => match b with
    | .foreign j _ _ _ => i == j
    | _ => false
  | .predicate i _, b => match b with
    | .predicate j _ => i == j
    | _ => false
  | a, b => match a.parts?, b.parts? with
    | some (re, im), some (re', im') => re.same re' && im.same im'
    | _, _ => false
termination_by structural a => a

def Value.sameAll : List Value → List Value → Bool
  | [], ys => ys.isEmpty
  | x :: xs, ys => match ys with
    | [] => false
    | y :: ys => x.same y && Value.sameAll xs ys
termination_by structural xs => xs

def Value.sameEntries : List (Value × Value) → List (Value × Value) → Bool
  | [], _ => true
  | (k, v) :: rest, ys =>
    (ys.any fun entry => k.same entry.1 && v.same entry.2) && Value.sameEntries rest ys
termination_by structural xs => xs

end

mutual

def Value.isKey : Value → Bool
  | .list _ => false
  | .dictionary _ => false
  | .tuple items => Value.areKeys items
  | _ => true
termination_by structural v => v

def Value.areKeys : List Value → Bool
  | [] => true
  | v :: rest => v.isKey && Value.areKeys rest
termination_by structural vs => vs

end

namespace Value

def addDistinct (vs : List Value) (v : Value) : List Value :=
  if vs.any (·.same v) then vs else vs ++ [v]

/--
Put an entry under a key. A key that is there keeps its place and its first spelling.
-/
def putEntry {α : Type} (key : Value) (value : α) : List (Value × α) → List (Value × α)
  | [] => [(key, value)]
  | (k, v) :: rest =>
    if k.same key then (k, value) :: rest else (k, v) :: putEntry key value rest

def putEntries (entries : List (Value × Value)) (added : List (Value × Value)) :
    Except Fault (List (Value × Value)) :=
  added.foldlM (fun entries (key, value) =>
    if key.isKey then .ok (putEntry key value entries) else .error .wrongType) entries

end Value

end MetricCheck
