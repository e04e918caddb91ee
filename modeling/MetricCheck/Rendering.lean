import MetricCheck.Fault

/-!
This module contains renderings, the texts that explanations are put together from. A rendering that
fails keeps the text written before its fault, and nothing can be written after it.
-/

namespace MetricCheck

/--
A text, and the fault that ended it if one did.
-/
structure Rendering where
  text : String
  fault? : Option Fault
  deriving DecidableEq

namespace Rendering

def ofText (s : String) : Rendering :=
  ⟨s, none⟩

def fail (fault : Fault) : Rendering :=
  ⟨"", some fault⟩

def empty : Rendering :=
  ofText ""

instance : Inhabited Rendering := ⟨empty⟩

def append (a b : Rendering) : Rendering :=
  match a.fault? with
  | some _ => a
  | none => ⟨a.text ++ b.text, b.fault?⟩

instance : Append Rendering := ⟨append⟩

instance : Coe String Rendering := ⟨ofText⟩

def ofExcept : Except Fault String → Rendering
  | .ok s => ofText s
  | .error fault => fail fault

def complete (r : Rendering) : Except Fault String :=
  match r.fault? with
  | some fault => .error fault
  | none => .ok r.text

def concat : List Rendering → Rendering
  | [] => empty
  | r :: rest => r ++ concat rest

def separated (separator : String) : List Rendering → Rendering
  | [] => empty
  | [r] => r
  | r :: rest => r ++ ofText separator ++ separated separator rest

def enclosed (start separator stop : String) (rs : List Rendering) : Rendering :=
  ofText start ++ separated separator rs ++ ofText stop

theorem append_def (a b : Rendering) : a ++ b = append a b := rfl

@[simp]
theorem ofText_append_ofText (s t : String) : ofText s ++ ofText t = ofText (s ++ t) := rfl

@[simp]
theorem empty_append (r : Rendering) : empty ++ r = r := by
  simp [append_def, append, empty, ofText]

@[simp]
theorem append_empty (r : Rendering) : r ++ empty = r := by
  rcases r with ⟨s, _ | fault⟩ <;> simp [append_def, append, empty, ofText]

theorem append_assoc (a b c : Rendering) : a ++ b ++ c = a ++ (b ++ c) := by
  rcases a with ⟨s, _ | fault⟩ <;> rcases b with ⟨t, _ | fault⟩ <;>
    simp [append_def, append, String.append_assoc]

@[simp]
theorem complete_ofText (s : String) : (ofText s).complete = .ok s := rfl

@[simp]
theorem fault?_ofText (s : String) : (ofText s).fault? = none := rfl

@[simp]
theorem fault?_empty : empty.fault? = none := rfl

@[simp]
theorem fault?_append {a b : Rendering} :
    (a ++ b).fault? = none ↔ a.fault? = none ∧ b.fault? = none := by
  rcases a with ⟨s, _ | fault⟩ <;> simp [append_def, append]

@[simp]
theorem text_ofText (s : String) : (ofText s).text = s := rfl

@[simp]
theorem text_empty : empty.text = "" := rfl

theorem text_append {a : Rendering} (h : a.fault? = none) (b : Rendering) :
    (a ++ b).text = a.text ++ b.text := by
  rw [append_def, append, h]

theorem fault?_concat {rs : List Rendering} :
    (concat rs).fault? = none ↔ ∀ r ∈ rs, r.fault? = none := by
  induction rs with
  | nil => simp [concat]
  | cons r rest ih => simp [concat, ih]

theorem fault?_separated {separator : String} {rs : List Rendering} :
    (separated separator rs).fault? = none ↔ ∀ r ∈ rs, r.fault? = none := by
  fun_induction separated separator rs with
  | case1 => simp
  | case2 r => simp
  | case3 r rest _ ih => simp [ih]

theorem fault?_enclosed {start separator stop : String} {rs : List Rendering} :
    (enclosed start separator stop rs).fault? = none ↔ ∀ r ∈ rs, r.fault? = none := by
  simp [enclosed, fault?_separated]

theorem complete_of_fault? {r : Rendering} (h : r.fault? = none) : r.complete = .ok r.text := by
  rw [complete, h]

theorem fault?_of_complete {r : Rendering} {s : String} (h : r.complete = .ok s) :
    r.fault? = none := by
  unfold complete at h
  split at h
  . contradiction
  . assumption

theorem complete_append (a b : Rendering) :
    (a ++ b).complete = (do return (← a.complete) ++ (← b.complete)) := by
  rcases a with ⟨s, _ | fault⟩ <;> rcases b with ⟨t, _ | fault⟩ <;> rfl

end Rendering

end MetricCheck
