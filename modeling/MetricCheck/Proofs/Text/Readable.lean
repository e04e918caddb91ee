import MetricCheck.Rendering
import MetricCheck.Text.Quoted

/-!
This module contains what a reader of an explanation relies on: the characters that a rendering
comes to, and that the quoted form of a text and the decimal form of an integer in angle brackets
say where they end, so that each of them can be read off the start of a longer text.
-/

namespace MetricCheck

namespace Rendering

structure Spells (rendering : Rendering) (cs : List Char) : Prop where
  fault? : rendering.fault? = none
  text : rendering.text.toList = cs

theorem spells_ofText (s : String) : (ofText s).Spells s.toList :=
  ⟨rfl, rfl⟩

variable {a b : Rendering} {cs ds : List Char}

theorem Spells.append (ha : a.Spells cs) (hb : b.Spells ds) : (a ++ b).Spells (cs ++ ds) where
  fault? := Rendering.fault?_append.mpr ⟨ha.fault?, hb.fault?⟩
  text := by rw [text_append ha.fault?, String.toList_append, ha.text, hb.text]

theorem Spells.of_complete {s : String} (ha : a.Spells cs) (h : a.complete = .ok s) :
    s.toList = cs := by
  rw [complete_of_fault? ha.fault?, Except.ok.injEq] at h
  rw [← ha.text, h]

theorem Spells.eq_of_complete (ha : a.Spells cs) (hb : b.Spells ds)
    (h : a.complete = b.complete) : cs = ds := by
  rw [complete_of_fault? ha.fault?, complete_of_fault? hb.fault?, Except.ok.injEq] at h
  rw [← ha.text, ← hb.text, h]

theorem spells_separated {α : Type} {render : α → Rendering} {spelling : α → List Char}
    (separator : String) {x : α} {xs : List α}
    (h : ∀ y ∈ x :: xs, (render y).Spells (spelling y)) :
    (separated separator ((x :: xs).map render)).Spells
      (spelling x ++ xs.flatMap fun y => separator.toList ++ spelling y) := by
  induction xs generalizing x with
  | nil => simpa [separated] using h
  | cons y rest ih =>
    rw [List.forall_mem_cons] at h
    rw [List.flatMap_cons, List.append_assoc, ← List.append_assoc]
    exact (h.1.append (spells_ofText separator)).append (ih h.2)

theorem spells_concat {α : Type} {render : α → Rendering} {spelling : α → List Char} {xs : List α}
    (h : ∀ x ∈ xs, (render x).Spells (spelling x)) :
    (concat (xs.map render)).Spells (xs.flatMap spelling) := by
  induction xs with
  | nil => exact spells_ofText ""
  | cons x rest ih =>
    rw [List.forall_mem_cons] at h
    rw [List.map_cons, concat, List.flatMap_cons]
    exact h.1.append (ih h.2)

end Rendering

namespace Text

def joined (separator : String) : List (List Char) → List Char
  | [] => []
  | cs :: rest => cs ++ rest.flatMap fun ds => separator.toList ++ ds

theorem joined_cons_cons (separator : String) (cs ds : List Char) (rest : List (List Char)) :
    joined separator (cs :: ds :: rest) =
      cs ++ (separator.toList ++ joined separator (ds :: rest)) := by
  simp [joined]

theorem toList_intercalate (separator : String) (parts : List String) :
    (separator.intercalate parts).toList = joined separator (parts.map String.toList) := by
  rw [String.toList_intercalate]
  cases parts with
  | nil => rfl
  | cons part rest =>
    induction rest generalizing part with
    | nil => simp [joined]
    | cons next rest ih =>
      rw [List.map_cons, List.map_cons, List.intercalate_cons_cons, joined_cons_cons,
        List.append_assoc]
      exact congrArg _ (congrArg _ (ih next))

theorem escapeChar_append_inj {c d : Char} {u v : List Char}
    (h : escapeChar c ++ u = escapeChar d ++ v) : c = d ∧ u = v := by
  unfold escapeChar at h
  split at h
  . split at h
    . simpa using h
    . next hplain =>
      simp only [List.cons_append, List.cons.injEq] at h
      exact absurd (.inl h.1.symm) hplain
  . next hplain =>
    split at h
    . simp only [List.cons_append, List.cons.injEq] at h
      exact absurd (.inl h.1) hplain
    . simpa using h

-- A quote that ends the text follows no backslash, and every other one does.
theorem escapeChar_append_ne_quote (c : Char) (u v : List Char) :
    escapeChar c ++ u ≠ '"' :: v := by
  unfold escapeChar
  split
  . simp
  . next hplain =>
    intro h
    simp only [List.cons_append, List.cons.injEq] at h
    exact hplain (.inr h.1)

theorem escape_append_quote_inj {cs ds u v : List Char}
    (h : escape cs ++ '"' :: u = escape ds ++ '"' :: v) : cs = ds ∧ u = v := by
  induction cs generalizing ds with
  | nil =>
    cases ds with
    | nil => simpa using h
    | cons d ds =>
      rw [escape_nil, List.nil_append, escape_cons, List.append_assoc] at h
      exact absurd h.symm (escapeChar_append_ne_quote d _ u)
  | cons c cs ih =>
    cases ds with
    | nil =>
      rw [escape_nil, List.nil_append, escape_cons, List.append_assoc] at h
      exact absurd h (escapeChar_append_ne_quote c _ v)
    | cons d ds =>
      rw [escape_cons, escape_cons, List.append_assoc, List.append_assoc] at h
      obtain ⟨hchar, hrest⟩ := escapeChar_append_inj h
      obtain ⟨hchars, htail⟩ := ih hrest
      exact ⟨by rw [hchar, hchars], htail⟩

theorem quoted_append_inj {s t : String} {u v : List Char}
    (h : (quoted s).toList ++ u = (quoted t).toList ++ v) : s = t ∧ u = v := by
  simp only [toList_quoted, List.cons_append, List.append_assoc, List.nil_append,
    List.cons.injEq, true_and] at h
  obtain ⟨hchars, htail⟩ := escape_append_quote_inj h
  exact ⟨String.toList_inj.mp hchars, htail⟩

theorem toDigits_inj {m n : Nat} (h : Nat.toDigits 10 m = Nat.toDigits 10 n) : m = n := by
  rw [← Nat.ofDigitChars_ten_toDigits (n := m), h, Nat.ofDigitChars_ten_toDigits]

theorem toList_toString_ofNat (m : Nat) :
    (toString (Int.ofNat m)).toList = Nat.toDigits 10 m :=
  Nat.toList_repr

theorem toList_toString_negSucc (m : Nat) :
    (toString (Int.negSucc m)).toList = '-' :: Nat.toDigits 10 (m + 1) := by
  rw [show toString (Int.negSucc m) = "-" ++ (m + 1).repr from rfl, String.toList_append,
    Nat.toList_repr]
  rfl

theorem not_mem_toDigits {c : Char} (h : c.isDigit = false) (n : Nat) :
    c ∉ Nat.toDigits 10 n := by
  intro hmem
  have hdigit := Nat.isDigit_of_mem_toDigits (b := 10) (n := n) (by decide) (by decide) hmem
  simp [h] at hdigit

theorem not_mem_toString_int (n : Int) : '>' ∉ (toString n).toList := by
  cases n with
  | ofNat m =>
    rw [toList_toString_ofNat]
    exact not_mem_toDigits rfl m
  | negSucc m =>
    rw [toList_toString_negSucc, List.mem_cons]
    simp [not_mem_toDigits]

theorem toString_int_inj {m n : Int} (h : (toString m).toList = (toString n).toList) : m = n := by
  -- A minus is no digit, so it tells the negative integers from the others.
  have hminus := not_mem_toDigits (c := '-') rfl
  cases m with
  | ofNat m =>
    cases n with
    | ofNat n =>
      rw [toList_toString_ofNat, toList_toString_ofNat] at h
      rw [toDigits_inj h]
    | negSucc n =>
      rw [toList_toString_ofNat, toList_toString_negSucc] at h
      exact absurd (h ▸ List.mem_cons_self) (hminus m)
  | negSucc m =>
    cases n with
    | ofNat n =>
      rw [toList_toString_ofNat, toList_toString_negSucc] at h
      exact absurd (h ▸ List.mem_cons_self) (hminus n)
    | negSucc n =>
      rw [toList_toString_negSucc, toList_toString_negSucc, List.cons.injEq] at h
      rw [Nat.succ.inj (toDigits_inj h.2)]

theorem append_cons_inj {α : Type} {a : α} {xs ys u v : List α} (hxs : a ∉ xs) (hys : a ∉ ys)
    (h : xs ++ a :: u = ys ++ a :: v) : xs = ys ∧ u = v := by
  induction xs generalizing ys with
  | nil =>
    cases ys with
    | nil => simpa using h
    | cons y ys =>
      rw [List.nil_append, List.cons_append, List.cons.injEq] at h
      simp [h.1] at hys
  | cons x xs ih =>
    cases ys with
    | nil =>
      rw [List.nil_append, List.cons_append, List.cons.injEq] at h
      simp [h.1] at hxs
    | cons y ys =>
      rw [List.cons_append, List.cons_append, List.cons.injEq] at h
      rw [List.mem_cons, not_or] at hxs hys
      obtain ⟨hrest, htail⟩ := ih hxs.2 hys.2 h.2
      exact ⟨by rw [h.1, hrest], htail⟩

theorem toString_int_append_inj {m n : Int} {u v : List Char}
    (h : (toString m).toList ++ '>' :: u = (toString n).toList ++ '>' :: v) : m = n ∧ u = v := by
  obtain ⟨hdigits, htail⟩ := append_cons_inj (not_mem_toString_int m) (not_mem_toString_int n) h
  exact ⟨toString_int_inj hdigits, htail⟩

end Text

end MetricCheck
