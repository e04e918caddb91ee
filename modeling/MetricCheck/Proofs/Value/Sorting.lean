import Mathlib.Data.List.Induction
import Mathlib.Data.List.Lex
import Mathlib.Order.Basic
import MetricCheck.Proofs.Value.Name
import MetricCheck.Value.Order

/-!
This module contains the order of names. Names of one kind are ordered by their code points or their
bytes, so sorting rows of items under distinct names of one kind never fails and leaves the names in
strictly ascending order.
-/

namespace MetricCheck

namespace Value

def units : Value → List Nat
  | text s => s.toList.map Char.toNat
  | bytes bs => bs.map UInt8.toNat
  | _ => []

inductive SameKind : Value → Value → Prop where
  | text (s t : String) : SameKind (.text s) (.text t)
  | bytes (bs cs : List UInt8) : SameKind (.bytes bs) (.bytes cs)

theorem map_lt_map_iff {α : Type} [LT α] {f : α → Nat} (hinj : Function.Injective f)
    (hlt : ∀ a b, f a < f b ↔ a < b) (xs ys : List α) : xs.map f < ys.map f ↔ xs < ys := by
  induction xs generalizing ys with
  | nil => cases ys <;> simp
  | cons x xs ih =>
    cases ys with
    | nil => simp
    | cons y ys => simp [List.cons_lt_cons_iff, ih, hlt, hinj.eq_iff]

theorem charToNat_injective : Function.Injective Char.toNat :=
  fun _ _ => Char.toNat_inj.mp

theorem byteToNat_injective : Function.Injective UInt8.toNat :=
  fun _ _ => UInt8.toNat_inj.mp

theorem SameKind.before_eq {a b : Value} (h : a.SameKind b) :
    a.before b = .ok (decide (a.units < b.units)) := by
  cases h with
  | text s t =>
    have hlt : s.toList.map Char.toNat < t.toList.map Char.toNat ↔ s < t := by
      exact map_lt_map_iff charToNat_injective (fun _ _ => Iff.rfl) s.toList t.toList
    simp [before, text?, units, hlt]
  | bytes bs cs =>
    have hlt : bs.map UInt8.toNat < cs.map UInt8.toNat ↔ bs < cs :=
      map_lt_map_iff byteToNat_injective (fun _ _ => UInt8.lt_iff_toNat_lt.symm) bs cs
    simp [before, bytes?, bytesLess, units, hlt]

theorem SameKind.units_inj {a b : Value} (h : a.SameKind b) : a.units = b.units ↔ a = b := by
  cases h with
  | text s t =>
    rw [units, units, (List.map_injective_iff.mpr charToNat_injective).eq_iff, String.toList_inj,
      Value.text.injEq]
  | bytes bs cs =>
    rw [units, units, (List.map_injective_iff.mpr byteToNat_injective).eq_iff, Value.bytes.injEq]

section Rows

variable {α : Type} {key : α → Value}

theorem insertSorted_of_sorted {item : α} {sorted : List α}
    (hkind : ∀ other ∈ sorted, (key item).SameKind (key other))
    (hnew : ∀ other ∈ sorted, key item ≠ key other)
    (hsorted : sorted.Pairwise fun a b => (key a).units < (key b).units) :
    ∃ inserted, insertSorted key item sorted = .ok inserted ∧ inserted.Perm (item :: sorted) ∧
      inserted.Pairwise fun a b => (key a).units < (key b).units := by
  induction sorted with
  | nil => exact ⟨[item], rfl, .refl _, by simp⟩
  | cons other rest ih =>
    rw [List.forall_mem_cons] at hkind hnew
    rw [List.pairwise_cons] at hsorted
    rw [insertSorted, hkind.1.before_eq]
    by_cases hlt : (key item).units < (key other).units
    . refine ⟨item :: other :: rest, ?_, .refl _, ?_⟩
      . simp [hlt, bind, Except.bind, pure, Except.pure]
      . simp only [List.pairwise_cons, List.forall_mem_cons]
        exact ⟨⟨hlt, fun a ha => hlt.trans (hsorted.1 a ha)⟩, hsorted⟩
    . obtain ⟨inserted, hinsert, hperm, hpairwise⟩ := ih hkind.2 hnew.2 hsorted.2
      have hgt : (key other).units < (key item).units :=
        lt_of_le_of_ne (not_lt.mp hlt) (fun heq => hnew.1 (hkind.1.units_inj.mp heq.symm))
      refine ⟨other :: inserted, ?_, (hperm.cons other).trans (.swap item other rest), ?_⟩
      . simp [hlt, hinsert, bind, Except.bind, pure, Except.pure]
      . rw [List.pairwise_cons]
        refine ⟨?_, hpairwise⟩
        intro a ha
        cases List.mem_cons.mp (hperm.mem_iff.mp ha) with
        | inl heq => exact heq ▸ hgt
        | inr hrest => exact hsorted.1 a hrest

theorem sortBy_concat (items : List α) (item : α) :
    sortBy key (items ++ [item]) = (do insertSorted key item (← sortBy key items)) := by
  simp [sortBy, List.foldlM_append]

theorem sortBy_units {items : List α} (hkind : ∀ a ∈ items, ∀ b ∈ items, (key a).SameKind (key b))
    (hdistinct : (items.map key).Nodup) :
    ∃ sorted, sortBy key items = .ok sorted ∧ sorted.Perm items ∧
      sorted.Pairwise fun a b => (key a).units < (key b).units := by
  -- The row sorted so far holds the items before the last one.
  induction items using List.reverseRecOn with
  | nil => exact ⟨[], rfl, .refl _, .nil⟩
  | append_singleton items item ih =>
    rw [List.map_append, List.nodup_append] at hdistinct
    obtain ⟨sorted, hsort, hperm, hpairwise⟩ := ih
      (fun a ha b hb => hkind a (by simp [ha]) b (by simp [hb])) hdistinct.1
    have hmem : ∀ other ∈ sorted, other ∈ items := fun other hother => hperm.mem_iff.mp hother
    have hnew : ∀ other ∈ sorted, key item ≠ key other := by
      intro other hother heq
      exact hdistinct.2.2 (key other) (List.mem_map_of_mem (hmem other hother)) (key item) (by simp)
        heq.symm
    obtain ⟨inserted, hinsert, hperm', hpairwise'⟩ := insertSorted_of_sorted
      (fun other hother => hkind item (by simp) other (by simp [hmem other hother])) hnew hpairwise
    refine ⟨inserted, ?_, ?_, hpairwise'⟩
    . rw [sortBy_concat, hsort]
      exact hinsert
    . exact (hperm'.trans (hperm.cons item)).trans (List.perm_append_singleton item items).symm

theorem sortBy_of_sameKind {items : List α}
    (hkind : ∀ a ∈ items, ∀ b ∈ items, (key a).SameKind (key b))
    (hdistinct : (items.map key).Nodup) :
    ∃ sorted, sortBy key items = .ok sorted ∧ sorted.Perm items ∧
      sorted.Pairwise fun a b => (key a).before (key b) = .ok true := by
  obtain ⟨sorted, hsort, hperm, hpairwise⟩ := sortBy_units hkind hdistinct
  refine ⟨sorted, hsort, hperm, hpairwise.imp_of_mem ?_⟩
  intro a b ha hb hlt
  rw [(hkind a (hperm.mem_iff.mp ha) b (hperm.mem_iff.mp hb)).before_eq, decide_eq_true hlt]

theorem insertSorted_congr {key' : α → Value} {item : α} {sorted : List α}
    (h : ∀ other ∈ sorted, (key item).before (key other) = (key' item).before (key' other)) :
    insertSorted key item sorted = insertSorted key' item sorted := by
  induction sorted with
  | nil => rfl
  | cons other rest ih =>
    rw [List.forall_mem_cons] at h
    rw [insertSorted, insertSorted, h.1, ih h.2]

theorem sortBy_congr {key' : α → Value} {items : List α}
    (hkind : ∀ a ∈ items, ∀ b ∈ items, (key a).SameKind (key b))
    (hdistinct : (items.map key).Nodup)
    (h : ∀ a ∈ items, ∀ b ∈ items, key a ≠ key b →
      (key a).before (key b) = (key' a).before (key' b)) :
    sortBy key items = sortBy key' items := by
  -- An item is only compared with items that were sorted before it, and these have other keys.
  induction items using List.reverseRecOn with
  | nil => rfl
  | append_singleton items item ih =>
    rw [List.map_append, List.nodup_append] at hdistinct
    have hkind' : ∀ a ∈ items, ∀ b ∈ items, (key a).SameKind (key b) :=
      fun a ha b hb => hkind a (by simp [ha]) b (by simp [hb])
    obtain ⟨sorted, hsort, hperm, -⟩ := sortBy_units hkind' hdistinct.1
    have hinsert : insertSorted key item sorted = insertSorted key' item sorted := by
      apply insertSorted_congr
      intro other hother
      have hmem := hperm.mem_iff.mp hother
      apply h item (by simp) other (by simp [hmem])
      exact (hdistinct.2.2 (key other) (List.mem_map_of_mem hmem) (key item) (by simp)).symm
    have hrest := ih hkind' hdistinct.1
      (fun a ha b hb => h a (by simp [ha]) b (by simp [hb]))
    rw [sortBy_concat, sortBy_concat, ← hrest, hsort]
    exact hinsert

end Rows

end Value

end MetricCheck
