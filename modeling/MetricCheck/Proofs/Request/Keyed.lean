import Mathlib.Data.List.Induction
import MetricCheck.Request

/-!
This module contains how label rules build up. Added one after another they are the first rule of
each name, each with the latest rule about its name in its place.
-/

namespace MetricCheck

namespace LabelRule

variable {a b c rule : LabelRule} {rules added : List LabelRule}

theorem sharesKey_comm : a.sharesKey b = b.sharesKey a := by
  rw [sharesKey, sharesKey, BEq.comm]

theorem key_eq_of_sharesKey (h : a.sharesKey b = true) : a.key = b.key :=
  beq_iff_eq.mp h

theorem sharesKey_congr (h : a.key = b.key) : a.sharesKey c = b.sharesKey c := by
  simp [sharesKey, h]

def sharesKeyIn (rule : LabelRule) (rules : List LabelRule) : Bool :=
  rules.any (·.sharesKey rule)

def firsts (rules : List LabelRule) : List LabelRule :=
  go [] rules
where
  go (earlier : List LabelRule) : List LabelRule → List LabelRule
    | [] => []
    | rule :: rest =>
      if rule.sharesKeyIn earlier then go (earlier ++ [rule]) rest
      else rule :: go (earlier ++ [rule]) rest

def latest (rules : List LabelRule) (rule : LabelRule) : LabelRule :=
  (rules.filter (·.sharesKey rule)).getLast?.getD rule

def Distinct (rules : List LabelRule) : Prop :=
  rules.Pairwise fun a b => a.sharesKey b = false

theorem firsts.go_append {earlier : List LabelRule} :
    go earlier (rules ++ [rule]) =
      if rule.sharesKeyIn (earlier ++ rules) then go earlier rules
      else go earlier rules ++ [rule] := by
  induction rules generalizing earlier with
  | nil => simp [go]
  | cons first rest ih =>
    simp only [List.cons_append, go, ih, List.append_assoc, List.nil_append]
    split <;> split <;> rfl

theorem firsts_append :
    firsts (rules ++ [rule]) =
      if rule.sharesKeyIn rules then firsts rules else firsts rules ++ [rule] := by
  unfold firsts
  rw [firsts.go_append, List.nil_append]

theorem mem_of_mem_firsts (h : rule ∈ firsts rules) : rule ∈ rules := by
  induction rules using List.reverseRecOn with
  | nil => exact h
  | append_singleton rules last ih =>
    rw [firsts_append] at h
    rw [List.mem_append]
    split at h
    next => exact .inl (ih h)
    next =>
      rw [List.mem_append] at h
      exact h.imp_left ih

theorem sharesKeyIn_append :
    rule.sharesKeyIn (rules ++ [a]) = (rule.sharesKeyIn rules || a.sharesKey rule) := by
  simp [sharesKeyIn]

theorem not_sharesKey_of_mem (hnew : rule.sharesKeyIn rules = false) (h : a ∈ rules) :
    a.sharesKey rule = false := by
  simp only [sharesKeyIn, List.any_eq_false, Bool.not_eq_true] at hnew
  exact hnew a h

theorem sharesKeyIn_congr (h : a.key = b.key) : a.sharesKeyIn rules = b.sharesKeyIn rules := by
  unfold sharesKeyIn
  congr
  funext other
  rw [sharesKey_comm, sharesKey_congr h, sharesKey_comm]

theorem sharesKeyIn_firsts : rule.sharesKeyIn (firsts rules) = rule.sharesKeyIn rules := by
  induction rules using List.reverseRecOn with
  | nil => rfl
  | append_singleton rules last ih =>
    rw [firsts_append, sharesKeyIn_append]
    split
    next hold =>
      rw [ih]
      cases hshares : last.sharesKey rule with
      | false => rw [Bool.or_false]
      | true => rw [← sharesKeyIn_congr (key_eq_of_sharesKey hshares), hold, Bool.true_or]
    next => rw [sharesKeyIn_append, ih]

theorem distinct_firsts : Distinct (firsts rules) := by
  induction rules using List.reverseRecOn with
  | nil => exact List.Pairwise.nil
  | append_singleton rules last ih =>
    rw [firsts_append]
    split
    next => exact ih
    next hnew =>
      rw [Bool.not_eq_true, ← sharesKeyIn_firsts] at hnew
      refine List.pairwise_append.mpr ⟨ih, List.pairwise_singleton _ _, ?_⟩
      intro a ha b hb
      rw [List.mem_singleton.mp hb]
      exact not_sharesKey_of_mem hnew ha

theorem latest_append :
    latest (rules ++ [a]) rule = if a.sharesKey rule then a else latest rules rule := by
  unfold latest
  rw [List.filter_append]
  cases hshares : a.sharesKey rule with
  | true => simp [hshares]
  | false => simp [hshares]

theorem latest_of_new (hnew : rule.sharesKeyIn rules = false) : latest rules rule = rule := by
  have hnone : rules.filter (·.sharesKey rule) = [] := by
    rw [List.filter_eq_nil_iff]
    intro a ha
    simp [not_sharesKey_of_mem hnew ha]
  rw [latest, hnone]
  rfl

theorem latest_key : (latest rules rule).key = rule.key := by
  induction rules using List.reverseRecOn with
  | nil => rfl
  | append_singleton rules last ih =>
    rw [latest_append]
    split
    next hshares => exact key_eq_of_sharesKey hshares
    next => exact ih

theorem mem_of_mem_put (h : a ∈ put rule rules) : a = rule ∨ a ∈ rules := by
  induction rules with
  | nil => exact .inl (List.mem_singleton.mp h)
  | cons first rest ih =>
    rw [put] at h
    split at h
    next =>
      rw [List.mem_cons] at h
      exact h.imp_right (List.mem_cons_of_mem first)
    next =>
      rw [List.mem_cons] at h
      cases h with
      | inl h => exact .inr (List.mem_cons.mpr (.inl h))
      | inr h => exact (ih h).imp_right (List.mem_cons_of_mem first)

theorem put_of_new (hnew : rule.sharesKeyIn rules = false) : put rule rules = rules ++ [rule] := by
  induction rules with
  | nil => rfl
  | cons first rest ih =>
    simp only [sharesKeyIn, List.any_cons, Bool.or_eq_false_iff] at hnew
    rw [put, if_neg (by simp [hnew.1]), ih hnew.2, List.cons_append]

-- Since no other rule is about the same name, replacing the first one replaces every one.
theorem put_of_old (hdistinct : Distinct rules) (hold : rule.sharesKeyIn rules = true) :
    put rule rules = rules.map fun other => if other.sharesKey rule then rule else other := by
  induction rules with
  | nil => cases hold
  | cons first rest ih =>
    obtain ⟨hfirst, hrest⟩ := List.pairwise_cons.mp hdistinct
    rw [put, List.map_cons]
    split
    next hshares =>
      have hkeep : ∀ other ∈ rest, (if other.sharesKey rule then rule else other) = other := by
        intro other hother
        rw [sharesKey_comm, ← sharesKey_congr (key_eq_of_sharesKey hshares), hfirst other hother]
        rfl
      rw [List.map_congr_left hkeep, List.map_id']
    next hother =>
      rw [ih hrest]
      simpa [sharesKeyIn, hother] using hold

/--
The rules that remain of some added ones: each stands where the first about its name was added, and
is the last one about that name.
-/
def remaining (added : List LabelRule) : List LabelRule :=
  (firsts added).map (latest added)

theorem sharesKey_latest : (latest rules a).sharesKey b = a.sharesKey b :=
  sharesKey_congr latest_key

theorem distinct_remaining : Distinct (remaining added) := by
  unfold Distinct remaining
  rw [List.pairwise_map]
  apply distinct_firsts.imp
  intro a b h
  rw [sharesKey_latest, sharesKey_comm, sharesKey_latest, sharesKey_comm, h]

theorem sharesKeyIn_remaining : rule.sharesKeyIn (remaining added) = rule.sharesKeyIn added := by
  have hsame : rule.sharesKeyIn (remaining added) = rule.sharesKeyIn (firsts added) := by
    simp only [sharesKeyIn, remaining, List.any_map, Function.comp_def, sharesKey_latest]
  rw [hsame, sharesKeyIn_firsts]

-- A rule about a name that is there takes its place, and any other rule comes last.
theorem put_remaining : put rule (remaining added) = remaining (added ++ [rule]) := by
  cases hold : rule.sharesKeyIn added with
  | true =>
    rw [put_of_old distinct_remaining (sharesKeyIn_remaining.trans hold)]
    unfold remaining
    rw [firsts_append, if_pos hold, List.map_map]
    apply List.map_congr_left
    intro first _
    rw [Function.comp_apply, latest_append, sharesKey_latest, sharesKey_comm]
  | false =>
    have hkeep : ∀ first ∈ firsts added, latest (added ++ [rule]) first = latest added first := by
      intro first hfirst
      rw [latest_append, sharesKey_comm, not_sharesKey_of_mem hold (mem_of_mem_firsts hfirst)]
      rfl
    have hlatest : latest (added ++ [rule]) rule = rule := by
      rw [latest_append, latest_of_new hold, ite_self]
    rw [put_of_new (sharesKeyIn_remaining.trans hold)]
    unfold remaining
    rw [firsts_append, hold, if_neg Bool.false_ne_true, List.map_append, List.map_congr_left hkeep,
      List.map_singleton, hlatest]

end LabelRule

end MetricCheck
