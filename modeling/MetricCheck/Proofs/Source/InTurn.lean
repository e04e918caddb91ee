import Mathlib.Data.List.Forall2
import MetricCheck.Fault

/-!
This module contains how records are taken one after another, up to the first one that gives a
fault.
-/

namespace MetricCheck

/--
Records are taken in turn. Either each of them gives its item, or the first one that gives a fault
ends the reading, and those after it are left.
-/
inductive InTurn {α β : Type} (gives : α → Except Fault β → Prop) :
    List α → Except Fault (List β) → List α → Prop
  | done {records : List α} {items : List β} :
      List.Forall₂ (fun record item => gives record (.ok item)) records items →
      InTurn gives records (.ok items) []
  | stopped {before after : List α} {record : α} {items : List β} {fault : Fault} :
      List.Forall₂ (fun record item => gives record (.ok item)) before items →
      gives record (.error fault) → InTurn gives (before ++ record :: after) (.error fault) after

namespace InTurn

variable {α β : Type} {gives : α → Except Fault β → Prop} {records left left' : List α} {record : α}
  {items : List β} {item : β} {outcome outcome' : Except Fault (List β)} {fault : Fault}

theorem cons_ok (hrecord : gives record (.ok item)) (h : InTurn gives records outcome left) :
    InTurn gives (record :: records) (outcome.map (item :: ·)) left := by
  cases h with
  | done hall => exact .done (.cons hrecord hall)
  | stopped hbefore hfault => exact .stopped (.cons hrecord hbefore) hfault

theorem cons_error (hrecord : gives record (.error fault)) :
    InTurn gives (record :: records) (.error fault) records := by
  have h : InTurn gives ([] ++ record :: records) (.error fault) records := .stopped .nil hrecord
  exact h

theorem of_cons (h : InTurn gives (record :: records) outcome left) :
    (∃ item outcome', gives record (.ok item) ∧ InTurn gives records outcome' left ∧
      outcome = outcome'.map (item :: ·)) ∨
    ∃ fault, gives record (.error fault) ∧ outcome = .error fault ∧ left = records := by
  -- The row is put together with `++` in `stopped`, so it cannot be matched as it stands.
  generalize hall : record :: records = all at h
  cases h with
  | done h =>
    subst hall
    cases h with
    | cons hrecord hrest => exact .inl ⟨_, _, hrecord, .done hrest, rfl⟩
  | stopped hbefore hfault =>
    cases hbefore with
    | nil =>
      obtain ⟨rfl, rfl⟩ := List.cons.inj hall
      exact .inr ⟨_, hfault, rfl, rfl⟩
    | cons hrecord hbefore =>
      obtain ⟨rfl, rfl⟩ := List.cons.inj hall
      exact .inl ⟨_, _, hrecord, .stopped hbefore hfault, rfl⟩

theorem of_nil (h : InTurn gives [] outcome left) : outcome = .ok [] ∧ left = [] := by
  generalize hnil : ([] : List α) = records at h
  cases h with
  | done h =>
    subst hnil
    cases h
    exact ⟨rfl, rfl⟩
  | stopped => simp at hnil

theorem unique (hgives : ∀ record x y, gives record x → gives record y → x = y)
    (h : InTurn gives records outcome left) (h' : InTurn gives records outcome' left') :
    outcome = outcome' ∧ left = left' := by
  induction records generalizing outcome outcome' with
  | nil =>
    obtain ⟨rfl, rfl⟩ := h.of_nil
    obtain ⟨rfl, rfl⟩ := h'.of_nil
    exact ⟨rfl, rfl⟩
  | cons record rest ih =>
    obtain ⟨item, tail, hitem, htail, rfl⟩ | ⟨fault, hfault, rfl, rfl⟩ := h.of_cons <;>
      obtain ⟨item', tail', hitem', htail', rfl⟩ | ⟨fault', hfault', rfl, rfl⟩ := h'.of_cons
    . obtain ⟨rfl, rfl⟩ := ih htail htail'
      cases hgives record _ _ hitem hitem'
      exact ⟨rfl, rfl⟩
    . cases hgives record _ _ hitem hfault'
    . cases hgives record _ _ hfault hitem'
    . cases hgives record _ _ hfault hfault'
      exact ⟨rfl, rfl⟩

theorem of_ok (h : InTurn gives records (.ok items) left) :
    items.length = records.length ∧ left = [] := by
  cases h with
  | done hall => exact ⟨hall.length_eq.symm, rfl⟩

theorem of_mapM (f : α → Except Fault β) (records : List α) :
    ∃ left, InTurn (fun record x => f record = x) records (records.mapM f) left := by
  induction records with
  | nil => exact ⟨[], .done .nil⟩
  | cons record rest ih =>
    obtain ⟨left, hrest⟩ := ih
    cases hrecord : f record with
    | error fault =>
      refine ⟨rest, ?_⟩
      rw [List.mapM_cons, hrecord]
      exact cons_error hrecord
    | ok item =>
      refine ⟨left, ?_⟩
      have hmapM : (record :: rest).mapM f = (rest.mapM f).map (item :: ·) := by
        rw [List.mapM_cons, hrecord]
        rfl
      rw [hmapM]
      exact hrest.cons_ok hrecord

theorem mapM_eq {f : α → Except Fault β}
    (h : InTurn (fun record x => f record = x) records outcome left) :
    records.mapM f = outcome := by
  obtain ⟨left', h'⟩ := of_mapM f records
  exact (h'.unique (fun _ _ _ hx hy => hx.symm.trans hy) h).1

theorem exists_iff_mapM {f : α → Except Fault β}
    (hgives : ∀ record x, gives record x ↔ f record = x) :
    (∃ left, InTurn gives records outcome left) ↔ records.mapM f = outcome := by
  have hsame : gives = fun record x => f record = x := by
    funext record x
    exact propext (hgives record x)
  rw [hsame]
  constructor
  . rintro ⟨left, h⟩
    exact h.mapM_eq
  . rintro rfl
    exact of_mapM f records

end InTurn

end MetricCheck
