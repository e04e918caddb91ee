import Mathlib.Data.List.Nodup
import MetricCheck.Value.Affix
import MetricCheck.Value.Equality

/-!
This module contains what makes a value the name of something: only texts and rows of bytes start
with anything. Two names are equal as values only if they are the same name, so that a list of
distinct values holds every name once.
-/

namespace MetricCheck

namespace Value

inductive IsName : Value → Prop where
  | text (s : String) : IsName (.text s)
  | bytes (bs : List UInt8) : IsName (.bytes bs)

variable {name : Value}

theorem isName_of_startsWith {start : Value} {b : Bool} (h : name.startsWith start = .ok b) :
    name.IsName := by
  cases name with
  | text s => exact .text s
  | bytes bs => exact .bytes bs
  | _ => contradiction

theorem exists_text_of_startsWith {start : String} {b : Bool}
    (h : name.startsWith (.text start) = .ok b) : ∃ s, name = .text s := by
  cases isName_of_startsWith h with
  | text s => exact ⟨s, rfl⟩
  | bytes bs => simp [startsWith, startsWith.against, startsWithAny, bytes?] at h

theorem text?_eq_some_iff {v : Value} {s : String} : v.text? = some s ↔ v = .text s := by
  cases v <;> simp [text?]

theorem bytes?_eq_some_iff {v : Value} {bs : List UInt8} :
    v.bytes? = some bs ↔ v = .bytes bs := by
  cases v <;> simp [bytes?]

theorem IsName.same_iff (h : name.IsName) (v : Value) : name.same v = true ↔ v = name := by
  cases h with
  | text s => rw [same, beq_iff_eq, text?_eq_some_iff]
  | bytes bs => rw [same, beq_iff_eq, bytes?_eq_some_iff]

theorem IsName.same_eq_false (h : name.IsName) {v : Value} (hv : ¬v.IsName) :
    v.same name = false := by
  cases h with
  | text s =>
    cases v with
    | text t => exact absurd (.text t) hv
    | bytes bs => exact absurd (.bytes bs) hv
    | _ => rfl
  | bytes bs =>
    cases v with
    | text t => exact absurd (.text t) hv
    | bytes bs => exact absurd (.bytes bs) hv
    | _ => rfl

theorem IsName.same_right_iff (h : name.IsName) (v : Value) : v.same name = true ↔ v = name := by
  by_cases hv : v.IsName
  . rw [hv.same_iff, eq_comm]
  . have hne : v ≠ name := fun heq => hv (heq ▸ h)
    simp [h.same_eq_false hv, hne]

theorem IsName.isKey (h : name.IsName) : name.isKey = true := by
  cases h with
  | text s => rfl
  | bytes bs => rfl

theorem addDistinct_of_mem (h : name.IsName) {vs : List Value} (hmem : name ∈ vs) :
    addDistinct vs name = vs := by
  have hany : vs.any (·.same name) = true :=
    List.any_eq_true.mpr ⟨name, hmem, (h.same_right_iff name).mpr rfl⟩
  rw [addDistinct, if_pos hany]

theorem addDistinct_of_not_mem (h : name.IsName) {vs : List Value} (hmem : name ∉ vs) :
    addDistinct vs name = vs ++ [name] := by
  have hany : ¬vs.any (·.same name) = true := by
    rw [List.any_eq_true]
    intro ⟨v, hv, hsame⟩
    rw [h.same_right_iff] at hsame
    exact hmem (hsame ▸ hv)
  rw [addDistinct, if_neg hany]

theorem mem_addDistinct (h : name.IsName) {vs : List Value} {v : Value} :
    v ∈ addDistinct vs name ↔ v ∈ vs ∨ v = name := by
  by_cases hmem : name ∈ vs
  . rw [addDistinct_of_mem h hmem]
    constructor
    . exact .inl
    . rintro (hv | rfl)
      . exact hv
      . exact hmem
  . simp [addDistinct_of_not_mem h hmem]

theorem isName_of_mem_addDistinct (h : name.IsName) {vs : List Value}
    (hvs : ∀ v ∈ vs, v.IsName) : ∀ v ∈ addDistinct vs name, v.IsName := by
  intro v hv
  rw [mem_addDistinct h] at hv
  cases hv with
  | inl hv => exact hvs v hv
  | inr heq => exact heq ▸ h

theorem nodup_addDistinct (h : name.IsName) {vs : List Value} (hvs : vs.Nodup) :
    (addDistinct vs name).Nodup := by
  by_cases hmem : name ∈ vs
  . rwa [addDistinct_of_mem h hmem]
  . rw [addDistinct_of_not_mem h hmem, List.nodup_append]
    refine ⟨hvs, List.nodup_singleton name, ?_⟩
    intro v hv w hw heq
    rw [List.mem_singleton] at hw
    exact hmem (hw ▸ heq ▸ hv)

end Value

end MetricCheck
