import Mathlib.Data.List.Induction
import MetricCheck.Proofs.Value.Name

/-!
This module contains rows of entries whose keys all differ, as putting one entry after another makes
them. Equality of values is not reflexive, so a key has to find itself before it can keep an entry
apart from the others.
-/

namespace MetricCheck

namespace Number

variable {a b c : Number}

theorem same_eq_true_iff :
    a.same b = true ↔ ∃ place, a.place? = some place ∧ b.place? = some place := by
  unfold same
  cases a.place? with
  | none => simp
  | some p =>
    cases b.place? with
    | none => simp
    | some q =>
      constructor
      . intro h
        exact ⟨p, rfl, (beq_iff_eq.mp h) ▸ rfl⟩
      . rintro ⟨place, hp, hq⟩
        cases hp
        cases hq
        exact beq_self_eq_true p

theorem same_of_same_right (ha : a.same c = true) (hb : b.same c = true) : a.same b = true := by
  rw [same_eq_true_iff] at *
  obtain ⟨p, hap, hcp⟩ := ha
  obtain ⟨q, hbq, hcq⟩ := hb
  rw [hcp, Option.some.injEq] at hcq
  exact ⟨p, hap, hcq ▸ hbq⟩

end Number

namespace Value

structure FindsItself (v : Value) : Prop where
  isKey : v.isKey = true
  same : v.same v = true

theorem IsName.findsItself {name : Value} (h : name.IsName) : name.FindsItself :=
  ⟨h.isKey, (h.same_iff name).mpr rfl⟩

def KeysDiffer {α : Type} (entries : List (Value × α)) : Prop :=
  entries.Pairwise fun a b => a.1.same b.1 = false

variable {key : Value}

theorem keysDiffer_iff {α : Type} {entries : List (Value × α)} :
    KeysDiffer entries ↔ (entries.map Prod.fst).Pairwise fun a b => a.same b = false := by
  rw [List.pairwise_map, KeysDiffer]

theorem keysDiffer_iff_nodup {α : Type} {entries : List (Value × α)}
    (h : ∀ entry ∈ entries, entry.1.IsName) :
    KeysDiffer entries ↔ (entries.map Prod.fst).Nodup := by
  unfold KeysDiffer List.Nodup
  rw [List.pairwise_map]
  apply List.Pairwise.iff_of_mem
  intro a b ha hb
  rw [← Bool.not_eq_true, (h a ha).same_iff, ne_comm]

theorem same_iff_of_parts {v w : Value} {parts : Number × Number} (h : w.parts? = some parts) :
    v.same w = true ↔ ∃ others, v.parts? = some others ∧ others.1.same parts.1 = true ∧
      others.2.same parts.2 = true := by
  cases w <;> cases h
  all_goals cases v <;> simp [same, parts?, real?, number?, isNull, text?, bytes?, list?, tuple?,
    dictionary?]

theorem same_of_parts_right {v w : Value} {parts : Number × Number} (h : key.parts? = some parts)
    (hv : v.same key = true) (hw : w.same key = true) : v.same w = true := by
  rw [same_iff_of_parts h] at hv hw
  obtain ⟨p, hparts, hp⟩ := hv
  obtain ⟨q, hq, hq'⟩ := hw
  rw [same_iff_of_parts hq]
  exact ⟨p, hparts, Number.same_of_same_right hp.1 hq'.1, Number.same_of_same_right hp.2 hq'.2⟩

theorem eq_null_of_same {v : Value} (h : v.same .null = true) : v = .null := by
  cases v with
  | null => rfl
  | _ => cases h

theorem exists_tuple_of_same {v : Value} {items : List Value}
    (h : v.same (.tuple items) = true) :
    ∃ others, v = .tuple others ∧ sameAll others items = true := by
  cases v with
  | tuple others => exact ⟨others, rfl, h⟩
  | _ => cases h

theorem exists_object_of_same {v : Value} {id : Nat} {className : String}
    (h : v.same (.object id className) = true) : ∃ other, v = .object id other := by
  cases v with
  | object i other => exact ⟨other, beq_iff_eq.mp h ▸ rfl⟩
  | _ => cases h

theorem exists_foreign_of_same {v : Value} {id : Nat} {className : String}
    {description : Except Fault String} {test : Datum → Except Fault Bool}
    (h : v.same (.foreign id className description test) = true) :
    ∃ other text decides, v = .foreign id other text decides := by
  cases v with
  | foreign i other text decides => exact ⟨other, text, decides, beq_iff_eq.mp h ▸ rfl⟩
  | _ => cases h

theorem exists_predicate_of_same {v : Value} {id : Nat} {p : Predicate}
    (h : v.same (.predicate id p) = true) : ∃ q, v = .predicate id q := by
  cases v with
  | predicate i q => exact ⟨q, beq_iff_eq.mp h ▸ rfl⟩
  | _ => cases h

mutual

theorem same_of_same_right {v w : Value} (key : Value) (hkey : key.isKey = true)
    (hv : v.same key = true) (hw : w.same key = true) : v.same w = true := by
  cases key with
  | null =>
    rw [eq_null_of_same hv, eq_null_of_same hw]
    rfl
  | bool b => exact same_of_parts_right rfl hv hw
  | int n => exact same_of_parts_right rfl hv hw
  | double d => exact same_of_parts_right rfl hv hw
  | complex re im => exact same_of_parts_right rfl hv hw
  | text s =>
    rw [(IsName.text s).same_right_iff] at hv hw
    rw [hv, hw]
    exact (IsName.text s).findsItself.same
  | bytes bs =>
    rw [(IsName.bytes bs).same_right_iff] at hv hw
    rw [hv, hw]
    exact (IsName.bytes bs).findsItself.same
  | list items => cases hkey
  | tuple items =>
    obtain ⟨vs, rfl, hvs⟩ := exists_tuple_of_same hv
    obtain ⟨ws, rfl, hws⟩ := exists_tuple_of_same hw
    exact sameAll_of_sameAll_right items hkey hvs hws
  | dictionary entries => cases hkey
  | object id className =>
    obtain ⟨_, rfl⟩ := exists_object_of_same hv
    obtain ⟨_, rfl⟩ := exists_object_of_same hw
    exact beq_self_eq_true id
  | foreign id className description test =>
    obtain ⟨_, _, _, rfl⟩ := exists_foreign_of_same hv
    obtain ⟨_, _, _, rfl⟩ := exists_foreign_of_same hw
    exact beq_self_eq_true id
  | predicate id p =>
    obtain ⟨_, rfl⟩ := exists_predicate_of_same hv
    obtain ⟨_, rfl⟩ := exists_predicate_of_same hw
    exact beq_self_eq_true id

theorem sameAll_of_sameAll_right {vs ws : List Value} (keys : List Value)
    (hkeys : areKeys keys = true) (hvs : sameAll vs keys = true) (hws : sameAll ws keys = true) :
    sameAll vs ws = true := by
  cases keys with
  | nil =>
    cases vs with
    | nil =>
      cases ws with
      | nil => rfl
      | cons w ws => cases hws
    | cons v vs => cases hvs
  | cons key rest =>
    rw [areKeys, Bool.and_eq_true] at hkeys
    cases vs with
    | nil => cases hvs
    | cons v vs =>
      cases ws with
      | nil => cases hws
      | cons w ws =>
        rw [sameAll, Bool.and_eq_true] at *
        exact ⟨same_of_same_right key hkeys.1 hvs.1 hws.1,
          sameAll_of_sameAll_right rest hkeys.2 hvs.2 hws.2⟩

end

theorem sameAll_self {vs : List Value} (h : ∀ v ∈ vs, v.same v = true) : sameAll vs vs = true := by
  induction vs with
  | nil => rfl
  | cons v rest ih =>
    rw [List.forall_mem_cons] at h
    rw [sameAll, h.1, ih h.2, Bool.true_and]

section PutEntry

variable {α : Type} {value : α} {entries : List (Value × α)}

theorem map_fst_putEntry (key : Value) (value : α) (entries : List (Value × α)) :
    (putEntry key value entries).map Prod.fst = addDistinct (entries.map Prod.fst) key := by
  induction entries with
  | nil => rfl
  | cons entry rest ih =>
    obtain ⟨k, v⟩ := entry
    rw [putEntry]
    cases hsame : k.same key with
    | true => simp [addDistinct, hsame]
    | false =>
      simp only [Bool.false_eq_true, ↓reduceIte, List.map_cons, ih, addDistinct, List.any_cons,
        hsame, Bool.false_or]
      split
      . rfl
      . rfl

theorem putEntry_of_new (value : α) (h : ∀ entry ∈ entries, entry.1.same key = false) :
    putEntry key value entries = entries ++ [(key, value)] := by
  induction entries with
  | nil => rfl
  | cons entry rest ih =>
    rw [List.forall_mem_cons] at h
    rw [putEntry, h.1, if_neg Bool.false_ne_true, ih h.2, List.cons_append]

theorem KeysDiffer.putEntry (h : KeysDiffer entries) (key : Value) (value : α) :
    KeysDiffer (putEntry key value entries) := by
  rw [keysDiffer_iff] at *
  rw [map_fst_putEntry, addDistinct]
  split
  . exact h
  . next hnew =>
    rw [List.pairwise_append]
    refine ⟨h, List.pairwise_singleton _ key, ?_⟩
    intro other hother last hlast
    rw [List.mem_singleton.mp hlast, ← Bool.not_eq_true]
    intro hsame
    exact hnew (List.any_eq_true.mpr ⟨other, hother, hsame⟩)

theorem of_mem_putEntry (hkey : key.FindsItself) (h : KeysDiffer entries) {entry : Value × α}
    (hmem : entry ∈ putEntry key value entries) :
    (entry.1.same key = true ∧ entry.2 = value) ∨
      (entry ∈ entries ∧ entry.1.same key = false) := by
  induction entries with
  | nil =>
    rw [List.mem_singleton.mp hmem]
    exact .inl ⟨hkey.same, rfl⟩
  | cons other rest ih =>
    obtain ⟨hfirst, hrest⟩ := List.pairwise_cons.mp h
    rw [putEntry] at hmem
    split at hmem
    next hsame =>
      cases List.mem_cons.mp hmem with
      | inl hput =>
        rw [hput]
        exact .inl ⟨hsame, rfl⟩
      | inr hkept =>
        refine .inr ⟨List.mem_cons_of_mem other hkept, ?_⟩
        rw [← Bool.not_eq_true]
        intro hentry
        have hboth := same_of_same_right key hkey.isKey hsame hentry
        rw [hfirst entry hkept] at hboth
        contradiction
    next hsame =>
      cases List.mem_cons.mp hmem with
      | inl hother =>
        rw [hother]
        exact .inr ⟨List.mem_cons_self, Bool.eq_false_iff.mpr hsame⟩
      | inr hkept =>
        exact (ih hrest hkept).imp_right (And.imp_left (List.mem_cons_of_mem other))

end PutEntry

theorem putEntries_concat (entries added : List (Value × Value)) (entry : Value × Value) :
    putEntries entries (added ++ [entry]) = (do
      let put ← putEntries entries added
      if entry.1.isKey then .ok (putEntry entry.1 entry.2 put) else .error .wrongType) := by
  simp [putEntries, List.foldlM_append]

theorem putEntries_of_keysDiffer {entries : List (Value × Value)}
    (hkeys : ∀ entry ∈ entries, entry.1.isKey = true) (h : KeysDiffer entries) :
    putEntries [] entries = .ok entries := by
  induction entries using List.reverseRecOn with
  | nil => rfl
  | append_singleton entries entry ih =>
    obtain ⟨hbefore, -, hnew⟩ := List.pairwise_append.mp h
    rw [List.forall_mem_append] at hkeys
    rw [putEntries_concat, ih hkeys.1 hbefore]
    have hkey := hkeys.2 entry List.mem_cons_self
    have hput := putEntry_of_new entry.2 fun other hother =>
      hnew other hother entry List.mem_cons_self
    simp [hkey, hput, bind, Except.bind]

theorem eraseDupsBy_loop_concat {α : Type} {r : α → α → Bool} (as bs : List α) (a : α) :
    List.eraseDupsBy.loop r (as ++ [a]) bs =
      if (List.eraseDupsBy.loop r as bs).any (r a) then List.eraseDupsBy.loop r as bs
      else List.eraseDupsBy.loop r as bs ++ [a] := by
  induction as generalizing bs with
  | nil =>
    simp only [List.nil_append, List.eraseDupsBy.loop, List.any_reverse]
    cases bs.any (r a) with
    | true => rfl
    | false => simp
  | cons first rest ih =>
    simp only [List.cons_append, List.eraseDupsBy.loop]
    by_cases hany : bs.any (r first) = true
    . simp only [hany]
      exact ih bs
    . simp only [hany]
      exact ih (first :: bs)

theorem eraseDupsBy_concat (names : List Value) (name : Value) :
    (names ++ [name]).eraseDupsBy (fun a b => b.same a) =
      addDistinct (names.eraseDupsBy fun a b => b.same a) name :=
  eraseDupsBy_loop_concat names [] name

end Value

end MetricCheck
