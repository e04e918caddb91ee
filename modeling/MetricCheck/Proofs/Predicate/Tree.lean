import Mathlib.Data.List.Forall2
import MetricCheck.Proofs.Search.Labels
import MetricCheck.Proofs.Text.Readable
import MetricCheck.Predicate.Description

/-!
This module contains the predicates that are trees over texts and integers. They decide every value,
and they describe themselves as long as their integers can be written. Their descriptions can be
read back: where a description stands at the start of a text, it says where it ends and what the
predicate accepts.
-/

namespace MetricCheck

theorem map_eq_of_forall₂ {α β : Type} {R : α → α → Prop} {f g : α → β}
    (hfg : ∀ a b, R a b → f a = g b) {xs ys : List α} (h : List.Forall₂ R xs ys) :
    xs.map f = ys.map g := by
  rw [← List.forall₂_eq_eq_eq, List.forall₂_map_left_iff, List.forall₂_map_right_iff]
  exact h.imp hfg

def Value.integer? : Value → Option Int
  | .int n => some n
  | _ => none

def Number.integer? : Number → Option Int
  | .int n => some n
  | .double _ => none

namespace Predicate

/--
A tree is built from tests on texts and integers by negation, and by conjunctions and disjunctions
with at least one operand.
-/
inductive IsTree : Predicate → Prop where
  | anything : IsTree .anything
  | text (s : String) : IsTree (.equalTo (.text s))
  | int (n : Int) : IsTree (.equalTo (.int n))
  | textual {relation : TextRelation} (part : String) : relation ≠ .unspecified →
      IsTree (.textual relation part)
  | ordered (relation : OrderRelation) (n : Int) : IsTree (.ordered relation (.int n))
  | not {operand : Predicate} : IsTree operand → IsTree (.not operand)
  | allOf {operands : List Predicate} : operands ≠ [] → (∀ p ∈ operands, IsTree p) →
      IsTree (.allOf operands)
  | anyOf {operands : List Predicate} : operands ≠ [] → (∀ p ∈ operands, IsTree p) →
      IsTree (.anyOf operands)

structure Alike (p q : Predicate) : Prop where
  describe : p.describe = q.describe
  accepts : ∀ v, p.accepts v = q.accepts v

mutual

def integers : Predicate → List Int
  | .equalTo expected => expected.integer?.toList
  | .ordered _ bound => bound.integer?.toList
  | .not operand => operand.integers
  | .allOf operands | .anyOf operands => allIntegers operands
  | .anything | .textual _ _ | .closeTo _ _ | .plain _ | .custom _ _ _ | .abstract => []
termination_by structural p => p

def allIntegers : List Predicate → List Int
  | [] => []
  | p :: rest => p.integers ++ allIntegers rest
termination_by structural ps => ps

end

def integerSpelling (n : Int) : List Char :=
  '<' :: ((toString n).toList ++ ['>'])

def expectedSpelling : Value → List Char
  | .text s => (Text.quoted s).toList
  | .int n => integerSpelling n
  | _ => []

mutual

def spelling : Predicate → List Char
  | .anything => "ANYTHING".toList
  | .equalTo expected => expectedSpelling expected
  | .textual relation part =>
    "a string ".toList ++ (relation.phrase.toList ++ ' ' :: (Text.quoted part).toList)
  | .ordered relation bound =>
    "a value ".toList ++ (relation.phrase.toList ++ ' ' :: bound.integer?.elim [] integerSpelling)
  | .not operand => "not ".toList ++ operand.spelling
  | .allOf operands => '(' :: (Text.joined " and " (spellings operands) ++ [')'])
  | .anyOf operands => '(' :: (Text.joined " or " (spellings operands) ++ [')'])
  | .closeTo _ _ | .plain _ | .custom _ _ _ | .abstract => []
termination_by structural p => p

def spellings : List Predicate → List (List Char)
  | [] => []
  | p :: rest => p.spelling :: spellings rest
termination_by structural ps => ps

end

def rowSpelling (separator : String) (ps : List Predicate) : List Char :=
  ps.flatMap fun p => separator.toList ++ p.spelling

/--
A predicate can be read back from the start of a text that it is spelled at: a tree that is spelled
there is like it, and the rest of the text is the same.
-/
def ReadsBack (p : Predicate) : Prop :=
  ∀ {q : Predicate} {u v : List Char}, q.IsTree → p.spelling ++ u = q.spelling ++ v →
    p.Alike q ∧ u = v

/--
The characters that tell at the start of a description of which kind the tree is. Conjunctions and
disjunctions are told apart only by what stands between their operands.
-/
def opening : Predicate → List Char
  | .anything => ['A']
  | .equalTo (.text _) => ['"']
  | .equalTo _ => ['<']
  | .textual _ _ => ['a', ' ', 's']
  | .ordered _ _ => ['a', ' ', 'v']
  | .not _ => ['n']
  | .allOf _ => ['(']
  | .anyOf _ => ['(']
  | _ => []

variable {p q : Predicate} {ps qs : List Predicate} {v : Value}

theorem exists_allAccept (h : ∀ p ∈ ps, p.Decides v) : ∃ b, allAccept ps v = .ok b := by
  induction ps with
  | nil => exact ⟨true, rfl⟩
  | cons p rest ih =>
    rw [List.forall_mem_cons] at h
    obtain ⟨b, hb⟩ := h.1
    rw [allAccept, hb]
    cases b with
    | false => exact ⟨false, rfl⟩
    | true => exact ih h.2

theorem exists_anyAccepts (h : ∀ p ∈ ps, p.Decides v) : ∃ b, anyAccepts ps v = .ok b := by
  induction ps with
  | nil => exact ⟨false, rfl⟩
  | cons p rest ih =>
    rw [List.forall_mem_cons] at h
    obtain ⟨b, hb⟩ := h.1
    rw [anyAccepts, hb]
    cases b with
    | false => exact ih h.2
    | true => exact ⟨true, rfl⟩

theorem decides_textual {relation : TextRelation} (h : relation ≠ .unspecified) (part : String)
    (v : Value) : (textual relation part).Decides v := by
  rw [Decides, accepts]
  split
  . cases relation with
    | unspecified => contradiction
    | _ => exact ⟨_, rfl⟩
  . exact ⟨false, rfl⟩

theorem decides_ordered (relation : OrderRelation) (bound : Number) (v : Value) :
    (ordered relation bound).Decides v := by
  rw [Decides, accepts]
  split
  . exact ⟨_, rfl⟩
  . exact ⟨false, rfl⟩

theorem Decides.not (h : p.Decides v) : (Predicate.not p).Decides v := by
  obtain ⟨b, hb⟩ := h
  rw [Decides, accepts_not, hb]
  exact ⟨!b, rfl⟩

theorem IsTree.decides (h : p.IsTree) (v : Value) : p.Decides v := by
  induction h with
  | anything => exact ⟨true, rfl⟩
  | text s => exact ⟨_, rfl⟩
  | int n => exact ⟨_, rfl⟩
  | textual part hrelation => exact decides_textual hrelation part v
  | ordered relation n => exact decides_ordered relation (.int n) v
  | not _ ih => exact ih.not
  | allOf _ _ ih => exact exists_allAccept ih
  | anyOf _ _ ih => exact exists_anyAccepts ih

theorem mem_allIntegers {n : Int} : n ∈ allIntegers ps ↔ ∃ p ∈ ps, n ∈ p.integers := by
  induction ps with
  | nil => simp [allIntegers]
  | cons p rest ih => simp [allIntegers, ih]

theorem fault?_ofExcept_writeInt {n : Int} :
    (Rendering.ofExcept ((Number.writeInt n).map fun s => "<" ++ s ++ ">")).fault? = none ↔
      Number.IsShort n := by
  by_cases hshort : Number.IsShort n
  . simp [Number.writeInt_of_isShort hshort, Rendering.ofExcept, Except.map, hshort]
  . simp [Number.writeInt_of_not_isShort hshort, Rendering.ofExcept, Except.map, hshort,
      Rendering.fail]

theorem describe_int (n : Int) : (equalTo (.int n)).describe =
    Rendering.ofExcept ((Number.writeInt n).map fun s => "<" ++ s ++ ">") := rfl

theorem describe_ordered_int (relation : OrderRelation) (n : Int) :
    (ordered relation (.int n)).describe =
      Rendering.ofText ("a value " ++ relation.phrase ++ " ") ++ Rendering.ofExcept
        ((Number.writeInt n).map fun s => "<" ++ s ++ ">") := rfl

theorem fault?_junction (ih : ∀ p ∈ ps,
    p.describe.fault? = none ↔ ∀ n ∈ p.integers, Number.IsShort n) :
    (∀ p ∈ ps, p.describe.fault? = none) ↔ ∀ n ∈ allIntegers ps, Number.IsShort n := by
  constructor
  . intro h n hn
    obtain ⟨p, hp, hn⟩ := mem_allIntegers.mp hn
    exact (ih p hp).mp (h p hp) n hn
  . intro h p hp
    exact (ih p hp).mpr fun n hn => h n (mem_allIntegers.mpr ⟨p, hp, hn⟩)

theorem IsTree.fault?_describe (h : p.IsTree) :
    p.describe.fault? = none ↔ ∀ n ∈ p.integers, Number.IsShort n := by
  induction h with
  | anything | text | textual => exact iff_of_true rfl nofun
  | int n =>
    rw [describe_int, fault?_ofExcept_writeInt]
    simp [integers, Value.integer?]
  | ordered relation n =>
    rw [describe_ordered_int, Rendering.fault?_append, fault?_ofExcept_writeInt]
    simp [integers, Number.integer?]
  | not _ ih => simpa [describe_not, integers] using ih
  | allOf _ _ ih =>
    rw [describe_allOf, Rendering.fault?_enclosed, List.forall_mem_map, fault?_junction ih,
      integers]
  | anyOf _ _ ih =>
    rw [describe_anyOf, Rendering.fault?_enclosed, List.forall_mem_map, fault?_junction ih,
      integers]

section Spelling

-- These hold by definition. Unfolding a spelling would decode the texts in it.
theorem spelling_anything : spelling .anything = "ANYTHING".toList := rfl

theorem spelling_text (s : String) : spelling (.equalTo (.text s)) = (Text.quoted s).toList := rfl

theorem spelling_int (n : Int) : spelling (.equalTo (.int n)) = integerSpelling n := rfl

theorem spelling_textual (relation : TextRelation) (part : String) :
    spelling (.textual relation part) =
      "a string ".toList ++ (relation.phrase.toList ++ ' ' :: (Text.quoted part).toList) := rfl

theorem spelling_ordered (relation : OrderRelation) (n : Int) :
    spelling (.ordered relation (.int n)) =
      "a value ".toList ++ (relation.phrase.toList ++ ' ' :: integerSpelling n) := rfl

theorem spelling_not (operand : Predicate) :
    spelling (.not operand) = "not ".toList ++ operand.spelling := rfl

theorem spellings_eq_map : spellings ps = ps.map spelling := by
  induction ps with
  | nil => rfl
  | cons p rest ih => rw [spellings, ih, List.map_cons]

theorem joined_spellings (separator : String) :
    Text.joined separator (spellings (p :: ps)) = p.spelling ++ rowSpelling separator ps := by
  rw [spellings, Text.joined, spellings_eq_map, List.flatMap_map, rowSpelling]

theorem spelling_allOf :
    spelling (.allOf (p :: ps)) = '(' :: (p.spelling ++ rowSpelling " and " ps ++ [')']) := by
  rw [← joined_spellings]
  rfl

theorem spelling_anyOf :
    spelling (.anyOf (p :: ps)) = '(' :: (p.spelling ++ rowSpelling " or " ps ++ [')']) := by
  rw [← joined_spellings]
  rfl

theorem writeInt_spells {n : Int} (h : Number.IsShort n) :
    (Rendering.ofExcept ((Number.writeInt n).map fun s => "<" ++ s ++ ">")).Spells
      (integerSpelling n) := by
  rw [Number.writeInt_of_isShort h]
  refine ⟨rfl, ?_⟩
  simp [Rendering.ofExcept, Except.map, integerSpelling]

theorem enclosed_spells {separator : String}
    (hps : ∀ other ∈ p :: ps, other.describe.Spells other.spelling) :
    (Rendering.enclosed "(" separator ")" ((p :: ps).map describe)).Spells
      ('(' :: (p.spelling ++ rowSpelling separator ps ++ [')'])) :=
  ((Rendering.spells_ofText "(").append (Rendering.spells_separated separator hps)).append
    (Rendering.spells_ofText ")")

theorem IsTree.spells (h : p.IsTree) (hdescribes : p.describe.fault? = none) :
    p.describe.Spells p.spelling := by
  induction h with
  | anything => exact Rendering.spells_ofText _
  | text s => exact Rendering.spells_ofText _
  | int n => exact writeInt_spells (fault?_ofExcept_writeInt.mp hdescribes)
  | textual part _ =>
    refine ⟨rfl, ?_⟩
    simp [describe, spelling_textual]
  | ordered relation n =>
    rw [describe_ordered_int, Rendering.fault?_append, fault?_ofExcept_writeInt] at hdescribes
    rw [describe_ordered_int]
    have hspells := (Rendering.spells_ofText ("a value " ++ relation.phrase ++ " ")).append
      (writeInt_spells hdescribes.2)
    simpa [spelling_ordered] using hspells
  | not _ ih =>
    rw [describe_not, Rendering.fault?_append] at hdescribes
    rw [describe_not]
    exact (Rendering.spells_ofText "not ").append (ih hdescribes.2)
  | allOf hne _ ih =>
    obtain ⟨p, ps, rfl⟩ := List.exists_cons_of_ne_nil hne
    rw [describe_allOf, Rendering.fault?_enclosed, List.forall_mem_map] at hdescribes
    rw [describe_allOf, spelling_allOf]
    exact enclosed_spells fun other hother => ih other hother (hdescribes other hother)
  | anyOf hne _ ih =>
    obtain ⟨p, ps, rfl⟩ := List.exists_cons_of_ne_nil hne
    rw [describe_anyOf, Rendering.fault?_enclosed, List.forall_mem_map] at hdescribes
    rw [describe_anyOf, spelling_anyOf]
    exact enclosed_spells fun other hother => ih other hother (hdescribes other hother)

theorem IsTree.exists_spelling (h : p.IsTree) : ∃ rest, p.spelling = p.opening ++ rest := by
  cases h with
  | anything => exact ⟨_, rfl⟩
  | text s => exact ⟨_, Text.toList_quoted s⟩
  | int n => exact ⟨_, rfl⟩
  | textual part _ => exact ⟨_, rfl⟩
  | ordered relation n => exact ⟨_, rfl⟩
  | not _ => exact ⟨_, rfl⟩
  | allOf _ _ => exact ⟨_, rfl⟩
  | anyOf _ _ => exact ⟨_, rfl⟩

end Spelling

section Alike

theorem Alike.refl (p : Predicate) : p.Alike p :=
  ⟨rfl, fun _ => rfl⟩

theorem Alike.symm (h : p.Alike q) : q.Alike p :=
  ⟨h.describe.symm, fun v => (h.accepts v).symm⟩

theorem Alike.trans {p' : Predicate} (h : p.Alike q) (h' : q.Alike p') : p.Alike p' :=
  ⟨h.describe.trans h'.describe, fun v => (h.accepts v).trans (h'.accepts v)⟩

theorem map_describe_eq (h : List.Forall₂ Alike ps qs) : ps.map describe = qs.map describe :=
  map_eq_of_forall₂ (fun _ _ hpq => hpq.describe) h

theorem alike_not (h : p.Alike q) : Alike (.not p) (.not q) where
  describe := by rw [describe_not, describe_not, h.describe]
  accepts := by
    intro v
    rw [accepts_not, accepts_not, h.accepts]

theorem alike_allOf (h : List.Forall₂ Alike ps qs) : Alike (.allOf ps) (.allOf qs) where
  describe := by rw [describe_allOf, describe_allOf, map_describe_eq h]
  accepts := by
    intro v
    rw [accepts_allOf, accepts_allOf]
    induction h with
    | nil => rfl
    | cons hhead _ ih => rw [allAccept, allAccept, hhead.accepts, ih]

theorem alike_anyOf (h : List.Forall₂ Alike ps qs) : Alike (.anyOf ps) (.anyOf qs) where
  describe := by rw [describe_anyOf, describe_anyOf, map_describe_eq h]
  accepts := by
    intro v
    rw [accepts_anyOf, accepts_anyOf]
    induction h with
    | nil => rfl
    | cons hhead _ ih => rw [anyAccepts, anyAccepts, hhead.accepts, ih]

-- With a single operand it makes no difference whether all operands or any of them must accept.
theorem alike_allOf_anyOf (p : Predicate) : Alike (.allOf [p]) (.anyOf [p]) where
  describe := rfl
  accepts := by
    intro v
    rw [accepts_allOf, accepts_anyOf, allAccept, anyAccepts]
    obtain fault | accepted := p.accepts v
    . rfl
    . cases accepted <;> rfl

theorem alike_allOf_anyOf_of_single (h : List.Forall₂ Alike (p :: ps) (q :: qs))
    (hps : ps = []) : Alike (.allOf (p :: ps)) (.anyOf (q :: qs)) := by
  subst hps
  cases h with
  | cons hhead hrest =>
    cases hrest
    exact (alike_allOf (.cons hhead .nil)).trans (alike_allOf_anyOf q)

theorem alike_anyOf_allOf_of_single (h : List.Forall₂ Alike (p :: ps) (q :: qs))
    (hps : ps = []) : Alike (.anyOf (p :: ps)) (.allOf (q :: qs)) := by
  subst hps
  cases h with
  | cons hhead hrest =>
    cases hrest
    exact (alike_anyOf (.cons hhead .nil)).trans (alike_allOf_anyOf q).symm

end Alike

section ReadsBack

variable {separator separator' : String} {u w : List Char}

theorem separator_append_inj (h : separator = " and " ∨ separator = " or ")
    (h' : separator' = " and " ∨ separator' = " or ")
    (heq : separator.toList ++ u = separator'.toList ++ w) : separator = separator' ∧ u = w := by
  rcases h with rfl | rfl <;> rcases h' with rfl | rfl <;> simp_all

theorem separator_append_ne (h : separator = " and " ∨ separator = " or ") :
    separator.toList ++ u ≠ ')' :: w := by
  rcases h with rfl | rfl <;> simp

theorem rowSpelling_append_inj (hps : ∀ p ∈ ps, p.ReadsBack) (hqs : ∀ q ∈ qs, q.IsTree)
    (h : separator = " and " ∨ separator = " or ")
    (h' : separator' = " and " ∨ separator' = " or ")
    (heq : rowSpelling separator ps ++ ')' :: u = rowSpelling separator' qs ++ ')' :: w) :
    List.Forall₂ Alike ps qs ∧ (ps = [] ∨ separator = separator') ∧ u = w := by
  induction ps generalizing qs with
  | nil =>
    cases qs with
    | nil => exact ⟨.nil, .inl rfl, by simpa [rowSpelling] using heq⟩
    | cons q qs =>
      simp only [rowSpelling, List.flatMap_nil, List.nil_append, List.flatMap_cons,
        List.append_assoc] at heq
      exact absurd heq.symm (separator_append_ne h')
  | cons p ps ih =>
    cases qs with
    | nil =>
      simp only [rowSpelling, List.flatMap_nil, List.nil_append, List.flatMap_cons,
        List.append_assoc] at heq
      exact absurd heq (separator_append_ne h)
    | cons q qs =>
      rw [List.forall_mem_cons] at hps hqs
      simp only [rowSpelling, List.flatMap_cons, List.append_assoc] at heq
      obtain ⟨hseparator, hrow⟩ := separator_append_inj h h' heq
      obtain ⟨halike, hrest⟩ := hps.1 hqs.1 hrow
      obtain ⟨hrest, -, htail⟩ := ih hps.2 hqs.2 hrest
      exact ⟨.cons halike hrest, .inr hseparator, htail⟩

theorem junction_append_inj (hps : ∀ other ∈ p :: ps, other.ReadsBack)
    (hqs : ∀ other ∈ q :: qs, other.IsTree) (h : separator = " and " ∨ separator = " or ")
    (h' : separator' = " and " ∨ separator' = " or ")
    (heq : '(' :: (p.spelling ++ rowSpelling separator ps ++ [')']) ++ u =
      '(' :: (q.spelling ++ rowSpelling separator' qs ++ [')']) ++ w) :
    List.Forall₂ Alike (p :: ps) (q :: qs) ∧ (ps = [] ∨ separator = separator') ∧ u = w := by
  rw [List.forall_mem_cons] at hps hqs
  simp only [List.cons_append, List.append_assoc, List.nil_append, List.cons.injEq,
    true_and] at heq
  obtain ⟨halike, hrow⟩ := hps.1 hqs.1 heq
  obtain ⟨hrest, hseparator, htail⟩ := rowSpelling_append_inj hps.2 hqs.2 h h' hrow
  exact ⟨.cons halike hrest, hseparator, htail⟩

theorem textual_phrase_append_inj {relation relation' : TextRelation}
    (h : relation ≠ .unspecified) (h' : relation' ≠ .unspecified)
    (heq : relation.phrase.toList ++ ' ' :: u = relation'.phrase.toList ++ ' ' :: w) :
    relation = relation' ∧ u = w := by
  cases relation <;> cases relation' <;> simp_all [TextRelation.phrase]

theorem order_phrase_append_inj {relation relation' : OrderRelation}
    (heq : relation.phrase.toList ++ ' ' :: '<' :: u = relation'.phrase.toList ++ ' ' :: '<' :: w) :
    relation = relation' ∧ u = w := by
  cases relation <;> cases relation' <;> simp_all [OrderRelation.phrase]

theorem readsBack_anything : ReadsBack .anything := by
  intro q u v hq h
  obtain ⟨rest, hrest⟩ := hq.exists_spelling
  cases hq with
  | anything => exact ⟨.refl _, by simpa using h⟩
  | _ => simp [hrest, spelling_anything, opening] at h

theorem readsBack_text (s : String) : ReadsBack (.equalTo (.text s)) := by
  intro q u v hq h
  obtain ⟨rest, hrest⟩ := hq.exists_spelling
  cases hq with
  | text t =>
    obtain ⟨rfl, htail⟩ := Text.quoted_append_inj h
    exact ⟨.refl _, htail⟩
  | _ => simp [hrest, spelling_text, opening] at h

theorem readsBack_int (n : Int) : ReadsBack (.equalTo (.int n)) := by
  intro q u v hq h
  obtain ⟨rest, hrest⟩ := hq.exists_spelling
  cases hq with
  | int m =>
    simp only [spelling_int, integerSpelling, List.cons_append, List.append_assoc, List.nil_append,
      List.cons.injEq, true_and] at h
    obtain ⟨rfl, htail⟩ := Text.toString_int_append_inj h
    exact ⟨.refl _, htail⟩
  | _ => simp [hrest, spelling_int, integerSpelling, opening] at h

theorem readsBack_textual {relation : TextRelation} (hrelation : relation ≠ .unspecified)
    (part : String) : ReadsBack (.textual relation part) := by
  intro q u v hq h
  obtain ⟨rest, hrest⟩ := hq.exists_spelling
  cases hq with
  | textual part' hrelation' =>
    simp only [spelling_textual, List.append_assoc, List.cons_append,
      List.append_cancel_left_eq] at h
    obtain ⟨rfl, hquoted⟩ := textual_phrase_append_inj hrelation hrelation' h
    obtain ⟨rfl, htail⟩ := Text.quoted_append_inj hquoted
    exact ⟨.refl _, htail⟩
  | _ => simp [hrest, spelling_textual, opening] at h

theorem readsBack_ordered (relation : OrderRelation) (n : Int) :
    ReadsBack (.ordered relation (.int n)) := by
  intro q u v hq h
  obtain ⟨rest, hrest⟩ := hq.exists_spelling
  cases hq with
  | ordered relation' m =>
    simp only [spelling_ordered, integerSpelling, List.append_assoc, List.cons_append,
      List.nil_append, List.append_cancel_left_eq] at h
    obtain ⟨rfl, hdigits⟩ := order_phrase_append_inj h
    obtain ⟨rfl, htail⟩ := Text.toString_int_append_inj hdigits
    exact ⟨.refl _, htail⟩
  | _ => simp [hrest, spelling_ordered, integerSpelling, opening] at h

theorem ReadsBack.not (hp : p.ReadsBack) : (Predicate.not p).ReadsBack := by
  intro q u v hq h
  obtain ⟨rest, hrest⟩ := hq.exists_spelling
  cases hq with
  | not hq =>
    rw [spelling_not, spelling_not, List.append_assoc, List.append_assoc,
      List.append_cancel_left_eq] at h
    obtain ⟨halike, htail⟩ := hp hq h
    exact ⟨alike_not halike, htail⟩
  | _ => simp [hrest, spelling_not, opening] at h

theorem readsBack_allOf (hne : ps ≠ []) (hps : ∀ p ∈ ps, p.ReadsBack) :
    (allOf ps).ReadsBack := by
  intro q u v hq h
  obtain ⟨rest, hrest⟩ := hq.exists_spelling
  obtain ⟨p, ps, rfl⟩ := List.exists_cons_of_ne_nil hne
  rw [spelling_allOf] at h
  cases hq with
  | allOf hne' hqs =>
    obtain ⟨q, qs, rfl⟩ := List.exists_cons_of_ne_nil hne'
    rw [spelling_allOf] at h
    obtain ⟨halike, -, htail⟩ := junction_append_inj hps hqs (.inl rfl) (.inl rfl) h
    exact ⟨alike_allOf halike, htail⟩
  | anyOf hne' hqs =>
    obtain ⟨q, qs, rfl⟩ := List.exists_cons_of_ne_nil hne'
    rw [spelling_anyOf] at h
    obtain ⟨halike, hsingle, htail⟩ := junction_append_inj hps hqs (.inl rfl) (.inr rfl) h
    exact ⟨alike_allOf_anyOf_of_single halike (by simpa using hsingle), htail⟩
  | _ => simp [hrest, opening] at h

theorem readsBack_anyOf (hne : ps ≠ []) (hps : ∀ p ∈ ps, p.ReadsBack) :
    (anyOf ps).ReadsBack := by
  intro q u v hq h
  obtain ⟨rest, hrest⟩ := hq.exists_spelling
  obtain ⟨p, ps, rfl⟩ := List.exists_cons_of_ne_nil hne
  rw [spelling_anyOf] at h
  cases hq with
  | allOf hne' hqs =>
    obtain ⟨q, qs, rfl⟩ := List.exists_cons_of_ne_nil hne'
    rw [spelling_allOf] at h
    obtain ⟨halike, hsingle, htail⟩ := junction_append_inj hps hqs (.inr rfl) (.inl rfl) h
    exact ⟨alike_anyOf_allOf_of_single halike (by simpa using hsingle), htail⟩
  | anyOf hne' hqs =>
    obtain ⟨q, qs, rfl⟩ := List.exists_cons_of_ne_nil hne'
    rw [spelling_anyOf] at h
    obtain ⟨halike, -, htail⟩ := junction_append_inj hps hqs (.inr rfl) (.inr rfl) h
    exact ⟨alike_anyOf halike, htail⟩
  | _ => simp [hrest, opening] at h

theorem IsTree.readsBack (hp : p.IsTree) : p.ReadsBack := by
  induction hp with
  | anything => exact readsBack_anything
  | text s => exact readsBack_text s
  | int n => exact readsBack_int n
  | textual part hrelation => exact readsBack_textual hrelation part
  | ordered relation n => exact readsBack_ordered relation n
  | not _ ih => exact ih.not
  | allOf hne _ ih => exact readsBack_allOf hne ih
  | anyOf hne _ ih => exact readsBack_anyOf hne ih

theorem description_append_inj (hp : p.IsTree) (hq : q.IsTree) :
    ((∃ s, p.describe.complete = .ok s) ↔ ∀ n ∈ p.integers, Number.IsShort n) ∧
      ∀ s t, p.describe.complete = .ok s → q.describe.complete = .ok t →
        ∀ u v, s ++ u = t ++ v → s = t ∧ u = v ∧
          ∀ item, ∃ accepted, p.accepts item = .ok accepted ∧ q.accepts item = .ok accepted := by
  constructor
  . rw [← hp.fault?_describe]
    constructor
    . rintro ⟨s, hs⟩
      exact Rendering.fault?_of_complete hs
    . intro hdescribes
      exact ⟨_, Rendering.complete_of_fault? hdescribes⟩
  . intro s t hs ht u v h
    have hsp := (hp.spells (Rendering.fault?_of_complete hs)).of_complete hs
    have htq := (hq.spells (Rendering.fault?_of_complete ht)).of_complete ht
    have hspelling : p.spelling ++ u.toList = q.spelling ++ v.toList := by
      rw [← hsp, ← htq, ← String.toList_append, ← String.toList_append, h]
    obtain ⟨halike, htail⟩ := hp.readsBack hq hspelling
    refine ⟨?_, String.toList_inj.mp htail, ?_⟩
    . rw [halike.describe, ht] at hs
      exact (Except.ok.inj hs).symm
    . intro item
      obtain ⟨accepted, haccepted⟩ := hp.decides item
      exact ⟨accepted, haccepted, by rw [← halike.accepts, haccepted]⟩

def quotedConjunction : Predicate :=
  .equalTo (.text "in\" and \"out\")")

theorem description_append_inj_quotedConjunction :
    (allOf [quotedConjunction]).IsTree ∧ (anyOf [quotedConjunction]).IsTree ∧
      ∀ item, ∃ accepted, (allOf [quotedConjunction]).accepts item = .ok accepted ∧
        (anyOf [quotedConjunction]).accepts item = .ok accepted := by
  have htree : ∀ p ∈ [quotedConjunction], p.IsTree := by
    rw [List.forall_mem_singleton]
    exact .text _
  have hall : (allOf [quotedConjunction]).IsTree := .allOf (List.cons_ne_nil _ _) htree
  have hany : (anyOf [quotedConjunction]).IsTree := .anyOf (List.cons_ne_nil _ _) htree
  obtain ⟨hdescribes, hinj⟩ := description_append_inj hall hany
  obtain ⟨s, hs⟩ := hdescribes.mpr nofun
  obtain ⟨-, -, haccepts⟩ := hinj s s hs hs " value: " " value: " rfl
  exact ⟨hall, hany, haccepts⟩

end ReadsBack

end Predicate

end MetricCheck
