import MetricCheck.Predicate.Basic
import MetricCheck.Proofs.Search.Labels

/-!
This module contains the laws of putting predicates together. Operands are asked from left to right
until one of them settles the matter, and an operand that fails ends the asking with its fault. Both
sides of a law come to the same operand, so they have the same outcome on every value, whether that
is an answer or a fault.
-/

namespace MetricCheck

inductive Junction where
  | all
  | any

namespace Junction

def of : Junction → List Predicate → Predicate
  | all, operands => .allOf operands
  | any, operands => .anyOf operands

def settling : Junction → Bool
  | all => false
  | any => true

def dual : Junction → Junction
  | all => any
  | any => all

def pair : Junction → Value → Value → Except Fault Predicate
  | all => Value.both
  | any => Value.either

variable (j : Junction) (p : Predicate) (ps qs : List Predicate) (v : Value)

theorem accepts_nil : (j.of []).accepts v = .ok !j.settling := by
  cases j <;> rfl

theorem accepts_cons :
    (j.of (p :: ps)).accepts v = (do
      if (← p.accepts v) = j.settling then return j.settling else (j.of ps).accepts v) := by
  cases j with
  | all =>
    rw [of, of, Predicate.accepts_allOf, Predicate.accepts_allOf, Predicate.allAccept]
    obtain fault | accepted := p.accepts v
    . rfl
    . cases accepted <;> rfl
  | any =>
    rw [of, of, Predicate.accepts_anyOf, Predicate.accepts_anyOf, Predicate.anyAccepts]
    obtain fault | accepted := p.accepts v
    . rfl
    . cases accepted <;> rfl

theorem accepts_singleton : (j.of [p]).accepts v = p.accepts v := by
  rw [accepts_cons, accepts_nil]
  obtain fault | accepted := p.accepts v
  . rfl
  . cases j <;> cases accepted <;> rfl

-- The operands after a row are asked only if the row does not settle the matter.
theorem accepts_append :
    (j.of (ps ++ qs)).accepts v = (do
      if (← (j.of ps).accepts v) = j.settling then return j.settling
      else (j.of qs).accepts v) := by
  induction ps with
  | nil =>
    rw [List.nil_append, accepts_nil]
    cases j <;> rfl
  | cons p ps ih =>
    rw [List.cons_append, accepts_cons, accepts_cons, ih]
    obtain fault | accepted := p.accepts v
    . rfl
    . cases j <;> cases accepted <;> rfl

theorem accepts_flatten (before inner after : List Predicate) :
    (j.of (before ++ j.of inner :: after)).accepts v =
      (j.of (before ++ inner ++ after)).accepts v := by
  rw [List.append_assoc, accepts_append, accepts_cons, accepts_append j before,
    accepts_append j inner]

theorem accepts_not :
    (Predicate.not (j.of ps)).accepts v = (j.dual.of (ps.map Predicate.not)).accepts v := by
  rw [Predicate.accepts_not]
  induction ps with
  | nil => cases j <;> rfl
  | cons p ps ih =>
    rw [List.map_cons, accepts_cons, accepts_cons, ← ih, Predicate.accepts_not]
    obtain fault | accepted := p.accepts v
    . rfl
    . cases j <;> cases accepted <;> rfl

section Decided

variable {j ps qs v}

theorem exists_accepts (h : ∀ p ∈ ps, p.Decides v) :
    ∃ accepted, (j.of ps).accepts v = .ok accepted ∧
      (accepted = j.settling ↔ ∃ p ∈ ps, p.accepts v = .ok j.settling) := by
  induction ps with
  | nil => exact ⟨!j.settling, accepts_nil j v, by simp⟩
  | cons p ps ih =>
    rw [List.forall_mem_cons] at h
    obtain ⟨own, hown⟩ := h.1
    obtain ⟨accepted, haccepted, hiff⟩ := ih h.2
    rw [accepts_cons, hown, haccepted]
    by_cases hsettles : own = j.settling
    . refine ⟨j.settling, by simp [hsettles, bind, Except.bind, pure, Except.pure], ?_⟩
      simp [hown, hsettles]
    . refine ⟨accepted, by simp [hsettles, bind, Except.bind], ?_⟩
      simp [hown, hsettles, hiff]

theorem accepts_of_mem_iff (h : ∀ p ∈ ps, p.Decides v) (hmem : ∀ p, p ∈ ps ↔ p ∈ qs) :
    ∃ accepted, (j.of ps).accepts v = .ok accepted ∧ (j.of qs).accepts v = .ok accepted := by
  have hdecides : ∀ p ∈ qs, p.Decides v := fun p hp => h p ((hmem p).mpr hp)
  obtain ⟨accepted, haccepted, hiff⟩ := exists_accepts (j := j) h
  obtain ⟨accepted', haccepted', hiff'⟩ := exists_accepts (j := j) hdecides
  simp only [hmem, ← hiff'] at hiff
  have hsame : accepted = accepted' := by
    cases j <;> cases accepted <;> cases accepted' <;> simp_all [settling]
  exact ⟨accepted, haccepted, hsame ▸ haccepted'⟩

end Decided

section Pair

variable {j : Junction}

theorem pair_eq_ok {l r : Value} {whole : Predicate} (h : j.pair l r = .ok whole) :
    whole = j.of [.ofValue l, .ofValue r] := by
  cases j <;> cases l <;> cases h <;> rfl

theorem exists_pair {l : Value} (hl : l.predicate?.isSome = true) (r : Value) :
    ∃ whole, j.pair l r = .ok whole := by
  cases l with
  | predicate id p => cases j <;> exact ⟨_, rfl⟩
  | _ => contradiction

end Pair

end Junction

/--
A way to put a row of operands together by an operator, two at a time. Every application of the
operator makes a predicate with an identity of its own.
-/
inductive Bracketing where
  | operand (v : Value)
  | pair (id : Nat) (left right : Bracketing)

namespace Bracketing

def operands : Bracketing → List Value
  | operand v => [v]
  | pair _ left right => left.operands ++ right.operands

def combine (j : Junction) : Bracketing → Except Fault Value
  | operand v => .ok v
  | pair id left right => do
    let l ← left.combine j
    let r ← right.combine j
    return .predicate id (← j.pair l r)

variable {j : Junction} {b : Bracketing}

theorem exists_combine (h : ∀ v ∈ b.operands, v.predicate?.isSome = true) :
    ∃ whole, b.combine j = .ok whole ∧ whole.predicate?.isSome = true := by
  induction b with
  | operand v => exact ⟨v, rfl, h v (List.mem_singleton_self v)⟩
  | pair id left right ihl ihr =>
    rw [operands, List.forall_mem_append] at h
    obtain ⟨l, hl, hpredicate⟩ := ihl h.1
    obtain ⟨r, hr, -⟩ := ihr h.2
    obtain ⟨whole, hwhole⟩ := Junction.exists_pair (j := j) hpredicate r
    refine ⟨.predicate id whole, ?_, rfl⟩
    simp [combine, hl, hr, hwhole, bind, Except.bind, pure, Except.pure]

theorem accepts_combine {whole : Value} (h : b.combine j = .ok whole) (v : Value) :
    (Predicate.ofValue whole).accepts v = (j.of (b.operands.map Predicate.ofValue)).accepts v := by
  induction b generalizing whole with
  | operand w =>
    cases h
    exact (Junction.accepts_singleton j _ v).symm
  | pair id left right ihl ihr =>
    obtain ⟨l, hl, h⟩ := Except.of_bind_eq_ok h
    obtain ⟨r, hr, h⟩ := Except.of_bind_eq_ok h
    obtain ⟨p, hp, h⟩ := Except.of_bind_eq_ok h
    cases h
    rw [Predicate.ofValue, Junction.pair_eq_ok hp, operands, List.map_append,
      Junction.accepts_append, ← ihl hl, ← ihr hr, Junction.accepts_cons,
      Junction.accepts_singleton]

end Bracketing

namespace Predicate

def isLeaf : Predicate → Bool
  | .not _ => false
  | .allOf _ => false
  | .anyOf _ => false
  | _ => true

inductive NegatesLeaves : Predicate → Prop
  | leaf {p : Predicate} : p.isLeaf = true → NegatesLeaves p
  | not {p : Predicate} : p.isLeaf = true → NegatesLeaves (.not p)
  | junction {j : Junction} {ps : List Predicate} : (∀ p ∈ ps, NegatesLeaves p) →
      NegatesLeaves (j.of ps)

def signed (negated : Bool) (p : Predicate) : Predicate :=
  if negated then .not p else p

end Predicate

def Junction.signed (negated : Bool) (j : Junction) : Junction :=
  if negated then j.dual else j

mutual

def Predicate.carry (negated : Bool) : Predicate → Predicate
  | .not operand => operand.carry !negated
  | .allOf operands => (Junction.all.signed negated).of (Predicate.carryAll negated operands)
  | .anyOf operands => (Junction.any.signed negated).of (Predicate.carryAll negated operands)
  | p => p.signed negated
termination_by structural p => p

def Predicate.carryAll (negated : Bool) : List Predicate → List Predicate
  | [] => []
  | p :: rest => p.carry negated :: Predicate.carryAll negated rest
termination_by structural ps => ps

end

theorem Predicate.accepts_not_not (p : Predicate) (v : Value) :
    (Predicate.not (.not p)).accepts v = p.accepts v := by
  rw [accepts_not, accepts_not]
  obtain fault | accepted := p.accepts v
  . rfl
  . simp [Except.map]

theorem Junction.accepts_signed (negated : Bool) (j : Junction) (ps : List Predicate) (v : Value) :
    ((j.signed negated).of (ps.map (Predicate.signed negated))).accepts v =
      ((j.of ps).signed negated).accepts v := by
  cases negated with
  | false => exact congrArg (fun qs => (j.of qs).accepts v) (List.map_id ps)
  | true => exact (accepts_not j ps v).symm

mutual

theorem Predicate.accepts_carry (negated : Bool) (p : Predicate) (v : Value) :
    (p.carry negated).accepts v = (p.signed negated).accepts v := by
  cases p with
  | not operand =>
    rw [carry, operand.accepts_carry]
    cases negated with
    | false => rfl
    | true => exact (operand.accepts_not_not v).symm
  | allOf operands =>
    rw [carry, Predicate.accepts_carryAll, Junction.accepts_signed]
    rfl
  | anyOf operands =>
    rw [carry, Predicate.accepts_carryAll, Junction.accepts_signed]
    rfl
  | _ => rfl

theorem Predicate.accepts_carryAll (negated : Bool) (j : Junction) (ps : List Predicate)
    (v : Value) :
    (j.of (Predicate.carryAll negated ps)).accepts v =
      (j.of (ps.map (Predicate.signed negated))).accepts v := by
  cases ps with
  | nil => rfl
  | cons p rest =>
    rw [carryAll, List.map_cons, Junction.accepts_cons, Junction.accepts_cons, p.accepts_carry,
      Predicate.accepts_carryAll]

end

mutual

theorem Predicate.negatesLeaves_carry (negated : Bool) (p : Predicate) :
    (p.carry negated).NegatesLeaves := by
  cases p with
  | not operand => exact operand.negatesLeaves_carry _
  | allOf operands => exact .junction (Predicate.negatesLeaves_carryAll negated operands)
  | anyOf operands => exact .junction (Predicate.negatesLeaves_carryAll negated operands)
  | _ =>
    cases negated with
    | false => exact .leaf rfl
    | true => exact .not rfl

theorem Predicate.negatesLeaves_carryAll (negated : Bool) (ps : List Predicate) :
    ∀ p ∈ Predicate.carryAll negated ps, p.NegatesLeaves := by
  cases ps with
  | nil => simp [carryAll]
  | cons p rest =>
    rw [carryAll, List.forall_mem_cons]
    exact ⟨p.negatesLeaves_carry negated, Predicate.negatesLeaves_carryAll negated rest⟩

end

namespace Predicate

theorem same_outcome_of_composition (v : Value) :
    (∀ (j : Junction) (ps : List Predicate),
      (Predicate.not (j.of ps)).accepts v = (j.dual.of (ps.map Predicate.not)).accepts v) ∧
    (∀ (j : Junction) (before inner after : List Predicate),
      (j.of (before ++ j.of inner :: after)).accepts v =
        (j.of (before ++ inner ++ after)).accepts v) ∧
    (∀ (j : Junction) (b : Bracketing),
      ((∀ w ∈ b.operands, w.predicate?.isSome = true) → ∃ whole, b.combine j = .ok whole) ∧
      ∀ whole, b.combine j = .ok whole →
        (ofValue whole).accepts v = (j.of (b.operands.map ofValue)).accepts v) ∧
    (∀ p : Predicate, (Predicate.not (.not p)).accepts v = p.accepts v) ∧
    (∀ p : Predicate, (p.carry false).NegatesLeaves ∧ (p.carry false).accepts v = p.accepts v) ∧
    (∀ (j : Junction) (ps qs : List Predicate), (∀ p ∈ ps, p.Decides v) →
      (∀ p, p ∈ ps ↔ p ∈ qs) →
        ∃ accepted, (j.of ps).accepts v = .ok accepted ∧ (j.of qs).accepts v = .ok accepted) := by
  refine ⟨fun j ps => j.accepts_not ps v, fun j => j.accepts_flatten v, ?_,
    fun p => p.accepts_not_not v, ?_, fun j ps qs => Junction.accepts_of_mem_iff⟩
  . intro j b
    refine ⟨?_, fun whole h => Bracketing.accepts_combine h v⟩
    intro hpredicates
    obtain ⟨whole, hwhole, -⟩ := Bracketing.exists_combine (j := j) hpredicates
    exact ⟨whole, hwhole⟩
  . intro p
    exact ⟨p.negatesLeaves_carry false, p.accepts_carry false v⟩

def inbound : Predicate :=
  .textual .startingWith "in"

def flawedBracketing : Bracketing :=
  .pair 2 (.pair 1 (.operand (.predicate 0 inbound)) (.operand (.int 3)))
    (.operand (.predicate 3 .abstract))

theorem same_outcome_of_composition_flawedBracketing :
    ∃ whole, flawedBracketing.combine .all = .ok whole ∧
      (ofValue whole).accepts (.text "inbox") = .error .missingMember ∧
      (ofValue whole).accepts (.text "outbox") = .ok false ∧
      ((Predicate.not (ofValue whole)).carry false).accepts (.text "inbox") =
        .error .missingMember ∧
      (∀ p ∈ [anything, inbound], p.Decides (.text "inbox")) ∧
      ∃ accepted, (anyOf [anything, inbound]).accepts (.text "inbox") = .ok accepted ∧
        (anyOf [inbound, anything, inbound]).accepts (.text "inbox") = .ok accepted := by
  obtain ⟨-, -, hbrackets, -, hcarry, hmembers⟩ := same_outcome_of_composition (.text "inbox")
  have houtbox := ((same_outcome_of_composition (.text "outbox")).2.2.1 .all flawedBracketing).2
  have hdecides : ∀ p ∈ [anything, inbound], p.Decides (.text "inbox") := by
    simp [Decides, inbound, accepts, Value.text?, TextRelation.holds]
  refine ⟨_, rfl, ?_, ?_, ?_, hdecides, ?_⟩
  . rw [(hbrackets .all flawedBracketing).2 _ rfl]
    rfl
  . rw [houtbox _ rfl]
    rfl
  . rw [(hcarry _).2, accepts_not, (hbrackets .all flawedBracketing).2 _ rfl]
    rfl
  . apply hmembers .any _ _ hdecides
    simp [or_comm]

end Predicate

end MetricCheck
