import MetricCheck.Proofs.Request.Keyed

/-!
This module contains what a run of narrowing steps makes of a request. Each step either fails,
whatever the request, or writes one thing, whatever the request. So the labels of a request are
those of a map in the order of insertion, with the identity of a name for the key, and its value
rule is the last one written.
-/

namespace MetricCheck

namespace Value

variable {v : Value}

theorem isNull_of_ne (h : v ≠ .null) : v.isNull = false := by
  cases v with
  | null => exact absurd rfl h
  | _ => rfl

theorem ne_null_of_number {n : Number} (h : v.number? = some n) : v ≠ .null := by
  rintro rfl
  cases h

theorem eq_predicate_of_predicate {chosen : Nat × Predicate} (h : v.predicate? = some chosen) :
    v = .predicate chosen.1 chosen.2 := by
  cases v with
  | predicate id p =>
    cases h
    rfl
  | _ => cases h

theorem predicate_of_number {n : Number} (h : v.number? = some n) : v.predicate? = none := by
  cases v with
  | predicate id p => cases h
  | _ => rfl

end Value

namespace Number

def roundNumber (zeros : Nat) : Int :=
  Nat.pow 10 zeros

theorem roundNumber_pos (zeros : Nat) : 0 < roundNumber zeros :=
  Int.natCast_pos.mpr (Nat.pow_pos (by decide))

theorem not_isShort_roundNumber {zeros : Nat} (h : maxDigits ≤ zeros) :
    ¬IsShort (roundNumber zeros) :=
  Double.not_digitCount_le (by decide) h (Int.natAbs_natCast _)

end Number

theorem Predicate.closeness_of_numbers {target tolerance : Value} {t e : Number} {d width : Double}
    (ht : target.number? = some t) (he : tolerance.number? = some e)
    (hsign : e.less (.int 0) = false) (hd : t.toDouble? = some d)
    (hwidth : e.toDouble? = some width) : closeness target tolerance = .ok (.closeTo d width) := by
  simp only [closeness, ht, he, hsign, hd, hwidth]
  rfl

namespace Request

def narrowed (r : Request) (step : Step) : Request :=
  match (narrow step).run r with
  | .ok _ r' => r'
  | .error _ r' => r'

def narrowedBy (r : Request) (steps : List Step) : Request :=
  steps.foldl narrowed r

inductive Write where
  | nothing
  | label (rule : LabelRule)
  | value (valueRule : Option Predicate)

namespace Write

def on (r : Request) : Write → Request
  | .nothing => r
  | .label rule => { r with rules := LabelRule.put rule r.rules }
  | .value valueRule => { r with valueRule }

def rule? : Write → Option LabelRule
  | .label rule => some rule
  | _ => none

def valueRule? : Write → Option (Option Predicate)
  | .value valueRule => some valueRule
  | _ => none

end Write

/--
A value that can stand for the name or the value of a label, with the predicate it stands for and
the identity of that one.
-/
inductive IsLabelPart (made : Nat) : Value → Nat → Predicate → Prop
  | text (s : String) : IsLabelPart made (.text s) made (.equalTo (.text s))
  | predicate (id : Nat) (p : Predicate) : IsLabelPart made (.predicate id p) id p

structure IsNoLabelPart (v : Value) : Prop where
  noText : v.text? = none
  noPredicate : v.predicate? = none

namespace Step

inductive Writes : Step → Write → Prop
  | unvalued {made : Nat} {name : Value} (hname : name ≠ .null) :
      Writes (.label made name .null) .nothing
  | label {made key valueKey : Nat} {name value : Value} {p q : Predicate}
      (hname : IsLabelPart made name key p) (hvalue : IsLabelPart made value valueKey q) :
      Writes (.label made name value) (.label ⟨key, p, q⟩)
  | freed (tolerance : Value) : Writes (.value .null tolerance) (.value none)
  | chosen (id : Nat) (p : Predicate) (tolerance : Value) :
      Writes (.value (.predicate id p) tolerance) (.value (some p))
  | close {value tolerance : Value} {n e : Number} {target width : Double}
      (hvalue : value.number? = some n) (htolerance : tolerance.number? = some e)
      (hsign : e.less (.int 0) = false) (htarget : n.toDouble? = some target)
      (hwidth : e.toDouble? = some width) :
      Writes (.value value tolerance) (.value (some (.closeTo target width)))
  | wholeFreed : Writes (.wholeValue .null) (.value none)
  | whole {value : Value} {n : Number} {target : Double} (hvalue : value.number? = some n)
      (htarget : n.toDouble? = some target) :
      Writes (.wholeValue value) (.value (some (.closeTo target wholeTolerance)))

inductive Fails : Step → Fault → Prop
  | noName (made : Nat) (value : Value) :
      Fails (.label made .null value) (.invalidRequest .noLabelName)
  | nameType {made : Nat} {name value : Value} (hname : name ≠ .null) (hvalue : value ≠ .null)
      (hpart : IsNoLabelPart name) :
      Fails (.label made name value) (.invalidRequest (.labelPart "name" name.typeName))
  | valueType {made key : Nat} {name value : Value} {p : Predicate}
      (hname : IsLabelPart made name key p) (hvalue : value ≠ .null)
      (hpart : IsNoLabelPart value) :
      Fails (.label made name value) (.invalidRequest (.labelPart "value" value.typeName))
  | noNumber {value : Value} (tolerance : Value) (hvalue : value ≠ .null)
      (hpredicate : value.predicate? = none) (hnumber : value.number? = none) :
      Fails (.value value tolerance) (.invalidRequest (.valueRule value.typeName))
  | noTolerance {value : Value} {n : Number} (hvalue : value.number? = some n) :
      Fails (.value value .null) (.invalidRequest .noTolerance)
  | toleranceType {value tolerance : Value} {n : Number} (hvalue : value.number? = some n)
      (htolerance : tolerance ≠ .null) (hnumber : tolerance.number? = none) :
      Fails (.value value tolerance) (.invalidRequest .closenessNeedsNumbers)
  | negative {value tolerance : Value} {n e : Number} {text : String}
      (hvalue : value.number? = some n) (htolerance : tolerance.number? = some e)
      (hsign : e.less (.int 0) = true) (hwrite : e.write = .ok text) :
      Fails (.value value tolerance) (.invalidRequest (.negativeTolerance text))
  -- The message of the refusal would hold the tolerance, and that one cannot be written.
  | negativeLong {value tolerance : Value} {n : Number} {k : Int}
      (hvalue : value.number? = some n) (htolerance : tolerance.number? = some (.int k))
      (hsign : Number.less (.int k) (.int 0) = true) (hlong : ¬Number.IsShort k) :
      Fails (.value value tolerance) .tooManyDigits
  | tooLarge {value tolerance : Value} {n e : Number} (hvalue : value.number? = some n)
      (htolerance : tolerance.number? = some e) (hsign : e.less (.int 0) = false)
      (hlarge : n.toDouble? = none ∨ e.toDouble? = none) :
      Fails (.value value tolerance) .overflow
  | wholeType {value : Value} (hvalue : value ≠ .null) (hnumber : value.number? = none) :
      Fails (.wholeValue value) (.invalidRequest (.wholeValueRule value.typeName))
  | wholeTooLarge {value : Value} {n : Number} (hvalue : value.number? = some n)
      (hlarge : n.toDouble? = none) : Fails (.wholeValue value) .overflow

inductive Does : Step → Write → Prop
  | writes {step : Step} {write : Write} (h : step.Writes write) : Does step write
  | fails {step : Step} {fault : Fault} (h : step.Fails fault) : Does step .nothing

/--
The steps that leave every request as it is: those that fail, and a label without a value.
-/
inductive IsIdle : Step → Prop
  | fails {step : Step} {fault : Fault} (h : step.Fails fault) : IsIdle step
  | unvalued (made : Nat) (name : Value) : IsIdle (.label made name .null)

inductive Skips : List Step → List Step → Prop
  | nil : Skips [] []
  | keep {steps kept : List Step} (step : Step) (h : Skips steps kept) :
      Skips (step :: steps) (step :: kept)
  | skip {steps kept : List Step} {step : Step} (hidle : step.IsIdle) (h : Skips steps kept) :
      Skips (step :: steps) kept

end Step

variable {r : Request} {step : Step} {write : Write} {fault : Fault} {v : Value} {made key : Nat}
  {p : Predicate}

theorem labelPart_of_isLabelPart {role : String} (h : IsLabelPart made v key p) :
    labelPart role made v = .ok (key, p) := by
  cases h with
  | text s => rfl
  | predicate id p => rfl

theorem labelPart_of_isNoLabelPart {role : String} (h : IsNoLabelPart v) :
    labelPart role made v = .error (.invalidRequest (.labelPart role v.typeName)) := by
  cases v with
  | text s => cases h.noText
  | predicate id p => cases h.noPredicate
  | _ => rfl

theorem ne_null_of_isLabelPart (h : IsLabelPart made v key p) : v ≠ .null := by
  rintro rfl
  cases h

theorem isLabelPart_or (made : Nat) (v : Value) :
    (∃ key p, IsLabelPart made v key p) ∨ IsNoLabelPart v := by
  cases v with
  | text s => exact .inl ⟨made, _, .text s⟩
  | predicate id p => exact .inl ⟨id, p, .predicate id p⟩
  | _ => exact .inr ⟨rfl, rfl⟩

theorem value_of_other {tolerance : Value} (hvalue : v ≠ .null) (hpredicate : v.predicate? = none) :
    Request.value v tolerance =
      if v.number?.isNone then throw (.invalidRequest (.valueRule v.typeName))
      else if tolerance.isNull then throw (.invalidRequest .noTolerance)
      else liftExcept (Predicate.closeness v tolerance) >>= fun p =>
        modify fun r => { r with valueRule := some p } := by
  cases v with
  | null => exact absurd rfl hvalue
  | predicate id p => cases hpredicate
  | _ => rfl

theorem value_of_number {tolerance : Value} {n : Number} (hvalue : v.number? = some n)
    (htolerance : tolerance ≠ .null) :
    Request.value v tolerance = liftExcept (Predicate.closeness v tolerance) >>= fun p =>
      modify fun r => { r with valueRule := some p } := by
  rw [value_of_other (Value.ne_null_of_number hvalue) (Value.predicate_of_number hvalue), hvalue,
    Value.isNull_of_ne htolerance]
  rfl

theorem run_value_of_closeness {tolerance : Value} {n : Number} (hvalue : v.number? = some n)
    (htolerance : tolerance ≠ .null) (hclose : Predicate.closeness v tolerance = .ok p) :
    (Request.value v tolerance).run r = .ok () { r with valueRule := some p } := by
  rw [value_of_number hvalue htolerance, hclose]
  rfl

theorem run_value_of_no_closeness {tolerance : Value} {n : Number} (hvalue : v.number? = some n)
    (htolerance : tolerance ≠ .null) (hclose : Predicate.closeness v tolerance = .error fault) :
    (Request.value v tolerance).run r = .error fault r := by
  rw [value_of_number hvalue htolerance, hclose]
  rfl

theorem run_value_of_close {tolerance : Value} {n e : Number} {target width : Double}
    (hvalue : v.number? = some n) (htolerance : tolerance.number? = some e)
    (hsign : e.less (.int 0) = false) (htarget : n.toDouble? = some target)
    (hwidth : e.toDouble? = some width) :
    (Request.value v tolerance).run r =
      .ok () { r with valueRule := some (.closeTo target width) } := by
  apply run_value_of_closeness hvalue (Value.ne_null_of_number htolerance)
  apply Predicate.closeness_of_numbers hvalue htolerance hsign htarget hwidth

-- The value stays a variable: for a given constructor the conversion would be evaluated.
theorem wholeValue_of_number {n : Number} {target : Double} (hvalue : v.number? = some n)
    (htarget : n.toDouble? = some target) :
    wholeValue v = Request.value (.double target) (.double wholeTolerance) := by
  unfold wholeValue
  split
  next => cases hvalue
  next => simp only [hvalue, htarget]

theorem not_negative_wholeTolerance : Number.less (.double wholeTolerance) (.int 0) = false := by
  decide +kernel

theorem run_narrow_of_writes (h : step.Writes write) :
    (narrow step).run r = .ok () (write.on r) := by
  cases h with
  | unvalued hname =>
    simp only [narrow, label, Value.isNull_of_ne hname]
    rfl
  | label hname hvalue =>
    simp only [narrow, label, Value.isNull_of_ne (ne_null_of_isLabelPart hname),
      Value.isNull_of_ne (ne_null_of_isLabelPart hvalue), labelPart_of_isLabelPart hname,
      labelPart_of_isLabelPart hvalue]
    rfl
  | freed tolerance => rfl
  | chosen id p tolerance => rfl
  | close hvalue htolerance hsign htarget hwidth =>
    apply run_value_of_close hvalue htolerance hsign htarget hwidth
  | wholeFreed => rfl
  | whole hvalue htarget =>
    rw [narrow, wholeValue_of_number hvalue htarget]
    apply run_value_of_close rfl rfl not_negative_wholeTolerance rfl rfl

theorem closeness_of_negative {target tolerance : Value} {n e : Number}
    (htarget : target.number? = some n) (htolerance : tolerance.number? = some e)
    (hsign : e.less (.int 0) = true) :
    Predicate.closeness target tolerance =
      e.write.bind fun text => .error (.invalidRequest (.negativeTolerance text)) := by
  simp only [Predicate.closeness, htarget, htolerance, hsign]
  rfl

theorem run_narrow_of_fails (h : step.Fails fault) : (narrow step).run r = .error fault r := by
  cases h with
  | noName made value => rfl
  | nameType hname hvalue hpart =>
    simp only [narrow, label, Value.isNull_of_ne hname, Value.isNull_of_ne hvalue,
      labelPart_of_isNoLabelPart hpart]
    rfl
  | valueType hname hvalue hpart =>
    simp only [narrow, label, Value.isNull_of_ne (ne_null_of_isLabelPart hname),
      Value.isNull_of_ne hvalue, labelPart_of_isLabelPart hname, labelPart_of_isNoLabelPart hpart]
    rfl
  | noNumber tolerance hvalue hpredicate hnumber =>
    rw [narrow, value_of_other hvalue hpredicate, hnumber]
    rfl
  | noTolerance hvalue =>
    rw [narrow, value_of_other (Value.ne_null_of_number hvalue) (Value.predicate_of_number hvalue),
      hvalue]
    rfl
  | toleranceType hvalue htolerance hnumber =>
    apply run_value_of_no_closeness hvalue htolerance
    simp only [Predicate.closeness, hvalue, hnumber]
  | negative hvalue htolerance hsign hwrite =>
    apply run_value_of_no_closeness hvalue (Value.ne_null_of_number htolerance)
    rw [closeness_of_negative hvalue htolerance hsign, hwrite]
    rfl
  | negativeLong hvalue htolerance hsign hlong =>
    apply run_value_of_no_closeness hvalue (Value.ne_null_of_number htolerance)
    rw [closeness_of_negative hvalue htolerance hsign, Number.write,
      Number.writeInt_of_not_isShort hlong]
    rfl
  | @tooLarge _ _ n _ hvalue htolerance hsign hlarge =>
    apply run_value_of_no_closeness hvalue (Value.ne_null_of_number htolerance)
    simp only [Predicate.closeness, hvalue, htolerance, hsign]
    cases hlarge with
    | inl htarget =>
      simp only [htarget]
      rfl
    | inr hwidth =>
      simp only [hwidth]
      cases n.toDouble? <;> rfl
  | wholeType hvalue hnumber =>
    rw [narrow]
    unfold wholeValue
    split
    next => exact absurd rfl hvalue
    next =>
      simp only [hnumber]
      rfl
  | wholeTooLarge hvalue hlarge =>
    rw [narrow]
    unfold wholeValue
    split
    next => cases hvalue
    next =>
      simp only [hvalue, hlarge]
      rfl

theorem writes_or_fails_label (made : Nat) (name value : Value) :
    (∃ write, (Step.label made name value).Writes write) ∨
      ∃ fault, (Step.label made name value).Fails fault := by
  by_cases hname : name = .null
  . rw [hname]
    exact .inr ⟨_, .noName made value⟩
  by_cases hvalue : value = .null
  . rw [hvalue]
    exact .inl ⟨_, .unvalued hname⟩
  cases isLabelPart_or made name with
  | inr hpart => exact .inr ⟨_, .nameType hname hvalue hpart⟩
  | inl hpart =>
    obtain ⟨key, p, hpart⟩ := hpart
    cases isLabelPart_or made value with
    | inr hother => exact .inr ⟨_, .valueType hpart hvalue hother⟩
    | inl hother =>
      obtain ⟨valueKey, q, hother⟩ := hother
      exact .inl ⟨_, .label hpart hother⟩

theorem fails_of_negative {value tolerance : Value} {n e : Number} (hvalue : value.number? = some n)
    (htolerance : tolerance.number? = some e) (hsign : e.less (.int 0) = true) :
    ∃ fault, (Step.value value tolerance).Fails fault := by
  cases e with
  | double d => exact ⟨_, .negative hvalue htolerance hsign rfl⟩
  | int k =>
    by_cases hshort : Number.IsShort k
    . exact ⟨_, .negative hvalue htolerance hsign (Number.writeInt_of_isShort hshort)⟩
    . exact ⟨_, .negativeLong hvalue htolerance hsign hshort⟩

theorem writes_or_fails_numbers {value tolerance : Value} {n e : Number}
    (hvalue : value.number? = some n) (htolerance : tolerance.number? = some e) :
    (∃ write, (Step.value value tolerance).Writes write) ∨
      ∃ fault, (Step.value value tolerance).Fails fault := by
  cases hsign : e.less (.int 0) with
  | true => exact .inr (fails_of_negative hvalue htolerance hsign)
  | false =>
    cases hn : n.toDouble? with
    | none => exact .inr ⟨_, .tooLarge hvalue htolerance hsign (.inl hn)⟩
    | some target =>
      cases he : e.toDouble? with
      | none => exact .inr ⟨_, .tooLarge hvalue htolerance hsign (.inr he)⟩
      | some width => exact .inl ⟨_, .close hvalue htolerance hsign hn he⟩

theorem writes_or_fails_value (value tolerance : Value) :
    (∃ write, (Step.value value tolerance).Writes write) ∨
      ∃ fault, (Step.value value tolerance).Fails fault := by
  by_cases hvalue : value = .null
  . rw [hvalue]
    exact .inl ⟨_, .freed tolerance⟩
  cases hpredicate : value.predicate? with
  | some chosen =>
    rw [Value.eq_predicate_of_predicate hpredicate]
    exact .inl ⟨_, .chosen _ _ tolerance⟩
  | none =>
    cases hnumber : value.number? with
    | none => exact .inr ⟨_, .noNumber tolerance hvalue hpredicate hnumber⟩
    | some n =>
      by_cases htolerance : tolerance = .null
      . rw [htolerance]
        exact .inr ⟨_, .noTolerance hnumber⟩
      cases hwidth : tolerance.number? with
      | none => exact .inr ⟨_, .toleranceType hnumber htolerance hwidth⟩
      | some e => exact writes_or_fails_numbers hnumber hwidth

theorem writes_or_fails_wholeValue (value : Value) :
    (∃ write, (Step.wholeValue value).Writes write) ∨
      ∃ fault, (Step.wholeValue value).Fails fault := by
  by_cases hvalue : value = .null
  . rw [hvalue]
    exact .inl ⟨_, .wholeFreed⟩
  cases hnumber : value.number? with
  | none => exact .inr ⟨_, .wholeType hvalue hnumber⟩
  | some n =>
    cases hn : n.toDouble? with
    | none => exact .inr ⟨_, .wholeTooLarge hnumber hn⟩
    | some target => exact .inl ⟨_, .whole hnumber hn⟩

theorem writes_or_fails (step : Step) :
    (∃ write, step.Writes write) ∨ ∃ fault, step.Fails fault := by
  cases step with
  | label made name value => exact writes_or_fails_label made name value
  | value value tolerance => exact writes_or_fails_value value tolerance
  | wholeValue value => exact writes_or_fails_wholeValue value

theorem run_narrow_eq_error_iff {after : Request} :
    (narrow step).run r = .error fault after ↔ step.Fails fault ∧ after = r := by
  constructor
  . intro hnarrow
    cases writes_or_fails step with
    | inl hwrites =>
      obtain ⟨write, hwrites⟩ := hwrites
      rw [run_narrow_of_writes hwrites] at hnarrow
      cases hnarrow
    | inr hfails =>
      obtain ⟨other, hfails⟩ := hfails
      rw [run_narrow_of_fails hfails] at hnarrow
      cases hnarrow
      exact ⟨hfails, rfl⟩
  . rintro ⟨hfails, rfl⟩
    exact run_narrow_of_fails hfails

theorem narrowed_of_does (h : step.Does write) : r.narrowed step = write.on r := by
  cases h with
  | writes h => rw [narrowed, run_narrow_of_writes h]
  | fails h =>
    rw [narrowed, run_narrow_of_fails h]
    rfl

theorem narrowed_of_idle (h : step.IsIdle) : r.narrowed step = r := by
  cases h with
  | fails h => exact narrowed_of_does (.fails h)
  | unvalued made name =>
    by_cases hname : name = .null
    . rw [hname]
      exact narrowed_of_does (.fails (.noName made .null))
    . exact narrowed_of_does (.writes (.unvalued hname))

theorem exists_does (steps : List Step) : ∃ writes, List.Forall₂ Step.Does steps writes := by
  induction steps with
  | nil => exact ⟨[], .nil⟩
  | cons step rest ih =>
    obtain ⟨writes, hwrites⟩ := ih
    cases writes_or_fails step with
    | inl h =>
      obtain ⟨write, h⟩ := h
      exact ⟨write :: writes, .cons (.writes h) hwrites⟩
    | inr h =>
      obtain ⟨fault, h⟩ := h
      exact ⟨.nothing :: writes, .cons (.fails h) hwrites⟩

theorem narrowedBy_cons {steps : List Step} :
    r.narrowedBy (step :: steps) = (r.narrowed step).narrowedBy steps := rfl

theorem narrowedBy_of_does {steps : List Step} {writes : List Write}
    (h : List.Forall₂ Step.Does steps writes) : r.narrowedBy steps = writes.foldl Write.on r := by
  induction h generalizing r with
  | nil => rfl
  | cons hstep _ ih => rw [narrowedBy_cons, narrowed_of_does hstep, List.foldl_cons, ih]

theorem narrowedBy_of_skips {steps kept : List Step} (h : Step.Skips steps kept) :
    r.narrowedBy kept = r.narrowedBy steps := by
  induction h generalizing r with
  | nil => rfl
  | keep step _ ih => rw [narrowedBy_cons, narrowedBy_cons, ih]
  | skip hidle _ ih => rw [narrowedBy_cons, narrowed_of_idle hidle, ih]

theorem foldl_on {writes : List Write} (hrules : r.rules = []) (hvalue : r.valueRule = none) :
    writes.foldl Write.on r = { r with
      rules := LabelRule.remaining (writes.filterMap Write.rule?)
      valueRule := (writes.filterMap Write.valueRule?).getLast?.join } := by
  induction writes using List.reverseRecOn with
  | nil =>
    cases r
    cases hrules
    cases hvalue
    rfl
  | append_singleton writes write ih =>
    rw [List.foldl_append, ih, List.filterMap_append, List.filterMap_append]
    cases write with
    | nothing => simp [Write.on, List.filterMap_cons, Write.rule?, Write.valueRule?]
    | label rule =>
      simp [Write.on, List.filterMap_cons, Write.rule?, Write.valueRule?, LabelRule.put_remaining]
    | value valueRule => simp [Write.on, List.filterMap_cons, Write.rule?, Write.valueRule?]

theorem fresh_of_ofName {name : Value} {present : Bool} {kind : SourceKind}
    (h : Request.ofName name present kind = .ok r) : r = ⟨name, present, kind, [], none⟩ := by
  have hcheck : ∃ text : String, (if Text.trim text.toList = [] then
      Except.error (Fault.invalidRequest .blankName) else .ok ⟨name, present, kind, [], none⟩) =
        Except.ok r := by
    unfold Request.ofName at h
    dsimp only at h
    split at h
    . exact ⟨"", h⟩
    . obtain ⟨text, -, h⟩ := Except.of_bind_eq_ok h
      exact ⟨text, h⟩
  obtain ⟨text, hcheck⟩ := hcheck
  split at hcheck
  . contradiction
  . exact (Except.ok.inj hcheck).symm

theorem ofName_text {name : String} (hname : Text.trim name.toList ≠ []) (present : Bool)
    (kind : SourceKind) :
    Request.ofName (.text name) present kind = .ok ⟨.text name, present, kind, [], none⟩ := by
  simp [Request.ofName, Value.isNull, hname, bind, Except.bind, pure, Except.pure]

theorem narrowedBy_append {before after : List Step} :
    r.narrowedBy (before ++ after) = (r.narrowedBy before).narrowedBy after := by
  rw [narrowedBy, List.foldl_append, narrowedBy, narrowedBy]

theorem rules_of_made {s : String} {valueKey : Nat} {q : Predicate}
    (hvalue : IsLabelPart made v valueKey q) (hmade : ∀ rule ∈ r.rules, rule.key ≠ made) :
    (r.narrowed (.label made (.text s) v)).rules =
      r.rules ++ [⟨made, .equalTo (.text s), q⟩] := by
  rw [narrowed_of_does (.writes (.label (.text s) hvalue))]
  apply LabelRule.put_of_new
  simpa [LabelRule.sharesKeyIn, LabelRule.sharesKey] using hmade

theorem narrowedBy_eq_remaining {name : Value} {present : Bool} {kind : SourceKind}
    (h : Request.ofName name present kind = .ok r) (steps : List Step) :
    ∃ writes, List.Forall₂ Step.Does steps writes ∧
      r.narrowedBy steps = { r with
        rules := LabelRule.remaining (writes.filterMap Write.rule?)
        valueRule := (writes.filterMap Write.valueRule?).getLast?.join } ∧
      LabelRule.Distinct (r.narrowedBy steps).rules ∧
      (∀ (made : Nat) (s : String) (value : Value) (valueKey : Nat) (q : Predicate),
        IsLabelPart made value valueKey q →
        (∀ rule ∈ (r.narrowedBy steps).rules, rule.key ≠ made) →
        (r.narrowedBy (steps ++ [.label made (.text s) value])).rules =
          (r.narrowedBy steps).rules ++ [⟨made, .equalTo (.text s), q⟩]) ∧
      (∀ step fault (other after : Request),
        (narrow step).run other = .error fault after ↔ step.Fails fault ∧ after = other) ∧
      (∀ step (other : Request), step.IsIdle → other.narrowed step = other) ∧
      ∀ kept, Step.Skips steps kept → r.narrowedBy kept = r.narrowedBy steps := by
  obtain ⟨writes, hwrites⟩ := exists_does steps
  have hfresh := fresh_of_ofName h
  have heq := (narrowedBy_of_does hwrites).trans
    (foldl_on (r := r) (by rw [hfresh]) (by rw [hfresh]))
  refine ⟨writes, hwrites, heq, ?_, ?_, ?_, ?_, ?_⟩
  . rw [heq]
    exact LabelRule.distinct_remaining
  . intro made s value valueKey q hvalue hmade
    rw [narrowedBy_append]
    exact rules_of_made hvalue hmade
  . intro step fault other after
    exact run_narrow_eq_error_iff
  . intro step other hidle
    exact narrowed_of_idle hidle
  . intro kept hkept
    exact narrowedBy_of_skips hkept

/--
Steps of which each kind occurs, some of them with the predicate `7` for the name of a label. The
last label comes with the predicate that the first one made.
-/
def queueSteps : List Step :=
  [.label 1 (.text "queue") (.text "in"),
    .label 2 (.predicate 7 (.textual .startingWith "q")) (.text "a"),
    .value (.int 3) .null,
    .label 3 (.text "queue") (.text "out"),
    .wholeValue (.text "3"),
    .label 4 (.predicate 7 (.textual .startingWith "q")) .null,
    .value (.predicate 8 .anything) .null,
    .label 4 (.predicate 7 (.textual .startingWith "q")) (.predicate 8 .anything),
    .label 4 (.int 1) (.text "a"),
    .value (.predicate 9 (.ordered .greater (.int 2))) .null,
    .value (.int 3) (.int (-1)),
    .label 4 .null .null,
    .label 4 (.predicate 1 (.equalTo (.text "queue"))) (.text "up")]

def queueWritingSteps : List Step :=
  [.label 1 (.text "queue") (.text "in"),
    .label 2 (.predicate 7 (.textual .startingWith "q")) (.text "a"),
    .label 3 (.text "queue") (.text "out"),
    .value (.predicate 8 .anything) .null,
    .label 4 (.predicate 7 (.textual .startingWith "q")) (.predicate 8 .anything),
    .value (.predicate 9 (.ordered .greater (.int 2))) .null,
    .label 4 (.predicate 1 (.equalTo (.text "queue"))) (.text "up")]

theorem skips_queueSteps : Step.Skips queueSteps queueWritingSteps := by
  refine .keep _ (.keep _ (.skip (.fails (.noTolerance rfl)) (.keep _ (.skip ?_ (.skip ?_ (.keep _
    (.keep _ (.skip ?_ (.keep _ (.skip ?_ (.skip ?_ (.keep _ .nil))))))))))))
  . exact .fails (.wholeType (by simp) rfl)
  . exact .unvalued _ _
  . exact .fails (.nameType (by simp) (by simp) ⟨rfl, rfl⟩)
  . exact .fails (.negative rfl rfl (by decide) rfl)
  . exact .unvalued _ _

theorem narrowedBy_eq_remaining_queueSteps :
    ∃ r, Request.ofName (.text "jobs") true .registry = .ok r ∧
      LabelRule.Distinct (r.narrowedBy queueSteps).rules ∧
      (r.narrowedBy queueSteps).rules =
        [⟨1, .equalTo (.text "queue"), .equalTo (.text "up")⟩,
          ⟨7, .textual .startingWith "q", .anything⟩,
          ⟨3, .equalTo (.text "queue"), .equalTo (.text "out")⟩] ∧
      (r.narrowedBy queueSteps).valueRule = some (.ordered .greater (.int 2)) ∧
      (r.narrowedBy (queueSteps ++ [.label 4 (.text "queue") (.text "in")])).rules =
        (r.narrowedBy queueSteps).rules ++
          [⟨4, .equalTo (.text "queue"), .equalTo (.text "in")⟩] ∧
      (narrow (.value (.int 3) (.int (-1)))).run r =
        .error (.invalidRequest (.negativeTolerance "-1")) r ∧
      r.narrowedBy queueWritingSteps = r.narrowedBy queueSteps := by
  have h : Request.ofName (.text "jobs") true .registry =
      .ok ⟨.text "jobs", true, .registry, [], none⟩ := by rfl
  obtain ⟨writes, hwrites, heq, hdistinct, hmade, hfails, hidle, hskips⟩ :=
    narrowedBy_eq_remaining h queueSteps
  refine ⟨_, h, hdistinct, rfl, rfl, ?_, ?_, hskips _ skips_queueSteps⟩
  . apply hmade 4 "queue" (.text "in") 4 _ (.text "in")
    decide
  . exact (hfails _ _ _ _).mpr ⟨.negative rfl rfl (by decide) rfl, rfl⟩

def longTolerance : Int :=
  -Number.roundNumber 5000

theorem not_isShort_longTolerance : ¬Number.IsShort longTolerance := by
  rw [longTolerance, Number.isShort_neg]
  exact Number.not_isShort_roundNumber (by decide)

theorem negative_longTolerance : Number.less (.int longTolerance) (.int 0) = true := by
  have hneg : longTolerance < 0 := Int.neg_neg_of_pos (Number.roundNumber_pos 5000)
  apply Number.Place.before_iff.mpr
  right
  exact ⟨rfl, Int.mul_lt_mul_of_pos_right hneg (by decide)⟩

theorem not_invalidRequest_longTolerance :
    let r : Request := ⟨.text "jobs", true, .registry, [], none⟩
    let step : Step := .value (.int 1) (.int longTolerance)
    Number.less (.int longTolerance) (.int 0) = true ∧
      (narrow step).run r = .error .tooManyDigits r ∧
      ∀ reason after, (narrow step).run r ≠ .error (.invalidRequest reason) after := by
  intro r step
  have hrun : (narrow step).run r = .error .tooManyDigits r := by
    apply run_narrow_of_fails
    exact .negativeLong rfl rfl negative_longTolerance not_isShort_longTolerance
  refine ⟨negative_longTolerance, hrun, ?_⟩
  intro reason after h
  rw [hrun] at h
  cases h

end Request

end MetricCheck
