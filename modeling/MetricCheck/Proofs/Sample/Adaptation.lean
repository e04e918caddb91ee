import MetricCheck.Proofs.Source.InTurn
import MetricCheck.Sample.Record

/-!
This module contains what an object gives that stands for a sample. Its labels come as two rows or
as a mapping; the values of the labels become texts and the value of the sample becomes a number.
What is missing or cannot be converted first decides how the object fails.
-/

namespace MetricCheck

inductive Value.GivesText : Value → Except Fault Value → Prop
  | text (s : String) : GivesText (.text s) (.ok (.text s))
  | shown {v : Value} {s : String} : v.text? = none → v.display = .ok s →
      GivesText v (.ok (.text s))
  | unshown {v : Value} {fault : Fault} : v.display = .error fault → GivesText v (.error fault)

inductive Value.GivesDouble : Value → Except Fault Double → Prop
  | double (d : Double) : GivesDouble (.double d) (.ok d)
  | int {n : Int} {d : Double} : Number.toDouble? (.int n) = some d → GivesDouble (.int n) (.ok d)
  | large {n : Int} : Number.toDouble? (.int n) = none → GivesDouble (.int n) (.error .overflow)
  | bool (b : Bool) : GivesDouble (.bool b) (.ok (.ofInt (if b then 1 else 0)))
  | text {s : String} {d : Double} : Double.ofText? s = some d → GivesDouble (.text s) (.ok d)
  | noNumeral {s : String} : Double.ofText? s = none → GivesDouble (.text s) (.error .malformed)
  | bytes {bs : List UInt8} {d : Double} : Double.ofBytes? bs = some d →
      GivesDouble (.bytes bs) (.ok d)
  | noByteNumeral {bs : List UInt8} : Double.ofBytes? bs = none →
      GivesDouble (.bytes bs) (.error .malformed)
  | other {v : Value} : v.real? = none → v.text? = none → v.bytes? = none →
      GivesDouble v (.error .wrongType)

inductive LabelMapping : Option Value → List (Value × Value) → Prop
  | missing : LabelMapping none []
  | empty {v : Value} : v.countsAsFalse = true → LabelMapping (some v) []
  | dictionary (entries : List (Value × Value)) :
      LabelMapping (some (.dictionary entries)) entries

inductive GivesLabel : Value × Value → Except Fault (Value × Value) → Prop
  | entry {value : Value} {text : Except Fault Value} (name : Value) : value.GivesText text →
      GivesLabel (name, value) (text.map fun text => (name, text))

/--
What the fields of an object give: a sample, or the fault of the first step that fails.
-/
inductive SampleFields.Gives : SampleFields → Except Fault Sample → Prop
  | noName (names values : Option (List Value)) (labels value : Option Value) :
      Gives ⟨none, names, values, labels, value⟩ (.error .missingMember)
  -- An object with a row of label names needs a row of values.
  | noRow (name : Value) (names : List Value) (labels value : Option Value) :
      Gives ⟨some name, some names, none, labels, value⟩ (.error .missingMember)
  | rowFault {values left : List Value} {fault : Fault} (name : Value) (names : List Value)
      (labels value : Option Value) : InTurn Value.GivesText values (.error fault) left →
      Gives ⟨some name, some names, some values, labels, value⟩ (.error fault)
  | rowsWithoutValue {values texts left : List Value} (name : Value) (names : List Value)
      (labels : Option Value) : InTurn Value.GivesText values (.ok texts) left →
      Gives ⟨some name, some names, some values, labels, none⟩ (.error .missingMember)
  | rowsValueFault {values texts left : List Value} {value : Value} {fault : Fault} (name : Value)
      (names : List Value) (labels : Option Value) :
      InTurn Value.GivesText values (.ok texts) left → value.GivesDouble (.error fault) →
      Gives ⟨some name, some names, some values, labels, some value⟩ (.error fault)
  | count {names values texts left : List Value} {name value : Value} {d : Double} {shown : String}
      (labels : Option Value) : InTurn Value.GivesText values (.ok texts) left →
      value.GivesDouble (.ok d) → names.length ≠ values.length → name.display = .ok shown →
      Gives ⟨some name, some names, some values, labels, some value⟩
        (.error (.labelCount shown names.length values.length))
  | countUnshown {names values texts left : List Value} {name value : Value} {d : Double}
      {fault : Fault} (labels : Option Value) : InTurn Value.GivesText values (.ok texts) left →
      value.GivesDouble (.ok d) → names.length ≠ values.length → name.display = .error fault →
      Gives ⟨some name, some names, some values, labels, some value⟩ (.error fault)
  | rows {names values texts left : List Value} {value : Value} {d : Double} (name : Value)
      (labels : Option Value) : InTurn Value.GivesText values (.ok texts) left →
      value.GivesDouble (.ok d) → names.length = values.length →
      Gives ⟨some name, some names, some values, labels, some value⟩
        (.ok ⟨name, names.zip texts, .double d⟩)
  -- An object without one is read by its mapping of labels.
  | mappingWithoutValue (name : Value) (values : Option (List Value)) (labels : Option Value) :
      Gives ⟨some name, none, values, labels, none⟩ (.error .missingMember)
  | noMapping {labels : Value} (name : Value) (values : Option (List Value)) (value : Value) :
      (∀ entries, ¬LabelMapping (some labels) entries) →
      Gives ⟨some name, none, values, some labels, some value⟩ (.error .missingMember)
  | mappingFault {labels : Option Value} {entries left : List (Value × Value)} {fault : Fault}
      (name : Value) (values : Option (List Value)) (value : Value) :
      LabelMapping labels entries → InTurn GivesLabel entries (.error fault) left →
      Gives ⟨some name, none, values, labels, some value⟩ (.error fault)
  | mappingValueFault {labels : Option Value} {entries texts left : List (Value × Value)}
      {value : Value} {fault : Fault} (name : Value) (values : Option (List Value)) :
      LabelMapping labels entries → InTurn GivesLabel entries (.ok texts) left →
      value.GivesDouble (.error fault) →
      Gives ⟨some name, none, values, labels, some value⟩ (.error fault)
  | mapping {labels : Option Value} {entries texts left : List (Value × Value)} {value : Value}
      {d : Double} (name : Value) (values : Option (List Value)) :
      LabelMapping labels entries → InTurn GivesLabel entries (.ok texts) left →
      value.GivesDouble (.ok d) →
      Gives ⟨some name, none, values, labels, some value⟩ (.ok ⟨name, texts, .double d⟩)

inductive SampleRecord.Gives : SampleRecord → Except Fault Sample → Prop
  | sample (s : Sample) : Gives (.sample s) (.ok s)
  | value (v : Value) : Gives (.value v) (.error .missingMember)
  | fields {record : SampleFields} {outcome : Except Fault Sample} : record.Gives outcome →
      Gives (.fields record) outcome

def Sample.valueText (v : Value) : Except Fault Value := do
  return .text (← v.asText)

def Sample.textLabel (label : Value × Value) : Except Fault (Value × Value) := do
  return (label.1, .text (← label.2.asText))

namespace Value

variable {v : Value}

theorem valueText_of_display (htext : v.text? = none) :
    Sample.valueText v = v.display.map .text := by
  cases v with
  | text s => cases htext
  | _ => rfl

theorem givesText_valueText (v : Value) : v.GivesText (Sample.valueText v) := by
  cases htext : v.text? with
  | some s =>
    cases v with
    | text s => exact .text s
    | _ => cases htext
  | none =>
    rw [valueText_of_display htext]
    cases hshown : v.display with
    | ok s => exact .shown htext hshown
    | error fault => exact .unshown hshown

theorem givesText_iff {outcome : Except Fault Value} :
    v.GivesText outcome ↔ Sample.valueText v = outcome := by
  constructor
  . intro h
    cases h with
    | text s => rfl
    | shown htext hshown =>
      rw [valueText_of_display htext, hshown]
      rfl
    | unshown hshown =>
      have htext : v.text? = none := by
        cases v with
        | text s => cases hshown
        | _ => rfl
      rw [valueText_of_display htext, hshown]
      rfl
  . rintro rfl
    exact givesText_valueText v

-- The value stays a variable: for a given constructor the conversion would be evaluated.
theorem toDouble_of_real? (htext : v.text? = none) (hbytes : v.bytes? = none) {n : Number}
    (hn : v.real? = some n) :
    v.toDouble = n.toDouble?.elim (.error .overflow) .ok := by
  unfold toDouble
  split
  next => contradiction
  next => contradiction
  next =>
    simp only [hn]
    cases n.toDouble? <;> rfl

theorem toDouble_of_not_real? (htext : v.text? = none) (hbytes : v.bytes? = none)
    (hreal : v.real? = none) : v.toDouble = .error .wrongType := by
  unfold toDouble
  split
  next => contradiction
  next => contradiction
  next => simp only [hreal]

theorem toDouble_bool (b : Bool) : toDouble (.bool b) = .ok (.ofInt (if b then 1 else 0)) := by
  have hzero : Number.toDouble? (.int 0) = some (.ofInt 0) := by decide +kernel
  have hone : Number.toDouble? (.int 1) = some (.ofInt 1) := by decide +kernel
  cases b with
  | false => rw [toDouble_of_real? rfl rfl rfl, if_neg Bool.false_ne_true, hzero]; rfl
  | true => rw [toDouble_of_real? rfl rfl rfl, if_pos rfl, hone]; rfl

theorem givesDouble_toDouble (v : Value) : v.GivesDouble v.toDouble := by
  cases v with
  | text s =>
    rw [toDouble]
    cases hread : Double.ofText? s with
    | some d => exact .text hread
    | none => exact .noNumeral hread
  | bytes bs =>
    rw [toDouble]
    cases hread : Double.ofBytes? bs with
    | some d => exact .bytes hread
    | none => exact .noByteNumeral hread
  | double d => exact .double d
  | bool b =>
    rw [toDouble_bool]
    exact .bool b
  | int n =>
    rw [toDouble_of_real? rfl rfl rfl]
    cases hd : Number.toDouble? (.int n) with
    | some d => exact .int hd
    | none => exact .large hd
  | _ => exact .other rfl rfl rfl

theorem givesDouble_iff {outcome : Except Fault Double} :
    v.GivesDouble outcome ↔ v.toDouble = outcome := by
  constructor
  . intro h
    cases h with
    | double d => rfl
    | bool b => exact toDouble_bool b
    | int hd => rw [toDouble_of_real? rfl rfl rfl, hd, Option.elim_some]
    | large hd => rw [toDouble_of_real? rfl rfl rfl, hd, Option.elim_none]
    | text hread => simp only [toDouble, hread]
    | noNumeral hread => simp only [toDouble, hread]
    | bytes hread => simp only [toDouble, hread]
    | noByteNumeral hread => simp only [toDouble, hread]
    | other hreal htext hbytes => exact toDouble_of_not_real? htext hbytes hreal
  . rintro rfl
    exact givesDouble_toDouble v

end Value

variable {labels : Option Value} {entries entries' : List (Value × Value)}

theorem labelEntries_of_labelMapping (h : LabelMapping labels entries) :
    Sample.labelEntries (labels.getD .null) = .ok entries := by
  cases h with
  | missing => rfl
  | empty hfalse => exact if_pos hfalse
  | dictionary =>
    cases entries with
    | nil => rfl
    | cons _ _ => rfl

theorem labelMapping_or (labels : Option Value) :
    (∃ entries, LabelMapping labels entries) ∨ ∃ v, labels = some v ∧
      (∀ entries, ¬LabelMapping (some v) entries) ∧
        Sample.labelEntries v = .error .missingMember := by
  cases labels with
  | none => exact .inl ⟨[], .missing⟩
  | some v =>
    cases hfalse : v.countsAsFalse with
    | true => exact .inl ⟨[], .empty hfalse⟩
    | false =>
      cases hentries : v.dictionary? with
      | some entries =>
        cases v with
        | dictionary => exact .inl ⟨_, .dictionary _⟩
        | _ => cases hentries
      | none =>
        refine .inr ⟨v, rfl, ?_, ?_⟩
        . intro entries h
          cases h with
          | empty htrue =>
            rw [hfalse] at htrue
            contradiction
          | dictionary => cases hentries
        . rw [Sample.labelEntries, hfalse, hentries]
          rfl

theorem givesLabel_iff {label : Value × Value} {outcome : Except Fault (Value × Value)} :
    GivesLabel label outcome ↔ Sample.textLabel label = outcome := by
  have hmap : Sample.textLabel label =
      (Sample.valueText label.2).map fun text => (label.1, text) := by
    rw [Sample.textLabel, Sample.valueText]
    cases label.2.asText <;> rfl
  rw [hmap]
  constructor
  . rintro ⟨name, htext⟩
    rw [← Value.givesText_iff.mp htext]
  . rintro rfl
    exact .entry label.1 (Value.givesText_valueText label.2)

theorem givesTexts_iff {values : List Value} {texts : Except Fault (List Value)} :
    (∃ left, InTurn Value.GivesText values texts left) ↔ values.mapM Sample.valueText = texts :=
  InTurn.exists_iff_mapM fun _ _ => Value.givesText_iff

theorem givesLabels_iff {texts : Except Fault (List (Value × Value))} :
    (∃ left, InTurn GivesLabel entries texts left) ↔ entries.mapM Sample.textLabel = texts :=
  InTurn.exists_iff_mapM fun _ _ => givesLabel_iff

namespace Sample

variable {name value : Value} {names values texts : List Value}

theorem ofColumns_of_length (h : names.length = values.length) :
    ofColumns name names values value = .ok ⟨name, names.zip values, value⟩ :=
  if_pos h

theorem ofColumns_of_count (htexts : texts.length = values.length)
    (h : names.length ≠ values.length) :
    ofColumns name names texts value =
      name.display >>= fun shown => .error (.labelCount shown names.length values.length) := by
  rw [← htexts] at h ⊢
  exact if_neg h

end Sample

namespace SampleRecord

section Equations

variable (name value : Value) (names : List Value) {values : List Value}
  (row : Option (List Value)) (observed : Option Value)

theorem toSample_rows :
    toSample (.fields ⟨some name, some names, some values, labels, observed⟩) = (do
      let texts ← values.mapM Sample.valueText
      let d ← (← requireField observed).toDouble
      Sample.ofColumns name names texts (.double d)) := rfl

theorem toSample_of_texts {texts : List Value} (htexts : values.mapM Sample.valueText = .ok texts) :
    toSample (.fields ⟨some name, some names, some values, labels, some value⟩) = (do
      let d ← value.toDouble
      Sample.ofColumns name names texts (.double d)) := by
  rw [toSample_rows, htexts]
  rfl

theorem toSample_mapping :
    toSample (.fields ⟨some name, none, row, labels, some value⟩) = (do
      let entries ← Sample.labelEntries (labels.getD .null)
      let texts ← entries.mapM Sample.textLabel
      return ⟨name, texts, .double (← value.toDouble)⟩) := rfl

theorem toSample_of_labelMapping (h : LabelMapping labels entries) :
    toSample (.fields ⟨some name, none, row, labels, some value⟩) = (do
      let texts ← entries.mapM Sample.textLabel
      return ⟨name, texts, .double (← value.toDouble)⟩) := by
  rw [toSample_mapping, labelEntries_of_labelMapping h]
  rfl

end Equations

section Gives

variable {names values texts left : List Value} {labels : Option Value} {d : Double}

theorem gives_columns (name : Value) {value : Value}
    (hturn : InTurn Value.GivesText values (.ok texts) left) (hd : value.GivesDouble (.ok d)) :
    SampleFields.Gives ⟨some name, some names, some values, labels, some value⟩
      (Sample.ofColumns name names texts (.double d)) := by
  have hlength := hturn.of_ok.1
  by_cases hcount : names.length = values.length
  . rw [Sample.ofColumns_of_length (hcount.trans hlength.symm)]
    exact .rows name labels hturn hd hcount
  . rw [Sample.ofColumns_of_count hlength hcount]
    cases hshown : name.display with
    | ok shown => exact .count labels hturn hd hcount hshown
    | error fault => exact .countUnshown labels hturn hd hcount hshown

theorem toSample_of_columns (name : Value) (names : List Value) {value : Value}
    (hturn : InTurn Value.GivesText values (.ok texts) left) (hd : value.GivesDouble (.ok d)) :
    toSample (.fields ⟨some name, some names, some values, labels, some value⟩) =
      Sample.ofColumns name names texts (.double d) := by
  rw [toSample_of_texts name _ names (givesTexts_iff.mp ⟨_, hturn⟩), Value.givesDouble_iff.mp hd]
  rfl

theorem gives_rows (name : Value) (value : Option Value) :
    SampleFields.Gives ⟨some name, some names, some values, labels, value⟩
      (toSample (.fields ⟨some name, some names, some values, labels, value⟩)) := by
  cases htexts : values.mapM Sample.valueText with
  | error fault =>
    obtain ⟨left, hturn⟩ := givesTexts_iff.mpr htexts
    rw [toSample_rows, htexts]
    exact .rowFault name names labels value hturn
  | ok texts =>
    obtain ⟨left, hturn⟩ := givesTexts_iff.mpr htexts
    cases value with
    | none =>
      rw [toSample_rows, htexts]
      exact .rowsWithoutValue name names labels hturn
    | some value =>
      rw [toSample_of_texts name value names htexts]
      cases hd : value.toDouble with
      | error fault => exact .rowsValueFault name names labels hturn (Value.givesDouble_iff.mpr hd)
      | ok d => exact gives_columns name hturn (Value.givesDouble_iff.mpr hd)

theorem gives_mapping (name : Value) (row : Option (List Value)) (value : Value) :
    SampleFields.Gives ⟨some name, none, row, labels, some value⟩
      (toSample (.fields ⟨some name, none, row, labels, some value⟩)) := by
  obtain ⟨entries, hmapping⟩ | ⟨v, rfl, hnone, hentries⟩ := labelMapping_or labels
  . rw [toSample_of_labelMapping name value row hmapping]
    cases htexts : entries.mapM Sample.textLabel with
    | error fault =>
      obtain ⟨left, hturn⟩ := givesLabels_iff.mpr htexts
      exact .mappingFault name row value hmapping hturn
    | ok texts =>
      obtain ⟨left, hturn⟩ := givesLabels_iff.mpr htexts
      cases hd : value.toDouble with
      | error fault =>
        exact .mappingValueFault name row hmapping hturn (Value.givesDouble_iff.mpr hd)
      | ok d => exact .mapping name row hmapping hturn (Value.givesDouble_iff.mpr hd)
  . rw [toSample_mapping, Option.getD_some, hentries]
    exact .noMapping name row value hnone

theorem gives_toSample (record : SampleRecord) : record.Gives record.toSample := by
  cases record with
  | sample s => exact .sample s
  | value v => exact .value v
  | fields record =>
    apply Gives.fields
    obtain ⟨name, names, values, labels, value⟩ := record
    cases name with
    | none => exact .noName names values labels value
    | some name =>
      cases names with
      | some names =>
        cases values with
        | none => exact .noRow name names labels value
        | some values => exact gives_rows name value
      | none =>
        cases value with
        | none => exact .mappingWithoutValue name values labels
        | some value => exact gives_mapping name values value

theorem toSample_of_fields {record : SampleFields} {outcome : Except Fault Sample}
    (h : record.Gives outcome) : toSample (.fields record) = outcome := by
  cases h with
  | noName | noRow | mappingWithoutValue => rfl
  | rowFault name names labels value hturn =>
    rw [toSample_rows, givesTexts_iff.mp ⟨_, hturn⟩]
    rfl
  | rowsWithoutValue name names labels hturn =>
    rw [toSample_rows, givesTexts_iff.mp ⟨_, hturn⟩]
    rfl
  | rowsValueFault name names labels hturn hd =>
    rw [toSample_of_texts name _ names (givesTexts_iff.mp ⟨_, hturn⟩), Value.givesDouble_iff.mp hd]
    rfl
  | @count names _ _ _ name _ _ _ labels hturn hd hcount hshown =>
    rw [toSample_of_columns name names hturn hd, Sample.ofColumns_of_count hturn.of_ok.1 hcount,
      hshown]
    rfl
  | @countUnshown names _ _ _ name _ _ _ labels hturn hd hcount hshown =>
    rw [toSample_of_columns name names hturn hd, Sample.ofColumns_of_count hturn.of_ok.1 hcount,
      hshown]
    rfl
  | @rows names _ _ _ _ _ name labels hturn hd hcount =>
    rw [toSample_of_columns name names hturn hd]
    exact Sample.ofColumns_of_length (hcount.trans hturn.of_ok.1.symm)
  | @noMapping v name row value hnone =>
    obtain ⟨entries, hmapping⟩ | ⟨_, ⟨⟩, -, hentries⟩ := labelMapping_or (some v)
    . exact absurd hmapping (hnone entries)
    . rw [toSample_mapping, Option.getD_some, hentries]
      rfl
  | mappingFault name row value hmapping hturn =>
    rw [toSample_of_labelMapping name value row hmapping, givesLabels_iff.mp ⟨_, hturn⟩]
    rfl
  | mappingValueFault name row hmapping hturn hd =>
    rw [toSample_of_labelMapping name _ row hmapping, givesLabels_iff.mp ⟨_, hturn⟩,
      Value.givesDouble_iff.mp hd]
    rfl
  | mapping name row hmapping hturn hd =>
    rw [toSample_of_labelMapping name _ row hmapping, givesLabels_iff.mp ⟨_, hturn⟩,
      Value.givesDouble_iff.mp hd]
    rfl

theorem gives_iff {record : SampleRecord} {outcome : Except Fault Sample} :
    record.Gives outcome ↔ record.toSample = outcome := by
  constructor
  . intro h
    cases h with
    | sample | value => rfl
    | fields h => exact toSample_of_fields h
  . rintro rfl
    exact gives_toSample record

theorem Gives.unique {record : SampleRecord} {x y : Except Fault Sample} (hx : record.Gives x)
    (hy : record.Gives y) : x = y :=
  (gives_iff.mp hx).symm.trans (gives_iff.mp hy)

end Gives

end SampleRecord

end MetricCheck
