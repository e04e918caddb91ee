import MetricCheck.Explanation
import MetricCheck.Proofs.Text.Readable

/-!
This module contains the explanations of failed assertions, spelled character by character. An
explanation that is whole is spelled in this way; one that is cut short by a fault has no text.
-/

namespace MetricCheck

namespace Rendering

/--
If a rendering is whole, it has the given characters.
-/
def Reads (rendering : Rendering) (cs : List Char) : Prop :=
  ∀ s, rendering.complete = .ok s → s.toList = cs

variable {a b : Rendering} {cs ds : List Char}

theorem reads_ofText (s : String) : (ofText s).Reads s.toList := by
  intro t h
  cases h
  rfl

theorem reads_empty : empty.Reads [] :=
  reads_ofText ""

theorem Reads.append (ha : a.Reads cs) (hb : b.Reads ds) : (a ++ b).Reads (cs ++ ds) := by
  intro s h
  rw [complete_append] at h
  obtain ⟨s, hs, h⟩ := Except.of_bind_eq_ok h
  obtain ⟨t, ht, h⟩ := Except.of_bind_eq_ok h
  cases h
  rw [String.toList_append, ha s hs, hb t ht]

theorem Reads.spells (ha : a.Reads cs) (hwhole : a.fault? = none) : a.Spells cs :=
  ⟨hwhole, ha _ (complete_of_fault? hwhole)⟩

theorem reads_text (r : Rendering) : r.Reads r.text.toList := by
  intro s h
  rw [complete_of_fault? (fault?_of_complete h), Except.ok.injEq] at h
  rw [h]

theorem reads_ofExcept {x : Except Fault String} (h : ∀ s, x = .ok s → s.toList = cs) :
    (ofExcept x).Reads cs := by
  cases x with
  | error fault => nofun
  | ok s =>
    intro t ht
    cases ht
    exact h s rfl

section Lists

variable {α : Type} {render : α → Rendering} {spelling : α → List Char}

theorem reads_separated (h : ∀ x, (render x).Reads (spelling x)) (separator : String)
    (xs : List α) :
    (separated separator (xs.map render)).Reads (Text.joined separator (xs.map spelling)) := by
  cases xs with
  | nil => exact reads_empty
  | cons x xs =>
    induction xs generalizing x with
    | nil =>
      rw [List.map_singleton, List.map_singleton, separated, Text.joined, List.flatMap_nil,
        List.append_nil]
      exact h x
    | cons y rest ih =>
      have htail := ((h x).append (reads_ofText separator)).append (ih y)
      simp only [List.map_cons, Text.joined, List.flatMap_cons, List.append_assoc] at htail ⊢
      exact htail

theorem reads_concat (h : ∀ x, (render x).Reads (spelling x)) (xs : List α) :
    (concat (xs.map render)).Reads (xs.flatMap spelling) := by
  induction xs with
  | nil => exact reads_empty
  | cons x rest ih => exact (h x).append ih

end Lists

end Rendering

namespace Value

def spelling (v : Value) : List Char :=
  match v.text?, v.display with
  | some s, _ => (Text.quoted s).toList
  | none, .ok s => '<' :: (s.toList ++ ['>'])
  | none, .error _ => []

def plainSpelling (v : Value) : List Char :=
  match v.text?, v.display with
  | some s, _ => s.toList
  | none, .ok s => s.toList
  | none, .error _ => []

theorem asText_eq_display {v : Value} (htext : v.text? = none) : v.asText = v.display := by
  cases v with
  | text s => cases htext
  | _ => rfl

theorem toList_asText {v : Value} {s : String} (h : v.asText = .ok s) :
    s.toList = v.plainSpelling := by
  cases htext : v.text? with
  | some t =>
    cases v with
    | text t =>
      cases h
      rfl
    | _ => cases htext
  | none =>
    rw [asText_eq_display htext] at h
    simp only [plainSpelling, htext, h]

theorem render_eq_ofExcept {v : Value} (htext : v.text? = none) :
    v.render = Rendering.ofExcept (v.display.map fun s => "<" ++ s ++ ">") := by
  cases v with
  | text s => cases htext
  | _ => rfl

theorem reads_render (v : Value) : v.render.Reads v.spelling := by
  cases htext : v.text? with
  | some s =>
    cases v with
    | text s => exact Rendering.reads_ofText _
    | _ => cases htext
  | none =>
    rw [render_eq_ofExcept htext]
    apply Rendering.reads_ofExcept
    intro s h
    cases hshown : v.display with
    | error fault =>
      rw [hshown] at h
      cases h
    | ok shown =>
      rw [hshown] at h
      cases h
      simp [spelling, htext, hshown]

end Value

namespace Explanation

def entrySpelling (entry : Value × List Value) : List Char :=
  "\n          - ".toList ++ Text.joined ", " (entry.2.map Value.spelling) ++
    " for sample ".toList ++ entry.1.spelling

def labelSpelling (label : Value × Value) : List Char :=
  label.1.plainSpelling ++ '=' :: label.2.plainSpelling

def missingSpelling (missing : List Predicate) : List Char :=
  if missing.isEmpty then []
  else "\n  missing names: ".toList ++
    Text.joined ", " (missing.map fun p => p.describe.text.toList)

def mismatchSpelling (mismatch : LabelMismatch) : List Char :=
  "\n  - for ".toList ++ mismatch.name.describe.text.toList ++
    " expected: ".toList ++ mismatch.expected.describe.text.toList ++
    " but got: ".toList ++ mismatch.actual.spelling

def mismatchesSpelling (mismatches : List LabelMismatch) : List Char :=
  if mismatches.isEmpty then []
  else "\n  unmatched label values:".toList ++ mismatches.flatMap mismatchSpelling

def tupleSpelling (labels : List (Value × Value)) : List Char :=
  "\n(".toList ++ Text.joined ", " (labels.map labelSpelling) ++ ")".toList

def recordSpelling (record : LabelRecord) : List Char :=
  tupleSpelling record.labels ++ missingSpelling record.missing ++
    mismatchesSpelling record.mismatches ++ "\n".toList

def namesBelow (heading : String) (names : List Value) : List Char :=
  if names.isEmpty then []
  else heading.toList ++ names.flatMap fun name => "\n          - ".toList ++ name.spelling

def allNamesSpelling (familyNames sampleNames : List Value) : List Char :=
  namesBelow "found metric names:" familyNames ++
    (if familyNames.isEmpty || sampleNames.isEmpty then [] else "\n          ".toList) ++
    namesBelow "found metric sample names:" sampleNames

def byNamesSpelling (r : Request) (familyNames sampleNames : List Value) : List Char :=
  (if r.present then "no metric with name: ".toList ++ r.name.spelling ++ "\n          ".toList
    else []) ++ allNamesSpelling familyNames sampleNames

variable {r : Request} {report : Report}

theorem reads_map_render (separator : String) (vs : List Value) :
    (Rendering.separated separator (vs.map Value.render)).Reads
      (Text.joined separator (vs.map Value.spelling)) :=
  Rendering.reads_separated Value.reads_render separator vs

theorem reads_valueLine (entry : Value × List Value) :
    (valueLine entry.1 entry.2).Reads (entrySpelling entry) := by
  have hvalues := ((Rendering.reads_ofText bullet).append (reads_map_render ", " entry.2)).append
    (Rendering.reads_ofText " for sample ")
  exact hvalues.append entry.1.reads_render

theorem map_toList_of_labelTexts {labels : List (Value × Value)} {parts : List String}
    (h : (labels.mapM fun label => show Except Fault String from do
      return (← label.1.asText) ++ "=" ++ (← label.2.asText)) = .ok parts) :
    parts.map String.toList = labels.map labelSpelling := by
  induction labels generalizing parts with
  | nil =>
    cases h
    rfl
  | cons label rest ih =>
    rw [List.mapM_cons] at h
    obtain ⟨part, hpart, h⟩ := Except.of_bind_eq_ok h
    obtain ⟨others, hothers, h⟩ := Except.of_bind_eq_ok h
    cases h
    obtain ⟨name, hname, hpart⟩ := Except.of_bind_eq_ok hpart
    obtain ⟨value, hvalue, hpart⟩ := Except.of_bind_eq_ok hpart
    cases hpart
    rw [List.map_cons, List.map_cons, ih hothers, labelSpelling, ← Value.toList_asText hname,
      ← Value.toList_asText hvalue]
    simp

theorem reads_labelTuple (labels : List (Value × Value)) :
    (Rendering.ofText "\n" ++ Rendering.ofExcept (labelTuple labels)).Reads
      (tupleSpelling labels) := by
  have htuple : (Rendering.ofExcept (labelTuple labels)).Reads
      ('(' :: (Text.joined ", " (labels.map labelSpelling) ++ [')'])) := by
    apply Rendering.reads_ofExcept
    intro s h
    obtain ⟨parts, hparts, h⟩ := Except.of_bind_eq_ok h
    cases h
    rw [String.toList_append, String.toList_append, Text.toList_intercalate,
      map_toList_of_labelTexts hparts]
    rfl
  exact (Rendering.reads_ofText "\n").append htuple

theorem reads_missing (missing : List Predicate) :
    (if missing.isEmpty then Rendering.empty
      else Rendering.ofText "\n  missing names: " ++
        Rendering.separated ", " (missing.map Predicate.describe)).Reads
      (missingSpelling missing) := by
  unfold missingSpelling
  split
  . exact Rendering.reads_empty
  . have hnames := @Rendering.reads_separated _ Predicate.describe _
      (fun p => Rendering.reads_text p.describe) ", " missing
    exact (Rendering.reads_ofText _).append hnames

theorem reads_mismatchLine (mismatch : LabelMismatch) :
    (mismatchLine mismatch).Reads (mismatchSpelling mismatch) := by
  have hname := (Rendering.reads_ofText "\n  - for ").append
    (Rendering.reads_text mismatch.name.describe)
  have hexpected := (hname.append (Rendering.reads_ofText " expected: ")).append
    (Rendering.reads_text mismatch.expected.describe)
  exact (hexpected.append (Rendering.reads_ofText " but got: ")).append mismatch.actual.reads_render

theorem reads_mismatches (mismatches : List LabelMismatch) :
    (if mismatches.isEmpty then Rendering.empty
      else Rendering.ofText "\n  unmatched label values:" ++
        Rendering.concat (mismatches.map mismatchLine)).Reads
      (mismatchesSpelling mismatches) := by
  unfold mismatchesSpelling
  split
  . exact Rendering.reads_empty
  . exact (Rendering.reads_ofText _).append (Rendering.reads_concat reads_mismatchLine mismatches)

theorem reads_recordBlock (record : LabelRecord) :
    (recordBlock true record).Reads (recordSpelling record) := by
  have hfaults := ((reads_missing record.missing).append
    (reads_mismatches record.mismatches)).append (Rendering.reads_ofText "\n")
  have hblock := (reads_labelTuple record.labels).append hfaults
  simp only [← List.append_assoc] at hblock
  exact hblock

theorem reads_nameList (heading : String) (names : List Value) :
    (if names.isEmpty then Rendering.empty else nameList heading names).Reads
      (namesBelow heading names) := by
  cases names with
  | nil => exact Rendering.reads_empty
  | cons name rest =>
    have hnames := ((Rendering.reads_ofText (heading ++ bullet)).append
      (reads_map_render bullet (name :: rest))).append (Rendering.reads_ofText "")
    rw [namesBelow, if_neg (by simp), if_neg (by simp)]
    simpa [nameList, Rendering.enclosed, Text.joined, List.flatMap_map, bullet, indented]
      using hnames

theorem reads_byNames (familyNames sampleNames : List Value) :
    (byNames r familyNames sampleNames).Reads (byNamesSpelling r familyNames sampleNames) := by
  have hheadline : (if r.present then
      Rendering.ofText "no metric with name: " ++ r.name.render ++ Rendering.ofText indented
      else Rendering.empty).Reads (if r.present then
        "no metric with name: ".toList ++ r.name.spelling ++ "\n          ".toList else []) := by
    split
    . exact ((Rendering.reads_ofText _).append r.name.reads_render).append
        (Rendering.reads_ofText _)
    . exact Rendering.reads_empty
  have hbreak : (if familyNames.isEmpty || sampleNames.isEmpty then Rendering.empty
      else Rendering.ofText indented).Reads
        (if familyNames.isEmpty || sampleNames.isEmpty then [] else "\n          ".toList) := by
    split
    . exact Rendering.reads_empty
    . exact Rendering.reads_ofText _
  have hnames := ((hheadline.append (reads_nameList "found metric names:" familyNames)).append
    hbreak).append (reads_nameList "found metric sample names:" sampleNames)
  simpa only [byNames, byNamesSpelling, allNamesSpelling, List.append_assoc] using hnames

theorem reads_byValues {rule : Predicate} {entries : List (Value × List Value)}
    (hentries : report.sortedValues = .ok entries) :
    (byValues r rule report).Reads
      ((if r.present then "no value matches: " else "a value matches: ").toList ++
        rule.describe.text.toList ++ "\n          found values: ".toList ++
          entries.flatMap entrySpelling) := by
  have hheadline : (if r.present then "no" else "a") ++ " value matches: " =
      if r.present then "no value matches: " else "a value matches: " := by
    cases r.present with
    | true => rfl
    | false => rfl
  rw [byValues, hentries, hheadline]
  have hvalues := Rendering.reads_concat reads_valueLine entries
  exact (((Rendering.reads_ofText _).append (Rendering.reads_text rule.describe)).append
    (Rendering.reads_ofText _)).append hvalues

theorem reads_byLabels (hpresent : r.present = true) :
    (byLabels r report).Reads
      ("labels did not match:".toList ++ report.records.flatMap recordSpelling) := by
  rw [byLabels, hpresent]
  exact (Rendering.reads_ofText _).append (Rendering.reads_concat reads_recordBlock report.records)

theorem reads_byLabels_of_absent (habsent : r.present = false) :
    (byLabels r report).Reads ("labels did match:".toList ++
      report.records.flatMap fun record => tupleSpelling record.labels) := by
  rw [byLabels, habsent]
  apply (Rendering.reads_ofText _).append
  apply Rendering.reads_concat
  intro record
  have htuple := (reads_labelTuple record.labels).append Rendering.reads_empty
  rwa [List.append_nil] at htuple

end Explanation

end MetricCheck
