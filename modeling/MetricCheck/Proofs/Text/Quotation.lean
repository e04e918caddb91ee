import MetricCheck.Predicate.Description
import MetricCheck.Proofs.Text.Readable

/-!
This module contains why a text in an explanation says where it ends. Every backslash is doubled,
then every quote gets a backslash before it, and quotes stand around the result; so the text and
whatever follows it can be told apart, and no two texts are written in the same way.
-/

namespace MetricCheck

namespace Text

def replaceChar (c : Char) (replacement cs : List Char) : List Char :=
  cs.flatMap fun d => if d = c then replacement else [d]

/--
The characters of a text between its quotes, written in two steps. The backslashes that the second
step puts before quotes are not doubled, since the first step is over by then.
-/
def escapeInSteps (cs : List Char) : List Char :=
  replaceChar '"' ['\\', '"'] (replaceChar '\\' ['\\', '\\'] cs)

theorem escape_eq_escapeInSteps (cs : List Char) : escape cs = escapeInSteps cs := by
  unfold escape escapeInSteps replaceChar
  rw [List.flatMap_assoc]
  congr
  funext c
  unfold escapeChar
  by_cases hbackslash : c = '\\'
  . simp [hbackslash]
  . by_cases hquote : c = '"'
    . simp [hquote]
    . simp [hbackslash, hquote]

end Text

namespace Value

theorem complete_render_text_append (s u : String) :
    ((text s).render ++ Rendering.ofText u).complete = .ok (Text.quoted s ++ u) := by
  rw [render_text, Rendering.ofText_append_ofText, Rendering.complete_ofText]

theorem quotation_self_delimiting (s t u v : String) :
    ((text s).render ++ Rendering.ofText u).complete =
        .ok (String.ofList ('"' :: (Text.escapeInSteps s.toList ++ '"' :: u.toList))) ∧
      (((text s).render ++ Rendering.ofText u).complete =
        ((text t).render ++ Rendering.ofText v).complete ↔ s = t ∧ u = v) := by
  constructor
  . rw [complete_render_text_append, Except.ok.injEq, ← String.toList_inj, String.toList_append,
      Text.toList_quoted, String.toList_ofList, Text.escape_eq_escapeInSteps]
    simp
  . rw [complete_render_text_append, complete_render_text_append, Except.ok.injEq]
    constructor
    . intro hsame
      rw [← String.toList_inj, String.toList_append, String.toList_append] at hsame
      obtain ⟨hs, hu⟩ := Text.quoted_append_inj hsame
      exact ⟨hs, String.toList_inj.mp hu⟩
    . rintro ⟨rfl, rfl⟩
      rfl

-- A text that ends in a backslash is told apart from one that ends in a quote, although a quote
-- follows it.
example : ((text "in\\").render ++ Rendering.ofText "\"").text = "\"in\\\\\"\"" ∧
    ((text "in\"").render ++ Rendering.ofText "").text = "\"in\\\"\"" := by
  decide +kernel

end Value

end MetricCheck
