/-!
This module contains how one text occurs in another: at its start, at its end or anywhere.
-/

namespace MetricCheck.Text

def startsWith (part s : String) : Bool :=
  part.toList.isPrefixOf s.toList

def endsWith (part s : String) : Bool :=
  part.toList.isSuffixOf s.toList

def occurs (part : List Char) : List Char → Bool
  | [] => part.isEmpty
  | c :: rest => part.isPrefixOf (c :: rest) || occurs part rest

def contains (part s : String) : Bool :=
  occurs part.toList s.toList

theorem startsWith_iff {part s : String} :
    startsWith part s = true ↔ part.toList <+: s.toList :=
  List.isPrefixOf_iff_prefix

theorem endsWith_iff {part s : String} : endsWith part s = true ↔ part.toList <:+ s.toList :=
  List.isSuffixOf_iff_suffix

theorem occurs_iff {part cs : List Char} : occurs part cs = true ↔ part <:+: cs := by
  induction cs with
  | nil => simp [occurs]
  | cons c rest ih => simp [occurs, ih, List.infix_cons_iff]

end MetricCheck.Text
