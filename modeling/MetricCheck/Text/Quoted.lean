/-!
This module contains the quoted form of a text, in which explanations show every name and every
expected text. A quote or a backslash inside the text follows a backslash.
-/

namespace MetricCheck.Text

def escapeChar (c : Char) : List Char :=
  if c = '\\' ∨ c = '"' then ['\\', c] else [c]

def escape (cs : List Char) : List Char :=
  cs.flatMap escapeChar

def quoted (s : String) : String :=
  String.ofList ('"' :: (escape s.toList ++ ['"']))

@[simp]
theorem escape_nil : escape [] = [] := rfl

@[simp]
theorem escape_cons (c : Char) (cs : List Char) : escape (c :: cs) = escapeChar c ++ escape cs :=
  List.flatMap_cons

@[simp]
theorem escape_append (as bs : List Char) : escape (as ++ bs) = escape as ++ escape bs :=
  List.flatMap_append

@[simp]
theorem toList_quoted (s : String) : (quoted s).toList = '"' :: (escape s.toList ++ ['"']) :=
  String.toList_ofList

end MetricCheck.Text
