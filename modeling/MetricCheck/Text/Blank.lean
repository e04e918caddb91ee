/-!
This module contains the classes of blank characters, and cutting blanks off the ends of a text.
-/

namespace MetricCheck.Text

def isAsciiBlank (c : Char) : Bool :=
  c == ' ' || ('\x09' ≤ c && c ≤ '\x0d')

def isUnicodeBlank (c : Char) : Bool :=
  isAsciiBlank c || c == '\u0085' || c == '\u00a0' || c == '\u1680' ||
    ('\u2000' ≤ c && c ≤ '\u200a') || c == '\u2028' || c == '\u2029' || c == '\u202f' ||
    c == '\u205f' || c == '\u3000'

def isBlank (c : Char) : Bool :=
  isUnicodeBlank c || ('\x1c' ≤ c && c ≤ '\x1f')

theorem isBlank_of_isWhitespace {c : Char} (h : c.isWhitespace = true) : isBlank c = true := by
  simp only [Char.isWhitespace, Bool.or_eq_true, decide_eq_true_eq] at h
  rcases h with ((rfl | rfl) | rfl) | rfl <;> decide

def trimBy (cut : Char → Bool) (cs : List Char) : List Char :=
  ((cs.dropWhile cut).reverse.dropWhile cut).reverse

def trim (cs : List Char) : List Char :=
  trimBy isBlank cs

end MetricCheck.Text
