import MetricCheck.Text.Printed

/-!
This module contains the literal form of texts and byte strings, in which they show inside other
values. A literal stands between single quotes, or between double quotes if that saves escaping, and
has no character without a printed form.
-/

namespace MetricCheck.Text

def hex (width n : Nat) : List Char :=
  let digits := Nat.toDigits 16 n
  List.replicate (width - digits.length) '0' ++ digits

def literalQuote (cs : List Char) : Char :=
  if cs.contains '\'' && !cs.contains '"' then '"' else '\''

def shortEscape? (quote c : Char) : Option (List Char) :=
  if c = quote ∨ c = '\\' then some ['\\', c]
  else if c = '\n' then some ['\\', 'n']
  else if c = '\r' then some ['\\', 'r']
  else if c = '\t' then some ['\\', 't']
  else none

def literalChar (quote c : Char) : List Char :=
  match shortEscape? quote c with
  | some cs => cs
  | none =>
    if isPrinted c then [c]
    else if c.toNat < 0x100 then '\\' :: 'x' :: hex 2 c.toNat
    else if c.toNat < 0x10000 then '\\' :: 'u' :: hex 4 c.toNat
    else '\\' :: 'U' :: hex 8 c.toNat

def literalByte (quote : Char) (b : UInt8) : List Char :=
  let c := Char.ofUInt8 b
  match shortEscape? quote c with
  | some cs => cs
  | none => if ' ' ≤ c && c ≤ '~' then [c] else '\\' :: 'x' :: hex 2 b.toNat

def literal (s : String) : String :=
  let quote := literalQuote s.toList
  String.ofList (quote :: (s.toList.flatMap (literalChar quote) ++ [quote]))

def bytesLiteral (bytes : List UInt8) : String :=
  let quote := literalQuote (bytes.map Char.ofUInt8)
  String.ofList ('b' :: quote :: (bytes.flatMap (literalByte quote) ++ [quote]))

end MetricCheck.Text
