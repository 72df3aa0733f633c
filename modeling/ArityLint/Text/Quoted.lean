import ArityLint.Text.Printable
import ArityLint.Text.Utf8

namespace ArityLint.Text

def quoteFor (cs : List Char) : Char :=
  if '\'' ∈ cs ∧ '"' ∉ cs then '"' else '\''

def escaped (quote c : Char) : List Char :=
  if c = quote ∨ c = '\\' then ['\\', c]
  else if c = '\n' then ['\\', 'n']
  else if c = '\r' then ['\\', 'r']
  else if c = '\t' then ['\\', 't']
  else if isPrintable c then [c]
  else if c.toNat ≤ 0xFF then '\\' :: 'x' :: (Utf8.hexDigits 2 c.toNat).toList
  else if c.toNat ≤ 0xFFFF then '\\' :: 'u' :: (Utf8.hexDigits 4 c.toNat).toList
  else '\\' :: 'U' :: (Utf8.hexDigits 8 c.toNat).toList

def quoted (s : String) : String :=
  let cs := s.toList
  let q := quoteFor cs
  String.ofList (q :: cs.flatMap (escaped q) ++ [q])

end ArityLint.Text
