import ArityLint.Terminal.Emoji.Names
import ArityLint.Text.Lower
import ArityLint.Text.Space

namespace ArityLint.Terminal.Emoji

def hexDigit (c : Char) : Nat := if c.isDigit then c.toNat - 48 else c.toNat - 55

def decode (code : List Char) : List Char :=
  (code.splitOn '-').map fun digits =>
    Char.ofNat (digits.foldl (fun n c => 16 * n + hexDigit c) 0)

def pairs : List (List Char) → List (List Char × List Char)
  | name :: code :: rest => (name, decode code) :: pairs rest
  | _ => []

def table : List (List Char × List Char) := pairs (Text.spacedWords names.toList)

def variant (code : List Char) : List Char × List Char :=
  if "-emoji".toList <:+ code then (code.take (code.length - 6), [Char.ofNat 0xFE0F])
  else if "-text".toList <:+ code then (code.take (code.length - 5), [Char.ofNat 0xFE0E])
  else (code, [])

def picture? (code : List Char) : Option (List Char) :=
  let (name, selector) := variant code
  (table.lookup (Text.lower name)).map (· ++ selector)

/-- A text with pictures for their codes. A code that is not known is left, its second colon
included. -/
def replace (cs : List Char) : List Char :=
  match cs with
  | [] => []
  | c :: rest =>
    if c = ':' then
      let isInside (d : Char) : Bool := d ≠ ':' && !Text.isSpace d
      match _h : rest.dropWhile isInside with
      | ':' :: after =>
        let code := rest.takeWhile isInside
        (picture? code).getD (':' :: code ++ [':']) ++ replace after
      | _ => ':' :: replace rest
    else c :: replace rest
termination_by cs.length
decreasing_by
  · have := (List.dropWhile_suffix (l := rest) isInside).length_le
    rw [_h, List.length_cons] at this
    simp only [List.length_cons]
    omega
  all_goals simp

end ArityLint.Terminal.Emoji
