import ArityLint.Text.Numeral

namespace ArityLint.Text

/-- White space, the information separators U+001C to U+001F included. -/
def isSpace (c : Char) : Bool := isBlank c || (0x1C ≤ c.toNat && c.toNat ≤ 0x1F)

/-- `cs` without the white space at its end. -/
def trimEnd (cs : List Char) : List Char := (cs.reverse.dropWhile isSpace).reverse

/-- `cs` without the white space at both ends. -/
def trim (cs : List Char) : List Char := trimEnd (cs.dropWhile isSpace)

def spacedWords (cs : List Char) : List (List Char) :=
  match _h : cs.dropWhile isSpace with
  | [] => []
  | c :: rest =>
    (c :: rest.takeWhile fun d => !isSpace d) :: spacedWords (rest.dropWhile fun d => !isSpace d)
termination_by cs.length
decreasing_by
  have h1 := (List.dropWhile_suffix (l := cs) isSpace).length_le
  have h2 := (List.dropWhile_suffix (l := rest) fun d => !isSpace d).length_le
  rw [_h, List.length_cons] at h1
  omega

end ArityLint.Text
