import ArityLint.Error

namespace ArityLint

namespace Glob

inductive Piece where
  | star
  | any
  | char (c : Char)
  | set (negated : Bool) (ranges : List (Char × Char))
  deriving DecidableEq, Repr

/-- Splits the inside of a bracket at the hyphens that make ranges. A hyphen makes one unless it is
among the first `skip` characters or within two characters after the last one that did. -/
def chunks : (skip : Nat) → List Char → List (List Char)
  | _, [] => [[]]
  | 0, '-' :: rest => [] :: chunks 2 rest
  | skip, c :: rest =>
    match chunks (skip - 1) rest with
    | [] => [[c]]
    | chunk :: more => (c :: chunk) :: more

/-- An empty last chunk means that the bracket ends in a plain hyphen. -/
def closeChunks (cs : List (List Char)) : List (List Char) :=
  match cs.reverse with
  | [] :: chunk :: more => ((chunk ++ ['-']) :: more).reverse
  | _ => cs

/-- Takes out ranges that run backwards, the last ones first. -/
def dropBackward : List (List Char) → List (List Char)
  | [] => []
  | chunk :: rest =>
    match dropBackward rest with
    | [] => [chunk]
    | next :: more =>
      match chunk.getLast?, next.head? with
      | some a, some b =>
        if b < a then (chunk.dropLast ++ next.drop 1) :: more else chunk :: next :: more
      | _, _ => chunk :: next :: more

/-- The characters of all chunks, with nothing between two of them where a range goes on. -/
def joined : List (List Char) → List (Option Char)
  | [] => []
  | [chunk] => chunk.map some
  | chunk :: rest => chunk.map some ++ none :: joined rest

def ranges : List (Option Char) → List (Char × Char)
  | some a :: none :: some b :: rest => (a, b) :: ranges rest
  | some a :: rest => (a, a) :: ranges rest
  | none :: rest => ('-', '-') :: ranges rest
  | [] => []

def setOf (inside : List Char) : Piece :=
  let skip := if inside.head? = some '!' then 2 else 1
  match joined (dropBackward (closeChunks (chunks skip inside))) with
  | some '!' :: rest => .set true (ranges rest)
  | found => .set false (ranges found)

/-- How many characters at the start of a bracket cannot close it. -/
def leadOf : List Char → Nat
  | '!' :: ']' :: _ => 2
  | '!' :: _ | ']' :: _ => 1
  | _ => 0

/-- Splits at the bracket that closes a set; one right after the opening does not. -/
def bracket? (cs : List Char) : Option (List Char × List Char) :=
  let tail := cs.drop (leadOf cs)
  match tail.dropWhile (· ≠ ']') with
  | [] => none
  | _ :: rest => some (cs.take (leadOf cs) ++ tail.takeWhile (· ≠ ']'), rest)

theorem length_lt_of_bracket? {cs inside rest : List Char} (h : bracket? cs = some (inside, rest)) :
    rest.length < cs.length := by
  simp only [bracket?] at h
  split at h
  · simp at h
  · rename_i b more hs
    simp only [Option.some.injEq, Prod.mk.injEq] at h
    have := (List.dropWhile_suffix (l := cs.drop (leadOf cs)) (· ≠ ']')).length_le
    rw [hs, List.length_cons, List.length_drop, h.2] at this
    omega

def pieces (cs : List Char) : List Piece :=
  match cs with
  | [] => []
  | '*' :: rest => .star :: pieces rest
  | '?' :: rest => .any :: pieces rest
  | '[' :: rest =>
    match _h : bracket? rest with
    | some (inside, after) => setOf inside :: pieces after
    | none => .char '[' :: pieces rest
  | c :: rest => .char c :: pieces rest
termination_by cs.length
decreasing_by
  all_goals simp_wf
  have := length_lt_of_bracket? _h
  omega

def Piece.admits (p : Piece) (c : Char) : Bool :=
  match p with
  | star | any => true
  | char d => c = d
  | set negated ranges => (ranges.any fun (lo, hi) => lo ≤ c && c ≤ hi) != negated

def isMatch : List Piece → List Char → Bool
  | [], cs => cs.isEmpty
  | .star :: ps, [] => isMatch ps []
  | .star :: ps, c :: cs => isMatch ps (c :: cs) || isMatch (.star :: ps) cs
  | _ :: _, [] => false
  | p :: ps, c :: cs => p.admits c && isMatch ps cs
termination_by ps cs => ps.length + cs.length

end Glob

namespace Path

def matchesPart (pattern part : String) : Bool :=
  Glob.isMatch (Glob.pieces pattern.toList) part.toList

/-- The components, the root of an absolute path included. -/
def steps (p : Path) : List String :=
  match p.anchor with
  | .relative => p.parts
  | anchor => anchor.text :: p.parts

/-- Does a pattern match the path? The components of a relative one are held against the last
components of the path. -/
def fits (p pattern : Path) : Bool :=
  let ends :=
    (p.steps.reverse.zip pattern.parts.reverse).all fun (part, pat) => matchesPart pat part
  match pattern.anchor with
  | .relative => pattern.parts.length ≤ p.steps.length && ends
  | anchor => anchor = p.anchor && pattern.parts.length = p.parts.length && ends

/-- What a list in the place of a pattern leads to: it is asked for a leading slash, then for any
slash. -/
def listFault (items : List Value) : Fault :=
  if (items.head?.map (·.isStr "/")).getD false then .noAttribute "list" "lstrip"
  else if items.any (·.isStr "/") then .noAttribute "list" "split"
  else .notPattern "list"

def fitsValue (p : Path) (pattern : Value) : Except Fault Bool :=
  if !pattern.truthy then .error .emptyPattern
  else
    match pattern with
    | .str s =>
      let pat := Path.ofString s
      if pat.anchor = .relative ∧ pat.parts = [] then .error .emptyPattern else .ok (p.fits pat)
    | .arr items => .error (listFault items)
    | .obj _ => .error (.missingIndex 0)
    | v => .error (.notSubscriptable v.typeName)

end Path

end ArityLint
