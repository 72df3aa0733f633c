import ArityLint.Terminal.Emoji
import ArityLint.Terminal.Literal
import ArityLint.Terminal.Style

namespace ArityLint.Terminal.Markup

def isTagStart (c : Char) : Bool := ('a' ≤ c && c ≤ 'z') || c = '#' || c = '/' || c = '@'

def tag? : List Char → Option (List Char × List Char)
  | '[' :: c :: rest =>
    if isTagStart c then
      match rest.dropWhile fun d => d ≠ '[' && d ≠ ']' with
      | ']' :: after => some (c :: rest.takeWhile fun d => d ≠ '[' && d ≠ ']', after)
      | _ => none
    else none
  | _ => none

theorem length_lt_of_tag? {cs inside after : List Char} (h : tag? cs = some (inside, after)) :
    after.length < cs.length := by
  unfold tag? at h
  split at h
  · rename_i c rest
    split at h
    · split at h
      · rename_i after' hd
        simp only [Option.some.injEq, Prod.mk.injEq] at h
        have := (List.dropWhile_suffix (l := rest) fun d => d ≠ '[' && d ≠ ']').length_le
        rw [hd, List.length_cons, h.2] at this
        simp only [List.length_cons]
        omega
      · simp at h
    · simp at h
  · simp at h

inductive Segment where
  | text (cs : List Char)
  | tag (inside : List Char) (position : Nat)
  deriving DecidableEq, Repr

def unescape : List Char → List Char
  | '\\' :: '[' :: rest => '[' :: unescape rest
  | c :: rest => c :: unescape rest
  | [] => []

def plain (cs : List Char) : List Segment :=
  if cs.isEmpty then [] else [.text (unescape cs)]

/-- The segments of a text from position `pos`, where `before` has been read since the last tag.
Of the backslashes before a tag each pair stands for one, and an odd one makes the tag plain. -/
def segments (before : List Char) (pos : Nat) (cs : List Char) : List Segment :=
  match cs with
  | [] => plain before
  | c :: rest =>
    let slashes := ((c :: rest).takeWhile (· = '\\')).length
    match _h : tag? ((c :: rest).drop slashes) with
    | some (inside, after) =>
      let start := pos + slashes
      let next := start + inside.length + 2
      let pairs := List.replicate (slashes / 2) '\\'
      plain before ++ (if pairs.isEmpty then [] else [.text pairs]) ++
        (if slashes % 2 = 1 then [.text ('[' :: inside ++ [']'])] else [.tag inside start]) ++
        segments [] next after
    | none => segments (before ++ [c]) (pos + 1) rest
termination_by cs.length
decreasing_by
  all_goals simp_wf
  have := length_lt_of_tag? _h
  simp only [List.length_drop, List.length_cons] at this
  omega

def isControl (c : Char) : Bool := c.toNat = 7 || c.toNat = 8 || (11 ≤ c.toNat && c.toNat ≤ 13)

/-- A style that has been opened, with what follows an equals sign after its name. -/
structure Opened where
  name : String
  parameters : Option (List Char)

/-- The definition of the style that a tag stands for, which its parameters add to. -/
def Opened.definition (o : Opened) : List Char :=
  o.name.toList ++ (o.parameters.map (' ' :: ·)).getD []

/-- The name of a tag and its parameters, which begin after the first equals sign. -/
def split (inside : List Char) : List Char × Option (List Char) :=
  (inside.takeWhile (· ≠ '='), (inside.dropWhile (· ≠ '=')).tail?)

/-- Takes the last opened style of a name off the list of open ones, the last opened first. -/
def close? (name : String) : List Opened → Option (Opened × List Opened)
  | [] => none
  | o :: rest =>
    if o.name = name then some (o, rest)
    else (close? name rest).map fun (found, rest) => (found, o :: rest)

/-- The literal in the parameters of an action. The arguments of a handler are what stands in
parentheses after its name, and nothing when there are none. -/
def literalOf (parameters : List Char) : List Char :=
  let rest := parameters.dropWhile fun c => Text.isWord c || c = '.'
  match rest with
  | [] => ['(', ')']
  | '(' :: inside => if inside.getLast? = some ')' ∧ '\n' ∉ inside then rest else parameters
  | _ => parameters

def Opened.readAction (o : Opened) : Except Fault Unit :=
  match o.parameters with
  | some given@(_ :: _) =>
    let read := literalOf (Text.trim given)
    match Literal.flaw? read with
    | none => .ok ()
    | some (.unreadable message) =>
      .error (.markup ("error parsing " ++ Text.quoted (String.ofList read) ++ " in " ++
        Text.quoted (String.ofList given) ++ "; " ++ message))
    | some (.valueless message) =>
      .error (.markup ("error parsing " ++ Text.quoted (String.ofList given) ++ "; " ++ message))
  | _ => .ok ()

/-- Closes a tag: an action is read, and any other tag adds its style to those in use. -/
def Opened.close (o : Opened) (styles : List (List Char)) : Except Fault (List (List Char)) :=
  if o.name.startsWith "@" then do
    o.readAction
    .ok styles
  else .ok (o.definition :: styles)

/-- The text of segments while the tags `opened` are in force and `styles` have been used. Styles
are read when all tags have been. -/
def shown : (opened : List Opened) → (styles : List (List Char)) → List Segment →
    Except Fault (List Char)
  | opened, styles, [] => do
    (styles ++ opened.map (·.definition)).forM Style.use
    .ok []
  | opened, styles, .text cs :: rest => do
    .ok ((Emoji.replace cs).filter (fun c => !isControl c) ++ (← shown opened styles rest))
  | opened, styles, .tag inside position :: rest =>
    match split inside with
    | ('/' :: name, _) =>
      if (Text.trim name).isEmpty then
        match opened with
        | [] =>
          .error (.markup ("closing tag '[/]' at position " ++ toString position ++
            " has nothing to close"))
        | o :: opened => do shown opened (← o.close styles) rest
      else do
        match close? (← Style.normalize (Text.trim name)) opened with
        | some (o, opened) => shown opened (← o.close styles) rest
        | none =>
          .error (.markup ("closing tag '" ++ String.ofList ('[' :: inside ++ [']']) ++
            "' at position " ++ toString position ++ " doesn't match any open tag"))
    | (name, parameters) => do
      let name ← Style.normalize name
      shown (⟨name, parameters⟩ :: opened) styles rest

def text (markup : String) : Except Fault String := do
  .ok (String.ofList (← shown [] [] (segments [] 0 markup.toList)))

def escapeTags (cs : List Char) : List Char :=
  match cs with
  | [] => []
  | c :: rest =>
    let slashes := ((c :: rest).takeWhile (· = '\\')).length
    match _h : tag? ((c :: rest).drop slashes) with
    | some (inside, after) =>
      List.replicate (2 * slashes + 1) '\\' ++ '[' :: inside ++ ']' :: escapeTags after
    | none => c :: escapeTags rest
termination_by cs.length
decreasing_by
  all_goals simp_wf
  have := length_lt_of_tag? _h
  simp only [List.length_drop, List.length_cons] at this
  omega

/-- Makes a text plain inside markup. A single backslash at the end is doubled too, since a tag may
follow. -/
def escape (s : String) : String :=
  let cs := escapeTags s.toList
  match cs.reverse with
  | '\\' :: '\\' :: _ => String.ofList cs
  | '\\' :: _ => String.ofList (cs ++ ['\\'])
  | _ => String.ofList cs

end ArityLint.Terminal.Markup
