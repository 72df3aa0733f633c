import ArityLint.Terminal.Literal.Expr
import ArityLint.Terminal.Literal.Token

namespace ArityLint.Terminal.Literal

inductive Raised where
  /-- A flaw in the tokens themselves. -/
  | scan (message : String)
  | grammar (message : String)
  deriving DecidableEq, Repr

abbrev Parse := StateT (List Token) (OptionT (Except Raised))

def raise (message : String) : Parse α := fun _ => OptionT.mk (.error (.grammar message))

def peek : Parse Kind := fun ts =>
  match ts with
  | [] => failure
  | t :: _ =>
    match t.kind with
    | .flaw message _ => OptionT.mk (.error (.scan message))
    | k => pure (k, ts)

def take : Parse Kind := do
  let k ← peek
  modify List.tail
  pure k

def exactly (k : Kind) : Parse Unit := do
  if (← peek) = k then modify List.tail else failure

def sign (s : String) : Parse Unit := exactly (.sign s)

def word (s : String) : Parse Unit := exactly (.name s)

def isNext (k : Kind) : Parse Bool := do pure ((← peek) = k)

def isNextSign (s : String) : Parse Bool := isNext (.sign s)

def oneOf (signs : List String) : Parse String := do
  match ← take with
  | .sign s => if signs.contains s then pure s else failure
  | _ => failure

def many (p : Parse α) : (steps : Nat) → Parse (List α)
  | 0 => pure []
  | steps + 1 => do
    match ← optional p with
    | some a => pure (a :: (← many p steps))
    | none => pure []

def repeated (p : Parse α) : Parse (List α) := do many p (← get).length

def separated (s : String) (p : Parse α) : Parse (List α) := do
  let first ← p
  pure (first :: (← repeated (sign s *> p)))

def keywords : List String :=
  ["False", "None", "True", "and", "as", "assert", "async", "await", "break", "class", "continue",
    "def", "del", "elif", "else", "except", "finally", "for", "from", "global", "if", "import",
    "in", "is", "lambda", "nonlocal", "not", "or", "pass", "raise", "return", "try", "while",
    "with", "yield"]

def softKeywords : List String := ["_", "case", "match"]

def identifier : Parse String := do
  match ← take with
  | .name s => if keywords.contains s then failure else pure s
  | _ => failure

inductive Goal where
  | expression
  | disjunction
  | conjunction
  | inversion
  | comparison
  /-- Operators of two operands, from the weakest on. -/
  | binary (strength : Nat)
  | factor
  | power
  | primary
  | atom
  | named
  | starNamed
  deriving DecidableEq, Repr

def binarySigns : List (List String) :=
  [["|"], ["^"], ["&"], ["<<", ">>"], ["+", "-"], ["*", "/", "//", "%", "@"]]

def joined (s : String) (left right : Expr) : Expr :=
  if s = "+" ∨ s = "-" then .sum left right else .other "expression"

/-- How the rules read the parts of a goal: as they were asked to, and without explaining. -/
structure Rules where
  explain : Bool
  self : Goal → Parse Expr
  plain : Goal → Parse Expr

namespace Rules

def worded (r : Rules) (operand : Goal) (w : String) : Parse Expr := do
  let first ← r.self operand
  let more ← repeated (word w *> r.self operand)
  pure (if more.isEmpty then first else .other "expression")

def comparator : Parse Unit :=
  (oneOf ["==", "!=", "<=", "<", ">=", ">"] *> pure ()) <|> (word "not" *> word "in") <|>
    word "in" <|> (word "is" *> word "not") <|> word "is"

def comparison (r : Rules) : Parse Expr := do
  let first ← r.self (.binary 0)
  let more ← repeated (comparator *> r.self (.binary 0))
  pure (if more.isEmpty then first else .other "comparison")

def binary (r : Rules) (strength : Nat) : Parse Expr := do
  let operand := if strength + 1 < binarySigns.length then .binary (strength + 1) else .factor
  let first ← r.self operand
  let more ← repeated do
    let s ← oneOf (binarySigns.getD strength [])
    pure (s, ← r.self operand)
  pure (more.foldl (fun left (s, right) => joined s left right) first)

def factor (r : Rules) : Parse Expr :=
  (do
    let s ← oneOf ["+", "-", "~"]
    let e ← r.self .factor
    pure (if s = "~" then .other "expression" else .signed e)) <|>
  r.self .power

def power (r : Rules) : Parse Expr := do
  let base ← (word "await" *> r.self .primary *> pure (.other "await expression")) <|>
    r.self .primary
  (sign "**" *> r.self .factor *> pure (.other "expression")) <|> pure base

/-- Is the first token a name that may have been meant as the mark of a text, or a name that is a
keyword elsewhere? Then two expressions in a row are not explained. -/
def isExempt : List Token → Bool
  | ⟨.name s, _⟩ :: ⟨.text .., _⟩ :: _ => !keywords.contains s || softKeywords.contains s
  | ⟨.name s, _⟩ :: _ => softKeywords.contains s
  | _ => false

def isLegacy : Expr → Bool
  | .name s => s = "print" || s = "exec"
  | _ => false

def explainAdjacent (r : Rules) (start : List Token) (first : Expr) : Parse Unit := do
  let after ← get
  match ← optional (r.plain .expression) with
  | none => pure ()
  | some _ =>
    let used : Nat := after.length - (← get).length
    let level : Nat := ((after.take used).getLast?.map (·.level)).getD 0
    if level != 0 && !isExempt start && !isLegacy first then
      raise "invalid syntax. Perhaps you forgot a comma?"
    set after

def explainConditional (r : Rules) : Parse Unit := do
  let after ← get
  match ← optional (word "if" *> r.self .disjunction) with
  | none => pure ()
  | some _ =>
    if !(← isNext (.name "else")) && !(← isNextSign ":") then
      raise "expected 'else' after 'if' expression"
    set after

def starExpressions (r : Rules) : Parse Unit := do
  let _ ← separated "," ((sign "*" *> r.self (.binary 0)) <|> r.self .expression)
  let _ ← optional (sign ",")

def explainLegacy (r : Rules) (start : List Token) : Parse Unit := do
  let after ← get
  set start
  match ← optional identifier with
  | none => pure ()
  | some s =>
    if !(← isNextSign "(") then
      if (← optional r.starExpressions).isSome && isLegacy (.name s) then
        raise ("Missing parentheses in call to '" ++ s ++ "'. Did you mean " ++ s ++ "(...)?")
  set after

def parameter (r : Rules) : Parse Unit :=
  (do
    let _ ← identifier
    let _ ← optional (sign "=" *> r.self .expression)) <|>
  (sign "*" *> optional identifier *> pure ()) <|>
  (sign "**" *> identifier *> pure ()) <|> sign "/"

def lambda (r : Rules) : Parse Expr := do
  word "lambda"
  let _ ← optional (separated "," r.parameter)
  let _ ← optional (sign ",")
  sign ":"
  let _ ← r.self .expression
  pure (.other "lambda")

def expression (r : Rules) : Parse Expr := do
  let start ← get
  match ← optional (r.self .disjunction) with
  | none => r.lambda
  | some e =>
    if r.explain then
      r.explainAdjacent start e
      r.explainConditional
      r.explainLegacy start
    (do
      word "if"
      let _ ← r.self .disjunction
      word "else"
      let _ ← r.self .expression
      pure (.other "conditional expression")) <|>
    pure e

def assignment : Parse Unit := do
  let _ ← identifier
  sign ":="

def isUnassignable : Expr → Bool
  | .tuple _ => true
  | .constant d => d = "True" || d = "False" || d = "None"
  | .other d => d = "generator expression"
  | _ => false

def explainEquals (r : Rules) (start : List Token) : Parse Unit := do
  let after ← get
  if ← isNextSign "=" then
    set start
    let first ← optional (r.self .atom)
    set start
    let left ← r.self (.binary 0)
    if (← optional (sign "=" *> r.self (.binary 0))).isSome then
      if !(← isNextSign "=") && !(← isNextSign ":=") then
        match left with
        | .name _ => raise "invalid syntax. Maybe you meant '==' or ':=' instead of '='?"
        | _ =>
          if !(first.any isUnassignable) then
            raise ("cannot assign to " ++ left.description ++
              " here. Maybe you meant '==' instead of '='?")
    set after

/-- What follows an expression from `start` on that may have been given a name. -/
def afterNamed (r : Rules) (start : List Token) (e : Expr) : Parse Expr := do
  if r.explain then
    let after ← get
    if (← optional (sign ":=" *> r.self .expression)).isSome then
      raise ("cannot use assignment expressions with " ++ e.description)
    set after
    r.explainEquals start
  if ← isNextSign ":=" then failure else pure e

def named (r : Rules) : Parse Expr := do
  let start ← get
  match ← optional assignment with
  | some _ => r.self .expression *> pure (.other "named expression")
  | none => r.afterNamed start (← r.self .expression)

def starNamed (r : Rules) : Parse Expr :=
  (sign "*" *> r.self (.binary 0) *> pure (.other "starred")) <|> r.self .named

def isStarred : Expr → Bool
  | .other d => d = "starred"
  | _ => false

def starred (r : Rules) : Parse Expr := do
  sign "*"
  match ← optional (r.self .expression) with
  | some _ => pure (.other "starred")
  | none => if r.explain then raise "Invalid star expression" else failure

def clauses (r : Rules) : Parse Unit := do
  let clause : Parse Unit := do
    let _ ← optional (word "async")
    word "for"
    let _ ← separated "," (optional (sign "*") *> r.self (.binary 0))
    let _ ← optional (sign ",")
    word "in"
    let _ ← r.self .disjunction
    let _ ← repeated (word "if" *> r.self .disjunction)
  clause
  let _ ← repeated clause

def parenthesized (r : Rules) : Parse Expr := do
  if ← isNextSign ")" then sign ")" *> pure (.tuple [])
  else if ← isNext (.name "yield") then
    word "yield"
    let _ ← optional ((word "from" *> r.self .expression *> pure ()) <|> r.starExpressions)
    sign ")"
    pure (.other "yield expression")
  else
    match ← optional (r.self .starNamed) with
    | none =>
      if r.explain then
        let _ ← optional r.starred
        sign "**"
        let _ ← r.self .expression
        sign ")"
        raise "cannot use double starred expression here"
      else failure
    | some e =>
      if ← isNextSign "," then
        sign ","
        let more ← optional (separated "," (r.self .starNamed))
        let _ ← if more.isSome then optional (sign ",") else pure none
        sign ")"
        pure (.tuple (e :: more.getD []))
      else if ← isNextSign ")" then
        sign ")"
        if !isStarred e then pure e
        else if r.explain then raise "cannot use starred expression here"
        else failure
      else
        r.clauses
        if isStarred e then
          if r.explain then raise "iterable unpacking cannot be used in comprehension" else failure
        sign ")"
        pure (.other "generator expression")

def valueOf (r : Rules) : Parse Expr := do
  sign ":"
  match ← optional (r.self .expression) with
  | some e => pure e
  | none =>
    if (← optional (sign "*" *> r.self (.binary 0))).isSome then
      raise "cannot use a starred expression in a dictionary value"
    if (← isNextSign "\x7d") || (← isNextSign ",") then
      raise "expression expected after dictionary key and ':'"
    failure

def entry (r : Rules) : Parse (Expr × Expr) :=
  (do
    sign "**"
    pure (.spread, ← r.self (.binary 0))) <|>
  (do
    let key ← r.self .expression
    if !(← isNextSign ":") then raise "':' expected after dictionary key"
    pure (key, ← r.valueOf))

def dictionary (r : Rules) (first : Expr × Expr) : Parse Expr := do
  let more ← repeated (sign "," *> r.entry)
  let _ ← optional (sign ",")
  let all := first :: more
  (do
    sign "\x7d"
    pure (.dict (all.map (·.1)) (all.map (·.2)))) <|>
  (do
    r.clauses
    if more.isEmpty then
      match first.1 with
      | .spread =>
        if r.explain then raise "dict unpacking cannot be used in dict comprehension" else failure
      | _ => sign "\x7d" *> pure (.other "dict comprehension")
    else failure)

def setAfter (r : Rules) (first : Expr) : Parse Expr := do
  let more ← repeated (sign "," *> r.self .starNamed)
  let _ ← optional (sign ",")
  (sign "\x7d" *> pure (.set (first :: more))) <|>
  (do
    r.clauses
    if r.explain && !more.isEmpty then
      raise "did you forget parentheses around the comprehension target?"
    if more.isEmpty && !isStarred first then sign "\x7d" *> pure (.other "set comprehension")
    else failure)

def braced (r : Rules) : Parse Expr := do
  if ← isNextSign "\x7d" then sign "\x7d" *> pure (.dict [] [])
  else if ← isNextSign "**" then r.dictionary (← r.entry)
  else if ← isNextSign "*" then
    (do r.setAfter (← r.self .starNamed)) <|>
    (do
      if r.explain then
        let _ ← r.starred
        r.clauses
        raise "iterable unpacking cannot be used in comprehension"
      failure)
  else
    let start ← get
    match ← optional assignment with
    | some _ => r.setAfter (← r.self .expression *> pure (.other "named expression"))
    | none =>
      let e ← r.self .expression
      if ← isNextSign ":" then r.dictionary (e, ← r.valueOf)
      else r.setAfter (← r.afterNamed start e)

def joinTexts : List (Bool × Bool × Option String) → Parse Expr
  | [] => failure
  | (bytes, formatted, flaw) :: rest => do
    if let some message := flaw then raise message
    for (bytes', _, flaw) in rest do
      if let some message := flaw then raise message
      if bytes' ≠ bytes then raise "cannot mix bytes and nonbytes literals"
    if formatted || rest.any (·.2.1) then pure (.other "f-string expression")
    else pure (.constant "literal")

def textPart : Parse (Bool × Bool × Option String) := do
  match ← take with
  | .text bytes formatted flaw => pure (bytes, formatted, flaw)
  | _ => failure

def atom (r : Rules) : Parse Expr := do
  match ← peek with
  | .name s =>
    if s = "True" ∨ s = "False" ∨ s = "None" then take *> pure (.constant s)
    else .name <$> identifier
  | .number imaginary flaw =>
    let _ ← take
    if let some message := flaw then raise message
    pure (.number imaginary)
  | .text .. => joinTexts (← repeated textPart)
  | .sign "(" => take *> r.parenthesized
  | .sign "\x7b" => take *> r.braced
  | .sign "..." => take *> pure (.constant "ellipsis")
  | _ => failure

inductive Argument where
  | positional
  | comprehension
  | keyword
  | spread
  deriving DecidableEq, Repr

def isKeywordStart : List Token → Bool
  | ⟨.name s, _⟩ :: ⟨.sign "=", _⟩ :: _ => !keywords.contains s
  | _ => false

def argument (r : Rules) : Parse Argument :=
  (r.starred *> pure .positional) <|>
  (sign "**" *> r.self .expression *> pure .spread) <|>
  (do
    let _ ← identifier
    sign "="
    let _ ← r.self .expression
    pure .keyword) <|>
  (assignment *> r.self .expression *> pure .positional) <|>
  (do
    let start ← get
    let e ← r.self .expression
    if r.explain && !isKeywordStart start then
      if ← isNextSign "=" then
        if e.description = "True" ∨ e.description = "False" ∨ e.description = "None" then
          raise ("cannot assign to " ++ e.description)
        else raise "expression cannot contain assignment, perhaps you meant \"==\"?"
    (r.clauses *> pure .comprehension) <|> pure .positional)

def argumentsFlaw? (args : List Argument) : Option String :=
  if args.contains .comprehension ∧ 1 < args.length then
    some "Generator expression must be parenthesized"
  else
    let late := args.dropWhile fun a => a = .positional || a = .comprehension
    if !late.contains .positional then none
    else if late.head? = some .spread then
      some "positional argument follows keyword argument unpacking"
    else some "positional argument follows keyword argument"

def call (r : Rules) : Parse Nat := do
  sign "("
  if ← isNextSign ")" then sign ")" *> pure 0
  else
    let args ← separated "," r.argument
    let comma ← optional (sign ",")
    match argumentsFlaw? args with
    | some message => if r.explain then raise message else failure
    | none =>
      if args = [.comprehension] ∧ comma.isSome then
        if r.explain then raise "Generator expression must be parenthesized" else failure
      sign ")"
      pure args.length

def explainComprehension (r : Rules) : Parse Unit := do
  let start ← get
  if (← isNextSign "(") || (← isNextSign "\x7b") then
    if (← optional (take *> r.starred *> r.clauses)).isSome then
      raise "iterable unpacking cannot be used in comprehension"
    let target := do
      sign "\x7b"
      let _ ← r.self .starNamed
      sign ","
      let _ ← optional (separated "," (r.self .starNamed) *> optional (sign ","))
      r.clauses
    if (← optional target).isSome then
      raise "did you forget parentheses around the comprehension target?"
  set start

def primary (r : Rules) : Parse Expr := do
  let base ← r.self .atom
  let member : Parse (Expr → Expr) := do
    sign "."
    let _ ← identifier
    pure fun _ => .other "attribute"
  let application : Parse (Expr → Expr) := do
    let count ← r.call
    pure fun
      | .name "set" => if count = 0 then .emptySet else .other "function call"
      | _ => .other "function call"
  let more ← repeated do
    if r.explain then r.explainComprehension
    member <|> application
  pure (more.foldl (fun e f => f e) base)

def read (r : Rules) : Goal → Parse Expr
  | .expression => r.expression
  | .disjunction => r.worded .conjunction "or"
  | .conjunction => r.worded .inversion "and"
  | .inversion =>
    (word "not" *> r.self .inversion *> pure (.other "expression")) <|> r.self .comparison
  | .comparison => r.comparison
  | .binary strength => r.binary strength
  | .factor => r.factor
  | .power => r.power
  | .primary => r.primary
  | .atom => r.atom
  | .named => r.named
  | .starNamed => r.starNamed

end Rules

def parse (explain : Bool) : (depth : Nat) → Goal → Parse Expr
  | 0, _ => failure
  | depth + 1, goal =>
    Rules.read ⟨explain, parse explain depth, parse false depth⟩ goal

def whole (explain : Bool) (depth : Nat) : Parse Expr := do
  let items ← separated "," (parse explain depth .expression)
  let comma ← optional (sign ",")
  let _ ← repeated (exactly .newline)
  exactly .stop
  match items with
  | [e] => pure (if comma.isSome then .tuple [e] else e)
  | _ => pure (.tuple items)

end ArityLint.Terminal.Literal
