import ArityLint.Proofs.Run
import ArityLint.Tree.Estree

namespace ArityLint

section Answers

variable {ε α β : Type}

/-- The step succeeds exactly if `good` holds, and fails exactly with the errors of `bad`. -/
structure Answers (x : Except ε α) (good : Prop) (bad : ε → Prop) : Prop where
  ok_iff : (∃ a, x = .ok a) ↔ good
  error_iff : ∀ e, x = .error e ↔ bad e

theorem answers_ok (a : α) : Answers (.ok a : Except ε α) True fun _ => False where
  ok_iff := ⟨fun _ => trivial, fun _ => ⟨a, rfl⟩⟩
  error_iff _ := ⟨nofun, nofun⟩

theorem answers_error (e : ε) : Answers (.error e : Except ε α) False fun e' => e' = e where
  ok_iff := ⟨nofun, nofun⟩
  error_iff _ := ⟨fun h => (Except.error.inj h).symm, fun h => congrArg _ h.symm⟩

namespace Answers

variable {x : Except ε α} {good good' : Prop} {bad bad' : ε → Prop}

theorem congr (h : Answers x good bad) (hgood : good ↔ good') (hbad : ∀ e, bad e ↔ bad' e) :
    Answers x good' bad' where
  ok_iff := h.ok_iff.trans hgood
  error_iff e := (h.error_iff e).trans (hbad e)

theorem map {f : α → β} (h : Answers x good bad) : Answers (f <$> x) good bad := by
  cases x with
  | error e => exact ⟨⟨nofun, fun hg => nomatch h.ok_iff.2 hg⟩, fun e' => by
      rw [← h.error_iff]
      exact ⟨fun he => congrArg _ (Except.error.inj he), fun he => congrArg _ (Except.error.inj he)⟩⟩
  | ok a => exact ⟨⟨fun _ => h.ok_iff.1 ⟨a, rfl⟩, fun _ => ⟨f a, rfl⟩⟩,
      fun e => ⟨nofun, fun he => nomatch (h.error_iff e).2 he⟩⟩

theorem bind {f : α → Except ε β} (hx : Answers x good bad) (hf : ∀ a, Answers (f a) good' bad') :
    Answers (x >>= f) (good ∧ good') fun e => bad e ∨ good ∧ bad' e := by
  cases x with
  | error e =>
    have hbad : ¬good := fun hg => nomatch hx.ok_iff.2 hg
    refine ⟨⟨nofun, fun hg => absurd hg.1 hbad⟩, fun e' => ?_⟩
    rw [← hx.error_iff]
    constructor
    · intro h
      exact .inl (congrArg _ (Except.error.inj h))
    · rintro (h | ⟨hg, _⟩)
      · exact congrArg _ (Except.error.inj h)
      · exact absurd hg hbad
  | ok a =>
    have hgood : good := hx.ok_iff.1 ⟨a, rfl⟩
    have hnot : ∀ e, ¬bad e := fun e he => nomatch (hx.error_iff e).2 he
    exact (hf a).congr (by simp [hgood]) (by simp [hgood, hnot])

end Answers

def First (good : α → Prop) (bad : α → ε → Prop) (xs : List α) (e : ε) : Prop :=
  ∃ before x after, xs = before ++ x :: after ∧ (∀ y ∈ before, good y) ∧ bad x e

variable {good : α → Prop} {bad : α → ε → Prop} {x : α} {xs : List α} {e : ε}

theorem not_first_nil : ¬First good bad [] e := by
  rintro ⟨before, x, after, h, _⟩
  exact absurd h.symm (by simp)

theorem first_cons : First good bad (x :: xs) e ↔ bad x e ∨ good x ∧ First good bad xs e := by
  constructor
  · rintro ⟨before, y, after, h, hbefore, hy⟩
    cases before with
    | nil =>
      obtain ⟨rfl, rfl⟩ := List.cons.inj h
      exact .inl hy
    | cons z before =>
      obtain ⟨rfl, rfl⟩ := List.cons.inj h
      obtain ⟨hx, hbefore⟩ := List.forall_mem_cons.1 hbefore
      exact .inr ⟨hx, before, y, after, rfl, hbefore, hy⟩
  · rintro (hx | ⟨hx, before, y, after, rfl, hbefore, hy⟩)
    · exact ⟨[], x, xs, rfl, by simp, hx⟩
    · exact ⟨x :: before, y, after, rfl, List.forall_mem_cons.2 ⟨hx, hbefore⟩, hy⟩

theorem first_singleton : First good bad [x] e ↔ bad x e := by
  rw [first_cons]
  exact or_iff_left fun h => not_first_nil h.2

theorem answers_nil (a : β) :
    Answers (.ok a : Except ε β) (∀ y ∈ ([] : List α), good y) (First good bad []) :=
  (answers_ok a).congr (by simp) fun _ => ⟨False.elim, not_first_nil⟩

theorem Answers.cons {γ : Type} {y : Except ε β} {f : β → Except ε γ}
    (hx : Answers y (good x) (bad x))
    (hxs : ∀ b, Answers (f b) (∀ z ∈ xs, good z) (First good bad xs)) :
    Answers (y >>= f) (∀ z ∈ x :: xs, good z) (First good bad (x :: xs)) :=
  (hx.bind hxs).congr List.forall_mem_cons.symm fun _ => first_cons.symm

theorem answers_mapM {γ : Type} {f : γ → Except ε β} {ys : List γ} (k : γ → α)
    (h : ∀ y ∈ ys, Answers (f y) (good (k y)) (bad (k y))) :
    Answers (ys.mapM f) (∀ x ∈ ys.map k, good x) (First good bad (ys.map k)) := by
  induction ys with
  | nil => exact answers_nil []
  | cons y ys ih =>
    obtain ⟨hy, hys⟩ := List.forall_mem_cons.1 h
    rw [List.mapM_cons]
    exact hy.cons fun b => (ih hys).map

end Answers

namespace Estree

inductive Demand where
  /-- Under the key there is a node. -/
  | child (key : String)
  /-- Under the key there may be a node. -/
  | optional (key : String)
  /-- Under the key there is a list, of which the nodes count, or nothing. -/
  | list (key : String)
  /-- Under the key there may be a node, and in it, under `typeAnnotation`, the one that counts. -/
  | typeExpr (key : String)
  /-- A field of which nothing is known: a node, or a list of which the nodes count. -/
  | field (key : String) (v : Value)

/-- What an object of a known type asks for, in the order in which it is read. -/
def typedDemands : (type : String) → Option (List Demand)
  | "Identifier" => some [.typeExpr "typeAnnotation", .list "decorators"]
  | "Literal" => some []
  | "AssignmentPattern" => some [.child "left", .child "right", .list "decorators"]
  | "RestElement" => some [.child "argument", .typeExpr "typeAnnotation", .list "decorators"]
  | "ObjectPattern" => some [.list "properties", .typeExpr "typeAnnotation", .list "decorators"]
  | "ArrayPattern" => some [.list "elements", .typeExpr "typeAnnotation", .list "decorators"]
  | "TSParameterProperty" => some [.child "parameter", .list "decorators"]
  | "FunctionDeclaration" | "FunctionExpression" | "ArrowFunctionExpression" =>
    some [.list "params", .optional "id", .optional "body", .typeExpr "returnType"]
  | "CallExpression" => some [.child "callee", .list "arguments"]
  | "MemberExpression" => some [.child "object", .child "property"]
  | "Property" | "MethodDefinition" => some [.child "key", .child "value"]
  | "AssignmentExpression" => some [.child "left", .child "right"]
  | "VariableDeclarator" => some [.child "id", .optional "init"]
  | _ => none

def fieldDemands (fields : List (String × Value)) : List Demand :=
  fields.map fun (key, v) => .field key v

def demands (fields : List (String × Value)) : List Demand :=
  match get fields "type" with
  | .str type => (typedDemands type).getD (fieldDemands fields)
  | _ => fieldDemands fields

/-- Can a value be gone through as a list, or is it false? -/
def isListing : Value → Bool
  | .arr _ | .str _ | .obj _ => true
  | v => !v.truthy

def nodesIn : Value → List Value
  | .arr items => items.filter isNode
  | v => [v].filter isNode

/-- The type inside an annotation, or the annotation when there is none inside. -/
def unwrapped : Value → Value
  | .obj wrapper =>
    if isNode (get wrapper "typeAnnotation") then get wrapper "typeAnnotation" else .obj wrapper
  | v => v

namespace Demand

variable (path : Path) (fields : List (String × Value))

def IsMet : Demand → Prop
  | child key => isNode (get fields key)
  | list key => isListing (get fields key)
  | _ => True

def nodes : Demand → List Value
  | child key | optional key => [get fields key].filter isNode
  | list key =>
    match get fields key with
    | .arr items => items.filter isNode
    | _ => []
  | typeExpr key => ([get fields key].filter isNode).map unwrapped
  | field key v => if skippedKeys.contains key then [] else nodesIn v

/-- How an object is refused whose demand is not met. -/
inductive Breaks : Demand → Error → Prop
  | missing {key : String} : isNode (get fields key) = false →
      Breaks (child key) (fail path ((get fields "type").text ++ "." ++ key ++ " is missing"))
  | notIterable {key : String} : isListing (get fields key) = false →
      Breaks (list key) (.fault (.notIterable (get fields key).typeName))

end Demand

/-- The range is a list of two values that stand for offsets. -/
def HasRange (fields : List (String × Value)) : Prop :=
  ∃ a b i j, get fields "range" = .arr [a, b] ∧ a.toOffset = .ok i ∧ b.toOffset = .ok j

def HasType (fields : List (String × Value)) : Prop :=
  (∀ items, get fields "type" ≠ .arr items) ∧ ∀ entries, get fields "type" ≠ .obj entries

/-- The object has a type and a range, and its demands are met by nodes that are acceptable too. -/
inductive Acceptable : Value → Prop
  | object {fields : List (String × Value)} : HasRange fields → HasType fields →
      (∀ d ∈ demands fields, d.IsMet fields) →
      (∀ d ∈ demands fields, ∀ v ∈ d.nodes fields, Acceptable v) → Acceptable (.obj fields)

/-- How an object is refused whose range is not a pair of offsets. -/
inductive RangeFails (path : Path) (fields : List (String × Value)) : Error → Prop
  | missing : (∀ a b, get fields "range" ≠ .arr [a, b]) → RangeFails path fields
      (fail path ((get fields "type").text ++ " node has no range (parse with range: true)"))
  | start {a b : Value} {f : Fault} : get fields "range" = .arr [a, b] → a.toOffset = .error f →
      RangeFails path fields (.fault f)
  | stop {a b : Value} {i : Int} {f : Fault} : get fields "range" = .arr [a, b] →
      a.toOffset = .ok i → b.toOffset = .error f → RangeFails path fields (.fault f)

/-- How an object is refused whose type cannot be looked up. -/
inductive TypeFails (fields : List (String × Value)) : Error → Prop
  | list {items : List Value} : get fields "type" = .arr items →
      TypeFails fields (.fault (.unhashable "list"))
  | object {entries : List (String × Value)} : get fields "type" = .obj entries →
      TypeFails fields (.fault (.unhashable "dict"))

/-- The first thing that is wrong with an object: its range, its type, a demand that is not met, or
what is wrong with a node it leads to. -/
inductive Violates (path : Path) : Value → Error → Prop
  | range {fields : List (String × Value)} {e : Error} : RangeFails path fields e →
      Violates path (.obj fields) e
  | type {fields : List (String × Value)} {e : Error} : HasRange fields → TypeFails fields e →
      Violates path (.obj fields) e
  | demand {fields : List (String × Value)} {before after : List Demand} {d : Demand} {e : Error} :
      HasRange fields → HasType fields → demands fields = before ++ d :: after →
      (∀ x ∈ before, x.IsMet fields ∧ ∀ v ∈ x.nodes fields, Acceptable v) →
      d.Breaks path fields e → Violates path (.obj fields) e
  | node {fields : List (String × Value)} {before after : List Demand} {d : Demand}
      {vs ws : List Value} {v : Value} {e : Error} :
      HasRange fields → HasType fields → demands fields = before ++ d :: after →
      (∀ x ∈ before, x.IsMet fields ∧ ∀ v ∈ x.nodes fields, Acceptable v) → d.IsMet fields →
      d.nodes fields = vs ++ v :: ws → (∀ u ∈ vs, Acceptable u) → Violates path v e →
      Violates path (.obj fields) e

section Depth

theorem depth_le_of_mem_items {items : List Value} {v : Value} (h : v ∈ items) :
    v.depth ≤ Value.depthItems items := by
  induction items with
  | nil => cases h
  | cons w items ih =>
    rw [Value.depthItems]
    rcases List.mem_cons.1 h with rfl | h
    · exact Nat.le_max_left _ _
    · exact Nat.le_trans (ih h) (Nat.le_max_right _ _)

theorem depth_le_of_mem_fields {fields : List (String × Value)} {key : String} {v : Value}
    (h : (key, v) ∈ fields) : v.depth ≤ Value.depthFields fields := by
  induction fields with
  | nil => cases h
  | cons field fields ih =>
    obtain ⟨k, w⟩ := field
    rw [Value.depthFields]
    rcases List.mem_cons.1 h with heq | h
    · obtain ⟨rfl, rfl⟩ := Prod.mk.inj heq
      exact Nat.le_max_left _ _
    · exact Nat.le_trans (ih h) (Nat.le_max_right _ _)

variable {fields : List (String × Value)} {key : String} {v : Value}

theorem mem_fields_of_get_ne (h : get fields key ≠ .null) : (key, get fields key) ∈ fields := by
  unfold get Value.field? at *
  cases hlookup : fields.lookup key with
  | none =>
    rw [hlookup] at h
    exact absurd rfl h
  | some w =>
    obtain ⟨before, after, rfl, _⟩ := List.lookup_eq_some_iff.1 hlookup
    simp

theorem ne_null_of_isNode (h : isNode v) : v ≠ .null := by
  rintro rfl
  cases h

theorem depth_get_le (h : isNode (get fields key)) :
    (get fields key).depth ≤ Value.depthFields fields :=
  depth_le_of_mem_fields (mem_fields_of_get_ne (ne_null_of_isNode h))

theorem depth_le_of_mem_arr {items : List Value} (hfields : (key, .arr items) ∈ fields)
    (hv : v ∈ items) : v.depth ≤ Value.depthFields fields := by
  have hitems := depth_le_of_mem_fields hfields
  have hv := depth_le_of_mem_items hv
  rw [Value.depth] at hitems
  omega

theorem isNode_unwrapped (h : isNode v) : isNode (unwrapped v) := by
  unfold unwrapped
  split
  · split
    · assumption
    · exact h
  · exact h

theorem depth_unwrapped_le (v : Value) : (unwrapped v).depth ≤ v.depth := by
  unfold unwrapped
  split
  · next wrapper =>
    split
    · next hinner =>
      have := depth_get_le hinner
      rw [Value.depth]
      omega
    · exact Nat.le_refl _
  · exact Nat.le_refl _

end Depth

section Readers

variable {path : Path} {fields : List (String × Value)} {convert : Value → Except Error Node}
  {good : Value → Prop} {bad : Value → Error → Prop}

def Demand.Good (fields : List (String × Value)) (good : Value → Prop) (d : Demand) : Prop :=
  d.IsMet fields ∧ ∀ v ∈ d.nodes fields, good v

/-- The demand is not met, or the first of its nodes that is not good is bad. -/
def Demand.Bad (path : Path) (fields : List (String × Value)) (good : Value → Prop)
    (bad : Value → Error → Prop) (d : Demand) (e : Error) : Prop :=
  d.Breaks path fields e ∨ d.IsMet fields ∧ First good bad (d.nodes fields) e

abbrev Reads (path : Path) (fields : List (String × Value)) (good : Value → Prop)
    (bad : Value → Error → Prop) (d : Demand) {α : Type} (x : Except Error α) : Prop :=
  Answers x (d.Good fields good) (d.Bad path fields good bad)

theorem reads_of_isMet {d : Demand} {α : Type} {x : Except Error α} (hd : d.IsMet fields)
    (hx : Answers x (∀ v ∈ d.nodes fields, good v) (First good bad (d.nodes fields))) :
    Reads path fields good bad d x := by
  refine hx.congr (and_iff_right hd).symm fun e => ?_
  unfold Demand.Bad
  rw [and_iff_right hd, or_iff_right]
  intro hbreaks
  cases hbreaks with
  | missing h | notIterable h => exact absurd hd (by simp [Demand.IsMet, h])

theorem reads_of_breaks {d : Demand} {α : Type} {e : Error} (hd : d.Breaks path fields e)
    (hunique : ∀ e', d.Breaks path fields e' → e' = e) :
    Reads path fields good bad d (.error e : Except Error α) := by
  have hmet : ¬d.IsMet fields := by
    cases hd with
    | missing h | notIterable h => simp [Demand.IsMet, h]
  refine (answers_error e).congr ⟨False.elim, fun h => absurd h.1 hmet⟩ fun e' => ?_
  constructor
  · rintro rfl
    exact .inl hd
  · rintro (h | ⟨h, _⟩)
    · exact hunique e' h
    · exact absurd h hmet

theorem answers_singleton {v : Value} {x : Except Error Node} (h : Answers x (good v) (bad v)) :
    Answers x (∀ u ∈ [v], good u) (First good bad [v]) :=
  h.congr (by simp) fun _ => first_singleton.symm

variable (hc : ∀ v, isNode v → v.depth ≤ Value.depthFields fields →
  Answers (convert v) (good v) (bad v))
include hc

theorem answers_nodesOf {items : List Value}
    (h : ∀ v ∈ items, v.depth ≤ Value.depthFields fields) :
    Answers (nodesOf convert items) (∀ v ∈ items.filter isNode, good v)
      (First good bad (items.filter isNode)) := by
  have hall : Answers (nodesOf convert items) (∀ v ∈ (items.filter isNode).map id, good v)
      (First good bad ((items.filter isNode).map id)) := answers_mapM id fun v hv =>
    hc v (List.mem_filter.1 hv).2 (h v (List.mem_filter.1 hv).1)
  rwa [List.map_id] at hall

theorem reads_child (key : String) :
    Reads path fields good bad (.child key) (child path fields convert key) := by
  unfold child
  dsimp only
  split
  · next h =>
    refine reads_of_isMet h ?_
    simp only [Demand.nodes, List.filter_cons_of_pos h, List.filter_nil]
    exact answers_singleton (hc _ h (depth_get_le h))
  · next h =>
    refine reads_of_breaks (.missing (Bool.eq_false_iff.2 h)) ?_
    rintro e ⟨⟩
    rfl

theorem reads_child? (key : String) :
    Reads path fields good bad (.optional key) (child? fields convert key) := by
  refine reads_of_isMet trivial ?_
  unfold child?
  dsimp only
  split
  · next h =>
    simp only [Demand.nodes, List.filter_cons_of_pos h, List.filter_nil]
    exact (answers_singleton (hc _ h (depth_get_le h))).map
  · next h =>
    simp only [Demand.nodes, List.filter_cons_of_neg h, List.filter_nil]
    exact answers_nil _

theorem reads_children (key : String) :
    Reads path fields good bad (.list key) (children fields convert key) := by
  unfold children
  split
  · next items hitems =>
    refine reads_of_isMet (by simp [Demand.IsMet, hitems, isListing]) ?_
    simp only [Demand.nodes, hitems]
    have hmem := mem_fields_of_get_ne (show get fields key ≠ .null by simp [hitems])
    rw [hitems] at hmem
    exact answers_nodesOf hc fun v hv => depth_le_of_mem_arr hmem hv
  · next s hs =>
    refine reads_of_isMet (by simp [Demand.IsMet, hs, isListing]) ?_
    simp only [Demand.nodes, hs]
    exact answers_nil _
  · next entries hentries =>
    refine reads_of_isMet (by simp [Demand.IsMet, hentries, isListing]) ?_
    simp only [Demand.nodes, hentries]
    exact answers_nil _
  · next hnull =>
    refine reads_of_isMet (by simp [Demand.IsMet, hnull, isListing, Value.truthy]) ?_
    simp only [Demand.nodes, hnull]
    exact answers_nil _
  · next hitems hs hentries hnull =>
    have hlisting : isListing (get fields key) = !(get fields key).truthy := by
      unfold isListing
      split <;> simp_all
    split
    · next htruthy =>
      refine reads_of_breaks (.notIterable (by rw [hlisting, htruthy]; rfl)) ?_
      rintro e ⟨⟩
      rfl
    · next htruthy =>
      refine reads_of_isMet (by simp [Demand.IsMet, hlisting, htruthy]) ?_
      simp only [Demand.nodes]
      exact answers_nil _

theorem reads_typeExpr? (key : String) :
    Reads path fields good bad (.typeExpr key) (typeExpr? fields convert key) := by
  refine reads_of_isMet trivial ?_
  unfold typeExpr?
  split
  · next wrapper hwrapper =>
    rw [← hwrapper]
    split
    · next h =>
      have hinner : (if isNode (get wrapper "typeAnnotation") then get wrapper "typeAnnotation"
          else get fields key) = unwrapped (get fields key) := by rw [hwrapper, unwrapped]
      simp only [Demand.nodes, List.filter_cons_of_pos h, List.filter_nil, List.map_cons,
        List.map_nil, hinner]
      have hdepth := Nat.le_trans (depth_unwrapped_le _) (depth_get_le h)
      exact (answers_singleton (hc _ (isNode_unwrapped h) hdepth)).map
    · next h =>
      simp only [Demand.nodes, List.filter_cons_of_neg h, List.filter_nil, List.map_nil]
      exact answers_nil _
  · next h =>
    have hnot : ¬isNode (get fields key) := by
      unfold isNode
      split
      · next entries heq => exact absurd heq (h entries)
      · exact Bool.false_ne_true
    simp only [Demand.nodes, List.filter_cons_of_neg hnot, List.filter_nil, List.map_nil]
    exact answers_nil _

theorem reads_under {key : String} {v : Value} (hv : (key, v) ∈ fields) :
    Reads path fields good bad (.field key v) (under convert key v) := by
  refine reads_of_isMet trivial ?_
  unfold under
  simp only [Demand.nodes]
  split
  · exact answers_nil _
  · split
    · exact answers_nodesOf hc fun u hu => depth_le_of_mem_arr hv hu
    · next hitems =>
      have hnodes : nodesIn v = [v].filter isNode := by
        unfold nodesIn
        split
        · next items => exact absurd rfl (hitems items)
        · rfl
      rw [hnodes]
      split
      · next h =>
        simp only [List.filter_cons_of_pos h, List.filter_nil]
        exact (answers_singleton (hc v h (depth_le_of_mem_fields hv))).map
      · next h =>
        simp only [List.filter_cons_of_neg h, List.filter_nil]
        exact answers_nil _

theorem answers_allChildren :
    Answers (allChildren fields convert)
      (∀ d ∈ fieldDemands fields, d.Good fields good)
      (First (Demand.Good fields good) (Demand.Bad path fields good bad) (fieldDemands fields)) :=
  (answers_mapM _ fun _ hfield => reads_under hc hfield).map

theorem answers_named (s : Span) (type : String) :
    Answers (named path fields convert s type)
      (∀ d ∈ (typedDemands type).getD (fieldDemands fields), d.Good fields good)
      (First (Demand.Good fields good) (Demand.Bad path fields good bad)
        ((typedDemands type).getD (fieldDemands fields))) := by
  have hchild : ∀ key, Reads path fields good bad (.child key) (child path fields convert key) :=
    reads_child hc
  have hchild? : ∀ key, Reads path fields good bad (.optional key) (child? fields convert key) :=
    reads_child? hc
  have hlist : ∀ key, Reads path fields good bad (.list key) (children fields convert key) :=
    reads_children hc
  have htype : ∀ key, Reads path fields good bad (.typeExpr key) (typeExpr? fields convert key) :=
    reads_typeExpr? hc
  -- three types are read as functions
  have hfunction : ∀ kind, Answers (function fields convert s kind)
      (∀ d ∈ [.list "params", .optional "id", .optional "body", .typeExpr "returnType"],
        Demand.Good fields good d) (First (Demand.Good fields good)
        (Demand.Bad path fields good bad)
        [.list "params", .optional "id", .optional "body", .typeExpr "returnType"]) := fun kind =>
    (hlist _).cons fun _ => (hchild? _).cons fun _ => (hchild? _).cons fun _ =>
      (htype _).cons fun _ => answers_nil _
  unfold named
  split
  · exact (htype _).cons fun _ => (hlist _).cons fun _ => answers_nil _
  · exact answers_nil _
  · exact (hchild _).cons fun _ => (hchild _).cons fun _ => (hlist _).cons fun _ => answers_nil _
  · exact (hchild _).cons fun _ => (htype _).cons fun _ => (hlist _).cons fun _ => answers_nil _
  · exact (hlist _).cons fun _ => (htype _).cons fun _ => (hlist _).cons fun _ => answers_nil _
  · exact (hlist _).cons fun _ => (htype _).cons fun _ => (hlist _).cons fun _ => answers_nil _
  · exact (hchild _).cons fun _ => (hlist _).cons fun _ => answers_nil _
  · exact hfunction _
  · exact hfunction _
  · exact hfunction _
  · exact (hchild _).cons fun _ => (hlist _).cons fun _ => answers_nil _
  · exact (hchild _).cons fun _ => (hchild _).cons fun _ => answers_nil _
  · exact (hchild _).cons fun _ => (hchild _).cons fun _ => answers_nil _
  · exact (hchild _).cons fun _ => (hchild _).cons fun _ => answers_nil _
  · exact (hchild _).cons fun _ => (hchild _).cons fun _ => answers_nil _
  · exact (hchild _).cons fun _ => (hchild? _).cons fun _ => answers_nil _
  · -- no known type is left
    have hnone : typedDemands type = none := by
      unfold typedDemands
      split <;> simp_all
    rw [hnone, Option.getD_none]
    exact (answers_allChildren hc).map

omit hc

theorem answers_toOffset (v : Value) :
    Answers (v.toOffset.mapError Error.fault) (∃ i, v.toOffset = .ok i)
      fun e => ∃ f, v.toOffset = .error f ∧ e = .fault f := by
  cases h : v.toOffset with
  | error f => exact (answers_error _).congr (by simp) (by simp)
  | ok i => exact (answers_ok _).congr (by simp) (by simp)

theorem answers_span : Answers (span path fields) (HasRange fields) (RangeFails path fields) := by
  unfold span
  split
  · next a b hrange =>
    refine ((answers_toOffset a).bind fun i => (answers_toOffset b).map).congr ?_ fun e => ?_
    · constructor
      · rintro ⟨⟨i, hi⟩, j, hj⟩
        exact ⟨a, b, i, j, hrange, hi, hj⟩
      · rintro ⟨a', b', i, j, hrange', hi, hj⟩
        cases hrange.symm.trans hrange'
        exact ⟨⟨i, hi⟩, j, hj⟩
    · constructor
      · rintro (⟨f, hf, rfl⟩ | ⟨⟨i, hi⟩, f, hf, rfl⟩)
        · exact .start hrange hf
        · exact .stop hrange hi hf
      · intro h
        cases h with
        | missing h => exact absurd hrange (h a b)
        | start hrange' hf =>
          cases hrange.symm.trans hrange'
          exact .inl ⟨_, hf, rfl⟩
        | stop hrange' hi hf =>
          cases hrange.symm.trans hrange'
          exact .inr ⟨⟨_, hi⟩, _, hf, rfl⟩
  · next hrange =>
    refine (answers_error _).congr ⟨False.elim, ?_⟩ fun e => ?_
    · rintro ⟨a, b, i, j, hrange', _⟩
      exact hrange a b hrange'
    · constructor
      · rintro rfl
        exact .missing hrange
      · intro h
        cases h with
        | missing => rfl
        | start hrange' | stop hrange' => exact absurd hrange' (hrange _ _)

/-- What an object is asked for when its range is fine: its type, and then its demands. -/
theorem answers_typed (hc : ∀ v, isNode v → v.depth ≤ Value.depthFields fields →
      Answers (convert v) (good v) (bad v)) (s : Span) :
    Answers (match get fields "type" with
      | .str type => named path fields convert s type
      | .arr _ => .error (.fault (.unhashable "list"))
      | .obj _ => .error (.fault (.unhashable "dict"))
      | type => do .ok (.other s type (← allChildren fields convert)))
      (HasType fields ∧ ∀ d ∈ demands fields, d.Good fields good)
      fun e => TypeFails fields e ∨ HasType fields ∧ First (Demand.Good fields good)
        (Demand.Bad path fields good bad) (demands fields) e := by
  have hnone : ∀ e, TypeFails fields e → ¬HasType fields := by
    rintro e (h | h) ⟨harr, hobj⟩
    · exact harr _ h
    · exact hobj _ h
  -- with a type that can be looked up only the demands count
  have hlooked : HasType fields → ∀ {x : Except Error Node} {ds : List Demand},
      Answers x (∀ d ∈ ds, d.Good fields good)
        (First (Demand.Good fields good) (Demand.Bad path fields good bad) ds) →
      Answers x (HasType fields ∧ ∀ d ∈ ds, d.Good fields good) fun e => TypeFails fields e ∨
        HasType fields ∧ First (Demand.Good fields good) (Demand.Bad path fields good bad) ds e :=
    fun htype x ds hx => hx.congr (and_iff_right htype).symm fun e => by
      rw [and_iff_right htype, or_iff_right fun h => hnone e h htype]
  split
  · next type htype =>
    have hdemands : demands fields = (typedDemands type).getD (fieldDemands fields) := by
      rw [demands, htype]
    rw [hdemands]
    exact hlooked ⟨by simp [htype], by simp [htype]⟩ (answers_named hc s type)
  · next items htype =>
    refine (answers_error _).congr ⟨False.elim, fun h => h.1.1 items htype⟩ fun e => ⟨?_, ?_⟩
    · rintro rfl
      exact .inl (.list htype)
    · rintro ((_ | hobj) | ⟨h, _⟩)
      · rfl
      · cases htype.symm.trans hobj
      · exact absurd htype (h.1 items)
  · next entries htype =>
    refine (answers_error _).congr ⟨False.elim, fun h => h.1.2 entries htype⟩ fun e => ⟨?_, ?_⟩
    · rintro rfl
      exact .inl (.object htype)
    · rintro ((harr | _) | ⟨h, _⟩)
      · cases htype.symm.trans harr
      · rfl
      · exact absurd htype (h.2 entries)
  · next hstr harr hobj =>
    have hdemands : demands fields = fieldDemands fields := by
      unfold demands
      split
      · next type htype => exact absurd htype (hstr type)
      · rfl
    rw [hdemands]
    exact hlooked ⟨harr, hobj⟩ (answers_allChildren hc).map

end Readers

theorem acceptable_iff {fields : List (String × Value)} :
    Acceptable (.obj fields) ↔
      HasRange fields ∧ HasType fields ∧ ∀ d ∈ demands fields, d.Good fields Acceptable := by
  constructor
  · rintro ⟨hrange, htype, hmet, hnodes⟩
    exact ⟨hrange, htype, fun d hd => ⟨hmet d hd, hnodes d hd⟩⟩
  · rintro ⟨hrange, htype, hgood⟩
    exact .object hrange htype (fun d hd => (hgood d hd).1) fun d hd => (hgood d hd).2

theorem violates_iff {path : Path} {fields : List (String × Value)} {e : Error} :
    Violates path (.obj fields) e ↔ RangeFails path fields e ∨ HasRange fields ∧
      (TypeFails fields e ∨ HasType fields ∧ First (Demand.Good fields Acceptable)
        (Demand.Bad path fields Acceptable (Violates path)) (demands fields) e) := by
  constructor
  · intro h
    cases h with
    | range h => exact .inl h
    | type hrange h => exact .inr ⟨hrange, .inl h⟩
    | demand hrange htype hsplit hbefore hbreaks =>
      exact .inr ⟨hrange, .inr ⟨htype, _, _, _, hsplit, hbefore, .inl hbreaks⟩⟩
    | node hrange htype hsplit hbefore hmet hnodes hvs hv =>
      exact .inr ⟨hrange, .inr ⟨htype, _, _, _, hsplit, hbefore,
        .inr ⟨hmet, _, _, _, hnodes, hvs, hv⟩⟩⟩
  · rintro (h | ⟨hrange, h | ⟨htype, before, d, after, hsplit, hbefore, hd⟩⟩)
    · exact .range h
    · exact .type hrange h
    · rcases hd with hbreaks | ⟨hmet, vs, v, ws, hnodes, hvs, hv⟩
      · exact .demand hrange htype hsplit hbefore hbreaks
      · exact .node hrange htype hsplit hbefore hmet hnodes hvs hv

/-- With as many levels as a node is deep, exactly the acceptable nodes are converted, and any other
is refused for the first thing that is wrong with it. -/
theorem answers_convert (path : Path) {levels : Nat} {v : Value} (hnode : isNode v)
    (hdepth : v.depth ≤ levels) :
    Answers (convert path levels v) (Acceptable v) (Violates path v) := by
  induction levels generalizing v with
  | zero =>
    cases v <;> cases hdepth
  | succ levels ih =>
    unfold isNode at hnode
    split at hnode
    · next fields =>
      have hbelow : ∀ u, isNode u → u.depth ≤ Value.depthFields fields →
          Answers (convert path levels u) (Acceptable u) (Violates path u) := by
        intro u hu hle
        rw [Value.depth] at hdepth
        exact ih hu (by omega)
      refine (answers_span.bind fun s => answers_typed hbelow s).congr acceptable_iff.symm
        fun e => violates_iff.symm
    · cases hnode

/-- The value that a document stands for: what its text reads as in JSON, or itself. -/
def Denotes (document v : Value) : Prop :=
  match document with
  | .str s => Json.parse s = .ok v
  | _ => v = document

theorem read_eq_ok_iff {complaint : String → String} {path : Path} {document v : Value} :
    read complaint path document = .ok v ↔ Denotes document v := by
  cases document with
  | str s =>
    unfold read Denotes
    dsimp only
    cases Json.parse s with
    | error flaw => cases flaw <;> exact ⟨nofun, nofun⟩
    | ok w => exact ⟨fun h => congrArg _ (Except.ok.inj h), fun h => congrArg _ (Except.ok.inj h)⟩
  | _ => exact ⟨fun h => (Except.ok.inj h).symm, fun h => congrArg Except.ok h.symm⟩

theorem answers_ofValue (path : Path) (v : Value) :
    Answers (ofValue path v) (isNode v ∧ Acceptable v) fun e =>
      isNode v = false ∧ e = fail path rootMessage ∨ isNode v ∧ Violates path v e := by
  unfold ofValue
  split
  · next hnode =>
    exact (answers_convert _ hnode (Nat.le_refl _)).congr (by simp [hnode]) (by simp [hnode])
  · next hnode => exact (answers_error _).congr (by simp [hnode]) (by simp [hnode])

/-- A document has a tree exactly if it stands for an acceptable node. Any other is refused: it is a
text that cannot be read, or stands for no node, or for a node with something wrong, of which the
first counts. -/
theorem tree_accepts (complaint : String → String) (document : Value) (source path : String) :
    ((∃ t, tree complaint document source path = .ok t) ↔
      ∃ v, Denotes document v ∧ isNode v ∧ Acceptable v) ∧
    ∀ e, tree complaint document source path = .error e ↔
      read complaint (.ofString path) document = .error e ∨ ∃ v, Denotes document v ∧
        (isNode v = false ∧ e = fail (.ofString path) rootMessage ∨
          isNode v ∧ Violates (.ofString path) v e) := by
  have htree : tree complaint document source path =
      read complaint (.ofString path) document >>= fun v =>
        (Tree.build · (SourceText.ofString source)) <$> ofValue (.ofString path) v := rfl
  have hread : ∀ v, Denotes document v ↔ read complaint (.ofString path) document = .ok v :=
    fun _ => read_eq_ok_iff.symm
  simp only [hread, htree]
  cases read complaint (.ofString path) document with
  | error e =>
    refine ⟨⟨nofun, nofun⟩, fun e' => ⟨fun h => .inl (congrArg _ (Except.error.inj h)), ?_⟩⟩
    intro h
    exact congrArg _ (Except.error.inj (h.resolve_right nofun))
  | ok v =>
    have h := (answers_ofValue (.ofString path) v).map
      (f := (Tree.build · (SourceText.ofString source)))
    refine ⟨h.ok_iff.trans ?_, fun e => (h.error_iff e).trans ?_⟩
    · simp
    · simp

end Estree

end ArityLint
