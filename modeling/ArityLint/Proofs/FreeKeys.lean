import ArityLint.Proofs.Fields
import ArityLint.Proofs.KeyOrder

namespace ArityLint

theorem Except.mapM_eq_of_forall₂ {ε α β γ : Type} {f : α → Except ε γ} {g : β → Except ε γ}
    {xs : List α} {ys : List β} (h : List.Forall₂ (fun x y => f x = g y) xs ys) :
    xs.mapM f = ys.mapM g := by
  induction h with
  | nil => rfl
  | cons hxy _ ih => rw [List.mapM_cons, List.mapM_cons, hxy, ih]

theorem Except.flatten_mapM_filter {ε α β : Type} {f : α → Except ε (List β)} {p : α → Bool}
    {xs : List α} (h : ∀ x ∈ xs, p x = false → f x = .ok []) :
    List.flatten <$> (xs.filter p).mapM f = List.flatten <$> xs.mapM f := by
  induction xs with
  | nil => rfl
  | cons x xs ih =>
    obtain ⟨hx, hxs⟩ := List.forall_mem_cons.1 h
    have hcons : ∀ (r : Except ε (List β)) (rs : Except ε (List (List β))),
        (List.flatten <$> do let a ← r; let as ← rs; pure (a :: as)) =
          (do let a ← r; (a ++ ·) <$> (List.flatten <$> rs)) := by
      rintro (_ | _) (_ | _) <;> rfl
    rw [List.mapM_cons, hcons, ← ih hxs]
    cases hp : p x with
    | true => rw [List.filter_cons_of_pos hp, List.mapM_cons, hcons]
    | false =>
      rw [List.filter_cons_of_neg (Bool.eq_false_iff.1 hp), hx hp]
      cases (xs.filter p).mapM f <;> rfl

namespace Estree

/-- Keys under which an object that is visited may hold anything. -/
def freeKeys : List String := ["parent", "loc", "tokens", "comments"]

def boundFields (fields : List (String × Value)) : List (String × Value) :=
  fields.filter fun f => !freeKeys.contains f.1

def Demand.key : Demand → String
  | child key | optional key | list key | typeExpr key | field key _ => key

/-- May there be objects to visit under a key of an object of a type? An annotation is looked into
whatever its type is. -/
def leadsOn (type : Value) (key : String) : Bool :=
  key == "typeAnnotation" || match type with
    | .str type => (typedDemands type).elim (key != "type" && key != "range")
        fun demands => demands.any (·.key == key)
    | _ => key != "type" && key != "range"

/-- The values differ only under the free keys of objects that are visited. -/
inductive SameRead : Value → Value → Prop
  | refl (v : Value) : SameRead v v
  | arr {vs ws : List Value} : List.Forall₂ SameRead vs ws → SameRead (.arr vs) (.arr ws)
  /-- Only what leads on to objects may differ further down. -/
  | obj {fs gs : List (String × Value)} : (boundFields fs).map (·.1) = (boundFields gs).map (·.1) →
      List.Forall₂ SameRead ((boundFields fs).map (·.2)) ((boundFields gs).map (·.2)) →
      (∀ key ∉ freeKeys, leadsOn (get fs "type") key = false →
        Value.field? fs key = Value.field? gs key) →
      SameRead (.obj fs) (.obj gs)

/-- What `SameRead` says of the fields of two objects. -/
structure SameReadFields (fs gs : List (String × Value)) : Prop where
  bound : List.Forall₂ (fun f g => f.1 = g.1 ∧ SameRead f.2 g.2) (boundFields fs) (boundFields gs)
  data : ∀ key ∉ freeKeys, leadsOn (get fs "type") key = false →
    Value.field? fs key = Value.field? gs key

section Fields

variable {fs gs : List (String × Value)} {v w : Value} {key : String}

theorem SameRead.fields (h : SameRead (.obj fs) (.obj gs)) : SameReadFields fs gs := by
  cases h with
  | refl => exact ⟨List.forall₂_same.2 fun f _ => ⟨rfl, .refl f.2⟩, fun _ _ _ => rfl⟩
  | obj hkeys hvalues hdata => exact ⟨Value.forall₂_fields hkeys hvalues, hdata⟩

theorem field?_boundFields (h : key ∉ freeKeys) :
    Value.field? (boundFields fs) key = Value.field? fs key := by
  have hkey : (!freeKeys.contains key) = true := by simpa using h
  rw [Value.field?, boundFields, lookup_filter_key fun k => !freeKeys.contains k, if_pos hkey]
  rfl

theorem ne_of_mem_typedDemands {type : String} {ds : List Demand} {d : Demand}
    (h : typedDemands type = some ds) (hd : d ∈ ds) : d.key ≠ "type" ∧ d.key ≠ "range" := by
  unfold typedDemands at h
  split at h <;> cases h <;> revert d <;> decide

theorem leadsOn_eq_false {type : Value} (h : key = "type" ∨ key = "range") :
    leadsOn type key = false := by
  have hother : (key != "type" && key != "range") = false := by
    rcases h with rfl | rfl <;> rfl
  have htypes : (key == "typeAnnotation") = false := by
    rcases h with rfl | rfl <;> rfl
  unfold leadsOn
  rw [htypes, Bool.false_or]
  split
  · next type =>
    cases hds : typedDemands type with
    | none => exact hother
    | some ds =>
      refine List.any_eq_false.2 fun d hd => ?_
      obtain ⟨htype, hrange⟩ := ne_of_mem_typedDemands hds hd
      rcases h with rfl | rfl
      · simpa using htype
      · simpa using hrange
  · exact hother

theorem SameRead.exists_obj (h : SameRead (.obj fs) w) : ∃ gs, w = .obj gs := by
  cases h <;> exact ⟨_, rfl⟩

theorem sameRead_of_boundFields (h : boundFields fs = boundFields gs) :
    SameRead (.obj fs) (.obj gs) := by
  refine .obj (by rw [h]) (by rw [h]; exact List.forall₂_same.2 fun v _ => .refl v) ?_
  intro key hkey _
  rw [← field?_boundFields hkey, h, field?_boundFields hkey]

namespace SameReadFields

variable (h : SameReadFields fs gs)
include h

theorem get_eq (hkey : key ∉ freeKeys) (hdata : leadsOn (get fs "type") key = false) :
    get fs key = get gs key := by
  rw [get, get, h.data key hkey hdata]

theorem type_eq : get fs "type" = get gs "type" :=
  h.get_eq (by decide) (leadsOn_eq_false (.inl rfl))

/-- Under each key that is not free there are values that are read alike, if there are any. -/
theorem sameRead_get (hkey : key ∉ freeKeys) : SameRead (get fs key) (get gs key) := by
  unfold get
  rw [← field?_boundFields hkey, ← @field?_boundFields gs key hkey]
  have hbound := h.bound
  clear h
  generalize boundFields fs = fs, boundFields gs = gs at hbound ⊢
  induction hbound with
  | nil => exact .refl _
  | @cons f g _ _ hfg _ ih =>
    obtain ⟨k, v⟩ := f
    obtain ⟨l, w⟩ := g
    obtain ⟨rfl, hvw⟩ : k = l ∧ SameRead v w := hfg
    simp only [Value.field?, List.lookup_cons] at ih ⊢
    cases key == k with
    | true => exact hvw
    | false => exact ih

end SameReadFields

theorem SameRead.isNode (h : SameRead v w) : isNode v = isNode w := by
  cases h with
  | refl => rfl
  | arr => rfl
  | obj hkeys hvalues hdata =>
    exact congrArg Option.isSome (hdata _ (by decide) (leadsOn_eq_false (.inl rfl)))

theorem SameRead.unwrapped (h : SameRead v w) : SameRead (unwrapped v) (unwrapped w) := by
  cases v with
  | obj fs =>
    obtain ⟨gs, rfl⟩ := h.exists_obj
    have hinner : SameRead (get fs "typeAnnotation") (get gs "typeAnnotation") :=
      h.fields.sameRead_get (by decide)
    unfold Estree.unwrapped
    dsimp only
    rw [hinner.isNode]
    split
    · exact hinner
    · exact h
  | _ => cases h <;> first | exact .refl _ | exact .arr ‹_›

end Fields

theorem typeExpr?_eq (fields : List (String × Value)) (convert : Value → Except Error Node)
    (key : String) : typeExpr? fields convert key =
      if isNode (get fields key) then some <$> convert (unwrapped (get fields key))
      else .ok none := by
  unfold typeExpr?
  split
  · next wrapper hwrapper =>
    rw [hwrapper]
    rfl
  · next hother =>
    rw [if_neg]
    unfold isNode
    split
    · next fields' heq => exact absurd heq (hother fields')
    · exact Bool.false_ne_true

section Readers

variable {path : Path} {fs gs : List (String × Value)} {key : String} {v w : Value}
  {convert convert' : Value → Except Error Node}

/-- Below two objects, what is read alike is converted to the same. -/
def SameBelow (fs gs : List (String × Value)) (convert convert' : Value → Except Error Node) :
    Prop :=
  ∀ v w, SameRead v w → isNode v → v.depth ≤ Value.depthFields fs →
    w.depth ≤ Value.depthFields gs → convert v = convert' w

theorem depth_le_of_get_arr {items : List Value} (h : get fs key = .arr items) :
    ∀ v ∈ items, v.depth ≤ Value.depthFields fs := by
  have hmem : (key, get fs key) ∈ fs := mem_fields_of_get_ne (by simp [h])
  exact fun v hv => depth_le_of_mem_arr (h ▸ hmem) hv

variable (hc : SameBelow fs gs convert convert')
include hc

theorem nodesOf_eq {vs ws : List Value} (h : List.Forall₂ SameRead vs ws)
    (hvs : ∀ v ∈ vs, v.depth ≤ Value.depthFields fs)
    (hws : ∀ w ∈ ws, w.depth ≤ Value.depthFields gs) :
    nodesOf convert vs = nodesOf convert' ws := by
  have hnodes := forall₂_mem
    (List.rel_filter (fun _ _ h => iff_of_eq (congrArg (· = true) (SameRead.isNode h))) h)
  refine Except.mapM_eq_of_forall₂ (hnodes.imp fun v w ⟨hv, hw, hvw⟩ => ?_)
  rw [List.mem_filter] at hv hw
  exact hc v w hvw hv.2 (hvs v hv.1) (hws w hw.1)

theorem under_eq (hv : (key, v) ∈ fs) (hw : (key, w) ∈ gs) (h : SameRead v w) :
    under convert key v = under convert' key w := by
  have hnode : (if isNode v then do .ok [← convert v] else .ok [] : Except Error (List Node)) =
      if isNode w then do .ok [← convert' w] else .ok [] := by
    rw [← h.isNode]
    split
    · next hnode =>
      rw [hc v w h hnode (depth_le_of_mem_fields hv) (depth_le_of_mem_fields hw)]
    · rfl
  unfold under
  split
  · rfl
  · cases h with
    | arr hitems =>
      exact nodesOf_eq hc hitems (fun _ h => depth_le_of_mem_arr hv h)
        fun _ h => depth_le_of_mem_arr hw h
    | obj => exact hnode
    | refl =>
      cases v with
      | arr items =>
        exact nodesOf_eq hc (List.forall₂_same.2 fun v _ => .refl v)
          (fun _ h => depth_le_of_mem_arr hv h) fun _ h => depth_le_of_mem_arr hw h
      | _ => exact hnode

variable (h : SameReadFields fs gs)
include h

theorem convert_get_eq (hkey : key ∉ freeKeys) (hnode : isNode (get fs key)) :
    convert (get fs key) = convert' (get gs key) :=
  have hsame := h.sameRead_get hkey
  hc _ _ hsame hnode (depth_get_le hnode) (depth_get_le (hsame.isNode ▸ hnode))

theorem child_eq (hkey : key ∉ freeKeys) :
    child path fs convert key = child path gs convert' key := by
  unfold child
  dsimp only
  rw [h.type_eq, ← (h.sameRead_get hkey).isNode]
  split
  · next hnode => exact convert_get_eq hc h hkey hnode
  · rfl

theorem child?_eq (hkey : key ∉ freeKeys) : child? fs convert key = child? gs convert' key := by
  unfold child?
  dsimp only
  rw [← (h.sameRead_get hkey).isNode]
  split
  · next hnode => rw [convert_get_eq hc h hkey hnode]
  · rfl

theorem children_eq (hkey : key ∉ freeKeys) :
    children fs convert key = children gs convert' key := by
  have hsame := h.sameRead_get hkey
  have hfs := @depth_le_of_get_arr fs key
  have hgs := @depth_le_of_get_arr gs key
  unfold children
  generalize get fs key = v, get gs key = w at hsame hfs hgs ⊢
  cases hsame with
  | arr hitems => exact nodesOf_eq hc hitems (hfs rfl) (hgs rfl)
  | obj => rfl
  | refl =>
    cases v with
    | arr items =>
      exact nodesOf_eq hc (List.forall₂_same.2 fun v _ => .refl v) (hfs rfl) (hgs rfl)
    | _ => rfl

theorem typeExpr?_eq_typeExpr? (hkey : key ∉ freeKeys) :
    typeExpr? fs convert key = typeExpr? gs convert' key := by
  have hsame := h.sameRead_get hkey
  rw [typeExpr?_eq, typeExpr?_eq, ← hsame.isNode]
  split
  · next hnode =>
    have hdepth := Nat.le_trans (depth_unwrapped_le _) (depth_get_le hnode)
    have hdepth' := Nat.le_trans (depth_unwrapped_le _) (depth_get_le (hsame.isNode ▸ hnode))
    rw [hc _ _ hsame.unwrapped (isNode_unwrapped hnode) hdepth hdepth']
  · rfl

theorem allChildren_eq : allChildren fs convert = allChildren gs convert' := by
  -- the free fields add no children, and the bound ones match one by one
  have hbound : ∀ (fields : List (String × Value)) (convert : Value → Except Error Node),
      allChildren fields convert = (·.mergeSort fun a b => a.start ≤ b.start) <$> List.flatten <$>
        (boundFields fields).mapM fun f => under convert f.1 f.2 := by
    intro fields convert
    unfold boundFields
    rw [Except.flatten_mapM_filter fun f _ hfree => ?_]
    · unfold allChildren
      cases fields.mapM fun f => under convert f.1 f.2 <;> rfl
    · have hskipped : ∀ key ∈ freeKeys, skippedKeys.contains key := by decide
      exact if_pos (hskipped f.1 (by simpa using hfree))
  rw [hbound, hbound]
  congr 2
  refine Except.mapM_eq_of_forall₂ ((forall₂_mem h.bound).imp fun f g ⟨hf, hg, hkey, hfg⟩ => ?_)
  obtain ⟨k, v⟩ := f
  obtain ⟨l, w⟩ := g
  obtain rfl : k = l := hkey
  exact under_eq hc (List.mem_of_mem_filter hf) (List.mem_of_mem_filter hg) hfg

theorem function_eq (s : Span) (kind : FunctionKind) :
    function fs convert s kind = function gs convert' s kind := by
  unfold function
  rw [children_eq hc h (by decide), child?_eq hc h (by decide), child?_eq hc h (by decide),
    typeExpr?_eq_typeExpr? hc h (by decide)]

omit hc in
theorem literal_eq (htype : get fs "type" = .str "Literal") (s : Span) :
    literal fs s = literal gs s := by
  have hfield : ∀ key ∉ freeKeys, leadsOn (.str "Literal") key = false →
      Value.field? fs key = Value.field? gs key := htype ▸ h.data
  unfold literal get
  rw [hfield "value" (by decide) rfl, hfield "regex" (by decide) rfl,
    hfield "bigint" (by decide) rfl, hfield "raw" (by decide) rfl]

theorem named_eq {type : String} (htype : get fs "type" = .str type) (s : Span) :
    named path fs convert s type = named path gs convert' s type := by
  have hchild : ∀ key ∉ freeKeys, child path fs convert key = child path gs convert' key :=
    fun _ => child_eq hc h
  have hlist : ∀ key ∉ freeKeys, children fs convert key = children gs convert' key :=
    fun _ => children_eq hc h
  have hexpr : ∀ key ∉ freeKeys, typeExpr? fs convert key = typeExpr? gs convert' key :=
    fun _ => typeExpr?_eq_typeExpr? hc h
  have hfield : ∀ key ∉ freeKeys, leadsOn (.str type) key = false →
      Value.field? fs key = Value.field? gs key := htype ▸ h.data
  have hget : ∀ key ∉ freeKeys, leadsOn (.str type) key = false → get fs key = get gs key :=
    htype ▸ fun _ => h.get_eq
  unfold named
  split
  · rw [hexpr _ (by decide), hlist _ (by decide), hfield "name" (by decide) rfl,
      hget "optional" (by decide) rfl]
  · rw [literal_eq h htype s]
  · rw [hchild "left" (by decide), hchild "right" (by decide), hlist _ (by decide)]
  · rw [hchild _ (by decide), hexpr _ (by decide), hlist _ (by decide)]
  · rw [hlist "properties" (by decide), hexpr _ (by decide), hlist "decorators" (by decide)]
  · rw [hlist "elements" (by decide), hexpr _ (by decide), hlist "decorators" (by decide)]
  · rw [hchild _ (by decide), hlist _ (by decide), hget "accessibility" (by decide) rfl,
      hget "readonly" (by decide) rfl, hget "override" (by decide) rfl]
  · exact function_eq hc h s _
  · exact function_eq hc h s _
  · exact function_eq hc h s _
  · rw [hchild _ (by decide), hlist _ (by decide)]
  · rw [hchild "object" (by decide), hchild "property" (by decide),
      hget "computed" (by decide) rfl]
  · rw [hchild "key" (by decide), hchild "value" (by decide), hget "method" (by decide) rfl,
      hget "shorthand" (by decide) rfl, hfield "kind" (by decide) rfl]
  · rw [hchild "key" (by decide), hchild "value" (by decide), hfield "kind" (by decide) rfl,
      hget "static" (by decide) rfl]
  · rw [hchild "left" (by decide), hchild "right" (by decide), hfield "operator" (by decide) rfl]
  · rw [hchild _ (by decide), child?_eq hc h (by decide)]
  · rw [allChildren_eq hc h]

theorem object_eq : object path fs convert = object path gs convert' := by
  have hspan : span path fs = span path gs := by
    unfold span
    rw [h.type_eq, h.get_eq (by decide) (leadsOn_eq_false (.inr rfl))]
  unfold object
  rw [hspan, ← h.type_eq]
  congr 1
  funext s
  split
  · next type htype => exact named_eq hc h htype s
  · rfl
  · rfl
  · rw [allChildren_eq hc h]

end Readers

/-- What is read alike is converted to the same, each value with as many levels as it is deep. -/
theorem convert_eq (path : Path) {levels levels' : Nat} {v w : Value} (h : SameRead v w)
    (hv : v.depth ≤ levels) (hw : w.depth ≤ levels') :
    convert path levels v = convert path levels' w := by
  -- what stands under a free key can make one value deeper, so the levels differ
  induction levels generalizing levels' v w with
  | zero => cases v <;> cases hv
  | succ levels ih =>
    cases levels' with
    | zero => cases w <;> cases hw
    | succ levels' =>
      cases v with
      | obj fs =>
        obtain ⟨gs, rfl⟩ := h.exists_obj
        rw [Value.depth] at hv hw
        exact object_eq (fun v w h _ hv' hw' => ih h (by omega) (by omega)) h.fields
      | _ => cases h <;> rfl

theorem ofValue_eq (path : Path) {v w : Value} (h : SameRead v w) :
    ofValue path v = ofValue path w := by
  unfold ofValue
  rw [h.isNode, convert_eq path h (Nat.le_refl _) (Nat.le_refl _)]

/-- Documents whose values differ only under the free keys of objects that are visited have the same
tree, or are refused with the same error. -/
theorem tree_eq_of_sameRead (complaint : String → String) {document document' v w : Value}
    (h : Denotes document v)
    (h' : Denotes document' w) (hvw : SameRead v w) (source path : String) :
    tree complaint document source path = tree complaint document' source path := by
  rw [tree_eq_of_denotes h, tree_eq_of_denotes h', ofValue_eq _ hvw]

section Instances

/-- `f()`, with more fields on the call. -/
def markedCall (onCall : List (String × Value)) : Value :=
  .obj ([("type", .str "CallExpression"), ("range", .arr [.int 0, .int 3]),
    ("callee", nameDocument 0 "f"), ("arguments", .arr [])] ++ onCall)

/-- `f()`, with more fields on the program and on the call. -/
def markedProgram (onProgram onCall : List (String × Value)) : Value :=
  .obj ([("type", .str "Program"), ("range", .arr [.int 0, .int 3]),
    ("body", .arr [markedCall onCall])] ++ onProgram)

/-- A node without a range, as a token or the end of a back reference may be. -/
def rangeless (type : String) : Value := .obj [("type", .str type)]

/-- The program is marked with tokens and a location, and the call with the way back. -/
def fullyMarked : Value :=
  markedProgram [("tokens", .arr [rangeless "Identifier"]), ("loc", .obj [])]
    [("parent", rangeless "Program")]

theorem sameRead_fullyMarked : SameRead (markedProgram [] []) fullyMarked := by
  have hcall : SameRead (markedCall []) (markedCall [("parent", rangeless "Program")]) :=
    sameRead_of_boundFields rfl
  refine .obj rfl (.cons (.refl _) (.cons (.refl _) (.cons (.arr (.cons hcall .nil)) .nil))) ?_
  intro key hkey hdata
  have hbody : key ≠ "body" := by
    rintro rfl
    cases hdata
  refine (field?_boundFields hkey).symm.trans (Eq.trans ?_ (field?_boundFields hkey))
  change List.lookup key [_, _, _] = List.lookup key [_, _, _]
  simp only [lookup_cons_ite, if_neg hbody]

theorem tree_markedProgram : tree noComplaint (markedProgram [] []) "f()" "call.js" = .ok
    (.build (.other ⟨0, 3⟩ (.str "Program") [.call ⟨0, 3⟩ (.bareName ⟨0, 1⟩ (.str "f")) []])
      (SourceText.ofString "f()")) := by
  change Except.ok (Tree.build (.other _ _ (List.mergeSort [_] _)) _) = _
  rw [List.mergeSort_singleton]
  rfl

theorem fullyMarked_has_tree : ∃ t, tree noComplaint (markedProgram [] []) "f()" "call.js" = .ok t ∧
    SameRead (markedProgram [] []) fullyMarked ∧
      tree noComplaint fullyMarked "f()" "call.js" = .ok t := by
  have hplain : Denotes (markedProgram [] []) (markedProgram [] []) := rfl
  have hmarked : Denotes fullyMarked fullyMarked := rfl
  have heq := tree_eq_of_sameRead noComplaint hplain hmarked sameRead_fullyMarked "f()" "call.js"
  exact ⟨_, tree_markedProgram, sameRead_fullyMarked, heq ▸ tree_markedProgram⟩

end Instances

end Estree

end ArityLint
