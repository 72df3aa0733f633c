import ArityLint.Proofs.Acceptance
import ArityLint.Proofs.Likeness

namespace ArityLint.Estree

open Node Value

variable {path : Path} {fs gs : List (String × Value)} {convert : Value → Except Error Node}
  {v w : Value}

theorem isSome_field? (h : SameFields fs gs) (key : String) :
    (Value.field? fs key).isSome = (Value.field? gs key).isSome := by
  have hfield := h.field? key
  generalize Value.field? fs key = a, Value.field? gs key = b at hfield ⊢
  cases hfield <;> rfl

theorem reordered_getD (h : SameFields fs gs) (key : String) (d : Value) :
    ((Value.field? fs key).getD d).Reordered ((Value.field? gs key).getD d) := by
  have hfield := h.field? key
  generalize Value.field? fs key = a, Value.field? gs key = b at hfield ⊢
  cases hfield with
  | none => exact .refl _
  | some h => exact h

theorem reordered_get (h : SameFields fs gs) (key : String) :
    (get fs key).Reordered (get gs key) := reordered_getD h key .null

theorem truthy_get (h : SameFields fs gs) (key : String) :
    (get fs key).truthy = (get gs key).truthy := (reordered_get h key).truthy

theorem isNode_eq (h : v.Reordered w) : isNode v = isNode w := by
  cases h with
  | refl => rfl
  | arr => rfl
  | obj hnodup hkeys hvalues hperm =>
    exact isSome_field? (Reordered.obj hnodup hkeys hvalues hperm).sameFields "type"

theorem agree_span (h : SameFields fs gs) : Except.Agree Eq (span path fs) (span path gs) := by
  have hrange := reordered_get h "range"
  unfold span
  generalize get fs "range" = v, get gs "range" = w at hrange ⊢
  cases hrange with
  | refl =>
    split
    · exact .of_eq rfl
    · exact .error
  | arr hitems =>
    -- only a list of two is a range
    rcases hitems with _ | @⟨a, b, _, _, hab, _ | @⟨c, d, _, _, hcd, _ | _⟩⟩
    · exact .error
    · exact .error
    · dsimp only
      rw [hab.toOffset, hcd.toOffset]
      exact .of_eq rfl
    · exact .error
  | obj => exact .error

/-- What is asked of the conversion of the objects below. -/
def Converts (convert : Value → Except Error Node) : Prop :=
  ∀ v w : Value, v.Reordered w → Except.Agree Alike (convert v) (convert w)

section Readers

variable (hc : Converts convert) (h : SameFields fs gs)
include hc

theorem agree_nodesOf {vs ws : List Value} (h : List.Forall₂ Reordered vs ws) :
    Except.Agree (List.Forall₂ Alike) (nodesOf convert vs) (nodesOf convert ws) :=
  .mapM (List.rel_filter (fun _ _ h => iff_of_eq (congrArg (· = true) (isNode_eq h))) h) hc

include h

theorem agree_child (key : String) :
    Except.Agree Alike (child path fs convert key) (child path gs convert key) := by
  have hv := reordered_get h key
  unfold child
  dsimp only
  rw [isNode_eq hv]
  split
  · exact hc _ _ hv
  · exact .error

theorem agree_child? (key : String) :
    Except.Agree (Option.Rel Alike) (child? fs convert key) (child? gs convert key) := by
  have hv := reordered_get h key
  unfold child?
  dsimp only
  rw [isNode_eq hv]
  split
  · exact (hc _ _ hv).map fun _ _ hn => .some hn
  · exact .ok .none

theorem agree_children (key : String) :
    Except.Agree (List.Forall₂ Alike) (children fs convert key) (children gs convert key) := by
  have hv := reordered_get h key
  unfold children
  generalize get fs key = v, get gs key = w at hv ⊢
  cases hv with
  | arr hitems => exact agree_nodesOf hc hitems
  | obj => exact .ok .nil
  | refl =>
    split
    · exact agree_nodesOf hc (List.forall₂_same.2 fun v _ => .refl v)
    · exact .ok .nil
    · exact .ok .nil
    · exact .ok .nil
    · split
      · exact .error
      · exact .ok .nil

theorem agree_typeExpr? (key : String) :
    Except.Agree (Option.Rel Alike) (typeExpr? fs convert key) (typeExpr? gs convert key) := by
  have hv := reordered_get h key
  unfold typeExpr?
  generalize get fs key = v, get gs key = w at hv ⊢
  cases v with
  | obj wrapper =>
    obtain ⟨wrapper', rfl⟩ := hv.exists_obj
    have hinner := reordered_get hv.sameFields "typeAnnotation"
    dsimp only
    rw [isNode_eq hv, isNode_eq hinner]
    split
    · refine (hc _ _ ?_).map fun _ _ hn => .some hn
      split
      · exact hinner
      · exact hv
    · exact .ok .none
  | _ => cases hv <;> exact .ok .none

omit h

theorem agree_under (hv : v.Reordered w) (key : String) :
    Except.Agree (List.Forall₂ Alike) (under convert key v) (under convert key w) := by
  have hnode : ∀ {v w : Value}, v.Reordered w → Except.Agree (List.Forall₂ Alike)
      (if isNode v then do .ok [← convert v] else .ok [])
      (if isNode w then do .ok [← convert w] else .ok []) := by
    intro v w hv
    rw [isNode_eq hv]
    split
    · exact (hc _ _ hv).bind fun _ _ hn => .ok (.cons hn .nil)
    · exact .ok .nil
  unfold under
  split
  · exact .ok .nil
  · cases hv with
    | arr hitems => exact agree_nodesOf hc hitems
    | obj hnodup hkeys hvalues hperm => exact hnode (.obj hnodup hkeys hvalues hperm)
    | refl =>
      split
      · exact agree_nodesOf hc (List.forall₂_same.2 fun v _ => .refl v)
      · exact hnode (.refl _)

include h

/-- The children of an object of which nothing is known are alike in some order, and sorted. -/
theorem agree_allChildren : Except.Agree
    (fun (body body' : List Node) => body.Pairwise (fun m n => m.start ≤ n.start) ∧
      body'.Pairwise (fun m n => m.start ≤ n.start) ∧
      Multiset.Rel Alike (body : Multiset Node) (body' : Multiset Node))
    (allChildren fs convert) (allChildren gs convert) := by
  obtain ⟨ms, hvalues, hperm, -⟩ := h
  -- first the values differ under the same keys in order, then only the order does
  let below := fun f : String × Value => under convert f.1 f.2
  have hbelow : Except.Agree (List.Forall₂ (List.Forall₂ Alike)) (fs.mapM below) (ms.mapM below) :=
    .mapM hvalues fun f g hfg => by
      dsimp only [below]
      rw [hfg.1]
      exact agree_under hc hfg.2 _
  have hfound := hbelow.trans (Except.Agree.mapM_perm (f := below) hperm)
  refine hfound.bind fun found found' h => .ok
    ⟨pairwise_sortBy Node.start _, pairwise_sortBy Node.start _, ?_⟩
  obtain ⟨middle, halike, hperm⟩ := h
  rw [Multiset.coe_eq_coe.2 (List.mergeSort_perm _ _),
    Multiset.coe_eq_coe.2 (List.mergeSort_perm found'.flatten _),
    ← Multiset.coe_eq_coe.2 hperm.flatten]
  exact rel_of_forall₂ (List.rel_flatten halike)

theorem agree_other (s : Span) (kind : Value) : Except.Agree Alike
    (do .ok (.other s kind (← allChildren fs convert)) : Except Error Node)
    (do .ok (.other s kind (← allChildren gs convert))) := by
  refine (agree_allChildren hc h).bind fun body body' hbody => ?_
  obtain ⟨hsorted, hsorted', hrel⟩ := hbody
  exact .ok (.other hsorted hsorted' hrel)

theorem agree_function (s : Span) (kind : FunctionKind) :
    Except.Agree Alike (function fs convert s kind) (function gs convert s kind) :=
  (agree_children hc h _).bind fun _ _ hps => (agree_child? hc h _).bind fun _ _ hi =>
    (agree_child? hc h _).bind fun _ _ hb => (agree_typeExpr? hc h _).bind fun _ _ hr =>
      .ok (.function hps hi hb hr)

omit hc in
theorem alike_literal (s : Span) : (literal fs s).Alike (literal gs s) := by
  have hraw := reordered_getD h "raw" (.str "")
  have hvalue := reordered_get h "value"
  unfold literal
  dsimp only
  rw [isSome_field? h "regex", isSome_field? h "bigint"]
  generalize get fs "value" = v, get gs "value" = w at hvalue ⊢
  cases hvalue with
  | refl => exact .literal hraw (.refl _)
  | arr hitems => exact .literal hraw (.arr hitems)
  | obj hnodup hkeys hvalues hperm => exact .literal hraw (.obj hnodup hkeys hvalues hperm)

theorem agree_named (s : Span) (type : String) :
    Except.Agree Alike (named path fs convert s type) (named path gs convert s type) := by
  have hchild : ∀ key, Except.Agree Alike (child path fs convert key)
      (child path gs convert key) := agree_child hc h
  have hchild? := agree_child? hc h
  have hlist := agree_children hc h
  have htype := agree_typeExpr? hc h
  have hvalue := reordered_getD h
  have htruthy := truthy_get h
  unfold named
  split
  · rw [htruthy]
    exact (htype _).bind fun _ _ ht => (hlist _).bind fun _ _ hds =>
      .ok (.identifier (hvalue _ _) ht hds)
  · exact .ok (alike_literal h s)
  · exact (hchild _).bind fun _ _ hl => (hchild _).bind fun _ _ hr => (hlist _).bind fun _ _ hds =>
      .ok (.assignmentPattern hl hr hds)
  · exact (hchild _).bind fun _ _ ha => (htype _).bind fun _ _ ht => (hlist _).bind fun _ _ hds =>
      .ok (.restElement ha ht hds)
  · exact (hlist _).bind fun _ _ hps => (htype _).bind fun _ _ ht => (hlist _).bind fun _ _ hds =>
      .ok (.objectPattern hps ht hds)
  · exact (hlist _).bind fun _ _ hes => (htype _).bind fun _ _ ht => (hlist _).bind fun _ _ hds =>
      .ok (.arrayPattern hes ht hds)
  · rw [htruthy, htruthy]
    exact (hchild _).bind fun _ _ hp => (hlist _).bind fun _ _ hds =>
      .ok (.parameterProperty hp (reordered_get h _) hds)
  · exact agree_function hc h s _
  · exact agree_function hc h s _
  · exact agree_function hc h s _
  · exact (hchild _).bind fun _ _ hc => (hlist _).bind fun _ _ hargs => .ok (.call hc hargs)
  · rw [htruthy]
    exact (hchild _).bind fun _ _ ho => (hchild _).bind fun _ _ hp => .ok (.member ho hp)
  · rw [htruthy, htruthy]
    exact (hchild _).bind fun _ _ hk => (hchild _).bind fun _ _ hv =>
      .ok (.property hk hv (hvalue _ _))
  · rw [htruthy]
    exact (hchild _).bind fun _ _ hk => (hchild _).bind fun _ _ hv =>
      .ok (.methodDefinition hk hv (hvalue _ _))
  · exact (hchild _).bind fun _ _ hl => (hchild _).bind fun _ _ hr =>
      .ok (.assignment hl hr (hvalue _ _))
  · exact (hchild _).bind fun _ _ hi => (hchild? _).bind fun _ _ hv => .ok (.declarator hi hv)
  · exact agree_other hc h s _

theorem agree_object : Except.Agree Alike (object path fs convert) (object path gs convert) := by
  have htype := reordered_get h "type"
  unfold object
  refine (agree_span h).bind fun s _ hs => ?_
  subst hs
  generalize get fs "type" = v, get gs "type" = w at htype ⊢
  cases htype with
  | arr | obj => exact .error
  | refl =>
    split
    · exact agree_named hc h s _
    · exact .error
    · exact .error
    · exact agree_other hc h s _

end Readers

/-- What differs in the order of fields alone is converted alike, at any number of levels. -/
theorem converts_convert (path : Path) (levels : Nat) : Converts (Estree.convert path levels) := by
  induction levels with
  | zero => exact fun _ _ _ => .error
  | succ levels ih =>
    intro v w h
    cases v with
    | obj fields =>
      obtain ⟨fields', rfl⟩ := h.exists_obj
      exact agree_object ih h.sameFields
    | _ => cases h <;> exact .error

theorem agree_ofValue (path : Path) (h : v.Reordered w) :
    Except.Agree Alike (ofValue path v) (ofValue path w) := by
  unfold ofValue
  rw [isNode_eq h, h.depth]
  split
  · exact converts_convert path _ _ _ h
  · exact .error

variable {complaint : String → String} {document document' : Value}

theorem tree_eq_of_denotes (h : Denotes document v) (source path : String) :
    tree complaint document source path = (ofValue (Path.ofString path) v).bind fun root =>
      .ok (.build root (SourceText.ofString source)) := by
  unfold tree
  dsimp only
  rw [read_eq_ok_iff.2 h]
  rfl

variable (complaint) in
/-- Documents of which the values differ in the order of fields alone are both refused, or have
trees that are alike. -/
theorem agree_tree (h : Denotes document v) (h' : Denotes document' w) (hvw : v.Reordered w)
    (source path : String) : Except.Agree (fun t t' => t.root.Alike t'.root ∧ t.source = t'.source)
      (tree complaint document source path) (tree complaint document' source path) := by
  rw [tree_eq_of_denotes h, tree_eq_of_denotes h']
  exact (agree_ofValue _ hvw).bind fun _ _ hroot => .ok ⟨hroot, rfl⟩

/-- Where names are texts, trees of documents that differ in the order of keys alone are checked
alike: both checks fail, or both have the same findings, in one order where the children of nodes of
unknown type start apart. Where shown modifiers are texts too, no check fails. -/
theorem check_reordered (h : Denotes document v) (h' : Denotes document' w) (hvw : v.Reordered w)
    (source path : String) :
    ((∃ t, tree complaint document source path = .ok t) ↔
        ∃ t', tree complaint document' source path = .ok t') ∧
      ∀ t t', tree complaint document source path = .ok t →
        tree complaint document' source path = .ok t' → t.root.All HasTextName →
        ∃ r r', t.check.Yields r ∧ t'.check.Yields r' ∧
          Except.Agree
            (fun fs fs' => fs.Perm fs' ∧ (t.root.All HasDistinctStarts → fs = fs')) r r' ∧
          (t.root.HasTexts → ∃ fs, r = .ok fs) := by
  have htrees := agree_tree complaint h h' hvw source path
  refine ⟨htrees.exists_iff, fun t t' ht ht' hnames => ?_⟩
  obtain ⟨hroot, hsource⟩ := htrees.of_ok ht ht'
  obtain ⟨r, r', hr, hr', hagree⟩ := Tree.check_alike hroot hsource hnames
  refine ⟨r, r', hr, hr', hagree, fun htexts => ?_⟩
  obtain ⟨vs, -, hvs⟩ := Tree.yields_check_report htexts (allGenuine_tree ht)
  exact ⟨_, hr.unique hvs⟩

section Instances

/-- A program that holds two statements under keys of no known meaning. -/
def programDocument (k l : String) (x y : Value) : Value :=
  .obj [("type", .str "Program"), ("range", .arr [.int 0, .int 37]), (k, x), (l, y)]

theorem denotes_programDocument (k l : String) (x y : Value) :
    Denotes (programDocument k l x y) (programDocument k l x y) := rfl

theorem reordered_programDocument {k l : String} (x y : Value)
    (hkeys : ["type", "range", k, l].Nodup) :
    (programDocument k l x y).Reordered (programDocument l k y x) :=
  .obj hkeys rfl (List.forall₂_same.2 fun v _ => .refl v) (.cons _ (.cons _ (.swap _ _ _)))

def programTree (m n : Node) (source : String) : Tree :=
  .build (.other ⟨0, 37⟩ (.str "Program") [m, n]) (SourceText.ofString source)

theorem tree_arrows :
    tree noComplaint (programDocument "left" "right" (arrowDocument 0) (arrowDocument 20))
      "(a, b, c, d) => a;  (a, b, c, d) => a" "arrows.js" =
        .ok (programTree (arrow 0) (arrow 20) "(a, b, c, d) => a;  (a, b, c, d) => a") := by
  change Except.ok (Tree.build (.other _ _ (List.mergeSort [arrow 0, arrow 20] _)) _) = _
  rw [List.mergeSort_of_pairwise (by decide)]
  rfl

theorem allDistinctStarts_arrow (start : Int) : (arrow start).All HasDistinctStarts := by
  have hname : ∀ s name, (bareName s name).All HasDistinctStarts := fun _ _ =>
    all_iff.2 ⟨trivial, by simp [bareName, EachChild]⟩
  exact all_iff.2 ⟨trivial, by simp [arrow, EachChild, hname]⟩

/-- Two arrow functions are found in the order in which they stand, whichever key comes first. -/
theorem arrows_reordered_alike :
    ∃ t t', tree noComplaint (programDocument "left" "right" (arrowDocument 0) (arrowDocument 20))
        "(a, b, c, d) => a;  (a, b, c, d) => a" "arrows.js" = .ok t ∧
      tree noComplaint (programDocument "right" "left" (arrowDocument 20) (arrowDocument 0))
        "(a, b, c, d) => a;  (a, b, c, d) => a" "arrows.js" = .ok t' ∧
      t.root.HasTexts ∧ t.root.All HasDistinctStarts ∧
      ∃ fs, t.check.Yields (.ok fs) ∧ t'.check.Yields (.ok fs) := by
  have hreordered := reordered_programDocument (k := "left") (l := "right") (arrowDocument 0)
    (arrowDocument 20) (by decide)
  obtain ⟨haccepted, halike⟩ := check_reordered (denotes_programDocument _ _ _ _)
    (denotes_programDocument _ _ _ _) hreordered
    "(a, b, c, d) => a;  (a, b, c, d) => a" "arrows.js"
  obtain ⟨t', ht'⟩ := haccepted.1 ⟨_, tree_arrows⟩
  have htexts : (programTree (arrow 0) (arrow 20)
      "(a, b, c, d) => a;  (a, b, c, d) => a").root.HasTexts :=
    hasTexts_iff.2 ⟨⟨trivial, trivial⟩, by
      change ∀ m ∈ [arrow 0, arrow 20], m.HasTexts
      simp [hasTexts_arrow]⟩
  have hdistinct : (programTree (arrow 0) (arrow 20)
      "(a, b, c, d) => a;  (a, b, c, d) => a").root.All HasDistinctStarts :=
    all_iff.2 ⟨show List.Nodup [(0 : Int), 20] by decide, by
      change ∀ m ∈ [arrow 0, arrow 20], m.All HasDistinctStarts
      simp [allDistinctStarts_arrow]⟩
  obtain ⟨r, r', hr, hr', hagree, hok⟩ := halike _ _ tree_arrows ht' htexts.names
  obtain ⟨fs, rfl⟩ := hok htexts
  refine ⟨_, _, tree_arrows, ht', htexts, hdistinct, fs, hr, ?_⟩
  cases hagree with
  | ok h => exact h.2 hdistinct ▸ hr'

/-- A declaration of four parameters, the first one with a modifier. -/
def modifiedDocument (modifier : Value) : Value :=
  .obj [("type", .str "FunctionDeclaration"), ("range", .arr [.int 0, .int 36]),
    ("params", .arr [
      .obj [("type", .str "TSParameterProperty"), ("range", .arr [.int 11, .int 12]),
        ("accessibility", modifier), ("parameter", nameDocument 11 "a")],
      nameDocument 14 "b", nameDocument 17 "c", nameDocument 20 "d"])]

def modifiedProgram (k l : String) (modifier modifier' : Value) : Value :=
  programDocument k l (modifiedDocument modifier) (modifiedDocument modifier')

def modified (modifier : Value) : Node :=
  .function ⟨0, 36⟩ .declaration
    [.parameterProperty ⟨11, 12⟩ (.bareName ⟨11, 12⟩ (.str "a")) modifier false false [],
      .bareName ⟨14, 15⟩ (.str "b"), .bareName ⟨17, 18⟩ (.str "c"), .bareName ⟨20, 21⟩ (.str "d")]
    none none none

def modifiedTree (modifier modifier' : Value) : Tree :=
  programTree (modified modifier) (modified modifier')
    "function f(a, b, c, d) \x7b return a; \x7d;"

theorem tree_modified {k l : String} {modifier modifier' : Value} (hdepth : modifier.depth = 1)
    (hdepth' : modifier'.depth = 1) (hk : skippedKeys.contains k = false)
    (hl : skippedKeys.contains l = false) :
    tree noComplaint (modifiedProgram k l modifier modifier')
      "function f(a, b, c, d) \x7b return a; \x7d;" "f.ts" = .ok (modifiedTree modifier modifier') := by
  have hlevels : (modifiedProgram k l modifier modifier').depth = 7 := by
    simp [modifiedProgram, programDocument, modifiedDocument, nameDocument, Value.depth,
      Value.depthItems, Value.depthFields, hdepth, hdepth']
  have hunder : ∀ {key m}, skippedKeys.contains key = false →
      under (convert (Path.ofString "f.ts") 6) key (modifiedDocument m) = .ok [modified m] := by
    intro key m hkey
    unfold under
    rw [hkey]
    rfl
  have hall : allChildren [("type", .str "Program"), ("range", .arr [.int 0, .int 37]),
      (k, modifiedDocument modifier), (l, modifiedDocument modifier')]
      (convert (Path.ofString "f.ts") 6) = .ok [modified modifier, modified modifier'] := by
    unfold allChildren
    simp only [List.mapM_cons, hunder hk, hunder hl]
    change Except.ok (List.mergeSort [modified modifier, modified modifier'] _) = _
    rw [List.mergeSort_of_pairwise (List.pairwise_pair.2 rfl)]
  have hdenotes : Denotes (modifiedProgram k l modifier modifier')
      (modifiedProgram k l modifier modifier') := denotes_programDocument _ _ _ _
  have hnode : isNode (modifiedProgram k l modifier modifier') = true := rfl
  rw [tree_eq_of_denotes hdenotes, ofValue, if_pos hnode, hlevels]
  change Except.bind (do .ok (Node.other _ _ (← allChildren _ _)) : Except Error Node) _ = _
  rw [hall]
  rfl

theorem findingAt_modified {t : Tree} {v : Visit} {modifier : Value} (h : ¬modifier.IsText)
    (htruthy : modifier.truthy) (hnode : v.node = modified modifier)
    (hscope : exclusion? (modified modifier) (t.place v) = .ok none) :
    findingAt t v = .error (.notText 0 modifier.typeName) := by
  have hmodifier : modifierText modifier false false = .error (.notText 0 modifier.typeName) := by
    rw [modifierText, if_pos htruthy]
    exact joinTexts_eq_error _ h _
  have hclassify : (parameterProperty ⟨11, 12⟩ (.bareName ⟨11, 12⟩ (.str "a")) modifier false false
      []).classify t.source = .error (.notText 0 modifier.typeName) := by
    change (modifierText modifier false false).map _ = _
    rw [hmodifier]
    rfl
  unfold findingAt
  rw [hnode, hscope]
  change (do let edit ← editOf _ _; _) = _
  unfold editOf
  change (do let edit ← (do optionsEdit? (← List.mapM _ (_ :: _))); _) = _
  rw [List.mapM_cons, hclassify]
  rfl

theorem check_modified {modifier modifier' : Value} (h : ¬modifier.IsText)
    (htruthy : modifier.truthy) :
    (modifiedTree modifier modifier').check.Yields
      (.error (.fault (.notText 0 modifier.typeName))) := by
  let root := Visit.root (modifiedTree modifier modifier').root
  let first := root.follow (.body, modified modifier) 0
  let second := root.follow (.body, modified modifier') 1
  have hchildren : root.children = [first, second] :=
    List.mergeSort_of_pairwise (l := [first, second]) (List.pairwise_pair.2 rfl)
  have hwalk : ∃ after, (modifiedTree modifier modifier').walk = [root] ++ first :: after := by
    refine ⟨walkFrom (first.children ++ [second]), ?_⟩
    change walkFrom [root] = _
    rw [walkFrom, hchildren]
    change root :: walkFrom [first, second] = _
    rw [walkFrom]
    rfl
  obtain ⟨after, hwalk⟩ := hwalk
  have hplace : (modifiedTree modifier modifier').place first = first.parent :=
    Tree.place_eq (.step .refl List.mem_cons_self)
  refine yields_check_error hwalk (List.forall_mem_singleton.2 fun hb => ?_) rfl
    (findingAt_modified h htruthy rfl ?_)
  -- the program is no function
  · cases (show false = true from hb)
  · rw [hplace]
    rfl

/-- Where modifiers are no texts no diagnostics are yielded, and the order of two keys decides which
fault is raised. -/
theorem keys_decide_fault :
    (modifiedProgram "left" "right" (.int 5) (.bool true)).Reordered
        (modifiedProgram "right" "left" (.bool true) (.int 5)) ∧
      ∃ t t', tree noComplaint (modifiedProgram "left" "right" (.int 5) (.bool true))
          "function f(a, b, c, d) \x7b return a; \x7d;" "f.ts" = .ok t ∧
        tree noComplaint (modifiedProgram "right" "left" (.bool true) (.int 5))
          "function f(a, b, c, d) \x7b return a; \x7d;" "f.ts" = .ok t' ∧
        t.root.All HasTextName ∧
        t.check.Yields (.error (.fault (.notText 0 "int"))) ∧
        t'.check.Yields (.error (.fault (.notText 0 "bool"))) := by
  refine ⟨reordered_programDocument _ _ (by decide), _, _,
    tree_modified rfl rfl (by decide) (by decide), tree_modified rfl rfl (by decide) (by decide), ?_,
    check_modified nofun rfl, check_modified nofun rfl⟩
  have hname : ∀ (s : Span) (name : String), (bareName s (.str name)).All HasTextName :=
    fun s name => (hasTexts_bareName s name).names
  have hproperty : ∀ s modifier, (parameterProperty s (bareName s (.str "a")) modifier false false
      []).All HasTextName := fun s _ => all_iff.2 ⟨trivial, hname s "a", by simp⟩
  have hmodified : ∀ modifier, (modified modifier).All HasTextName := fun modifier =>
    all_iff.2 ⟨trivial, by simp [modified, EachChild, hname, hproperty]⟩
  exact all_iff.2 ⟨trivial, by
    change ∀ m ∈ [modified _, modified _], m.All HasTextName
    simp [hmodified]⟩

end Instances

end ArityLint.Estree
