import ArityLint.Proofs.Outline
import ArityLint.Proofs.Rounds
import ArityLint.Proofs.WrappedLowering

namespace ArityLint

section Linting

open LintM

variable {limits limits' : Limits} {source source' language path : String} {c c' : Concrete}
  {t : Tree}

def nestedTooDeeply (path language : String) : Error :=
  .failure (.parsing (Path.ofString path) language "syntax tree is nested too deeply")

theorem hasTexts_treeOver (h : treeOver limits source language path c = .ok t) : t.root.HasTexts := by
  have hc : c.AllKinds fun _ => True := fun _ _ => trivial
  have hlowered := Lower.allLowered_ofConcrete hc trivial (treeOver_eq_ok h)
  exact fun m hm => ⟨(hlowered m hm).2.1, (hlowered m hm).2.2.1⟩

/-- The tree of a concrete tree with more parentheses has the outline of the tree without them,
unless it is refused as nested too deeply. -/
theorem treeOver_wraps (hlimits : limits'.lowering ≤ limits.lowering)
    (h : c.Wraps (Utf8.Encoded.ofString source) (Utf8.Encoded.ofString source') c') :
    (treeOver limits' source' language path c' = .error (nestedTooDeeply path language) ∧
        limits'.lowering < c'.height) ∨
      Except.Agree (fun t t' => t.root.SameOutline t'.root)
        (treeOver limits source language path c) (treeOver limits' source' language path c') := by
  have hfollows := Lower.follows_ofConcrete hlimits (Iff.refl (none = some "object")) (.bare h)
  unfold treeOver
  dsimp only
  rw [h.reads.hasError]
  split
  · cases errorLine limits.search c <;> cases errorLine limits'.search c' <;> exact .inr .error
  generalize Lower.ofConcrete _ _ none c = x, Lower.ofConcrete _ _ none c' = y at hfollows ⊢
  cases hfollows with
  | tooDeep hdeep => exact .inl ⟨rfl, hdeep⟩
  | agree hagree =>
    cases hagree with
    | ok hn => exact .inr (.ok hn.outline)
    | @error o o' => cases o <;> cases o' <;> exact .inr .error

/-- Parentheses are transparent. Unless the tree with more of them is refused as nested too deeply,
which takes more levels than its lowering may go down, the functions of both trees are left out for
the same reasons, and both texts are linted with as many findings of the same counts, or neither is.
-/
theorem parentheses_are_transparent (g g' : Grammar) (lang : Language) (path : String)
    (hlimits : g'.limits.lowering ≤ g.limits.lowering)
    (h : (g lang source).Wraps (Utf8.Encoded.ofString source) (Utf8.Encoded.ofString source')
      (g' lang source')) :
    (treeOver g'.limits source' lang.name path (g' lang source') =
          .error (nestedTooDeeply path lang.name) ∧
        g'.limits.lowering < (g' lang source').height) ∨
      Except.Agree Tree.SameExclusions (treeOver g.limits source lang.name path (g lang source))
          (treeOver g'.limits source' lang.name path (g' lang source')) ∧
        ∀ s s', Except.Agree (fun fs fs' => (fs.map (·.data)).Perm (fs'.map (·.data)))
          ((lintSource g source lang.name path).exec s).1
          ((lintSource g' source' lang.name path).exec s').1 := by
  refine (treeOver_wraps hlimits h).imp id fun hagree =>
    ⟨hagree.imp fun _ _ => Tree.sameExclusions, ?_⟩
  intro s s'
  have hy := yields_treeOver g lang source path
  have hy' := yields_treeOver g' lang source' path
  generalize hr : treeOver g.limits source lang.name path (g lang source) = x,
    hr' : treeOver g'.limits source' lang.name path (g' lang source') = y at hagree hy hy'
  cases hagree with
  | error =>
    rw [lintSource, hy.bind_error.fst_exec, lintSource, hy'.bind_error.fst_exec]
    exact .error
  | ok houtline =>
    obtain ⟨r, r', hcheck, hcheck', hfindings⟩ :=
      Tree.check_of_sameOutline houtline (hasTexts_treeOver hr) (hasTexts_treeOver hr')
    rw [lintSource, (hy.bind_ok hcheck).fst_exec, lintSource, (hy'.bind_ok hcheck').fst_exec]
    exact hfindings

end Linting

section Instances

/-- `(a, b, c, d) => a`, the value of a variable -/
def valueTree : Concrete :=
  .node (token "arrow_function" 0 17 (some "value"))
    [fourNames 0, mark "=>" 13, .node (token "identifier" 16 17 (some "body")) []]

def valueText : List Char := "(a, b, c, d) => a".toList

def nestedPrefix : List Char := "f = ".toList

namespace Concrete

variable {c : Concrete}

def withoutField : Concrete → Concrete
  | node t cs => node { t with field := none } cs

/-- A pair of parentheses around a node, under the field of that. -/
def inParentheses (c : Concrete) : Concrete :=
  node (ArityLint.token "parenthesized_expression" (c.start - 1) (c.stop + 1) c.token.field)
    [mark "(" (c.start - 1), c.withoutField, mark ")" c.stop]

def nested : Nat → Concrete → Concrete
  | 0, c => c
  | n + 1, c => (nested n c).inParentheses

theorem field_nested (n : Nat) (c : Concrete) : (nested n c).token.field = c.token.field := by
  induction n with
  | zero => rfl
  | succ n ih => exact ih

theorem isPart_nested (n : Nat) (hc : (c.token.named && !isExtra c.kind) = true) :
    ((nested n c).token.named && !isExtra (nested n c).kind) = true := by
  cases n with
  | zero => exact hc
  | succ n => rfl

theorem opens_inParentheses (hc : (c.token.named && !isExtra c.kind) = true) :
    c.inParentheses.Opens c.withoutField ∧ c.inParentheses.withoutField.Opens c.withoutField := by
  have hpart : (c.withoutField.token.named && !isExtra c.withoutField.kind) = true := by
    cases c
    exact hc
  have hparts : [mark "(" (c.start - 1), c.withoutField, mark ")" c.stop].filter
      (fun d => d.token.named && !isExtra d.kind) = [c.withoutField] := by
    have hmark : ∀ text start, ((mark text start).token.named &&
        !isExtra (mark text start).kind) = false := fun _ _ => rfl
    simp [hmark, hpart]
  exact ⟨⟨rfl, rfl, congrArg List.head? hparts⟩, rfl, rfl, congrArg List.head? hparts⟩

theorem parenthesizes_nested (n : Nat) (hc : (c.token.named && !isExtra c.kind) = true) :
    (nested (n + 1) c).Parenthesizes c.withoutField ∧
      (nested (n + 1) c).withoutField.Parenthesizes c.withoutField := by
  induction n with
  | zero => exact ⟨.single (opens_inParentheses hc).1, .single (opens_inParentheses hc).2⟩
  | succ n ih =>
    have hopens := opens_inParentheses (isPart_nested (n + 1) hc)
    exact ⟨Relation.TransGen.head hopens.1 ih.2, Relation.TransGen.head hopens.2 ih.2⟩

theorem Wraps.withoutField {code code' : Utf8.Encoded} {e : Concrete} (h : Wraps code code' c e) :
    Wraps code code' c e.withoutField := by
  cases h with
  | node ht hes hcs hfields =>
    exact .node ⟨ht.kind, ht.named, ht.hasError, ht.start, ht.stop, ht.readable, ht.name⟩ hes hcs
      hfields

end Concrete

theorem Lower.tooDeep_nested {code : Utf8.Encoded} {c : Concrete}
    (hc : (c.token.named && !Concrete.isExtra c.kind) = true) {levels n : Nat} (h : levels ≤ n)
    (parent : Option String) : ofConcrete code levels parent (c.nested n) = .error .tooDeep ∧
      ofConcrete code levels parent (c.nested n).withoutField = .error .tooDeep := by
  induction n generalizing levels parent with
  | zero =>
    obtain rfl := Nat.le_zero.1 h
    exact ⟨rfl, rfl⟩
  | succ n ih =>
    cases levels with
    | zero => exact ⟨rfl, rfl⟩
    | succ levels =>
      obtain ⟨hopens, hopens'⟩ := Concrete.opens_inParentheses (Concrete.isPart_nested n hc)
      rw [Concrete.nested, ofConcrete_opens hopens, ofConcrete_opens hopens']
      have hbelow := (ih (Nat.le_of_succ_le_succ h) (some "parenthesized_expression")).2
      exact ⟨hbelow, hbelow⟩

/-- `f = (a, b, c, d) => a`, with `n` pairs of parentheses around the value -/
def nestedText (n : Nat) : List Char :=
  (nestedPrefix ++ List.replicate n '(') ++ (valueText ++ List.replicate n ')')

def nestedTree (n : Nat) : Concrete :=
  .node (token "variable_declarator" 0 (21 + 2 * n) none)
    [.node (token "identifier" 0 1 (some "name")) [], mark "=" 2,
      (valueTree.moved (4 + n)).nested n]

theorem size_replicate (n : Nat) (c : Char) :
    (List.replicate n c).utf8Encode.size = n * c.utf8Size := by
  induction n with
  | zero => simp
  | succ n ih =>
    rw [List.replicate_succ, Utf8.size_utf8Encode_cons, ih, Nat.succ_mul, Nat.add_comm]

theorem size_nestedPrefix (n : Nat) :
    (nestedPrefix ++ List.replicate n '(').utf8Encode.size = 4 + n := by
  have hprefix : nestedPrefix.utf8Encode.size = 4 := by
    rw [Utf8.size_utf8Encode_eq_foldr]
    decide +kernel
  have hopen : '('.utf8Size = 1 := rfl
  rw [List.utf8Encode_append, ByteArray.size_append, size_replicate, hprefix, hopen, Nat.mul_one]

theorem offset_nestedText (n : Nat) :
    Utf8.Offset (String.ofList (nestedText n)) (21 + 2 * n) (21 + 2 * n) := by
  have hprefix : nestedPrefix.length = 4 := rfl
  have hvalue : valueText.length = 17 := rfl
  have hsize : valueText.utf8Encode.size = 17 := by
    rw [Utf8.size_utf8Encode_eq_foldr]
    decide +kernel
  have hclose : ')'.utf8Size = 1 := rfl
  have hlength : (nestedText n).length = 21 + 2 * n := by
    simp only [nestedText, List.length_append, List.length_replicate, hprefix, hvalue]
    omega
  refine ⟨?_, ?_⟩
  · rw [String.length_ofList, hlength]
  · rw [String.toList_ofList, List.take_of_length_le (Nat.le_of_eq hlength), nestedText,
      List.utf8Encode_append, ByteArray.size_append, size_nestedPrefix, List.utf8Encode_append,
      ByteArray.size_append, hsize, size_replicate, hclose]
    omega

theorem readsAlike_nestedTree (n : Nat) :
    (nestedTree 0).token.ReadsAlike (.ofString (String.ofList (nestedText 0)))
      (.ofString (String.ofList (nestedText n))) (nestedTree n).token := by
  have hstart : ∀ k, Utf8.Offset (String.ofList (nestedText k)) 0 0 := fun k => ⟨Nat.zero_le _, rfl⟩
  exact Token.readsAlike_of_offsets rfl rfl rfl (hstart 0) (offset_nestedText 0) (hstart n)
    (offset_nestedText n) fun hname => absurd hname (by decide)

theorem wraps_unmoved (n : Nat) {c : Concrete}
    (hc : ∀ d ∈ c.nodes, d.LiesInText (String.ofList nestedPrefix)) :
    (c.moved 0).Wraps (.ofString (String.ofList (nestedText 0)))
      (.ofString (String.ofList (nestedText n))) (c.moved 0) := by
  have hwraps := Concrete.wraps_moved hc [] []
    (List.replicate 0 '(' ++ (valueText ++ List.replicate 0 ')'))
    (List.replicate n '(' ++ (valueText ++ List.replicate n ')'))
  simpa only [nestedText, List.nil_append, List.append_assoc, List.utf8Encode_nil,
    ByteArray.size_empty] using hwraps

theorem wraps_valueTree (n : Nat) :
    (valueTree.moved 4).Wraps (.ofString (String.ofList (nestedText 0)))
      (.ofString (String.ofList (nestedText n))) (valueTree.moved (4 + n)) := by
  have hlies : ∀ d ∈ valueTree.nodes, d.LiesInText (String.ofList valueText) := by decide +kernel
  have hwraps := Concrete.wraps_moved hlies (nestedPrefix ++ List.replicate 0 '(')
    (nestedPrefix ++ List.replicate n '(') (List.replicate 0 ')') (List.replicate n ')')
  rw [size_nestedPrefix, size_nestedPrefix] at hwraps
  exact hwraps

theorem exists_encloses_valueTree (n : Nat) :
    ∃ e, (valueTree.moved 4).Wraps (.ofString (String.ofList (nestedText 0)))
        (.ofString (String.ofList (nestedText n))) e ∧
      Concrete.Encloses "variable_declarator" e ((valueTree.moved (4 + n)).nested n) := by
  have hvalue := wraps_valueTree n
  cases n with
  | zero => exact ⟨_, hvalue, .inl rfl⟩
  | succ n =>
    have hfield := Concrete.field_nested (n + 1) (valueTree.moved (4 + (n + 1)))
    refine ⟨_, hvalue.withoutField, .inr ⟨.inr ⟨"value", hfield, by decide⟩, ?_⟩⟩
    exact (Concrete.parenthesizes_nested n rfl).1

theorem wraps_nestedTree (n : Nat) :
    (nestedTree 0).Wraps (.ofString (String.ofList (nestedText 0)))
      (.ofString (String.ofList (nestedText n))) (nestedTree n) := by
  have hname : ∀ d ∈ (Concrete.node (token "identifier" 0 1 (some "name")) []).nodes,
      d.LiesInText (String.ofList nestedPrefix) := by decide +kernel
  have hmark : ∀ d ∈ (mark "=" 2).nodes, d.LiesInText (String.ofList nestedPrefix) := by
    decide +kernel
  obtain ⟨e, he, hencloses⟩ := exists_encloses_valueTree n
  have hfield := Concrete.field_nested n (valueTree.moved (4 + n))
  refine .node (readsAlike_nestedTree n)
    (.cons (wraps_unmoved n hname) (.cons (wraps_unmoved n hmark) (.cons he .nil)))
    (.cons (.inl rfl) (.cons (.inl rfl) (.cons hencloses .nil))) ?_
  simp only [List.map_cons, List.map_nil, hfield]
  rfl

theorem nestedTree_is_transparent :
    (nestedTree 0).Wraps (.ofString (String.ofList (nestedText 0)))
        (.ofString (String.ofList (nestedText 2))) (nestedTree 2) ∧
      Except.Agree Tree.SameExclusions
        (treeOver wideLimits (String.ofList (nestedText 0)) "javascript" "a.js" (nestedTree 0))
        (treeOver wideLimits (String.ofList (nestedText 2)) "javascript" "a.js" (nestedTree 2)) ∧
      ∀ s s', Except.Agree (fun fs fs' => (fs.map (·.data)).Perm (fs'.map (·.data)))
        ((lintSource (.constant (nestedTree 0)) (String.ofList (nestedText 0)) "javascript"
          "a.js").exec s).1
        ((lintSource (.constant (nestedTree 2)) (String.ofList (nestedText 2)) "javascript"
          "a.js").exec s').1 := by
  have hwraps := wraps_nestedTree 2
  have htransparent := parentheses_are_transparent (.constant (nestedTree 0))
    (.constant (nestedTree 2)) .javascript "a.js" (Nat.le_refl _) hwraps
  exact ⟨hwraps, htransparent.resolve_left fun hdeep => absurd hdeep.2 (by decide)⟩

theorem child?_nestedTree (n : Nat) :
    (nestedTree n).child? "value" = some ((valueTree.moved (4 + n)).nested n) := by
  have hfield : ((valueTree.moved (4 + n)).nested n).token.field = some "value" :=
    Concrete.field_nested n _
  change [_, _, _].find? _ = _
  rw [List.find?_cons_of_neg (by decide), List.find?_cons_of_neg (by decide),
    List.find?_cons_of_pos (by simp [hfield])]

theorem treeOver_nestedTree_ne_ok {limits : Limits} {n : Nat} (hn : limits.lowering ≤ n)
    (source language path : String) (t : Tree) :
    treeOver limits source language path (nestedTree n) ≠ .ok t := by
  intro h
  have hlowered := treeOver_eq_ok h
  generalize limits.lowering = levels at hn hlowered
  obtain _ | levels := levels
  · cases hlowered
  have hlevels : levels ≤ n := Nat.le_of_succ_le hn
  change Lower.declarator _ (fun parent => Lower.ofConcrete _ levels (some parent)) (nestedTree n) = _
    at hlowered
  obtain ⟨_, _, hlowered⟩ := Except.bind_eq_ok hlowered
  obtain ⟨_, _, hlowered⟩ := Except.bind_eq_ok hlowered
  obtain ⟨_, _, hlowered⟩ := Except.bind_eq_ok hlowered
  obtain ⟨value, hvalue, _⟩ := Except.bind_eq_ok hlowered
  rw [Lower.child?, child?_nestedTree] at hvalue
  dsimp only at hvalue
  rw [(Lower.tooDeep_nested rfl hlevels _).1] at hvalue
  cases hvalue

def nestedArrow : Node :=
  .function ⟨4, 21⟩ .arrow
    [.bareName ⟨5, 6⟩ (.str "a"), .bareName ⟨8, 9⟩ (.str "b"), .bareName ⟨11, 12⟩ (.str "c"),
      .bareName ⟨14, 15⟩ (.str "d")]
    none (some (.bareName ⟨20, 21⟩ (.str "a"))) none

def declaredTree : Tree :=
  .build (.declarator ⟨0, 21⟩ (.bareName ⟨0, 1⟩ (.str "f")) (some nestedArrow))
    (SourceText.ofString (String.ofList (nestedText 0)))

/-- A function is reported where it stands without parentheses, and its text is refused where
parentheses nest it too deeply. -/
theorem deep_parentheses_are_refused :
    (nestedTree 0).Wraps (.ofString (String.ofList (nestedText 0)))
        (.ofString (String.ofList (nestedText 1600))) (nestedTree 1600) ∧
      (∃ fs s', (lintSource (.constant (nestedTree 0)) (String.ofList (nestedText 0)) "javascript"
        "a.js").exec {} = (.ok fs, s') ∧ fs ≠ []) ∧
      ∀ s fs s', (lintSource (.constant (nestedTree 1600)) (String.ofList (nestedText 1600))
        "javascript" "a.js").exec s ≠ (.ok fs, s') := by
  have ht : treeOver wideLimits (String.ofList (nestedText 0)) Language.javascript.name "a.js"
      (nestedTree 0) = .ok declaredTree := rfl
  obtain ⟨vs, hvs, hlints⟩ := lints_report (g := .constant (nestedTree 0)) ht
    (Concrete.allKinds_genuine (by decide))
  have hvalue : (Visit.root declaredTree.root).Reaches _ :=
    .step .refl (List.mem_of_getElem? (i := 1) rfl)
  have hmem := (hvs.mem_iff _).2 ⟨hvalue, ⟨⟨_, rfl, by decide⟩, nofun⟩⟩
  obtain ⟨parsers, notes, hexec, _⟩ := hlints {}
  have hne : vs.map declaredTree.report ≠ [] := List.ne_nil_of_mem (List.mem_map_of_mem hmem)
  refine ⟨wraps_nestedTree 1600, ⟨_, _, hexec, hne⟩, fun s fs s' hdeep => ?_⟩
  change (lintSource _ _ Language.javascript.name _).exec s = _ at hdeep
  obtain ⟨t, _, htree, _⟩ := exec_lintSource_tree hdeep
  exact treeOver_nestedTree_ne_ok (by decide) _ _ _ t htree

end Instances

end ArityLint
