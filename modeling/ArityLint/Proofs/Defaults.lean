import ArityLint.Proofs.ParameterLists
import ArityLint.Proofs.Parameters
import ArityLint.Proofs.Written

namespace ArityLint

namespace Concrete

def default? (c : Concrete) : Option Concrete :=
  match Form.ofKind c.kind with
  | .parameter _ => c.child? "value"
  | .assignmentPattern => c.child? "right"
  | _ => none

/-- What a node holds within its parentheses, however many there are. -/
inductive Unwraps : Concrete → Concrete → Prop
  | bare {c : Concrete} (h : c.kind = "parenthesized_expression" → c.parts = []) : Unwraps c c
  | inner {c d e : Concrete} : c.kind = "parenthesized_expression" → c.parts.head? = some d →
      Unwraps d e → Unwraps c e

/-- The range of a node starts and ends with characters. -/
def LiesInText (source : String) (c : Concrete) : Prop :=
  (∃ i, Utf8.Offset source c.start i) ∧ ∃ i, Utf8.Offset source c.stop i

instance (source : String) (c : Concrete) : Decidable (c.LiesInText source) :=
  show Decidable (_ ∧ _) from inferInstance

def IsWritten (source : String) (c : Concrete) (text : String) : Prop :=
  (Utf8.Encoded.ofString source).text c.start c.stop = .ok text

/-- No typed parameter, the range of which is put together from its children. -/
def IsValue (c : Concrete) : Prop := ∀ optional, Form.ofKind c.kind ≠ .parameter optional

variable {c d e : Concrete}

theorem Unwraps.contains (h : c.Unwraps e) : c.Contains e := by
  induction h with
  | bare => exact .self _
  | inner _ hd _ ih => exact .under (mem_children_of_mem_parts (List.mem_of_head? hd)) ih

theorem Unwraps.eq_self (h : c.Unwraps e) (hc : c.kind ≠ "parenthesized_expression") : e = c := by
  cases h with
  | bare => rfl
  | inner hkind => exact absurd hkind hc

theorem mem_children_of_default? (h : c.default? = some d) : d ∈ c.children := by
  unfold default? at h
  split at h
  · exact mem_children_of_child? h
  · exact mem_children_of_child? h
  · cases h

theorem contains_of_mem_parameters (h : d ∈ c.parameters) : c.Contains d := by
  unfold parameters at h
  split at h
  · next bare _ hbare =>
    obtain rfl := List.mem_singleton.1 h
    exact .child (mem_children_of_child? hbare)
  · cases hlist : c.child? "parameters" with
    | none =>
      rw [hlist] at h
      cases h
    | some list =>
      rw [hlist] at h
      exact (Contains.child (mem_children_of_child? hlist)).trans
        (.child (mem_children_of_mem_parts h))

end Concrete

theorem Form.ofKind_eq_parenthesized {kind : String} :
    Form.ofKind kind = .parenthesized ↔ kind = "parenthesized_expression" := by
  constructor
  · intro h
    unfold Form.ofKind at h
    split at h <;> first | rfl | cases h
  · rintro rfl
    rfl

namespace Node

def default? : Node → Option Node
  | assignmentPattern _ _ right _ | parameterProperty _ (assignmentPattern _ _ right _) .. =>
    some right
  | _ => none

theorem default?_of_classify {n : Node} {src : SourceText} {span : Span} {name : Value}
    {text : String} {typeText kind : Option String}
    (h : n.classify src = .ok (.defaulted span name text typeText kind)) :
    ∃ right, n.default? = some right ∧ text = right.text src := by
  unfold classify at h
  split at h
  · cases h
  · split at h
    · obtain ⟨m, _, hm⟩ := Except.map_eq_ok h
      cases hm
    · cases h
      exact ⟨_, rfl, rfl⟩
    · cases h
    · cases h
      exact ⟨_, rfl, rfl⟩
    · split at h <;> cases h
    all_goals cases h

theorem default?_decorate (start : Int) (ds : List Node) (n : Node) :
    (Lower.decorate start ds n).default? = n.default? := by
  cases n <;> rfl

end Node

namespace Lower

variable {code : Utf8.Encoded} {lower : String → Concrete → Lowering Node} {c v : Concrete}
  {n right : Node}

theorem default?_withValue {s : Span} {plain : Node} (hv : c.child? "value" = some v)
    (h : withValue code lower c s plain = .ok n) :
    ∃ s' right, n = .assignmentPattern s' plain right [] ∧ lower c.kind v = .ok right := by
  rw [withValue, hv] at h
  obtain ⟨stop, _, h⟩ := Except.bind_eq_ok h
  obtain ⟨right, hright, h⟩ := Except.bind_eq_ok h
  cases h
  exact ⟨_, right, rfl, hright⟩

theorem default?_parameter {optional : Bool} (hv : c.child? "value" = some v)
    (h : parameter code lower c optional = .ok n) :
    ∃ right, n.default? = some right ∧ lower c.kind v = .ok right := by
  obtain ⟨declared, _, h⟩ := Except.bind_eq_ok h
  obtain ⟨bound, _, h⟩ := Except.bind_eq_ok h
  obtain ⟨b, _, h⟩ := Except.bind_eq_ok h
  obtain ⟨s, _, h⟩ := Except.bind_eq_ok h
  obtain ⟨plain, _, h⟩ := Except.bind_eq_ok h
  obtain ⟨binding, hbinding, h⟩ := Except.bind_eq_ok h
  obtain ⟨outer, _, h⟩ := Except.bind_eq_ok h
  obtain ⟨s', right, rfl, hright⟩ := default?_withValue hv hbinding
  split at h
  · obtain ⟨stop, _, h⟩ := Except.bind_eq_ok h
    cases h
    exact ⟨right, rfl, hright⟩
  · cases h
    refine ⟨right, ?_, hright⟩
    split
    · rfl
    · exact Node.default?_decorate _ _ _

theorem Lowers.default? (h : Lowers code c n) (hv : c.default? = some v) :
    ∃ right, n.default? = some right ∧ Lowers code v right := by
  obtain ⟨levels, parent, h⟩ := h
  cases levels with
  | zero => cases h
  | succ levels =>
    unfold ofConcrete node at h
    unfold Concrete.default? at hv
    split at hv
    · next optional hform =>
      rw [hform] at h
      obtain ⟨right, hn, hright⟩ := default?_parameter hv h
      exact ⟨right, hn, levels, _, hright⟩
    · next hform =>
      rw [hform] at h
      obtain ⟨s, _, h⟩ := Except.bind_eq_ok h
      obtain ⟨left, _, h⟩ := Except.bind_eq_ok h
      obtain ⟨right, hright, h⟩ := Except.bind_eq_ok h
      obtain ⟨d, hd, hright⟩ := Except.bind_eq_ok hright
      cases h
      obtain rfl : d = v := Option.some.inj ((need_eq_ok hd).symm.trans hv)
      exact ⟨right, rfl, levels, _, hright⟩
    · cases hv

theorem Lowers.unwraps (h : Lowers code c n) :
    ∃ e, c.Unwraps e ∧ (e.IsValue → spanOf code e = .ok n.span) := by
  obtain ⟨levels, parent, h⟩ := h
  induction levels generalizing parent c n with
  | zero => cases h
  | succ levels ih =>
    unfold ofConcrete at h
    by_cases hform : Form.ofKind c.kind = .parenthesized
    · rw [node, hform] at h
      have hkind := Form.ofKind_eq_parenthesized.1 hform
      dsimp only at h
      split at h
      · next hparts => exact ⟨c, .bare fun _ => hparts, fun _ => span_other h⟩
      · next d ds hparts =>
        obtain ⟨e, he, hspan⟩ := ih _ h
        exact ⟨e, .inner hkind (by rw [hparts]; rfl) he, hspan⟩
    · have hkind := mt Form.ofKind_eq_parenthesized.2 hform
      exact ⟨c, .bare fun hc => absurd hc hkind, fun hvalue => spanOf_of_node hform hvalue h⟩

theorem isWritten_of_spanOf {source : String} {e : Concrete} (he : e.LiesInText source)
    (h : spanOf (Utf8.Encoded.ofString source) e = .ok n.span) :
    e.IsWritten source (n.text (SourceText.ofString source)) := by
  obtain ⟨⟨i, hi⟩, j, hj⟩ := he
  rw [spanOf, span_of_offset hi hj, Except.ok.injEq] at h
  rw [Node.text, Node.start, Node.stop, ← h]
  exact hi.text_eq hj

end Lower

/-- The text of the default of a parameter is that of what its parentheses hold. -/
def KeepsDefault (source : String) (c : Concrete) (n : Node) : Prop :=
  ∀ v ∈ c.default?, ∀ span name text typeText kind,
    n.classify (SourceText.ofString source) = .ok (.defaulted span name text typeText kind) →
      ∃ e, v.Unwraps e ∧ (v.kind ≠ "parenthesized_expression" → e = v) ∧
        (e.IsValue → e.IsWritten source text)

theorem Lower.Lowers.keepsDefault {source : String} {c : Concrete} {n : Node}
    (h : Lowers (Utf8.Encoded.ofString source) c n)
    (hc : ∀ d, c.Contains d → d.LiesInText source) : KeepsDefault source c n := by
  intro v hv span name text typeText kind hclass
  obtain ⟨right, hright, rfl⟩ := Node.default?_of_classify hclass
  obtain ⟨right', hright', hlow⟩ := h.default? hv
  obtain rfl : right' = right := Option.some.inj (hright'.symm.trans hright)
  obtain ⟨e, he, hspan⟩ := hlow.unwraps
  have hin := hc e ((Concrete.Contains.child (Concrete.mem_children_of_default? hv)).trans
    he.contains)
  exact ⟨e, he, he.eq_self, fun hvalue => isWritten_of_spanOf hin (hspan hvalue)⟩

theorem joinTexts_eq_ok {separator s : String} {items : List Value}
    (h : joinTexts separator items = .ok s) :
    ∃ texts : List String, items = texts.map .str ∧ s = separator.intercalate texts := by
  obtain ⟨texts, htexts, h⟩ := Except.bind_eq_ok h
  cases h
  have hmap := Except.map_eq_of_mapM (g := (·.1)) (k := .str) htexts fun x t hx => by
    obtain ⟨v, i⟩ := x
    cases v with
    | str s =>
      cases hx
      rfl
    | _ => cases hx
  rw [List.zipIdx_map_fst] at hmap
  exact ⟨texts, hmap.symm, rfl⟩

/-- The object pattern of an options text has one entry for each descriptor; a type may follow. -/
theorem optionsText_eq_ok {ds : List Descriptor} {s : String} (h : optionsText ds = .ok s) :
    ∃ entries type, ds.map (·.entry) = entries.map .str ∧
      s = "\x7b " ++ ", ".intercalate entries ++ " \x7d" ++ type ∧
      (type = "" ∨ ∃ members, type = ": \x7b " ++ members ++ " \x7d") := by
  obtain ⟨pattern, hpattern, h⟩ := Except.bind_eq_ok h
  obtain ⟨joined, hjoined, hpattern⟩ := Except.bind_eq_ok hpattern
  cases hpattern
  obtain ⟨entries, hentries, rfl⟩ := joinTexts_eq_ok hjoined
  split at h
  · obtain ⟨type, htype, h⟩ := Except.bind_eq_ok h
    obtain ⟨members, _, htype⟩ := Except.bind_eq_ok htype
    cases htype
    cases h
    refine ⟨entries, ": \x7b " ++ members ++ " \x7d", hentries, ?_, .inr ⟨members, rfl⟩⟩
    simp only [String.append_assoc]
    rfl
  · cases h
    exact ⟨entries, "", hentries, String.append_empty.symm, .inl rfl⟩

/-- The entry of a parameter that has a default is its name and the default. -/
def WritesDefault (src : SourceText) (n : Node) (entry : String) : Prop :=
  ∀ span name text typeText kind,
    n.classify src = .ok (.defaulted span name text typeText kind) →
      entry = name.text ++ " = " ++ text

theorem editOf_text {params : List Node} {src : SourceText} {e : Edit}
    (h : editOf params src = .ok (some e)) :
    ∃ entries type, e.text = "\x7b " ++ ", ".intercalate entries ++ " \x7d" ++ type ∧
      (type = "" ∨ ∃ members, type = ": \x7b " ++ members ++ " \x7d") ∧
      List.Forall₂ (WritesDefault src) params entries := by
  obtain ⟨ps, hps, hedit⟩ := Except.bind_eq_ok h
  have htext : optionsText (ps.map (·.describe)) = .ok e.text := by
    cases ps with
    | nil => cases hedit
    | cons p others =>
      simp only [optionsEdit?] at hedit
      split at hedit
      · obtain ⟨text, htext, hedit⟩ := Except.bind_eq_ok hedit
        cases hedit
        exact htext
      · cases hedit
  obtain ⟨entries, type, hentries, heq, htype⟩ := optionsText_eq_ok htext
  refine ⟨entries, type, heq, htype, ?_⟩
  rw [List.map_map] at hentries
  have hshapes := Except.forall₂_of_mapM hps
  clear hps hedit htext heq h
  induction hshapes generalizing entries with
  | nil =>
    obtain rfl := List.map_eq_nil_iff.1 hentries.symm
    exact .nil
  | cons hclass _ ih =>
    obtain ⟨entry, others, rfl, hentry, hothers⟩ := List.map_eq_cons_iff.1 hentries.symm
    refine .cons ?_ (ih others hothers.symm)
    intro span name text typeText kind hdefaulted
    cases hclass.symm.trans hdefaulted
    cases hentry
    rfl

theorem treeOver_source {limits : Limits} {source language path : String} {c : Concrete} {t : Tree}
    (h : treeOver limits source language path c = .ok t) : t.source = SourceText.ofString source := by
  unfold treeOver at h
  dsimp only at h
  split at h
  · split at h <;> cases h
  · split at h <;> cases h
    rfl

/-- Each function of a tree has the range and the parameters of a concrete function. A default has
the text of the concrete one, or of what its parentheses hold, and an edit writes `name = text` with
that text among the entries of its object, which are one for each parameter. -/
theorem treeOver_writes_defaults {limits : Limits} {source language path : String} {c : Concrete}
    {t : Tree}
    (h : treeOver limits source language path c = .ok t) (hc : ∀ d ∈ c.nodes, d.LiesInText source)
    {v : Visit} (hv : v ∈ t.functions) :
    ∃ d ∈ c.functionLikes,
      Lower.span (Utf8.Encoded.ofString source) d.functionStart d.stop = .ok v.node.span ∧
      ∃ params, v.node.params? = some params ∧
        List.Forall₂ (KeepsDefault source) d.parameters params ∧
        ∀ e, editOf params t.source = .ok (some e) → ∃ entries type,
          e.text = "\x7b " ++ ", ".intercalate entries ++ " \x7d" ++ type ∧
          (type = "" ∨ ∃ members, type = ": \x7b " ++ members ++ " \x7d") ∧
          List.Forall₂ (WritesDefault (SourceText.ofString source)) params entries := by
  obtain ⟨d, hd, hspan, params, hparams, hlowers⟩ := treeOver_declares h hv
  have hcontains : c.Contains d := Concrete.mem_nodes.1 (List.mem_filter.1 hd).1
  have hbelow : ∀ p ∈ d.parameters, c.Contains p := fun p hp =>
    hcontains.trans (Concrete.contains_of_mem_parameters hp)
  have hkeeps := ((List.forall₂_and_left _ _).2 ⟨hbelow, hlowers⟩).imp fun p m ⟨hp, hpm⟩ =>
    hpm.keepsDefault fun e he => hc e (Concrete.mem_nodes.2 (hp.trans he))
  exact ⟨d, hd, hspan, params, hparams, hkeeps, fun e he => editOf_text (treeOver_source h ▸ he)⟩

section Instances

open Node

/-- What replaces the parameters of the typed arrow function. -/
def typedText : String := "\x7b é, b, c, d = 1 \x7d: \x7b é: T; b?: any; c: any; d?: number \x7d"

theorem typedTree_writes_defaults :
    ∃ t v d params,
      treeOver wideLimits typedSource Language.typescript.name "a.ts" typedTree = .ok t ∧
      (∀ d ∈ typedTree.nodes, d.LiesInText typedSource) ∧ v ∈ t.functions ∧
      d ∈ typedTree.functionLikes ∧ v.node.params? = some params ∧
      List.Forall₂ (KeepsDefault typedSource) d.parameters params ∧
      editOf params t.source = .ok (some ⟨⟨1, 19⟩, typedText⟩) ∧
      ∃ entries type, typedText = "\x7b " ++ ", ".intercalate entries ++ " \x7d" ++ type ∧
        List.Forall₂ (WritesDefault (SourceText.ofString typedSource)) params entries := by
  have hin : ∀ d ∈ typedTree.nodes, d.LiesInText typedSource := fun d hd =>
    ⟨(isLaidOut_typedTree.placed d hd).start, (isLaidOut_typedTree.placed d hd).stop⟩
  obtain ⟨v, hv, hnode⟩ : ∃ v ∈ (Tree.build typedRoot (SourceText.ofString typedSource)).functions,
      v.node = typedArrow := by
    have hstatement : (Visit.root typedRoot).Reaches _ :=
      .step .refl (List.mem_of_getElem? (i := 0) rfl)
    have harrow := hstatement.step (List.mem_of_getElem? (i := 0) rfl)
    exact ⟨_, List.mem_filter.2 ⟨Tree.mem_walk.2 harrow, rfl⟩, rfl⟩
  obtain ⟨d, hd, -, params, hparams, hkeeps, hedit⟩ :=
    treeOver_writes_defaults treeOver_typedTree hin hv
  have he : editOf params (SourceText.ofString typedSource) = .ok (some ⟨⟨1, 19⟩, typedText⟩) := by
    rw [hnode] at hparams
    cases hparams
    rfl
  obtain ⟨entries, type, htext, -, hwrites⟩ := hedit _ he
  exact ⟨_, v, d, params, treeOver_typedTree, hin, hv, hd, hparams, hkeeps, he, entries, type, htext,
    hwrites⟩

/-- `function f(a = (1, x), b, c, d) {}` -/
def sequenceTree : Concrete :=
  .node (token "program" 0 34 none)
    [.node (token "function_declaration" 0 34 none)
      [mark "function" 0, .node (token "identifier" 9 10 (some "name")) [],
        .node (token "formal_parameters" 10 31 (some "parameters"))
          [mark "(" 10,
            .node (token "assignment_pattern" 11 21 none)
              [.node (token "identifier" 11 12 (some "left")) [], mark "=" 13, sequenceDefault],
            mark "," 21, .node (token "identifier" 23 24 none) [],
            mark "," 24, .node (token "identifier" 26 27 none) [],
            mark "," 27, .node (token "identifier" 29 30 none) [], mark ")" 30],
        .node (token "statement_block" 32 34 (some "body")) [mark "\x7b" 32, mark "\x7d" 33]]]
where
  /-- The default, a sequence in parentheses. -/
  sequenceDefault : Concrete :=
    .node (token "parenthesized_expression" 15 21 (some "right"))
      [mark "(" 15,
        .node (token "sequence_expression" 16 20 none)
          [.node (token "number" 16 17 none) [], mark "," 17,
            .node (token "identifier" 19 20 none) []],
        mark ")" 20]

def sequenceSource : String := "function f(a = (1, x), b, c, d) \x7b\x7d"

/-- The default `(1, x)` loses its parentheses, so the edit has the property `x` besides the four
parameters. -/
theorem sequenceTree_splits_default :
    sequenceTree.token.hasError = false ∧ (∀ d ∈ sequenceTree.nodes, d.LiesInText sequenceSource) ∧
      ∃ t v params p n,
        treeOver wideLimits sequenceSource Language.javascript.name "a.js" sequenceTree = .ok t ∧
        v ∈ t.functions ∧ v.node.params? = some params ∧ params.head? = some n ∧
        (∃ d ∈ sequenceTree.functionLikes, d.parameters.head? = some p) ∧
        p.default? = some sequenceTree.sequenceDefault ∧
        sequenceTree.sequenceDefault.IsWritten sequenceSource "(1, x)" ∧
        n.classify t.source = .ok (.defaulted ⟨11, 21⟩ (.str "a") "1, x" none none) ∧
        editOf params t.source = .ok (some ⟨⟨11, 30⟩, "\x7b a = 1, x, b, c, d \x7d"⟩) := by
  obtain ⟨t, ht, hroot, hsource⟩ : ∃ t,
      treeOver wideLimits sequenceSource Language.javascript.name "a.js" sequenceTree = .ok t ∧ t.root = .other ⟨0, 34⟩ (.str "program")
        [.function ⟨0, 34⟩ .declaration
          [.assignmentPattern ⟨11, 21⟩ (.bareName ⟨11, 12⟩ (.str "a"))
              (.other ⟨16, 20⟩ (.str "sequence_expression")
                [.literal ⟨16, 17⟩ .number (.str "1") (.str "1"), .bareName ⟨19, 20⟩ (.str "x")]) [],
            .bareName ⟨23, 24⟩ (.str "b"), .bareName ⟨26, 27⟩ (.str "c"),
            .bareName ⟨29, 30⟩ (.str "d")]
          (some (.bareName ⟨9, 10⟩ (.str "f")))
          (some (.other ⟨32, 34⟩ (.str "statement_block") [])) none] ∧
      t.source = SourceText.ofString sequenceSource := ⟨_, rfl, rfl, rfl⟩
  have hfunction : (Visit.root t.root).Reaches _ :=
    .step .refl (List.mem_of_getElem? (i := 0) (by rw [hroot]; rfl))
  refine ⟨rfl, by decide +kernel, t, _, _, _, _, ht,
    List.mem_filter.2 ⟨Tree.mem_walk.2 hfunction, rfl⟩, rfl, rfl,
    ⟨_, List.mem_of_getElem? (i := 0) rfl, rfl⟩, rfl, rfl, ?_, ?_⟩
  · rw [hsource]
    rfl
  · rw [hsource]
    rfl

end Instances

end ArityLint
