import ArityLint.Proofs.Parameters

namespace ArityLint

namespace Node

/-- What a parameter binds, looking through the promotion to a field and through defaults. -/
def binding : Node → Node
  | parameterProperty _ p .. => p.binding
  | assignmentPattern _ left .. => left.binding
  | n => n

/-- A rest parameter or a destructuring, which has no name of its own. -/
def IsCompound : Node → Prop
  | restElement .. | objectPattern .. | arrayPattern .. => True
  | _ => False

/-- The parameter by which a function declares the type of its `this`. -/
def IsThis : Node → Prop
  | identifier _ name .. => name = .str "this"
  | _ => False

/-- The parameter cannot be merged with others into one object. -/
def IsHazard (n : Node) : Prop := n.binding.IsCompound ∨ n.decorators ≠ [] ∨ n.IsThis

/-- Without decorators no more is looked at than the promoted parameter as a whole, whether a
default stands directly at a destructuring, and that a name is a name. -/
def IsOverlooked (n : Node) : Prop :=
  n.decorators = [] ∧
    match n with
    | parameterProperty .. => True
    | assignmentPattern _ left .. => left.isPattern = false
    | n => n.IsThis

/-- The shapes that cannot be merged are those of the parameters that are seen to be hazards. -/
theorem mergeable_of_classify {n : Node} {src : SourceText} {p : Parameter}
    (h : n.classify src = .ok p) : p.mergeable = false ↔ n.IsHazard ∧ ¬n.IsOverlooked := by
  unfold classify at h
  split at h
  · next hdecorated =>
    have hne : n.decorators ≠ [] := by simpa using hdecorated
    cases h
    exact ⟨fun _ => ⟨.inr (.inl hne), fun ho => hne ho.1⟩, fun _ => rfl⟩
  · next hplain =>
    have hnil : n.decorators = [] := by simpa using hplain
    split at h
    · -- whatever a promoted parameter holds, it can be merged
      obtain ⟨m, _, rfl⟩ := Except.map_eq_ok h
      exact ⟨nofun, fun hn => absurd ⟨hnil, trivial⟩ hn.2⟩
    · cases h
      exact ⟨nofun, fun hn => absurd ⟨hnil, trivial⟩ hn.2⟩
    · cases h
      refine ⟨nofun, fun ⟨hhazard, hseen⟩ => absurd ⟨hnil, ?_⟩ hseen⟩
      exact (hhazard.resolve_left nofun).resolve_left (not_not_intro hnil)
    · cases h
      exact ⟨nofun, fun hn => absurd ⟨hnil, rfl⟩ hn.2⟩
    · next left _ _ _ =>
      cases h
      cases hleft : left.isPattern with
      | true =>
        refine ⟨fun _ => ⟨.inl ?_, fun ho => Bool.noConfusion (hleft.symm.trans ho.2)⟩, fun _ => rfl⟩
        cases left <;> trivial
      | false => exact ⟨nofun, fun hn => absurd ⟨hnil, hleft⟩ hn.2⟩
    · cases h
      exact ⟨fun _ => ⟨.inl trivial, fun ho => ho.2⟩, fun _ => rfl⟩
    · cases h
      exact ⟨fun _ => ⟨.inl trivial, fun ho => ho.2⟩, fun _ => rfl⟩
    · cases h
      exact ⟨fun _ => ⟨.inl trivial, fun ho => ho.2⟩, fun _ => rfl⟩
    · next _ _ hname _ hdefault hrest hobject harray =>
      cases h
      cases n with
      | parameterProperty => exact ⟨nofun, fun hn => absurd ⟨hnil, trivial⟩ hn.2⟩
      | identifier => exact (hname _ _ _ _ _ rfl).elim
      | assignmentPattern => exact (hdefault _ _ _ _ rfl).elim
      | restElement => exact (hrest _ _ _ _ rfl).elim
      | objectPattern => exact (hobject _ _ _ _ rfl).elim
      | arrayPattern => exact (harray _ _ _ _ rfl).elim
      | _ =>
        exact ⟨nofun, fun hn => ((hn.1.resolve_left nofun).resolve_left (not_not_intro hnil)).elim⟩

theorem exists_classify {n : Node} (src : SourceText) (h : n.HasTextModifier) :
    ∃ p, n.classify src = .ok p := by
  unfold classify
  split
  · exact ⟨_, rfl⟩
  · split
    · obtain ⟨m, hm⟩ := modifierText_ok _ _ h
      rw [hm]
      exact ⟨_, rfl⟩
    all_goals exact ⟨_, rfl⟩

end Node

/-- A list of shapes has no edit exactly when it is empty or has a shape that cannot be merged. -/
theorem optionsEdit?_eq_none_iff {ps : List Parameter} :
    optionsEdit? ps = .ok none ↔ ps = [] ∨ ∃ p ∈ ps, p.mergeable = false := by
  cases ps with
  | nil => simp [optionsEdit?]
  | cons first others =>
    unfold optionsEdit?
    dsimp only
    split
    · next hall =>
      constructor
      · intro h
        obtain ⟨text, -, h⟩ := Except.bind_eq_ok h
        cases h
      · rintro (h | ⟨p, hp, hmerge⟩)
        · cases h
        · rw [List.all_eq_true.1 hall p hp] at hmerge
          cases hmerge
    · next hall =>
      obtain ⟨p, hp, hmerge⟩ := List.all_eq_false.1 (Bool.not_eq_true _ ▸ hall)
      exact ⟨fun _ => .inr ⟨p, hp, Bool.not_eq_true _ ▸ hmerge⟩, fun _ => rfl⟩

/-- A function has no edit exactly when it has no parameters or one that is seen to be a hazard. -/
theorem optionsEdit?_of_classify {params : List Node} {src : SourceText} {ps : List Parameter}
    (h : params.mapM (·.classify src) = .ok ps) :
    optionsEdit? ps = .ok none ↔ params = [] ∨ ∃ n ∈ params, n.IsHazard ∧ ¬n.IsOverlooked := by
  have hshapes := Except.forall₂_of_mapM h
  have hempty : ps = [] ↔ params = [] := by
    rw [← List.length_eq_zero_iff, ← List.length_eq_zero_iff, hshapes.length_eq]
  rw [optionsEdit?_eq_none_iff, hempty]
  apply or_congr_right
  constructor
  · rintro ⟨p, hp, hmerge⟩
    obtain ⟨n, hn, hnp⟩ := Except.exists_of_mem_mapM h hp
    exact ⟨n, hn, (Node.mergeable_of_classify hnp).1 hmerge⟩
  · rintro ⟨n, hn, hseen⟩
    obtain ⟨p, hp, hnp⟩ := exists_mem_of_forall₂ hshapes hn
    exact ⟨p, hp, (Node.mergeable_of_classify hnp).2 hseen⟩

/-- A function whose parameters cannot be merged, where this is seen, has no edit, and neither has
its finding; with texts for modifiers the shapes of its parameters can be told. -/
theorem no_edit_of_hazard {t : Tree} {v : Visit} (hv : v ∈ t.functions) :
    ∃ params, v.node.params? = some params ∧
      ((∀ n ∈ params, n.HasTextModifier) → ∃ ps, params.mapM (·.classify t.source) = .ok ps) ∧
      (∀ ps, params.mapM (·.classify t.source) = .ok ps →
        (optionsEdit? ps = .ok none ↔
          params = [] ∨ ∃ n ∈ params, n.IsHazard ∧ ¬n.IsOverlooked)) ∧
      ∀ f, findingAt t v = .ok (some f) → (∃ n ∈ params, n.IsHazard ∧ ¬n.IsOverlooked) →
        f.edit = none := by
  obtain ⟨params, hparams⟩ := Option.isSome_iff_exists.1 (List.mem_filter.1 hv).2
  refine ⟨params, hparams, fun h => ?_, fun ps => optionsEdit?_of_classify, fun f hf hseen => ?_⟩
  · exact Except.exists_mapM_eq_ok fun n hn => Node.exists_classify t.source (h n hn)
  · obtain ⟨params', hparams', -, -, hedit⟩ := findingAt_eq_some hf
    cases hparams.symm.trans hparams'
    obtain ⟨ps, hps, hedit⟩ := Except.bind_eq_ok hedit
    rw [(optionsEdit?_of_classify hps).2 (.inr hseen)] at hedit
    exact (Except.ok.inj hedit).symm

section Instances

open Node

/-- `function f({ a } = {}, b, c, ...r) {}` -/
def restTree : Tree :=
  .build
    (.function ⟨0, 37⟩ .declaration
      [.assignmentPattern ⟨11, 21⟩ (.objectPattern ⟨11, 16⟩ [bareName ⟨13, 14⟩ (.str "a")] none [])
          (.other ⟨19, 21⟩ (.str "object") []) [],
        bareName ⟨23, 24⟩ (.str "b"), bareName ⟨26, 27⟩ (.str "c"),
        .restElement ⟨29, 33⟩ (bareName ⟨32, 33⟩ (.str "r")) none []]
      (some (bareName ⟨9, 10⟩ (.str "f"))) none none)
    (SourceText.ofString "function f(\x7b a \x7d = \x7b\x7d, b, c, ...r) \x7b\x7d")

theorem restTree_has_no_edit :
    ∃ v ∈ restTree.functions, ∃ params f, v.node.params? = some params ∧
      (∃ n ∈ params, n.IsHazard ∧ ¬n.IsOverlooked) ∧ findingAt restTree v = .ok (some f) ∧
      f.edit = none := by
  have hv : Visit.root restTree.root ∈ restTree.functions :=
    List.mem_filter.2 ⟨Tree.mem_walk.2 .refl, rfl⟩
  obtain ⟨params, hparams, -, -, hnone⟩ := no_edit_of_hazard hv
  have hseen : ∃ n ∈ params, n.IsHazard ∧ ¬n.IsOverlooked := by
    cases hparams
    exact ⟨_, List.mem_cons_self, .inl trivial, fun ho => Bool.noConfusion ho.2⟩
  obtain ⟨f, hf⟩ : ∃ f, findingAt restTree (Visit.root restTree.root) = .ok (some f) := by
    rw [findingAt, Tree.place_eq .refl]
    exact ⟨_, rfl⟩
  exact ⟨_, hv, params, f, hparams, hseen, hf, hnone f hf hseen⟩

/-- A typed parameter that is a bare name of one letter. -/
def letter (start : Nat) : Concrete :=
  .node (token "required_parameter" start (start + 1) none)
    [.node (token "identifier" start (start + 1) (some "pattern")) []]

/-- `class A { constructor(private { a }, b, c, d) {} m(this: A, e, f, g) {} }` -/
def hazardTree : Concrete :=
  .node (token "program" 0 73 none)
    [.node (token "class_declaration" 0 73 none)
      [mark "class" 0, .node (token "type_identifier" 6 7 (some "name")) [],
        .node (token "class_body" 8 73 (some "body"))
          [mark "\x7b" 8,
            .node (token "method_definition" 10 48 none)
              [.node (token "property_identifier" 10 21 (some "name")) [],
                .node (token "formal_parameters" 21 45 (some "parameters"))
                  [mark "(" 21, promoted, mark "," 35, letter 37, mark "," 38, letter 40,
                    mark "," 41, letter 43, mark ")" 44],
                block 46],
            .node (token "method_definition" 49 71 none)
              [.node (token "property_identifier" 49 50 (some "name")) [],
                .node (token "formal_parameters" 50 68 (some "parameters"))
                  [mark "(" 50, typedThis, mark "," 58, letter 60, mark "," 61, letter 63,
                    mark "," 64, letter 66, mark ")" 67],
                block 69],
            mark "\x7d" 72]]]
where
  block (start : Nat) : Concrete :=
    .node (token "statement_block" start (start + 2) (some "body"))
      [mark "\x7b" start, mark "\x7d" (start + 1)]
  promoted : Concrete :=
    .node (token "required_parameter" 22 35 none)
      [.node (token "accessibility_modifier" 22 29 none) [mark "private" 22],
        .node (token "object_pattern" 30 35 (some "pattern"))
          [mark "\x7b" 30, .node (token "shorthand_property_identifier_pattern" 32 33 none) [],
            mark "\x7d" 34]]
  typedThis : Concrete :=
    .node (token "required_parameter" 51 58 none)
      [.node (token "this" 51 55 (some "pattern")) [],
        .node (token "type_annotation" 55 58 (some "type"))
          [mark ":" 55, .node (token "type_identifier" 57 58 none) []]]

def hazardSource : String :=
  "class A \x7b constructor(private \x7b a \x7d, b, c, d) \x7b\x7d " ++
    "m(this: A, e, f, g) \x7b\x7d \x7d"

/-- A function of a class with the parameter `first` and three bare names. -/
def memberFunction (span nameSpan body : Span) (name : String) (first : Node)
    (others : List (Span × String)) : Node :=
  .function span .expression (first :: others.map fun (s, x) => bareName s (.str x))
    (some (bareName nameSpan (.str name))) (some (.other body (.str "statement_block") [])) none

def constructorFunction : Node :=
  memberFunction ⟨21, 48⟩ ⟨10, 21⟩ ⟨46, 48⟩ "constructor"
    (.parameterProperty ⟨22, 35⟩
      (.objectPattern ⟨30, 35⟩
        [.other ⟨32, 33⟩ (.str "shorthand_property_identifier_pattern") []] none [])
      (.str "private") false false [])
    [(⟨37, 38⟩, "b"), (⟨40, 41⟩, "c"), (⟨43, 44⟩, "d")]

def methodFunction : Node :=
  memberFunction ⟨50, 71⟩ ⟨49, 50⟩ ⟨69, 71⟩ "m"
    (.identifier ⟨51, 58⟩ (.str "this") (some (.other ⟨57, 58⟩ (.str "type_identifier") [])) false [])
    [(⟨60, 61⟩, "e"), (⟨63, 64⟩, "f"), (⟨66, 67⟩, "g")]

def hazardRoot : Node :=
  .other ⟨0, 73⟩ (.str "program")
    [.other ⟨0, 73⟩ (.str "class_declaration")
      [.other ⟨6, 7⟩ (.str "type_identifier") [],
        .other ⟨8, 73⟩ (.str "class_body")
          [.methodDefinition ⟨10, 48⟩ (bareName ⟨10, 21⟩ (.str "constructor")) constructorFunction
              (.str "constructor") false,
            .methodDefinition ⟨49, 71⟩ (bareName ⟨49, 50⟩ (.str "m")) methodFunction
              (.str "method") false]]]

theorem treeOver_hazardTree :
    treeOver wideLimits hazardSource Language.typescript.name "a.ts" hazardTree =
      .ok (.build hazardRoot (SourceText.ofString hazardSource)) := rfl

/-- A destructuring that is promoted to a field and the parameter `this` become entries of the
object, which then is no pattern any more. -/
theorem hazardTree_is_merged :
    hazardTree.token.hasError = false ∧
      ∃ t u v, treeOver wideLimits hazardSource Language.typescript.name "a.ts" hazardTree = .ok t ∧
        u ∈ t.functions ∧ v ∈ t.functions ∧
        (∃ params, u.node.params? = some params ∧ (∃ n ∈ params, n.binding.IsCompound) ∧
          editOf params t.source =
            .ok (some ⟨⟨22, 44⟩, "\x7b private \x7b a \x7d, b, c, d \x7d"⟩)) ∧
        ∃ params, v.node.params? = some params ∧ (∃ n ∈ params, n.IsThis) ∧
          editOf params t.source = .ok (some ⟨⟨51, 67⟩,
            "\x7b this, e, f, g \x7d: \x7b this: A; e: any; f: any; g: any \x7d"⟩) := by
  have hbody : (Visit.root hazardRoot).Reaches _ :=
    (Visit.Reaches.refl.step (List.mem_of_getElem? (i := 0) rfl)).step
      (List.mem_of_getElem? (i := 1) rfl)
  have hconstructor := (hbody.step (List.mem_of_getElem? (i := 0) rfl)).step
    (List.mem_of_getElem? (i := 1) rfl)
  have hmethod := (hbody.step (List.mem_of_getElem? (i := 1) rfl)).step
    (List.mem_of_getElem? (i := 1) rfl)
  exact ⟨rfl, _, _, _, treeOver_hazardTree, List.mem_filter.2 ⟨Tree.mem_walk.2 hconstructor, rfl⟩,
    List.mem_filter.2 ⟨Tree.mem_walk.2 hmethod, rfl⟩,
    ⟨_, rfl, ⟨_, List.mem_cons_self, trivial⟩, rfl⟩, _, rfl, ⟨_, List.mem_cons_self, rfl⟩, rfl⟩

end Instances

end ArityLint
