import ArityLint.Proofs.ConcreteEncoding
import ArityLint.Proofs.DocumentEncoding

namespace ArityLint

section Agree

variable {source : String} {ps : List Written}

def HaveShapes (source : String) (ps : List Written) (ns : List Node) : Prop :=
  List.Forall₂ (fun p n => n.classify (SourceText.ofString source) = .ok (p.shape source)) ps ns

/-- The edit of nodes that have the shapes of what is written depends only on these. -/
theorem HaveShapes.editOf {ns : List Node} (h : HaveShapes source ps ns) :
    editOf ns (SourceText.ofString source) = optionsEdit? (ps.map (·.shape source)) := by
  have hmap : ns.mapM (·.classify (SourceText.ofString source)) = .ok (ps.map (·.shape source)) := by
    induction h with
    | nil => rfl
    | cons hn _ ih =>
      rw [List.mapM_cons, hn, ih]
      rfl
  unfold ArityLint.editOf
  rw [hmap]
  rfl

theorem exists_haveShapes {ε α : Type} {f : α → Except ε Node} {R : Written → α → Prop}
    {xs : List α} (h : List.Forall₂ R ps xs)
    (hf : ∀ p x, R p x → ∃ n, f x = .ok n ∧ p.Represents source n) :
    ∃ ns, xs.mapM f = .ok ns ∧ HaveShapes source ps ns := by
  induction h with
  | nil => exact ⟨[], rfl, .nil⟩
  | @cons p x ps xs hx _ ih =>
    obtain ⟨n, hn, hrepresents⟩ := hf p x hx
    obtain ⟨ns, hns, hshapes⟩ := ih
    refine ⟨n :: ns, ?_, .cons hrepresents.classify hshapes⟩
    rw [List.mapM_cons, hn, hns]
    rfl

/-- Parameters come in as typed parameters, as bare patterns or as objects of a document. Each list
of them is converted, to nodes that have the shapes of what is written; so all have the same edit.
-/
theorem encodings_agree {levels depth : Nat} (parent : Option String) (path : Path)
    {typed : List Concrete} {documents : List Value}
    (htyped : List.Forall₂ (IsTypedParameter source levels) ps typed)
    (hdocuments : List.Forall₂ (fun p v => Estree.IsParameter source p v ∧ Estree.Acceptable v ∧
      v.depth ≤ depth) ps documents) :
    ∃ ns ms,
      typed.mapM (Lower.ofConcrete (Utf8.Encoded.ofString source) (levels + 1) parent) = .ok ns ∧
      documents.mapM (Estree.convert path depth) = .ok ms ∧
      HaveShapes source ps ns ∧ HaveShapes source ps ms ∧
      editOf ns (SourceText.ofString source) = editOf ms (SourceText.ofString source) ∧
      ∀ plainLevels plain, List.Forall₂ (IsPlainParameter source plainLevels) ps plain →
        ∃ ks, plain.mapM (Lower.ofConcrete (Utf8.Encoded.ofString source) (plainLevels + 2) parent) =
            .ok ks ∧ HaveShapes source ps ks ∧
          editOf ks (SourceText.ofString source) = editOf ns (SourceText.ofString source) := by
  obtain ⟨ns, hns, hshapes⟩ := exists_haveShapes htyped fun _ _ => Lower.exists_typed parent
  obtain ⟨ms, hms, hshapes'⟩ := exists_haveShapes hdocuments fun _ _ h =>
    Estree.exists_document h.1 h.2.1 h.2.2
  refine ⟨ns, ms, hns, hms, hshapes, hshapes', hshapes.editOf.trans hshapes'.editOf.symm, ?_⟩
  intro plainLevels plain hplain
  obtain ⟨ks, hks, hshapes''⟩ := exists_haveShapes hplain fun _ _ => Lower.exists_plain parent
  exact ⟨ks, hks, hshapes'', hshapes''.editOf.trans hshapes.editOf.symm⟩

end Agree

section Instances

open Node

/-- `private é?: T` and `b = 1` -/
def agreeSource : String := "private é?: T, b = 1"

def fieldParam : Written where
  accessibility := some ⟨0, 7⟩
  bound := .name
  binding := ⟨8, 9⟩
  question := some ⟨9, 10⟩
  declared := some ⟨⟨10, 13⟩, ⟨12, 13⟩⟩

def countParam : Written where
  bound := .name
  binding := ⟨15, 16⟩
  value := some ⟨⟨19, 20⟩, some .number⟩

def fieldParts : TypedParts where
  accessibility := some (.node (token "accessibility_modifier" 0 7 none) [mark "private" 0])
  bound := .node (token "identifier" 8 10 (some "pattern")) []
  question := some (mark "?" 10)
  declared := some (.node (token "type_annotation" 11 14 (some "type"))
    [mark ":" 11, .node (token "type_identifier" 13 14 none) []])

def countParts : TypedParts where
  bound := .node (token "identifier" 16 17 (some "pattern")) []
  value := some (mark "=" 18, .node (token "number" 20 21 (some "value")) [])

def agreeTyped : List Concrete :=
  [.node (token "optional_parameter" 0 14 none) fieldParts.children,
    .node (token "required_parameter" 16 21 none) countParts.children]

def agreeDocuments : List Value :=
  [.obj [("type", .str "TSParameterProperty"), ("range", .arr [.int 0, .int 13]),
      ("accessibility", .str "private"),
      ("parameter", .obj [("type", .str "Identifier"), ("range", .arr [.int 8, .int 13]),
        ("name", .str "é"), ("optional", .bool true),
        ("typeAnnotation", .obj [("type", .str "TSTypeAnnotation"),
          ("range", .arr [.int 10, .int 13]),
          ("typeAnnotation", .obj [("type", .str "TSTypeReference"),
            ("range", .arr [.int 12, .int 13])])])])],
    .obj [("type", .str "AssignmentPattern"), ("range", .arr [.int 15, .int 20]),
      ("left", .obj [("type", .str "Identifier"), ("range", .arr [.int 15, .int 16]),
        ("name", .str "b")]),
      ("right", .obj [("type", .str "Literal"), ("range", .arr [.int 19, .int 20]),
        ("value", .int 1)])]]

theorem agreeTyped_typed :
    List.Forall₂ (IsTypedParameter agreeSource 1) [fieldParam, countParam] agreeTyped := by
  refine .cons ⟨rfl, ⟨by decide, by decide⟩, fieldParts, rfl, ?_⟩
    (.cons ⟨rfl, ⟨by decide, by decide⟩, countParts, rfl, ?_⟩ .nil)
  · exact {
      accessibility := .some ⟨rfl, rfl, rfl, by decide, by decide⟩
      override := .none
      readonly := .none
      bound := ⟨rfl, ⟨by decide, by decide⟩, nofun⟩
      boundField := rfl
      question := .some ⟨rfl, rfl, rfl, by decide, by decide⟩
      declared := .some ⟨rfl, rfl, ⟨by decide, by decide⟩, _, [], rfl, ⟨by decide, by decide⟩,
        ⟨nofun, nofun⟩, _, rfl⟩
      value := .none }
  · exact {
      accessibility := .none
      override := .none
      readonly := .none
      bound := ⟨rfl, ⟨by decide, by decide⟩, nofun⟩
      boundField := rfl
      question := .none
      declared := .none
      value := .some ⟨rfl, rfl, rfl, ⟨rfl, by decide⟩, ⟨by decide, by decide⟩, _, rfl⟩ }

theorem agreeDocuments_parameters :
    List.Forall₂ (fun p v => Estree.IsParameter agreeSource p v ∧ Estree.Acceptable v ∧
      v.depth ≤ 9) [fieldParam, countParam] agreeDocuments := by
  have hacceptable : ∀ v, Estree.isNode v → v.depth ≤ 9 →
      (∃ n, Estree.convert ⟨.relative, []⟩ 9 v = .ok n) → Estree.Acceptable v :=
    fun v hnode hdepth => (Estree.answers_convert _ hnode hdepth).ok_iff.1
  refine .cons ⟨?_, hacceptable _ rfl (by decide) ⟨_, rfl⟩, by decide⟩
    (.cons ⟨?_, hacceptable _ rfl (by decide) ⟨_, rfl⟩, by decide⟩ .nil)
  · refine .promoted rfl ⟨rfl, rfl⟩ (.inl rfl) (.plain rfl ?_) rfl rfl rfl
    exact ⟨⟨rfl, rfl⟩, .inl rfl, .some rfl rfl rfl rfl, fun _ => ⟨rfl, rfl⟩⟩
  · refine .plain rfl (.value rfl ⟨rfl, rfl⟩ (.inl rfl) rfl ?_ rfl ?_)
    · exact ⟨⟨rfl, rfl⟩, .inl rfl, .none, fun _ => ⟨rfl, rfl⟩⟩
    · exact ⟨rfl, rfl, rfl, rfl, _, rfl, .inl ⟨1, rfl⟩⟩

def agreePlain : Concrete :=
  .node (token "assignment_pattern" 16 21 none)
    [.node (token "identifier" 16 17 (some "left")) [], mark "=" 18,
      .node (token "number" 20 21 (some "right")) []]

theorem agreePlain_plain :
    List.Forall₂ (IsPlainParameter agreeSource 1) [countParam] [agreePlain] :=
  .cons (.value ⟨rfl, rfl, rfl⟩ rfl rfl ⟨by decide, by decide⟩ rfl
    ⟨rfl, ⟨by decide, by decide⟩, nofun⟩ rfl
    ⟨⟨rfl, by decide⟩, ⟨by decide, by decide⟩, _, rfl⟩) .nil

theorem private_and_default_agree :
    (∃ ns ms,
      agreeTyped.mapM (Lower.ofConcrete (Utf8.Encoded.ofString agreeSource) 2 none) = .ok ns ∧
      agreeDocuments.mapM (Estree.convert ⟨.relative, []⟩ 9) = .ok ms ∧
      HaveShapes agreeSource [fieldParam, countParam] ns ∧
      HaveShapes agreeSource [fieldParam, countParam] ms ∧
      editOf ns (SourceText.ofString agreeSource) = editOf ms (SourceText.ofString agreeSource)) ∧
    ∃ ns ks,
      agreeTyped.tail.mapM (Lower.ofConcrete (Utf8.Encoded.ofString agreeSource) 2 none) = .ok ns ∧
      [agreePlain].mapM (Lower.ofConcrete (Utf8.Encoded.ofString agreeSource) 3 none) = .ok ks ∧
      HaveShapes agreeSource [countParam] ks ∧
      editOf ks (SourceText.ofString agreeSource) = editOf ns (SourceText.ofString agreeSource) := by
  constructor
  · obtain ⟨ns, ms, hns, hms, hshapes, hshapes', hedit, _⟩ :=
      encodings_agree none ⟨.relative, []⟩ agreeTyped_typed
        agreeDocuments_parameters
    exact ⟨ns, ms, hns, hms, hshapes, hshapes', hedit⟩
  · obtain ⟨ns, ms, hns, _, _, _, _, hplain⟩ :=
      encodings_agree none ⟨.relative, []⟩
        (List.forall₂_cons.1 agreeTyped_typed).2 (List.forall₂_cons.1 agreeDocuments_parameters).2
    obtain ⟨ks, hks, hshapes, hedit⟩ := hplain 1 [agreePlain] agreePlain_plain
    exact ⟨ns, ks, hns, hks, hshapes, hedit⟩

end Instances

end ArityLint
