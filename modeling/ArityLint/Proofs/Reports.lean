import ArityLint.Proofs.Documents
import ArityLint.Proofs.Lowering
import ArityLint.Tree.Parse
import Mathlib.Data.List.Nodup

namespace ArityLint

section Sorting

variable {α : Type} {key : α → Int} {l : List α} {a b : α}

theorem sortBy_trans (key : α → Int) (a b c : α) (hab : decide (key a ≤ key b))
    (hbc : decide (key b ≤ key c)) : decide (key a ≤ key c) := by
  simp only [decide_eq_true_eq] at *
  omega

theorem sortBy_total (key : α → Int) (a b : α) :
    decide (key a ≤ key b) || decide (key b ≤ key a) := by
  simp only [Bool.or_eq_true, decide_eq_true_eq]
  omega

theorem pairwise_sortBy (key : α → Int) (l : List α) :
    (l.mergeSort fun a b => key a ≤ key b).Pairwise fun a b => key a ≤ key b := by
  have h : (l.mergeSort fun a b => key a ≤ key b).Pairwise fun a b => decide (key a ≤ key b) :=
    List.pairwise_mergeSort (sortBy_trans key) (sortBy_total key) l
  exact h.imp of_decide_eq_true

theorem pair_sublist_sortBy (hab : key a ≤ key b) (h : [a, b].Sublist l) :
    [a, b].Sublist (l.mergeSort fun a b => key a ≤ key b) :=
  List.pair_sublist_mergeSort (sortBy_trans key) (sortBy_total key) (decide_eq_true hab) h

theorem pair_sublist_or (ha : a ∈ l) (hb : b ∈ l) (hab : a ≠ b) :
    [a, b].Sublist l ∨ [b, a].Sublist l := by
  induction l with
  | nil => cases ha
  | cons x l ih =>
    rcases List.mem_cons.1 ha with rfl | ha'
    · have hb' := (List.mem_cons.1 hb).resolve_left (Ne.symm hab)
      exact .inl ((List.singleton_sublist.2 hb').cons_cons _)
    · rcases List.mem_cons.1 hb with rfl | hb'
      · exact .inr ((List.singleton_sublist.2 ha').cons_cons _)
      · exact (ih ha' hb').imp (.cons _) (.cons _)

theorem not_pair_sublist_swap (hl : l.Nodup) (h : [a, b].Sublist l) : ¬[b, a].Sublist l := by
  intro h'
  induction l with
  | nil => cases h
  | cons x l ih =>
    obtain ⟨hx, hl⟩ := List.nodup_cons.1 hl
    cases h with
    | cons _ h =>
      cases h' with
      | cons _ h' => exact ih hl h h'
      | cons_cons _ h' => exact hx (h.subset (by simp))
    | cons_cons _ h =>
      have ha : a ∈ l := by
        cases h' with
        | cons _ h' => exact h'.subset (by simp)
        | cons_cons _ h' => exact h'.subset (by simp)
      exact hx ha

/-- In a stable order of a list, items of equal keys are in the order of the list. -/
theorem pairwise_of_stable {m : List α} (hl : l.Nodup) (hperm : m.Perm l)
    (hordered : m.Pairwise fun a b => key a ≤ key b)
    (hstable : ∀ a b, key a ≤ key b → [a, b].Sublist l → [a, b].Sublist m) :
    m.Pairwise fun a b => key a < key b ∨ key a = key b ∧ [a, b].Sublist l := by
  have hnodup := hperm.nodup_iff.2 hl
  rw [List.pairwise_iff_forall_sublist]
  intro a b hab
  have hle := List.pairwise_iff_forall_sublist.1 hordered hab
  have hne := List.pairwise_iff_forall_sublist.1 hnodup hab
  rcases Int.lt_or_eq_of_le hle with hlt | heq
  · exact .inl hlt
  · have ha : a ∈ l := hperm.mem_iff.1 (hab.subset (by simp))
    have hb : b ∈ l := hperm.mem_iff.1 (hab.subset (by simp))
    rcases pair_sublist_or ha hb hne with h | h
    · exact .inr ⟨heq, h⟩
    -- in the other order `b` would have been kept in front
    · have hba := hstable b a (Int.le_of_eq heq.symm) h
      exact absurd hba (not_pair_sublist_swap hnodup hab)

theorem stable_sortBy (key : α → Int) (hl : l.Nodup) :
    (l.mergeSort fun a b => key a ≤ key b).Pairwise fun a b =>
      key a < key b ∨ key a = key b ∧ [a, b].Sublist l :=
  pairwise_of_stable hl (List.mergeSort_perm _ _) (pairwise_sortBy key l) fun _ _ =>
    pair_sublist_sortBy

end Sorting

/-- The place dictates the signature of a function that stands there. -/
inductive Dictates : Node → Role → Prop
  | typedVariable {s s' : Span} {name : Value} {type : Node} {optional : Bool} {ds : List Node}
      {init : Option Node} :
      Dictates (.declarator s (.identifier s' name (some type) optional ds) init) .init
  | argument {s : Span} {callee : Node} {args : List Node} :
      Dictates (.call s callee args) .callArgument
  | entry {s : Span} {key value : Node} {shorthand : Bool} {kind : Value} :
      Dictates (.property s key value false shorthand kind) .value
  | memberTarget {s s' : Span} {object property right : Node} {computed : Bool} {op : Value} :
      Dictates (.assignment s (.member s' object property computed) right op) .right

namespace Visit

/-- A function with more than three parameters whose place does not dictate them. -/
def IsFlagged (v : Visit) : Prop :=
  (∃ params, v.node.params? = some params ∧ 3 < params.length) ∧
    ∀ p role, v.parent = some (p, role) → ¬Dictates p role

end Visit

namespace Place

theorem dictates_iff {p : Node} {role : Role} :
    Dictates p role ↔ isTypedInit (some (p, role)) ∨ isPropertyValue (some (p, role)) ∨
      isCallArgument (some (p, role)) := by
  constructor
  · rintro (_ | _)
    · exact .inl rfl
    · exact .inr (.inr rfl)
    · exact .inr (.inl rfl)
    · exact .inr (.inl rfl)
  · rintro (h | h | h)
    · unfold isTypedInit at h
      split at h
      · next heq =>
        cases heq
        exact .typedVariable
      · cases h
    · unfold isPropertyValue at h
      split at h
      · next method _ _ heq =>
        cases heq
        cases method
        · exact .entry
        · cases h
      · next heq =>
        cases heq
        exact .memberTarget
      · cases h
    · unfold isCallArgument at h
      split at h
      · next heq =>
        cases heq
        exact .argument
      · cases h

theorem isCallArgument_of_calledMethod? {place : Place} {name : Value}
    (h : place.calledMethod? = some name) : place.isCallArgument = true := by
  unfold calledMethod? at h
  split at h
  · rfl
  · cases h

end Place

/-- A function is in scope when it has too many parameters and no reason of place applies. That a
callback goes to a method of the standard library adds nothing: it is an argument of a call. -/
theorem exclusion?_ok {n : Node} {params : List Node} (place : Place)
    (hn : n.params? = some params)
    (hname : ∀ name, place.calledMethod? = some name → name.IsText) :
    ∃ o, exclusion? n place = .ok o ∧
      (o = none ↔ 3 < params.length ∧
        ¬(place.isTypedInit ∨ place.isPropertyValue ∨ place.isCallArgument)) := by
  unfold exclusion?
  rw [hn]
  dsimp only
  -- the reasons in the order in which they are tried
  by_cases ht : place.isTypedInit = true
  · exact ⟨_, if_pos ht, by simp [ht]⟩
  rw [if_neg ht]
  by_cases hl : params.length ≤ maxParameters
  · refine ⟨_, if_pos hl, ?_⟩
    have hl : params.length ≤ 3 := hl
    simp
    omega
  rw [if_neg hl]
  have hl : 3 < params.length := Nat.lt_of_not_le hl
  -- what comes after the question of a callback does not depend on its answer
  have hrest : ∃ o, (if place.isPropertyValue then Except.ok (some Exclusion.propertyCallback)
      else if place.isCallArgument then .ok (some .callArgument) else .ok none) =
        (.ok o : Except Fault _) ∧ (o = none ↔ ¬(place.isPropertyValue ∨ place.isCallArgument)) := by
    by_cases hp : place.isPropertyValue = true
    · exact ⟨_, if_pos hp, by simp [hp]⟩
    · rw [if_neg hp]
      by_cases hc : place.isCallArgument = true
      · exact ⟨_, if_pos hc, by simp [hc]⟩
      · exact ⟨_, if_neg hc, by simp [hp, hc]⟩
  obtain ⟨o, ho, hiff⟩ := hrest
  have hiff : o = none ↔ 3 < params.length ∧
      ¬(place.isTypedInit ∨ place.isPropertyValue ∨ place.isCallArgument) := by
    rw [hiff]
    simp [hl, ht]
  cases hm : place.calledMethod? with
  | none => exact ⟨o, ho, hiff⟩
  | some name =>
    obtain ⟨t, rfl⟩ := hname name hm
    have hc := Place.isCallArgument_of_calledMethod? hm
    by_cases hcb : callbackMethods.contains t = true
    · refine ⟨some .stdCallback, ?_, by simp [hc]⟩
      change (if callbackMethods.contains t = true then _ else _) = _
      rw [if_pos hcb]
    · refine ⟨o, ?_, hiff⟩
      change (if callbackMethods.contains t = true then _ else _) = _
      rw [if_neg hcb, ho]

namespace Tree

variable {t : Tree} {v : Visit}

theorem Occurs.params?_of_isShared (h : t.Occurs v) (hv : v.IsShared) : v.node.params? = none := by
  obtain ⟨s, ns, name, role, hp⟩ := hv
  have he := (h.contains_parent hp).2
  simp only [Node.edges, List.mem_cons, Prod.mk.injEq, List.not_mem_nil, or_false, or_self] at he
  rw [he.2]
  rfl

/-- The finding at a visit: the function's type and range, how many parameters it has and the edit
of these, if there is one. -/
def report (t : Tree) (v : Visit) : Finding :=
  let params := v.node.params?.getD []
  ⟨v.node.type, v.node.span, Rule.messageId, [("count", .int params.length)],
    (editOf params t.source).toOption.join⟩

/-- The visits of the functions that are reported, in the order of their findings. -/
structure Lists (t : Tree) (vs : List Visit) : Prop where
  mem_iff : ∀ v, v ∈ vs ↔ t.Occurs v ∧ v.IsFlagged
  nodup : (vs.map (·.address)).Nodup
  ordered : vs.Pairwise fun v w =>
    v.node.start < w.node.start ∨ v.node.start = w.node.start ∧ [v, w].Sublist t.walk

theorem calledMethod?_isText (ht : t.root.All Node.HasTextName) (hv : t.Occurs v) {name : Value}
    (h : Place.calledMethod? v.parent = some name) : name.IsText := by
  unfold Place.calledMethod? at h
  split at h
  · next hparent =>
    cases h
    have hcall := (hv.contains_parent hparent).1
    -- from the call to its callee, and on to the property of the member
    have hmember := hcall.child List.mem_cons_self
    have hname := hmember.child (List.mem_cons_of_mem _ List.mem_cons_self)
    exact ht _ hname
  · cases h

theorem findingAt_eq (ht : t.root.HasTexts) (hv : t.Occurs v) {params : List Node}
    (hp : v.node.params? = some params) :
    ∃ o, findingAt t v = .ok o ∧ (v.IsFlagged → o = some (t.report v)) ∧
      (¬v.IsFlagged → o = none) := by
  obtain ⟨reason, hreason, hiff⟩ :=
    exclusion?_ok v.parent hp fun _ => calledMethod?_isText ht.names hv
  have hflag : reason = none ↔ v.IsFlagged := by
    rw [hiff]
    unfold Visit.IsFlagged
    rw [hp]
    cases hparent : v.parent with
    | none => simp [Place.isTypedInit, Place.isPropertyValue, Place.isCallArgument]
    | some place =>
      obtain ⟨p, role⟩ := place
      simp [Place.dictates_iff]
  unfold findingAt
  rw [place_eq hv, hreason]
  cases reason with
  | some reason =>
    have hno : ¬v.IsFlagged := fun h => Option.some_ne_none _ (hflag.2 h)
    exact ⟨none, rfl, fun h => absurd h hno, fun _ => rfl⟩
  | none =>
    have hyes : v.IsFlagged := hflag.1 rfl
    have htexts : ∀ n ∈ params, n.HasTexts := by
      intro n hn
      exact ht.of_contains (hv.contains.child (Node.mem_edges_of_mem_params hp hn))
    obtain ⟨edit, hedit⟩ := editOf_ok t.source htexts
    refine ⟨some (t.report v), ?_, fun _ => rfl, fun h => absurd hyes h⟩
    unfold report
    rw [hp]
    dsimp only [Option.getD_some]
    rw [hedit]
    rfl

open Classical in
theorem finding?_eq (ht : t.root.HasTexts) (hg : t.root.AllGenuine) (hv : t.Occurs v) :
    finding? t v = if v.IsFlagged then some (t.report v) else none := by
  have hb := Node.bearsFunctionName_iff (hg _ hv.contains)
  unfold finding?
  by_cases hp : ∃ params, v.node.params? = some params
  · rw [if_pos (hb.2 hp)]
    obtain ⟨params, hp⟩ := hp
    obtain ⟨o, ho, hyes, hno⟩ := findingAt_eq ht hv hp
    rw [ho]
    split
    · next h => exact hyes h
    · next h => exact hno h
  -- a genuine node without parameters does not bear a function's name
  · rw [if_neg fun h => hp (hb.1 h), if_neg fun h => hp (h.1.imp fun _ => And.left)]

open Classical in
theorem filterMap_finding?_walk (ht : t.root.HasTexts) (hg : t.root.AllGenuine) :
    t.walk.filterMap (finding? t) =
      (t.walk.filter fun v => v.IsFlagged).map t.report := by
  rw [← List.filterMap_eq_map, List.filterMap_filter]
  apply List.filterMap_congr
  intro v hv
  rw [finding?_eq ht hg (mem_walk.1 hv)]
  simp

theorem nodup_address_of_flagged {vs : List Visit} (h : vs.Sublist t.walk)
    (hf : ∀ v ∈ vs, v.IsFlagged) : (vs.map (·.address)).Nodup := by
  rw [List.Nodup, List.pairwise_map]
  apply (t.walk_pairwise.sublist h).imp_of_mem
  intro v w hv _ hsep
  -- what is visited twice is a name, and no function
  refine hsep.resolve_right fun hshared => ?_
  obtain ⟨⟨params, hp, _⟩, _⟩ := hf v hv
  have hnone := (mem_walk.1 (h.subset hv)).params?_of_isShared hshared.1
  rw [hnone] at hp
  cases hp

theorem yields_check_report (ht : t.root.HasTexts) (hg : t.root.AllGenuine) :
    ∃ vs, t.Lists vs ∧ t.check.Yields (.ok (vs.map t.report)) := by
  classical
  let flagged := t.walk.filter fun v => v.IsFlagged
  have hsub : flagged.Sublist t.walk := List.filter_sublist
  have hflagged : ∀ v ∈ flagged, v.IsFlagged := fun v hv => by simpa using (List.mem_filter.1 hv).2
  have hnodup := nodup_address_of_flagged hsub hflagged
  have hperm := List.mergeSort_perm flagged fun v w => v.node.start ≤ w.node.start
  refine ⟨flagged.mergeSort fun v w => v.node.start ≤ w.node.start, ⟨fun v => ?_, ?_, ?_⟩, ?_⟩
  · rw [hperm.mem_iff, List.mem_filter, mem_walk, decide_eq_true_eq]
  · exact (hperm.map _).nodup_iff.2 hnodup
  · apply (stable_sortBy (fun v : Visit => v.node.start) (List.Nodup.of_map _ hnodup)).imp
    rintro v w (h | ⟨h, hvw⟩)
    · exact .inl h
    · exact .inr ⟨h, hvw.trans hsub⟩
  · obtain ⟨r, hr, hiff⟩ := yields_check t
    have hok : r = .ok _ := (hiff _).2 ⟨fun v hv hb => ?_, rfl⟩
    · rw [filterMap_finding?_walk ht hg] at hok
      -- a finding starts where its node does
      have hsorted : (flagged.mergeSort fun v w => v.node.start ≤ w.node.start).map t.report =
          (flagged.map t.report).mergeSort fun a b => a.span.start ≤ b.span.start :=
        List.map_mergeSort fun v _ w _ => rfl
      rw [hsorted, ← hok]
      exact hr
    · obtain ⟨params, hp⟩ := (Node.bearsFunctionName_iff (hg _ hv.contains)).1 hb
      obtain ⟨o, ho, _⟩ := findingAt_eq ht hv hp
      exact ⟨o, ho⟩

/-- A tree as the program makes it: of a document whose names and shown modifiers are texts, or of a
text that no concrete node of which bears a function's type name as its kind. -/
inductive Built : Tree → Prop
  | ofDocument {complaint : String → String} {document : Value} {source path : String} {t : Tree} :
      Estree.tree complaint document source path = .ok t → t.root.HasTexts → Built t
  | ofText {g : Grammar} {source language path : String} {t : Tree} {s s' : Session} :
      (treeOf g source language path).exec s = (.ok t, s') →
      (∀ lang, Language.ofName language = .ok lang →
        (g lang source).AllKinds fun kind => ∀ k : FunctionKind, kind ≠ k.name) →
      Built t

theorem Built.hasTexts (h : t.Built) : t.root.HasTexts := by
  cases h with
  | ofDocument _ ht => exact ht
  | ofText h hk =>
    -- beside the kinds of the concrete tree there is only that of a missing rest argument
    have hl := allLowered_treeOf h hk (by rintro (_ | _ | _) <;> decide)
    exact fun m hm => ⟨(hl m hm).2.1, (hl m hm).2.2.1⟩

theorem Built.allGenuine (h : t.Built) : t.root.AllGenuine := by
  cases h with
  | ofDocument h _ => exact Estree.allGenuine_tree h
  | ofText h hk =>
    have hl := allLowered_treeOf h hk (by rintro (_ | _ | _) <;> decide)
    intro m hm
    have hkind := (hl m hm).2.2.2
    cases m with
    | other s kind body =>
      obtain ⟨text, rfl, htext⟩ := hkind
      exact fun k hk => htext k (Value.str.inj hk)
    | _ => trivial

/-- The check of a tree answers in every session with one finding for each flagged function. -/
theorem check_reports_flagged (h : t.Built) :
    ∃ vs, t.Lists vs ∧ ∀ s, ∃ s', t.check.exec s = (.ok (vs.map t.report), s') := by
  obtain ⟨vs, hvs, hy⟩ := yields_check_report h.hasTexts h.allGenuine
  refine ⟨vs, hvs, fun s => ?_⟩
  obtain ⟨parsers, notes, he, _⟩ := hy s
  exact ⟨_, he⟩

end Tree

section Instances

open Estree Node

def nameDocument (start : Int) (name : String) : Value :=
  .obj [("type", .str "Identifier"), ("range", .arr [.int start, .int (start + 1)]),
    ("name", .str name)]

/-- `(a, b, c, d) => a` -/
def arrowDocument (start : Int) : Value :=
  .obj [("type", .str "ArrowFunctionExpression"), ("range", .arr [.int start, .int (start + 17)]),
    ("params", .arr [nameDocument (start + 1) "a", nameDocument (start + 4) "b",
      nameDocument (start + 7) "c", nameDocument (start + 10) "d"]),
    ("body", nameDocument (start + 16) "a")]

def arrow (start : Int) : Node :=
  .function ⟨start, start + 17⟩ .arrow
    [.bareName ⟨start + 1, start + 1 + 1⟩ (.str "a"), .bareName ⟨start + 4, start + 4 + 1⟩ (.str "b"),
      .bareName ⟨start + 7, start + 7 + 1⟩ (.str "c"),
      .bareName ⟨start + 10, start + 10 + 1⟩ (.str "d")]
    none (some (.bareName ⟨start + 16, start + 16 + 1⟩ (.str "a"))) none

/-- A function that is called at once, with the same function as its argument. -/
def callDocument : Value :=
  .obj [("type", .str "CallExpression"), ("range", .arr [.int 0, .int 38]),
    ("callee", arrowDocument 1), ("arguments", .arr [arrowDocument 20])]

def callTree : Tree :=
  .build (.call ⟨0, 38⟩ (arrow 1) [arrow 20])
    (SourceText.ofString "((a, b, c, d) => a)((a, b, c, d) => a)")

theorem tree_callDocument :
    Estree.tree Estree.noComplaint callDocument "((a, b, c, d) => a)((a, b, c, d) => a)"
      "call.js" = .ok callTree := rfl

theorem hasTexts_bareName (s : Span) (name : String) : (bareName s (.str name)).HasTexts :=
  hasTexts_iff.2 ⟨⟨⟨name, rfl⟩, trivial⟩, by simp [bareName, EachChild]⟩

theorem hasTexts_arrow (start : Int) : (arrow start).HasTexts :=
  hasTexts_iff.2 ⟨⟨trivial, trivial⟩, by simp [arrow, EachChild, hasTexts_bareName]⟩

theorem built_callTree : callTree.Built :=
  .ofDocument tree_callDocument
    (hasTexts_iff.2 ⟨⟨trivial, trivial⟩, hasTexts_arrow 1, by simp [hasTexts_arrow]⟩)

theorem callTree_reports_flagged :
    callTree.Built ∧ ∃ vs, callTree.Lists vs ∧
      ∀ s, ∃ s', callTree.check.exec s = (.ok (vs.map callTree.report), s') :=
  ⟨built_callTree, Tree.check_reports_flagged built_callTree⟩

/-- `function f(a, b, c, d) {}`, where the first parameter has a number for its modifier. -/
def modifierDocument : Value :=
  .obj [("type", .str "FunctionDeclaration"), ("range", .arr [.int 0, .int 25]),
    ("id", nameDocument 9 "f"),
    ("params", .arr [
      .obj [("type", .str "TSParameterProperty"), ("range", .arr [.int 11, .int 12]),
        ("accessibility", .int 5), ("parameter", nameDocument 11 "a")],
      nameDocument 14 "b", nameDocument 17 "c", nameDocument 20 "d"]),
    ("body", .obj [("type", .str "BlockStatement"), ("range", .arr [.int 23, .int 25]),
      ("body", .arr [])])]

def modifierNode (block : List Node) : Node :=
  .function ⟨0, 25⟩ .declaration
    [.parameterProperty ⟨11, 12⟩ (.bareName ⟨11, 12⟩ (.str "a")) (.int 5) false false [],
      .bareName ⟨14, 15⟩ (.str "b"), .bareName ⟨17, 18⟩ (.str "c"), .bareName ⟨20, 21⟩ (.str "d")]
    (some (.bareName ⟨9, 10⟩ (.str "f")))
    (some (.other ⟨23, 25⟩ (.str "BlockStatement") block)) none

def modifierTree : Tree :=
  .build (modifierNode []) (SourceText.ofString "function f(a, b, c, d) \x7b\x7d")

theorem tree_modifierDocument :
    Estree.tree Estree.noComplaint modifierDocument "function f(a, b, c, d) \x7b\x7d" "<estree>" =
      .ok modifierTree := by
  change Except.ok (Tree.build (modifierNode (List.mergeSort [] _)) _) = _
  rw [List.mergeSort_nil]
  rfl

/-- A modifier that is no text makes the check fail, though all names are texts. -/
theorem check_fails_of_number_modifier :
    Estree.tree Estree.noComplaint modifierDocument "function f(a, b, c, d) \x7b\x7d" "<estree>" =
        .ok modifierTree ∧
      modifierTree.root.All HasTextName ∧
      modifierTree.Occurs (.root modifierTree.root) ∧ (Visit.root modifierTree.root).IsFlagged ∧
      ∀ s fs s', modifierTree.check.exec s ≠ (.ok fs, s') := by
  refine ⟨tree_modifierDocument, ?_, .refl, ⟨⟨_, rfl, by simp⟩, nofun⟩, ?_⟩
  · have hname : ∀ (s : Span) (name : String), (bareName s (.str name)).All HasTextName :=
      fun s name m hm => (hasTexts_bareName s name m hm).1
    have hfirst : (parameterProperty ⟨11, 12⟩ (bareName ⟨11, 12⟩ (.str "a")) (.int 5) false false
        []).All HasTextName := all_iff.2 ⟨trivial, hname _ _, by simp⟩
    have hbody : (other ⟨23, 25⟩ (.str "BlockStatement") []).All HasTextName :=
      all_iff.2 ⟨trivial, by simp [EachChild]⟩
    refine all_iff.2 ⟨trivial, ?_⟩
    change modifierNode _ |>.EachChild _
    simp [modifierNode, EachChild, hname, hfirst, hbody]
  · intro s fs s' h
    obtain ⟨r, hr, hiff⟩ := yields_check modifierTree
    have hok := hr.fst_exec s
    rw [h] at hok
    -- the check answers only where the rule does at every function, and at the root it fails
    obtain ⟨o, ho⟩ := ((hiff fs).1 hok.symm).1 (.root modifierTree.root) .refl rfl
    unfold findingAt at ho
    rw [Tree.place_eq .refl] at ho
    cases ho

end Instances

end ArityLint
