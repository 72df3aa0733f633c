import ArityLint.Proofs.Findings
import ArityLint.Proofs.Functions
import Mathlib.Data.List.Flatten
import Mathlib.Data.List.Forall2

namespace ArityLint

theorem Except.forall₂_of_mapM {ε α β : Type} {f : α → Except ε β} {xs : List α} {ys : List β}
    (h : xs.mapM f = .ok ys) : List.Forall₂ (fun x y => f x = .ok y) xs ys := by
  induction xs generalizing ys with
  | nil =>
    cases h
    exact .nil
  | cons x xs ih =>
    obtain ⟨y, ys, hy, hys, rfl⟩ := mapM_cons_eq_ok h
    exact .cons hy (ih hys)

theorem exists_sublist_of_forall₂ {α β : Type} {R : α → β → Prop} {xs xs' : List α} {ys : List β}
    (h : List.Forall₂ R xs ys) (hs : xs'.Sublist xs) :
    ∃ ys' : List β, ys'.Sublist ys ∧ List.Forall₂ R xs' ys' := by
  induction hs generalizing ys with
  | slnil => exact ⟨[], List.nil_sublist _, .nil⟩
  | cons x _ ih =>
    cases h with
    | cons _ h =>
      obtain ⟨ys', hys', h'⟩ := ih h
      exact ⟨ys', hys'.cons _, h'⟩
  | cons_cons x _ ih =>
    cases h with
    | @cons _ y _ _ hxy h =>
      obtain ⟨ys', hys', h'⟩ := ih h
      exact ⟨y :: ys', hys'.cons_cons _, .cons hxy h'⟩

theorem subperm_flatMap {α β : Type} {xs ys : List α} (h : xs.Subperm ys)
    (f : α → List β) : (xs.flatMap f).Subperm (ys.flatMap f) := by
  obtain ⟨zs, hzs, hsub⟩ := h
  exact ⟨zs.flatMap f, hzs.flatMap_right f, hsub.flatMap f⟩

namespace Lower

open Node

/-- The node is what the concrete node is lowered to, at some depth. -/
def Lowers (code : Utf8.Encoded) (c : Concrete) (n : Node) : Prop :=
  ∃ levels parent, ofConcrete code levels parent c = .ok n

/-- A function comes from a concrete one: it has its range, and its parameters, if there are
several, are those listed there. -/
structure Origin (code : Utf8.Encoded) (n : Node) (c : Concrete) : Prop where
  span : Lower.span code c.functionStart c.stop = .ok n.span
  params : ∃ ps, n.params? = some ps ∧ (ps.length ≤ 1 ∨
    ∃ list, c.child? "parameters" = some list ∧ List.Forall₂ (Lowers code) list.parts ps)

/-- Every function at or below the nodes comes from a function at or below the concrete nodes, and
different ones come from different ones when `P` holds. -/
def Traced (code : Utf8.Encoded) (P : Prop) (ns : List Node) (cs : List Concrete) : Prop :=
  ∃ os, List.Forall₂ (Origin code) (ns.flatMap functions) os ∧
    os ⊆ cs.flatMap Concrete.functionLikes ∧
    (P → os.Subperm (cs.flatMap Concrete.functionLikes))

variable {code : Utf8.Encoded} {lower : String → Concrete → Lowering Node} {c d : Concrete}
  {n m : Node} {P P' : Prop} {ns ms : List Node} {cs ds : List Concrete}

namespace Traced

theorem nil (cs : List Concrete) : Traced code P [] cs :=
  ⟨[], .nil, List.nil_subset _, fun _ => List.nil_subperm⟩

theorem imp (h : Traced code P ns cs) (hP : P' → P) : Traced code P' ns cs := by
  obtain ⟨os, hos, hsub, hperm⟩ := h
  exact ⟨os, hos, hsub, fun hp => hperm (hP hp)⟩

theorem mono_of (h : Traced code P ns cs) (hsub : cs ⊆ ds) (hperm : P → cs.Subperm ds) :
    Traced code P ns ds := by
  obtain ⟨os, hos, hos_sub, hos_perm⟩ := h
  refine ⟨os, hos, fun o ho => ?_, fun hp => ?_⟩
  · obtain ⟨d, hd, hod⟩ := List.mem_flatMap.1 (hos_sub ho)
    exact List.mem_flatMap.2 ⟨d, hsub hd, hod⟩
  · exact (hos_perm hp).trans (subperm_flatMap (hperm hp) _)

theorem mono (h : Traced code P ns cs) (hcs : cs.Subperm ds) : Traced code P ns ds :=
  h.mono_of hcs.subset fun _ => hcs

theorem append (h : Traced code P ns cs) (h' : Traced code P ms ds) :
    Traced code P (ns ++ ms) (cs ++ ds) := by
  obtain ⟨os, hos, hsub, hperm⟩ := h
  obtain ⟨os', hos', hsub', hperm'⟩ := h'
  refine ⟨os ++ os', ?_, ?_, fun hp => ?_⟩
  · rw [List.flatMap_append]
    exact List.rel_append hos hos'
  · rw [List.flatMap_append]
    exact List.append_subset.2 ⟨List.Subset.trans hsub (List.subset_append_left _ _),
      List.Subset.trans hsub' (List.subset_append_right _ _)⟩
  · rw [List.flatMap_append]
    exact (hperm hp).append (hperm' hp)

/-- What holds no functions, where these are told apart, may come from what is read anyway. -/
theorem append_again (h : Traced code P ms ds) (h' : Traced code P ns cs)
    (hsub : ds.flatMap Concrete.functionLikes ⊆ cs.flatMap Concrete.functionLikes)
    (hnone : P → ds.flatMap Concrete.functionLikes = []) : Traced code P (ms ++ ns) cs := by
  obtain ⟨os, hos, hos_sub, -⟩ := h
  obtain ⟨os', hos', hos_sub', hperm⟩ := h'
  refine ⟨os ++ os', ?_, ?_, fun hp => ?_⟩
  · rw [List.flatMap_append]
    exact List.rel_append hos hos'
  · exact List.append_subset.2 ⟨List.Subset.trans hos_sub hsub, hos_sub'⟩
  · rw [hnone hp] at hos_sub
    rw [List.subset_nil.1 hos_sub]
    exact hperm hp

theorem sublist (h : Traced code P ns cs) (hms : ms.Sublist ns) : Traced code P ms cs := by
  obtain ⟨os, hos, hsub, hperm⟩ := h
  obtain ⟨os', hos', h'⟩ := exists_sublist_of_forall₂ hos (hms.flatMap functions)
  exact ⟨os', h', List.Subset.trans hos'.subset hsub, fun hp => hos'.subperm.trans (hperm hp)⟩

theorem iff_childNodes (hn : n.isFunction = false) :
    Traced code P [n] cs ↔ Traced code P n.childNodes cs := by
  unfold Traced
  rw [List.flatMap_singleton, functions_eq, hn]
  rfl

theorem up (h : Traced code P ns c.children) : Traced code P ns [c] := by
  obtain ⟨os, hos, hsub, hperm⟩ := h
  have hlikes : (c.children.flatMap Concrete.functionLikes).Sublist
      ([c].flatMap Concrete.functionLikes) := by
    rw [List.flatMap_singleton, c.functionLikes_eq]
    exact List.sublist_append_right _ _
  exact ⟨os, hos, List.Subset.trans hsub hlikes.subset,
    fun hp => (hperm hp).trans hlikes.subperm⟩

theorem of_mem_children (h : Traced code P ns [d]) (hd : d ∈ c.children) : Traced code P ns [c] :=
  (h.mono (List.singleton_subperm_iff.2 hd)).up

/-- A function and what is below it come from a concrete function and its children. -/
theorem function (hn : n.isFunction) (hc : c.isFunctionLike) (ho : Origin code n c)
    (h : Traced code P n.childNodes c.children) : Traced code P [n] [c] := by
  obtain ⟨os, hos, hsub, hperm⟩ := h
  have hlikes : [c].flatMap Concrete.functionLikes =
      c :: c.children.flatMap Concrete.functionLikes := by
    rw [List.flatMap_singleton, c.functionLikes_eq, if_pos hc]
    rfl
  refine ⟨c :: os, ?_, ?_, fun hp => ?_⟩
  · rw [List.flatMap_singleton, functions_eq, if_pos hn]
    exact .cons ho hos
  · rw [hlikes]
    exact List.cons_subset_cons c hsub
  · rw [hlikes]
    exact (List.subperm_cons c).2 (hperm hp)

theorem fields (fs : List (String × List Node)) (hfs : (fs.map (·.1)).Nodup)
    (h : ∀ f ∈ fs, Traced code P f.2 (c.child? f.1).toList) :
    Traced code P (fs.flatMap (·.2)) c.children := by
  have hall : Traced code P (fs.flatMap (·.2)) ((fs.map (·.1)).filterMap c.child?) := by
    clear hfs
    induction fs with
    | nil => exact nil _
    | cons f fs ih =>
      obtain ⟨hf, hrest⟩ := List.forall_mem_cons.1 h
      have hcons : ((f :: fs).map (·.1)).filterMap c.child? =
          (c.child? f.1).toList ++ (fs.map (·.1)).filterMap c.child? := by
        rw [List.map_cons, List.filterMap_cons]
        cases c.child? f.1 <;> rfl
      rw [List.flatMap_cons, hcons]
      exact hf.append (ih hrest)
  exact hall.mono (c.fields_subperm hfs)

end Traced

/-- What is asked of the lowering of the nodes below. -/
def Traces (code : Utf8.Encoded) (lower : String → Concrete → Lowering Node) : Prop :=
  ∀ parent d n, lower parent d = .ok n → Lowers code d n ∧ Traced code d.AllReadOnce [n] [d]

theorem traced_bareName (s : Span) (name : Value) (cs : List Concrete) :
    Traced code P [bareName s name] cs :=
  (Traced.iff_childNodes rfl).2 (Traced.nil cs)

variable (hl : Traces code lower)
include hl

theorem traced_lower {parent : String} (h : lower parent d = .ok n) (hd : d ∈ c.children) :
    Traced code c.AllReadOnce [n] [d] :=
  (hl _ d n h).2.imp fun hc => hc.of_contains (.child hd)

theorem traced_child {field : String} (h : child lower c field = .ok n) :
    Traced code c.AllReadOnce [n] (c.child? field).toList := by
  obtain ⟨d, hd, h⟩ := Except.bind_eq_ok h
  have hd := need_eq_ok hd
  rw [hd]
  exact traced_lower hl h (Concrete.mem_children_of_child? hd)

theorem traced_child? {field : String} {o : Option Node} (h : child? lower c field = .ok o) :
    Traced code c.AllReadOnce o.toList (c.child? field).toList := by
  unfold child? at h
  split at h
  · rename_i d hd
    obtain ⟨m, hm, rfl⟩ := Except.map_eq_ok h
    rw [hd]
    exact traced_lower hl hm (Concrete.mem_children_of_child? hd)
  · cases h
    exact .nil _

theorem traced_parts (h : parts lower c = .ok ns) : Traced code c.AllReadOnce ns c.children := by
  have hall : ∀ {ds ns}, (∀ d ∈ ds, d ∈ c.children) → ds.mapM (lower c.kind) = .ok ns →
      Traced code c.AllReadOnce ns ds := by
    intro ds
    induction ds with
    | nil =>
      intro ns _ h
      cases h
      exact .nil _
    | cons d ds ih =>
      intro ns hds h
      obtain ⟨hd, hds⟩ := List.forall_mem_cons.1 hds
      obtain ⟨m, ms, hm, hms, rfl⟩ := Except.mapM_cons_eq_ok h
      exact (traced_lower hl hm hd).append (ih hds hms)
  have hparts : c.parts.Sublist c.children := List.filter_sublist
  exact (hall (fun d hd => hparts.subset hd) h).mono hparts.subperm

theorem traced_partsOf {field : String} (hd : c.child? field = some d)
    (h : parts lower d = .ok ns) : Traced code c.AllReadOnce ns (c.child? field).toList := by
  rw [hd]
  exact (traced_parts hl h).up.imp fun hc =>
    hc.of_contains (.child (Concrete.mem_children_of_child? hd))

theorem traced_annotated? {field : String} {o : Option Node}
    (h : annotated? lower (c.child? field) = .ok o) :
    Traced code c.AllReadOnce o.toList (c.child? field).toList := by
  unfold annotated? at h
  split at h
  · cases h
    exact .nil _
  · rename_i a ha
    split at h
    · cases h
      exact .nil _
    · rename_i d ds hd
      obtain ⟨m, hm, rfl⟩ := Except.map_eq_ok h
      rw [ha]
      have hmem : d ∈ a.children := Concrete.mem_children_of_mem_parts (by simp [hd])
      have hread : c.AllReadOnce → a.AllReadOnce := fun hc =>
        hc.of_contains (.child (Concrete.mem_children_of_child? ha))
      exact ((traced_lower hl hm hmem).of_mem_children hmem).imp hread

theorem traced_params (h : params lower c = .ok ns) :
    Traced code c.AllReadOnce ns (c.child? "parameters").toList := by
  unfold params at h
  split at h
  · rename_i d hd
    exact traced_partsOf hl hd h
  · cases h
    exact .nil _

theorem traced_restArgument (h : restArgument code lower c = .ok n) :
    Traced code c.AllReadOnce [n] c.children := by
  unfold restArgument at h
  split at h
  · obtain ⟨s, _, h⟩ := Except.bind_eq_ok h
    cases h
    exact (Traced.iff_childNodes rfl).2 (.nil _)
  · rename_i d ds hd
    have hmem : d ∈ c.children := Concrete.mem_children_of_mem_parts (by simp [hd])
    exact (traced_lower hl h hmem).mono (List.singleton_subperm_iff.2 hmem)

theorem origin_params (h : params lower c = .ok ns) : ns.length ≤ 1 ∨
    ∃ list, c.child? "parameters" = some list ∧ List.Forall₂ (Lowers code) list.parts ns := by
  unfold params at h
  split at h
  · rename_i list hlist
    exact .inr ⟨list, hlist, (Except.forall₂_of_mapM h).imp fun d n hd => (hl _ d n hd).1⟩
  · cases h
    exact .inl (Nat.zero_le 1)

/-- The parts of a function hang under different fields, whichever of them holds the parameters. -/
theorem traced_functionParts {p : FunctionParts} {params : List Node} {field : String}
    (h : functionParts lower c = .ok p) (hfield : field ∉ ["name", "body", "return_type"])
    (hparams : Traced code c.AllReadOnce params (c.child? field).toList) (kind : FunctionKind)
    (s : Span) : Traced code c.AllReadOnce ({ p with params }.node kind s).childNodes c.children := by
  obtain ⟨_, hid, hbody, hret⟩ := functionParts_eq_ok h
  have hfields : Traced code c.AllReadOnce _ c.children := Traced.fields
    [(field, params), ("name", p.id.toList), ("body", p.body.toList),
      ("return_type", p.returnType.toList)] (by simpa using hfield)
    (by simpa using ⟨hparams, traced_child? hl hid, traced_child? hl hbody, traced_annotated? hl hret⟩)
  simpa [FunctionParts.node, childNodes] using hfields

theorem origin_plainFunction {p : FunctionParts} (h : functionParts lower c = .ok p) {s : Span}
    (hs : span code c.functionStart c.stop = .ok s) (kind : FunctionKind) :
    Origin code (p.node kind s) c :=
  ⟨hs, p.params, rfl, origin_params hl (functionParts_eq_ok h).1⟩

theorem traced_plainFunction {p : FunctionParts} (h : functionParts lower c = .ok p) {s : Span}
    (hc : c.isFunctionLike) (hs : span code c.functionStart c.stop = .ok s) (kind : FunctionKind) :
    Traced code c.AllReadOnce [p.node kind s] [c] := by
  have hparams := (functionParts_eq_ok h).1
  exact Traced.function rfl hc (origin_plainFunction hl h hs kind)
    (traced_functionParts hl h (by decide) (traced_params hl hparams) kind s)

theorem traced_arrow (hform : Form.ofKind c.kind = .arrow) (h : arrow code lower c = .ok n) :
    Traced code c.AllReadOnce [n] [c] := by
  obtain ⟨p, hp, h⟩ := Except.bind_eq_ok h
  obtain ⟨params, hparams, h⟩ := Except.bind_eq_ok h
  obtain ⟨s, hs, h⟩ := Except.bind_eq_ok h
  cases h
  have hc : c.isFunctionLike := by rw [Concrete.isFunctionLike, hform]
  have hs : span code c.functionStart c.stop = .ok s := by
    rw [Concrete.functionStart, hform]
    exact hs
  unfold arrowParams at hparams
  split at hparams
  · rename_i d hd
    obtain ⟨m, hm, hparams⟩ := Except.bind_eq_ok hparams
    cases hparams
    have hm : Traced code c.AllReadOnce [m] (c.child? "parameter").toList := by
      rw [hd]
      exact traced_lower hl hm (Concrete.mem_children_of_child? hd)
    exact Traced.function rfl hc ⟨hs, [m], rfl, .inl (Nat.le_refl 1)⟩
      (traced_functionParts hl hp (by decide) hm _ _)
  · cases hparams
    exact traced_plainFunction hl hp hc hs .arrow

/-- The name of a method is lowered twice, as its key and as the name of its function. -/
theorem traced_method {parent : Option String} (hform : Form.ofKind c.kind = .method)
    (h : method code lower parent c = .ok n) : Traced code c.AllReadOnce [n] [c] := by
  obtain ⟨p, hp, h⟩ := Except.bind_eq_ok h
  obtain ⟨s, hs, h⟩ := Except.bind_eq_ok h
  obtain ⟨d, hd, h⟩ := Except.bind_eq_ok h
  obtain ⟨key, hkey, h⟩ := Except.bind_eq_ok h
  have hc : c.isFunctionLike := by rw [Concrete.isFunctionLike, hform]
  have hs : span code c.functionStart c.stop = .ok s := by
    rw [Concrete.functionStart, hform]
    exact hs
  have hd := need_eq_ok hd
  have hmem := Concrete.mem_children_of_child? hd
  have hboth : Traced code c.AllReadOnce [key, p.node .expression s] [c] := by
    refine (traced_lower hl hkey hmem).append_again (traced_plainFunction hl hp hc hs .expression)
      ?_ fun hread => ?_
    · rw [List.flatMap_singleton, List.flatMap_singleton, c.functionLikes_eq]
      exact List.subset_append_of_subset_right _ fun e he => List.mem_flatMap.2 ⟨d, hmem, he⟩
    · have honce := hread c (.self c)
      rw [Concrete.readsOnce, hform] at honce
      simp only [hd, Option.all_some, List.isEmpty_iff] at honce
      rw [List.flatMap_singleton]
      exact honce
  dsimp only at h
  split at h
  · obtain ⟨s', _, h⟩ := Except.bind_eq_ok h
    cases h
    exact (Traced.iff_childNodes rfl).2 hboth
  · obtain ⟨kind, _, h⟩ := Except.bind_eq_ok h
    obtain ⟨s', _, h⟩ := Except.bind_eq_ok h
    cases h
    exact (Traced.iff_childNodes rfl).2 hboth

omit hl in
/-- What one child does to a scan: a decorator is added, any other child leaves the decorators alone
and may be where the scan starts; `=` ends the scan, and what is no modifier moves its end. -/
theorem scan_cons_eq_ok {kind : String} {b b' : Binding}
    (h : scan code lower kind (d :: cs) b = .ok b') :
    (∃ m, d.kind = "decorator" ∧ lower kind d = .ok m ∧
      scan code lower kind cs { b with decorators := b.decorators ++ [m] } = .ok b') ∨
    ∃ b₁ : Binding, d.kind ≠ "decorator" ∧ b₁.decorators = b.decorators ∧
      b₁.start = b.start.or (some d.start) ∧ (b₁.stop = b.stop ∨ b₁.stop = d.stop) ∧
      (b.promoted → b₁.promoted) ∧
      (d.isMark "=" ∧ b' = b₁ ∨
        scan code lower kind cs b₁ = .ok b' ∧ (b₁.promoted ∨ b₁.stop = d.stop)) := by
  unfold scan at h
  split at h
  · next hkind =>
    obtain ⟨m, hm, h⟩ := Except.bind_eq_ok h
    exact .inl ⟨m, hkind, hm, h⟩
  · next hkind =>
    refine .inr ?_
    dsimp only at h
    split at h
    · obtain ⟨t, _, h⟩ := Except.bind_eq_ok h
      refine ⟨_, hkind, ?_, ?_, ?_, ?_, .inr ⟨h, .inl ?_⟩⟩ <;> simp [Binding.promoted]
    · split at h
      · refine ⟨_, hkind, ?_, ?_, ?_, ?_, .inr ⟨h, .inl ?_⟩⟩ <;> simp [Binding.promoted]
      · split at h
        · refine ⟨_, hkind, ?_, ?_, ?_, ?_, .inr ⟨h, .inl ?_⟩⟩ <;> simp [Binding.promoted]
        · split at h
          · next hmark =>
            cases h
            refine ⟨_, hkind, ?_, ?_, ?_, ?_, .inl ⟨hmark, rfl⟩⟩ <;> simp [Binding.promoted]
          · refine ⟨_, hkind, ?_, ?_, ?_, ?_, .inr ⟨h, .inr ?_⟩⟩ <;> simp [Binding.promoted]

omit hl in
theorem scan_ends {kind : String} {b b' : Binding}
    (h : scan code lower kind cs b = .ok b') :
    (b'.start = b.start ∨ ∃ d ∈ cs, b'.start = some d.start) ∧
      (b'.stop = b.stop ∨ ∃ d ∈ cs, b'.stop = d.stop) := by
  induction cs generalizing b with
  | nil =>
    cases h
    exact ⟨.inl rfl, .inl rfl⟩
  | cons d cs ih =>
    have hself : d ∈ d :: cs := List.mem_cons_self
    rcases scan_cons_eq_ok h with ⟨m, _, _, h⟩ | ⟨b₁, _, _, hstart, hstop, _, hrest⟩
    · obtain ⟨hs, ht⟩ := ih h
      exact ⟨hs.imp_right fun ⟨e, he, heq⟩ => ⟨e, List.mem_cons_of_mem _ he, heq⟩,
        ht.imp_right fun ⟨e, he, heq⟩ => ⟨e, List.mem_cons_of_mem _ he, heq⟩⟩
    · have hstart₁ : b₁.start = b.start ∨ b₁.start = some d.start := by
        rw [hstart]
        cases b.start with
        | none => exact .inr rfl
        | some i => exact .inl rfl
      have hends : (b'.start = b₁.start ∨ ∃ e ∈ cs, b'.start = some e.start) ∧
          (b'.stop = b₁.stop ∨ ∃ e ∈ cs, b'.stop = e.stop) := by
        rcases hrest with ⟨_, rfl⟩ | ⟨h, _⟩
        · exact ⟨.inl rfl, .inl rfl⟩
        · exact ih h
      constructor
      · rcases hends.1 with hs | ⟨e, he, hs⟩
        · rw [hs]
          exact hstart₁.imp_right fun heq => ⟨d, hself, heq⟩
        · exact .inr ⟨e, List.mem_cons_of_mem _ he, hs⟩
      · rcases hends.2 with ht | ⟨e, he, ht⟩
        · rw [ht]
          exact hstop.imp_right fun heq => ⟨d, hself, heq⟩
        · exact .inr ⟨e, List.mem_cons_of_mem _ he, ht⟩

/-- The decorators that a scan has met come from the decorators among the children. -/
theorem traced_scan {kind : String} {b b' : Binding} (hcs : ∀ d ∈ cs, d ∈ c.children)
    (hb : Traced code c.AllReadOnce b.decorators ds) (h : scan code lower kind cs b = .ok b') :
    Traced code c.AllReadOnce b'.decorators (ds ++ cs.filter fun d => d.kind = "decorator") := by
  induction cs generalizing b ds with
  | nil =>
    cases h
    rw [List.filter_nil, List.append_nil]
    exact hb
  | cons d cs ih =>
    obtain ⟨hd, hcs⟩ := List.forall_mem_cons.1 hcs
    rcases scan_cons_eq_ok h with ⟨m, hkind, hm, h⟩ | ⟨b₁, hkind, hds, _, _, _, hrest⟩
    · rw [List.filter_cons_of_pos (by simpa using hkind), List.append_cons]
      exact ih hcs (hb.append (traced_lower hl hm hd)) h
    · rw [List.filter_cons_of_neg (by simpa using hkind)]
      rw [← hds] at hb
      rcases hrest with ⟨_, rfl⟩ | ⟨h, _⟩
      · exact hb.mono (List.sublist_append_left _ _).subperm
      · exact ih hcs hb h

theorem traced_pattern {kind : String} {s : Span} {declared : Option Node} {optional : Bool}
    (hdeclared : Traced code P declared.toList cs) (hP : P → c.AllReadOnce)
    (h : pattern code lower c kind s declared optional = .ok n) :
    Traced code P [n] (c :: cs) := by
  have hsame : ∀ {ns}, Traced code c.AllReadOnce ns c.children →
      Traced code P (ns ++ declared.toList) (c :: cs) := fun hns =>
    (hns.up.imp hP).append hdeclared
  unfold pattern at h
  split at h
  · obtain ⟨name, _, h⟩ := Except.bind_eq_ok h
    cases h
    rw [Traced.iff_childNodes rfl]
    simpa [childNodes] using hsame (.nil _)
  · obtain ⟨name, _, h⟩ := Except.bind_eq_ok h
    cases h
    rw [Traced.iff_childNodes rfl]
    simpa [childNodes] using hsame (.nil _)
  · obtain ⟨a, ha, h⟩ := Except.bind_eq_ok h
    cases h
    rw [Traced.iff_childNodes rfl]
    simpa [childNodes] using hsame (traced_restArgument hl ha)
  · obtain ⟨ps, hps, h⟩ := Except.bind_eq_ok h
    cases h
    rw [Traced.iff_childNodes rfl]
    simpa [childNodes] using hsame (traced_parts hl hps)
  · obtain ⟨es, hes, h⟩ := Except.bind_eq_ok h
    cases h
    rw [Traced.iff_childNodes rfl]
    simpa [childNodes] using hsame (traced_parts hl hes)
  · exact ((hl _ c n h).2.imp hP).mono (List.sublist_append_left [c] cs).subperm

theorem traced_withValue {s : Span} {plain : Node}
    (hplain : Traced code c.AllReadOnce [plain] cs) (h : withValue code lower c s plain = .ok n) :
    Traced code c.AllReadOnce [n] (cs ++ (c.child? "value").toList) := by
  unfold withValue at h
  split at h
  · cases h
    exact hplain.mono (List.sublist_append_left _ _).subperm
  · rename_i v hv
    obtain ⟨stop, _, h⟩ := Except.bind_eq_ok h
    obtain ⟨right, hright, h⟩ := Except.bind_eq_ok h
    cases h
    rw [Traced.iff_childNodes rfl, hv]
    exact hplain.append (traced_lower hl hright (Concrete.mem_children_of_child? hv))

omit hl in
/-- The decorators that are put on a binding come on top of some of its children. -/
theorem traced_decorate {start : Int} (hn : Traced code P [n] cs) (hms : Traced code P ms ds) :
    Traced code P [decorate start ms n] (cs ++ ds) := by
  have hon : ∀ ks, n.isFunction = false → ks.Sublist n.childNodes →
      Traced code P (ks ++ ms) (cs ++ ds) := fun ks hf hks =>
    (((Traced.iff_childNodes hf).1 hn).sublist hks).append hms
  unfold decorate
  split
  · rw [Traced.iff_childNodes rfl]
    exact hon _ rfl (List.sublist_append_left _ _)
  · rw [Traced.iff_childNodes rfl]
    exact hon _ rfl (List.sublist_append_left [_, _] _)
  · rw [Traced.iff_childNodes rfl]
    simpa [childNodes] using hon (_ :: _) rfl ((List.sublist_append_left _ _).cons_cons _)
  · rw [Traced.iff_childNodes rfl]
    simpa [childNodes] using hon _ rfl ((List.Sublist.refl _).append (List.sublist_append_left _ _))
  · rw [Traced.iff_childNodes rfl]
    simpa [childNodes] using hon _ rfl ((List.Sublist.refl _).append (List.sublist_append_left _ _))
  · exact hn.mono (List.sublist_append_left _ _).subperm

theorem traced_parameter {optional : Bool} (hform : Form.ofKind c.kind = .parameter optional)
    (h : parameter code lower c optional = .ok n) : Traced code c.AllReadOnce [n] [c] := by
  obtain ⟨declared, hdeclared, h⟩ := Except.bind_eq_ok h
  obtain ⟨bound, hbound, h⟩ := Except.bind_eq_ok h
  obtain ⟨b, hb, h⟩ := Except.bind_eq_ok h
  obtain ⟨s, _, h⟩ := Except.bind_eq_ok h
  obtain ⟨plain, hplain, h⟩ := Except.bind_eq_ok h
  obtain ⟨binding, hbinding, h⟩ := Except.bind_eq_ok h
  obtain ⟨outer, _, h⟩ := Except.bind_eq_ok h
  have hbound := need_eq_ok hbound
  have hplain := traced_pattern hl (traced_annotated? hl hdeclared)
    (fun hc => hc.of_contains (.child (Concrete.mem_children_of_child? hbound))) hplain
  have hbinding := traced_withValue hl hplain hbinding
  have hds := traced_scan hl (fun d hd => hd) (.nil []) hb
  -- what comes from the fields and from the decorators comes from different children
  have hup : ∀ {m}, Traced code c.AllReadOnce [m] ((bound :: (c.child? "type").toList ++
      (c.child? "value").toList) ++ ([] ++ c.children.filter fun d => d.kind = "decorator")) →
        Traced code c.AllReadOnce [m] [c] := by
    intro m hm
    rw [← Concrete.filterMap_bound hbound, List.nil_append] at hm
    refine (hm.mono_of ?_ fun hread => ?_).up
    · have hsub : ["pattern", "type", "value"].filterMap c.child? ⊆ c.children :=
        (c.fields_subperm (by decide)).subset
      exact List.append_subset.2 ⟨hsub, List.filter_sublist.subset⟩
    · have honce := hread c (.self c)
      rw [Concrete.readsOnce, hform] at honce
      simp only [List.all_eq_true, Option.all_eq_true, decide_eq_true_eq] at honce
      exact c.fields_decorators_subperm (by decide) honce
  split at h
  · obtain ⟨stop, _, h⟩ := Except.bind_eq_ok h
    cases h
    exact hup ((Traced.iff_childNodes rfl).2 (hbinding.append hds))
  · cases h
    split
    · exact hup (hbinding.mono (List.sublist_append_left _ _).subperm)
    · exact hup (traced_decorate hbinding hds)

theorem traced_two {first second : String} (hne : first ≠ second)
    (hn : child lower c first = .ok n) (hm : child lower c second = .ok m) :
    Traced code c.AllReadOnce [n, m] [c] := by
  have hfields : Traced code c.AllReadOnce [n, m] c.children := Traced.fields
    [(first, [n]), (second, [m])] (by simpa using hne)
    (by simpa using ⟨traced_child hl hn, traced_child hl hm⟩)
  exact hfields.up

theorem traced_assignment (h : assignment code lower c = .ok n) :
    Traced code c.AllReadOnce [n] [c] := by
  obtain ⟨s, _, h⟩ := Except.bind_eq_ok h
  obtain ⟨left, hleft, h⟩ := Except.bind_eq_ok h
  obtain ⟨right, hright, h⟩ := Except.bind_eq_ok h
  obtain ⟨operator, _, h⟩ := Except.bind_eq_ok h
  cases h
  exact (Traced.iff_childNodes rfl).2 (traced_two hl (by decide) hleft hright)

theorem traced_target {bound : Concrete} (hbound : c.child? "name" = some bound)
    (h : target code lower c bound = .ok n) :
    Traced code c.AllReadOnce [n] (bound :: (c.child? "type").toList) := by
  unfold target at h
  split at h
  · obtain ⟨s, _, h⟩ := Except.bind_eq_ok h
    obtain ⟨name, _, h⟩ := Except.bind_eq_ok h
    obtain ⟨t, ht, h⟩ := Except.bind_eq_ok h
    cases h
    rw [Traced.iff_childNodes rfl]
    simpa [childNodes] using (Traced.nil [bound]).append (traced_annotated? hl ht)
  · have hmem := Concrete.mem_children_of_child? hbound
    exact (traced_lower hl h hmem).mono (List.sublist_append_left [bound] _).subperm

theorem traced_declarator (h : declarator code lower c = .ok n) :
    Traced code c.AllReadOnce [n] [c] := by
  obtain ⟨bound, hbound, h⟩ := Except.bind_eq_ok h
  obtain ⟨id, hid, h⟩ := Except.bind_eq_ok h
  obtain ⟨s, _, h⟩ := Except.bind_eq_ok h
  obtain ⟨init, hinit, h⟩ := Except.bind_eq_ok h
  cases h
  have hbound := need_eq_ok hbound
  have hall := (traced_target hl hbound hid).append (traced_child? hl hinit)
  rw [← Concrete.filterMap_bound hbound] at hall
  exact (Traced.iff_childNodes rfl).2 (hall.mono (c.fields_subperm (by decide))).up

theorem traced_other (h : other code lower c = .ok n) : Traced code c.AllReadOnce [n] [c] := by
  obtain ⟨s, _, h⟩ := Except.bind_eq_ok h
  obtain ⟨body, hbody, h⟩ := Except.bind_eq_ok h
  cases h
  exact (Traced.iff_childNodes rfl).2 (traced_parts hl hbody).up

theorem traced_pair {first second : String} {make : Span → Node → Node → Node}
    (h : (do
      let s ← spanOf code c
      let a ← child lower c first
      let b ← child lower c second
      .ok (make s a b)) = .ok n)
    (hne : first ≠ second)
    (hmake : ∀ s a b, (make s a b).isFunction = false ∧ (make s a b).childNodes = [a, b]) :
    Traced code c.AllReadOnce [n] [c] := by
  obtain ⟨s, _, h⟩ := Except.bind_eq_ok h
  obtain ⟨a, ha, h⟩ := Except.bind_eq_ok h
  obtain ⟨b, hb, h⟩ := Except.bind_eq_ok h
  cases h
  obtain ⟨hfunction, hnodes⟩ := hmake s a b
  rw [Traced.iff_childNodes hfunction, hnodes]
  exact traced_two hl hne ha hb

theorem traced_node {parent : Option String} (h : node code lower parent c = .ok n) :
    Traced code c.AllReadOnce [n] [c] := by
  unfold node at h
  split at h
  · split at h
    · exact traced_other hl h
    · rename_i d ds hd
      have hmem : d ∈ c.children := Concrete.mem_children_of_mem_parts (by simp [hd])
      exact (traced_lower hl h hmem).of_mem_children hmem
  · next hform =>
    obtain ⟨s, hs, h⟩ := Except.bind_eq_ok h
    obtain ⟨p, hp, h⟩ := Except.bind_eq_ok h
    cases h
    have hc : c.isFunctionLike := by rw [Concrete.isFunctionLike, hform]
    refine traced_plainFunction hl hp hc ?_ _
    rw [Concrete.functionStart, hform]
    exact hs
  · next hform => exact traced_arrow hl hform h
  · next hform => exact traced_method hl hform h
  · next hform => exact traced_parameter hl hform h
  · obtain ⟨s, _, h⟩ := Except.bind_eq_ok h
    obtain ⟨t, _, h⟩ := Except.bind_eq_ok h
    cases h
    exact traced_bareName _ _ _
  · exact traced_pair hl h (by decide) fun _ _ _ => ⟨rfl, rfl⟩
  · obtain ⟨s, _, h⟩ := Except.bind_eq_ok h
    obtain ⟨a, ha, h⟩ := Except.bind_eq_ok h
    cases h
    exact (Traced.iff_childNodes rfl).2 (traced_restArgument hl ha).up
  · obtain ⟨s, _, h⟩ := Except.bind_eq_ok h
    obtain ⟨ps, hps, h⟩ := Except.bind_eq_ok h
    cases h
    rw [Traced.iff_childNodes rfl]
    simpa [childNodes] using (traced_parts hl hps).up
  · obtain ⟨s, _, h⟩ := Except.bind_eq_ok h
    obtain ⟨es, hes, h⟩ := Except.bind_eq_ok h
    cases h
    rw [Traced.iff_childNodes rfl]
    simpa [childNodes] using (traced_parts hl hes).up
  · split at h
    · rename_i args hargs
      split at h
      · obtain ⟨s, _, h⟩ := Except.bind_eq_ok h
        obtain ⟨callee, hcallee, h⟩ := Except.bind_eq_ok h
        obtain ⟨ns, hns, h⟩ := Except.bind_eq_ok h
        cases h
        have hfields : Traced code c.AllReadOnce _ c.children := Traced.fields
          [("function", [callee]), ("arguments", ns)] (by simp)
          (by simpa using ⟨traced_child hl hcallee, traced_partsOf hl hargs hns⟩)
        rw [Traced.iff_childNodes rfl]
        simpa [childNodes] using hfields.up
      · exact traced_other hl h
    · exact traced_other hl h
  · exact traced_pair hl h (by decide) fun _ _ _ => ⟨rfl, rfl⟩
  · exact traced_pair hl h (by decide) fun _ _ _ => ⟨rfl, rfl⟩
  · exact traced_pair hl h (by decide) fun _ _ _ => ⟨rfl, rfl⟩
  · unfold shorthand at h
    split at h
    · cases h
    · obtain ⟨ns, _, h⟩ := Except.bind_eq_ok h
      obtain ⟨name, _, h⟩ := Except.bind_eq_ok h
      obtain ⟨s, _, h⟩ := Except.bind_eq_ok h
      cases h
      exact (Traced.iff_childNodes rfl).2
        ((traced_bareName _ _ []).append (traced_bareName _ _ [c]))
  · exact traced_assignment hl h
  · exact traced_declarator hl h
  · obtain ⟨raw, _, h⟩ := Except.bind_eq_ok h
    obtain ⟨s, _, h⟩ := Except.bind_eq_ok h
    cases h
    exact (Traced.iff_childNodes rfl).2 (.nil _)
  · exact traced_other hl h

omit hl in
/-- The functions of a lowered tree come from those of the concrete tree, different ones from
different ones if no function is read twice. -/
theorem traced_ofConcrete {levels : Nat} {parent : Option String}
    (h : ofConcrete code levels parent c = .ok n) : Traced code c.AllReadOnce [n] [c] := by
  induction levels generalizing parent c n with
  | zero => cases h
  | succ levels ih => exact traced_node (fun p d n hd => ⟨⟨_, _, hd⟩, ih hd⟩) h

end Lower

theorem treeOver_functions_traced {limits : Limits} {source language path : String} {c : Concrete}
    {t : Tree}
    (h : treeOver limits source language path c = .ok t) :
    ∃ os, List.Forall₂ (Lower.Origin (Utf8.Encoded.ofString source)) (t.functions.map (·.node)) os ∧
      os ⊆ c.functionLikes ∧ (c.AllReadOnce → os.Subperm c.functionLikes) := by
  obtain ⟨os, hos, hsub, hperm⟩ := Lower.traced_ofConcrete (treeOver_eq_ok h)
  rw [List.flatMap_singleton] at hos hsub hperm
  obtain ⟨os', hos', hperm'⟩ := List.perm_comp_forall₂ t.functions_perm hos
  exact ⟨os', hos', fun o ho => hsub (hperm'.mem_iff.1 ho),
    fun hread => hperm'.subperm.trans (hperm hread)⟩

end ArityLint
