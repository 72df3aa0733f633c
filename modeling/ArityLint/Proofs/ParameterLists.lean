import ArityLint.Proofs.Origins

namespace ArityLint

/-- The parameters of a function: the bare name of an arrow function, if it has one, or those
listed. -/
def Concrete.parameters (c : Concrete) : List Concrete :=
  match Form.ofKind c.kind, c.child? "parameter" with
  | .arrow, some bare => [bare]
  | _, _ => ((c.child? "parameters").map Concrete.parts).getD []

namespace Lower

open Node

/-- The function has the range and the parameters of a concrete function at or below a node. -/
def Declared (code : Utf8.Encoded) (c : Concrete) (f : Node) : Prop :=
  ∃ d, c.Contains d ∧ d.isFunctionLike ∧ span code d.functionStart d.stop = .ok f.span ∧
    ∃ params, f.params? = some params ∧ List.Forall₂ (Lowers code) d.parameters params

/-- All functions at or below the node have the ranges and parameters of concrete ones. -/
def AllDeclared (code : Utf8.Encoded) (c : Concrete) (n : Node) : Prop :=
  ∀ f ∈ n.functions, Declared code c f

variable {code : Utf8.Encoded} {lower : String → Concrete → Lowering Node} {c d : Concrete}
  {n m : Node} {ns ms : List Node} {cs : List Concrete}

theorem AllDeclared.of_contains (h : AllDeclared code d n) (hd : c.Contains d) :
    AllDeclared code c n := fun f hf =>
  let ⟨e, he, hdeclared⟩ := h f hf
  ⟨e, hd.trans he, hdeclared⟩

theorem allDeclared_iff (hn : n.isFunction = false) :
    AllDeclared code c n ↔ ∀ m ∈ n.childNodes, AllDeclared code c m := by
  unfold AllDeclared
  rw [functions_eq, hn]
  simp only [Bool.false_eq_true, if_false, List.nil_append, List.mem_flatMap]
  exact ⟨fun h m hm f hf => h f ⟨m, hm, hf⟩, fun h f ⟨m, hm, hf⟩ => h m hm f hf⟩

theorem allDeclared_function (hn : Declared code c n)
    (h : ∀ m ∈ n.childNodes, AllDeclared code c m) : AllDeclared code c n := by
  intro f hf
  rw [functions_eq, List.mem_append] at hf
  rcases hf with hf | hf
  · split at hf
    · obtain rfl := List.mem_singleton.1 hf
      exact hn
    · cases hf
  · obtain ⟨m, hm, hf⟩ := List.mem_flatMap.1 hf
    exact h m hm f hf

theorem allDeclared_leaf (hn : n.isFunction = false) (h : n.childNodes = []) :
    AllDeclared code c n := (allDeclared_iff hn).2 (by rw [h]; nofun)

/-- What is asked of the lowering of the nodes below. -/
def Declares (code : Utf8.Encoded) (lower : String → Concrete → Lowering Node) : Prop :=
  ∀ parent d n, lower parent d = .ok n → Lowers code d n ∧ AllDeclared code d n

variable (hl : Declares code lower)
include hl

theorem allDeclared_lower {parent : String} (h : lower parent d = .ok n) (hd : d ∈ c.children) :
    AllDeclared code c n :=
  (hl _ d n h).2.of_contains (.child hd)

theorem allDeclared_child {field : String} (h : child lower c field = .ok n) :
    AllDeclared code c n := by
  obtain ⟨d, hd, h⟩ := Except.bind_eq_ok h
  exact allDeclared_lower hl h (Concrete.mem_children_of_child? (need_eq_ok hd))

theorem allDeclared_child? {field : String} {o : Option Node} (h : child? lower c field = .ok o) :
    ∀ m ∈ o.toList, AllDeclared code c m := by
  unfold child? at h
  split at h
  · next d hd =>
    obtain ⟨m, hm, rfl⟩ := Except.map_eq_ok h
    exact List.forall_mem_singleton.2 (allDeclared_lower hl hm (Concrete.mem_children_of_child? hd))
  · cases h
    nofun

theorem allDeclared_parts (h : parts lower c = .ok ns) : ∀ m ∈ ns, AllDeclared code c m := by
  intro m hm
  obtain ⟨d, hd, h⟩ := Except.exists_of_mem_mapM h hm
  exact allDeclared_lower hl h (Concrete.mem_children_of_mem_parts hd)

theorem allDeclared_partsOf (hd : d ∈ c.children) (h : parts lower d = .ok ns) :
    ∀ m ∈ ns, AllDeclared code c m :=
  fun m hm => (allDeclared_parts hl h m hm).of_contains (.child hd)

theorem allDeclared_annotated? {field : String} {o : Option Node}
    (h : annotated? lower (c.child? field) = .ok o) : ∀ m ∈ o.toList, AllDeclared code c m := by
  unfold annotated? at h
  split at h
  · cases h
    nofun
  · next a ha =>
    split at h
    · cases h
      nofun
    · next d ds hd =>
      obtain ⟨m, hm, rfl⟩ := Except.map_eq_ok h
      have hmem : d ∈ a.children := Concrete.mem_children_of_mem_parts (by simp [hd])
      exact List.forall_mem_singleton.2 ((allDeclared_lower hl hm hmem).of_contains
        (.child (Concrete.mem_children_of_child? ha)))

theorem allDeclared_restArgument (h : restArgument code lower c = .ok n) :
    AllDeclared code c n := by
  unfold restArgument at h
  split at h
  · obtain ⟨s, _, h⟩ := Except.bind_eq_ok h
    cases h
    exact allDeclared_leaf rfl rfl
  · next d ds hd =>
    exact allDeclared_lower hl h (Concrete.mem_children_of_mem_parts (by simp [hd]))

theorem allDeclared_params (h : params lower c = .ok ns) : ∀ m ∈ ns, AllDeclared code c m := by
  unfold params at h
  split at h
  · next d hd => exact allDeclared_partsOf hl (Concrete.mem_children_of_child? hd) h
  · cases h
    nofun

theorem lowers_params (h : params lower c = .ok ns) :
    List.Forall₂ (Lowers code) ((c.child? "parameters").map Concrete.parts |>.getD []) ns := by
  unfold params at h
  split at h
  · next d hd =>
    rw [hd]
    exact (Except.forall₂_of_mapM h).imp fun d n hd => (hl _ d n hd).1
  · next hd =>
    rw [hd]
    cases h
    exact .nil

/-- A function with the parameters of a concrete function, and with its other parts. -/
theorem allDeclared_parameters {p : FunctionParts} {s : Span} (hc : c.isFunctionLike)
    (hs : span code c.functionStart c.stop = .ok s) (hp : functionParts lower c = .ok p)
    (hlowers : List.Forall₂ (Lowers code) c.parameters ns)
    (hns : ∀ m ∈ ns, AllDeclared code c m) (kind : FunctionKind) :
    AllDeclared code c ({ p with params := ns }.node kind s) := by
  obtain ⟨_, hid, hbody, hret⟩ := functionParts_eq_ok hp
  refine allDeclared_function ⟨c, .self c, hc, hs, ns, rfl, hlowers⟩ ?_
  simpa only [FunctionParts.node, childNodes, List.forall_mem_append, and_assoc] using
    ⟨hns, allDeclared_child? hl hid, allDeclared_child? hl hbody, allDeclared_annotated? hl hret⟩

theorem allDeclared_plainFunction {p : FunctionParts} {s : Span} (hc : c.isFunctionLike)
    (hs : span code c.functionStart c.stop = .ok s)
    (hbare : Form.ofKind c.kind = .arrow → c.child? "parameter" = none)
    (hp : functionParts lower c = .ok p) (kind : FunctionKind) :
    AllDeclared code c (p.node kind s) := by
  have hparams := (functionParts_eq_ok hp).1
  have hparameters : c.parameters = ((c.child? "parameters").map Concrete.parts).getD [] := by
    unfold Concrete.parameters
    split
    · next bare hform hbare' => exact absurd ((hbare hform).symm.trans hbare') nofun
    · rfl
  exact allDeclared_parameters hl hc hs hp (hparameters ▸ lowers_params hl hparams)
    (allDeclared_params hl hparams) kind

theorem allDeclared_arrow (hform : Form.ofKind c.kind = .arrow) (h : arrow code lower c = .ok n) :
    AllDeclared code c n := by
  obtain ⟨p, hp, h⟩ := Except.bind_eq_ok h
  obtain ⟨params, hparams, h⟩ := Except.bind_eq_ok h
  obtain ⟨s, hs, h⟩ := Except.bind_eq_ok h
  cases h
  have hc : c.isFunctionLike := by rw [Concrete.isFunctionLike, hform]
  have hs : span code c.functionStart c.stop = .ok s := by
    rw [Concrete.functionStart, hform]
    exact hs
  unfold arrowParams at hparams
  split at hparams
  · next d hd =>
    obtain ⟨m, hm, hparams⟩ := Except.bind_eq_ok hparams
    cases hparams
    have hparameters : c.parameters = [d] := by rw [Concrete.parameters, hform, hd]
    have hd := allDeclared_lower hl hm (Concrete.mem_children_of_child? hd)
    exact allDeclared_parameters hl hc hs hp (hparameters ▸ .cons (hl _ d m hm).1 .nil)
      (List.forall_mem_singleton.2 hd) _
  · next hd =>
    cases hparams
    exact allDeclared_plainFunction hl hc hs (fun _ => hd) hp _

theorem allDeclared_method {parent : Option String} (hform : Form.ofKind c.kind = .method)
    (h : method code lower parent c = .ok n) : AllDeclared code c n := by
  obtain ⟨p, hp, h⟩ := Except.bind_eq_ok h
  obtain ⟨s, hs, h⟩ := Except.bind_eq_ok h
  obtain ⟨d, hd, h⟩ := Except.bind_eq_ok h
  obtain ⟨key, hkey, h⟩ := Except.bind_eq_ok h
  have hs : span code c.functionStart c.stop = .ok s := by
    rw [Concrete.functionStart, hform]
    exact hs
  have hkey := allDeclared_lower hl hkey (Concrete.mem_children_of_child? (need_eq_ok hd))
  have hvalue := allDeclared_plainFunction hl (by rw [Concrete.isFunctionLike, hform]) hs
    (fun harrow => by cases hform.symm.trans harrow) hp .expression
  have hboth : ∀ m ∈ [key, p.node .expression s], AllDeclared code c m := by
    simp [hkey, hvalue]
  dsimp only at h
  split at h
  · obtain ⟨s', _, h⟩ := Except.bind_eq_ok h
    cases h
    exact (allDeclared_iff rfl).2 hboth
  · obtain ⟨kind, _, h⟩ := Except.bind_eq_ok h
    obtain ⟨s', _, h⟩ := Except.bind_eq_ok h
    cases h
    exact (allDeclared_iff rfl).2 hboth

theorem allDeclared_scan {kind : String} {b b' : Binding} (hcs : ∀ d ∈ cs, d ∈ c.children)
    (hb : ∀ m ∈ b.decorators, AllDeclared code c m) (h : scan code lower kind cs b = .ok b') :
    ∀ m ∈ b'.decorators, AllDeclared code c m := by
  induction cs generalizing b with
  | nil =>
    cases h
    exact hb
  | cons d cs ih =>
    obtain ⟨hd, hcs⟩ := List.forall_mem_cons.1 hcs
    rcases scan_cons_eq_ok h with ⟨m, _, hm, h⟩ | ⟨b₁, _, hds, _, _, _, hrest⟩
    · exact ih hcs (List.forall_mem_append.2
        ⟨hb, List.forall_mem_singleton.2 (allDeclared_lower hl hm hd)⟩) h
    · rw [← hds] at hb
      rcases hrest with ⟨_, rfl⟩ | ⟨h, _⟩
      · exact hb
      · exact ih hcs hb h

theorem allDeclared_pattern {bound : Concrete} {kind : String} {s : Span} {declared : Option Node}
    {optional : Bool} (hbound : bound ∈ c.children)
    (hdeclared : ∀ m ∈ declared.toList, AllDeclared code c m)
    (h : pattern code lower bound kind s declared optional = .ok n) : AllDeclared code c n := by
  have hparts : ∀ {ns}, parts lower bound = .ok ns →
      ∀ m ∈ ns ++ (declared.toList ++ []), AllDeclared code c m := fun hns => by
    rw [List.append_nil, List.forall_mem_append]
    exact ⟨allDeclared_partsOf hl hbound hns, hdeclared⟩
  unfold pattern at h
  split at h
  · obtain ⟨name, _, h⟩ := Except.bind_eq_ok h
    cases h
    refine (allDeclared_iff rfl).2 ?_
    rwa [childNodes, List.append_nil]
  · obtain ⟨name, _, h⟩ := Except.bind_eq_ok h
    cases h
    refine (allDeclared_iff rfl).2 ?_
    rwa [childNodes, List.append_nil]
  · obtain ⟨a, ha, h⟩ := Except.bind_eq_ok h
    cases h
    have ha := (allDeclared_restArgument hl ha).of_contains (.child hbound)
    refine (allDeclared_iff rfl).2 (List.forall_mem_cons.2 ⟨ha, ?_⟩)
    rwa [List.append_nil]
  · obtain ⟨ps, hps, h⟩ := Except.bind_eq_ok h
    cases h
    exact (allDeclared_iff rfl).2 (hparts hps)
  · obtain ⟨es, hes, h⟩ := Except.bind_eq_ok h
    cases h
    exact (allDeclared_iff rfl).2 (hparts hes)
  · exact allDeclared_lower hl h hbound

theorem allDeclared_withValue {s : Span} {plain : Node} (hplain : AllDeclared code c plain)
    (h : withValue code lower c s plain = .ok n) : AllDeclared code c n := by
  unfold withValue at h
  split at h
  · cases h
    exact hplain
  · next v hv =>
    obtain ⟨stop, _, h⟩ := Except.bind_eq_ok h
    obtain ⟨right, hright, h⟩ := Except.bind_eq_ok h
    cases h
    have hright := allDeclared_lower hl hright (Concrete.mem_children_of_child? hv)
    exact (allDeclared_iff rfl).2 (by simpa [childNodes] using ⟨hplain, hright⟩)

omit hl in
theorem allDeclared_decorate {start : Int} (hn : AllDeclared code c n)
    (hms : ∀ m ∈ ms, AllDeclared code c m) : AllDeclared code c (decorate start ms n) := by
  have hon : n.isFunction = false → ∀ m ∈ n.childNodes ++ ms, AllDeclared code c m := fun hf =>
    List.forall_mem_append.2 ⟨(allDeclared_iff hf).1 hn, hms⟩
  unfold decorate
  split
  case h_6 => exact hn
  all_goals
    refine (allDeclared_iff rfl).2 fun m hm => hon rfl m ?_
    simp only [childNodes, List.mem_append, List.mem_cons] at hm ⊢
    tauto

theorem allDeclared_parameter {optional : Bool} (h : parameter code lower c optional = .ok n) :
    AllDeclared code c n := by
  obtain ⟨declared, hdeclared, h⟩ := Except.bind_eq_ok h
  obtain ⟨bound, hbound, h⟩ := Except.bind_eq_ok h
  obtain ⟨b, hb, h⟩ := Except.bind_eq_ok h
  obtain ⟨s, _, h⟩ := Except.bind_eq_ok h
  obtain ⟨plain, hplain, h⟩ := Except.bind_eq_ok h
  obtain ⟨binding, hbinding, h⟩ := Except.bind_eq_ok h
  obtain ⟨outer, _, h⟩ := Except.bind_eq_ok h
  have hplain := allDeclared_pattern hl (Concrete.mem_children_of_child? (need_eq_ok hbound))
    (allDeclared_annotated? hl hdeclared) hplain
  have hbinding := allDeclared_withValue hl hplain hbinding
  have hds := allDeclared_scan hl (fun d hd => hd) (by simp) hb
  split at h
  · obtain ⟨stop, _, h⟩ := Except.bind_eq_ok h
    cases h
    exact (allDeclared_iff rfl).2 (List.forall_mem_cons.2 ⟨hbinding, hds⟩)
  · cases h
    split
    · exact hbinding
    · exact allDeclared_decorate hbinding hds

theorem allDeclared_two {first second : String} {make : Span → Node → Node → Node}
    (h : (do
      let s ← spanOf code c
      let a ← child lower c first
      let b ← child lower c second
      .ok (make s a b)) = .ok n)
    (hmake : ∀ s a b, (make s a b).isFunction = false ∧ (make s a b).childNodes = [a, b]) :
    AllDeclared code c n := by
  obtain ⟨s, _, h⟩ := Except.bind_eq_ok h
  obtain ⟨a, ha, h⟩ := Except.bind_eq_ok h
  obtain ⟨b, hb, h⟩ := Except.bind_eq_ok h
  cases h
  obtain ⟨hfunction, hnodes⟩ := hmake s a b
  rw [allDeclared_iff hfunction, hnodes]
  simpa using ⟨allDeclared_child hl ha, allDeclared_child hl hb⟩

theorem allDeclared_assignment (h : assignment code lower c = .ok n) : AllDeclared code c n := by
  obtain ⟨s, _, h⟩ := Except.bind_eq_ok h
  obtain ⟨left, hleft, h⟩ := Except.bind_eq_ok h
  obtain ⟨right, hright, h⟩ := Except.bind_eq_ok h
  obtain ⟨operator, _, h⟩ := Except.bind_eq_ok h
  cases h
  exact (allDeclared_iff rfl).2
    (by simpa [childNodes] using ⟨allDeclared_child hl hleft, allDeclared_child hl hright⟩)

theorem allDeclared_target {bound : Concrete} (hbound : bound ∈ c.children)
    (h : target code lower c bound = .ok n) : AllDeclared code c n := by
  unfold target at h
  split at h
  · obtain ⟨s, _, h⟩ := Except.bind_eq_ok h
    obtain ⟨name, _, h⟩ := Except.bind_eq_ok h
    obtain ⟨t, ht, h⟩ := Except.bind_eq_ok h
    cases h
    exact (allDeclared_iff rfl).2 (by simpa [childNodes] using allDeclared_annotated? hl ht)
  · exact allDeclared_lower hl h hbound

theorem allDeclared_declarator (h : declarator code lower c = .ok n) : AllDeclared code c n := by
  obtain ⟨bound, hbound, h⟩ := Except.bind_eq_ok h
  obtain ⟨id, hid, h⟩ := Except.bind_eq_ok h
  obtain ⟨s, _, h⟩ := Except.bind_eq_ok h
  obtain ⟨init, hinit, h⟩ := Except.bind_eq_ok h
  cases h
  have hid := allDeclared_target hl (Concrete.mem_children_of_child? (need_eq_ok hbound)) hid
  exact (allDeclared_iff rfl).2 (List.forall_mem_cons.2 ⟨hid, allDeclared_child? hl hinit⟩)

theorem allDeclared_other (h : other code lower c = .ok n) : AllDeclared code c n := by
  obtain ⟨s, _, h⟩ := Except.bind_eq_ok h
  obtain ⟨body, hbody, h⟩ := Except.bind_eq_ok h
  cases h
  exact (allDeclared_iff rfl).2 (allDeclared_parts hl hbody)

theorem allDeclared_call (h : (match c.child? "arguments" with
      | some args =>
        if args.kind = "arguments" then do
          let span ← spanOf code c
          .ok (Node.call span (← child lower c "function") (← parts lower args))
        else other code lower c
      | none => other code lower c) = .ok n) : AllDeclared code c n := by
  split at h
  · next args hargs =>
    split at h
    · obtain ⟨s, _, h⟩ := Except.bind_eq_ok h
      obtain ⟨callee, hcallee, h⟩ := Except.bind_eq_ok h
      obtain ⟨ns, hns, h⟩ := Except.bind_eq_ok h
      cases h
      have hns := allDeclared_partsOf hl (Concrete.mem_children_of_child? hargs) hns
      exact (allDeclared_iff rfl).2
        (List.forall_mem_cons.2 ⟨allDeclared_child hl hcallee, hns⟩)
    · exact allDeclared_other hl h
  · exact allDeclared_other hl h

theorem allDeclared_node {parent : Option String} (h : node code lower parent c = .ok n) :
    AllDeclared code c n := by
  unfold node at h
  cases hform : Form.ofKind c.kind <;> rw [hform] at h
  case parenthesized =>
    dsimp only at h
    split at h
    · exact allDeclared_other hl h
    · next d ds hd =>
      exact allDeclared_lower hl h (Concrete.mem_children_of_mem_parts (by simp [hd]))
  case function kind =>
    obtain ⟨s, hs, h⟩ := Except.bind_eq_ok h
    obtain ⟨p, hp, h⟩ := Except.bind_eq_ok h
    cases h
    exact allDeclared_plainFunction hl (by rw [Concrete.isFunctionLike, hform])
      (by rw [Concrete.functionStart, hform]; exact hs)
      (fun harrow => absurd (hform.symm.trans harrow) nofun) hp kind
  case arrow => exact allDeclared_arrow hl hform h
  case method => exact allDeclared_method hl hform h
  case parameter optional => exact allDeclared_parameter hl h
  case name =>
    obtain ⟨s, _, h⟩ := Except.bind_eq_ok h
    obtain ⟨t, _, h⟩ := Except.bind_eq_ok h
    cases h
    exact allDeclared_leaf rfl rfl
  case assignmentPattern | member | subscript | pair =>
    exact allDeclared_two hl h fun _ _ _ => ⟨rfl, rfl⟩
  case rest =>
    obtain ⟨s, _, h⟩ := Except.bind_eq_ok h
    obtain ⟨a, ha, h⟩ := Except.bind_eq_ok h
    cases h
    exact (allDeclared_iff rfl).2 (List.forall_mem_singleton.2 (allDeclared_restArgument hl ha))
  case objectPattern | arrayPattern =>
    obtain ⟨s, _, h⟩ := Except.bind_eq_ok h
    obtain ⟨ps, hps, h⟩ := Except.bind_eq_ok h
    cases h
    exact (allDeclared_iff rfl).2 (by simpa [childNodes] using allDeclared_parts hl hps)
  case call => exact allDeclared_call hl h
  case shorthand =>
    dsimp only [shorthand] at h
    split at h
    · cases h
    · obtain ⟨ns, _, h⟩ := Except.bind_eq_ok h
      obtain ⟨name, _, h⟩ := Except.bind_eq_ok h
      obtain ⟨s, _, h⟩ := Except.bind_eq_ok h
      cases h
      have hname : AllDeclared code c (bareName ns (.str name)) := allDeclared_leaf rfl rfl
      exact (allDeclared_iff rfl).2 (by simpa [childNodes] using hname)
  case assignment => exact allDeclared_assignment hl h
  case declarator => exact allDeclared_declarator hl h
  case literal kind =>
    obtain ⟨raw, _, h⟩ := Except.bind_eq_ok h
    obtain ⟨s, _, h⟩ := Except.bind_eq_ok h
    cases h
    exact allDeclared_leaf rfl rfl
  case other => exact allDeclared_other hl h

omit hl in
theorem allDeclared_ofConcrete {levels : Nat} {parent : Option String}
    (h : ofConcrete code levels parent c = .ok n) : AllDeclared code c n := by
  induction levels generalizing parent c n with
  | zero => cases h
  | succ levels ih => exact allDeclared_node (fun p d n hd => ⟨⟨_, _, hd⟩, ih hd⟩) h

end Lower

/-- Each function in the tree of a text has the range of a function in its concrete tree, and the
parameters of it in their order. -/
theorem treeOver_declares {limits : Limits} {source language path : String} {c : Concrete} {t : Tree}
    (h : treeOver limits source language path c = .ok t) {v : Visit} (hv : v ∈ t.functions) :
    ∃ d ∈ c.functionLikes,
      Lower.span (Utf8.Encoded.ofString source) d.functionStart d.stop = .ok v.node.span ∧
      ∃ params, v.node.params? = some params ∧
        List.Forall₂ (Lower.Lowers (Utf8.Encoded.ofString source)) d.parameters params := by
  have hmem : v.node ∈ t.root.functions :=
    t.functions_perm.subset (List.mem_map_of_mem hv)
  obtain ⟨d, hd, hlike, hparams⟩ := Lower.allDeclared_ofConcrete (treeOver_eq_ok h) v.node hmem
  exact ⟨d, List.mem_filter.2 ⟨Concrete.mem_nodes.2 hd, hlike⟩, hparams⟩

end ArityLint
