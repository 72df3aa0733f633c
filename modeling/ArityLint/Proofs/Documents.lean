import ArityLint.Proofs.Findings
import ArityLint.Tree.Estree

namespace ArityLint

namespace Node

def AllGenuine (n : Node) : Prop := n.All IsGenuine

theorem allGenuine_iff {n : Node} : n.AllGenuine ↔ n.IsGenuine ∧ n.EachChild AllGenuine :=
  all_iff

end Node

namespace Estree

open Node

variable {path : Path} {fields : List (String × Value)} {convert : Value → Except Error Node}
  {n : Node}

variable (hc : ∀ v n, convert v = .ok n → n.AllGenuine)
include hc

theorem allGenuine_child {key : String} (h : child path fields convert key = .ok n) :
    n.AllGenuine := by
  unfold child at h
  dsimp only at h
  split at h
  · exact hc _ n h
  · cases h

theorem allGenuine_child? {key : String} {o : Option Node} (h : child? fields convert key = .ok o) :
    ∀ m ∈ o, m.AllGenuine := by
  unfold child? at h
  dsimp only at h
  split at h
  · obtain ⟨m, hm, rfl⟩ := Except.map_eq_ok h
    intro m' hm'
    cases hm'
    exact hc _ m hm
  · cases h
    intro m hm
    cases hm

theorem allGenuine_nodesOf {items : List Value} {ns : List Node}
    (h : nodesOf convert items = .ok ns) : ∀ m ∈ ns, m.AllGenuine := by
  intro m hm
  obtain ⟨v, _, hv⟩ := Except.exists_of_mem_mapM h hm
  exact hc v m hv

theorem allGenuine_children {key : String} {ns : List Node}
    (h : children fields convert key = .ok ns) : ∀ m ∈ ns, m.AllGenuine := by
  unfold children at h
  split at h
  · exact allGenuine_nodesOf hc h
  · cases h; simp
  · cases h; simp
  · cases h; simp
  · split at h
    · cases h
    · cases h; simp

theorem allGenuine_typeExpr? {key : String} {o : Option Node}
    (h : typeExpr? fields convert key = .ok o) : ∀ m ∈ o, m.AllGenuine := by
  unfold typeExpr? at h
  split at h
  · split at h
    · obtain ⟨m, hm, rfl⟩ := Except.map_eq_ok h
      intro m' hm'
      cases hm'
      exact hc _ m hm
    · cases h; simp
  · cases h; simp

theorem allGenuine_under {key : String} {v : Value} {ns : List Node}
    (h : under convert key v = .ok ns) : ∀ m ∈ ns, m.AllGenuine := by
  unfold under at h
  split at h
  · cases h; simp
  · split at h
    · exact allGenuine_nodesOf hc h
    · split at h
      · obtain ⟨m, hm, h⟩ := Except.bind_eq_ok h
        cases h
        simpa using hc _ m hm
      · cases h; simp

theorem allGenuine_allChildren {ns : List Node} (h : allChildren fields convert = .ok ns) :
    ∀ m ∈ ns, m.AllGenuine := by
  obtain ⟨found, hfound, h⟩ := Except.bind_eq_ok h
  cases h
  intro m hm
  obtain ⟨ms, hms, hm⟩ := List.mem_flatten.1 ((List.mergeSort_perm _ _).mem_iff.1 hm)
  obtain ⟨⟨key, v⟩, _, hv⟩ := Except.exists_of_mem_mapM hfound hms
  exact allGenuine_under hc hv m hm

theorem allGenuine_function {s : Span} {kind : FunctionKind}
    (h : function fields convert s kind = .ok n) : n.AllGenuine := by
  obtain ⟨params, hparams, h⟩ := Except.bind_eq_ok h
  obtain ⟨id, hid, h⟩ := Except.bind_eq_ok h
  obtain ⟨body, hbody, h⟩ := Except.bind_eq_ok h
  obtain ⟨ret, hret, h⟩ := Except.bind_eq_ok h
  cases h
  exact allGenuine_iff.2 ⟨trivial, allGenuine_children hc hparams, allGenuine_child? hc hid,
    allGenuine_child? hc hbody, allGenuine_typeExpr? hc hret⟩

theorem allGenuine_named {s : Span} {type : String} (h : named path fields convert s type = .ok n) :
    n.AllGenuine := by
  unfold named at h
  split at h
  · obtain ⟨t, ht, h⟩ := Except.bind_eq_ok h
    obtain ⟨ds, hds, h⟩ := Except.bind_eq_ok h
    cases h
    exact allGenuine_iff.2 ⟨trivial, allGenuine_typeExpr? hc ht, allGenuine_children hc hds⟩
  · cases h
    exact allGenuine_iff.2 ⟨trivial, trivial⟩
  · obtain ⟨l, hl, h⟩ := Except.bind_eq_ok h
    obtain ⟨r, hr, h⟩ := Except.bind_eq_ok h
    obtain ⟨ds, hds, h⟩ := Except.bind_eq_ok h
    cases h
    exact allGenuine_iff.2 ⟨trivial, allGenuine_child hc hl, allGenuine_child hc hr,
      allGenuine_children hc hds⟩
  · obtain ⟨a, ha, h⟩ := Except.bind_eq_ok h
    obtain ⟨t, ht, h⟩ := Except.bind_eq_ok h
    obtain ⟨ds, hds, h⟩ := Except.bind_eq_ok h
    cases h
    exact allGenuine_iff.2 ⟨trivial, allGenuine_child hc ha, allGenuine_typeExpr? hc ht,
      allGenuine_children hc hds⟩
  · obtain ⟨ps, hps, h⟩ := Except.bind_eq_ok h
    obtain ⟨t, ht, h⟩ := Except.bind_eq_ok h
    obtain ⟨ds, hds, h⟩ := Except.bind_eq_ok h
    cases h
    exact allGenuine_iff.2 ⟨trivial, allGenuine_children hc hps, allGenuine_typeExpr? hc ht,
      allGenuine_children hc hds⟩
  · obtain ⟨es, hes, h⟩ := Except.bind_eq_ok h
    obtain ⟨t, ht, h⟩ := Except.bind_eq_ok h
    obtain ⟨ds, hds, h⟩ := Except.bind_eq_ok h
    cases h
    exact allGenuine_iff.2 ⟨trivial, allGenuine_children hc hes, allGenuine_typeExpr? hc ht,
      allGenuine_children hc hds⟩
  · obtain ⟨p, hp, h⟩ := Except.bind_eq_ok h
    obtain ⟨ds, hds, h⟩ := Except.bind_eq_ok h
    cases h
    exact allGenuine_iff.2 ⟨trivial, allGenuine_child hc hp, allGenuine_children hc hds⟩
  · exact allGenuine_function hc h
  · exact allGenuine_function hc h
  · exact allGenuine_function hc h
  · obtain ⟨c, hcallee, h⟩ := Except.bind_eq_ok h
    obtain ⟨args, hargs, h⟩ := Except.bind_eq_ok h
    cases h
    exact allGenuine_iff.2 ⟨trivial, allGenuine_child hc hcallee, allGenuine_children hc hargs⟩
  · obtain ⟨o, ho, h⟩ := Except.bind_eq_ok h
    obtain ⟨p, hp, h⟩ := Except.bind_eq_ok h
    cases h
    exact allGenuine_iff.2 ⟨trivial, allGenuine_child hc ho, allGenuine_child hc hp⟩
  · obtain ⟨k, hk, h⟩ := Except.bind_eq_ok h
    obtain ⟨v, hv, h⟩ := Except.bind_eq_ok h
    cases h
    exact allGenuine_iff.2 ⟨trivial, allGenuine_child hc hk, allGenuine_child hc hv⟩
  · obtain ⟨k, hk, h⟩ := Except.bind_eq_ok h
    obtain ⟨v, hv, h⟩ := Except.bind_eq_ok h
    cases h
    exact allGenuine_iff.2 ⟨trivial, allGenuine_child hc hk, allGenuine_child hc hv⟩
  · obtain ⟨l, hl, h⟩ := Except.bind_eq_ok h
    obtain ⟨r, hr, h⟩ := Except.bind_eq_ok h
    cases h
    exact allGenuine_iff.2 ⟨trivial, allGenuine_child hc hl, allGenuine_child hc hr⟩
  · obtain ⟨i, hi, h⟩ := Except.bind_eq_ok h
    obtain ⟨v, hv, h⟩ := Except.bind_eq_ok h
    cases h
    exact allGenuine_iff.2 ⟨trivial, allGenuine_child hc hi, allGenuine_child? hc hv⟩
  · obtain ⟨ns, hns, h⟩ := Except.bind_eq_ok h
    cases h
    refine allGenuine_iff.2 ⟨fun k hk => ?_, allGenuine_allChildren hc hns⟩
    -- a function's name is among those matched before
    cases k <;> simp_all [FunctionKind.name]

theorem allGenuine_object (h : object path fields convert = .ok n) : n.AllGenuine := by
  obtain ⟨s, _, h⟩ := Except.bind_eq_ok h
  split at h
  · exact allGenuine_named hc h
  · cases h
  · cases h
  · rename_i type hstr _ _
    obtain ⟨ns, hns, h⟩ := Except.bind_eq_ok h
    cases h
    exact allGenuine_iff.2 ⟨fun k hk => hstr _ hk, allGenuine_allChildren hc hns⟩

omit hc

theorem allGenuine_convert {levels : Nat} {v : Value}
    (h : Estree.convert path levels v = .ok n) : n.AllGenuine := by
  induction levels generalizing v n with
  | zero => cases h
  | succ levels ih =>
    unfold Estree.convert at h
    split at h
    · rename_i levels' fields heq
      obtain rfl := Nat.succ.inj heq
      exact allGenuine_object (fun _ _ => ih) h
    · cases h

/-- Whatever a document holds, its tree has a function's type name on functions only. -/
theorem allGenuine_tree {complaint : String → String} {document : Value} {source path : String}
    {t : Tree}
    (h : tree complaint document source path = .ok t) : t.root.AllGenuine := by
  obtain ⟨value, _, h⟩ := Except.bind_eq_ok h
  obtain ⟨root, hroot, h⟩ := Except.bind_eq_ok h
  cases h
  unfold ofValue at hroot
  split at hroot
  · exact allGenuine_convert hroot
  · cases hroot

def noComplaint : String → String := fun _ => ""

end Estree

end ArityLint
