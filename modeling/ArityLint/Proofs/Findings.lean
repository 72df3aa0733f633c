import ArityLint.Proofs.Signature
import ArityLint.Repair

namespace ArityLint

open LintM

/-- The finding at a node, without what is logged about it. -/
def findingAt (t : Tree) (v : Visit) : Except Fault (Option Finding) := do
  match ← exclusion? v.node (t.place v) with
  | some _ => .ok none
  | none =>
    let params := v.node.params?.getD []
    let edit ← editOf params t.source
    .ok (some ⟨v.node.type, v.node.span, Rule.messageId, [("count", .int params.length)], edit⟩)

theorem yields_checkNode (t : Tree) (v : Visit) :
    (checkNode t v).Yields ((findingAt t v).mapError .fault) := by
  unfold checkNode findingAt
  rw [Except.mapError_bind]
  apply (yields_ofFault _).bind
  intro reason _
  cases reason with
  | some reason => exact (yields_debug _ _).bind_ok (yields_pure _)
  | none =>
    rw [Except.mapError_bind]
    apply (yields_ofFault _).bind
    intro edit _
    dsimp only
    split
    · exact (yields_debug _ _).bind_ok (yields_pure _)
    · exact yields_pure _

namespace Node

/-- A node about which nothing is known bears no function's type name. -/
def IsGenuine : Node → Prop
  | other _ kind _ => ∀ k : FunctionKind, kind ≠ .str k.name
  | _ => True

theorem bearsFunctionName_iff {n : Node} (h : n.IsGenuine) :
    bearsFunctionName n = true ↔ ∃ params, n.params? = some params := by
  cases n with
  | other s kind body =>
    simp only [bearsFunctionName, List.any_eq_true, params?, reduceCtorEq, exists_false, iff_false]
    rintro ⟨k, _, hk⟩
    cases kind with
    | str t => exact h k (congrArg Value.str (of_decide_eq_true hk))
    | _ => cases hk
  | function s kind ps i b r =>
    cases kind <;>
      simp [bearsFunctionName, FunctionKind.all, type, Value.isStr, FunctionKind.name, params?]
  | _ => simp [bearsFunctionName, FunctionKind.all, type, Value.isStr, FunctionKind.name, params?]

end Node

/-- The finding at a visit of the walk, if there is one. -/
def finding? (t : Tree) (v : Visit) : Option Finding :=
  if bearsFunctionName v.node then (findingAt t v).toOption.join else none

theorem filterMap_finding?_cons {t : Tree} {v : Visit} {o : Option Finding}
    (hb : bearsFunctionName v.node = true) (ho : findingAt t v = .ok o) (vs : List Visit) :
    (v :: vs).filterMap (finding? t) = o.toList ++ vs.filterMap (finding? t) := by
  have hf : finding? t v = o := by rw [finding?, if_pos hb, ho]; rfl
  cases o with
  | none => simp [hf]
  | some f => simp [hf]

/-- Over any visits the check fails, or lists what the rule finds at them in their order. -/
theorem yields_checkVisits (t : Tree) (vs : List Visit) :
    ∃ r, (checkVisits t vs).Yields r ∧
      ∀ fs, r = .ok fs ↔ (∀ v ∈ vs, bearsFunctionName v.node → ∃ o, findingAt t v = .ok o) ∧
        fs = vs.filterMap (finding? t) := by
  induction vs with
  | nil => exact ⟨.ok [], yields_pure _, fun fs => by simp [eq_comm (a := [])]⟩
  | cons v vs ih =>
    obtain ⟨r, hr, hiff⟩ := ih
    unfold checkVisits
    -- a node that bears no function's name is passed over
    by_cases hb : bearsFunctionName v.node = true
    · rw [if_pos hb]
      refine ⟨_, (yields_checkNode t v).bind fun found _ => hr.bind fun others _ => yields_pure _,
        fun fs => ⟨fun h => ?_, ?_⟩⟩
      · obtain ⟨o, ho, h⟩ := Except.bind_eq_ok h
        obtain ⟨others, hothers, h⟩ := Except.bind_eq_ok h
        cases h
        have ho := Except.mapError_eq_ok.1 ho
        obtain ⟨hall, rfl⟩ := (hiff others).1 hothers
        refine ⟨List.forall_mem_cons.2 ⟨fun _ => ⟨o, ho⟩, hall⟩, ?_⟩
        exact (filterMap_finding?_cons hb ho vs).symm
      · rintro ⟨hall, rfl⟩
        obtain ⟨hv, hall⟩ := List.forall_mem_cons.1 hall
        obtain ⟨o, ho⟩ := hv hb
        rw [ho, (hiff _).2 ⟨hall, rfl⟩, filterMap_finding?_cons hb ho]
        rfl
    · refine ⟨r, by rwa [if_neg hb], fun fs => ?_⟩
      rw [hiff]
      simp [hb, finding?]

/-- The check of a tree fails, or lists what the rule finds in its walk by where it starts. -/
theorem yields_check (t : Tree) :
    ∃ r, t.check.Yields r ∧
      ∀ fs, r = .ok fs ↔
        (∀ v, t.Occurs v → bearsFunctionName v.node → ∃ o, findingAt t v = .ok o) ∧
          fs = (t.walk.filterMap (finding? t)).mergeSort fun a b => a.span.start ≤ b.span.start := by
  obtain ⟨r, hr, hiff⟩ := yields_checkVisits t t.walk
  refine ⟨_, hr.bind fun found _ => yields_pure _, fun fs => ⟨fun h => ?_, ?_⟩⟩
  · obtain ⟨found, hfound, h⟩ := Except.bind_eq_ok h
    cases h
    obtain ⟨hall, rfl⟩ := (hiff found).1 hfound
    exact ⟨fun v hv => hall v (Tree.mem_walk.2 hv), rfl⟩
  · rintro ⟨hall, rfl⟩
    rw [(hiff _).2 ⟨fun v hv => hall v (Tree.mem_walk.1 hv), rfl⟩]
    rfl

theorem yields_check_error {t : Tree} {before after : List Visit} {v : Visit} {f : Fault}
    (hwalk : t.walk = before ++ v :: after)
    (hbefore : ∀ u ∈ before, bearsFunctionName u.node → ∃ o, findingAt t u = .ok o)
    (hv : bearsFunctionName v.node) (hf : findingAt t v = .error f) :
    t.check.Yields (.error (.fault f)) := by
  suffices (checkVisits t (before ++ v :: after)).Yields (.error (.fault f)) by
    rw [← hwalk] at this
    exact this.bind_error
  have hnode : ∀ u r, findingAt t u = r → (checkNode t u).Yields (r.mapError .fault) := by
    rintro u _ rfl
    exact yields_checkNode t u
  clear hwalk
  induction before with
  | nil =>
    rw [List.nil_append, checkVisits, if_pos hv]
    exact (hnode v _ hf).bind_error
  | cons u before ih =>
    obtain ⟨hu, hbefore⟩ := List.forall_mem_cons.1 hbefore
    rw [List.cons_append, checkVisits]
    split
    · next hb =>
      obtain ⟨o, ho⟩ := hu hb
      exact (hnode u _ ho).bind_ok (ih hbefore).bind_error
    · exact ih hbefore

theorem exec_check {t : Tree} {fs : List Finding} {s s' : Session}
    (h : t.check.exec s = (.ok fs, s')) :
    fs = (t.walk.filterMap (finding? t)).mergeSort fun a b => a.span.start ≤ b.span.start := by
  obtain ⟨r, hr, hiff⟩ := yields_check t
  have hok := hr.fst_exec s
  rw [h] at hok
  exact ((hiff fs).1 hok.symm).2

theorem eq_of_yields_check {t : Tree} {fs : List Finding} (h : t.check.Yields (.ok fs)) :
    fs = (t.walk.filterMap (finding? t)).mergeSort fun a b => a.span.start ≤ b.span.start := by
  obtain ⟨_, _, he, _⟩ := h {}
  exact exec_check he

theorem exclusion?_eq_none {n : Node} {place : Place} (h : exclusion? n place = .ok none) :
    ∃ params, n.params? = some params ∧ maxParameters < params.length := by
  unfold exclusion? at h
  split at h
  · cases h
  · split at h
    · cases h
    · next params hp =>
      split at h
      · cases h
      · next hlength => exact ⟨params, hp, Nat.lt_of_not_le hlength⟩

/-- Only functions with too many parameters have findings, which have their range; the edit is that
of their parameters. -/
theorem findingAt_eq_some {t : Tree} {v : Visit} {f : Finding} (h : findingAt t v = .ok (some f)) :
    ∃ params, v.node.params? = some params ∧ maxParameters < params.length ∧
      f.span = v.node.span ∧ editOf params t.source = .ok f.edit := by
  obtain ⟨reason, hreason, h⟩ := Except.bind_eq_ok h
  cases reason with
  | some reason => cases h
  | none =>
    obtain ⟨edit, hedit, h⟩ := Except.bind_eq_ok h
    cases h
    obtain ⟨params, hp, hlength⟩ := exclusion?_eq_none hreason
    rw [hp] at hedit
    exact ⟨params, hp, hlength, rfl, hedit⟩

theorem findingAt_of_finding? {t : Tree} {v : Visit} {f : Finding} (h : finding? t v = some f) :
    findingAt t v = .ok (some f) := by
  unfold finding? at h
  split at h
  · cases ho : findingAt t v with
    | error e => rw [ho] at h; cases h
    | ok o =>
      rw [ho] at h
      obtain rfl : o = some f := h
      rfl
  · cases h

theorem finding?_eq_some {t : Tree} {v : Visit} {f : Finding} (h : finding? t v = some f) :
    ∃ params, v.node.params? = some params ∧ maxParameters < params.length ∧
      f.span = v.node.span ∧ editOf params t.source = .ok f.edit :=
  findingAt_eq_some (findingAt_of_finding? h)

def edit? (t : Tree) (v : Visit) : Option Edit := (finding? t v).bind (·.edit)

theorem edit?_spansParams {t : Tree} {v : Visit} {e : Edit} (h : edit? t v = some e) :
    v.node.SpansParams e.span := by
  obtain ⟨f, hf, he⟩ := Option.bind_eq_some_iff.1 h
  obtain ⟨params, hp, _, _, hedit⟩ := finding?_eq_some hf
  rw [he] at hedit
  obtain ⟨first, last, hfirst, hlast, hspan⟩ := editOf_span hedit
  exact ⟨params, first, last, hp, hfirst, hlast, hspan⟩

theorem editsOf_perm {t : Tree} {fs : List Finding} {s s' : Session}
    (h : t.check.exec s = (.ok fs, s')) : (editsOf fs).Perm (t.walk.filterMap (edit? t)) := by
  have hf : t.walk.filterMap (edit? t) = editsOf (t.walk.filterMap (finding? t)) :=
    List.filterMap_filterMap.symm
  rw [hf, exec_check h]
  exact (List.mergeSort_perm _ _).filterMap _

def Finding.HasMessage (f : Finding) : Prop := ∃ m, f.message = .ok m

theorem findingAt_hasMessage {t : Tree} {v : Visit} {f : Finding}
    (h : findingAt t v = .ok (some f)) : f.HasMessage := by
  obtain ⟨reason, -, h⟩ := Except.bind_eq_ok h
  cases reason with
  | some reason => cases h
  | none =>
    obtain ⟨edit, -, h⟩ := Except.bind_eq_ok h
    cases h
    exact ⟨_, rfl⟩

theorem hasMessage_of_check {t : Tree} {fs : List Finding} {s s' : Session}
    (h : t.check.exec s = (.ok fs, s')) : ∀ f ∈ fs, f.HasMessage := by
  intro f hf
  rw [exec_check h, List.mem_mergeSort] at hf
  obtain ⟨v, -, hv⟩ := List.mem_filterMap.1 hf
  exact findingAt_hasMessage (findingAt_of_finding? hv)

end ArityLint
