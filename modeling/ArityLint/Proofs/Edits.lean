import ArityLint.Edit
import Mathlib.Data.List.Pairwise

namespace ArityLint

namespace Span

def Disjoint (a b : Span) : Prop :=
  ∀ i, ¬((a.start ≤ i ∧ i < a.stop) ∧ b.start ≤ i ∧ i < b.stop)

def Within (a b : Span) : Prop := b.start ≤ a.start ∧ a.stop ≤ b.stop

/-- The first range lies inside the second and starts after it. -/
def Inside (a b : Span) : Prop := b.start < a.start ∧ a.stop ≤ b.stop

def Laminar (a b : Span) : Prop := a.Disjoint b ∨ a.Inside b ∨ b.Inside a

def Nonempty (a : Span) : Prop := a.start < a.stop

variable {a b c d : Span}

theorem disjoint_iff (ha : a.Nonempty) (hb : b.Nonempty) :
    a.Disjoint b ↔ a.stop ≤ b.start ∨ b.stop ≤ a.start := by
  unfold Disjoint
  unfold Nonempty at ha hb
  constructor
  · intro h
    -- the later of the two starts belongs to both ranges if they overlap
    have hi := h (max a.start b.start)
    omega
  · intro h i
    omega

theorem Disjoint.of_le (h : a.stop ≤ b.start) : a.Disjoint b := by
  intro i
  omega

theorem Disjoint.symm (h : a.Disjoint b) : b.Disjoint a := fun i hi => h i ⟨hi.2, hi.1⟩

theorem Disjoint.mono (h : a.Disjoint b) (hc : c.Within a) (hd : d.Within b) : c.Disjoint d := by
  intro i hi
  apply h i
  unfold Within at hc hd
  omega

theorem Within.refl (a : Span) : a.Within a := ⟨Int.le_refl _, Int.le_refl _⟩

theorem Within.trans (h : a.Within b) (h' : b.Within c) : a.Within c := by
  unfold Within at *
  omega

theorem Laminar.symm (h : a.Laminar b) : b.Laminar a := by
  rcases h with h | h | h
  · exact .inl h.symm
  · exact .inr (.inr h)
  · exact .inr (.inl h)

theorem le_trans (a b c : Span) (h : a.le b) (h' : b.le c) : a.le c := by
  simp only [le, Bool.or_eq_true, Bool.and_eq_true, decide_eq_true_eq] at *
  omega

theorem le_total (a b : Span) : a.le b || b.le a := by
  simp only [le, Bool.or_eq_true, Bool.and_eq_true, decide_eq_true_eq]
  omega

theorem start_le_of_le (h : a.le b) : a.start ≤ b.start := by
  simp only [le, Bool.or_eq_true, Bool.and_eq_true, decide_eq_true_eq] at h
  omega

theorem Laminar.follows (h : a.Laminar b) (ha : a.Nonempty) (hb : b.Nonempty) (hle : a.le b) :
    a.stop ≤ b.start ∨ b.Inside a := by
  have hstart := start_le_of_le hle
  rcases h with h | h | h
  · rcases (disjoint_iff ha hb).1 h with h | h
    · exact .inl h
    · unfold Nonempty at hb
      omega
  · unfold Inside at h
    omega
  · exact .inr h

theorem Laminar.inside_of_within (h : a.Laminar b) (ha : a.Nonempty) (hw : a.Within b) :
    a.Inside b := by
  unfold Within Nonempty at *
  rcases h with h | h | h
  · exact absurd ⟨⟨Int.le_refl _, ha⟩, hw.1, by omega⟩ (h a.start)
  · exact h
  · unfold Inside at h
    omega

end Span

/-- The edits that are accepted of a list in order, from a cursor on. -/
def acceptedFrom (cursor : Int) : List Edit → List Edit
  | [] => []
  | e :: es =>
    if e.span.start < cursor then acceptedFrom cursor es else e :: acceptedFrom e.span.stop es

def accepted (edits : List Edit) : List Edit :=
  acceptedFrom 0 (edits.mergeSort fun a b => a.span.le b.span)

/-- The text from a cursor on with all the edits in place. -/
def splice (source : List Char) (cursor : Int) : List Edit → List Char
  | [] => Text.cutFrom source cursor
  | e :: es =>
    Text.cut source cursor e.span.start ++ (e.text.toList ++ splice source e.span.stop es)

theorem foldl_step (source : List Char) (es : List Edit) (s : Splice) :
    (es.foldl (Splice.step source) s).done ++
        Text.cutFrom source (es.foldl (Splice.step source) s).cursor =
      s.done ++ splice source s.cursor (acceptedFrom s.cursor es) ∧
    (es.foldl (Splice.step source) s).applied = s.applied + (acceptedFrom s.cursor es).length := by
  induction es generalizing s with
  | nil => exact ⟨rfl, rfl⟩
  | cons e es ih =>
    rw [List.foldl_cons, Splice.step, acceptedFrom]
    split
    · exact ih s
    · obtain ⟨htext, hcount⟩ := ih ⟨s.done ++ Text.cut source s.cursor e.span.start ++ e.text.toList,
        e.span.stop, s.applied + 1⟩
      rw [htext, hcount]
      constructor
      · simp only [splice, List.append_assoc]
      · simp only [List.length_cons]
        omega

theorem applyEdits_eq (source : String) (edits : List Edit) :
    applyEdits source edits =
      (String.ofList (splice source.toList 0 (accepted edits)), (accepted edits).length) := by
  obtain ⟨htext, hcount⟩ :=
    foldl_step source.toList (edits.mergeSort fun a b => a.span.le b.span) .start
  unfold applyEdits
  dsimp only
  rw [htext, hcount]
  simp only [Splice.start, List.nil_append, Nat.zero_add]
  rfl

/-- The first edit is never refused, so nothing is applied only when there is nothing to apply. -/
theorem applyEdits_eq_zero_iff {edits : List Edit} (hpos : ∀ e ∈ edits, 0 ≤ e.span.start)
    (source : String) : (applyEdits source edits).2 = 0 ↔ edits = [] := by
  have hperm := List.mergeSort_perm edits fun a b => a.span.le b.span
  rw [applyEdits_eq, List.length_eq_zero_iff]
  unfold accepted
  constructor
  · intro h
    cases hsorted : edits.mergeSort fun a b => a.span.le b.span with
    | nil =>
      rw [hsorted] at hperm
      exact hperm.symm.eq_nil
    | cons e es =>
      have he := hpos e (hperm.mem_iff.1 (by rw [hsorted]; exact List.mem_cons_self))
      rw [hsorted, acceptedFrom, if_neg (by omega)] at h
      cases h
  · rintro rfl
    simp [acceptedFrom]

/-- What is accepted of edits in order, when each of them starts at the cursor or beyond or ends
before it: all from the cursor on but those inside another. -/
theorem mem_acceptedFrom {cursor : Int} {es : List Edit} {e : Edit}
    (hne : ∀ a ∈ es, a.span.Nonempty)
    (hes : es.Pairwise fun a b => a.span.stop ≤ b.span.start ∨ b.span.Inside a.span)
    (hc : ∀ a ∈ es, cursor ≤ a.span.start ∨ a.span.stop ≤ cursor) :
    e ∈ acceptedFrom cursor es ↔
      e ∈ es ∧ cursor ≤ e.span.start ∧ ∀ a ∈ es, ¬e.span.Inside a.span := by
  induction es generalizing cursor with
  | nil => simp [acceptedFrom]
  | cons a es ih =>
    obtain ⟨hna, hne⟩ := List.forall_mem_cons.1 hne
    obtain ⟨hfollow, hes⟩ := List.pairwise_cons.1 hes
    obtain ⟨hca, hc⟩ := List.forall_mem_cons.1 hc
    unfold Span.Nonempty at hna
    rw [acceptedFrom]
    split
    · next hlt =>
      -- `a` ends at the cursor, so nothing that starts there or later is inside it
      rw [ih hne hes hc]
      constructor
      · rintro ⟨he, hce, hin⟩
        have hne' := hne e he
        refine ⟨List.mem_cons_of_mem _ he, hce, List.forall_mem_cons.2 ⟨?_, hin⟩⟩
        unfold Span.Inside Span.Nonempty at *
        omega
      · rintro ⟨he, hce, hin⟩
        refine ⟨(List.mem_cons.1 he).resolve_left ?_, hce, (List.forall_mem_cons.1 hin).2⟩
        rintro rfl
        omega
    · next hle =>
      have hc' : ∀ b ∈ es, a.span.stop ≤ b.span.start ∨ b.span.stop ≤ a.span.stop :=
        fun b hb => (hfollow b hb).imp_right And.right
      rw [List.mem_cons, ih hne hes hc']
      constructor
      · rintro (rfl | ⟨he, hce, hin⟩)
        · refine ⟨List.mem_cons_self, by omega, List.forall_mem_cons.2 ⟨?_, fun b hb => ?_⟩⟩
          · unfold Span.Inside
            omega
          · have hb := hfollow b hb
            unfold Span.Inside at *
            omega
        · have hne' := hne e he
          refine ⟨List.mem_cons_of_mem _ he, by omega, List.forall_mem_cons.2 ⟨?_, hin⟩⟩
          unfold Span.Inside Span.Nonempty at *
          omega
      · rintro ⟨he, _, hin⟩
        obtain ⟨hina, hin⟩ := List.forall_mem_cons.1 hin
        rcases List.mem_cons.1 he with rfl | he
        · exact .inl rfl
        · exact .inr ⟨he, (hfollow e he).resolve_right hina, hin⟩

/-- Accepted edits start at the cursor or beyond, each where the one before it ends or later. -/
theorem pairwise_acceptedFrom_of_le {cursor : Int} {es : List Edit}
    (hle : ∀ a ∈ es, a.span.start ≤ a.span.stop) :
    (∀ a ∈ acceptedFrom cursor es, cursor ≤ a.span.start) ∧
      (acceptedFrom cursor es).Pairwise fun a b => a.span.stop ≤ b.span.start := by
  induction es generalizing cursor with
  | nil => simp [acceptedFrom]
  | cons a es ih =>
    obtain ⟨hla, hle⟩ := List.forall_mem_cons.1 hle
    rw [acceptedFrom]
    split
    · exact ih hle
    · obtain ⟨hstart, hpair⟩ : (∀ b ∈ acceptedFrom a.span.stop es, a.span.stop ≤ b.span.start) ∧ _ :=
        ih hle
      refine ⟨List.forall_mem_cons.2 ⟨by omega, fun b hb => ?_⟩,
        List.pairwise_cons.2 ⟨hstart, hpair⟩⟩
      have hb := hstart b hb
      omega

theorem pairwise_acceptedFrom {cursor : Int} {es : List Edit} (hne : ∀ a ∈ es, a.span.Nonempty) :
    (∀ a ∈ acceptedFrom cursor es, cursor ≤ a.span.start) ∧
      (acceptedFrom cursor es).Pairwise fun a b => a.span.stop ≤ b.span.start :=
  pairwise_acceptedFrom_of_le fun a ha => Int.le_of_lt (hne a ha)

section Laminar

variable {edits : List Edit} (hne : ∀ a ∈ edits, a.span.Nonempty)
  (hlam : edits.Pairwise fun a b => a.span.Laminar b.span)
include hne hlam

/-- In the order in which they are applied, laminar edits follow each other or lie inside earlier
ones. -/
theorem pairwise_sorted_edits :
    (edits.mergeSort fun a b => a.span.le b.span).Pairwise fun a b =>
      a.span.stop ≤ b.span.start ∨ b.span.Inside a.span := by
  have hperm := List.mergeSort_perm edits fun a b => a.span.le b.span
  have hle : (edits.mergeSort fun a b => a.span.le b.span).Pairwise fun a b => a.span.le b.span :=
    List.pairwise_mergeSort (fun a b c => Span.le_trans a.span b.span c.span)
      (fun a b => Span.le_total a.span b.span) edits
  have hlam' := (hperm.pairwise_iff fun h => Span.Laminar.symm h).2 hlam
  apply (hle.and hlam').imp_of_mem
  intro a b ha hb hab
  exact hab.2.follows (hne a (hperm.mem_iff.1 ha)) (hne b (hperm.mem_iff.1 hb)) hab.1

theorem mem_accepted (hpos : ∀ a ∈ edits, 0 ≤ a.span.start) (e : Edit) :
    e ∈ accepted edits ↔ e ∈ edits ∧ ¬∃ a ∈ edits, a ≠ e ∧ e.span.Within a.span := by
  have hperm := List.mergeSort_perm edits fun a b => a.span.le b.span
  unfold accepted
  rw [mem_acceptedFrom (fun a ha => hne a (hperm.mem_iff.1 ha)) (pairwise_sorted_edits hne hlam)
    fun a ha => .inl (hpos a (hperm.mem_iff.1 ha))]
  rw [hperm.mem_iff]
  constructor
  · rintro ⟨he, _, hin⟩
    refine ⟨he, ?_⟩
    rintro ⟨a, ha, hae, hwithin⟩
    have : Std.Symm fun a b : Edit => a.span.Laminar b.span := ⟨fun _ _ => Span.Laminar.symm⟩
    have hl : e.span.Laminar a.span := hlam.forall he ha (Ne.symm hae)
    exact hin a (hperm.mem_iff.2 ha) (hl.inside_of_within (hne e he) hwithin)
  · rintro ⟨he, hout⟩
    refine ⟨he, hpos e he, fun a ha hin => hout ⟨a, hperm.mem_iff.1 ha, ?_, ?_⟩⟩
    · rintro rfl
      exact absurd hin.1 (Int.lt_irrefl _)
    · exact ⟨Int.le_of_lt hin.1, hin.2⟩

end Laminar

end ArityLint
