import ArityLint.Proofs.Patches
import Mathlib.Algebra.BigOperators.Group.List.Basic
import Mathlib.Algebra.Ring.Int.Defs

namespace ArityLint

namespace Edit

def replace (e : Edit) (cs : List Char) : List Char :=
  cs.take e.span.start.toNat ++ (e.text.toList ++ cs.drop e.span.stop.toNat)

/-- By how many characters the edit makes a text longer. -/
def growth (e : Edit) : Int := e.text.length - (e.span.stop - e.span.start)

end Edit

/-- The edits by start and then by stop; those with the same range stay as they were given. -/
def ordered (edits : List Edit) : List Edit := edits.mergeSort fun a b => a.span.le b.span

/-- The edits that are left out of a list in order, from a cursor on. -/
def refusedFrom (cursor : Int) : List Edit → List Edit
  | [] => []
  | e :: es =>
    if e.span.start < cursor then e :: refusedFrom cursor es else refusedFrom e.span.stop es

def refused (edits : List Edit) : List Edit := refusedFrom 0 (ordered edits)

theorem acceptedFrom_sublist (cursor : Int) (es : List Edit) :
    (acceptedFrom cursor es).Sublist es := by
  induction es generalizing cursor with
  | nil => exact .slnil
  | cons e es ih =>
    rw [acceptedFrom]
    split
    · exact (ih cursor).cons e
    · exact (ih e.span.stop).cons_cons e

theorem refusedFrom_sublist (cursor : Int) (es : List Edit) :
    (refusedFrom cursor es).Sublist es := by
  induction es generalizing cursor with
  | nil => exact .slnil
  | cons e es ih =>
    rw [refusedFrom]
    split
    · exact (ih cursor).cons_cons e
    · exact (ih e.span.stop).cons e

theorem acceptedFrom_append_refusedFrom_perm (cursor : Int) (es : List Edit) :
    (acceptedFrom cursor es ++ refusedFrom cursor es).Perm es := by
  induction es generalizing cursor with
  | nil => exact .nil
  | cons e es ih =>
    rw [acceptedFrom, refusedFrom]
    split
    · exact List.perm_middle.trans ((ih cursor).cons e)
    · exact (ih e.span.stop).cons e

/-- An edit is left out because of the cursor it meets, and past the first cursor that is the end of
an accepted edit before it. -/
theorem covered_of_mem_refusedFrom {cursor : Int} {es : List Edit} {e : Edit}
    (hes : es.Pairwise fun a b => a.span.le b.span) (he : e ∈ refusedFrom cursor es) :
    e.span.start < cursor ∨
      ∃ a ∈ acceptedFrom cursor es, [a, e].Sublist es ∧
        a.span.start ≤ e.span.start ∧ e.span.start < a.span.stop := by
  induction es generalizing cursor with
  | nil => cases he
  | cons b es ih =>
    obtain ⟨hb, hes⟩ := List.pairwise_cons.1 hes
    rw [refusedFrom] at he
    rw [acceptedFrom]
    split at he
    · next hlt =>
      -- `b` is left out for what was taken before
      rw [if_pos hlt]
      rcases List.mem_cons.1 he with rfl | he
      · exact .inl hlt
      · rcases ih hes he with hlt | ⟨a, ha, hae, hcover⟩
        · exact .inl hlt
        · exact .inr ⟨a, ha, hae.cons b, hcover⟩
    · next hle =>
      -- `b` is taken and moves the cursor to its end
      rw [if_neg hle]
      refine .inr ?_
      have hmem : e ∈ es := (refusedFrom_sublist _ _).subset he
      rcases ih hes he with hlt | ⟨a, ha, hae, hcover⟩
      · exact ⟨b, List.mem_cons_self, (List.singleton_sublist.2 hmem).cons_cons b,
          Span.start_le_of_le (hb e hmem), hlt⟩
      · exact ⟨a, List.mem_cons_of_mem _ ha, hae.cons b, hcover⟩

/-- Behind a beginning of the right length, replacing one range after the other from the last one on
gives the patched text. -/
theorem Patched.foldr_replace {i : Nat} {cs out : List Char} {es : List Edit}
    (h : Patched i cs es out) (before : List Char) (hbefore : before.length = i) :
    es.foldr Edit.replace (before ++ cs) = before ++ out := by
  induction h generalizing before with
  | rest i cs => rfl
  | @edit i kept old cs out e es hspan _ ih =>
    -- the edits after this one leave everything up to its end in place
    have hlast : es.foldr Edit.replace (before ++ (kept ++ (old ++ cs))) =
        before ++ kept ++ (old ++ out) := by
      have hlength : (before ++ kept ++ old).length = i + kept.length + old.length := by
        simp only [List.length_append, hbefore]
      simpa only [List.append_assoc] using ih _ hlength
    have hstart : (before ++ kept).length = e.span.start.toNat := by
      simp only [List.length_append, hbefore, hspan, Int.toNat_natCast]
    have hstop : (before ++ kept ++ old).length = e.span.stop.toNat := by
      simp only [List.length_append, hbefore, hspan, Int.toNat_natCast]
    rw [List.foldr_cons, hlast, Edit.replace, ← hstart, List.take_left, ← hstop,
      ← List.append_assoc (before ++ kept) old out, List.drop_left]
    simp only [List.append_assoc]

theorem Patched.length_eq {i : Nat} {cs out : List Char} {es : List Edit} (h : Patched i cs es out) :
    (out.length : Int) = cs.length + (es.map Edit.growth).sum := by
  induction h with
  | rest i cs => simp
  | @edit i kept old cs out e es hspan _ ih =>
    rw [List.map_cons, List.sum_cons, Edit.growth, hspan]
    simp only [List.length_append, String.length_toList, Int.natCast_add]
    omega

/-- What applying edits to a text comes to: which edits are taken, which are left out, and the text
afterwards. -/
structure Splices (source : List Char) (edits taken left : List Edit) (out : List Char) : Prop where
  /-- Every edit is taken or left out, once for each time it is given. -/
  perm : (taken ++ left).Perm edits
  order : taken.Sublist (ordered edits)
  /-- No two ranges overlap. -/
  apart : taken.Pairwise fun a b => a.span.stop ≤ b.span.start
  /-- What is left out begins in the range of an edit that is taken and comes before it. -/
  covered : ∀ e ∈ left, ∃ a ∈ taken, [a, e].Sublist (ordered edits) ∧
    a.span.start ≤ e.span.start ∧ e.span.start < a.span.stop
  /-- One edit at a time, the last one first. -/
  replaced : out = taken.foldr Edit.replace source
  /-- Every character between the ranges is kept once and in its place. -/
  patched : Patched 0 source taken out
  length : (out.length : Int) = source.length + (taken.map Edit.growth).sum

/-- Applying edits that lie in the text splices a part of them into it, one at a time, and counts
them; each of the others meets one of these. -/
theorem applyEdits_splices {source : String} {edits : List Edit}
    (h : ∀ e ∈ edits, e.Fits source.length) :
    ∃ taken left out, applyEdits source edits = (String.ofList out, taken.length) ∧
      Splices source.toList edits taken left out := by
  have hperm : (ordered edits).Perm edits := List.mergeSort_perm _ _
  have hle : (ordered edits).Pairwise fun a b => a.span.le b.span :=
    List.pairwise_mergeSort (fun a b c => Span.le_trans a.span b.span c.span)
      (fun a b => Span.le_total a.span b.span) edits
  have hpatched := patched_accepted h
  refine ⟨accepted edits, refused edits, _, applyEdits_eq source edits, ?_⟩
  exact {
    perm := (acceptedFrom_append_refusedFrom_perm 0 (ordered edits)).trans hperm
    order := acceptedFrom_sublist 0 (ordered edits)
    apart := (pairwise_acceptedFrom_of_le fun a ha => (h a (hperm.mem_iff.1 ha)).2.1).2
    covered := fun e he => by
      have hstart := (h e (hperm.mem_iff.1 ((refusedFrom_sublist _ _).subset he))).1
      exact (covered_of_mem_refusedFrom hle he).resolve_left (by omega)
    replaced := (hpatched.foldr_replace [] rfl).symm
    patched := hpatched
    length := hpatched.length_eq }

/-- Two edits that touch with an empty one between them, one that overlaps both, and one that is
given twice. -/
def touchingEdits : List Edit :=
  [⟨⟨1, 4⟩, ""⟩, ⟨⟨1, 4⟩, ""⟩, ⟨⟨2, 5⟩, "over"⟩, ⟨⟨4, 4⟩, "++"⟩, ⟨⟨4, 6⟩, "Z"⟩]

theorem touchingEdits_splice :
    (∀ e ∈ touchingEdits, e.Fits "abcdef".length) ∧
      applyEdits "abcdef" touchingEdits = ("a++Z", 3) ∧
      ∃ taken left out, applyEdits "abcdef" touchingEdits = (String.ofList out, taken.length) ∧
        Splices "abcdef".toList touchingEdits taken left out := by
  have hfits : ∀ e ∈ touchingEdits, e.Fits "abcdef".length := by
    unfold Edit.Fits
    decide
  have hsorted : touchingEdits.Pairwise fun a b => a.span.le b.span := by decide
  have happlied : applyEdits "abcdef" touchingEdits = ("a++Z", 3) := by
    unfold applyEdits
    rw [List.mergeSort_of_pairwise hsorted]
    rfl
  exact ⟨hfits, happlied, applyEdits_splices hfits⟩

end ArityLint
