import ArityLint.Proofs.Splices
import ArityLint.Repair
import Mathlib.Data.List.Nodup

namespace ArityLint

/-- Ranges that come before each other are the same: the order looks at both ends. -/
theorem Span.le_antisymm {a b : Span} (h : a.le b) (h' : b.le a) : a = b := by
  obtain ⟨start, stop⟩ := a
  obtain ⟨start', stop'⟩ := b
  simp only [le, Bool.or_eq_true, Bool.and_eq_true, decide_eq_true_eq] at h h'
  obtain rfl : start = start' := by omega
  obtain rfl : stop = stop' := by omega
  rfl

theorem pairwise_ordered (edits : List Edit) :
    (ordered edits).Pairwise fun a b => a.span.le b.span :=
  List.pairwise_mergeSort (fun a b c => Span.le_trans a.span b.span c.span)
    (fun a b => Span.le_total a.span b.span) edits

theorem ordered_eq_of_perm {edits edits' : List Edit} (h : edits.Perm edits')
    (hranges : ∀ a ∈ edits, ∀ b ∈ edits, a.span = b.span → a = b) :
    ordered edits = ordered edits' := by
  have hperm : (ordered edits).Perm edits := List.mergeSort_perm _ _
  have hperm' : (ordered edits').Perm edits' := List.mergeSort_perm _ _
  refine (hperm.trans (h.trans hperm'.symm)).eq_of_pairwise ?_ (pairwise_ordered edits)
    (pairwise_ordered edits')
  intro a b ha hb hab hba
  exact hranges a (hperm.mem_iff.1 ha) b (h.mem_iff.2 (hperm'.mem_iff.1 hb))
    (Span.le_antisymm hab hba)

theorem accepted_eq_of_perm {edits edits' : List Edit} (h : edits.Perm edits')
    (hranges : ∀ a ∈ edits, ∀ b ∈ edits, a.span = b.span → a = b) :
    accepted edits = accepted edits' :=
  congrArg (acceptedFrom 0) (ordered_eq_of_perm h hranges)

/-- However findings are listed, their edits have the same effect and the same number of them is
applied, if no two edits have the same range. -/
theorem applyEdits_of_perm {findings findings' : List Finding} (h : findings.Perm findings')
    (hranges : ((editsOf findings).map (·.span)).Nodup) (source : String) :
    applyEdits source (editsOf findings) = applyEdits source (editsOf findings') := by
  have haccepted : accepted (editsOf findings) = accepted (editsOf findings') :=
    accepted_eq_of_perm (h.filterMap _) fun a ha b hb => List.inj_on_of_nodup_map hranges ha hb
  rw [applyEdits_eq, applyEdits_eq, haccepted]

section Instances

/-- A finding without an edit among edits that lie before the text, that overlap, that are empty and
that run backwards. -/
def oddFindings : List Finding :=
  [of (some ⟨⟨-3, 1⟩, "before"⟩), of (some ⟨⟨1, 2⟩, "B"⟩), of none, of (some ⟨⟨1, 4⟩, "over"⟩),
    of (some ⟨⟨2, 2⟩, "+"⟩), of (some ⟨⟨5, 3⟩, "back"⟩)]
where
  of (edit : Option Edit) : Finding := ⟨.str "FunctionDeclaration", ⟨0, 6⟩, Rule.messageId, [], edit⟩

theorem oddFindings_in_reverse :
    oddFindings.Perm oddFindings.reverse ∧ ((editsOf oddFindings).map (·.span)).Nodup ∧
      applyEdits "abcdef" (editsOf oddFindings.reverse) = ("aB+cdebackdef", 3) := by
  have hperm := (List.reverse_perm oddFindings).symm
  have hranges : ((editsOf oddFindings).map (·.span)).Nodup := by decide
  have hsorted : (editsOf oddFindings).Pairwise fun a b => a.span.le b.span := by decide
  have happlied : applyEdits "abcdef" (editsOf oddFindings) = ("aB+cdebackdef", 3) := by
    unfold applyEdits
    rw [List.mergeSort_of_pairwise hsorted]
    rfl
  exact ⟨hperm, hranges, (applyEdits_of_perm hperm hranges "abcdef").symm.trans happlied⟩

end Instances

end ArityLint
