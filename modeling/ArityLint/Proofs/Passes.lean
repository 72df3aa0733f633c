import ArityLint.Proofs.LineEnds

namespace ArityLint

open LintM

variable {g : Grammar} {language path : String}

namespace Repair

/-- What a look at the text leads to: none when there is nothing to apply. -/
def look (g : Grammar) (language path : String) (r : Repair) : Except Error (Option Repair) :=
  ((pass g language path r).exec {}).1

/-- What a repair with `left` more rounds comes to. Every text on the way is looked at, the last one
also when no round is left for its edits. -/
def outcome (g : Grammar) (language path : String) : (left : Nat) → Repair → Except Error Repair
  | 0, r => do
    let _ ← look g language path r
    .ok r
  | left + 1, r => do
    match ← look g language path r with
    | none => .ok r
    | some next => outcome g language path left next

/-- Two repairs, the second one of the output of the first, as one. -/
def followedBy (r next : Repair) : Repair :=
  ⟨next.output, r.fixed || next.fixed, r.applied + next.applied, r.passes + next.passes⟩

@[simp] theorem followedBy_output (r next : Repair) : (r.followedBy next).output = next.output := rfl

variable (g language path)

theorem yields_look (r : Repair) : (pass g language path r).Yields (look g language path r) := by
  obtain ⟨q, hq⟩ : ∃ q, (pass g language path r).Yields q := by
    obtain ⟨found, hfound⟩ := yields_lintSource g r.output language path
    cases found with
    | error e => exact ⟨_, hfound.bind_error⟩
    | ok fs =>
      by_cases hnone : editsOf fs = []
      · exact ⟨_, yields_pass_none hfound hnone⟩
      · exact ⟨_, yields_pass_some hfound hnone⟩
  rw [look, hq.fst_exec]
  exact hq

theorem look_eq (r : Repair) :
    look g language path r = ((lintSource g r.output language path).exec {}).1 >>= fun fs =>
      .ok (if (applyEdits r.output (editsOf fs)).2 = 0 then none else some
        ⟨(applyEdits r.output (editsOf fs)).1, true,
          r.applied + (applyEdits r.output (editsOf fs)).2, r.passes + 1⟩) := by
  unfold look pass
  rw [exec_bind]
  rcases (lintSource g r.output language path).exec {} with ⟨e | fs, s⟩
  · rfl
  · by_cases h : (applyEdits r.output (editsOf fs)).2 = 0
    · simp [h, bind, Except.bind]
    · simp [h, bind, Except.bind]

theorem gives_warnPending (limit : Quantity) (r : Repair) :
    (r.warnPending g language path limit).Gives (look g language path r >>= fun _ => .ok ()) := by
  obtain ⟨found, hfound⟩ := yields_lintSource g r.output language path
  rw [look_eq, hfound.fst_exec]
  cases found with
  | error e => exact hfound.gives.bind_error.bind_error
  | ok fs =>
    have hpending : (r.pending g language path).Gives (.ok (editsOf fs).length) :=
      hfound.gives.bind_ok (gives_pure _)
    refine hpending.bind_ok ?_
    split
    · exact gives_pure ()
    · exact gives_log _ _ _

def conclude (limit : Quantity) (r : Repair) (settled : Bool) : LintM Repair := do
  unless settled do
    r.warnPending g language path limit
  return r

theorem gives_run (limit : Quantity) (left : Nat) (r : Repair) :
    (run g language path left r >>= fun (r, settled) => conclude g language path limit r settled).Gives
      (outcome g language path left r) := by
  induction left generalizing r with
  | zero =>
    have hwarn := gives_warnPending g language path limit r
    rw [run, pure_bind, outcome]
    cases hlook : look g language path r with
    | error e =>
      rw [hlook] at hwarn
      exact hwarn.bind_error
    | ok found =>
      rw [hlook] at hwarn
      exact hwarn.bind_ok (gives_pure r)
  | succ left ih =>
    have hpass := (yields_look g language path r).gives
    rw [run, bind_assoc, outcome]
    cases hlook : look g language path r with
    | error e =>
      rw [hlook] at hpass
      exact hpass.bind_error
    | ok found =>
      rw [hlook] at hpass
      refine hpass.bind_ok ?_
      cases found with
      | none => exact gives_pure r
      | some next => exact ih next

end Repair

theorem repair_whole (g : Grammar) (source language path : String) (n : Int) :
    repair g source language path (.whole n) =
      Repair.run g language path n.toNat ⟨source, false, 0, 0⟩ >>= fun (r, settled) =>
        r.conclude g language path (.whole n) settled := rfl

theorem gives_repair (g : Grammar) (source language path : String) (n : Int) :
    (repair g source language path (.whole n)).Gives
      (Repair.outcome g language path n.toNat ⟨source, false, 0, 0⟩) :=
  Repair.gives_run g language path (.whole n) n.toNat ⟨source, false, 0, 0⟩

namespace Repair

variable (g language path)

theorem outcome_of_settled {r : Repair} (h : look g language path r = .ok none) (left : Nat) :
    outcome g language path left r = .ok r := by
  cases left <;> rw [outcome, h] <;> rfl

theorem look_bind_outcome (left : Nat) (r : Repair) :
    (look g language path r >>= fun _ => outcome g language path left r) =
      outcome g language path left r := by
  cases hlook : look g language path r with
  | error e => cases left <;> rw [outcome, hlook] <;> rfl
  | ok found => rfl

theorem outcome_add (m n : Nat) (r : Repair) :
    outcome g language path (m + n) r =
      outcome g language path m r >>= outcome g language path n := by
  induction m generalizing r with
  | zero =>
    rw [Nat.zero_add, outcome, bind_assoc]
    exact (look_bind_outcome g language path n r).symm
  | succ m ih =>
    rw [Nat.succ_add, outcome, outcome, bind_assoc]
    cases hlook : look g language path r with
    | error e => rfl
    | ok found =>
      cases found with
      | none => exact (outcome_of_settled g language path hlook n).symm
      | some next => exact ih next

theorem look_followedBy (q r : Repair) :
    look g language path (q.followedBy r) =
      look g language path r >>= fun found => .ok (found.map q.followedBy) := by
  rw [look_eq, look_eq, followedBy_output]
  rcases ((lintSource g r.output language path).exec {}).1 with e | fs
  · rfl
  · by_cases h : (applyEdits r.output (editsOf fs)).2 = 0
    · simp [h, bind, Except.bind]
    · simp [h, followedBy, bind, Except.bind, Nat.add_assoc]

theorem outcome_followedBy (left : Nat) (q r : Repair) :
    outcome g language path left (q.followedBy r) =
      outcome g language path left r >>= fun next => .ok (q.followedBy next) := by
  induction left generalizing r with
  | zero =>
    rw [outcome, outcome, look_followedBy, bind_assoc, bind_assoc]
    rfl
  | succ left ih =>
    rw [outcome, outcome, look_followedBy, bind_assoc, bind_assoc]
    cases hlook : look g language path r with
    | error e => rfl
    | ok found =>
      cases found with
      | none => rfl
      | some next => exact ih next

/-- A new repair of the output goes on like the old one, with its counts set back. -/
theorem outcome_eq_followedBy (left : Nat) (r : Repair) :
    outcome g language path left r =
      outcome g language path left ⟨r.output, false, 0, 0⟩ >>= fun next => .ok (r.followedBy next) := by
  have hr : r.followedBy ⟨r.output, false, 0, 0⟩ = r := by simp [followedBy]
  rw [← outcome_followedBy, hr]

end Repair

theorem gives_repair_repair (g : Grammar) (source language path : String) (m n : Nat) :
    (do
      let r ← repair g source language path (.whole m)
      let next ← repair g r.output language path (.whole n)
      return r.followedBy next : LintM Repair).Gives
      (Repair.outcome g language path (m + n) ⟨source, false, 0, 0⟩) := by
  have hfirst := gives_repair g source language path m
  rw [Int.toNat_natCast] at hfirst
  rw [Repair.outcome_add]
  cases hr : Repair.outcome g language path m ⟨source, false, 0, 0⟩ with
  | error e =>
    rw [hr] at hfirst
    exact hfirst.bind_error
  | ok r =>
    rw [hr] at hfirst
    refine hfirst.bind_ok ?_
    have hsecond := gives_repair g r.output language path n
    rw [Int.toNat_natCast] at hsecond
    change Gives _ (Repair.outcome g language path n r)
    rw [Repair.outcome_eq_followedBy]
    cases hnext : Repair.outcome g language path n ⟨r.output, false, 0, 0⟩ with
    | error e =>
      rw [hnext] at hsecond
      exact hsecond.bind_error
    | ok next =>
      rw [hnext] at hsecond
      exact hsecond.bind_ok (gives_pure _)

theorem look_of_passes_lt {g : Grammar} {source language path : String} {m : Nat} {r : Repair}
    {s s' : Session} (h : (repair g source language path (.whole m)).exec s = (.ok r, s'))
    (hlt : r.passes < m) : Repair.look g language path ⟨r.output, false, 0, 0⟩ = .ok none := by
  obtain ⟨rounds, settled, ks, fs, notes, hlimit, hks, hlints, _⟩ := exec_repair h
  obtain rfl : rounds = m := (Except.ok.inj hlimit).symm
  have hpasses : r.passes = ks.length := by simpa using hks.passes
  cases settled with
  | false =>
    have hall := hks.unsettled rfl
    omega
  | true =>
    obtain ⟨_, fs', hlints', hnone⟩ := hks.settled rfl
    exact (Repair.yields_pass_none (r := ⟨r.output, false, 0, 0⟩) hlints' hnone).fst_exec {}

/-- A repair that goes on where another one ended is one repair with the rounds of both: it has the
same output and the sums of their counts, and where either of them fails it fails with the same
error. After a repair that ended before its limit, another one changes nothing. -/
theorem repair_composes (g : Grammar) (source language path : String) (m n : Nat) (s s' : Session) :
    ((do
      let r ← repair g source language path (.whole m)
      let next ← repair g r.output language path (.whole n)
      return r.followedBy next : LintM Repair).exec s).1 =
        ((repair g source language path (.whole (m + n : Nat))).exec s').1 ∧
      ∀ r s₁, (repair g source language path (.whole m)).exec s = (.ok r, s₁) → r.passes < m →
        ∀ (limit : Int) (s₂ : Session),
          ((repair g r.output language path (.whole limit)).exec s₂).1 =
            .ok ⟨r.output, false, 0, 0⟩ := by
  constructor
  · have hone := gives_repair g source language path (m + n : Nat)
    rw [gives_repair_repair g source language path m n s, hone s', Int.toNat_natCast]
  · intro r s₁ hr hlt limit s₂
    have hagain := gives_repair g r.output language path limit
    rw [hagain s₂]
    -- the first repair ended early, so its output has nothing left to apply
    exact Repair.outcome_of_settled g language path (look_of_passes_lt hr hlt) _

section Instances

/-- One round and nine more, of which the first finds nothing left. -/
theorem statementGrammar_composes :
    ∃ r s₁, (repair statementGrammar namesText "javascript" "a.js" (.whole 10)).exec {} = (.ok r, s₁) ∧
      r.passes < 10 ∧
      ((repair statementGrammar r.output "javascript" "a.js" (.whole 10)).exec s₁).1 =
        .ok ⟨r.output, false, 0, 0⟩ := by
  obtain ⟨parsers, notes, hexec, _⟩ := yields_repair_names {}
  refine ⟨_, _, hexec, by decide, ?_⟩
  exact (repair_composes statementGrammar namesText "javascript" "a.js" 10 0 {} {}).2 _ _ hexec
    (by decide) 10 _

end Instances

end ArityLint
