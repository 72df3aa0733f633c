import ArityLint.Collect

namespace ArityLint

namespace Collect

abbrev Candidate := Path × Location

/-- The candidates whose location is neither among `seen` nor that of a candidate before them. -/
def firstsFrom (seen : List Location) : List Candidate → List Candidate
  | [] => []
  | c :: cs =>
    if c.2 ∈ seen then firstsFrom seen cs else c :: firstsFrom (seen ++ [c.2]) cs

def firsts (cs : List Candidate) : List Candidate := firstsFrom [] cs

/-- Some candidate comes when there are `n` different files already. -/
def Overflows (n : Nat) (cs : List Candidate) : Prop :=
  ∃ before c after, cs = before ++ c :: after ∧ n ≤ (firsts before).length

theorem firstsFrom_append (seen : List Location) (cs ds : List Candidate) :
    firstsFrom seen (cs ++ ds) =
      firstsFrom seen cs ++ firstsFrom (seen ++ (firstsFrom seen cs).map (·.2)) ds := by
  induction cs generalizing seen with
  | nil => simp [firstsFrom]
  | cons c cs ih =>
    rw [List.cons_append, firstsFrom, firstsFrom]
    split
    · exact ih seen
    · rw [ih, List.map_cons, List.append_assoc]
      rfl

theorem firsts_append (cs ds : List Candidate) :
    firsts (cs ++ ds) = firsts cs ++ firstsFrom ((firsts cs).map (·.2)) ds := by
  rw [firsts, firstsFrom_append, List.nil_append]
  rfl

theorem firsts_concat (cs : List Candidate) (c : Candidate) :
    firsts (cs ++ [c]) = if c.2 ∈ (firsts cs).map (·.2) then firsts cs else firsts cs ++ [c] := by
  rw [firsts_append, firstsFrom]
  split
  · exact List.append_nil _
  · rfl

theorem isPrefix_firsts (cs ds : List Candidate) : firsts cs <+: firsts (cs ++ ds) := by
  rw [firsts_append]
  exact List.prefix_append _ _

theorem Overflows.length {n : Nat} {cs : List Candidate} (h : Overflows n cs) :
    n ≤ (firsts cs).length := by
  obtain ⟨before, c, after, rfl, hn⟩ := h
  exact Nat.le_trans hn (isPrefix_firsts before _).length_le

theorem Overflows.append {n : Nat} {cs : List Candidate} (h : Overflows n cs)
    (ds : List Candidate) : Overflows n (cs ++ ds) := by
  obtain ⟨before, c, after, rfl, hn⟩ := h
  exact ⟨before, c, after ++ ds, by rw [List.append_assoc, List.cons_append], hn⟩

theorem not_overflows_nil (n : Nat) : ¬Overflows n [] := by
  rintro ⟨before, c, after, h, _⟩
  simp at h

theorem overflows_concat_iff {n : Nat} {cs : List Candidate} {c : Candidate} :
    Overflows n (cs ++ [c]) ↔ n ≤ (firsts cs).length := by
  constructor
  · rintro ⟨before, b, after, h, hn⟩
    -- the candidate that comes too late is the last one, or one before it was
    rcases List.eq_nil_or_concat after with rfl | ⟨after, a, rfl⟩
    · obtain ⟨rfl, -⟩ := List.append_inj' h rfl
      exact hn
    · rw [List.concat_eq_append, ← List.cons_append, ← List.append_assoc] at h
      obtain ⟨rfl, -⟩ := List.append_inj' h rfl
      exact Overflows.length ⟨before, b, after, rfl, hn⟩
  · intro hn
    exact ⟨cs, c, [], rfl, hn⟩

theorem take_firsts_append {n : Nat} {cs : List Candidate} (h : n ≤ (firsts cs).length)
    (ds : List Candidate) : (firsts (cs ++ ds)).take n = (firsts cs).take n := by
  rw [firsts_append, List.take_append_of_le_length h]

/-- Offers a candidate to a haul that may have `n` files. -/
def Haul.offer (n : Nat) (h : Haul) (c : Candidate) : Haul :=
  if h.full then h
  else if n ≤ h.files.length then { h with full := true }
  else if c.2 ∈ h.seen then h
  else { h with files := h.files ++ [c.1], seen := h.seen ++ [c.2] }

theorem foldl_offer_of_full {n : Nat} {h : Haul} (hfull : h.full) (cs : List Candidate) :
    cs.foldl (Haul.offer n) h = h := by
  induction cs with
  | nil => rfl
  | cons c cs ih => rw [List.foldl_cons, Haul.offer, if_pos hfull, ih]

/-- What a haul is after the candidates `cs`. -/
structure Haul.Holds (n : Nat) (cs : List Candidate) (h : Haul) : Prop where
  full : h.full ↔ Overflows n cs
  files : h.files = ((firsts cs).take n).map (·.1)
  seen : h.full = false → h.seen = (firsts cs).map (·.2) ∧ (firsts cs).length ≤ n

namespace Haul.Holds

variable {n : Nat} {cs : List Candidate} {h : Haul}

theorem nil (n : Nat) : Holds n [] {} where
  full := ⟨nofun, fun h => absurd h (not_overflows_nil n)⟩
  files := by
    rw [firsts, firstsFrom, List.take_nil]
    rfl
  seen _ := ⟨rfl, Nat.zero_le n⟩

theorem append_of_full (hh : h.Holds n cs) (hfull : h.full) (ds : List Candidate) :
    h.Holds n (cs ++ ds) where
  full := ⟨fun _ => (hh.full.1 hfull).append ds, fun _ => hfull⟩
  files := by rw [take_firsts_append (hh.full.1 hfull).length, hh.files]
  seen hnot := by
    rw [hfull] at hnot
    cases hnot

theorem offer (hh : h.Holds n cs) (c : Candidate) : (h.offer n c).Holds n (cs ++ [c]) := by
  unfold Haul.offer
  split
  · next hfull => exact hh.append_of_full hfull [c]
  · next hfull =>
    obtain ⟨hseen, hlength⟩ := hh.seen (by simpa using hfull)
    have hfiles : h.files.length = (firsts cs).length := by
      rw [hh.files, List.length_map, List.length_take, Nat.min_eq_right hlength]
    split
    · next hn =>
      rw [hfiles] at hn
      exact ⟨⟨fun _ => overflows_concat_iff.2 hn, fun _ => rfl⟩,
        by rw [take_firsts_append hn]; exact hh.files, nofun⟩
    · next hn =>
      have hroom : (firsts cs).length < n := by omega
      have hover : ¬Overflows n (cs ++ [c]) := fun h =>
        absurd (overflows_concat_iff.1 h) (by omega)
      rw [hseen]
      split
      · next hc =>
        have hsame : firsts (cs ++ [c]) = firsts cs := by rw [firsts_concat, if_pos hc]
        exact ⟨⟨fun h => absurd h hfull, fun h => absurd h hover⟩, by rw [hsame, hh.files],
          fun _ => by rw [hsame]; exact ⟨hseen, hlength⟩⟩
      · next hc =>
        have hmore : firsts (cs ++ [c]) = firsts cs ++ [c] := by rw [firsts_concat, if_neg hc]
        refine ⟨⟨fun h => absurd h hfull, fun h => absurd h hover⟩, ?_, fun _ => ?_⟩
        · rw [hmore, List.take_of_length_le (by rw [List.length_append]; exact hroom), hh.files,
            List.take_of_length_le hlength, List.map_append]
          rfl
        · rw [hmore, List.map_append, List.length_append]
          exact ⟨rfl, hroom⟩

theorem foldl_offer (hh : h.Holds n cs) (ds : List Candidate) :
    (ds.foldl (Haul.offer n) h).Holds n (cs ++ ds) := by
  induction ds generalizing cs h with
  | nil => rwa [List.append_nil]
  | cons d ds ih =>
    rw [List.foldl_cons, List.append_cons]
    exact ih (hh.offer d)

end Haul.Holds

end Collect

end ArityLint
