namespace ArityLint.Text

/-- The position in a list of length `n` that the signed offset `i` stands for. -/
def place (n : Nat) (i : Int) : Nat :=
  if i < 0 then (n + i).toNat else min i.toNat n

def cut (xs : List α) (start stop : Int) : List α :=
  (xs.take (place xs.length stop)).drop (place xs.length start)

/-- Everything from the offset `start` on. -/
def cutFrom (xs : List α) (start : Int) : List α :=
  xs.drop (place xs.length start)

def slice (s : String) (start stop : Int) : String :=
  String.ofList (cut s.toList start stop)

theorem place_natCast {n k : Nat} (h : k ≤ n) : place n k = k := by
  unfold place
  split <;> omega

end ArityLint.Text
