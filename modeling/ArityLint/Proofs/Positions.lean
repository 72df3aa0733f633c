import ArityLint.Proofs.Totals
import Mathlib.Data.Prod.Lex
import Mathlib.Order.Monotone.Basic

namespace ArityLint

section Table

variable {cs : List Char} {i start : ℕ}

theorem mem_newlineEnds :
    start ∈ newlineEnds cs i ↔ ∃ k, cs[k]? = some '\n' ∧ start = i + k + 1 := by
  induction cs generalizing i with
  | nil => simp [newlineEnds]
  | cons c cs ih =>
    have hrest : start ∈ newlineEnds cs (i + 1) ↔
        ∃ k, (c :: cs)[k + 1]? = some '\n' ∧ start = i + (k + 1) + 1 := by
      rw [ih]
      simp only [List.getElem?_cons_succ, Nat.add_right_comm i, Nat.add_assoc i]
    rw [← Nat.or_exists_add_one, ← hrest, newlineEnds]
    split <;> simp_all

theorem pairwise_newlineEnds (cs : List Char) (i : ℕ) : (newlineEnds cs i).Pairwise (· < ·) := by
  induction cs generalizing i with
  | nil => exact .nil
  | cons c cs ih =>
    rw [newlineEnds]
    split
    · refine List.pairwise_cons.2 ⟨fun start hstart => ?_, ih (i + 1)⟩
      obtain ⟨k, -, rfl⟩ := mem_newlineEnds.1 hstart
      omega
    · exact ih (i + 1)

/-- Up to `n` characters on, lines start after the newlines among these characters. -/
theorem countP_newlineEnds (cs : List Char) (i n : ℕ) :
    (newlineEnds cs i).countP (· ≤ i + n) = (cs.take n).count '\n' := by
  induction cs generalizing i n with
  | nil => simp [newlineEnds]
  | cons c cs ih =>
    cases n with
    | zero =>
      rw [List.take_zero, List.count_nil, List.countP_eq_zero]
      intro start hstart
      obtain ⟨k, -, rfl⟩ := mem_newlineEnds.1 hstart
      rw [decide_eq_true_eq]
      omega
    | succ n =>
      have hrest := ih (i + 1) n
      rw [Nat.add_assoc, Nat.add_comm 1] at hrest
      rw [newlineEnds, List.take_succ_cons, List.count_cons, ← hrest]
      split <;> simp_all

theorem mem_lineStarts :
    start ∈ lineStarts cs ↔ start = 0 ∨ ∃ k, cs[k]? = some '\n' ∧ start = k + 1 := by
  simp [lineStarts, mem_newlineEnds]

theorem pairwise_lineStarts (cs : List Char) : (lineStarts cs).toList.Pairwise (· < ·) := by
  refine List.pairwise_cons.2 ⟨fun start hstart => ?_, pairwise_newlineEnds cs 0⟩
  obtain ⟨k, -, rfl⟩ := mem_newlineEnds.1 hstart
  omega

theorem countP_lineStarts (cs : List Char) (n : ℕ) :
    (lineStarts cs).toList.countP (· ≤ n) = 1 + (cs.take n).count '\n' := by
  have hends := countP_newlineEnds cs 0 n
  rw [Nat.zero_add] at hends
  rw [lineStarts, List.countP_cons, hends, Nat.add_comm]
  simp

end Table

section Search

variable {table : Array ℕ} {x : ℤ} {lo hi : ℕ}

/-- The entries before `lo` are at most `x`, and those from `hi` on exceed it. -/
structure Splits (table : Array ℕ) (x : ℤ) (lo hi : ℕ) : Prop where
  le : lo ≤ hi
  le_size : hi ≤ table.size
  below : ∀ i < lo, table.getD i 0 ≤ x
  above : ∀ i < table.size, hi ≤ i → x < table.getD i 0

theorem getD_mono (h : table.toList.Pairwise (· < ·)) {i j : ℕ} (hij : i ≤ j)
    (hj : j < table.size) : table.getD i 0 ≤ table.getD j 0 := by
  rcases Nat.lt_or_eq_of_le hij with hlt | rfl
  · have hi := Nat.lt_trans hlt hj
    rw [Array.getD, Array.getD, dif_pos hi, dif_pos hj]
    exact Nat.le_of_lt (List.pairwise_iff_getElem.1 h i j hi hj hlt)
  · exact Nat.le_refl _

/-- The halved range still splits the table, and an empty one is a place between two entries. -/
theorem splits_upperBoundIn (h : table.toList.Pairwise (· < ·)) (hs : Splits table x lo hi) :
    Splits table x (upperBoundIn table x lo hi) (upperBoundIn table x lo hi) := by
  fun_induction upperBoundIn table x lo hi with
  | case1 lo hi hlt mid hx ih =>
    have hsize := hs.le_size
    refine ih ⟨by omega, by omega, hs.below, fun i hi hmid => ?_⟩
    have hmono := getD_mono h hmid hi
    omega
  | case2 lo hi hlt mid hx ih =>
    have hsize := hs.le_size
    refine ih ⟨by omega, hsize, fun i hi => ?_, hs.above⟩
    have hmono := getD_mono h (Nat.le_of_lt_succ hi) (by omega)
    omega
  | case3 lo hi hlt =>
    obtain rfl := Nat.le_antisymm hs.le (Nat.le_of_not_lt hlt)
    exact hs

theorem splits_upperBound (h : table.toList.Pairwise (· < ·)) (x : ℤ) :
    Splits table x (upperBound table x) (upperBound table x) :=
  splits_upperBoundIn h
    { le := Nat.zero_le _
      le_size := Nat.le_refl _
      below := fun _ hi => absurd hi (Nat.not_lt_zero _)
      above := fun _ hi hsize => absurd hi (Nat.not_lt_of_le hsize) }

theorem Splits.countP {k : ℕ} (h : Splits table x k k) :
    table.toList.countP (fun start : ℕ => (start : ℤ) ≤ x) = k := by
  have hbelow : (table.toList.take k).countP (fun start : ℕ => (start : ℤ) ≤ x) = k := by
    rw [List.countP_eq_length.2, List.length_take_of_le h.le_size]
    intro start hstart
    obtain ⟨i, hi, rfl⟩ := List.mem_take_iff_getElem.1 hstart
    have hk : i < k ∧ i < table.size := by simpa using hi
    simpa [hk.2] using h.below i hk.1
  have habove : (table.toList.drop k).countP (fun start : ℕ => (start : ℤ) ≤ x) = 0 := by
    rw [List.countP_eq_zero]
    intro start hstart
    obtain ⟨i, hi, rfl⟩ := List.mem_drop_iff_getElem.1 hstart
    have hk : k + i < table.size := by simpa [Nat.add_comm] using hi
    simpa [hk] using h.above (k + i) hk (Nat.le_add_right k i)
  rw [← List.take_append_drop k table.toList, List.countP_append, hbelow, habove, Nat.add_zero]

end Search

namespace Position

def key (p : Position) : ℤ ×ₗ ℤ := toLex (p.line, p.column)

theorem key_injective : Function.Injective key := by
  rintro ⟨line, column⟩ ⟨line', column'⟩ h
  obtain ⟨rfl, rfl⟩ := Prod.mk.inj (toLex.injective h)
  rfl

instance : LinearOrder Position := LinearOrder.lift' key key_injective

theorem lt_iff {p q : Position} :
    p < q ↔ p.line < q.line ∨ p.line = q.line ∧ p.column < q.column :=
  Prod.Lex.toLex_lt_toLex

end Position

/-- The line of `offset` starts at `start`: there the text starts or a newline has just ended, and
no newline follows before `offset`. -/
structure OpensLine (cs : List Char) (offset start : ℕ) : Prop where
  le : start ≤ offset
  opens : start = 0 ∨ ∃ k, cs[k]? = some '\n' ∧ start = k + 1
  unbroken : ∀ k < offset, start ≤ k → cs[k]? ≠ some '\n'

namespace SourceText

variable (s : SourceText) (offset : ℕ)

def newlinesBefore : ℕ := (s.text.toList.take offset).count '\n'

/-- Where the table has a line start, by its number. -/
def lineStart (line : ℤ) : ℕ := s.starts.getD (line - 1).toNat 0

theorem pairwise_starts : s.starts.toList.Pairwise (· < ·) :=
  s.starts_eq ▸ pairwise_lineStarts _

theorem mem_starts {start : ℕ} :
    start ∈ s.starts ↔ start = 0 ∨ ∃ k, s.text.toList[k]? = some '\n' ∧ start = k + 1 :=
  s.starts_eq ▸ mem_lineStarts

theorem upperBound_starts : upperBound s.starts offset = 1 + s.newlinesBefore offset := by
  have hcount := (splits_upperBound s.pairwise_starts offset).countP
  simp only [Int.ofNat_le] at hcount
  rw [← hcount, s.starts_eq, countP_lineStarts, newlinesBefore]

theorem splits_starts :
    Splits s.starts offset (1 + s.newlinesBefore offset) (1 + s.newlinesBefore offset) := by
  rw [← upperBound_starts]
  exact splits_upperBound s.pairwise_starts offset

theorem lineStart_succ (n : ℕ) : s.lineStart (1 + n) = s.starts.getD n 0 := by
  have hline : (1 + (n : ℤ) - 1).toNat = n := by omega
  rw [lineStart, hline]

theorem position_natCast :
    s.position offset = ⟨1 + s.newlinesBefore offset,
      offset - s.lineStart (1 + s.newlinesBefore offset) + 1⟩ := by
  rw [position, upperBound_starts, lineStart_succ]
  simp

theorem opensLine :
    OpensLine s.text.toList offset (s.lineStart (1 + s.newlinesBefore offset)) := by
  have hs := s.splits_starts offset
  have hsize : s.newlinesBefore offset < s.starts.size := by have := hs.le_size; omega
  rw [lineStart_succ]
  have hle := hs.below (s.newlinesBefore offset) (by omega)
  refine ⟨by omega, (mem_starts s).1 ?_, fun k hk hstart hnewline => ?_⟩
  · simp [hsize]
  · -- the line that the newline ends is followed by one that starts no later than `offset`
    obtain ⟨i, hi, hik⟩ := Array.getElem_of_mem ((mem_starts s).2 (.inr ⟨k, hnewline, rfl⟩))
    have hget : s.starts.getD i 0 = k + 1 := by simp [hi, hik]
    rcases Nat.lt_or_ge (s.newlinesBefore offset) i with hlt | hge
    · have habove := hs.above i hi (by omega)
      omega
    · have hmono := getD_mono s.pairwise_starts hge hsize
      omega

/-- Later offsets have later positions: on a later line, or further on in the same one. -/
theorem position_lt {a b : ℕ} (h : a < b) : s.position a < s.position b := by
  have hlines : s.newlinesBefore a ≤ s.newlinesBefore b :=
    (List.take_prefix_take_left (Nat.le_of_lt h)).sublist.count_le _
  rw [Position.lt_iff, position_natCast, position_natCast]
  rcases Nat.lt_or_eq_of_le hlines with hlt | heq
  · exact .inl (by dsimp only; omega)
  · rw [heq]
    exact .inr ⟨rfl, by dsimp only; omega⟩

theorem position_strictMono : StrictMono fun offset : ℕ => s.position offset :=
  fun _ _ => s.position_lt

/-- `p` counts the newlines before `offset`, and the characters since the line started. -/
structure Locates (offset : ℕ) (p : Position) : Prop where
  line : p.line = 1 + s.newlinesBefore offset
  opens : OpensLine s.text.toList offset (s.lineStart p.line)
  column : p.column = 1 + (offset - s.lineStart p.line)
  offset_eq : s.lineStart p.line + p.column - 1 = (offset : ℤ)

theorem locates_position : s.Locates offset (s.position offset) := by
  rw [position_natCast]
  exact ⟨rfl, s.opensLine offset, by dsimp only; omega, by dsimp only; omega⟩

end SourceText

namespace JsonText

/-- An entry gives `e` as the range of its finding. -/
structure ShowsExtent (e : Report.Extent) (entry : Value) : Prop where
  line : field entry "line" = .int e.start.line
  column : field entry "column" = .int e.start.column
  endLine : field entry "endLine" = .int e.stop.line
  endColumn : field entry "endColumn" = .int e.stop.column

theorem showsExtent_of_findingValue {r : Report} {f : Finding} {v : Value}
    (h : findingValue r f = .ok v) : ShowsExtent (r.extent f) v := by
  obtain ⟨m, -, h⟩ := Except.bind_eq_ok h
  cases h
  exact ⟨rfl, rfl, rfl, rfl⟩

end JsonText

namespace Stylish

/-- A row of markup gives where its finding starts, and not where it ends. -/
def ShowsStart (e : Report.Extent) (cells : List String) : Prop :=
  cells.head? = some (toString e.start.line ++ ":" ++ toString e.start.column)

theorem showsStart_of_row {c : Console} {r : Report} {f : Finding} {cells : List String}
    (h : row c r f = .ok cells) : ShowsStart (r.extent f) cells := by
  obtain ⟨m, -, h⟩ := Except.bind_eq_ok h
  cases h
  rfl

/-- What is handed to a console about a file without an error: its path, and a row each for the
extents. -/
def ShowsStarts (c : Console) (r : Report) (es : List Report.Extent) (items : List Item) : Prop :=
  ∃ rows, items = [.line ("[bold underline]" ++ c.escape r.path ++ "[/bold underline]"),
      .table { edged := false, columns, rows }, .blank] ∧
    r.findings.mapM (row c r) = .ok rows ∧ List.Forall₂ ShowsStart es rows

end Stylish

namespace Github

def ShowsExtent (path : String) (e : Report.Extent) (line : String) : Prop :=
  ∃ message, line = warningLine path e message

end Github

theorem Except.exists_mapM_forall₂ {ε α β γ : Type} {f : α → Except ε β} {g : α → γ}
    {R : γ → β → Prop} {xs : List α} (hf : ∀ x ∈ xs, ∃ y, f x = .ok y)
    (hR : ∀ x y, f x = .ok y → R (g x) y) :
    ∃ ys, xs.mapM f = .ok ys ∧ List.Forall₂ R (xs.map g) ys := by
  obtain ⟨ys, hys⟩ := exists_mapM_eq_ok hf
  exact ⟨ys, hys, List.forall₂_map_left_iff.2 ((forall₂_of_mapM hys).imp hR)⟩

namespace Report

variable {r : Report}

/-- The extents at which each format shows the findings. -/
structure ShownAt (r : Report) (es : List Extent) : Prop where
  stylish : ∀ c, (∃ rows, r.findings.mapM (Stylish.row c r) = .ok rows ∧
      List.Forall₂ Stylish.ShowsStart es rows) ∧
    (r.error = none → r.findings ≠ [] →
      ∃ items, Stylish.part c r = .ok items ∧ Stylish.ShowsStarts c r es items)
  json : ∃ entry, JsonText.reportValue r = .ok entry ∧
    List.Forall₂ JsonText.ShowsExtent es (JsonText.diagnostics entry)
  github : r.error = none → ∃ lines, Github.lines r = .ok lines ∧
    List.Forall₂ (Github.ShowsExtent r.path) es lines

theorem shownAt_extents (h : r.HasMessages) : r.ShownAt (r.findings.map r.extent) where
  stylish c := by
    obtain ⟨rows, hrows, hshow⟩ := Except.exists_mapM_forall₂
      (fun f hf => Stylish.exists_row c (h f hf)) fun _ _ => Stylish.showsStart_of_row
    refine ⟨⟨rows, hrows, hshow⟩, fun herror hfindings => ⟨_, ?_, rows, rfl, hrows, hshow⟩⟩
    rw [Stylish.part, herror]
    dsimp only
    rw [if_neg (by simpa using hfindings), hrows]
    rfl
  json := by
    obtain ⟨ds, hds, hshow⟩ := Except.exists_mapM_forall₂ (f := JsonText.findingValue r)
      (fun f hf => Except.exists_bind_eq_ok (h f hf) fun _ => ⟨_, rfl⟩)
      fun _ _ => JsonText.showsExtent_of_findingValue
    rw [JsonText.reportValue, hds]
    exact ⟨_, rfl, hshow⟩
  github herror := by
    rw [Github.lines, herror]
    refine Except.exists_mapM_forall₂
      (fun f hf => Except.exists_bind_eq_ok (h f hf) fun _ => ⟨_, rfl⟩) fun f line hline => ?_
    obtain ⟨m, -, hm⟩ := Except.bind_eq_ok hline
    cases hm
    exact ⟨m, rfl⟩

theorem extent_ordered {f : Finding} (hstart : 0 ≤ f.span.start)
    (hstop : f.span.start ≤ f.span.stop) : (r.extent f).start ≤ (r.extent f).stop := by
  obtain ⟨a, ha⟩ := Int.eq_ofNat_of_zero_le hstart
  obtain ⟨b, hb⟩ := Int.eq_ofNat_of_zero_le (Int.le_trans hstart hstop)
  rw [ha, hb] at hstop
  unfold extent
  rw [ha, hb]
  split
  · exact le_refl _
  · next s _ => exact s.position_strictMono.monotone (Int.ofNat_le.1 hstop)

end Report

/-- The position of an offset counts the newlines before it, and the characters since the last of
these or since the start of the text, and the offset comes back from it. Positions grow with their
offsets, so that no two offsets share one, and a range that ends no earlier than it starts is shown
so in every format. -/
theorem position_counts_lines (s : SourceText) :
    (∀ offset : ℕ, s.Locates offset (s.position offset)) ∧
      StrictMono (fun offset : ℕ => s.position offset) ∧
      Function.Injective (fun offset : ℕ => s.position offset) ∧
      ∀ r : Report, r.HasMessages →
        (∀ f ∈ r.findings, 0 ≤ f.span.start ∧ f.span.start ≤ f.span.stop) →
        ∃ es, r.ShownAt es ∧ ∀ e ∈ es, e.start ≤ e.stop := by
  refine ⟨s.locates_position, s.position_strictMono, s.position_strictMono.injective,
    fun r hr hspans => ⟨_, Report.shownAt_extents hr, fun e he => ?_⟩⟩
  obtain ⟨f, hf, rfl⟩ := List.mem_map.1 he
  obtain ⟨hstart, hstop⟩ := hspans f hf
  exact Report.extent_ordered hstart hstop

section Instances

def gappedText : SourceText := .ofString "ab\n\ncd\n"

/-- On a newline, right after it, at the end of the text and beyond it. -/
example : [2, 3, 4, 7, 9].map (fun offset : ℕ => gappedText.position offset) =
    [⟨1, 3⟩, ⟨2, 1⟩, ⟨3, 1⟩, ⟨4, 1⟩, ⟨4, 3⟩] := by
  cbv

/-- The only finding goes from a newline to beyond the end of the text. -/
def gappedReport : Report :=
  { path := "a.js", source := some gappedText,
    findings := [⟨.str "ArrowFunctionExpression", ⟨2, 9⟩, Rule.messageId, [("count", .int 4)],
      none⟩] }

theorem gappedReport_shown_in_order :
    gappedText.Locates 9 (gappedText.position 9) ∧ gappedReport.HasMessages ∧
      (∀ f ∈ gappedReport.findings, 0 ≤ f.span.start ∧ f.span.start ≤ f.span.stop) ∧
      ∃ es, gappedReport.ShownAt es ∧ ∀ e ∈ es, e.start ≤ e.stop := by
  have hmessages : gappedReport.HasMessages := by
    intro f hf
    cases List.mem_singleton.1 hf
    exact ⟨_, rfl⟩
  have hspans : ∀ f ∈ gappedReport.findings, 0 ≤ f.span.start ∧ f.span.start ≤ f.span.stop := by
    decide
  obtain ⟨hlocates, -, -, hshown⟩ := position_counts_lines gappedText
  exact ⟨hlocates 9, hmessages, hspans, hshown gappedReport hmessages hspans⟩

end Instances

end ArityLint
