import ArityLint.Proofs.Offsets
import ArityLint.Signature.Parameter

namespace ArityLint

namespace Utf8

theorem length_charIndices (cs : List Char) (i : Nat) :
    (charIndices cs i).length = cs.utf8Encode.size + 1 := by
  induction cs generalizing i with
  | nil => simp [charIndices]
  | cons c cs ih =>
    rw [charIndices, List.length_append, List.length_replicate, ih, size_utf8Encode_cons,
      Nat.add_assoc]

theorem le_of_mem_charIndices {cs : List Char} {i j : Nat} (h : j ∈ charIndices cs i) : i ≤ j := by
  induction cs generalizing i with
  | nil => exact Nat.le_of_eq (List.mem_singleton.1 h).symm
  | cons c cs ih =>
    rcases List.mem_append.1 h with h | h
    · exact Nat.le_of_eq (List.eq_of_mem_replicate h).symm
    · exact Nat.le_of_succ_le (ih h)

theorem pairwise_charIndices (cs : List Char) (i : Nat) :
    (charIndices cs i).Pairwise (· ≤ ·) := by
  induction cs generalizing i with
  | nil => exact List.pairwise_singleton _ _
  | cons c cs ih =>
    rw [charIndices, List.pairwise_append]
    refine ⟨List.pairwise_replicate.2 (.inr (Nat.le_refl i)), ih (i + 1), ?_⟩
    intro j hj k hk
    rw [List.eq_of_mem_replicate hj]
    exact Nat.le_of_succ_le (le_of_mem_charIndices hk)

theorem charIndices_of_single {cs : List Char} (h : ∀ c ∈ cs, c.utf8Size = 1) (i : Nat) :
    charIndices cs i = List.range' i (cs.length + 1) := by
  induction cs generalizing i with
  | nil => rfl
  | cons c cs ih =>
    obtain ⟨hc, hcs⟩ := List.forall_mem_cons.1 h
    rw [charIndices, hc, ih hcs, List.length_cons, List.range'_succ (n := cs.length + 1)]
    rfl

/-- A text is as long as its encoding exactly when each of its characters is a single byte. -/
theorem size_utf8Encode_eq_length_iff {cs : List Char} :
    cs.utf8Encode.size = cs.length ↔ ∀ c ∈ cs, c.utf8Size = 1 := by
  induction cs with
  | nil => simp
  | cons c cs ih =>
    have hc := c.utf8Size_pos
    have hcs := length_le_size_utf8Encode cs
    rw [size_utf8Encode_cons, List.length_cons, List.forall_mem_cons, ← ih]
    omega

theorem size_toUTF8 (source : String) : source.toUTF8.size = source.toList.utf8Encode.size := by
  rw [String.utf8Encode_toList, String.toUTF8_eq_toByteArray]

namespace Encoded

variable {source : String}

theorem table_eq_none_iff :
    (Encoded.ofString source).table = none ↔ ∀ c ∈ source.toList, c.utf8Size = 1 := by
  rw [← size_utf8Encode_eq_length_iff, ← size_toUTF8, String.length_toList]
  unfold Encoded.ofString
  dsimp only
  split <;> simp_all

theorem charIndices_eq_range (h : ∀ c ∈ source.toList, c.utf8Size = 1) :
    charIndices source.toList 0 = List.range (source.toUTF8.size + 1) := by
  rw [charIndices_of_single h, List.range_eq_range', size_toUTF8,
    size_utf8Encode_eq_length_iff.2 h]

/-- Up to the end of the text the map gives what the table holds, also where it does without. -/
theorem char?_eq {byte : Nat} (h : byte ≤ source.toUTF8.size) :
    (Encoded.ofString source).char? byte = (charIndices source.toList 0)[byte]? := by
  cases ht : (Encoded.ofString source).table with
  | none =>
    rw [Encoded.char?, ht, charIndices_eq_range (table_eq_none_iff.1 ht),
      List.getElem?_range (Nat.lt_succ_of_le h)]
  | some table =>
    have htable : (charIndices source.toList 0).toArray = table := by
      unfold Encoded.ofString at ht
      dsimp only at ht
      split at ht
      · cases ht
      · exact Option.some.inj ht
    rw [Encoded.char?, ht, ← htable]
    exact List.getElem?_toArray

theorem char?_mono {a b : Nat} (hab : a ≤ b) (hb : b ≤ source.toUTF8.size) :
    ∃ i j, (Encoded.ofString source).char? a = some i ∧
      (Encoded.ofString source).char? b = some j ∧ i ≤ j := by
  have hlength := length_charIndices source.toList 0
  rw [← size_toUTF8] at hlength
  have hbt : b < (charIndices source.toList 0).length := by omega
  have hat : a < (charIndices source.toList 0).length := Nat.lt_of_le_of_lt hab hbt
  refine ⟨_, _, (char?_eq (Nat.le_trans hab hb)).trans (List.getElem?_eq_getElem hat),
    (char?_eq hb).trans (List.getElem?_eq_getElem hbt), ?_⟩
  rcases Nat.lt_or_eq_of_le hab with hlt | rfl
  · exact List.pairwise_iff_getElem.1 (pairwise_charIndices _ _) a b hat hbt hlt
  · exact Nat.le_refl _

end Encoded

end Utf8

namespace Lower

variable {source : String} {c : Concrete}

theorem text_of_span (hstart : ∃ i, Utf8.Offset source c.start i)
    (hstop : ∃ j, Utf8.Offset source c.stop j) :
    ∃ s, spanOf (.ofString source) c = .ok s ∧
      ∀ n : Node, n.span = s →
        text (.ofString source) c = .ok (n.text (SourceText.ofString source)) := by
  obtain ⟨i, hi⟩ := hstart
  obtain ⟨j, hj⟩ := hstop
  refine ⟨_, span_of_offset hi hj, fun n hn => ?_⟩
  rw [text, hi.text_eq hj, Node.text, Node.start, Node.stop, hn]
  rfl

end Lower

/-- Bytes and characters of a text agree. The map sends the byte at which a character starts to the
place of that character, and the end to the end; it is defined and grows on the whole encoding;
where all characters are single bytes, and only there, it does without its table, which would count
the bytes; and a range that starts and ends with characters has the same text by its bytes as by the
characters it is mapped to. -/
theorem bytes_and_characters_agree (source : String) :
    (∀ i ≤ source.length, (Utf8.Encoded.ofString source).char?
        (String.ofList (source.toList.take i)).toUTF8.size = some i) ∧
      (Utf8.Encoded.ofString source).char? source.toUTF8.size = some source.length ∧
      (∀ a b, a ≤ b → b ≤ source.toUTF8.size →
        ∃ i j, (Utf8.Encoded.ofString source).char? a = some i ∧
          (Utf8.Encoded.ofString source).char? b = some j ∧ i ≤ j) ∧
      ((Utf8.Encoded.ofString source).table = none ↔ ∀ c ∈ source.toList, c.utf8Size = 1) ∧
      ((∀ c ∈ source.toList, c.utf8Size = 1) →
        Utf8.charIndices source.toList 0 = List.range (source.toUTF8.size + 1) ∧
          ∀ byte ≤ source.toUTF8.size, (Utf8.Encoded.ofString source).char? byte =
            (Utf8.charIndices source.toList 0)[byte]?) ∧
      ∀ c : Concrete, (∃ i, Utf8.Offset source c.start i) → (∃ j, Utf8.Offset source c.stop j) →
        ∃ s, Lower.spanOf (.ofString source) c = .ok s ∧
          ∀ n : Node, n.span = s →
            Lower.text (.ofString source) c = .ok (n.text (SourceText.ofString source)) := by
  have hstarts : ∀ i ≤ source.length, (Utf8.Encoded.ofString source).char?
      (String.ofList (source.toList.take i)).toUTF8.size = some i := by
    intro i hi
    have hsize := Utf8.size_toUTF8 (String.ofList (source.toList.take i))
    rw [String.toList_ofList] at hsize
    exact Utf8.Offset.char? ⟨hi, hsize⟩
  have hends := hstarts source.length (Nat.le_refl _)
  rw [← String.length_toList, List.take_length, String.ofList_toList, String.length_toList] at hends
  exact ⟨hstarts, hends, fun a b => Utf8.Encoded.char?_mono, Utf8.Encoded.table_eq_none_iff,
    fun h => ⟨Utf8.Encoded.charIndices_eq_range h, fun byte => Utf8.Encoded.char?_eq⟩,
    fun c => Lower.text_of_span⟩

section Instances

def mixedSource : String := "aé€😀"

def mixedName : Concrete := .node ⟨"identifier", true, false, false, 1, 6, 0, none⟩ []

theorem mixedSource_agrees :
    ((∃ i, Utf8.Offset mixedSource mixedName.start i) ∧
      ∃ j, Utf8.Offset mixedSource mixedName.stop j) ∧
      (Utf8.Encoded.ofString mixedSource).char? mixedSource.toUTF8.size = some 4 ∧
      ∃ s, Lower.spanOf (.ofString mixedSource) mixedName = .ok s ∧
        ∀ n : Node, n.span = s → Lower.text (.ofString mixedSource) mixedName =
          .ok (n.text (SourceText.ofString mixedSource)) := by
  have hstart : ∃ i, Utf8.Offset mixedSource mixedName.start i := by decide
  have hstop : ∃ j, Utf8.Offset mixedSource mixedName.stop j := by decide
  obtain ⟨_, hends, _, _, _, htext⟩ := bytes_and_characters_agree mixedSource
  exact ⟨⟨hstart, hstop⟩, hends, htext mixedName hstart hstop⟩

end Instances

end ArityLint
