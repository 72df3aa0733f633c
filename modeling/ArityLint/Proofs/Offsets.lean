import ArityLint.Tree.Lower

namespace ArityLint

namespace Utf8

/-- The first `i` characters of the text take up the first `byte` bytes of its encoding. -/
def Offset (source : String) (byte i : Nat) : Prop :=
  i ≤ source.length ∧ byte = (source.toList.take i).utf8Encode.size

theorem size_utf8Encode_cons (c : Char) (cs : List Char) :
    (c :: cs).utf8Encode.size = c.utf8Size + cs.utf8Encode.size := by
  rw [List.utf8Encode_cons, ByteArray.size_append, List.utf8Encode_singleton,
    List.size_toByteArray, String.length_utf8EncodeChar]

theorem size_utf8Encode_eq_foldr (cs : List Char) :
    cs.utf8Encode.size = cs.foldr (fun c n => c.utf8Size + n) 0 := by
  induction cs with
  | nil => simp
  | cons c cs ih => rw [size_utf8Encode_cons, ih, List.foldr_cons]

instance (source : String) (byte : Nat) : Decidable (∃ i, Offset source byte i) :=
  decidable_of_iff
    (∃ i, i ≤ source.length ∧ byte = (source.toList.take i).foldr (fun c n => c.utf8Size + n) 0)
    (by simp only [Offset, size_utf8Encode_eq_foldr])

instance (source : String) (byte i : Nat) : Decidable (Offset source byte i) :=
  decidable_of_iff
    (i ≤ source.length ∧ byte = (source.toList.take i).foldr (fun c n => c.utf8Size + n) 0)
    (by rw [Offset, size_utf8Encode_eq_foldr])

theorem length_le_size_utf8Encode (cs : List Char) : cs.length ≤ cs.utf8Encode.size := by
  induction cs with
  | nil => simp
  | cons c cs ih =>
    have hc := c.utf8Size_pos
    rw [size_utf8Encode_cons, List.length_cons]
    omega

/-- The table holds, at the byte where a character starts, the index of that character. -/
theorem getElem?_charIndices (before after : List Char) (i : Nat) :
    (charIndices (before ++ after) i)[before.utf8Encode.size]? = some (i + before.length) := by
  induction before generalizing i with
  | nil =>
    cases after with
    | nil => simp [charIndices]
    | cons c after =>
      have hc := c.utf8Size_pos
      rw [List.nil_append, charIndices, List.getElem?_append_left (by simpa using hc)]
      simp [hc]
  | cons c before ih =>
    rw [List.cons_append, charIndices, size_utf8Encode_cons, List.getElem?_append_right (by simp)]
    simp only [List.length_replicate, Nat.add_sub_cancel_left, List.length_cons]
    rw [ih (i + 1)]
    congr 1
    omega

theorem size_take_add_size_drop (cs : List Char) (i : Nat) :
    (cs.take i).utf8Encode.size + (cs.drop i).utf8Encode.size = cs.utf8Encode.size := by
  rw [← ByteArray.size_append, ← List.utf8Encode_append, List.take_append_drop]

theorem decode_utf8Encode (cs : List Char) : decode cs.utf8Encode = .ok (String.ofList cs) := by
  unfold decode String.fromUTF8?
  rw [dif_pos ByteArray.isValidUTF8_utf8Encode]
  rfl

namespace Offset

variable {source : String} {byte byte' i i' : Nat}

theorem char? (h : Offset source byte i) : (Encoded.ofString source).char? byte = some i := by
  obtain ⟨hi, rfl⟩ := h
  rw [← String.length_toList] at hi
  have hlen : (source.toList.take i).length = i := List.length_take_of_le hi
  unfold Encoded.ofString Encoded.char?
  dsimp only
  by_cases hs : source.toUTF8.size = source.length
  -- where bytes and characters are equally many, so they are in every part of the text
  · rw [if_pos hs]
    have hall := size_take_add_size_drop source.toList i
    have hb := length_le_size_utf8Encode (source.toList.take i)
    have ha := length_le_size_utf8Encode (source.toList.drop i)
    have hd : (source.toList.drop i).length = source.toList.length - i := List.length_drop
    rw [String.utf8Encode_toList, ← String.toUTF8_eq_toByteArray, hs,
      ← String.length_toList] at hall
    dsimp only
    congr 1
    omega
  · rw [if_neg hs]
    have hget := getElem?_charIndices (source.toList.take i) (source.toList.drop i) 0
    rw [List.take_append_drop, hlen, Nat.zero_add] at hget
    dsimp only
    rw [List.getElem?_toArray]
    exact hget

theorem unique (h : Offset source byte i) (h' : Offset source byte i') : i = i' :=
  Option.some.inj (h.char?.symm.trans h'.char?)

theorem byte_unique (h : Offset source byte i) (h' : Offset source byte' i) : byte = byte' :=
  h.2.trans h'.2.symm

theorem byte_le_of_le (h : Offset source byte i) (h' : Offset source byte' i') (hle : i ≤ i') :
    byte ≤ byte' := by
  obtain ⟨more, hmore⟩ := List.take_prefix_take_left (l := source.toList) hle
  rw [h.2, h'.2, ← hmore, List.utf8Encode_append, ByteArray.size_append]
  exact Nat.le_add_right _ _

theorem le_of_byte_le (h : Offset source byte i) (h' : Offset source byte' i')
    (hle : byte ≤ byte') : i ≤ i' := by
  rcases Nat.le_total i i' with hi | hi
  · exact hi
  · have heq := Nat.le_antisymm hle (byte_le_of_le h' h hi)
    rw [← heq] at h'
    exact Nat.le_of_eq (h.unique h')

/-- The bytes between two characters of a text are those of the characters between them. -/
theorem extract (h : Offset source byte i) (h' : Offset source byte' i') :
    source.toUTF8.extract byte byte' = ((source.toList.take i').drop i).utf8Encode := by
  rcases Nat.le_total i i' with hle | hle
  · have htake : (source.toList.take i').take i = source.toList.take i := by
      rw [List.take_take, Nat.min_eq_left hle]
    have hfront : (source.toList.take i').utf8Encode =
        (source.toList.take i).utf8Encode ++ ((source.toList.take i').drop i).utf8Encode := by
      rw [← htake, ← List.utf8Encode_append, List.take_append_drop]
    calc
      _ = ((source.toList.take i').utf8Encode ++ (source.toList.drop i').utf8Encode).extract
            byte byte' := by
        rw [← List.utf8Encode_append, List.take_append_drop, String.utf8Encode_toList]
        rfl
      _ = (source.toList.take i').utf8Encode.extract byte byte' := by
        rw [h'.2, ByteArray.extract_append_size_left]
      _ = _ := by
        rw [hfront]
        apply ByteArray.extract_append_eq_right h.2
        rw [h'.2, hfront, ByteArray.size_append]
  · have hempty : source.toUTF8.extract byte byte' = ByteArray.empty := by
      rw [ByteArray.extract_eq_empty_iff]
      exact Nat.le_trans (Nat.min_le_left _ _) (byte_le_of_le h' h hle)
    have hnil : (source.toList.take i').drop i = [] :=
      List.drop_eq_nil_of_le (Nat.le_trans (List.length_take_le _ _) hle)
    rw [hempty, hnil, List.utf8Encode_nil]

/-- What lies between two characters of a text is decoded to the text between them. -/
theorem text_eq (h : Offset source byte i) (h' : Offset source byte' i') :
    (Encoded.ofString source).text byte byte' = .ok (Text.slice source i i') := by
  have hi := h.1
  have hi' := h'.1
  rw [← String.length_toList] at hi hi'
  unfold Encoded.text Text.slice Text.cut
  rw [Text.place_natCast hi, Text.place_natCast hi', ← decode_utf8Encode, ← h.extract h']
  rfl

theorem text (h : Offset source byte i) (h' : Offset source byte' i') :
    ∃ s, (Encoded.ofString source).text byte byte' = .ok s :=
  ⟨_, h.text_eq h'⟩

end Offset

end Utf8

namespace Lower

variable {source : String} {a b a' b' i j i' j' : Nat}

theorem char_of_offset (h : Utf8.Offset source a i) :
    char (Utf8.Encoded.ofString source) a = .ok i := by
  unfold char
  rw [h.char?]

theorem span_of_offset (ha : Utf8.Offset source a i) (hb : Utf8.Offset source b j) :
    span (Utf8.Encoded.ofString source) a b = .ok ⟨i, j⟩ := by
  unfold span
  rw [char_of_offset ha, char_of_offset hb]
  rfl

/-- Ranges of bytes that start and end with characters are told apart by their characters. -/
theorem span_injective (ha : Utf8.Offset source a i) (hb : Utf8.Offset source b j)
    (ha' : Utf8.Offset source a' i') (hb' : Utf8.Offset source b' j')
    (h : span (Utf8.Encoded.ofString source) a b = span (Utf8.Encoded.ofString source) a' b') :
    (a, b) = (a', b') := by
  rw [span_of_offset ha hb, span_of_offset ha' hb', Except.ok.injEq, Span.mk.injEq] at h
  obtain ⟨hi, hj⟩ := h
  obtain rfl : i = i' := by omega
  obtain rfl : j = j' := by omega
  rw [ha.byte_unique ha', hb.byte_unique hb']

end Lower

end ArityLint
