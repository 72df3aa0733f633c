import ArityLint.Report.Github
import Mathlib.Data.List.Basic
import Mathlib.Data.List.Infix

namespace ArityLint

namespace Github

def unescape : List Char → List Char
  | '%' :: '2' :: '5' :: cs => '%' :: unescape cs
  | '%' :: '0' :: 'D' :: cs => '\r' :: unescape cs
  | '%' :: '0' :: 'A' :: cs => '\n' :: unescape cs
  | c :: cs => c :: unescape cs
  | [] => []

/-- A text with every `c` in it replaced. -/
def replaced (c : Char) (text cs : List Char) : List Char :=
  cs.flatMap fun d => if d = c then text else [d]

def codeDigits : List (List Char) := [['2', '5'], ['0', 'D'], ['0', 'A']]

variable {c : Char} {cs rest : List Char}

theorem code_cases (c : Char) :
    (∃ digits ∈ codeDigits, code c = '%' :: digits) ∨ c ∉ ['%', '\r', '\n'] ∧ code c = [c] := by
  unfold code
  split
  · exact .inl ⟨_, by decide, rfl⟩
  · exact .inl ⟨_, by decide, rfl⟩
  · exact .inl ⟨_, by decide, rfl⟩
  · next hpercent hreturn hnewline => exact .inr ⟨by simp_all, rfl⟩

section Replacing

theorem code_eq_replaced (c : Char) :
    code c = replaced '\n' ['%', '0', 'A'] (replaced '\r' ['%', '0', 'D']
      (if c = '%' then ['%', '2', '5'] else [c])) := by
  unfold code
  split
  · rfl
  · rfl
  · rfl
  · next hpercent hreturn hnewline => simp_all [replaced]

theorem replaced_flatMap (c : Char) (text cs : List Char) (f : Char → List Char) :
    replaced c text (cs.flatMap f) = cs.flatMap fun d => replaced c text (f d) :=
  List.flatMap_assoc

theorem flatMap_code (cs : List Char) :
    cs.flatMap code = replaced '\n' ['%', '0', 'A'] (replaced '\r' ['%', '0', 'D']
      (replaced '%' ['%', '2', '5'] cs)) := by
  have hfirst : replaced '%' ['%', '2', '5'] cs =
      cs.flatMap fun c => if c = '%' then ['%', '2', '5'] else [c] := rfl
  rw [hfirst, replaced_flatMap, replaced_flatMap]
  exact List.flatMap_congr fun c _ => code_eq_replaced c

/-- In the other order a newline would be written like the text of its code. -/
example : replaced '%' ['%', '2', '5'] (replaced '\n' ['%', '0', 'A'] ['\n']) =
    replaced '%' ['%', '2', '5'] ['%', '0', 'A'] := by
  decide

end Replacing

section Scanning

theorem unescape_cons (h : c ≠ '%') (cs : List Char) : unescape (c :: cs) = c :: unescape cs := by
  rw [unescape] <;> rintro _ rfl <;> exact absurd rfl h

theorem unescape_code (c : Char) (cs : List Char) : unescape (code c ++ cs) = c :: unescape cs := by
  unfold code
  split
  · rfl
  · rfl
  · rfl
  · next h _ _ => exact unescape_cons h cs

@[simp] theorem unescape_escape (message : String) :
    unescape (escape message).toList = message.toList := by
  rw [escape, String.toList_ofList]
  induction message.toList with
  | nil => rfl
  | cons c cs ih => rw [List.flatMap_cons, unescape_code, ih]

theorem escape_injective : Function.Injective escape := by
  intro message other h
  rw [← String.toList_inj, ← unescape_escape message, h, unescape_escape]

end Scanning

section Written

theorem not_mem_code {d : Char} (hd : d ∈ ['\r', '\n']) (c : Char) : d ∉ code c := by
  rcases code_cases c with ⟨digits, hdigits, hc⟩ | ⟨hne, hc⟩
  · rw [hc]
    simp only [codeDigits, List.mem_cons, List.not_mem_nil, or_false] at hdigits hd
    rcases hd with rfl | rfl
    · rcases hdigits with rfl | rfl | rfl <;> decide
    · rcases hdigits with rfl | rfl | rfl <;> decide
  · rw [hc, List.mem_singleton]
    rintro rfl
    exact hne (List.mem_cons_of_mem _ hd)

/-- What is written holds no line end. -/
theorem not_mem_escape {d : Char} (hd : d ∈ ['\r', '\n']) (message : String) :
    d ∉ (escape message).toList := by
  rw [escape, String.toList_ofList]
  intro h
  obtain ⟨c, -, hc⟩ := List.mem_flatMap.1 h
  exact not_mem_code hd c hc

theorem newline_not_mem_escape (message : String) : '\n' ∉ (escape message).toList :=
  not_mem_escape (by decide) message

theorem percent_suffix_code (h : '%' :: rest <:+ code c ++ cs) :
    (∃ digits ∈ codeDigits, digits <+: rest) ∨ '%' :: rest <:+ cs := by
  rcases code_cases c with ⟨digits, hdigits, hc⟩ | ⟨hne, hc⟩
  · rw [hc, List.cons_append, List.suffix_cons_iff] at h
    rcases h with h | h
    · rw [(List.cons.inj h).2]
      exact .inl ⟨digits, hdigits, List.prefix_append digits cs⟩
    · right
      simp only [codeDigits, List.mem_cons, List.not_mem_nil, or_false] at hdigits
      rcases hdigits with rfl | rfl | rfl <;> simpa [List.suffix_cons_iff] using h
  · rw [hc, List.singleton_append, List.suffix_cons_iff] at h
    refine .inr (h.resolve_left fun h => ?_)
    obtain ⟨rfl, -⟩ := List.cons.inj h
    exact hne (List.mem_cons_self ..)

theorem exists_digits_of_percent {message : String} (h : '%' :: rest <:+ (escape message).toList) :
    ∃ digits ∈ codeDigits, digits <+: rest := by
  rw [escape, String.toList_ofList] at h
  generalize message.toList = cs at h
  induction cs with
  | nil => cases List.suffix_nil.1 h
  | cons c cs ih =>
    rw [List.flatMap_cons] at h
    exact (percent_suffix_code h).elim id ih

end Written

/-- To write a message is to replace percent signs, carriage returns and newlines by codes, in this
order. What is written holds no line end, each percent sign in it opens a code, and a scan for codes
gives the message back, so that no two messages are written alike. -/
theorem escape_replaces_reversibly (message : String) :
    (escape message).toList = replaced '\n' ['%', '0', 'A'] (replaced '\r' ['%', '0', 'D']
        (replaced '%' ['%', '2', '5'] message.toList)) ∧
      '\r' ∉ (escape message).toList ∧ '\n' ∉ (escape message).toList ∧
      (∀ rest, '%' :: rest <:+ (escape message).toList → ∃ digits ∈ codeDigits, digits <+: rest) ∧
      unescape (escape message).toList = message.toList ∧
      ∀ other, escape other = escape message ↔ other = message := by
  refine ⟨?_, not_mem_escape (by decide) message, newline_not_mem_escape message,
    fun rest => exists_digits_of_percent, unescape_escape message,
    fun other => escape_injective.eq_iff⟩
  rw [escape, String.toList_ofList, flatMap_code]

section Instances

/-- Looks as if it were written by codes, twice over, and has both line ends. -/
def codedMessage : String := "%0A%250D\r\n"

theorem codedMessage_is_written :
    '%' :: "250A%25250D%0D%0A".toList <:+ (escape codedMessage).toList ∧
      (∃ digits ∈ codeDigits, digits <+: "250A%25250D%0D%0A".toList) ∧
      unescape (escape codedMessage).toList = codedMessage.toList ∧
      escape codedMessage ≠ escape "\n%0D\r\n" := by
  have hpercent : '%' :: "250A%25250D%0D%0A".toList <:+ (escape codedMessage).toList := by decide
  obtain ⟨-, -, -, hdigits, hread, hinjective⟩ := escape_replaces_reversibly codedMessage
  exact ⟨hpercent, hdigits _ hpercent, hread,
    fun h => absurd ((hinjective _).1 h.symm) (by decide)⟩

end Instances

end Github

end ArityLint
