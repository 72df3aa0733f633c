import ArityLint.Settings.Load

namespace ArityLint

namespace Number

open Float.Model

theorem isFinite_iff_exponent (x : Float) :
    x.isFinite ↔ x.toBits.toNat / Nat.pow 2 52 % Nat.pow 2 11 ≠ 2047 := by
  have hexponent : (@UnpackedFloat.unpackExponent Format.binary64 x.toBits.toBitVec).toNat =
      x.toBits.toNat / Nat.pow 2 52 % Nat.pow 2 11 := by
    simp [UnpackedFloat.unpackExponent, BitVec.extractLsb_toNat, Nat.shiftRight_eq_div_pow]
  rw [← hexponent]
  change (UnpackedFloat.unpack Format.binary64 x.toBits.toBitVec).isFinite = true ↔ _
  unfold UnpackedFloat.unpack
  dsimp only
  by_cases h : @UnpackedFloat.unpackExponent Format.binary64 x.toBits.toBitVec = -1#_
  · rw [if_pos h, h]
    refine ⟨fun hfinite => ?_, fun hne => absurd rfl hne⟩
    by_cases hmantissa : @UnpackedFloat.unpackMantissa Format.binary64 x.toBits.toBitVec = 0#_
    · rw [if_pos hmantissa] at hfinite
      cases hfinite
    · rw [if_neg hmantissa] at hfinite
      cases hfinite
  · rw [if_neg h]
    refine ⟨fun _ h' => h (BitVec.eq_of_toNat_eq h'), fun _ => ?_⟩
    by_cases hzero : @UnpackedFloat.unpackExponent Format.binary64 x.toBits.toBitVec = 0#_
    · rw [if_pos hzero]
      by_cases hmantissa : @UnpackedFloat.unpackMantissa Format.binary64 x.toBits.toBitVec = 0#_
      · rw [dif_pos hmantissa]
        rfl
      · rw [dif_neg hmantissa]
        rfl
    · rw [if_neg hzero]
      rfl

theorem le_zero_iff (x : Float) : x ≤ 0.0 ↔ x.toModel.unpack.le (.zero .positive) := by
  change Float.le x 0.0 = true ↔ _
  rw [Float.le, decide_eq_true_iff]
  rfl

theorem zero_lt_iff (x : Float) :
    0.0 < x ↔ UnpackedFloat.lt (.zero .positive) x.toModel.unpack := by
  change Float.lt 0.0 x = true ↔ _
  rw [Float.lt, decide_eq_true_iff]
  rfl

theorem zero_lt_iff_not_le {x : Float} (h : x.isFinite) : 0.0 < x ↔ ¬x ≤ 0.0 := by
  have h : x.toModel.unpack.isFinite := h
  rw [zero_lt_iff, le_zero_iff]
  cases hx : x.toModel.unpack with
  | notANumber =>
    rw [hx] at h
    cases h
  | infinity s =>
    rw [hx] at h
    cases h
  | zero s => exact ⟨nofun, fun h => absurd rfl h⟩
  | finite s m e hm =>
    cases s with
    | positive => exact ⟨fun _ => nofun, fun _ => rfl⟩
    | negative => exact ⟨nofun, fun h => absurd rfl h⟩

theorem isFinite_pack_notANumber : (pack .notANumber).isFinite = false := by decide

theorem isFinite_pack_infinity (s : UnpackedFloat.Sign) :
    (pack (.infinity s)).isFinite = false := by
  cases s <;> decide

theorem mul_infinity (s : UnpackedFloat.Sign) (y : UnpackedFloat) :
    UnpackedFloat.mul Format.binary64 (.infinity s) y = .notANumber ∨
      ∃ s', UnpackedFloat.mul Format.binary64 (.infinity s) y = .infinity s' := by
  cases y with
  | notANumber => exact .inl rfl
  | infinity s' => exact .inr ⟨_, rfl⟩
  | zero s' => exact .inl rfl
  | finite s' m e hm => exact .inr ⟨_, rfl⟩

theorem isFinite_of_mul {x y : Float} (h : (x * y).isFinite) : x.isFinite := by
  have h : (pack (UnpackedFloat.mul Format.binary64 x.toModel.unpack
    y.toModel.unpack)).isFinite := h
  change x.toModel.unpack.isFinite
  cases hx : x.toModel.unpack with
  | notANumber =>
    have hmul : UnpackedFloat.mul Format.binary64 .notANumber y.toModel.unpack = .notANumber := rfl
    rw [hx, hmul, isFinite_pack_notANumber] at h
    cases h
  | infinity s =>
    rw [hx] at h
    rcases mul_infinity s y.toModel.unpack with hmul | ⟨s', hmul⟩
    · rw [hmul, isFinite_pack_notANumber] at h
      cases h
    · rw [hmul, isFinite_pack_infinity] at h
      cases h
  | zero s => rfl
  | finite s m e hm => rfl

theorem classify_of_isFinite {x : Float} (h : x.isFinite) :
    (∃ negative, classify x.toBits.toNat = .zero negative) ∨
      ∃ negative value, classify x.toBits.toNat = .finite negative value := by
  have hexponent := (isFinite_iff_exponent x).1 h
  unfold classify
  dsimp only
  rw [if_neg hexponent]
  split
  · split
    · exact .inl ⟨_, rfl⟩
    · exact .inr ⟨_, _, rfl⟩
  · exact .inr ⟨_, _, rfl⟩

end Number

theorem exists_truncate {x : Float} (h : x.isFinite) : ∃ n, truncate x = .ok n := by
  unfold truncate
  rcases Number.classify_of_isFinite h with ⟨negative, hclass⟩ | ⟨negative, value, hclass⟩
  · rw [hclass]
    exact ⟨_, rfl⟩
  · rw [hclass]
    exact ⟨_, rfl⟩

namespace Value

/-- A whole number that is at least one; true counts as one. -/
def IsCount (v : Value) : Prop := v = .bool true ∨ ∃ n : Int, v = .int n ∧ 1 ≤ n

/-- A positive number that is a finite one in bytes, too. -/
def IsSize (v : Value) : Prop :=
  v = .bool true ∨ (∃ n : Int, v = .int n ∧ 0 < n) ∨
    ∃ x : Float, v = .float x ∧ 0.0 < x ∧ x.isFinite ∧ (x * 1024.0 * 1024.0).isFinite

def IsPatterns (v : Value) : Prop := ∃ patterns : List String, v = .arr (patterns.map .str)

end Value

/-- An error that loading reports as a failure of the configuration. -/
def Error.IsRefusal : Error → Prop
  | .failure f => "ConfigurationError" ∈ f.classes
  | .fault f => f ≠ .unshowable

/-- What is valid gives a value with `Q`; what is not is refused, if it is told from what is. -/
structure Judges {α : Type} (valid told : Prop) (Q : α → Prop) (r : Except Error α) : Prop where
  accepts : valid → ∃ a, r = .ok a ∧ Q a
  refuses : ¬valid → told → ∃ e, r = .error e ∧ e.IsRefusal

namespace Judges

variable {α β : Type} {P P' S S' : Prop} {Q : α → Prop} {Q' : β → Prop}

theorem ok {a : α} (hp : P) (ha : Q a) : Judges P S Q (.ok a) :=
  ⟨fun _ => ⟨a, rfl, ha⟩, fun hn => absurd hp hn⟩

theorem error {e : Error} (hp : ¬P) (he : S → e.IsRefusal) : Judges P S Q (.error e) :=
  ⟨fun h => absurd h hp, fun _ hs => ⟨e, rfl, he hs⟩⟩

theorem bind {r : Except Error α} {f : α → Except Error β} (h : Judges P S Q r)
    (hf : ∀ a, P → Q a → Judges P' S' Q' (f a)) : Judges (P ∧ P') (S ∧ S') Q' (r >>= f) := by
  constructor
  · rintro ⟨hp, hp'⟩
    obtain ⟨a, rfl, ha⟩ := h.accepts hp
    exact (hf a hp ha).accepts hp'
  · rintro hn ⟨hs, hs'⟩
    by_cases hp : P
    · obtain ⟨a, rfl, ha⟩ := h.accepts hp
      exact (hf a hp ha).refuses (fun hp' => hn ⟨hp, hp'⟩) hs'
    · obtain ⟨e, rfl, he⟩ := h.refuses hp hs
      exact ⟨e, rfl, he⟩

theorem congr {r : Except Error α} (h : Judges P S Q r) (hP : P ↔ P') (hS : S' → S) :
    Judges P' S' Q r :=
  ⟨fun hp => h.accepts (hP.2 hp), fun hp hs => h.refuses (fun hp' => hp (hP.1 hp')) (hS hs)⟩

end Judges

namespace Settings

theorem isRefusal_invalid {key reason : String} {v : Value} (h : v.isShowable) :
    (invalid key v reason).IsRefusal := by
  rw [invalid, if_pos h]
  simp [Error.IsRefusal, Failure.classes]

theorem ofValue?_eq_some_iff {v : Value} {q : Quantity} :
    Quantity.ofValue? v = some q ↔ v = q.value := by
  constructor
  · intro h
    cases v <;> cases h <;> rfl
  · rintro rfl
    cases q <;> rfl

/-- An amount is judged by a test that all valid amounts pass and that tells the others from them
where `told` holds. -/
theorem judges_amount (valid told : Value → Prop) (test : Quantity → Bool)
    (hnumber : ∀ v, valid v → ∃ q : Quantity, v = q.value)
    (hpass : ∀ q : Quantity, valid q.value → test q = false)
    (hfail : ∀ q : Quantity, told q.value → ¬valid q.value → test q = true)
    (comparison key reason : String) (v : Value) :
    Judges (valid v) (told v ∧ v.isShowable) (·.value = v)
      (do
        let q ← amount comparison v
        if test q then .error (invalid key v reason) else .ok q) := by
  cases hq : Quantity.ofValue? v with
  | none =>
    have hamount : amount comparison v = .error (.fault (.unordered comparison v.typeName)) := by
      simp only [amount, hq]
    rw [hamount]
    refine .error (fun hvalid => ?_) fun _ => nofun
    obtain ⟨q, hv⟩ := hnumber v hvalid
    rw [ofValue?_eq_some_iff.2 hv] at hq
    cases hq
  | some q =>
    have hamount : amount comparison v = .ok q := by simp only [amount, hq]
    rw [hamount]
    obtain rfl := ofValue?_eq_some_iff.1 hq
    change Judges _ _ _ (if test q then _ else _)
    constructor
    · intro hvalid
      rw [hpass q hvalid]
      exact ⟨q, rfl, rfl⟩
    · rintro hvalid ⟨htold, hshow⟩
      rw [if_pos (hfail q htold hvalid)]
      exact ⟨_, rfl, isRefusal_invalid hshow⟩

theorem judges_count (key : String) (v : Value) :
    Judges v.IsCount ((∀ x, v = .float x → x < 1.0) ∧ v.isShowable) (·.value = v)
      (count key v) := by
  refine judges_amount Value.IsCount (fun v => ∀ x, v = .float x → x < 1.0) Quantity.belowOne
    ?_ ?_ ?_ "<" key "must be at least 1" v
  · rintro _ (rfl | ⟨n, rfl, _⟩)
    · exact ⟨.truth true, rfl⟩
    · exact ⟨.whole n, rfl⟩
  · intro q hq
    cases q <;> simp_all [Value.IsCount, Quantity.value, Quantity.belowOne]
  · intro q hfloat hq
    cases q with
    | truth b => simpa [Value.IsCount, Quantity.value, Quantity.belowOne] using hq
    | whole n => simpa [Value.IsCount, Quantity.value, Quantity.belowOne] using hq
    | real x => exact decide_eq_true (hfloat x rfl)

theorem judges_size (key : String) (v : Value) :
    Judges v.IsSize
      ((∀ x, v = .float x → x ≤ 0.0 ∨ (x * 1024.0 * 1024.0).isFinite) ∧ v.isShowable)
      (·.value = v) (size key v) := by
  refine judges_amount Value.IsSize
    (fun v => ∀ x, v = .float x → x ≤ 0.0 ∨ (x * 1024.0 * 1024.0).isFinite) Quantity.atMostZero
    ?_ ?_ ?_ "<=" key "must be positive" v
  · rintro _ (rfl | ⟨n, rfl, _⟩ | ⟨x, rfl, _⟩)
    · exact ⟨.truth true, rfl⟩
    · exact ⟨.whole n, rfl⟩
    · exact ⟨.real x, rfl⟩
  · intro q hq
    cases q with
    | truth b => simpa [Value.IsSize, Quantity.value, Quantity.atMostZero] using hq
    | whole n => simpa [Value.IsSize, Quantity.value, Quantity.atMostZero] using hq
    | real x =>
      rcases hq with h | ⟨n, h, _⟩ | ⟨y, h, hpos, hfinite, _⟩ <;> cases h
      exact decide_eq_false ((Number.zero_lt_iff_not_le hfinite).1 hpos)
  · intro q hfloat hq
    cases q with
    | truth b => simpa [Value.IsSize, Quantity.value, Quantity.atMostZero] using hq
    | whole n => simpa [Value.IsSize, Quantity.value, Quantity.atMostZero] using hq
    | real x =>
      refine decide_eq_true (Classical.byContradiction fun hx => hq ?_)
      have hbytes := (hfloat x rfl).resolve_left hx
      have hfinite := Number.isFinite_of_mul (Number.isFinite_of_mul hbytes)
      exact .inr (.inr ⟨x, rfl, (Number.zero_lt_iff_not_le hfinite).2 hx, hfinite, hbytes⟩)

theorem judges_choice {α : Type} {ofName? : String → Option α} {nameOf : α → String}
    (hof : ∀ s a, ofName? s = some a ↔ nameOf a = s) (names : List String) (key : String)
    (v : Value) :
    Judges (∃ a, v = .str (nameOf a)) v.isShowable (fun a => v = .str (nameOf a))
      (choice ofName? names key v) := by
  cases v with
  | str s =>
    cases hs : ofName? s with
    | some a =>
      have hchoice : choice ofName? names key (.str s) = .ok a := by simp only [choice, hs]
      have hname : Value.str s = .str (nameOf a) := congrArg Value.str ((hof s a).1 hs).symm
      rw [hchoice]
      exact .ok ⟨a, hname⟩ hname
    | none =>
      have hchoice : ∃ reason, choice ofName? names key (.str s) =
          .error (invalid key (.str s) reason) := ⟨_, by simp only [choice, hs]; rfl⟩
      obtain ⟨reason, hchoice⟩ := hchoice
      rw [hchoice]
      refine .error ?_ isRefusal_invalid
      rintro ⟨a, ha⟩
      cases ha
      rw [(hof _ a).2 rfl] at hs
      cases hs
  | _ => exact .error (by simp) isRefusal_invalid

/-- What is found by its name has that name, if all things are looked through and no two have the
same name. -/
theorem find?_name_eq_some_iff {α : Type} {all : List α} {name : α → String} (hall : ∀ a, a ∈ all)
    (hname : ∀ a b, name a = name b → a = b) (s : String) (a : α) :
    (all.find? fun b => name b = s) = some a ↔ name a = s := by
  constructor
  · intro h
    simpa using List.find?_some h
  · rintro rfl
    cases hfind : all.find? fun b => name b = name a with
    | none => exact absurd (List.find?_eq_none.1 hfind a (hall a)) (by simp)
    | some b => rw [hname b a (by simpa using List.find?_some hfind)]

theorem format_ofName?_eq_some_iff :
    ∀ (s : String) (f : Format), Format.ofName? s = some f ↔ f.name = s :=
  find?_name_eq_some_iff (fun f => by cases f <;> decide)
    fun f g => by cases f <;> cases g <;> decide

theorem verbosity_ofName?_eq_some_iff :
    ∀ (s : String) (v : Verbosity), Verbosity.ofName? s = some v ↔ v.name = s :=
  find?_name_eq_some_iff (fun v => by cases v <;> decide)
    fun v w => by cases v <;> cases w <;> decide

/-- The named values are those of settings, each of the kind that the setting has. -/
structure IsValid (fields : List (String × Value)) : Prop where
  known : ∀ field ∈ fields, field.1 ∈ names
  patterns : (get fields "exclude_patterns").IsPatterns
  size : (get fields "max_file_size_mb").IsSize
  files : (get fields "max_files").IsCount
  passes : (get fields "max_fix_passes").IsCount
  format : ∃ f : Format, get fields "output_format" = .str f.name
  verbosity : ∃ v : Verbosity, get fields "verbosity" = .str v.name

/-- Comparisons tell whether the values are valid: no float passes for a count, a float that passes
for a size is finite in bytes, the patterns are texts, and all values can be shown. -/
structure IsTold (fields : List (String × Value)) : Prop where
  patterns : (get fields "exclude_patterns").IsPatterns
  size : ∀ x, get fields "max_file_size_mb" = .float x →
    x ≤ 0.0 ∨ (x * 1024.0 * 1024.0).isFinite
  counts : ∀ key ∈ ["max_files", "max_fix_passes"], ∀ x, get fields key = .float x → x < 1.0
  showable : ∀ key ∈ names, (get fields key).isShowable

/-- Settings that a run can use: whole counts, a size that has a number of bytes, and patterns that
are texts. The format and the verbosity are of their types. -/
structure IsUsable (s : Settings) : Prop where
  patterns : s.excludePatterns.IsPatterns
  size : s.maxFileSizeMb.value.IsSize
  bytes : ∃ n, s.maxFileSizeBytes = .ok n
  files : s.maxFiles.value.IsCount
  passes : s.maxFixPasses.value.IsCount

theorem exists_maxFileSizeBytes {s : Settings} (h : s.maxFileSizeMb.value.IsSize) :
    ∃ n, s.maxFileSizeBytes = .ok n := by
  unfold maxFileSizeBytes
  cases hq : s.maxFileSizeMb with
  | truth b => exact ⟨_, rfl⟩
  | whole n => exact ⟨_, rfl⟩
  | real x =>
    rw [hq] at h
    rcases h with h | ⟨n, h, _⟩ | ⟨y, h, _, _, hbytes⟩ <;> cases h
    exact exists_truncate hbytes

theorem judges_ofFields (fields : List (String × Value)) :
    Judges (IsValid fields) (IsTold fields) IsUsable (ofFields fields) := by
  unfold ofFields
  split
  · next key v hfind =>
    refine .error (fun hvalid => ?_) fun _ => ?_
    · have hknown := hvalid.known _ (List.mem_of_find?_eq_some hfind)
      have hunknown := List.find?_some hfind
      simp [hknown] at hunknown
    · unfold refusal
      split <;> nofun
  · next hfind =>
    have hknown : ∀ field ∈ fields, field.1 ∈ names := by
      simpa using hfind
    -- patterns are not checked, so that what is said of them is left for the end
    have hlast : ∀ {s : Settings}, s.excludePatterns = get fields "exclude_patterns" →
        s.maxFileSizeMb.value.IsSize → s.maxFiles.value.IsCount → s.maxFixPasses.value.IsCount →
        Judges (get fields "exclude_patterns").IsPatterns (get fields "exclude_patterns").IsPatterns
          IsUsable (.ok s) := by
      intro s hpatterns hsize hfiles hpasses
      rw [← hpatterns]
      exact ⟨fun hp => ⟨s, rfl, hp, hsize, exists_maxFileSizeBytes hsize, hfiles, hpasses⟩,
        fun hn hp => absurd hp hn⟩
    refine Judges.congr
      ((judges_size _ _).bind fun size hsize hs =>
        (judges_count _ _).bind fun files hfiles hf =>
        (judges_count _ _).bind fun passes hpasses hp =>
        (judges_choice format_ofName?_eq_some_iff _ _ _).bind fun format _ _ =>
        (judges_choice verbosity_ofName?_eq_some_iff _ _ _).bind fun verbosity _ _ =>
        hlast rfl (hs ▸ hsize) (hf ▸ hfiles) (hp ▸ hpasses)) ⟨?_, ?_⟩ ?_
    · rintro ⟨hsize, hfiles, hpasses, hformat, hverbosity, hpatterns⟩
      exact ⟨hknown, hpatterns, hsize, hfiles, hpasses, hformat, hverbosity⟩
    · intro h
      exact ⟨h.size, h.files, h.passes, h.format, h.verbosity, h.patterns⟩
    · intro h
      exact ⟨⟨h.size, h.showable _ (by decide)⟩, ⟨h.counts _ (by decide), h.showable _ (by decide)⟩,
        ⟨h.counts _ (by decide), h.showable _ (by decide)⟩, h.showable _ (by decide),
        h.showable _ (by decide), h.patterns⟩

end Settings

theorem Except.bind_eq_error {ε α β : Type} {r : Except ε α} {f : α → Except ε β} {e : ε}
    (h : (r >>= f) = .error e) : r = .error e ∨ ∃ a, r = .ok a ∧ f a = .error e := by
  cases r with
  | error e' =>
    cases h
    exact .inl rfl
  | ok a => exact .inr ⟨a, rfl, h⟩

theorem Except.exists_of_mapM_eq_error {ε α β : Type} {f : α → Except ε β} {xs : List α} {e : ε}
    (h : xs.mapM f = .error e) : ∃ x ∈ xs, f x = .error e := by
  induction xs with
  | nil => cases h
  | cons x xs ih =>
    rw [List.mapM_cons] at h
    rcases Except.bind_eq_error h with hx | ⟨y, _, h⟩
    · exact ⟨x, List.mem_cons_self, hx⟩
    · rcases Except.bind_eq_error h with hxs | ⟨ys, _, h⟩
      · obtain ⟨x', hx', he⟩ := ih hxs
        exact ⟨x', List.mem_cons_of_mem _ hx', he⟩
      · cases h

theorem Environment.isRefusal_settings {vars : List (String × String)} {e : Error}
    (h : settings vars = .error e) : ∃ f, e = .failure f ∧ "ConfigurationError" ∈ f.classes := by
  rcases Except.bind_eq_error h with hall | ⟨entries, _, h⟩
  · obtain ⟨p, _, hentry⟩ := Except.exists_of_mapM_eq_error hall
    unfold entry at hentry
    dsimp only at hentry
    split at hentry
    · cases hentry
    · split at hentry
      · cases hentry
      · cases hentry
        exact ⟨_, rfl, by simp [Failure.classes]⟩
  · cases h

namespace Settings

section Sources

variable {s : Surroundings} {file : Option Path} {overrides home project named : List (String × Value)}
  (hhome : ofFile? s (s.home.join (Path.ofString homeFile)) = .ok home)
  (hproject : ofFile? s (s.cwd.join (Path.ofString projectFile)) = .ok project)
  (hnamed : (file.map (ofNamedFile s)).getD (.ok []) = .ok named)
include hhome hproject hnamed

theorem load_of_environment_error {e : Error} (h : Environment.settings s.environment = .error e) :
    load s file overrides = .error e := by
  unfold load
  rw [hhome, hproject, hnamed, h]
  rfl

/-- What the merged values give is what loading gives, but for the faults, which are reported as
failures. -/
theorem load_of_judges {environment : List (String × Value)} {P S : Prop} {Q : Settings → Prop}
    (h : Environment.settings s.environment = .ok environment)
    (hjudges : Judges P S Q (ofFields (merge
      [home, project, named, environment, resolveOverrides overrides]))) :
    (P → ∃ settings, load s file overrides = .ok settings ∧ Q settings) ∧
      (¬P → S → ∃ f, load s file overrides = .error (.failure f) ∧
        "ConfigurationError" ∈ f.classes) := by
  unfold load
  rw [hhome, hproject, hnamed, h]
  dsimp only [bind, Except.bind]
  constructor
  · intro hp
    obtain ⟨settings, hok, hq⟩ := hjudges.accepts hp
    rw [hok]
    exact ⟨settings, rfl, hq⟩
  · intro hp hs
    obtain ⟨e, herror, hrefusal⟩ := hjudges.refuses hp hs
    rw [herror]
    cases e with
    | failure f => exact ⟨f, rfl, hrefusal⟩
    | fault f =>
      split
      · next heq =>
        cases heq
        exact absurd rfl hrefusal
      · exact ⟨_, rfl, List.mem_cons_self⟩
      · next hother => exact absurd rfl (hother f)

theorem load_of_unshowable {environment : List (String × Value)}
    (h : Environment.settings s.environment = .ok environment)
    (hfields : ofFields (merge [home, project, named, environment, resolveOverrides overrides]) =
      .error (.fault .unshowable)) : load s file overrides = .error (.fault .unshowable) := by
  unfold load
  rw [hhome, hproject, hnamed, h]
  dsimp only [bind, Except.bind]
  rw [hfields]

end Sources

/-- Loading judges the values of all sources. A variable that cannot be read is refused; otherwise
valid values give settings that can be used. Where comparisons tell what is valid, settings are
returned for nothing else, and whatever else is given is refused. -/
theorem load_judges {s : Surroundings} {file : Option Path}
    {overrides home project named : List (String × Value)}
    (hhome : ofFile? s (s.home.join (Path.ofString homeFile)) = .ok home)
    (hproject : ofFile? s (s.cwd.join (Path.ofString projectFile)) = .ok project)
    (hnamed : (file.map (ofNamedFile s)).getD (.ok []) = .ok named) :
    (∀ e, Environment.settings s.environment = .error e →
      ∃ f, load s file overrides = .error (.failure f) ∧ "ConfigurationError" ∈ f.classes) ∧
    ∀ environment, Environment.settings s.environment = .ok environment →
      ∀ fields, fields = merge [home, project, named, environment, resolveOverrides overrides] →
        (IsValid fields → ∃ settings, load s file overrides = .ok settings ∧ settings.IsUsable) ∧
        (IsTold fields →
          (∀ settings, load s file overrides = .ok settings →
            IsValid fields ∧ settings.IsUsable) ∧
          (¬IsValid fields → ∃ f, load s file overrides = .error (.failure f) ∧
            "ConfigurationError" ∈ f.classes)) := by
  constructor
  · intro e he
    obtain ⟨f, rfl, hf⟩ := Environment.isRefusal_settings he
    exact ⟨f, load_of_environment_error hhome hproject hnamed he, hf⟩
  · rintro environment henvironment fields rfl
    obtain ⟨haccepts, hrefuses⟩ :=
      load_of_judges hhome hproject hnamed henvironment (judges_ofFields _)
    refine ⟨haccepts, fun htold => ⟨fun settings hload => ?_, fun hn => hrefuses hn htold⟩⟩
    have hvalid : IsValid (merge
        [home, project, named, environment, resolveOverrides overrides]) := by
      refine Classical.byContradiction fun hn => ?_
      obtain ⟨f, hf, _⟩ := hrefuses hn htold
      rw [hload] at hf
      cases hf
    obtain ⟨settings', hload', husable⟩ := haccepts hvalid
    rw [hload] at hload'
    cases hload'
    exact ⟨hvalid, husable⟩

section Instances

/-- A run without any file, where the environment asks for few words. -/
def quietRun : Surroundings where
  disk := ⟨[], [["home"], ["work"]], {}⟩
  home := Path.ofString "/home"
  cwd := Path.ofString "/work"
  environment := [("REQUIRE_OPTIONS_VERBOSITY", "quiet")]
  complaint _ := ""

theorem isValid_quiet : IsValid [("verbosity", .str "quiet"), ("max_files", .int 5)] where
  known := by decide
  patterns := ⟨defaultPatterns, rfl⟩
  size := .inr (.inr ⟨2.0, rfl, by decide, by decide, by decide⟩)
  files := .inr ⟨5, rfl, by decide⟩
  passes := .inr ⟨10, rfl, by decide⟩
  format := ⟨.stylish, rfl⟩
  verbosity := ⟨.quiet, rfl⟩

theorem isTold_quiet : IsTold [("verbosity", .str "quiet"), ("max_files", .int 0)] where
  patterns := ⟨defaultPatterns, rfl⟩
  size := by
    rintro x ⟨⟩
    exact .inr (by decide)
  counts := by
    intro key hkey x hx
    simp only [List.mem_cons, List.not_mem_nil, or_false] at hkey
    rcases hkey with rfl | rfl <;> cases hx
  showable := by decide +kernel

theorem quietRun_judged :
    (∃ settings, load quietRun none [("max_files", .int 5)] = .ok settings ∧ settings.IsUsable) ∧
      ∃ f, load quietRun none [("max_files", .int 0)] = .error (.failure f) ∧
        "ConfigurationError" ∈ f.classes := by
  constructor
  · exact ((@load_judges quietRun none [("max_files", .int 5)] [] [] [] rfl rfl rfl).2
      [("verbosity", .str "quiet")] rfl [("verbosity", .str "quiet"), ("max_files", .int 5)] rfl).1
      isValid_quiet
  · refine (((@load_judges quietRun none [("max_files", .int 0)] [] [] [] rfl rfl rfl).2
      [("verbosity", .str "quiet")] rfl [("verbosity", .str "quiet"), ("max_files", .int 0)] rfl).2
      isTold_quiet).2 fun h => ?_
    rcases h.files with h | ⟨n, h, hn⟩
    · cases h
    · cases h
      exact absurd hn (by decide)

/-- A run without any file, where the environment limits the size by a NaN. -/
def nanRun : Surroundings where
  disk := ⟨[], [["home"], ["work"]], {}⟩
  home := Path.ofString "/home"
  cwd := Path.ofString "/work"
  environment := [("REQUIRE_OPTIONS_MAX_FILE_SIZE_MB", "nan")]
  complaint _ := ""

/-- Values that pass the comparisons, or break off when they are refused. -/
theorem load_lets_through :
    (∃ settings, load nanRun none [] = .ok settings ∧
      settings.maxFileSizeBytes = .error .nanFloat) ∧
    (∃ settings, load quietRun none [("max_fix_passes", .float 2.5)] = .ok settings ∧
      settings.maxFixPasses.int? = none) ∧
    (∃ settings, load quietRun none [("exclude_patterns", .str "*.ts")] = .ok settings ∧
      settings.excludePatterns = .str "*.ts") ∧
    load quietRun none [("output_format", .int (.ofNat (Nat.pow 10 Number.maxIntDigits)))] =
      .error (.fault .unshowable) := by
  have hlong : ∀ n : Int, (Value.int n).isShowable = false →
      load quietRun none [("output_format", .int n)] = .error (.fault .unshowable) := by
    intro n hn
    have hfields : ofFields [("verbosity", .str "quiet"), ("output_format", .int n)] =
        .error (invalid "output_format" (.int n) "expected one of stylish, json, github") := rfl
    rw [invalid, if_neg (by simp [hn])] at hfields
    exact @load_of_unshowable quietRun none _ [] [] [] rfl rfl rfl [("verbosity", .str "quiet")] rfl
      hfields
  obtain ⟨settings, hload, hsize⟩ : ∃ settings, load nanRun none [] = .ok settings ∧
      settings.maxFileSizeMb = .real (0.0 / 0.0) := ⟨_, rfl, rfl⟩
  have hbytes : settings.maxFileSizeBytes = .error .nanFloat := by
    rw [maxFileSizeBytes, hsize]
    rfl
  exact ⟨⟨settings, hload, hbytes⟩, ⟨_, rfl, rfl⟩, ⟨_, rfl, rfl⟩,
    hlong _ (by decide +kernel)⟩

end Instances

end Settings

end ArityLint
