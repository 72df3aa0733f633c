import ArityLint.Proofs.Fields
import ArityLint.Proofs.Validation

namespace ArityLint

theorem Except.exists_mapM_eq_error {ε α β : Type} {f : α → Except ε β} {xs : List α} {x : α}
    {e : ε} (hx : x ∈ xs) (h : f x = .error e) : ∃ e', xs.mapM f = .error e' := by
  induction xs with
  | nil => cases hx
  | cons y xs ih =>
    cases hall : (y :: xs).mapM f with
    | error e' => exact ⟨e', rfl⟩
    | ok ys =>
      obtain ⟨z, zs, hz, hzs, _⟩ := Except.mapM_cons_eq_ok hall
      rcases List.mem_cons.1 hx with rfl | hx
      · rw [h] at hz
        cases hz
      · obtain ⟨e', he⟩ := ih hx
        rw [hzs] at he
        cases he

theorem Except.mapM_congr {ε α β : Type} {f g : α → Except ε β} {xs : List α}
    (h : ∀ x ∈ xs, f x = g x) : xs.mapM f = xs.mapM g := by
  induction xs with
  | nil => rfl
  | cons x xs ih =>
    rw [List.mapM_cons, List.mapM_cons, h x List.mem_cons_self,
      ih fun y hy => h y (List.mem_cons_of_mem _ hy)]

namespace Settings

inductive Place where
  | absent
  | table (fields : List (String × Value))
  /-- There is something, or a path that cannot be followed, and no table to be read. -/
  | invalid

namespace Place

def field? : Place → String → Option Value
  | table fields, key => Value.field? fields key
  | _, _ => none

def fields : Place → List (String × Value)
  | table fields => fields
  | _ => []

end Place

/-- The table of a file; none when the file may not be read, is a folder, no text in UTF-8 or no
document. -/
def tableAt (d : Disk) (l : Location) : Option (List (String × Value)) :=
  if d.isReadable l then
    (d.file? l).bind fun bytes =>
      (Utf8.decode bytes).toOption.bind fun text => (Toml.parse text).toOption
  else none

def placeOf (d : Disk) (cwd path : Path) : Place :=
  match d.lookUp cwd.parts path with
  | .missing | .notFolder => .absent
  | .refused | .tooLong => .invalid
  | .found l =>
    match tableAt d l with
    | some fields => .table fields
    | none => .invalid

section Sources

variable (s : Surroundings) (file : Option Path) (overrides : List (String × Value))

def homePlace : Place := placeOf s.disk s.cwd (s.home.join (Path.ofString homeFile))

def projectPlace : Place := placeOf s.disk s.cwd (s.cwd.join (Path.ofString projectFile))

def namedPlace : Place := (file.map (placeOf s.disk s.cwd)).getD .absent

/-- Is a flag among the overrides set to something that counts as true? -/
def isSet (flag : String) : Bool := ((Value.field? overrides flag).map Value.truthy).getD false

def isGiven : Value → Bool
  | .null => false
  | _ => true

/-- What the overrides give a setting: a flag that is set goes before a verbosity of their own. -/
def overrideOf (key : String) : Option Value :=
  if key = "quiet" ∨ key = "verbose" then none
  else if key = "verbosity" ∧ isSet overrides "quiet" then some (.str "quiet")
  else if key = "verbosity" ∧ isSet overrides "verbose" then some (.str "verbose")
  else (Value.field? overrides key).filter isGiven

def variableValue (key : String) : Option Value :=
  let text := s.environment.lookup (Environment.variableOf key)
  if key = "max_file_size_mb" then (text.bind Number.readFloat?).map .float
  else if key = "max_files" ∨ key = "max_fix_passes" then
    (text.bind fun t => (Number.readInt t).toOption).map .int
  else if key = "output_format" ∨ key = "verbosity" then text.map .str
  else none

def given (key : String) : Option Value :=
  (overrideOf overrides key).or <| (variableValue s key).or <|
    ((namedPlace s file).field? key).or <| ((projectPlace s).field? key).or <|
      (homePlace s).field? key

/-- The value of a setting, its default where no source gives one. -/
def valueOf (key : String) : Value :=
  ((given s file overrides key).or (Value.field? defaults key)).getD .null

end Sources

/-- The values pass the comparisons that settings have to pass. -/
structure Passes (value : String → Value) : Prop where
  size : ∃ q : Quantity, value "max_file_size_mb" = q.value ∧ q.atMostZero = false
  files : ∃ q : Quantity, value "max_files" = q.value ∧ q.belowOne = false
  fixPasses : ∃ q : Quantity, value "max_fix_passes" = q.value ∧ q.belowOne = false
  format : ∃ f : Format, value "output_format" = .str f.name
  verbosity : ∃ v : Verbosity, value "verbosity" = .str v.name

inductive IsRefused (s : Surroundings) (file : Option Path) (overrides : List (String × Value)) :
    Prop
  | home : homePlace s = .invalid → IsRefused s file overrides
  | project : projectPlace s = .invalid → IsRefused s file overrides
  | named : namedPlace s file = .invalid → IsRefused s file overrides
  | missing {path : Path} : file = some path → placeOf s.disk s.cwd path = .absent →
      IsRefused s file overrides
  | integer {key text : String} {flaw : Number.IntFlaw} :
      key = "max_files" ∨ key = "max_fix_passes" →
      s.environment.lookup (Environment.variableOf key) = some text →
      Number.readInt text = .error flaw → IsRefused s file overrides
  | real {text : String} :
      s.environment.lookup (Environment.variableOf "max_file_size_mb") = some text →
      Number.readFloat? text = none → IsRefused s file overrides
  | unknown {key : String} {v : Value} : given s file overrides key = some v → key ∉ names →
      IsRefused s file overrides
  | values : ¬Passes (valueOf s file overrides) → IsRefused s file overrides

def values (settings : Settings) : List (String × Value) :=
  [("exclude_patterns", settings.excludePatterns),
    ("max_file_size_mb", settings.maxFileSizeMb.value), ("max_files", settings.maxFiles.value),
    ("max_fix_passes", settings.maxFixPasses.value), ("output_format", .str settings.format.name),
    ("verbosity", .str settings.verbosity.name)]

theorem amount_eq_ok_iff {comparison : String} {v : Value} {q : Quantity} :
    amount comparison v = .ok q ↔ v = q.value := by
  rw [← ofValue?_eq_some_iff, amount]
  cases Quantity.ofValue? v <;> simp

theorem amount_unless_eq_ok_iff {test : Quantity → Bool} {comparison key reason : String} {v : Value}
    {q : Quantity} :
    (do
      let q ← amount comparison v
      if test q then .error (invalid key v reason) else .ok q) = .ok q ↔
      v = q.value ∧ test q = false := by
  constructor
  · intro h
    obtain ⟨p, hp, h⟩ := Except.bind_eq_ok h
    split at h <;> cases h
    exact ⟨amount_eq_ok_iff.1 hp, by simpa using ‹¬test q = true›⟩
  · rintro ⟨hv, hq⟩
    rw [amount_eq_ok_iff.2 hv]
    change (if test q then _ else _) = _
    rw [hq]
    rfl

theorem size_eq_ok_iff {key : String} {v : Value} {q : Quantity} :
    size key v = .ok q ↔ v = q.value ∧ q.atMostZero = false :=
  amount_unless_eq_ok_iff

theorem count_eq_ok_iff {key : String} {v : Value} {q : Quantity} :
    count key v = .ok q ↔ v = q.value ∧ q.belowOne = false :=
  amount_unless_eq_ok_iff

theorem choice_eq_ok_iff {α : Type} {ofName? : String → Option α} {nameOf : α → String}
    (hof : ∀ s a, ofName? s = some a ↔ nameOf a = s) {names : List String} {key : String}
    {v : Value} {a : α} : choice ofName? names key v = .ok a ↔ v = .str (nameOf a) := by
  cases v with
  | str s =>
    have hs : Value.str s = .str (nameOf a) ↔ ofName? s = some a := by
      rw [hof, Value.str.injEq]
      exact eq_comm
    rw [hs, choice]
    cases ofName? s <;> simp
  | _ => simp [choice]

/-- Settings that named values give have these values, whose names are known and which pass. -/
theorem ofFields_eq_ok {fields : List (String × Value)} {settings : Settings}
    (h : ofFields fields = .ok settings) :
    (∀ f ∈ fields, f.1 ∈ names) ∧ Passes (get fields) ∧
      settings.values = names.map fun key => (key, get fields key) := by
  unfold ofFields at h
  split at h
  · cases h
  · next hfind =>
    obtain ⟨size, hsize, h⟩ := Except.bind_eq_ok h
    obtain ⟨files, hfiles, h⟩ := Except.bind_eq_ok h
    obtain ⟨passes, hpasses, h⟩ := Except.bind_eq_ok h
    obtain ⟨format, hformat, h⟩ := Except.bind_eq_ok h
    obtain ⟨verbosity, hverbosity, h⟩ := Except.bind_eq_ok h
    cases h
    have hsize := size_eq_ok_iff.1 hsize
    have hfiles := count_eq_ok_iff.1 hfiles
    have hpasses := count_eq_ok_iff.1 hpasses
    have hformat := (choice_eq_ok_iff format_ofName?_eq_some_iff).1 hformat
    have hverbosity := (choice_eq_ok_iff verbosity_ofName?_eq_some_iff).1 hverbosity
    refine ⟨by simpa using hfind, ⟨⟨_, hsize⟩, ⟨_, hfiles⟩, ⟨_, hpasses⟩, ⟨_, hformat⟩,
      ⟨_, hverbosity⟩⟩, ?_⟩
    simp only [values, ← hsize.1, ← hfiles.1, ← hpasses.1, ← hformat, ← hverbosity]
    rfl

theorem exists_ofFields {fields : List (String × Value)} (hknown : ∀ f ∈ fields, f.1 ∈ names)
    (hpass : Passes (get fields)) : ∃ settings, ofFields fields = .ok settings := by
  obtain ⟨size, hsize⟩ := hpass.size
  obtain ⟨files, hfiles⟩ := hpass.files
  obtain ⟨passes, hpasses⟩ := hpass.fixPasses
  obtain ⟨format, hformat⟩ := hpass.format
  obtain ⟨verbosity, hverbosity⟩ := hpass.verbosity
  unfold ofFields
  split
  · next key v hfind =>
    have hunknown := List.find?_some hfind
    simp [hknown _ (List.mem_of_find?_eq_some hfind)] at hunknown
  · rw [size_eq_ok_iff.2 hsize, count_eq_ok_iff.2 hfiles, count_eq_ok_iff.2 hpasses,
      (choice_eq_ok_iff format_ofName?_eq_some_iff).2 hformat,
      (choice_eq_ok_iff verbosity_ofName?_eq_some_iff).2 hverbosity]
    exact ⟨_, rfl⟩

theorem toOption_ofFile (s : Surroundings) (path : Path) (l : Location) :
    (ofFile s path l).toOption = tableAt s.disk l := by
  unfold ofFile tableAt
  cases s.disk.isReadable l with
  | false => rfl
  | true =>
    rw [if_neg (by decide), if_pos rfl]
    cases s.disk.file? l with
    | none => rfl
    | some bytes =>
      dsimp only [Option.bind_some]
      cases Utf8.decode bytes with
      | error flaw => rfl
      | ok text =>
        dsimp only [Except.toOption, Option.bind_some]
        cases Toml.parse text with
        | ok fields => rfl
        | error flaw => cases flaw <;> rfl

theorem ofFile_eq_ok_iff {s : Surroundings} {path : Path} {l : Location}
    {fields : List (String × Value)} :
    ofFile s path l = .ok fields ↔ tableAt s.disk l = some fields := by
  rw [← toOption_ofFile s path l]
  cases ofFile s path l <;> simp [Except.toOption]

theorem placeOf_eq_table_iff {d : Disk} {cwd path : Path} {fields : List (String × Value)} :
    placeOf d cwd path = .table fields ↔
      ∃ l, d.lookUp cwd.parts path = .found l ∧ tableAt d l = some fields := by
  unfold placeOf
  cases d.lookUp cwd.parts path with
  | found l =>
    dsimp only
    cases htable : tableAt d l <;> simp [htable]
  | _ => simp

variable {s : Surroundings} {path : Path} {fields : List (String × Value)}

/-- What a path gives is the table in its place, or what stands for nothing there. -/
theorem ofPath_eq_ok_iff {absent : Except Error (List (String × Value))} :
    ofPath s path absent = .ok fields ↔
      placeOf s.disk s.cwd path = .table fields ∨
        placeOf s.disk s.cwd path = .absent ∧ absent = .ok fields := by
  unfold ofPath placeOf
  cases s.disk.lookUp s.cwd.parts path with
  | found l =>
    dsimp only
    rw [ofFile_eq_ok_iff]
    cases tableAt s.disk l <;> simp
  | _ => simp

theorem ofFile?_eq_ok_iff :
    ofFile? s path = .ok fields ↔ placeOf s.disk s.cwd path ≠ .invalid ∧
      fields = (placeOf s.disk s.cwd path).fields := by
  unfold ofFile?
  rw [ofPath_eq_ok_iff]
  cases placeOf s.disk s.cwd path <;> simp [Place.fields, eq_comm]

theorem ofNamedFile_eq_ok_iff :
    ofNamedFile s path = .ok fields ↔ placeOf s.disk s.cwd path = .table fields := by
  unfold ofNamedFile
  rw [ofPath_eq_ok_iff]
  simp

theorem nodup_placeOf (d : Disk) (cwd path : Path) :
    ((placeOf d cwd path).fields.map (·.1)).Nodup := by
  cases hplace : placeOf d cwd path with
  | absent => exact List.nodup_nil
  | invalid => exact List.nodup_nil
  | table fields =>
    obtain ⟨l, _, htable⟩ := placeOf_eq_table_iff.1 hplace
    have htable := (Option.ite_none_right_eq_some.1 htable).2
    obtain ⟨bytes, _, htable⟩ := Option.bind_eq_some_iff.1 htable
    obtain ⟨text, _, htable⟩ := Option.bind_eq_some_iff.1 htable
    cases hparse : Toml.parse text with
    | error flaw =>
      rw [hparse] at htable
      cases htable
    | ok found =>
      rw [hparse] at htable
      cases htable
      exact Toml.nodup_parse hparse

theorem lookup_fields (place : Place) (key : String) :
    place.fields.lookup key = place.field? key := by
  cases place <;> rfl

section Overrides

variable {overrides : List (String × Value)}

theorem lookup_applyFlag (flag : String) (verbosity : Verbosity) (fields : List (String × Value))
    (key : String) :
    (applyFlag flag verbosity fields).lookup key =
      if key = flag then none
      else if key = "verbosity" ∧ isSet fields flag then some (.str verbosity.name)
      else fields.lookup key := by
  unfold applyFlag isSet
  cases hflag : Value.field? fields flag with
  | none =>
    by_cases hkey : key = flag
    · rw [if_pos hkey, hkey]
      exact hflag
    · simp [hkey]
  | some v =>
    dsimp only
    rw [lookup_filter_key (fun k => decide (k ≠ flag))]
    by_cases hkey : key = flag
    · simp [hkey]
    · by_cases hv : v.truthy <;> simp [hkey, hv, lookup_setField]

theorem nodup_applyFlag (h : (overrides.map (·.1)).Nodup) (flag : String) (verbosity : Verbosity) :
    ((applyFlag flag verbosity overrides).map (·.1)).Nodup := by
  unfold applyFlag
  split
  · exact h
  · refine List.Nodup.sublist (List.filter_sublist.map _) ?_
    split
    · exact nodup_setField h _ _
    · exact h

theorem nodup_resolveOverrides (h : (overrides.map (·.1)).Nodup) :
    ((resolveOverrides overrides).map (·.1)).Nodup :=
  (nodup_applyFlag (nodup_applyFlag h _ _) _ _).sublist (List.filter_sublist.map _)

theorem lookup_resolveOverrides (h : (overrides.map (·.1)).Nodup) (key : String) :
    (resolveOverrides overrides).lookup key = overrideOf overrides key := by
  have hquiet :
      isSet (applyFlag "verbose" .verbose overrides) "quiet" = isSet overrides "quiet" := by
    unfold isSet Value.field?
    rw [lookup_applyFlag]
    rfl
  have hfilter : resolveOverrides overrides =
      (applyFlag "quiet" .quiet (applyFlag "verbose" .verbose overrides)).filter
        fun f => isGiven f.2 := rfl
  rw [hfilter, lookup_filter_value isGiven (nodup_applyFlag (nodup_applyFlag h _ _) _ _),
    lookup_applyFlag, hquiet, lookup_applyFlag, overrideOf]
  by_cases hflag : key = "quiet" ∨ key = "verbose"
  · rcases hflag with rfl | rfl <;> rfl
  · obtain ⟨hquiet, hverbose⟩ := not_or.1 hflag
    rw [if_neg hquiet, if_neg hverbose, if_neg hflag]
    split
    · rfl
    · split <;> rfl

end Overrides

section Environment

open Environment

variable {vars : List (String × String)}

theorem mem_kinds {p : String × Kind} (hp : p ∈ kinds) :
    p = ("exclude_patterns", .unreadable) ∨ p = ("max_file_size_mb", .real) ∨
      p = ("max_files", .integer) ∨ p = ("max_fix_passes", .integer) ∨
      p = ("output_format", .text) ∨ p = ("verbosity", .text) := by
  simpa only [kinds, List.mem_cons, List.not_mem_nil, or_false] using hp

def readVariable (vars : List (String × String)) (key : String) (kind : Kind) : Option Value :=
  (vars.lookup (variableOf key)).bind fun text => (Environment.read kind text).toOption.join

theorem entry_eq_ok {key : String} {kind : Kind} {fields : List (String × Value)}
    (h : entry vars key kind = .ok fields) :
    fields = ((readVariable vars key kind).map (key, ·)).toList := by
  unfold entry at h
  unfold readVariable
  dsimp only at h
  split at h
  · next hnone =>
    cases h
    rw [hnone]
    rfl
  · next text htext =>
    rw [htext, Option.bind_some]
    split at h
    · next v hv =>
      cases h
      rw [hv]
      cases v <;> rfl
    · cases h

theorem lookup_entries {kinds : List (String × Kind)} {entries : List (List (String × Value))}
    (h : kinds.mapM (fun (key, kind) => entry vars key kind) = .ok entries)
    (hkinds : (kinds.map (·.1)).Nodup) :
    (entries.flatten.map (·.1)).Sublist (kinds.map (·.1)) ∧
      ∀ key, entries.flatten.lookup key = (kinds.lookup key).bind (readVariable vars key) := by
  induction kinds generalizing entries with
  | nil =>
    cases h
    exact ⟨.slnil, fun _ => rfl⟩
  | cons k kinds ih =>
    obtain ⟨key, kind⟩ := k
    obtain ⟨first, rest, hfirst, hrest, rfl⟩ := Except.mapM_cons_eq_ok h
    obtain ⟨hkey, hkinds⟩ := List.nodup_cons.1 hkinds
    obtain ⟨hsublist, hlookup⟩ := ih hrest hkinds
    obtain rfl := entry_eq_ok hfirst
    rw [List.flatten_cons, List.map_append]
    constructor
    · cases readVariable vars key kind with
      | none => exact hsublist.cons key
      | some v => exact hsublist.cons_cons key
    · intro k
      rw [List.lookup_append, hlookup, lookup_cons_ite]
      by_cases hk : k = key
      · subst hk
        rw [if_pos rfl, lookup_eq_none_of_notMem hkey]
        cases hv : readVariable vars k kind <;> simp [hv]
      · rw [if_neg hk]
        cases readVariable vars key kind <;> simp [lookup_cons_ite, hk]

theorem exists_entry_error_iff {key : String} {kind : Kind} :
    (∃ e, entry vars key kind = .error e) ↔
      ∃ text fault, vars.lookup (variableOf key) = some text ∧
        Environment.read kind text = .error fault := by
  unfold entry
  dsimp only
  cases vars.lookup (variableOf key) with
  | none => simp
  | some text =>
    dsimp only
    cases hread : Environment.read kind text <;> simp [hread]

theorem exists_environment_error_iff :
    (∃ e, settings vars = .error e) ↔
      ∃ p ∈ kinds, ∃ e, entry vars p.1 p.2 = .error e := by
  constructor
  · rintro ⟨e, h⟩
    rcases Except.bind_eq_error h with hall | ⟨entries, _, h⟩
    · obtain ⟨p, hp, hentry⟩ := Except.exists_of_mapM_eq_error hall
      exact ⟨p, hp, e, hentry⟩
    · cases h
  · rintro ⟨p, hp, e, hentry⟩
    obtain ⟨e', hall⟩ := Except.exists_mapM_eq_error
      (f := fun p : String × Kind => entry vars p.1 p.2) hp hentry
    refine ⟨e', ?_⟩
    unfold settings
    rw [hall]
    rfl

theorem readVariable_integer (key : String) :
    readVariable vars key .integer =
      ((vars.lookup (variableOf key)).bind fun t => (Number.readInt t).toOption).map .int := by
  unfold readVariable
  cases vars.lookup (variableOf key) with
  | none => rfl
  | some text =>
    simp only [Option.bind_some, Environment.read, Value.toOffset]
    cases Number.readInt text with
    | ok n => rfl
    | error flaw => cases flaw <;> rfl

theorem readVariable_real (key : String) :
    readVariable vars key .real =
      ((vars.lookup (variableOf key)).bind Number.readFloat?).map .float := by
  unfold readVariable
  cases vars.lookup (variableOf key) with
  | none => rfl
  | some text =>
    simp only [Option.bind_some, Environment.read]
    cases Number.readFloat? text <;> rfl

theorem readVariable_text (key : String) :
    readVariable vars key .text = (vars.lookup (variableOf key)).map .str := by
  unfold readVariable
  cases vars.lookup (variableOf key) <;> rfl

theorem readVariable_unreadable (key : String) : readVariable vars key .unreadable = none := by
  unfold readVariable
  cases vars.lookup (variableOf key) <;> rfl

theorem variableValue_eq (s : Surroundings) (key : String) :
    variableValue s key = (kinds.lookup key).bind (readVariable s.environment key) := by
  by_cases hkey : key ∈ kinds.map (·.1)
  · obtain ⟨p, hp, rfl⟩ := List.mem_map.1 hkey
    rcases mem_kinds hp with rfl | rfl | rfl | rfl | rfl | rfl
    · exact (readVariable_unreadable _).symm
    · exact (readVariable_real _).symm
    · exact (readVariable_integer _).symm
    · exact (readVariable_integer _).symm
    · exact (readVariable_text _).symm
    · exact (readVariable_text _).symm
  · rw [lookup_eq_none_of_notMem hkey, Option.bind_none]
    simp only [kinds, List.map_cons, List.map_nil, List.mem_cons, List.not_mem_nil, or_false,
      not_or] at hkey
    simp [variableValue, hkey]

theorem read_integer_eq_error_iff {text : String} :
    (∃ fault, Environment.read .integer text = .error fault) ↔
      ∃ flaw, Number.readInt text = .error flaw := by
  simp only [Environment.read, Value.toOffset]
  cases Number.readInt text with
  | ok n => simp [Except.map]
  | error flaw => cases flaw <;> simp [Except.map]

theorem read_real_eq_error_iff {text : String} :
    (∃ fault, Environment.read .real text = .error fault) ↔ Number.readFloat? text = none := by
  simp only [Environment.read]
  cases Number.readFloat? text <;> simp

/-- The environment is refused for a number that cannot be read, and for nothing else. -/
theorem exists_settings_error_iff (s : Surroundings) :
    (∃ e, settings s.environment = .error e) ↔
      (∃ key text flaw, (key = "max_files" ∨ key = "max_fix_passes") ∧
        s.environment.lookup (variableOf key) = some text ∧ Number.readInt text = .error flaw) ∨
      ∃ text, s.environment.lookup (variableOf "max_file_size_mb") = some text ∧
        Number.readFloat? text = none := by
  rw [exists_environment_error_iff]
  simp only [exists_entry_error_iff]
  constructor
  · rintro ⟨p, hp, text, fault, htext, hread⟩
    rcases mem_kinds hp with rfl | rfl | rfl | rfl | rfl | rfl
    · cases hread
    · exact .inr ⟨text, htext, read_real_eq_error_iff.1 ⟨fault, hread⟩⟩
    · obtain ⟨flaw, hflaw⟩ := read_integer_eq_error_iff.1 ⟨fault, hread⟩
      exact .inl ⟨_, text, flaw, .inl rfl, htext, hflaw⟩
    · obtain ⟨flaw, hflaw⟩ := read_integer_eq_error_iff.1 ⟨fault, hread⟩
      exact .inl ⟨_, text, flaw, .inr rfl, htext, hflaw⟩
    · cases hread
    · cases hread
  · rintro (⟨key, text, flaw, hkey, htext, hflaw⟩ | ⟨text, htext, hfloat⟩)
    · obtain ⟨fault, hread⟩ := read_integer_eq_error_iff.2 ⟨flaw, hflaw⟩
      refine ⟨(key, .integer), ?_, text, fault, htext, hread⟩
      rcases hkey with rfl | rfl <;> simp [kinds]
    · obtain ⟨fault, hread⟩ := read_real_eq_error_iff.2 hfloat
      exact ⟨("max_file_size_mb", .real), by simp [kinds], text, fault, htext, hread⟩

theorem settings_congr {vars vars' : List (String × String)}
    (h : ∀ key ∈ names, key ≠ "exclude_patterns" →
      vars'.lookup (variableOf key) = vars.lookup (variableOf key)) :
    settings vars' = settings vars := by
  have hentry : ∀ p ∈ kinds, entry vars' p.1 p.2 = entry vars p.1 p.2 := by
    intro p hp
    rcases mem_kinds hp with rfl | rfl | rfl | rfl | rfl | rfl
    · unfold entry
      dsimp only
      cases vars'.lookup (variableOf "exclude_patterns") <;>
        cases vars.lookup (variableOf "exclude_patterns") <;> rfl
    all_goals
      unfold entry
      dsimp only
      rw [h _ (by decide) (by decide)]
  unfold settings
  rw [Except.mapM_congr (f := fun p : String × Kind => entry vars' p.1 p.2) hentry]

end Environment

theorem load_eq_ok_iff {s : Surroundings} {file : Option Path} {overrides : List (String × Value)}
    {settings : Settings} :
    load s file overrides = .ok settings ↔ ∃ home project named environment,
      ofFile? s (s.home.join (Path.ofString homeFile)) = .ok home ∧
      ofFile? s (s.cwd.join (Path.ofString projectFile)) = .ok project ∧
      (file.map (ofNamedFile s)).getD (.ok []) = .ok named ∧
      Environment.settings s.environment = .ok environment ∧
      ofFields (merge [home, project, named, environment, resolveOverrides overrides]) =
        .ok settings := by
  constructor
  · intro h
    obtain ⟨home, hhome, h⟩ := Except.bind_eq_ok h
    obtain ⟨project, hproject, h⟩ := Except.bind_eq_ok h
    obtain ⟨named, hnamed, h⟩ := Except.bind_eq_ok h
    obtain ⟨environment, henvironment, h⟩ := Except.bind_eq_ok h
    refine ⟨home, project, named, environment, hhome, hproject, hnamed, henvironment, ?_⟩
    dsimp only at h
    split at h
    · cases h
    · cases h
    · exact h
  · rintro ⟨home, project, named, environment, hhome, hproject, hnamed, henvironment, h⟩
    unfold load
    rw [hhome, hproject, hnamed, henvironment]
    dsimp only [bind, Except.bind]
    rw [h]

theorem named_eq_ok_iff {s : Surroundings} {file : Option Path} {named : List (String × Value)} :
    (file.map (ofNamedFile s)).getD (.ok []) = .ok named ↔
      namedPlace s file ≠ .invalid ∧
        (∀ path, file = some path → placeOf s.disk s.cwd path ≠ .absent) ∧
        named = (namedPlace s file).fields := by
  cases file with
  | none => simp [namedPlace, Place.fields, eq_comm]
  | some path =>
    simp only [namedPlace, Option.map_some, Option.getD_some, ofNamedFile_eq_ok_iff]
    cases hplace : placeOf s.disk s.cwd path <;> simp [hplace, Place.fields, eq_comm]

section Sources

variable {s : Surroundings} {file : Option Path} {overrides home project named environment :
    List (String × Value)}
  (hhome : ofFile? s (s.home.join (Path.ofString homeFile)) = .ok home)
  (hproject : ofFile? s (s.cwd.join (Path.ofString projectFile)) = .ok project)
  (hnamed : (file.map (ofNamedFile s)).getD (.ok []) = .ok named)
  (henvironment : Environment.settings s.environment = .ok environment)
  (hdistinct : (overrides.map (·.1)).Nodup)
include hhome hproject hnamed henvironment hdistinct

theorem lookup_merge (key : String) :
    (merge [home, project, named, environment, resolveOverrides overrides]).lookup key =
      given s file overrides key := by
  obtain rfl := (ofFile?_eq_ok_iff.1 hhome).2
  obtain rfl := (ofFile?_eq_ok_iff.1 hproject).2
  obtain rfl := (named_eq_ok_iff.1 hnamed).2.2
  obtain ⟨entries, hentries, h⟩ := Except.bind_eq_ok henvironment
  cases h
  obtain ⟨hsublist, hlookup⟩ := lookup_entries hentries (by decide)
  have hnodup : ((namedPlace s file).fields.map (·.1)).Nodup := by
    cases file with
    | none => exact List.nodup_nil
    | some path => exact nodup_placeOf s.disk s.cwd path
  change (setFields (setFields (setFields (setFields (setFields [] _) _) _) _) _).lookup key = _
  rw [lookup_setFields (nodup_resolveOverrides hdistinct),
    lookup_setFields (List.Nodup.sublist hsublist (by decide)), lookup_setFields hnodup,
    lookup_setFields (nodup_placeOf _ _ _), lookup_setFields (nodup_placeOf _ _ _),
    lookup_resolveOverrides hdistinct, hlookup, ← variableValue_eq]
  simp only [lookup_fields, List.lookup_nil, Option.or_none]
  rfl

theorem get_merge (key : String) :
    get (merge [home, project, named, environment, resolveOverrides overrides]) key =
      valueOf s file overrides key := by
  rw [get, Value.field?, lookup_merge hhome hproject hnamed henvironment hdistinct]
  rfl

theorem known_merge_iff :
    (∀ f ∈ merge [home, project, named, environment, resolveOverrides overrides], f.1 ∈ names) ↔
      ∀ key v, given s file overrides key = some v → key ∈ names := by
  simp only [← lookup_merge hhome hproject hnamed henvironment hdistinct]
  constructor
  · intro h key v hv
    obtain ⟨before, after, heq, _⟩ := List.lookup_eq_some_iff.1 hv
    exact h (key, v) (heq ▸ List.mem_append_right _ List.mem_cons_self)
  · intro h f hf
    obtain ⟨v, hv⟩ := Option.isSome_iff_exists.1
      (List.lookup_isSome_iff.2 ⟨f, hf, beq_iff_eq.2 rfl⟩)
    exact h f.1 v hv

end Sources

section Refusal

variable {s : Surroundings} {file : Option Path} {overrides : List (String × Value)}
  (hdistinct : (overrides.map (·.1)).Nodup)
include hdistinct

theorem not_isRefused_of_load {settings : Settings} (h : load s file overrides = .ok settings) :
    ¬IsRefused s file overrides := by
  obtain ⟨home, project, named, environment, hhome, hproject, hnamed, henvironment, h⟩ :=
    load_eq_ok_iff.1 h
  obtain ⟨hknown, hpasses, -⟩ := ofFields_eq_ok h
  have hreads : ¬∃ e, Environment.settings s.environment = .error e := by
    rw [henvironment]
    exact nofun
  intro hrefused
  cases hrefused with
  | home hplace => exact (ofFile?_eq_ok_iff.1 hhome).1 hplace
  | project hplace => exact (ofFile?_eq_ok_iff.1 hproject).1 hplace
  | named hplace => exact (named_eq_ok_iff.1 hnamed).1 hplace
  | missing hfile hplace => exact (named_eq_ok_iff.1 hnamed).2.1 _ hfile hplace
  | integer hkey htext hflaw =>
    exact hreads ((exists_settings_error_iff s).2 (.inl ⟨_, _, _, hkey, htext, hflaw⟩))
  | real htext hfloat => exact hreads ((exists_settings_error_iff s).2 (.inr ⟨_, htext, hfloat⟩))
  | unknown hgiven hkey =>
    exact hkey ((known_merge_iff hhome hproject hnamed henvironment hdistinct).1 hknown _ _ hgiven)
  | values hvalues =>
    rw [funext (get_merge hhome hproject hnamed henvironment hdistinct)] at hpasses
    exact hvalues hpasses

theorem exists_load_of_not_isRefused (h : ¬IsRefused s file overrides) :
    ∃ settings, load s file overrides = .ok settings := by
  have hhome := ofFile?_eq_ok_iff.2 ⟨fun hplace => h (.home hplace), rfl⟩
  have hproject := ofFile?_eq_ok_iff.2 ⟨fun hplace => h (.project hplace), rfl⟩
  have hnamed := named_eq_ok_iff.2 ⟨fun hplace => h (.named hplace),
    fun path hfile hplace => h (.missing hfile hplace), rfl⟩
  cases henvironment : Environment.settings s.environment with
  | error e =>
    rcases (exists_settings_error_iff s).1 ⟨e, henvironment⟩ with
      ⟨key, text, flaw, hkey, htext, hflaw⟩ | ⟨text, htext, hfloat⟩
    · exact absurd (.integer hkey htext hflaw) h
    · exact absurd (.real htext hfloat) h
  | ok environment =>
    obtain ⟨settings, hsettings⟩ := exists_ofFields
      ((known_merge_iff hhome hproject hnamed henvironment hdistinct).2 fun key v hgiven =>
        Classical.byContradiction fun hkey => h (.unknown hgiven hkey))
      (by
        rw [funext (get_merge hhome hproject hnamed henvironment hdistinct)]
        exact Classical.byContradiction fun hvalues => h (.values hvalues))
    exact ⟨settings,
      load_eq_ok_iff.2 ⟨_, _, _, _, hhome, hproject, hnamed, henvironment, hsettings⟩⟩

end Refusal

/-- Settings are loaded by precedence. A run has none exactly when a file cannot be read or the
explicit one is missing, a variable of a number is none, a source has an unknown key, or the values
that the sources decide on do not pass. Otherwise these are the values of its settings; a value that
another source overrides is never looked at, nor is a variable for the patterns. -/
theorem load_by_precedence {s : Surroundings} {file : Option Path}
    {overrides : List (String × Value)} (hdistinct : (overrides.map (·.1)).Nodup) :
    ((∃ e, load s file overrides = .error e) ↔ IsRefused s file overrides) ∧
    (∀ settings, load s file overrides = .ok settings →
      settings.values = names.map fun key => (key, valueOf s file overrides key)) ∧
    ∀ vars, (∀ key ∈ names, key ≠ "exclude_patterns" →
        vars.lookup (Environment.variableOf key) =
          s.environment.lookup (Environment.variableOf key)) →
      load { s with environment := vars } file overrides = load s file overrides := by
  refine ⟨⟨?_, ?_⟩, ?_, ?_⟩
  · rintro ⟨e, herror⟩
    refine Classical.byContradiction fun h => ?_
    obtain ⟨settings, hload⟩ := exists_load_of_not_isRefused hdistinct h
    rw [herror] at hload
    cases hload
  · intro h
    cases hload : load s file overrides with
    | error e => exact ⟨e, rfl⟩
    | ok settings => exact absurd h (not_isRefused_of_load hdistinct hload)
  · intro settings h
    obtain ⟨home, project, named, environment, hhome, hproject, hnamed, henvironment, h⟩ :=
      load_eq_ok_iff.1 h
    rw [(ofFields_eq_ok h).2.2]
    simp only [get_merge hhome hproject hnamed henvironment hdistinct]
  · intro vars h
    -- only variables that are read can make a difference
    unfold load
    rw [settings_congr h]
    rfl

/-- A run whose environment asks for a verbosity that there is not. -/
def loudRun : Surroundings where
  disk := ⟨[], [["home"], ["work"]], {}⟩
  home := Path.ofString "/home"
  cwd := Path.ofString "/work"
  environment := [("REQUIRE_OPTIONS_VERBOSITY", "loud")]
  complaint _ := ""

def talkative : List (String × Value) :=
  [("quiet", .bool false), ("verbosity", .str "normal"), ("max_files", .null),
    ("verbose", .bool true)]

/-- The wrong verbosity is refused unless an override takes its place, where the flag goes first. -/
theorem loudRun_by_precedence :
    (∃ settings, load loudRun none talkative = .ok settings ∧
      settings.values = names.map (fun key => (key, valueOf loudRun none talkative key)) ∧
      settings.verbosity = .verbose) ∧
    IsRefused loudRun none [] ∧
    load { loudRun with environment := [("REQUIRE_OPTIONS_EXCLUDE_PATTERNS", "*"),
      ("REQUIRE_OPTIONS_VERBOSITY", "loud")] } none talkative = load loudRun none talkative := by
  have hdistinct : (talkative.map (·.1)).Nodup := by decide
  refine ⟨⟨_, rfl, (load_by_precedence hdistinct).2.1 _ rfl, rfl⟩, ?_, ?_⟩
  · exact (load_by_precedence (by decide)).1.1 ⟨_, rfl⟩
  · refine (load_by_precedence hdistinct).2.2 _ ?_
    decide

end Settings

end ArityLint
