import ArityLint.Proofs.Firsts
import ArityLint.Proofs.Locations
import Mathlib.Data.List.Sort
import Mathlib.Data.String.Basic

namespace ArityLint

namespace LintM

variable {α β : Type} {m : LintM α} {f : α → LintM β} {a : α} {r : Except Error α}
  {q : Except Error β} {record : Record}

/-- The step gives `r` in every session, and `record` is added to the log `k` times. -/
def Adds (record : Record) (m : LintM α) (r : Except Error α) (k : Nat) : Prop :=
  ∀ s, ∃ (parsers : List Language) (notes : List Record),
    exec m s = (r, ⟨parsers, s.log ++ notes⟩) ∧ notes.count record = k

theorem Yields.adds (h : Yields m r) (hrecord : record.level ≠ .debug) : Adds record m r 0 := by
  intro s
  obtain ⟨parsers, notes, he, hd⟩ := h s
  exact ⟨parsers, notes, he, List.count_eq_zero.2 fun hmem => hrecord (hd record hmem)⟩

theorem adds_pure (a : α) : Adds record (pure a) (.ok a) 0 :=
  fun s => ⟨s.parsers, [], by simp, rfl⟩

theorem adds_throw (e : Error) : Adds record (throw e : LintM α) (.error e) 0 :=
  fun s => ⟨s.parsers, [], by rw [List.append_nil]; rfl, rfl⟩

theorem adds_log (level : Level) (channel message : String) :
    Adds ⟨level, channel, message⟩ (log level channel message) (.ok ()) 1 :=
  fun s => ⟨s.parsers, [⟨level, channel, message⟩], by simp, List.count_singleton_self⟩

theorem adds_log_of_ne {level : Level} {channel message : String}
    (h : (⟨level, channel, message⟩ : Record) ≠ record) :
    Adds record (log level channel message) (.ok ()) 0 :=
  fun s => ⟨s.parsers, [⟨level, channel, message⟩], by simp, by
    rw [List.count_singleton, beq_false_of_ne h]; rfl⟩

theorem Adds.bind {j k : Nat} (hm : Adds record m (.ok a) j) (hf : Adds record (f a) q k) :
    Adds record (m >>= f) q (j + k) := by
  intro s
  obtain ⟨parsers, notes, he, hcount⟩ := hm s
  obtain ⟨parsers', notes', he', hcount'⟩ := hf ⟨parsers, s.log ++ notes⟩
  refine ⟨parsers', notes ++ notes', ?_, by rw [List.count_append, hcount, hcount']⟩
  rw [exec_bind, he, ← List.append_assoc]
  exact he'

theorem Adds.bind_error {e : Error} {k : Nat} (hm : Adds record m (.error e) k) :
    Adds record (m >>= f) (.error e) k := by
  intro s
  obtain ⟨parsers, notes, he, hcount⟩ := hm s
  exact ⟨parsers, notes, by rw [exec_bind, he], hcount⟩

theorem Adds.bind_zero {k : Nat} (hm : Adds record m (.ok a) 0) (hf : Adds record (f a) q k) :
    Adds record (m >>= f) q k := by
  have h := hm.bind hf
  rwa [Nat.zero_add] at h

end LintM

namespace Disk

theorem componentsLe_eq : componentsLe = fun a b => decide (a ≤ b) := by
  funext a b
  induction a generalizing b with
  | nil =>
    rw [componentsLe]
    exact (decide_eq_true (not_lt.1 (List.not_lt_nil b))).symm
  | cons x a ih =>
    cases b with
    | nil =>
      rw [componentsLe]
      exact (decide_eq_false (not_le.2 (List.nil_lt_cons x a))).symm
    | cons y b =>
      rw [componentsLe, ih, Bool.eq_iff_iff]
      simp only [Bool.or_eq_true, Bool.and_eq_true, decide_eq_true_iff, le_iff_lt_or_eq,
        List.cons_lt_cons_iff, List.cons.injEq]
      tauto

/-- The path leads nowhere: something on its way is missing or not a folder. -/
def IsNowhere (d : Disk) (cwd : Location) (p : Path) : Prop :=
  d.lookUp cwd p = .missing ∨ d.lookUp cwd p = .notFolder

instance (d : Disk) (cwd : Location) : DecidablePred (d.IsNowhere cwd) :=
  fun _ => inferInstanceAs (Decidable (_ ∨ _))

/-- The path can be looked up, and a folder that it leads to is open with all that is below it. -/
structure IsOpen (d : Disk) (cwd : Location) (p : Path) : Prop where
  short : d.lookUp cwd p ≠ .tooLong
  allowed : d.lookUp cwd p ≠ .refused
  below : ∀ l, d.lookUp cwd p = .found l → d.isFile l = false → d.OpenBelow l

theorem IsOpen.found_of_not_nowhere {d : Disk} {cwd : Location} {p : Path} (h : d.IsOpen cwd p)
    (hp : ¬d.IsNowhere cwd p) : ∃ l, d.lookUp cwd p = .found l := by
  cases hlookup : d.lookUp cwd p with
  | found l => exact ⟨l, rfl⟩
  | missing => exact absurd (.inl hlookup) hp
  | notFolder => exact absurd (.inr hlookup) hp
  | refused => exact absurd hlookup h.allowed
  | tooLong => exact absurd hlookup h.short

end Disk

/-- What the settings have to say to be followed to the letter: a whole number of files, patterns
that name something, and a size that is a number of bytes. -/
structure Settings.Limits (s : Settings) (n : Nat) (texts : List String) (bytes : Int) : Prop where
  files : s.maxFiles.int? = some (n : Int)
  patterns : s.excludePatterns = .arr (texts.map .str)
  named : ∀ pattern ∈ texts,
    (Path.ofString pattern).anchor ≠ .relative ∨ (Path.ofString pattern).parts ≠ []
  size : s.maxFileSizeBytes = .ok bytes

theorem Settings.Limits.reachedBy_eq {s : Settings} {n : Nat} {texts : List String} {bytes : Int}
    (hs : s.Limits n texts bytes) (count : Nat) :
    s.maxFiles.reachedBy count = decide (n ≤ count) := by
  have hfiles := hs.files
  cases hq : s.maxFiles with
  | truth b =>
    rw [hq] at hfiles
    cases b <;> cases hfiles <;> rfl
  | whole k =>
    rw [hq] at hfiles
    cases hfiles
    simp [Quantity.reachedBy]
  | real x =>
    rw [hq] at hfiles
    cases hfiles

namespace Collect

open LintM

/-- A file below a folder is wanted when it has a suffix of a language, no folder on the way to it
is hidden or skipped, no pattern matches it, and it is not too large. -/
def IsWanted (patterns : List String) (bytes : Int) (f : Found) : Prop :=
  (Language.ofPath? f.path).isSome ∧
    (∀ name ∈ f.relative.dropLast, name.toList.head? ≠ some '.' ∧ name ∉ skippedFolders) ∧
    (∀ pattern ∈ patterns, (Path.mk .relative f.relative).fits (Path.ofString pattern) = false ∧
      f.path.fits (Path.ofString pattern) = false) ∧
    (f.size : Int) ≤ bytes

instance (patterns : List String) (bytes : Int) : DecidablePred (IsWanted patterns bytes) :=
  fun _ => inferInstanceAs (Decidable (_ ∧ _))

/-- A file below the folder that `p` leads to, by its components from there. -/
def foundAt (d : Disk) (p : Path) (folder : Location) (relative : List String) : Found :=
  ⟨p.join ⟨.relative, relative⟩, relative, folder ++ relative,
    ((d.file? (folder ++ relative)).map (·.size)).getD 0, false⟩

def Found.candidate (f : Found) : Candidate := (f.path, f.location)

/-- The wanted files below a folder, sorted by their components from there. -/
def wantedBelow (d : Disk) (patterns : List String) (bytes : Int) (p : Path) (folder : Location) :
    List Found :=
  ((((d.files.map (·.1)).filter (Disk.isBelow folder)).map (·.drop folder.length)).filter
    fun relative => IsWanted patterns bytes (foundAt d p folder relative)).mergeSort (· ≤ ·)
    |>.map (foundAt d p folder)

/-- What a path stands for: a file of some language for itself, a folder for the wanted files below
it. -/
def expansion (d : Disk) (cwd : Location) (patterns : List String) (bytes : Int) (p : Path) :
    List Candidate :=
  match d.lookUp cwd p with
  | .found l =>
    if d.isFile l then if (Language.ofPath? p).isSome then [(p, l)] else []
    else (wantedBelow d patterns bytes p l).map Found.candidate
  | _ => []

/-- The first `n` files that the paths stand for, each by the first path to it. -/
def listing (d : Disk) (cwd : Location) (patterns : List String) (bytes : Int) (n : Nat)
    (paths : List Path) : List Path :=
  ((firsts (paths.flatMap (expansion d cwd patterns bytes))).take n).map (·.1)

/-- The path `p` leads nowhere, the paths before it all lead somewhere, and what they stand for does
not reach beyond the limit. -/
def Misses (d : Disk) (cwd : Location) (patterns : List String) (bytes : Int) (n : Nat)
    (paths : List Path) (p : Path) : Prop :=
  ∃ earlier later, paths = earlier ++ p :: later ∧ d.IsNowhere cwd p ∧
    (∀ q ∈ earlier, ¬d.IsNowhere cwd q) ∧
    ¬Overflows n (earlier.flatMap (expansion d cwd patterns bytes))

def limitWarning (s : Settings) : Record :=
  ⟨.warning, Channel.linter, "Reached max files limit (" ++ s.maxFiles.text ++ ")"⟩

theorem adds_unless_full {record : Record} {m : LintM Haul} {k : Haul → LintM Haul} {h : Haul}
    {r : Except Error Haul} {count : Nat} (hm : Adds record m (.ok h) h.full.toNat)
    (hfull : h.full = true → r = .ok h ∧ count = 1)
    (hrest : h.full = false → Adds record (k h) r count) :
    Adds record (do
      let h ← m
      if h.full then return h
      k h) r count := by
  cases hh : h.full with
  | true =>
    obtain ⟨rfl, rfl⟩ := hfull hh
    rw [hh] at hm
    refine hm.bind (k := 0) ?_
    rw [if_pos hh]
    exact adds_pure h
  | false =>
    rw [hh] at hm
    refine hm.bind_zero ?_
    rw [if_neg (by simp [hh])]
    exact hrest hh

section Settings

variable {s : Settings} {n : Nat} {patterns : List String} {bytes : Int}
  (hs : s.Limits n patterns bytes)

theorem fitsValue_str {pattern : String}
    (h : (Path.ofString pattern).anchor ≠ .relative ∨ (Path.ofString pattern).parts ≠ [])
    (p : Path) : p.fitsValue (.str pattern) = .ok (p.fits (Path.ofString pattern)) := by
  have hne : pattern ≠ "" := by
    rintro rfl
    exact h.elim (fun h => h rfl) fun h => h rfl
  unfold Path.fitsValue
  rw [if_neg (by simpa [Value.truthy] using hne)]
  dsimp only
  rw [if_neg (fun hempty => h.elim (fun h => h hempty.1) fun h => h hempty.2)]

theorem isExcluded_eq (relative path : Path) {patterns : List String}
    (h : ∀ pattern ∈ patterns,
      (Path.ofString pattern).anchor ≠ .relative ∨ (Path.ofString pattern).parts ≠ []) :
    isExcluded relative path (patterns.map .str) = .ok (patterns.any fun pattern =>
      relative.fits (Path.ofString pattern) || path.fits (Path.ofString pattern)) := by
  induction patterns with
  | nil => rfl
  | cons pattern patterns ih =>
    obtain ⟨hpattern, h⟩ := List.forall_mem_cons.1 h
    rw [List.map_cons, isExcluded, fitsValue_str hpattern, fitsValue_str hpattern, ih h,
      List.any_cons]
    cases relative.fits (Path.ofString pattern) <;> cases path.fits (Path.ofString pattern) <;> rfl

include hs

theorem yields_admits (f : Found) :
    Yields (admits s f) (.ok (decide (IsWanted patterns bytes f))) := by
  have hpatterns : Yields (ofFault (patternsOf s.excludePatterns)) (.ok (patterns.map .str)) := by
    rw [hs.patterns]
    exact yields_ofFault _
  have hexcluded : Yields
      (ofFault (isExcluded ⟨.relative, f.relative⟩ f.path (patterns.map .str))) (.ok
        (patterns.any fun pattern => (Path.mk .relative f.relative).fits (Path.ofString pattern) ||
          f.path.fits (Path.ofString pattern))) := by
    rw [isExcluded_eq _ _ hs.named]
    exact yields_ofFault _
  have hsize : Yields (ofFault s.maxFileSizeBytes) (.ok bytes) := by
    rw [hs.size]
    exact yields_ofFault _
  -- every way out refuses the file for one of the four reasons not to want it
  have hrefused {m : LintM Bool} (hm : Yields m (.ok false)) (hf : ¬IsWanted patterns bytes f) :
      Yields m (.ok (decide (IsWanted patterns bytes f))) := by
    rwa [decide_eq_false hf]
  unfold admits
  split
  · next hout =>
    refine hrefused (yields_pure false) fun hf => ?_
    rcases Bool.or_eq_true _ _ ▸ hout with hlanguage | hhidden
    · rw [Option.isNone_iff_eq_none] at hlanguage
      rw [IsWanted, hlanguage] at hf
      exact absurd hf.1 (by simp)
    · exact absurd hhidden (by simpa [isHidden, isSkippedFolder] using hf.2.1)
  · next hin =>
    refine hpatterns.bind_ok (hexcluded.bind_ok ?_)
    split
    · next hfits =>
      refine hrefused ((yields_debug _ _).bind_ok (yields_pure false)) fun hf => ?_
      obtain ⟨pattern, hpattern, h⟩ := List.any_eq_true.1 hfits
      simp [hf.2.2.1 pattern hpattern] at h
    · next hfits =>
      refine hsize.bind_ok ?_
      split
      · next hlarge =>
        exact hrefused ((yields_debug _ _).bind_ok (yields_pure false)) fun hf =>
          absurd hf.2.2.2 (not_le.2 hlarge)
      · next hsmall =>
        have hf : IsWanted patterns bytes f := by
          obtain ⟨hlanguage, hhidden⟩ : Language.ofPath? f.path ≠ none ∧
              isHidden f.relative = false := by simpa using hin
          refine ⟨Option.isSome_iff_ne_none.2 hlanguage, ?_, ?_, not_lt.1 hsmall⟩
          · simpa [isHidden, isSkippedFolder] using hhidden
          · simpa using hfits
        rw [decide_eq_true hf]
        exact yields_pure true

theorem adds_add {h : Haul} (hfull : h.full = false) (c : Candidate) :
    Adds (limitWarning s) (h.add s c.1 c.2) (.ok (h.offer n c)) (h.offer n c).full.toNat := by
  unfold Haul.add Haul.offer
  rw [hs.reachedBy_eq, hfull, if_neg Bool.false_ne_true]
  by_cases hn : n ≤ h.files.length
  · rw [if_pos (decide_eq_true hn), if_pos hn]
    exact (adds_log _ _ _).bind (k := 0) (adds_pure _)
  · rw [if_neg (by simpa using hn), if_neg hn]
    by_cases hl : c.2 ∈ h.seen
    · rw [if_pos (List.contains_iff_mem.2 hl), if_pos hl, hfull]
      exact adds_pure h
    · rw [if_neg (by simpa using hl), if_neg hl]
      exact adds_pure _

theorem adds_addFound {h : Haul} (hfull : h.full = false) {fs : List Found}
    (hopen : ∀ f ∈ fs, f.shut = false) :
    Adds (limitWarning s) (addFound s fs h)
      (.ok (((fs.filter fun f => IsWanted patterns bytes f).map Found.candidate).foldl
        (Haul.offer n) h))
      (((fs.filter fun f => IsWanted patterns bytes f).map Found.candidate).foldl
        (Haul.offer n) h).full.toNat := by
  induction fs generalizing h with
  | nil =>
    rw [List.filter_nil, List.map_nil, List.foldl_nil, hfull]
    exact adds_pure h
  | cons f fs ih =>
    obtain ⟨hshut, hopen⟩ := List.forall_mem_cons.1 hopen
    rw [addFound, hshut]
    change Adds _ (admits s f >>= _) _ _
    refine ((yields_admits hs f).adds (by simp [limitWarning])).bind_zero ?_
    rw [List.filter_cons]
    by_cases hf : IsWanted patterns bytes f
    · rw [if_pos (decide_eq_true hf), if_pos (decide_eq_true hf), List.map_cons, List.foldl_cons]
      refine adds_unless_full (adds_add hs hfull f.candidate) (fun h' => ?_) fun h' => ih h' hopen
      rw [foldl_offer_of_full h']
      exact ⟨rfl, congrArg Bool.toNat h'⟩
    · rw [if_neg (by simpa using hf), if_neg (by simpa using hf)]
      exact ih hfull hopen

end Settings

theorem filter_mergeSort (test : List String → Bool) (xs : List (List String)) :
    (xs.mergeSort fun a b => decide (a ≤ b)).filter test =
      (xs.filter test).mergeSort fun a b => decide (a ≤ b) := by
  have hsorted := List.pairwise_mergeSort' (α := List String) (· ≤ ·)
  exact List.Perm.eq_of_pairwise (fun _ _ _ _ => le_antisymm) ((hsorted xs).filter test)
    (hsorted (xs.filter test))
    (((List.mergeSort_perm xs _).filter test).trans (List.mergeSort_perm _ _).symm)

/-- What is found in an open folder: its files, in order, of which nothing is shut. -/
theorem search_eq {d : Disk} {folder : Location} (h : d.OpenBelow folder) (p : Path) :
    search d p folder = (d.below folder).map (foundAt d p folder) := by
  refine List.map_congr_left fun relative hrelative => ?_
  rw [(Disk.below_eq h).2 relative hrelative]
  rfl

theorem filter_search {d : Disk} (patterns : List String) (bytes : Int) (p : Path)
    {folder : Location} (h : d.OpenBelow folder) :
    (search d p folder).filter (fun f => IsWanted patterns bytes f) =
      wantedBelow d patterns bytes p folder := by
  rw [search_eq h, List.filter_map, (Disk.below_eq h).1, Disk.componentsLe_eq, filter_mergeSort,
    wantedBelow, Function.comp_def]

section Paths

variable {d : Disk} {cwd : Location} {s : Settings} {n : Nat} {patterns : List String} {bytes : Int}

theorem prefix_of_append_eq {done rest earlier later : List Path} {p : Path}
    (h : done ++ rest = earlier ++ p :: later) (hp : p ∉ done) : done <+: earlier := by
  rcases List.append_eq_append_iff.1 h with ⟨more, rfl, _⟩ | ⟨more, rfl, hmore⟩
  · exact List.prefix_append done more
  · cases more with
    | nil => exact ⟨[], by simp⟩
    | cons q more =>
      obtain ⟨rfl, -⟩ := List.cons.inj hmore
      exact absurd (List.mem_append_right _ List.mem_cons_self) hp

/-- When the paths `done` stand for too much already, nothing is missed after them. -/
theorem not_misses_of_overflows {done : List Path} (rest : List Path)
    (hdone : ∀ q ∈ done, ¬d.IsNowhere cwd q)
    (hover : Overflows n (done.flatMap (expansion d cwd patterns bytes))) (p : Path) :
    ¬Misses d cwd patterns bytes n (done ++ rest) p := by
  rintro ⟨earlier, later, h, hp, _, hroom⟩
  obtain ⟨more, rfl⟩ := prefix_of_append_eq h fun hmem => hdone p hmem hp
  rw [List.flatMap_append] at hroom
  exact hroom (hover.append _)

/-- A path that leads somewhere offers what it stands for, and the rest follows unless the haul is
full then. -/
theorem adds_addPaths_cons (hs : s.Limits n patterns bytes) {p : Path} {paths : List Path}
    {l : Location} (hlookup : d.lookUp cwd p = .found l) (hopen : d.IsOpen cwd p) {h h' : Haul}
    (hfull : h.full = false)
    (hh' : (expansion d cwd patterns bytes p).foldl (Haul.offer n) h = h') {r : Except Error Haul}
    {count : Nat} (hstop : h'.full = true → r = .ok h' ∧ count = 1)
    (hrest : h'.full = false → Adds (limitWarning s) (addPaths d cwd s paths h') r count) :
    Adds (limitWarning s) (addPaths d cwd s (p :: paths) h) r count := by
  rw [expansion, hlookup] at hh'
  rw [addPaths, hlookup]
  dsimp only at hh' ⊢
  split at hh'
  · next hfile =>
    rw [if_pos hfile]
    split at hh'
    · next hlanguage =>
      subst hh'
      rw [if_neg (by simpa [Option.isSome_iff_ne_none] using hlanguage)]
      exact adds_unless_full (adds_add hs hfull (p, l)) hstop hrest
    · next hlanguage =>
      subst hh'
      rw [if_pos (by simpa using hlanguage)]
      refine (adds_log_of_ne fun heq => ?_).bind_zero (hrest hfull)
      have hhead := congrArg (fun record => record.message.toList.head?) heq
      simp [limitWarning] at hhead
  · next hfolder =>
    rw [if_neg hfolder]
    have hbelow := hopen.below l hlookup (Bool.eq_false_iff.2 hfolder)
    have hshut : ∀ f ∈ search d p l, f.shut = false := by
      rw [search_eq hbelow]
      exact List.forall_mem_map.2 fun _ _ => rfl
    have hfound := adds_addFound hs hfull hshut
    rw [filter_search patterns bytes p hbelow, hh'] at hfound
    exact adds_unless_full hfound hstop hrest

/-- One path after the other, when the haul holds what the paths `done` stand for: either a path is
missed, or the haul holds what all paths stand for. -/
theorem adds_addPaths (hs : s.Limits n patterns bytes) (done : List Path) {paths : List Path}
    (hdone : ∀ q ∈ done, ¬d.IsNowhere cwd q)
    (hopen : ∀ q ∈ paths, d.IsOpen cwd q) {h : Haul}
    (hh : h.Holds n (done.flatMap (expansion d cwd patterns bytes))) (hfull : h.full = false) :
    (∃ p, Misses d cwd patterns bytes n (done ++ paths) p ∧
      Adds (limitWarning s) (addPaths d cwd s paths h)
        (.error (.failure (.invalidPath p "does not exist"))) 0) ∨
    ((∀ p, ¬Misses d cwd patterns bytes n (done ++ paths) p) ∧
      ∃ h' : Haul, h'.Holds n ((done ++ paths).flatMap (expansion d cwd patterns bytes)) ∧
        Adds (limitWarning s) (addPaths d cwd s paths h) (.ok h') h'.full.toNat) := by
  induction paths generalizing done h with
  | nil =>
    rw [List.append_nil]
    refine .inr ⟨?_, h, hh, ?_⟩
    · rintro p ⟨earlier, later, heq, hp, _⟩
      exact hdone p (heq ▸ List.mem_append_right _ List.mem_cons_self) hp
    · rw [hfull]
      exact adds_pure h
  | cons p paths ih =>
    obtain ⟨hp, hopen⟩ := List.forall_mem_cons.1 hopen
    -- such a path is met before the haul is full, so it is the one that is missed
    by_cases hnowhere : d.IsNowhere cwd p
    · refine .inl ⟨p, ⟨done, paths, rfl, hnowhere, hdone, fun hover => ?_⟩, ?_⟩
      · rw [hh.full.2 hover] at hfull
        cases hfull
      · rw [addPaths]
        rcases hnowhere with hlookup | hlookup
        all_goals
          rw [hlookup]
          exact adds_throw _
    · obtain ⟨l, hlookup⟩ := hp.found_of_not_nowhere hnowhere
      have hdone' : ∀ q ∈ done ++ [p], ¬d.IsNowhere cwd q := by
        intro q hq
        rcases List.mem_append.1 hq with hq | hq
        · exact hdone q hq
        · rwa [List.mem_singleton.1 hq]
      have hh' := hh.foldl_offer (expansion d cwd patterns bytes p)
      have hflat : done.flatMap (expansion d cwd patterns bytes) ++
          expansion d cwd patterns bytes p =
            (done ++ [p]).flatMap (expansion d cwd patterns bytes) := by simp
      rw [hflat] at hh'
      rw [List.append_cons]
      generalize hoffer : (expansion d cwd patterns bytes p).foldl (Haul.offer n) h = h' at hh'
      -- a full haul ends the run, so that no later path is missed
      cases hfull' : h'.full with
      | true =>
        refine .inr ⟨not_misses_of_overflows paths hdone' (hh'.full.1 hfull'), h', ?_, ?_⟩
        · rw [List.flatMap_append]
          exact hh'.append_of_full hfull' _
        · refine adds_addPaths_cons hs hlookup hp hfull hoffer (fun _ => ⟨rfl, congrArg _ hfull'⟩) ?_
          intro hnot
          rw [hfull'] at hnot
          cases hnot
      | false =>
        have hadds {r : Except Error Haul} {count : Nat}
            (hrest : Adds (limitWarning s) (addPaths d cwd s paths h') r count) :
            Adds (limitWarning s) (addPaths d cwd s (p :: paths) h) r count := by
          refine adds_addPaths_cons hs hlookup hp hfull hoffer ?_ fun _ => hrest
          intro hnot
          rw [hfull'] at hnot
          cases hnot
        rcases ih _ hdone' hopen hh' hfull' with ⟨q, hq, hrest⟩ | ⟨hall, h'', hh'', hrest⟩
        · exact .inl ⟨q, hq, hadds hrest⟩
        · exact .inr ⟨hall, h'', hh'', hadds hrest⟩

theorem Misses.unique {paths : List Path} {p q : Path}
    (hp : Misses d cwd patterns bytes n paths p) (hq : Misses d cwd patterns bytes n paths q) :
    p = q := by
  obtain ⟨before, after, rfl, hmissing, hbefore, _⟩ := hp
  obtain ⟨before', after', h, hmissing', hbefore', _⟩ := hq
  have hprefix := prefix_of_append_eq h fun hmem => hbefore q hmem hmissing'
  have hprefix' := prefix_of_append_eq h.symm fun hmem => hbefore' p hmem hmissing
  obtain rfl := hprefix.eq_of_length_le hprefix'.length_le
  exact (List.cons.inj (List.append_cancel_left h)).1

theorem adds_collect (hs : s.Limits n patterns bytes) {paths : List Path}
    (hopen : ∀ q ∈ paths, d.IsOpen cwd q) :
    (∃ p, Misses d cwd patterns bytes n paths p ∧ Adds (limitWarning s) (collect d cwd s paths)
      (.error (.failure (.invalidPath p "does not exist"))) 0) ∨
    ((∀ p, ¬Misses d cwd patterns bytes n paths p) ∧ ∃ k ≤ 1,
      (k = 1 ↔ Overflows n (paths.flatMap (expansion d cwd patterns bytes))) ∧
      Adds (limitWarning s) (collect d cwd s paths)
        (.ok (listing d cwd patterns bytes n paths)) k) := by
  rcases adds_addPaths hs [] nofun hopen (Haul.Holds.nil n) rfl with
    ⟨p, hp, hadds⟩ | ⟨hall, h, hh, hadds⟩
  · exact .inl ⟨p, hp, hadds.bind_error⟩
  · refine .inr ⟨hall, h.full.toNat, Bool.toNat_le h.full, Bool.toNat_eq_one.trans hh.full, ?_⟩
    have hfiles : h.files = listing d cwd patterns bytes n paths := hh.files
    rw [← hfiles]
    exact hadds.bind (f := fun h => pure h.files) (k := 0) (adds_pure h.files)

end Paths

end Collect

open Collect LintM

section Instances

end Instances

end ArityLint
