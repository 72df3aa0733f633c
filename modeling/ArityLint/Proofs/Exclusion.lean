import ArityLint.Proofs.Collection

namespace ArityLint

theorem splitSlashes_append {cs : List Char} (h : '/' ∉ cs) (rest : List Char) :
    splitSlashes (cs ++ '/' :: rest) = cs :: splitSlashes rest := by
  induction cs with
  | nil => rfl
  | cons c cs ih =>
    obtain ⟨hc, hcs⟩ := List.ne_and_not_mem_of_not_mem_cons h
    rw [List.cons_append, splitSlashes, if_neg (Ne.symm hc), ih hcs]

namespace Path

structure IsName (name : String) : Prop where
  ne_empty : name ≠ ""
  ne_dot : name ≠ "."
  no_slash : '/' ∉ name.toList

instance (name : String) : Decidable (IsName name) :=
  decidable_of_iff (name ≠ "" ∧ name ≠ "." ∧ '/' ∉ name.toList)
    ⟨fun h => ⟨h.1, h.2.1, h.2.2⟩, fun h => ⟨h.ne_empty, h.ne_dot, h.no_slash⟩⟩

def folderPattern (name : String) : String := name ++ "/*"

theorem ofString_folderPattern {name : String} (h : IsName name) :
    ofString (folderPattern name) = ⟨.relative, [name, "*"]⟩ := by
  have hcs : (folderPattern name).toList = name.toList ++ '/' :: ['*'] := by
    rw [folderPattern, String.toList_append]
    rfl
  have hcomponents : components (folderPattern name).toList = [name, "*"] := by
    rw [components, hcs, splitSlashes_append h.no_slash]
    simp [splitSlashes, h.ne_empty, h.ne_dot]
  have hslashes : (folderPattern name).toList.takeWhile (· = '/') = [] := by
    rw [hcs]
    cases hname : name.toList with
    | nil => exact absurd (String.toList_eq_nil_iff.1 hname) h.ne_empty
    | cons c cs =>
      have hc : c ≠ '/' := by
        rintro rfl
        exact h.no_slash (hname ▸ List.mem_cons_self)
      simp [hc]
  simp only [ofString, hcomponents, hslashes]
  rfl

theorem matchesPart_star (part : String) : matchesPart "*" part := by
  have hpieces : Glob.pieces "*".toList = [.star] := by
    simp [Glob.pieces]
  rw [matchesPart, hpieces]
  induction part.toList with
  | nil => simp [Glob.isMatch]
  | cons c cs ih => simp [Glob.isMatch, ih]

theorem isMatch_star {ps : List Glob.Piece} {cs : List Char} (h : Glob.isMatch ps cs) :
    Glob.isMatch (.star :: ps) cs := by
  cases cs with
  | nil => rwa [Glob.isMatch]
  | cons c cs => rw [Glob.isMatch, h, Bool.true_or]

theorem isMatch_pieces_self {cs : List Char} (h : '[' ∉ cs) :
    Glob.isMatch (Glob.pieces cs) cs := by
  induction cs with
  | nil => simp [Glob.pieces, Glob.isMatch]
  | cons c cs ih =>
    obtain ⟨hc, hcs⟩ := List.ne_and_not_mem_of_not_mem_cons h
    have ih := ih hcs
    unfold Glob.pieces
    split
    · next heq => cases heq
    · next heq =>
      cases heq
      rw [Glob.isMatch, isMatch_star ih, Bool.or_true]
    · next heq =>
      cases heq
      simp [Glob.isMatch, Glob.Piece.admits, ih]
    · next heq => exact absurd (List.cons.inj heq).1.symm hc
    · next heq =>
      cases heq
      simp [Glob.isMatch, Glob.Piece.admits, ih]

/-- The pattern of a folder matches exactly the paths whose last component but one it names. -/
theorem fits_folderPattern_iff {name : String} (h : IsName name) (p : Path) :
    p.fits (ofString (folderPattern name)) ↔
      ∃ above inner file, p.steps = above ++ [inner, file] ∧ matchesPart name inner := by
  rw [ofString_folderPattern h]
  unfold fits
  constructor
  · intro hfits
    have hlength := p.steps.length_reverse
    rw [← hlength] at hfits
    rcases hsteps : p.steps.reverse with _ | ⟨file, _ | ⟨inner, above⟩⟩
    · simp [hsteps] at hfits
    · simp [hsteps] at hfits
    · rw [hsteps] at hfits
      have hinner : matchesPart name inner := by simp_all
      rw [List.reverse_eq_iff, List.reverse_cons, List.reverse_cons, List.append_assoc] at hsteps
      exact ⟨above.reverse, inner, file, hsteps, hinner⟩
  · rintro ⟨above, inner, file, hsteps, hinner⟩
    simp [hsteps, matchesPart_star, hinner]

end Path

namespace Collect

open LintM ArityLint.Path

variable {s : Settings} {patterns : List Value} {v : Value}

/-- No file is let through that one of the patterns matches, whatever the other patterns are. -/
theorem isExcluded_ne_false {relative path : Path} (hv : v ∈ patterns)
    (hfits : relative.fitsValue v = .ok true) : isExcluded relative path patterns ≠ .ok false := by
  induction patterns with
  | nil => cases hv
  | cons w patterns ih =>
    rw [isExcluded]
    rcases List.mem_cons.1 hv with rfl | hv
    · rw [hfits]
      intro h
      cases h
    · intro h
      obtain ⟨b, -, h⟩ := Except.bind_eq_ok h
      split at h
      · cases h
      · obtain ⟨b, -, h⟩ := Except.bind_eq_ok h
        split at h
        · cases h
        · exact ih hv h

theorem ends_admits {f : Found} (hpatterns : patternsOf s.excludePatterns = .ok patterns)
    (hv : v ∈ patterns) (hfits : (Path.mk .relative f.relative).fitsValue v = .ok true) :
    (admits s f).Ends (fun _ => True) (· = false) := by
  have hfault : ∀ {α : Type} (r : Except Fault α),
      (ofFault r).Ends (fun _ => True) fun a => r = .ok a := fun r =>
    (yields_ofFault r).ends (fun a ha => Except.mapError_eq_ok.1 ha) fun _ _ => trivial
  unfold admits
  split
  · exact meets_pure rfl
  · refine (hfault _).bind fun patterns' h => ?_
    cases hpatterns.symm.trans h
    refine (hfault _).bind fun excluded h => ?_
    cases excluded with
    | true => exact (ends_log _ _ _).bind fun _ _ => meets_pure rfl
    | false => exact absurd h (isExcluded_ne_false hv hfits)

theorem ends_addFound_of_admits {I : Haul → Prop} {Q : Path → Location → Prop}
    (hI : Haul.Keeps I Q) {fs : List Found} {h : Haul} (hh : I h)
    (hfs : ∀ f ∈ fs, (admits s f).Ends (fun _ => True)
      fun admitted => admitted → Q f.path f.location) :
    (addFound s fs h).Ends (fun _ => True) I := by
  induction fs generalizing h with
  | nil => exact meets_pure hh
  | cons f fs ih =>
    obtain ⟨hf, hfs⟩ := List.forall_mem_cons.1 hfs
    unfold addFound
    cases f.shut with
    | true => exact (meets_throw (Q := fun _ => False) trivial).bind fun _ => False.elim
    | false =>
      refine hf.bind fun admitted hadmitted => ?_
      split
      · next hyes =>
        refine (ends_add hI hh (hadmitted hyes)).bind fun h' hh' => ?_
        split
        · exact meets_pure hh'
        · exact ih hh' hfs
      · exact ih hh hfs

theorem keeps_notMem (p : Path) : Haul.Keeps (fun h => p ∉ h.files) fun q _ => q ≠ p where
  full _ hh := hh
  take h q _ hh hq _ := by
    rw [List.mem_append, List.mem_singleton]
    exact not_or.2 ⟨hh, hq.symm⟩

theorem relative_eq_of_join_eq {p : Path} {relative relative' : List String}
    (h : p.join ⟨.relative, relative⟩ = p.join ⟨.relative, relative'⟩) : relative = relative' :=
  List.append_cancel_left (Path.mk.inj h).2

variable {d : Disk} {cwd folder : Location} {p : Path}

/-- What is not admitted below a folder is not collected by a search of the folder. -/
theorem ends_collect_notMem (hlookup : d.lookUp cwd p = .found folder)
    (hfolder : d.isFile folder = false) {q : Path}
    (hfound : ∀ f ∈ search d p folder, (admits s f).Ends (fun _ => True)
      fun admitted => admitted → f.path ≠ q) :
    (collect d cwd s [p]).Ends (fun _ => True) fun files => q ∉ files := by
  have hpaths : (addPaths d cwd s [p] {}).Ends (fun _ => True) fun h => q ∉ h.files := by
    unfold addPaths
    rw [hlookup]
    dsimp only
    rw [if_neg (by simp [hfolder])]
    refine (ends_addFound_of_admits (keeps_notMem q) List.not_mem_nil hfound).bind fun h hh => ?_
    split
    · exact meets_pure hh
    · exact meets_pure hh
  exact hpaths.bind fun _ hh => meets_pure hh

/-- A pattern that matches the components of a file below the searched folder keeps the file out. -/
theorem ends_collect_of_fits (hlookup : d.lookUp cwd p = .found folder)
    (hfolder : d.isFile folder = false) (hpatterns : patternsOf s.excludePatterns = .ok patterns)
    (hv : v ∈ patterns) {relative : List String}
    (hfits : (Path.mk .relative relative).fitsValue v = .ok true) :
    (collect d cwd s [p]).Ends (fun _ => True) fun files =>
      p.join ⟨.relative, relative⟩ ∉ files := by
  refine ends_collect_notMem hlookup hfolder fun f hf => ?_
  have hpath : f.path = p.join ⟨.relative, f.relative⟩ := by
    obtain ⟨_, -, rfl⟩ := List.mem_map.1 hf
    rfl
  by_cases hsame : f.relative = relative
  · subst hsame
    refine (ends_admits hpatterns hv hfits).imp ?_
    rintro _ rfl ⟨⟩
  · rw [hpath]
    have hother : p.join ⟨.relative, f.relative⟩ ≠ p.join ⟨.relative, relative⟩ :=
      mt relative_eq_of_join_eq hsame
    exact ⟨fun _ _ _ _ _ => ⟨trivial, fun _ => hother⟩, fun _ _ _ _ _ => ⟨trivial, trivial⟩⟩

end Collect

open Collect LintM ArityLint.Path

/-- A search of a folder never collects a file that lies directly in a folder with a pattern of its
own, however deep that folder lies, and whatever the other settings say. Such a pattern says nothing
about files that lie deeper: it matches a path by the last two components alone. -/
theorem collect_leaves_out {d : Disk} {cwd folder : Location} {s : Settings} {p : Path}
    {patterns : List Value} {name : String} (hlookup : d.lookUp cwd p = .found folder)
    (hfolder : d.isFile folder = false) (hpatterns : patternsOf s.excludePatterns = .ok patterns)
    (hpattern : .str (folderPattern name) ∈ patterns) (hname : IsName name)
    (hself : matchesPart name name) :
    (∀ session files after, (collect d cwd s [p]).exec session = (.ok files, after) →
      ∀ above file, p.join ⟨.relative, above ++ [name, file]⟩ ∉ files) ∧
    ∀ q : Path, q.fits (Path.ofString (folderPattern name)) ↔
      ∃ above inner file, q.steps = above ++ [inner, file] ∧ matchesPart name inner := by
  refine ⟨fun session files after hexec above file => ?_, fits_folderPattern_iff hname⟩
  have hnamed : (Path.ofString (folderPattern name)).anchor ≠ .relative ∨
      (Path.ofString (folderPattern name)).parts ≠ [] := by
    rw [ofString_folderPattern hname]
    exact .inr (List.cons_ne_nil _ _)
  have hfits : (Path.mk .relative (above ++ [name, file])).fitsValue (.str (folderPattern name)) =
      .ok true := by
    rw [fitsValue_str hnamed,
      (fits_folderPattern_iff hname _).2 ⟨above, name, file, rfl, hself⟩]
  have hout := ends_collect_of_fits hlookup hfolder hpatterns hpattern hfits
  exact (hout.ok session files after trivial hexec).2

section Instances

/-- A build folder below the searched folder with a file further down, and another one two levels
down with a file directly in it. -/
def builtSite : Disk where
  files := [(["app", "dist", "assets", "deep.js"], .empty),
    (["app", "web", "dist", "near.js"], .empty)]
  folders := []

/-- Settings with the patterns that hold when none are given. -/
def usualSettings : Settings where
  excludePatterns := .arr (Settings.defaultPatterns.map .str)
  maxFileSizeMb := .whole 2
  maxFiles := .whole 10000
  maxFixPasses := .whole 10
  format := .stylish
  verbosity := .normal

def siteFolder : Path := ⟨.relative, ["app"]⟩

theorem lookUp_siteFolder : builtSite.lookUp [] siteFolder = .found ["app"] := rfl

theorem openBelow_builtSite (l : Location) : builtSite.OpenBelow l := fun _ _ => ⟨rfl, rfl⟩

theorem below_builtSite :
    builtSite.below ["app"] = [["dist", "assets", "deep.js"], ["web", "dist", "near.js"]] := by
  have hsorted : [["dist", "assets", "deep.js"], ["web", "dist", "near.js"]].Pairwise
      fun a b => Disk.componentsLe a b := by decide
  exact List.mergeSort_of_pairwise hsorted

theorem exec_collect_builtSite : ∃ after,
    (collect builtSite [] usualSettings [siteFolder]).exec {} =
      (.ok [⟨.relative, ["app", "dist", "assets", "deep.js"]⟩], after) := by
  have hs : usualSettings.Limits 10000 Settings.defaultPatterns 2097152 :=
    ⟨rfl, rfl, by decide +kernel, rfl⟩
  have hopen : ∀ p ∈ [siteFolder], builtSite.IsOpen [] p := by
    refine List.forall_mem_singleton.2 ⟨?_, ?_, fun l _ _ => openBelow_builtSite l⟩
    all_goals
      rw [lookUp_siteFolder]
      exact nofun
  have hexpansion : expansion builtSite [] Settings.defaultPatterns 2097152 siteFolder =
      [(⟨.relative, ["app", "dist", "assets", "deep.js"]⟩,
        ["app", "dist", "assets", "deep.js"])] := by
    have hfolder : builtSite.isFile ["app"] = false := rfl
    rw [expansion, lookUp_siteFolder]
    dsimp only
    rw [hfolder, if_neg Bool.false_ne_true,
      ← filter_search _ _ _ (openBelow_builtSite _), search, below_builtSite]
    decide +kernel
  have hlisting : listing builtSite [] Settings.defaultPatterns 2097152 10000 [siteFolder] =
      [⟨.relative, ["app", "dist", "assets", "deep.js"]⟩] := by
    rw [listing, List.flatMap_singleton, hexpansion]
    rfl
  rcases adds_collect hs hopen with
    ⟨p, ⟨earlier, later, hpaths, hmissing, -⟩, -⟩ | ⟨-, k, -, -, hadds⟩
  · have hp : p ∈ [siteFolder] := hpaths ▸ List.mem_append_right _ List.mem_cons_self
    rw [List.mem_singleton.1 hp, Disk.IsNowhere, lookUp_siteFolder] at hmissing
    rcases hmissing with hmissing | hmissing <;> cases hmissing
  · obtain ⟨parsers, notes, hexec, -⟩ := hadds {}
    rw [hlisting] at hexec
    exact ⟨_, hexec⟩

/-- The file directly in a build folder is left out, two levels below the searched folder. -/
theorem builtSite_leaves_out :
    builtSite.lookUp [] siteFolder = .found ["app"] ∧ builtSite.isFile ["app"] = false ∧
    patternsOf usualSettings.excludePatterns = .ok (Settings.defaultPatterns.map .str) ∧
    (∀ name ∈ ["dist", "build", "coverage", "out"],
      folderPattern name ∈ Settings.defaultPatterns ∧ IsName name ∧ matchesPart name name) ∧
    ["app", "web", "dist", "near.js"] ∈ builtSite.files.map (·.1) ∧
    ∃ files after, (collect builtSite [] usualSettings [siteFolder]).exec {} = (.ok files, after) ∧
      ⟨.relative, ["app", "web", "dist", "near.js"]⟩ ∉ files := by
  have hnames : ∀ name ∈ ["dist", "build", "coverage", "out"],
      folderPattern name ∈ Settings.defaultPatterns ∧ IsName name ∧ matchesPart name name := by
    have hplain : ∀ name ∈ ["dist", "build", "coverage", "out"],
        folderPattern name ∈ Settings.defaultPatterns ∧ IsName name ∧ '[' ∉ name.toList := by decide
    exact fun name hname => ⟨(hplain name hname).1, (hplain name hname).2.1,
      isMatch_pieces_self (hplain name hname).2.2⟩
  obtain ⟨hpattern, hname, hself⟩ := hnames "dist" List.mem_cons_self
  obtain ⟨after, hexec⟩ := exec_collect_builtSite
  have hout := (collect_leaves_out lookUp_siteFolder rfl rfl (List.mem_map_of_mem hpattern) hname
    hself).1 {} _ after hexec ["web"] "near.js"
  exact ⟨lookUp_siteFolder, rfl, rfl, hnames, by decide, _, after, hexec, hout⟩

/-- The file that lies deeper below a build folder is collected, although the folder's pattern is
among those that leave files out. -/
theorem builtSite_collects_deep :
    "dist" ∈ ["dist", "assets", "deep.js"].dropLast ∧
    .str (folderPattern "dist") ∈ Settings.defaultPatterns.map Value.str ∧
    patternsOf usualSettings.excludePatterns = .ok (Settings.defaultPatterns.map .str) ∧
    builtSite.lookUp [] siteFolder = .found ["app"] ∧
    ["dist", "assets", "deep.js"] ∈ builtSite.below ["app"] ∧
    ∃ after, (collect builtSite [] usualSettings [siteFolder]).exec {} =
      (.ok [siteFolder.join ⟨.relative, ["dist", "assets", "deep.js"]⟩], after) := by
  have hbelow : ["dist", "assets", "deep.js"] ∈ builtSite.below ["app"] := by
    rw [below_builtSite]
    exact List.mem_cons_self
  have hpattern : folderPattern "dist" ∈ Settings.defaultPatterns := by decide
  exact ⟨by decide, List.mem_map_of_mem hpattern, rfl, lookUp_siteFolder, hbelow,
    exec_collect_builtSite⟩

end Instances

end ArityLint
