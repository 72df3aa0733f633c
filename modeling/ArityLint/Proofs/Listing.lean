import ArityLint.Collect
import ArityLint.Proofs.Run
import Mathlib.Data.List.Basic

namespace ArityLint

namespace Disk

variable {d : Disk} {l : Location} {cs way : List String}

theorem eq_of_listed? (h : d.listed? l cs = some way) (hopen : d.isShut l way = false) :
    way = cs := by
  induction cs generalizing l way with
  | nil => exact (Option.some.inj h).symm
  | cons c cs ih =>
    unfold listed? at h
    split at h
    · cases h
    · split at h
      · next hsearch =>
        cases h
        rw [isShut, List.dropLast_singleton, List.append_nil, hsearch] at hopen
        cases hopen
      · obtain ⟨rest, hrest, rfl⟩ := Option.map_eq_some_iff.1 h
        -- the listing ends at `c` only with the way, as `c` can be searched
        cases rest with
        | nil =>
          cases cs with
          | nil => rfl
          | cons =>
            unfold listed? at hrest
            split at hrest
            · cases hrest
            · split at hrest
              · cases hrest
              · obtain ⟨_, _, hnil⟩ := Option.map_eq_some_iff.1 hrest
                cases hnil
        | cons name rest =>
          rw [isShut, List.dropLast_cons_of_ne_nil (List.cons_ne_nil _ _), List.append_cons] at hopen
          rw [ih hrest hopen]

theorem isBelow_iff {outer inner : Location} :
    isBelow outer inner = true ↔ ∃ rest, rest ≠ [] ∧ inner = outer ++ rest := by
  rw [isBelow, Bool.and_eq_true, List.isPrefixOf_iff_prefix, decide_eq_true_iff]
  constructor
  · rintro ⟨hlength, rest, rfl⟩
    refine ⟨rest, ?_, rfl⟩
    rintro rfl
    simp at hlength
  · rintro ⟨rest, hne, rfl⟩
    have hlength := List.length_pos_iff.2 hne
    exact ⟨by simpa using hlength, List.prefix_append outer rest⟩

theorem exists_file_of_mem_below (h : way ∈ d.below l) (hopen : d.isShut l way = false) :
    ∃ entry ∈ d.files, entry.1 = l ++ way := by
  have hmem := (List.mergeSort_perm _ _).mem_iff.1 h
  rcases List.mem_append.1 hmem with hfile | hfolder
  · obtain ⟨cs, hcs, hlisted⟩ := List.mem_filterMap.1 hfile
    obtain ⟨location, hlocation, rfl⟩ := List.mem_map.1 hcs
    obtain ⟨hnamed, hbelow⟩ := List.mem_filter.1 hlocation
    obtain ⟨rest, _, rfl⟩ := isBelow_iff.1 hbelow
    obtain ⟨entry, hentry, hname⟩ := List.mem_map.1 hnamed
    rw [eq_of_listed? hlisted hopen, List.drop_left]
    exact ⟨entry, hentry, hname⟩
  · rw [(List.mem_filter.1 hfolder).2] at hopen
    cases hopen

/-- The folder and those below it can be listed and searched. -/
def OpenBelow (d : Disk) (l : Location) : Prop :=
  ∀ rest, d.isFolder (l ++ rest) = true →
    d.isReadable (l ++ rest) = true ∧ d.isSearchable (l ++ rest) = true

theorem listed?_eq (h : d.OpenBelow l)
    (hcs : ∀ front rest, cs = front ++ rest → rest ≠ [] → d.isFolder (l ++ front) = true) :
    d.listed? l cs = some cs := by
  induction cs generalizing l with
  | nil => rfl
  | cons c cs ih =>
    have hfolder := hcs [] (c :: cs) rfl (List.cons_ne_nil c cs)
    obtain ⟨hread, hsearch⟩ := h [] hfolder
    rw [List.append_nil] at hread hsearch
    have hdown : d.OpenBelow (l ++ [c]) := fun rest => by
      simpa only [List.append_assoc] using h ([c] ++ rest)
    have hrest : d.listed? (l ++ [c]) cs = some cs := by
      refine ih hdown fun front rest hcut hne => ?_
      rw [List.append_assoc]
      exact hcs (c :: front) rest (congrArg (c :: ·) hcut) hne
    unfold listed?
    rw [hread, hsearch, hrest]
    rfl

theorem ways_eq (h : d.OpenBelow l) {locations : List Location}
    (hfolders : ∀ k ∈ locations, ∀ front rest, k = front ++ rest → rest ≠ [] →
      d.isFolder front = true) :
    d.ways l locations = (locations.filter (isBelow l)).map (·.drop l.length) := by
  unfold ways
  refine (List.filterMap_congr fun way hway => ?_).trans List.filterMap_some
  obtain ⟨location, hlocation, rfl⟩ := List.mem_map.1 hway
  obtain ⟨hmem, hbelow⟩ := List.mem_filter.1 hlocation
  obtain ⟨rest, _, rfl⟩ := isBelow_iff.1 hbelow
  rw [List.drop_left]
  refine listed?_eq h fun front rest' hcut hne => ?_
  exact hfolders _ hmem (l ++ front) rest' (by rw [hcut, List.append_assoc]) hne

theorem isFolder_of_file {front rest : List String} (h : front ++ rest ∈ d.files.map (·.1))
    (hne : rest ≠ []) : d.isFolder front = true := by
  obtain ⟨entry, hentry, hname⟩ := List.mem_map.1 h
  unfold isFolder
  rw [Bool.or_eq_true, List.any_eq_true]
  exact .inr ⟨entry, hentry, isBelow_iff.2 ⟨rest, hne, hname⟩⟩

theorem isFolder_of_folder {front rest : List String} (h : front ++ rest ∈ d.folders) :
    d.isFolder front = true := by
  unfold isFolder
  rw [Bool.or_eq_true, Bool.or_eq_true, List.any_eq_true]
  exact .inl (.inr ⟨_, h, List.isPrefixOf_iff_prefix.2 (List.prefix_append front rest)⟩)

theorem isShut_of_mem_ways (h : d.OpenBelow l) {locations : List Location}
    (hfolders : ∀ k ∈ locations, ∀ front rest, k = front ++ rest → rest ≠ [] →
      d.isFolder front = true) (hway : way ∈ d.ways l locations) : d.isShut l way = false := by
  rw [ways_eq h hfolders] at hway
  obtain ⟨location, hlocation, rfl⟩ := List.mem_map.1 hway
  obtain ⟨hmem, hbelow⟩ := List.mem_filter.1 hlocation
  obtain ⟨rest, hne, rfl⟩ := isBelow_iff.1 hbelow
  rw [List.drop_left]
  -- the folder that the entry is in is a part of the way, so it is open
  have hfolder : d.isFolder (l ++ rest.dropLast) = true := by
    refine hfolders _ hmem _ [rest.getLast hne] ?_ (List.cons_ne_nil _ _)
    rw [List.append_assoc, List.dropLast_concat_getLast]
  rw [isShut, (h _ hfolder).2]
  rfl

theorem below_eq_ways (h : d.OpenBelow l) :
    d.below l = (d.ways l (d.files.map (·.1))).mergeSort componentsLe := by
  have hshut : (d.ways l d.folders).filter (d.isShut l) = [] :=
    List.filter_eq_nil_iff.2 fun way hway => Bool.eq_false_iff.1
      (isShut_of_mem_ways h (fun k hk front rest hcut _ => isFolder_of_folder (hcut ▸ hk)) hway)
  rw [below, hshut, List.append_nil]

theorem below_eq (h : d.OpenBelow l) :
    d.below l = (((d.files.map (·.1)).filter (isBelow l)).map (·.drop l.length)).mergeSort
        componentsLe ∧
      ∀ way ∈ d.below l, d.isShut l way = false := by
  have hfolders : ∀ k ∈ d.files.map (·.1), ∀ front rest, k = front ++ rest → rest ≠ [] →
      d.isFolder front = true := fun k hk front rest hcut => isFolder_of_file (hcut ▸ hk)
  rw [below_eq_ways h]
  refine ⟨by rw [ways_eq h hfolders], fun way hway => ?_⟩
  exact isShut_of_mem_ways h hfolders ((List.mergeSort_perm _ _).mem_iff.1 hway)

end Disk

namespace Collect

theorem mem_search {d : Disk} {p : Path} {l : Location} {f : Found} (h : f ∈ search d p l)
    (hopen : f.shut = false) :
    ∃ relative, f.path = ⟨p.anchor, p.parts ++ relative⟩ ∧ f.location = l ++ relative ∧
      ∃ entry ∈ d.files, entry.1 = l ++ relative := by
  obtain ⟨relative, hrelative, rfl⟩ := List.mem_map.1 h
  exact ⟨relative, rfl, rfl, Disk.exists_file_of_mem_below hrelative hopen⟩

/-- A property of hauls that outlasts the limit and the taking of files with `Q`. -/
structure Haul.Keeps (I : Haul → Prop) (Q : Path → Location → Prop) : Prop where
  full : ∀ h : Haul, I h → I { h with full := true }
  take : ∀ (h : Haul) p l, I h → Q p l → l ∉ h.seen →
    I { h with files := h.files ++ [p], seen := h.seen ++ [l] }

section Keeps

variable {s : Settings} {I : Haul → Prop} {Q : Path → Location → Prop} (hI : Haul.Keeps I Q)
include hI

theorem ends_add {P : Error → Prop} {path : Path} {l : Location} {h : Haul} (hh : I h)
    (hpath : Q path l) : (h.add s path l).Ends P I := by
  unfold Haul.add
  split
  · exact (LintM.ends_log _ _ _).bind fun _ _ => meets_pure (hI.full h hh)
  · split
    · exact meets_pure hh
    · next hnew => exact meets_pure (hI.take h path l hh hpath (by simpa using hnew))

theorem ends_addFound {fs : List Found} {h : Haul} (hh : I h)
    (hfs : ∀ f ∈ fs, f.shut = false → Q f.path f.location) :
    (addFound s fs h).Ends (fun _ => True) I := by
  induction fs generalizing h with
  | nil => exact meets_pure hh
  | cons f fs ih =>
    obtain ⟨hf, hfs⟩ := List.forall_mem_cons.1 hfs
    have hadmits : (admits s f).Ends (fun _ => True) fun _ => True :=
      ⟨fun _ _ _ _ _ => ⟨trivial, trivial⟩, fun _ _ _ _ _ => ⟨trivial, trivial⟩⟩
    unfold addFound
    cases hshut : f.shut with
    | true => exact (meets_throw (Q := fun _ => False) trivial).bind fun _ => False.elim
    | false =>
      refine hadmits.bind fun admitted _ => ?_
      split
      · refine (ends_add hI hh (hf hshut)).bind fun h' hh' => ?_
        split
        · exact meets_pure hh'
        · exact ih hh' hfs
      · exact ih hh hfs

theorem ends_addPaths {d : Disk} {cwd : Location}
    (hnamed : ∀ p l, d.lookUp cwd p = .found l → Q p l)
    (hfound : ∀ p l, d.lookUp cwd p = .found l → ∀ f ∈ search d p l, f.shut = false →
      Q f.path f.location)
    {paths : List Path} {h : Haul} (hh : I h) :
    (addPaths d cwd s paths h).Ends (fun _ => True) I := by
  induction paths generalizing h with
  | nil => exact meets_pure hh
  | cons p ps ih =>
    unfold addPaths
    split
    case h_5 l hl =>
      split
      · split
        · exact (LintM.ends_log _ _ _).bind fun _ _ => ih hh
        · refine (ends_add hI hh (hnamed p l hl)).bind fun h' hh' => ?_
          split
          · exact meets_pure hh'
          · exact ih hh'
      · refine (ends_addFound hI hh (hfound p l hl)).bind fun h' hh' => ?_
        split
        · exact meets_pure hh'
        · exact ih hh'
    all_goals exact meets_throw trivial

end Keeps

end Collect

end ArityLint
