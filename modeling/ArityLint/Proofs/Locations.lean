import ArityLint.Proofs.Survival

namespace ArityLint

namespace Disk

variable {d d' : Disk}

/-- The same files and folders under the same restrictions, whatever the files hold. -/
structure SameNames (d d' : Disk) : Prop where
  files : d.files.map (·.1) = d'.files.map (·.1)
  folders : d.folders = d'.folders
  restrictions : d.restrictions = d'.restrictions

theorem SameNames.refl (d : Disk) : d.SameNames d := ⟨rfl, rfl, rfl⟩

theorem SameNames.trans {d'' : Disk} (h : d.SameNames d') (h' : d'.SameNames d'') :
    d.SameNames d'' :=
  ⟨h.files.trans h'.files, h.folders.trans h'.folders, h.restrictions.trans h'.restrictions⟩

theorem isFile_eq_contains (d : Disk) (l : Location) :
    d.isFile l = (d.files.map (·.1)).contains l := by
  unfold isFile file?
  induction d.files with
  | nil => rfl
  | cons entry rest ih =>
    rw [List.lookup_cons, List.map_cons, List.contains_cons, ← ih]
    cases l == entry.1 <;> rfl

theorem SameNames.isFile (h : d.SameNames d') (l : Location) : d.isFile l = d'.isFile l := by
  rw [isFile_eq_contains, isFile_eq_contains, h.files]

theorem isFolder_eq_any (d : Disk) (l : Location) :
    d.isFolder l = (l.isEmpty || d.folders.any (fun f => l.isPrefixOf f) ||
      (d.files.map (·.1)).any (isBelow l)) := by
  rw [List.any_map]
  rfl

theorem SameNames.isFolder (h : d.SameNames d') (l : Location) : d.isFolder l = d'.isFolder l := by
  rw [isFolder_eq_any, isFolder_eq_any, h.files, h.folders]

theorem SameNames.isSearchable (h : d.SameNames d') (l : Location) :
    d.isSearchable l = d'.isSearchable l := by
  rw [Disk.isSearchable, Disk.isSearchable, h.restrictions]

theorem SameNames.follow (h : d.SameNames d') (l : Location) (cs : List String) :
    d.follow l cs = d'.follow l cs := by
  induction cs generalizing l with
  | nil =>
    unfold Disk.follow isThere
    rw [h.isFile, h.isFolder]
  | cons c cs ih =>
    unfold Disk.follow
    rw [h.isFolder, h.isFile, h.isSearchable, ih]

theorem SameNames.lookUp (h : d.SameNames d') (cwd : Location) (p : Path) :
    d.lookUp cwd p = d'.lookUp cwd p := by
  unfold Disk.lookUp
  rw [h.follow]

theorem map_fst_insert {entries : List (Location × ByteArray)} {l : Location} (bytes : ByteArray)
    (h : l ∈ entries.map (·.1)) : (insert entries l bytes).map (·.1) = entries.map (·.1) := by
  induction entries with
  | nil => cases h
  | cons entry rest ih =>
    obtain ⟨k, old⟩ := entry
    unfold insert
    split
    · rfl
    · next hk =>
      have hrest := (List.mem_cons.1 h).resolve_left (Ne.symm hk)
      rw [List.map_cons, List.map_cons, ih hrest]

theorem sameNames_write {l : Location} {old : ByteArray} (h : d.file? l = some old)
    (bytes : ByteArray) : (d.write l bytes).SameNames d where
  files := by
    have hfile : d.isFile l = true := by rw [isFile, h, Option.isSome_some]
    rw [isFile_eq_contains, List.contains_iff_mem] at hfile
    exact map_fst_insert bytes hfile
  folders := rfl
  restrictions := rfl

def Apart (d : Disk) (cwd : Location) (p q : Path) : Prop :=
  ∀ l, d.lookUp cwd p = .found l → d.lookUp cwd q ≠ .found l

end Disk

namespace Collect

variable {d : Disk} {cwd : Location}

end Collect

end ArityLint
