import ArityLint.Proofs.Brackets
import ArityLint.Proofs.Defaults
import ArityLint.Proofs.Fields

namespace ArityLint

open Brackets

structure Declaration where
  name : String
  defaultText : Option String := none
  typeText : Option String := none
  optional : Bool := false
  literalKind : Option String := none

/-- Simple, defaulted and promoted parameters declare a name. -/
def Parameter.declaration? : Parameter → Option Declaration
  | .simple _ (.str name) typeText optional | .promoted _ (.str name) typeText optional _ =>
    some { name, typeText, optional }
  | .defaulted _ (.str name) defaultText typeText literalKind =>
    some { name, defaultText, typeText, literalKind }
  | _ => none

/-- What is said of a name in the type of an options object. -/
structure Member where
  name : String
  optional : Bool
  type : String
  deriving DecidableEq

namespace Declaration

def typeOfKind : Option String → String
  | some "string" => "string"
  | some "number" => "number"
  | some "boolean" => "boolean"
  | _ => "any"

/-- What is written as the type: the annotation, or else what a literal default tells. -/
def shownType (d : Declaration) : String := d.typeText.getD (typeOfKind d.literalKind)

def member (d : Declaration) : Member :=
  ⟨d.name, d.defaultText.isSome || d.optional, d.shownType⟩

/-- Nothing that is declared looks like what stands around it. -/
structure IsPlain (d : Declaration) : Prop where
  /-- No name has a character that marks off names, as no identifier has. -/
  name : Balanced d.name.toList ∧ ∀ c ∈ [' ', ',', ';', ':', '?'], c ∉ d.name.toList
  defaultText : ∀ t ∈ d.defaultText, IsPiece ',' t.toList
  typeText : ∀ t ∈ d.typeText, t ≠ "" ∧ IsPiece ';' t.toList

end Declaration

/-- Names with their defaults, and what is said of them in the type if there is one. -/
structure OptionsObject where
  entries : List (String × Option String)
  members : Option (List Member)
  deriving DecidableEq

namespace OptionsObject

def readEntry (cs : List Char) : String × Option String :=
  match cutAt [' ', '=', ' '] cs with
  | some (name, defaultText) => (.ofList name, some (.ofList defaultText))
  | none => (.ofList cs, none)

def readMember? (cs : List Char) : Option Member :=
  (cutAt [':', ' '] cs).map fun (name, type) =>
    if name.getLast? = some '?' then ⟨.ofList name.dropLast, true, .ofList type⟩
    else ⟨.ofList name, false, .ofList type⟩

/-- Reads a block of entries, and after a colon one of members. -/
def read? (text : String) : Option OptionsObject := do
  let (entries, after) ← block? text.toList
  let entries := (splitOutside ',' [] entries).map readEntry
  match after with
  | [] => some ⟨entries, none⟩
  | ':' :: ' ' :: cs =>
    let (types, rest) ← block? cs
    let members ← (splitOutside ';' [] types).mapM readMember?
    if rest.isEmpty then some ⟨entries, some members⟩ else none
  | _ => none

def ofDeclarations (ds : List Declaration) : OptionsObject where
  entries := ds.map fun d => (d.name, d.defaultText)
  members :=
    if ds.any (·.typeText.isSome) then some (ds.map (·.member)) else none

end OptionsObject

namespace Declaration

/-- What a declaration contributes to an options object. -/
def descriptor (d : Declaration) : Descriptor where
  name := .str d.name
  defaultText := d.defaultText
  typeText := d.typeText
  optional := d.defaultText.isSome || d.optional
  explicitType := d.typeText.isSome
  defaultKind := d.literalKind

def entryText (d : Declaration) : String :=
  match d.defaultText with
  | some t => d.name ++ " = " ++ t
  | none => d.name

def memberText (d : Declaration) : String :=
  d.name ++ (if d.defaultText.isSome || d.optional then "?" else "") ++ ": " ++ d.shownType

variable {d : Declaration} {p : Parameter}

theorem describe_eq (h : p.declaration? = some d) : p.describe = d.descriptor := by
  unfold Parameter.declaration? at h
  split at h <;> cases h <;> rfl

theorem mergeable_of_declaration? (h : p.declaration? = some d) : p.mergeable := by
  unfold Parameter.declaration? at h
  split at h <;> cases h <;> rfl

theorem entry_descriptor (d : Declaration) : d.descriptor.entry = .str d.entryText := by
  unfold Descriptor.entry entryText descriptor
  cases d.defaultText <;> rfl

theorem ofKind_eq (d : Descriptor) :
    Descriptor.inferType.ofKind d = typeOfKind d.defaultKind := by
  unfold Descriptor.inferType.ofKind typeOfKind
  split
  · next hkind => rw [hkind]; rfl
  · next hkind => rw [hkind]; rfl
  · next hkind => rw [hkind]; rfl
  · next hstring hnumber hboolean =>
    cases hkind : d.defaultKind with
    | none => rfl
    | some kind =>
      rw [Option.bind_some, literalTypes, lookup_cons_ite, lookup_cons_ite, lookup_cons_ite,
        if_neg fun h => hstring (hkind.trans (congrArg some h)),
        if_neg fun h => hnumber (hkind.trans (congrArg some h)),
        if_neg fun h => hboolean (hkind.trans (congrArg some h))]
      rfl

theorem typeEntry_descriptor (hd : d.IsPlain) : d.descriptor.typeEntry = .str d.memberText := by
  have htype : d.descriptor.inferType = d.shownType := by
    unfold Descriptor.inferType shownType
    rw [ofKind_eq]
    change (match d.typeText with | some t => _ | none => _) = _
    cases ht : d.typeText with
    | none => rfl
    | some t => exact if_neg (hd.typeText t ht).1
  rw [Descriptor.typeEntry, htype]
  rfl

end Declaration

def braced (separator : String) (texts : List String) : String :=
  "\x7b " ++ separator.intercalate texts ++ " \x7d"

theorem braces_texts (separator : String) (texts : List String) :
    braces (texts.map .str) separator = .ok (braced separator texts) := by
  unfold braces
  rw [joinTexts_texts]
  rfl

/-- One block of entries, and one of members if any declaration has a type. -/
def writtenText (ds : List Declaration) : String :=
  braced ", " (ds.map (·.entryText)) ++
    if ds.any (·.typeText.isSome) then ": " ++ braced "; " (ds.map (·.memberText)) else ""

section Writing

variable {ps : List Parameter} {ds : List Declaration}

theorem optionsText_eq (hds : ∀ d ∈ ds, d.IsPlain) :
    optionsText (ds.map (·.descriptor)) = .ok (writtenText ds) := by
  have hentries : (ds.map (·.descriptor)).map (·.entry) = (ds.map (·.entryText)).map .str := by
    rw [List.map_map, List.map_map]
    exact List.map_congr_left fun d _ => d.entry_descriptor
  have hmembers : (ds.map (·.descriptor)).map (·.typeEntry) = (ds.map (·.memberText)).map .str := by
    rw [List.map_map, List.map_map]
    exact List.map_congr_left fun d hd => d.typeEntry_descriptor (hds d hd)
  have hany : (ds.map (·.descriptor)).any (·.explicitType) = ds.any (·.typeText.isSome) :=
    List.any_map
  unfold optionsText writtenText
  rw [hentries, hmembers, hany, braces_texts, braces_texts]
  by_cases h : ds.any (·.typeText.isSome)
  · simp only [h, if_true]
    exact congrArg Except.ok String.append_assoc
  · simp only [h]
    exact congrArg Except.ok String.append_empty.symm

theorem optionsEdit?_eq (hps : List.Forall₂ (fun p d => p.declaration? = some d) ps ds)
    (hne : ds ≠ []) (hds : ∀ d ∈ ds, d.IsPlain) :
    ∃ e, optionsEdit? ps = .ok (some e) ∧ e.text = writtenText ds := by
  have hdescribe : ps.map (·.describe) = ds.map (·.descriptor) := by
    rw [← List.forall₂_eq_eq_eq, List.forall₂_map_left_iff, List.forall₂_map_right_iff]
    exact hps.imp fun p d h => d.describe_eq h
  have hmergeable : ps.all (·.mergeable) := List.all_eq_true.2 fun p hp => by
    obtain ⟨i, hi, rfl⟩ := List.getElem_of_mem hp
    exact Declaration.mergeable_of_declaration? (hps.get hi (hps.length_eq ▸ hi))
  cases ps with
  | nil =>
    cases hps
    exact absurd rfl hne
  | cons p ps =>
    unfold optionsEdit?
    dsimp only
    rw [if_pos hmergeable, hdescribe, optionsText_eq hds]
    exact ⟨_, rfl, rfl⟩

end Writing

section Reading

variable {d : Declaration}

theorem readEntry_entryText (hd : d.IsPlain) :
    OptionsObject.readEntry d.entryText.toList = (d.name, d.defaultText) := by
  have hname : ' ' ∉ d.name.toList := hd.name.2 ' ' (by decide)
  unfold OptionsObject.readEntry Declaration.entryText
  cases d.defaultText with
  | none =>
    dsimp only
    rw [cutAt_eq_none hname]
    simp
  | some t =>
    have hmark : " = ".toList = [' ', '=', ' '] := by decide
    dsimp only
    rw [String.toList_append, String.toList_append, hmark, cutAt_append hname]
    simp

theorem readMember?_memberText (hd : d.IsPlain) :
    OptionsObject.readMember? d.memberText.toList = some d.member := by
  have hcolon : ':' ∉ d.name.toList := hd.name.2 ':' (by decide)
  have hlast : d.name.toList.getLast? ≠ some '?' := fun h =>
    hd.name.2 '?' (by decide) (List.mem_of_getLast? h)
  have hmark : ": ".toList = [':', ' '] := by decide
  have hasked : "?".toList = ['?'] := by decide
  unfold OptionsObject.readMember? Declaration.memberText Declaration.member
  rw [String.toList_append, String.toList_append, hmark]
  by_cases h : d.defaultText.isSome || d.optional
  · have hcolon' : ':' ∉ d.name.toList ++ ['?'] := by simp [hcolon]
    rw [if_pos h, String.toList_append, hasked, cutAt_append hcolon', h]
    simp
  · rw [if_neg h, String.append_empty, cutAt_append hcolon, Bool.eq_false_iff.2 h]
    simp [hlast]

theorem mapM_readMember? {ds : List Declaration} (hds : ∀ d ∈ ds, d.IsPlain) :
    ((ds.map (·.memberText)).map String.toList).mapM OptionsObject.readMember? =
      some (ds.map (·.member)) := by
  induction ds with
  | nil => rfl
  | cons d ds ih =>
    obtain ⟨hd, hds⟩ := List.forall_mem_cons.1 hds
    rw [List.map_cons, List.map_cons, List.mapM_cons, readMember?_memberText hd, ih hds]
    rfl

theorem isPiece_entryText (hd : d.IsPlain) : IsPiece ',' d.entryText.toList := by
  have hname : IsPiece ',' d.name.toList :=
    ⟨hd.name.1, encloses_of_notMem (hd.name.2 ',' (by decide))⟩
  unfold Declaration.entryText
  cases ht : d.defaultText with
  | none => exact hname
  | some t =>
    dsimp only
    rw [String.toList_append, String.toList_append]
    exact (hname.append (by decide)).append (hd.defaultText t ht)

theorem isPiece_shownType (hd : d.IsPlain) : IsPiece ';' d.shownType.toList := by
  unfold Declaration.shownType
  cases ht : d.typeText with
  | some t => exact (hd.typeText t ht).2
  | none =>
    dsimp only [Option.getD_none]
    unfold Declaration.typeOfKind
    split <;> decide

theorem isPiece_memberText (hd : d.IsPlain) : IsPiece ';' d.memberText.toList := by
  have hname : IsPiece ';' d.name.toList :=
    ⟨hd.name.1, encloses_of_notMem (hd.name.2 ';' (by decide))⟩
  have hmark : IsPiece ';' (if d.defaultText.isSome || d.optional then "?" else "").toList := by
    split <;> decide
  unfold Declaration.memberText
  rw [String.toList_append, String.toList_append, String.toList_append]
  exact ((hname.append hmark).append (by decide)).append (isPiece_shownType hd)

theorem block?_braced {separator : String} {texts : List String}
    (hseparator : Balanced separator.toList) (htexts : ∀ t ∈ texts, Balanced t.toList)
    (after : List Char) :
    block? ((braced separator texts).toList ++ after) =
      some (separator.toList.intercalate (texts.map String.toList), after) := by
  have hopen : "\x7b ".toList = ['{', ' '] := by decide
  have hclose : " \x7d".toList = [' ', '}'] := by decide
  have hinside : Balanced (separator.toList.intercalate (texts.map String.toList)) :=
    balanced_intercalate hseparator (List.forall_mem_map.2 htexts)
  unfold braced
  rw [String.toList_append, String.toList_append, hopen, hclose, String.toList_intercalate]
  have hblock := block?_append hinside after
  simpa using hblock

theorem splitOutside_texts {sep : Char} {texts : List String} (hne : texts ≠ [])
    (h : ∀ t ∈ texts, IsPiece sep t.toList) :
    splitOutside sep [] ([sep, ' '].intercalate (texts.map String.toList)) =
      texts.map String.toList :=
  splitOutside_intercalate (by simpa using hne) (List.forall_mem_map.2 h)

theorem read?_writtenText {ds : List Declaration} (hne : ds ≠ []) (hds : ∀ d ∈ ds, d.IsPlain) :
    OptionsObject.read? (writtenText ds) = some (.ofDeclarations ds) := by
  have hcomma : ", ".toList = [',', ' '] := by decide
  have hsemicolon : "; ".toList = [';', ' '] := by decide
  have hcolon : ": ".toList = [':', ' '] := by decide
  have hentries : ∀ t ∈ ds.map (·.entryText), IsPiece ',' t.toList :=
    List.forall_mem_map.2 fun d hd => isPiece_entryText (hds d hd)
  have hmembers : ∀ t ∈ ds.map (·.memberText), IsPiece ';' t.toList :=
    List.forall_mem_map.2 fun d hd => isPiece_memberText (hds d hd)
  have hread : ((ds.map (·.entryText)).map String.toList).map OptionsObject.readEntry =
      ds.map fun d => (d.name, d.defaultText) := by
    rw [List.map_map, List.map_map]
    exact List.map_congr_left fun d hd => readEntry_entryText (hds d hd)
  have hread' := mapM_readMember? hds
  unfold OptionsObject.read? OptionsObject.ofDeclarations writtenText
  rw [String.toList_append, block?_braced (by decide) fun t ht => (hentries t ht).1,
    Option.bind_eq_bind, Option.bind_some]
  dsimp only
  rw [hcomma, splitOutside_texts (by simpa using hne) hentries, hread]
  by_cases hany : ds.any (·.typeText.isSome)
  · rw [if_pos hany, if_pos hany, String.toList_append, hcolon]
    change (block? (braced _ _).toList).bind _ = _
    rw [← List.append_nil (braced _ _).toList,
      block?_braced (by decide) fun t ht => (hmembers t ht).1, Option.bind_some]
    dsimp only
    rw [hsemicolon, splitOutside_texts (by simpa using hne) hmembers, hread']
    rfl
  · rw [if_neg hany, if_neg hany]
    rfl

end Reading

/-- A list of parameters that declare plain names has an edit, of which the text is read back: every
name with its default, in order, and with its type if any of them has one. -/
theorem exists_edit_read_back {ps : List Parameter} {ds : List Declaration}
    (hps : List.Forall₂ (fun p d => p.declaration? = some d) ps ds) (hne : ds ≠ [])
    (hds : ∀ d ∈ ds, d.IsPlain) : ∃ e, optionsEdit? ps = .ok (some e) ∧
      OptionsObject.read? e.text = some (.ofDeclarations ds) := by
  obtain ⟨e, he, htext⟩ := optionsEdit?_eq hps hne hds
  exact ⟨e, he, htext ▸ read?_writtenText hne hds⟩

section Instances

def sampleParameters : List Parameter :=
  [.simple ⟨1, 31⟩ (.str "size") (some "\x7b w: number; h: number \x7d") false,
    .defaulted ⟨33, 50⟩ (.str "at") "f(1, [2, 3])" none none,
    .promoted ⟨52, 65⟩ (.str "kind") none true "private",
    .defaulted ⟨67, 76⟩ (.str "depth") "1" none (some "number")]

def sampleDeclarations : List Declaration :=
  [{ name := "size", typeText := some "\x7b w: number; h: number \x7d" },
    { name := "at", defaultText := some "f(1, [2, 3])" }, { name := "kind", optional := true },
    { name := "depth", defaultText := some "1", literalKind := some "number" }]

theorem isPlain_sampleDeclarations : ∀ d ∈ sampleDeclarations, d.IsPlain := by
  have hnames : ∀ d ∈ sampleDeclarations, Balanced d.name.toList ∧
      [' ', ',', ';', ':', '?'].all fun c => c ∉ d.name.toList := by decide +kernel
  have htexts : ∀ d ∈ sampleDeclarations, (∀ t ∈ d.defaultText, IsPiece ',' t.toList) ∧
      ∀ t ∈ d.typeText, t ≠ "" ∧ IsPiece ';' t.toList := by decide +kernel
  intro d hd
  have hmarks := List.all_eq_true.1 (hnames d hd).2
  exact ⟨⟨(hnames d hd).1, fun c hc => of_decide_eq_true (hmarks c hc)⟩, (htexts d hd).1,
    (htexts d hd).2⟩

/-- Commas and semicolons within brackets cut nothing. -/
theorem sampleParameters_read_back : ∃ e, optionsEdit? sampleParameters = .ok (some e) ∧
    (∀ d ∈ sampleDeclarations, d.IsPlain) ∧
    OptionsObject.read? e.text = some
      ⟨[("size", none), ("at", some "f(1, [2, 3])"), ("kind", none), ("depth", some "1")],
        some [⟨"size", false, "\x7b w: number; h: number \x7d"⟩, ⟨"at", true, "any"⟩,
          ⟨"kind", true, "any"⟩, ⟨"depth", true, "number"⟩]⟩ := by
  have hps : List.Forall₂ (fun p d => Parameter.declaration? p = some d) sampleParameters
      sampleDeclarations := .cons rfl (.cons rfl (.cons rfl (.cons rfl .nil)))
  have hne : sampleDeclarations ≠ [] := List.cons_ne_nil _ _
  obtain ⟨e, he, hread⟩ := exists_edit_read_back hps hne isPlain_sampleDeclarations
  exact ⟨e, he, isPlain_sampleDeclarations, hread⟩

end Instances

end ArityLint
