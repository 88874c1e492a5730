/-
# What is below a directory

A directory is walked through at any depth, in the order of the places below it.  On a disk every
name was made by some program, and whatever there is is in a directory; so the way to a file that is
listed is open.  Still it cannot always be gone: the path that is put together from the path of the
directory and the names below it may be longer than any that the system takes.  This file says which
files are listed, and that this length is all that stands between a file and its contents.
-/
import Mathlib
import Deprecation.Proofs.Files.Listing
import Deprecation.Proofs.Files.Way
import Deprecation.Settings

namespace Deprecation

/-! ## Names that are chosen -/

namespace Settings

variable {s : Settings} {name path : String}

/-- A name with one of the extensions chosen.  The extension is what follows the last dot, and
that dot does not come first; its capitals do not matter as far as they are ASCII. -/
def Chooses (s : Settings) (name : String) : Prop :=
  ∃ stem ext, name.toList = stem ++ '.' :: ext ∧ stem ≠ [] ∧ '.' ∉ ext ∧
    ∃ chosen ∈ s.extensions, small chosen = ext.map Char.toLower

lemma accepts_iff (h : Path.fileName path = some name) : s.accepts path = true ↔ s.Chooses name := by
  have hextension : Path.extension path
      = (Path.splitName name.toList).map fun x => String.ofList x.2 := by
    rw [Path.extension, h]
    cases hsplit : Path.splitName name.toList <;> simp [hsplit]
  rw [accepts, hextension]
  cases hsplit : Path.splitName name.toList with
  | none =>
    simp only [Option.map_none, Bool.false_eq_true, false_iff]
    rintro ⟨stem, ext, heq, hstem, hext, -⟩
    rw [Path.splitName_eq_some_iff.mpr ⟨heq, hext, hstem⟩] at hsplit
    cases hsplit
  | some x =>
    obtain ⟨stem, ext⟩ := x
    obtain ⟨heq, hext, hstem⟩ := Path.splitName_eq_some_iff.mp hsplit
    have hsmall : small (String.ofList ext) = ext.map Char.toLower := by
      rw [small, String.toList_ofList]
    simp only [Option.map_some, List.any_eq_true, beq_iff_eq, hsmall]
    constructor
    · exact fun hchosen => ⟨stem, ext, heq, hstem, hext, hchosen⟩
    · -- a name has only one extension
      rintro ⟨stem', ext', heq', hstem', hext', hchosen⟩
      rw [Path.splitName_eq_some_iff.mpr ⟨heq', hext', hstem'⟩] at hsplit
      cases hsplit
      exact hchosen

end Settings

/-! ## Joined paths -/

namespace Path

lemma join_ne_empty (base : String) {p : String} (hp : p ≠ "") : join base p ≠ "" := by
  intro h
  rw [join] at h
  split_ifs at h
  · exact hp h
  · exact hp (String.append_eq_empty_iff.mp h).2
  · exact hp (String.append_eq_empty_iff.mp h).2

lemma mem_of_mem_join {c : Char} {base p : String} (h : c ∈ (join base p).toList) :
    c ∈ base.toList ∨ c = '/' ∨ c ∈ p.toList := by
  rw [join] at h
  split_ifs at h
  · exact Or.inr (Or.inr h)
  · rw [String.toList_append, List.mem_append] at h
    tauto
  · rw [String.toList_append, String.toList_append, List.mem_append, List.mem_append] at h
    have hslash : "/".toList = ['/'] := rfl
    rw [hslash, List.mem_singleton] at h
    tauto

lemma size_add_le_join (base : String) {p : String} (hp : isAbsolute p = false) :
    base.utf8ByteSize + p.utf8ByteSize ≤ (join base p).utf8ByteSize := by
  rw [join, hp, if_neg Bool.false_ne_true]
  split
  · rw [String.utf8ByteSize_append]
  · rw [String.utf8ByteSize_append, String.utf8ByteSize_append]
    omega

end Path

namespace FileTree

variable {t : FileTree} {p l : Place} {path name : String} {bytes : ByteArray}

/-- A text that is not refused as a path for what is in it. -/
def IsText (path : String) : Prop := path ≠ "" ∧ '\x00' ∉ path.toList

lemma checkPath_of_isText (h : IsText path) :
    checkPath path = if maxPath < path.utf8ByteSize then .error .nameTooLong else .ok () := by
  rw [checkPath, if_neg (by simpa using h.2), if_neg h.1]

lemma isText_of_checkPath (h : checkPath path = .ok ()) : IsText path := by
  refine ⟨ne_empty_of_checkPath h, fun hnull => ?_⟩
  rw [checkPath, if_pos (by simpa using hnull)] at h
  cases h

lemma size_le_of_checkPath (h : checkPath path = .ok ()) : path.utf8ByteSize ≤ maxPath := by
  rw [checkPath_of_isText (isText_of_checkPath h)] at h
  by_contra hlong
  rw [if_pos (not_le.mp hlong)] at h
  cases h

lemma isText_pathBelow (hpath : IsText path) (hl : ∀ name ∈ l, IsText name) :
    IsText (pathBelow path l) := by
  rw [pathBelow]
  refine List.foldlRecOn l _ hpath fun base hbase name hname => ?_
  refine ⟨Path.join_ne_empty base (hl name hname).1, fun hnull => ?_⟩
  rcases Path.mem_of_mem_join hnull with h | h | h
  · exact hbase.2 h
  · cases h
  · exact (hl name hname).2 h

/-! ## Trees as they are on a disk -/

/-- A tree of files as a disk holds it: whatever there is is in a directory and was made under a
name that the system takes. -/
structure Grounded (t : FileTree) : Prop extends Proper t where
  rooted : t.Rooted
  short : ∀ x ∈ t.nodes, ∀ name ∈ x.1, name.utf8ByteSize ≤ maxName
  no_null : ∀ x ∈ t.nodes, ∀ name ∈ x.1, '\x00' ∉ name.toList

lemma rooted_of_nodes (h : ∀ x ∈ t.nodes, t.isDirectoryAt x.1.dropLast = true) : t.Rooted := by
  intro p name hsome
  rw [find?, if_neg (by simp)] at hsome
  obtain ⟨n, hn⟩ := Option.isSome_iff_exists.mp hsome
  obtain ⟨before, after, heq, -⟩ := List.lookup_eq_some_iff.mp hn
  have hmem : (p ++ [name], n) ∈ t.nodes := heq ▸ List.mem_append_right before List.mem_cons_self
  have hthere := isDirectoryAt_iff.mp (h _ hmem)
  rwa [List.dropLast_concat] at hthere

lemma Rooted.find?_of_append (ht : t.Rooted) (hl : l ≠ []) (h : (t.find? (p ++ l)).isSome) :
    t.find? p = some .directory := by
  induction l using List.reverseRecOn with
  | nil => exact absurd rfl hl
  | append_singleton l name ih =>
    rw [← List.append_assoc] at h
    have hlast := ht (p ++ l) name h
    by_cases hnil : l = []
    · rwa [hnil, List.append_nil] at hlast
    · exact ih hnil (by rw [hlast]; rfl)

namespace Grounded

lemma exists_mem_nodes (ht : t.Grounded) (hl : l ≠ []) (h : (t.find? (p ++ l)).isSome) :
    ∃ n, (p ++ l, n) ∈ t.nodes := by
  obtain ⟨n, hn⟩ := Option.isSome_iff_exists.mp h
  exact ⟨n, (ht.find?_eq_some_iff (by simp [hl])).mp hn⟩

/-- The way from a directory to whatever is below it is open. -/
theorem follow_pathBelow (ht : t.Grounded) (hpath : path ≠ "")
    (hfollow : t.follow (t.start path) (names path) = .ok p) (h : (t.find? (p ++ l)).isSome) :
    t.follow (t.start (pathBelow path l)) (names (pathBelow path l)) = .ok (p ++ l) := by
  induction l generalizing path p with
  | nil => rwa [List.append_nil]
  | cons name l ih =>
    obtain ⟨n, hn⟩ := ht.exists_mem_nodes (List.cons_ne_nil name l) h
    have hmem : name ∈ p ++ name :: l := List.mem_append_right p List.mem_cons_self
    obtain ⟨hname, hslash⟩ := ht.names _ hn name hmem
    have hthere : t.isDirectoryAt p = true :=
      isDirectoryAt_iff.mpr (ht.rooted.find?_of_append (List.cons_ne_nil name l) h)
    rw [List.append_cons] at h ⊢
    -- the next place is that of the file itself, or of a directory on the way to it
    have hnext : (t.find? (p ++ [name])).isSome := by
      cases l with
      | nil => rwa [List.append_nil] at h
      | cons next l =>
        rw [ht.rooted.find?_of_append (List.cons_ne_nil next l) h]
        rfl
    refine ih (Path.join_ne_empty path hname.1) ?_ h
    rw [follow_join hslash hpath hfollow, follow_cons_of_isName hthere hname,
      if_neg (not_lt.mpr (ht.short _ hn name hmem)),
      if_neg (by simpa using Option.isSome_iff_ne_none.mp hnext), follow]

/-- What is read of a file below a directory: the file, unless the path is too long. -/
theorem read_pathBelow (ht : t.Grounded) (hplace : t.place path = .ok p) (hl : l ≠ [])
    (hfile : t.find? (p ++ l) = some (.file bytes)) :
    t.read (pathBelow path l)
      = if maxPath < (pathBelow path l).utf8ByteSize then .error .nameTooLong else .ok bytes := by
  obtain ⟨hcheck, hfollow⟩ := place_eq_ok_iff.mp hplace
  have hsome : (t.find? (p ++ l)).isSome := by
    rw [hfile]
    rfl
  obtain ⟨n, hn⟩ := ht.exists_mem_nodes hl hsome
  have hbelow : IsText (pathBelow path l) := by
    refine isText_pathBelow (isText_of_checkPath hcheck) fun name hname => ?_
    have hmem := List.mem_append_right p hname
    exact ⟨(ht.names _ hn name hmem).1.1, ht.no_null _ hn name hmem⟩
  have hfollow' := ht.follow_pathBelow (ne_empty_of_checkPath hcheck) hfollow hsome
  rw [read, FileTree.place, checkPath_of_isText hbelow]
  split
  · rfl
  · simp [bind, Except.bind, hfollow', hfile]

end Grounded

/-! ## Files below a directory -/

/-- The files below a place with the names that lead to them. -/
def filesBelow (t : FileTree) (p : Place) : List (Place × ByteArray) :=
  (t.below p).filterMap fun x =>
    match x.2 with
    | .file bytes => some (x.1, bytes)
    | .directory => none

lemma files_eq_map_filesBelow (hplace : t.place path = .ok p) (hthere : t.find? p = some .directory) :
    t.files path none = (t.filesBelow p).map fun f => pathBelow path f.1 := by
  rw [files, hplace]
  dsimp only
  rw [hthere, filesBelow, List.map_filterMap]
  refine List.filterMap_congr fun x _ => ?_
  obtain ⟨l, n⟩ := x
  cases n <;> rfl

lemma Proper.mem_filesBelow_iff (ht : t.Proper) :
    (l, bytes) ∈ t.filesBelow p ↔ l ≠ [] ∧ t.find? (p ++ l) = some (.file bytes) := by
  have hmem : (l, bytes) ∈ t.filesBelow p ↔ (l, .file bytes) ∈ t.below p := by
    rw [filesBelow, List.mem_filterMap]
    constructor
    · rintro ⟨⟨l', n⟩, hx, hsome⟩
      cases n with
      | directory => cases hsome
      | file bytes' =>
        cases hsome
        exact hx
    · exact fun h => ⟨_, h, rfl⟩
  rw [hmem, mem_below_iff]
  exact and_congr_right fun hl => (ht.find?_eq_some_iff (by simp [hl])).symm

lemma Proper.pairwise_filesBelow (ht : t.Proper) (p : Place) :
    (t.filesBelow p).Pairwise fun f g => f.1 < g.1 := by
  refine List.Pairwise.filterMap _ ?_ (ht.pairwise_below p)
  rintro ⟨l, n⟩ ⟨l', n'⟩ hlt f hf g hg
  cases n <;> cases n' <;> cases hf <;> cases hg
  exact hlt

lemma fileName_pathBelow (path : String) (hlast : l.getLast? = some name) (hname : IsName name)
    (hslash : '/' ∉ name.toList) : Path.fileName (pathBelow path l) = some name := by
  obtain ⟨l, rfl⟩ := List.getLast?_eq_some_iff.mp hlast
  rw [pathBelow, List.foldl_concat]
  exact fileName_join _ hname hslash

/-! ## Slashes behind a directory -/

/-- A slash behind the path of a directory leads nowhere else, as long as there is room for it. -/
lemma place_append_slash (hplace : t.place path = .ok p) (hthere : t.find? p = some .directory)
    (hshort : path.utf8ByteSize < maxPath) : t.place (path ++ "/") = .ok p := by
  obtain ⟨hcheck, hfollow⟩ := place_eq_ok_iff.mp hplace
  have htext := isText_of_checkPath hcheck
  have hslashed : IsText (path ++ "/") := by
    refine ⟨fun h => htext.1 (String.append_eq_empty_iff.mp h).1, fun hnull => ?_⟩
    rw [String.toList_append, List.mem_append] at hnull
    exact hnull.elim htext.2 (by decide)
  have hnames : names (path ++ "/") = names path ++ [""] := by
    have := names_append_slash path ""
    rwa [String.append_empty] at this
  refine place_eq_ok_iff.mpr ⟨?_, ?_⟩
  · rw [checkPath_of_isText hslashed, if_neg]
    rw [String.utf8ByteSize_append]
    exact not_lt.mpr hshort
  · rw [start, Path.isAbsolute_append htext.1, ← start, hnames, follow_append_of_ok hfollow,
      follow_cons_of_skipped (isDirectoryAt_iff.mpr hthere) (Or.inl rfl), follow]

end FileTree
end Deprecation
