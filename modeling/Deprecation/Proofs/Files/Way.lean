/-
# Directories on the way

To keep a file at a path, the directories that lead there are made first, and another file may be
written beside it.  This file says what that does to reading the path when the file itself has
not been put there.  The answer is: nothing, but for one thing.  Where a directory was missing, the
path was not found; and once the directory is there, a longer piece of the path is looked at, in
which there may be a name that is too long for any file.
-/
import Mathlib
import Deprecation.Proofs.Files.Tree

namespace Deprecation
namespace FileTree

variable {t t' : FileTree} {p q : Place} {path name : String} {l : List String}

/-- Whatever is in a tree of files is in a directory. -/
def Rooted (t : FileTree) : Prop :=
  ∀ p name, (t.find? (p ++ [name])).isSome → t.find? p = some .directory

/-- At a place is what was there before, or a directory where nothing was. -/
def Stays (t t' : FileTree) (p : Place) : Prop :=
  t'.find? p = t.find? p ∨ (t.find? p = none ∧ t'.find? p = some .directory)

lemma Stays.trans {t'' : FileTree} (h : Stays t t' p) (h' : Stays t' t'' p) : Stays t t'' p := by
  rcases h with hsame | ⟨hnone, hdirectory⟩ <;> rcases h' with hsame' | ⟨hnone', hdirectory'⟩
  · exact Or.inl (hsame'.trans hsame)
  · exact Or.inr ⟨hsame ▸ hnone', hdirectory'⟩
  · exact Or.inr ⟨hnone, hsame'.trans hdirectory⟩
  · rw [hnone'] at hdirectory
    cases hdirectory

/-! ## Following a name -/

/-- A name that does not go back stays or goes on. -/
lemma skipped_or_isName (h : name ≠ "..") : (name = "" ∨ name = ".") ∨ IsName name := by
  by_cases hempty : name = ""
  · exact Or.inl (Or.inl hempty)
  by_cases hdot : name = "."
  · exact Or.inl (Or.inr hdot)
  · exact Or.inr ⟨hempty, hdot, h⟩

lemma prefix_advance (h : name ≠ "..") (p : Place) : p <+: advance p name := by
  rcases skipped_or_isName h with hskip | hname
  · rw [advance, if_pos hskip]
  · rw [advance_of_isName hname]
    exact List.prefix_append p [name]

/-- Names that do not go back lead on. -/
lemma prefix_walk (h : ".." ∉ l) (p : Place) : p <+: walk p l := by
  induction l generalizing p with
  | nil => exact List.prefix_rfl
  | cons name l ih =>
    rw [List.mem_cons, not_or] at h
    exact (prefix_advance (Ne.symm h.1) p).trans (ih h.2 (advance p name))

/-! ## Trees that differ on the way to a file -/

/-- Where a file is to be kept: it has a name in a directory that is reached from a start, and
there may be another file beside it. -/
structure Site where
  start : Place
  directory : Place
  name : String
  other : String
  name_ne_other : name ≠ other

namespace Site

/-- The place of the file. -/
def place (s : Site) : Place := s.directory ++ [s.name]

/-- The place of the other file. -/
def aside (s : Site) : Place := s.directory ++ [s.other]

/-- A place behind the start at which there may be a directory on the way. -/
def OnTheWay (s : Site) (p : Place) : Prop := s.start <+: p ∧ p ≠ s.start ∧ p <+: s.directory

variable {s : Site}

lemma place_ne_aside (s : Site) : s.place ≠ s.aside := by
  intro h
  exact s.name_ne_other (List.singleton_inj.mp (List.append_cancel_left h))

lemma not_onTheWay_append (s : Site) (name : String) : ¬ s.OnTheWay (s.directory ++ [name]) := by
  rintro ⟨-, -, hprefix⟩
  have hlength := hprefix.length_le
  simp at hlength

/-- The other file is not on the way to the file. -/
lemma ne_aside_of_prefix (h : p <+: s.place) : p ≠ s.aside := by
  rintro rfl
  have hlength : s.aside.length = s.place.length := by simp [aside, place]
  exact s.place_ne_aside (h.eq_of_length hlength).symm

end Site

/-- A tree differs from another one in nothing but directories on the way to a file, which were
not there, and in what is beside the file. -/
structure Differs (s : Site) (t t' : FileTree) : Prop where
  working : t'.working = t.working
  stays : ∀ p, p ≠ s.aside → Stays t t' p
  onTheWay : ∀ p, p ≠ s.aside → t'.find? p ≠ t.find? p → s.OnTheWay p

namespace Differs

variable {s : Site}

lemma nodes (h : Differs s t t') (hp : p ≠ s.aside) : t'.find? p = t.find? p ∨
    (t.find? p = none ∧ t'.find? p = some .directory ∧ s.OnTheWay p) := by
  by_cases hsame : t'.find? p = t.find? p
  · exact Or.inl hsame
  · obtain ⟨hnone, hdirectory⟩ := (h.stays p hp).resolve_left hsame
    exact Or.inr ⟨hnone, hdirectory, h.onTheWay p hp hsame⟩

lemma refl (s : Site) (t : FileTree) : Differs s t t where
  working := rfl
  stays := fun _ _ => Or.inl rfl
  onTheWay := fun _ _ hne => absurd rfl hne

lemma trans {t'' : FileTree} (h : Differs s t t') (h' : Differs s t' t'') : Differs s t t'' where
  working := h'.working.trans h.working
  stays := fun p hp => (h.stays p hp).trans (h'.stays p hp)
  onTheWay := by
    intro p hp hne
    by_cases hsame : t'.find? p = t.find? p
    · exact h'.onTheWay p hp (hsame ▸ hne)
    · exact h.onTheWay p hp hsame

/-- A directory that is made on the way. -/
lemma put_directory (hp : t.find? p = none) (hway : s.OnTheWay p) :
    Differs s t (t.put p .directory) := by
  have hroot : p ≠ [] := by
    rintro rfl
    cases hp
  have hnodes : ∀ q, (t.put p .directory).find? q = if q = p then some .directory else t.find? q :=
    fun q => find?_put t p q .directory hroot
  refine ⟨rfl, fun q _ => ?_, fun q _ hne => ?_⟩
  · by_cases heq : q = p
    · subst heq
      exact Or.inr ⟨hp, by rw [hnodes, if_pos rfl]⟩
    · exact Or.inl (by rw [hnodes, if_neg heq])
  · by_cases heq : q = p
    · exact heq ▸ hway
    · exact absurd (by rw [hnodes, if_neg heq]) hne

/-- Anything that is put beside the file. -/
lemma put_aside (s : Site) (t : FileTree) (n : FileNode) : Differs s t (t.put s.aside n) := by
  have hroot : s.aside ≠ [] := by simp [Site.aside]
  have hnodes : ∀ q, q ≠ s.aside → (t.put s.aside n).find? q = t.find? q := by
    intro q hq
    rw [find?_put t s.aside q n hroot, if_neg hq]
  exact ⟨rfl, fun q hq => Or.inl (hnodes q hq), fun q hq hne => absurd (hnodes q hq) hne⟩

lemma find?_place (h : Differs s t t') : t'.find? s.place = t.find? s.place := by
  rcases h.nodes s.place_ne_aside with hsame | ⟨-, -, hway⟩
  · exact hsame
  · exact absurd hway (s.not_onTheWay_append s.name)

/-- What was there on the way is there still. -/
lemma find?_of_prefix (h : Differs s t t') (hp : p <+: s.place)
    (hthere : (t.find? p).isSome ∨ p = s.start) : t'.find? p = t.find? p := by
  rcases h.nodes (Site.ne_aside_of_prefix hp) with hsame | ⟨hnone, -, hway⟩
  · exact hsame
  · rcases hthere with hsome | heq
    · rw [hnone] at hsome
      cases hsome
    · exact absurd heq hway.2.1

/-- From a directory that was not there one comes to nothing, or to a name that is too long. -/
lemma follow_unbuilt (h : Differs s t t') (ht : t.Rooted) (hnone : t.find? p = none)
    (hthere : t'.isDirectoryAt p = true) (hdots : ".." ∉ l) (hl : walk p l = s.place) :
    t'.follow p l = .error .notFound ∨
      (t'.follow p l = .error .nameTooLong ∧ ∃ name ∈ l, maxName < name.utf8ByteSize) := by
  induction l generalizing p with
  | nil =>
    -- nothing was put at the place itself
    obtain rfl : p = s.place := hl
    rw [isDirectoryAt_iff, h.find?_place, hnone] at hthere
    cases hthere
  | cons name l ih =>
    rw [List.mem_cons, not_or] at hdots
    rw [walk_cons] at hl
    rcases skipped_or_isName (Ne.symm hdots.1) with hskip | hname
    · rw [advance, if_pos hskip] at hl
      rw [follow_cons_of_skipped hthere hskip]
      exact (ih hnone hthere hdots.2 hl).imp_right
        (And.imp_right List.exists_mem_cons_of_exists)
    · rw [advance_of_isName hname] at hl
      rw [follow_cons_of_isName hthere hname]
      by_cases hsize : maxName < name.utf8ByteSize
      · rw [if_pos hsize]
        exact Or.inr ⟨rfl, name, List.mem_cons_self, hsize⟩
      rw [if_neg hsize]
      have hnone' : t.find? (p ++ [name]) = none := by
        by_contra hsome
        rw [ht p name (Option.isSome_iff_ne_none.mpr hsome)] at hnone
        cases hnone
      have hprefix : p ++ [name] <+: s.place := hl ▸ prefix_walk hdots.2 (p ++ [name])
      rcases h.nodes (Site.ne_aside_of_prefix hprefix) with hsame | ⟨-, hdirectory, -⟩
      · rw [hsame, hnone']
        exact Or.inl rfl
      · rw [hdirectory]
        exact (ih hnone' (isDirectoryAt_iff.mpr hdirectory) hdots.2 hl).imp_right
          (And.imp_right List.exists_mem_cons_of_exists)

lemma follow_eq_or (h : Differs s t t') (ht : t.Rooted)
    (hthere : (t.find? p).isSome ∨ p = s.start) (hdots : ".." ∉ l) (hl : walk p l = s.place) :
    t'.follow p l = t.follow p l ∨
      (t.follow p l = .error .notFound ∧ t'.follow p l = .error .nameTooLong ∧
        ∃ name ∈ l, maxName < name.utf8ByteSize) := by
  induction l generalizing p with
  | nil => exact Or.inl rfl
  | cons name l ih =>
    have hprefix : p <+: s.place := hl ▸ prefix_walk hdots p
    have hsame := h.find?_of_prefix hprefix hthere
    have hdirectory : t'.isDirectoryAt p = t.isDirectoryAt p := by
      rw [isDirectoryAt, isDirectoryAt, hsame]
    rw [List.mem_cons, not_or] at hdots
    rw [walk_cons] at hl
    cases hp : t.isDirectoryAt p with
    | false =>
      rw [follow_cons_of_not_directory hp, follow_cons_of_not_directory (hdirectory.trans hp)]
      exact Or.inl rfl
    | true =>
      have hp' := hdirectory.trans hp
      rcases skipped_or_isName (Ne.symm hdots.1) with hskip | hname
      · rw [advance, if_pos hskip] at hl
        rw [follow_cons_of_skipped hp hskip, follow_cons_of_skipped hp' hskip]
        exact (ih hthere hdots.2 hl).imp_right
          (And.imp_right (And.imp_right List.exists_mem_cons_of_exists))
      rw [advance_of_isName hname] at hl
      rw [follow_cons_of_isName hp hname, follow_cons_of_isName hp' hname]
      by_cases hsize : maxName < name.utf8ByteSize
      · rw [if_pos hsize, if_pos hsize]
        exact Or.inl rfl
      rw [if_neg hsize, if_neg hsize]
      have hprefix' : p ++ [name] <+: s.place := hl ▸ prefix_walk hdots.2 (p ++ [name])
      cases hnext : t.find? (p ++ [name]) with
      | some n =>
        have hthere' : (t.find? (p ++ [name])).isSome ∨ p ++ [name] = s.start := by
          rw [hnext]
          exact Or.inl rfl
        rw [h.find?_of_prefix hprefix' hthere', hnext]
        exact (ih hthere' hdots.2 hl).imp_right
          (And.imp_right (And.imp_right List.exists_mem_cons_of_exists))
      | none =>
        -- here the way ended before
        rcases h.nodes (Site.ne_aside_of_prefix hprefix') with hsame' | ⟨-, hmade, -⟩
        · rw [hsame', hnext]
          exact Or.inl rfl
        · rw [hmade]
          exact (h.follow_unbuilt ht hnext (isDirectoryAt_iff.mpr hmade) hdots.2 hl).imp_right
            fun hlong => ⟨rfl, hlong.1, List.exists_mem_cons_of_exists hlong.2⟩

/-- A way that led on still does. -/
lemma follow_eq_ok (h : Differs s t t') (hthere : (t.find? p).isSome ∨ p = s.start)
    (hdots : ".." ∉ l) (hl : walk p l = s.place) (hfollow : t.follow p l = .ok q) :
    t'.follow p l = .ok q := by
  induction l generalizing p with
  | nil => exact hfollow
  | cons name l ih =>
    obtain ⟨hp, hname, hrest⟩ := follow_cons_eq_ok_iff.mp hfollow
    have hprefix : p <+: s.place := hl ▸ prefix_walk hdots p
    rw [List.mem_cons, not_or] at hdots
    rw [walk_cons] at hl
    refine follow_cons_eq_ok_iff.mpr ⟨(h.find?_of_prefix hprefix hthere).trans hp, ?_, ?_⟩
    · intro hisname
      obtain ⟨hsize, hnext⟩ := hname hisname
      rw [advance_of_isName hisname] at hl
      have hprefix' : p ++ [name] <+: s.place := hl ▸ prefix_walk hdots.2 (p ++ [name])
      exact ⟨hsize, by rwa [h.find?_of_prefix hprefix' (Or.inl hnext)]⟩
    · refine ih ?_ hdots.2 hl hrest
      rcases skipped_or_isName (Ne.symm hdots.1) with hskip | hisname
      · rw [advance, if_pos hskip]
        exact hthere
      · rw [advance_of_isName hisname]
        exact Or.inl (hname hisname).2

/-- A file that was read is read still. -/
theorem read_eq_ok (h : Differs s t t') (hdots : ".." ∉ names path)
    (hstart : s.start = t.start path) (hplace : leadsTo t.working path = s.place)
    {bytes : ByteArray} (hread : t.read path = .ok bytes) : t'.read path = .ok bytes := by
  obtain ⟨hopen, hfind⟩ := read_eq_ok_iff.mp hread
  obtain ⟨hcheck, hfollow⟩ := place_eq_ok_iff.mp hopen
  have hstart' : t'.start path = t.start path := by
    rw [FileTree.start, FileTree.start, h.working]
  rw [read_eq_ok_iff, h.working]
  refine ⟨place_eq_ok_iff.mpr ⟨hcheck, ?_⟩, ?_⟩
  · rw [hstart']
    exact h.follow_eq_ok (Or.inr hstart.symm) hdots hplace hfollow
  · rw [hplace] at hfind ⊢
    rw [h.find?_place, hfind]

/-- A path to the place of the file reads as before; or it was not found because a directory was
missing, and now it has a name that is too long. -/
theorem read_eq_or (h : Differs s t t') (ht : t.Rooted) (hdots : ".." ∉ names path)
    (hstart : s.start = t.start path) (hplace : leadsTo t.working path = s.place) :
    t'.read path = t.read path ∨
      (t.read path = .error .notFound ∧ t'.read path = .error .nameTooLong ∧
        ∃ name ∈ names path, maxName < name.utf8ByteSize) := by
  have hstart' : t'.start path = t.start path := by
    rw [FileTree.start, FileTree.start, h.working]
  rw [read, read, FileTree.place, FileTree.place, hstart']
  cases checkPath path with
  | error e => exact Or.inl rfl
  | ok u =>
    simp only [bind, Except.bind]
    rcases h.follow_eq_or ht (Or.inr hstart.symm) hdots hplace with heq | ⟨hfound, hlong, hname⟩
    · rw [heq]
      cases hfollow : t.follow (t.start path) (names path) with
      | error e => exact Or.inl rfl
      | ok p =>
        obtain rfl : p = s.place := (follow_eq_walk hfollow).trans hplace
        dsimp only
        rw [h.find?_place]
        exact Or.inl rfl
    · rw [hfound, hlong]
      exact Or.inr ⟨rfl, rfl, hname⟩

end Differs

end FileTree
end Deprecation
