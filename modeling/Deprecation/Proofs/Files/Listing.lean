/-
# Listing a directory

The files in a directory are listed in the order of their names.  This file says which files
those are, for a directory that is looked at no deeper than one level, and that what is read of a
listed file depends on nothing but the file itself.
-/
import Mathlib
import Deprecation.Proofs.Files.Parent
import Deprecation.Proofs.Files.Tree

namespace Deprecation

/-! ## The last name of a joined path -/

namespace Path

lemma steps_append_slash (a b : List Char) : steps (a ++ '/' :: b) = steps a ++ steps b := by
  rw [steps, pieces_append_slash, List.filter_append]
  rfl

lemma isAbsolute_of_no_slash {name : String} (h : '/' ∉ name.toList) : isAbsolute name = false := by
  rw [isAbsolute, decide_eq_false_iff_not]
  exact fun hhead => h (List.mem_of_head? hhead)

/-- A name that is looked up from a path comes behind the steps of the path. -/
lemma steps_join (base : String) {name : String} (h : '/' ∉ name.toList) :
    steps (join base name).toList = steps base.toList ++ steps name.toList := by
  have happend : ∀ l : String, steps (l ++ "/" ++ name).toList
      = steps l.toList ++ steps name.toList := by
    intro l
    rw [String.toList_append, String.toList_append, List.append_assoc]
    exact steps_append_slash l.toList name.toList
  rcases join_cases base (isAbsolute_of_no_slash h) with
    ⟨rfl, hjoin⟩ | ⟨-, ⟨l, rfl, hjoin⟩ | hjoin⟩
  · rw [hjoin]
    rfl
  · have hslash : steps (l ++ "/").toList = steps l.toList := by
      rw [String.toList_append]
      exact (steps_append_slash l.toList []).trans (List.append_nil _)
    rw [hjoin, happend, hslash]
  · rw [hjoin, happend]

/-- The last piece that is not skipped. -/
lemma head?_backwards (ps : List (List Char)) :
    (backwards ps).head? = (ps.filter (!isSkipped ·)).getLast? := by
  rw [backwards, ← List.head?_reverse, ← List.filter_reverse, List.head?_filter]
  exact (List.find?_not_eq_head?_dropWhile isSkipped ps.reverse).symm

lemma fileName_of_getLast? {path : String} {last : List Char}
    (h : (steps path.toList).getLast? = some last) (hlast : last ≠ ['.', '.']) :
    fileName path = some (String.ofList last) := by
  rw [steps, filter_pieces, ← head?_backwards] at h
  obtain ⟨before, hback⟩ := List.head?_eq_some_iff.mp h
  rw [fileName, hback]
  exact if_neg hlast

end Path

namespace FileTree

variable {t t' : FileTree} {p q : Place} {directory name : String} {bytes : ByteArray}

theorem fileName_join (directory : String) (hname : IsName name) (hslash : '/' ∉ name.toList) :
    Path.fileName (Path.join directory name) = some name := by
  have hskip : Path.isSkipped name.toList = false :=
    Bool.eq_false_iff.mpr fun h => not_or.mpr ⟨hname.1, hname.2.1⟩ (isSkipped_toList_iff.mp h)
  have hsteps : Path.steps name.toList = [name.toList] := by
    rw [Path.steps, Path.pieces_of_no_slash hslash, List.filter_cons_of_pos (by simp [hskip])]
    rfl
  have hback : name.toList ≠ ['.', '.'] := by
    intro h
    exact hname.2.2 (String.toList_inj.mp h)
  have hlast : (Path.steps (Path.join directory name).toList).getLast? = some name.toList := by
    rw [Path.steps_join directory hslash, hsteps, List.getLast?_concat]
  rw [Path.fileName_of_getLast? hlast hback, String.ofList_toList]

/-! ## What a directory holds -/

/-- A tree of files as there is one on a disk: no place is listed twice, and every place is
reached by names. -/
structure Proper (t : FileTree) : Prop where
  nodup : (t.nodes.map Prod.fst).Nodup
  names : ∀ x ∈ t.nodes, ∀ name ∈ x.1, IsName name ∧ '/' ∉ name.toList

/-- There is a file with some name in the directory that a path leads to. -/
structure Holds (t : FileTree) (directory name : String) (p : Place) (bytes : ByteArray) :
    Prop where
  place : t.place directory = .ok p
  there : t.find? p = some .directory
  file : t.find? (p ++ [name]) = some (.file bytes)

lemma Proper.find?_eq_some_iff (ht : t.Proper) (hp : p ≠ []) {n : FileNode} :
    t.find? p = some n ↔ (p, n) ∈ t.nodes := by
  have hnodup := ht.nodup
  rw [find?, if_neg hp]
  generalize t.nodes = nodes at hnodup
  induction nodes with
  | nil => simp
  | cons x nodes ih =>
    rw [List.map_cons, List.nodup_cons] at hnodup
    rw [List.lookup_cons, List.mem_cons, Prod.ext_iff]
    by_cases heq : p = x.1
    · have hrest : (p, n) ∉ nodes := fun h => hnodup.1 (List.mem_map.mpr ⟨(p, n), h, heq⟩)
      simp [heq ▸ hrest, heq, eq_comm]
    · rw [beq_eq_false_iff_ne.mpr heq]
      exact (ih hnodup.2).trans (by simp [heq])

/-! ## Order -/

section Order

variable {α : Type}

lemma insertInOrder_perm (x : Place × α) (l : List (Place × α)) :
    (insertInOrder x l).Perm (x :: l) := by
  induction l with
  | nil => rfl
  | cons y l ih =>
    rw [insertInOrder]
    split
    · rfl
    · exact (ih.cons y).trans (List.Perm.swap x y l)

lemma foldr_insertInOrder_perm (l : List (Place × α)) : (l.foldr insertInOrder []).Perm l := by
  induction l with
  | nil => rfl
  | cons x l ih => exact (insertInOrder_perm x _).trans (ih.cons x)

lemma pairwise_insertInOrder {x : Place × α} {l : List (Place × α)}
    (h : l.Pairwise fun y z => y.1 < z.1) (hx : ∀ y ∈ l, x.1 ≠ y.1) :
    (insertInOrder x l).Pairwise fun y z => y.1 < z.1 := by
  induction l with
  | nil => exact List.pairwise_singleton _ x
  | cons y l ih =>
    obtain ⟨hy, hl⟩ := List.pairwise_cons.mp h
    rw [insertInOrder]
    split
    next hlt =>
      refine List.pairwise_cons.mpr ⟨?_, h⟩
      rintro z (_ | ⟨_, hz⟩)
      · exact hlt
      · exact lt_trans hlt (hy z hz)
    next hnot =>
      have hyx : y.1 < x.1 := lt_of_le_of_ne (not_lt.mp hnot) (Ne.symm (hx y List.mem_cons_self))
      refine List.pairwise_cons.mpr ⟨?_, ih hl fun z hz => hx z (List.mem_cons_of_mem y hz)⟩
      intro z hz
      rcases List.mem_cons.mp ((insertInOrder_perm x l).mem_iff.mp hz) with rfl | hz
      · exact hyx
      · exact hy z hz

/-- Items with different names come out in the order of their names. -/
lemma pairwise_foldr_insertInOrder {l : List (Place × α)} (h : l.Pairwise fun y z => y.1 ≠ z.1) :
    (l.foldr insertInOrder []).Pairwise fun y z => y.1 < z.1 := by
  induction l with
  | nil => exact List.Pairwise.nil
  | cons x l ih =>
    obtain ⟨hx, hl⟩ := List.pairwise_cons.mp h
    refine pairwise_insertInOrder (ih hl) fun y hy => ?_
    exact hx y ((foldr_insertInOrder_perm l).mem_iff.mp hy)

end Order

/-! ## Listing -/

lemma mem_below_iff {l : Place} {n : FileNode} :
    (l, n) ∈ t.below p ↔ l ≠ [] ∧ (p ++ l, n) ∈ t.nodes := by
  rw [below, (foldr_insertInOrder_perm _).mem_iff, List.mem_filterMap]
  constructor
  · rintro ⟨⟨q, m⟩, hq, hsome⟩
    dsimp only at hsome
    split at hsome
    next hbelow =>
      cases hsome
      obtain ⟨l, rfl⟩ := List.isPrefixOf_iff_prefix.mp hbelow.1
      rw [List.drop_left]
      refine ⟨?_, hq⟩
      rintro rfl
      exact hbelow.2 (List.append_nil p)
    · cases hsome
  · rintro ⟨hl, hmem⟩
    refine ⟨(p ++ l, n), hmem, ?_⟩
    dsimp only
    rw [if_pos ⟨List.isPrefixOf_iff_prefix.mpr (List.prefix_append p l), by simpa using hl⟩,
      List.drop_left]

lemma Proper.pairwise_below (ht : t.Proper) (p : Place) :
    (t.below p).Pairwise fun x y => x.1 < y.1 := by
  rw [below]
  refine pairwise_foldr_insertInOrder (List.Pairwise.filterMap _ ?_ (List.pairwise_map.mp ht.nodup))
  rintro ⟨q, n⟩ ⟨r, m⟩ hne x hx y hy heq
  refine hne ?_
  dsimp only at hx hy ⊢
  split at hx <;> split at hy <;> cases hx <;> cases hy
  next hq hr =>
    obtain ⟨l, rfl⟩ := List.isPrefixOf_iff_prefix.mp hq.1
    obtain ⟨l', rfl⟩ := List.isPrefixOf_iff_prefix.mp hr.1
    rw [List.drop_left, List.drop_left] at heq
    exact congrArg (p ++ ·) heq

/-- The name of a file that is not in a directory below. -/
def entry : Place × FileNode → Option String
  | ([name], .file _) => some name
  | _ => none

lemma ne_empty_of_checkPath {path : String} (h : checkPath path = .ok ()) : path ≠ "" := by
  rintro rfl
  cases h

section Read

variable (hname : IsName name) (hslash : '/' ∉ name.toList)
include hslash

lemma follow_join (hne : directory ≠ "")
    (hfollow : t.follow (t.start directory) (names directory) = .ok p) :
    t.follow (t.start (Path.join directory name)) (names (Path.join directory name))
      = t.follow p [name] := by
  have hname := names_of_no_slash hslash
  rcases Path.join_cases directory (Path.isAbsolute_of_no_slash hslash) with
    ⟨rfl, -⟩ | ⟨hne, ⟨l, rfl, hjoin⟩ | hjoin⟩
  · exact absurd rfl hne
  · have hnames : names (l ++ "/") = names l ++ [""] := by
      have := names_append_slash l ""
      rwa [String.append_empty] at this
    rw [hnames] at hfollow
    obtain ⟨q, hq, hlast⟩ := follow_append_eq_ok_iff.mp hfollow
    obtain rfl : q = p := Except.ok.inj (follow_cons_eq_ok_iff.mp hlast).2.2
    rw [hjoin, names_append_slash, hname, start, Path.isAbsolute_append hne]
    exact follow_append_of_ok hq
  · rw [hjoin, names_append_slash, hname, start, String.append_assoc,
      Path.isAbsolute_append hne]
    exact follow_append_of_ok hfollow

include hname

/-- What is read of a file in a directory. -/
lemma Holds.read_join (h : t.Holds directory name p bytes) :
    t.read (Path.join directory name)
      = (checkPath (Path.join directory name)).bind fun _ =>
        if maxName < name.utf8ByteSize then .error .nameTooLong else .ok bytes := by
  rw [read, FileTree.place]
  cases checkPath (Path.join directory name) with
  | error e => rfl
  | ok u =>
    show (t.follow (t.start _) _ >>= fun q => _) = ite _ _ _
    obtain ⟨hcheck, hfollow⟩ := place_eq_ok_iff.mp h.place
    rw [follow_join hslash (ne_empty_of_checkPath hcheck) hfollow,
      follow_cons_of_isName (isDirectoryAt_iff.mpr h.there) hname, h.file]
    split
    · rfl
    · simp [bind, Except.bind, follow, h.file]

/-- A file in a directory reads the same as long as it stays and the directories do. -/
theorem Holds.read_eq (h : t.Holds directory name p bytes) (hkeep : t.KeepsDirectories t')
    (hfile : t'.find? (p ++ [name]) = some (.file bytes)) :
    t'.Holds directory name p bytes ∧
      t'.read (Path.join directory name) = t.read (Path.join directory name) := by
  obtain ⟨hcheck, hfollow⟩ := place_eq_ok_iff.mp h.place
  have hthere := hkeep.directories p h.there
  have hstart : t'.start directory = t.start directory := by
    rw [start, start, hkeep.working]
  have h' : t'.Holds directory name p bytes :=
    { place := place_eq_ok_iff.mpr ⟨hcheck, by
        rw [hstart]
        exact follow_of_keeps hkeep hfollow (by rw [hthere]; rfl)⟩
      there := hthere
      file := hfile }
  exact ⟨h', by rw [h'.read_join hname hslash, h.read_join hname hslash]⟩

end Read

end FileTree
end Deprecation
