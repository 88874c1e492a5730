/-
# Where paths lead

A tree of files has no links, so where a path leads is decided by its names alone: an empty
name and `.` stay, `..` goes back, and any other name goes on.  The files only decide whether
the way is open.  This file sets up the place that a path leads to if it leads anywhere, says
what it is for joined paths, and shows that the file beside a path is another file.
-/
import Mathlib
import Deprecation.Files.Tree
import Deprecation.Store.File

namespace Deprecation

/-- The last item of a list that a test does not pass over, what is before it and what is
behind it. -/
lemma split_at_dropWhile_reverse {α : Type} {f : α → Bool} {l before : List α} {last : α}
    (h : l.reverse.dropWhile f = last :: before) :
    f last = false ∧ ∃ tail, l = before.reverse ++ last :: tail ∧ ∀ x ∈ tail, f x = true := by
  have hlast : f last = false := by
    have hne : l.reverse.dropWhile f ≠ [] := by
      rw [h]
      exact List.cons_ne_nil _ _
    have := List.head_dropWhile_not f hne
    simpa [h] using this
  refine ⟨hlast, (l.reverse.takeWhile f).reverse, ?_, ?_⟩
  · have hsplit := List.takeWhile_append_dropWhile (p := f) (l := l.reverse)
    rw [h] at hsplit
    calc l = l.reverse.reverse := l.reverse_reverse.symm
      _ = (l.reverse.takeWhile f ++ last :: before).reverse := by rw [hsplit]
      _ = before.reverse ++ last :: (l.reverse.takeWhile f).reverse := by simp
  · intro x hx
    exact List.mem_takeWhile_imp (List.mem_reverse.mp hx)

/-! ## Pieces -/

namespace Path

lemma pieces_cons (c : Char) (s : List Char) :
    pieces (c :: s) = if c = '/' then [] :: pieces s
      else match pieces s with
        | [] => [[c]]
        | first :: others => (c :: first) :: others := rfl

lemma pieces_ne_nil (s : List Char) : pieces s ≠ [] := by
  cases s with
  | nil => simp [pieces]
  | cons c s =>
    rw [pieces_cons]
    split
    · simp
    · split <;> simp

lemma pieces_append_slash (a b : List Char) : pieces (a ++ '/' :: b) = pieces a ++ pieces b := by
  induction a with
  | nil => rfl
  | cons c a ih =>
    rw [List.cons_append, pieces_cons, pieces_cons, ih]
    split
    · rfl
    · cases h : pieces a with
      | nil => exact absurd h (pieces_ne_nil a)
      | cons first others => rfl

lemma pieces_of_no_slash {s : List Char} (h : '/' ∉ s) : pieces s = [s] := by
  induction s with
  | nil => rfl
  | cons c s ih =>
    rw [List.mem_cons, not_or] at h
    rw [pieces_cons, if_neg (Ne.symm h.1), ih h.2]

lemma no_slash_of_mem_pieces {s p : List Char} (h : p ∈ pieces s) : '/' ∉ p := by
  induction s generalizing p with
  | nil =>
    rw [List.mem_singleton.mp h]
    simp
  | cons c s ih =>
    rw [pieces_cons] at h
    split at h
    · rcases List.mem_cons.mp h with rfl | h
      · simp
      · exact ih h
    next hc =>
      cases hs : pieces s with
      | nil => exact absurd hs (pieces_ne_nil s)
      | cons first others =>
        rw [hs] at h ih
        rcases List.mem_cons.mp h with rfl | h
        · rw [List.mem_cons, not_or]
          exact ⟨Ne.symm hc, ih List.mem_cons_self⟩
        · exact ih (List.mem_cons_of_mem _ h)

/-- The pieces that are not skipped are the same whether or not the start of the path is taken
off. -/
lemma filter_pieces (s : List Char) :
    (pieces s).filter (!isSkipped ·) = (split s).2.filter (!isSkipped ·) := by
  unfold split
  split
  · rfl
  · rfl
  · rfl
  · rfl

/-! ## Parts of a name -/

/-- A name before and after its last dot. -/
lemma splitName_eq_some_iff {l before after : List Char} :
    splitName l = some (before, after) ↔
      l = before ++ '.' :: after ∧ '.' ∉ after ∧ before ≠ [] := by
  rw [splitName]
  constructor
  · intro h
    have hsplit := List.takeWhile_append_dropWhile (p := fun c => decide (c ≠ '.')) (l := l.reverse)
    have hafter : '.' ∉ l.reverse.takeWhile (· ≠ '.') := by
      intro hmem
      simpa using List.mem_takeWhile_imp hmem
    split at h
    next c c' before' hdrop =>
      obtain ⟨rfl, rfl⟩ := Prod.mk.inj (Option.some.inj h)
      have hdot : c = '.' := by
        simpa using (split_at_dropWhile_reverse hdrop).1
      rw [hdrop, hdot] at hsplit
      generalize l.reverse.takeWhile (· ≠ '.') = tail at hsplit hafter
      refine ⟨?_, by simpa using hafter, by simp⟩
      rw [← l.reverse_reverse, ← hsplit]
      simp
    · cases h
  · rintro ⟨rfl, hafter, hbefore⟩
    obtain ⟨c, before', hc⟩ := List.exists_cons_of_ne_nil (mt List.reverse_eq_nil_iff.mp hbefore)
    have hpos : ∀ c ∈ after.reverse, decide (c ≠ '.') = true := by
      intro c hc
      rw [decide_eq_true_iff]
      rintro rfl
      exact hafter (List.mem_reverse.mp hc)
    have hrev : (before ++ '.' :: after).reverse = after.reverse ++ '.' :: c :: before' := by
      simp [hc]
    rw [hrev, List.dropWhile_append_of_pos hpos, List.takeWhile_append_of_pos hpos,
      List.dropWhile_cons_of_neg (by decide), List.takeWhile_cons_of_neg (by decide)]
    simp [← hc]

/-! ## Joining -/

lemma isAbsolute_append {base : String} (hbase : base ≠ "") (tail : String) :
    isAbsolute (base ++ tail) = isAbsolute base := by
  have hne : base.toList ≠ [] := fun h => hbase (String.toList_eq_nil_iff.mp h)
  obtain ⟨c, l, hl⟩ := List.exists_cons_of_ne_nil hne
  rw [isAbsolute, isAbsolute, String.toList_append, hl]
  rfl

/-- A relative path is put behind a slash, unless the other path is empty. -/
lemma join_cases (base : String) {p : String} (hp : isAbsolute p = false) :
    (base = "" ∧ join base p = p) ∨
      (base ≠ "" ∧ ((∃ l, base = l ++ "/" ∧ join base p = l ++ "/" ++ p) ∨
        join base p = base ++ "/" ++ p)) := by
  rw [join, hp, if_neg Bool.false_ne_true]
  by_cases hempty : base = ""
  · rw [if_pos (Or.inl hempty), hempty, String.empty_append]
    exact Or.inl ⟨rfl, rfl⟩
  refine Or.inr ⟨hempty, ?_⟩
  by_cases hslash : base.toList.getLast? = some '/'
  · obtain ⟨l, hl⟩ := List.getLast?_eq_some_iff.mp hslash
    have hbase : base = String.ofList l ++ "/" := by
      apply String.toList_inj.mp
      rw [hl, String.toList_append, String.toList_ofList]
      rfl
    rw [if_pos (Or.inr hslash)]
    exact Or.inl ⟨String.ofList l, hbase, congrArg (· ++ p) hbase⟩
  · rw [if_neg (by simp [hempty, hslash])]
    exact Or.inr rfl

end Path

namespace FileTree

/-! ## Walking along names -/

/-- A name of something in a directory, not one that stays or goes back. -/
def IsName (name : String) : Prop := name ≠ "" ∧ name ≠ "." ∧ name ≠ ".."

/-- Where a name leads from a place. -/
def advance (p : Place) (name : String) : Place :=
  if name = "" ∨ name = "." then p
  else if name = ".." then p.dropLast
  else p ++ [name]

/-- Where names lead from a place. -/
def walk (p : Place) (l : List String) : Place := l.foldl advance p

/-- The place that a path leads to from a working directory, if the way is open. -/
def leadsTo (working : Place) (path : String) : Place :=
  walk (if Path.isAbsolute path then [] else working) (names path)

@[simp] lemma walk_cons (p : Place) (name : String) (l : List String) :
    walk p (name :: l) = walk (advance p name) l := rfl

lemma walk_append (p : Place) (l l' : List String) : walk p (l ++ l') = walk (walk p l) l' :=
  List.foldl_append

lemma isSkipped_toList_iff {name : String} :
    Path.isSkipped name.toList = true ↔ name = "" ∨ name = "." := by
  have hdot : ['.'] = ".".toList := rfl
  rw [Path.isSkipped, Bool.or_eq_true, decide_eq_true_iff, decide_eq_true_iff,
    String.toList_eq_nil_iff, hdot, String.toList_inj]

/-- A piece that is not skipped is a name, unless it goes back. -/
lemma isName_of_not_skipped {piece : List Char} (hskip : Path.isSkipped piece = false)
    (hback : piece ≠ ['.', '.']) : IsName (String.ofList piece) := by
  have hnot : ¬ (String.ofList piece = "" ∨ String.ofList piece = ".") := by
    rw [← isSkipped_toList_iff, String.toList_ofList, hskip]
    exact Bool.false_ne_true
  refine ⟨fun h => hnot (Or.inl h), fun h => hnot (Or.inr h), fun hdots => hback ?_⟩
  rw [← String.toList_ofList (l := piece), hdots]
  rfl

lemma advance_of_skipped {name : String} (h : Path.isSkipped name.toList = true) (p : Place) :
    advance p name = p := by
  rw [advance, if_pos (isSkipped_toList_iff.mp h)]

lemma advance_of_isName {name : String} (h : IsName name) (p : Place) :
    advance p name = p ++ [name] := by
  rw [advance, if_neg (not_or.mpr ⟨h.1, h.2.1⟩), if_neg h.2.2]

/-- Skipped pieces do not matter. -/
lemma walk_filter (p : Place) (ps : List (List Char)) :
    walk p ((ps.filter (!Path.isSkipped ·)).map String.ofList) = walk p (ps.map String.ofList) := by
  induction ps generalizing p with
  | nil => rfl
  | cons x ps ih =>
    rw [List.filter_cons, List.map_cons, walk_cons]
    split
    · rw [List.map_cons, walk_cons, ih]
    · next hx =>
      rw [ih, advance_of_skipped]
      simpa using hx

lemma walk_of_skipped {ps : List (List Char)} (h : ∀ x ∈ ps, Path.isSkipped x = true)
    (p : Place) : walk p (ps.map String.ofList) = p := by
  have hnone : ps.filter (!Path.isSkipped ·) = [] := by
    apply List.filter_eq_nil_iff.mpr
    intro x hx
    simp [h x hx]
  rw [← walk_filter, hnone]
  rfl

/-! ## Joined paths -/

lemma names_append_slash (a b : String) : names (a ++ "/" ++ b) = names a ++ names b := by
  have hlist : (a ++ "/" ++ b).toList = a.toList ++ '/' :: b.toList := by
    rw [String.toList_append, String.toList_append, List.append_assoc]
    rfl
  rw [names, hlist, Path.pieces_append_slash, List.map_append]
  rfl

lemma names_of_no_slash {name : String} (h : '/' ∉ name.toList) : names name = [name] := by
  rw [names, Path.pieces_of_no_slash h, List.map_singleton, String.ofList_toList]

/-- A relative path that is looked up from another path starts where that one leads. -/
theorem leadsTo_join (working : Place) (base : String) {p : String}
    (hp : Path.isAbsolute p = false) :
    leadsTo working (Path.join base p) = walk (leadsTo working base) (names p) := by
  rcases Path.join_cases base hp with ⟨rfl, hjoin⟩ | ⟨hbase, ⟨l, rfl, hjoin⟩ | hjoin⟩
  · rw [hjoin, leadsTo, hp]
    rfl
  · -- the slash at the end leads nowhere by itself
    have hnames : names (l ++ "/") = names l ++ [""] := by
      have := names_append_slash l ""
      rwa [String.append_empty] at this
    rw [hjoin, leadsTo, leadsTo, Path.isAbsolute_append hbase, names_append_slash, hnames,
      walk_append, walk_append]
    rfl
  · rw [hjoin, leadsTo, leadsTo, String.append_assoc, Path.isAbsolute_append hbase,
      ← String.append_assoc, names_append_slash, walk_append]

/-! ## The last name -/

/-- The last name of a path is the last name of the place that it leads to. -/
theorem leadsTo_of_fileName {path name : String} (h : Path.fileName path = some name)
    (working : Place) :
    '/' ∉ name.toList ∧ ∃ p, leadsTo working path = p ++ [name] := by
  rw [Path.fileName] at h
  generalize hps : (Path.split path.toList).2 = ps at h
  cases hback : Path.backwards ps with
  | nil =>
    rw [hback] at h
    cases h
  | cons last before =>
    rw [hback] at h
    dsimp only at h
    split at h
    · cases h
    next hlast =>
    cases h
    obtain ⟨hskip, tail, hsplit, htail⟩ := split_at_dropWhile_reverse hback
    have hmem : last ∈ Path.pieces path.toList := by
      refine List.mem_of_mem_filter (p := (!Path.isSkipped ·)) ?_
      rw [Path.filter_pieces, hps, hsplit]
      simp [hskip]
    refine ⟨by simpa using Path.no_slash_of_mem_pieces hmem, ?_⟩
    refine ⟨walk (if Path.isAbsolute path then [] else working)
      (before.reverse.map String.ofList), ?_⟩
    have hname := isName_of_not_skipped hskip hlast
    rw [leadsTo, names, ← walk_filter, Path.filter_pieces, walk_filter, hps, hsplit,
      List.map_append, walk_append, List.map_cons, walk_cons, walk_of_skipped htail]
    exact advance_of_isName hname _

/-- A name that is looked up from a path leads on by itself. -/
lemma leadsTo_join_name (working : Place) (base : String) {name : String}
    (hslash : '/' ∉ name.toList) (hname : IsName name) :
    leadsTo working (Path.join base name) = leadsTo working base ++ [name] := by
  have hrelative : Path.isAbsolute name = false := by
    rw [Path.isAbsolute, decide_eq_false_iff_not]
    intro hhead
    exact hslash (List.mem_of_head? hhead)
  rw [leadsTo_join working base hrelative, names_of_no_slash hslash]
  exact advance_of_isName hname _

lemma leadsTo_join_tmp (working : Place) (base : String) {name : String}
    (hslash : '/' ∉ name.toList) :
    leadsTo working (Path.join base (name ++ ".tmp"))
      = leadsTo working base ++ [name ++ ".tmp"] := by
  have hlength : 4 ≤ (name ++ ".tmp").length := by
    rw [String.length_append]
    exact Nat.le_add_left 4 _
  refine leadsTo_join_name working base ?_ ⟨?_, ?_, ?_⟩
  · rw [String.toList_append, List.mem_append, not_or]
    exact ⟨hslash, by decide⟩
  all_goals
    intro h
    rw [h] at hlength
    exact absurd hlength (by decide)

/-- The file beside a snapshot file is another file. -/
theorem leadsTo_temporary_ne (working : Place) (path : String) :
    leadsTo working (SnapshotFile.temporary path) ≠ leadsTo working path := by
  intro h
  rw [SnapshotFile.temporary, Path.withFileName] at h
  cases hname : Path.fileName path with
  | none =>
    -- the path ends with no name, and the other file is below it
    rw [hname, Option.getD_none] at h
    dsimp only at h
    rw [leadsTo_join_tmp working path (by decide)] at h
    simp at h
  | some name =>
    obtain ⟨hslash, p, hp⟩ := leadsTo_of_fileName hname working
    rw [hname, Option.getD_some] at h
    dsimp only at h
    rw [leadsTo_join_tmp working _ hslash, hp] at h
    have hlast := List.singleton_inj.mp (List.append_inj' h rfl).2
    have hlength := congrArg String.length hlast
    rw [String.length_append] at hlength
    have : ".tmp".length = 4 := rfl
    omega

end FileTree

end Deprecation
