/-
# The directory that a path is in

The parent of a path is a text, made of the pieces of the path that come before its last name.
Without the name `..` a path only goes on, so its parent leads to a place before the one that it
leads to itself, and to the directory of this place if the path ends with a name.
-/
import Mathlib
import Deprecation.Proofs.Files.Path

namespace Deprecation

/-! ## Pieces that are put together -/

namespace Path

lemma pieces_joined {l : List (List Char)} (hl : ∀ p ∈ l, '/' ∉ p) (hne : l ≠ []) :
    pieces (joined l) = l := by
  induction l with
  | nil => exact absurd rfl hne
  | cons p l ih =>
    have hp : '/' ∉ p := hl p List.mem_cons_self
    cases l with
    | nil => exact pieces_of_no_slash hp
    | cons q l =>
      have hrest := ih (fun r hr => hl r (List.mem_cons_of_mem p hr)) (List.cons_ne_nil q l)
      rw [joined, pieces_append_slash, pieces_of_no_slash hp, hrest]
      · rfl
      · exact List.cons_ne_nil q l

lemma joined_cons {p : List Char} {l : List (List Char)} (hne : l ≠ []) :
    joined (p :: l) = p ++ '/' :: joined l := by
  obtain ⟨q, l, rfl⟩ := List.exists_cons_of_ne_nil hne
  exact joined.eq_3 p (q :: l) (List.cons_ne_nil q l)

/-- The names of a path, without the pieces that are skipped. -/
def steps (s : List Char) : List (List Char) := (pieces s).filter (!isSkipped ·)

lemma steps_joined {l : List (List Char)} (hl : ∀ p ∈ l, '/' ∉ p) :
    steps (joined l) = l.filter (!isSkipped ·) := by
  cases l with
  | nil => rfl
  | cons p l => rw [steps, pieces_joined hl (List.cons_ne_nil p l)]

lemma steps_slash (s : List Char) : steps ('/' :: s) = steps s := rfl

/-- A path starts at the root, or it is the name `.`, or it starts with this name, or none of
these holds. -/
lemma split_cases (s : List Char) :
    (∃ rest, s = '/' :: rest ∧ split s = (['/'], pieces rest)) ∨
    (s = ['.'] ∧ split s = (['.'], [])) ∨
    (∃ rest, s = '.' :: '/' :: rest ∧ split s = (['.'], pieces ('/' :: rest))) ∨
    (s.head? ≠ some '/' ∧ split s = ([], pieces s)) := by
  rw [split.eq_def]
  split
  · next rest => exact Or.inl ⟨rest, rfl, rfl⟩
  · exact Or.inr (Or.inl ⟨rfl, rfl⟩)
  · next rest => exact Or.inr (Or.inr (Or.inl ⟨rest, rfl, rfl⟩))
  · next hroot _ _ =>
    refine Or.inr (Or.inr (Or.inr ⟨?_, rfl⟩))
    intro hhead
    cases s with
    | nil => cases hhead
    | cons c s =>
      rw [Option.some.inj hhead] at hroot
      exact hroot s rfl

/-- The first piece of a path that does not start with a slash is the beginning of the path. -/
lemma head?_joined_ne {s : List Char} {l rest : List (List Char)} (hs : s.head? ≠ some '/')
    (hsplit : pieces s = l ++ rest) (hlast : ∀ p ∈ l.getLast?, isSkipped p = false) :
    (joined l).head? ≠ some '/' := by
  cases l with
  | nil => simp [joined]
  | cons p l =>
    cases s with
    | nil =>
      -- the one piece of the empty path is skipped
      have hp : p = [] ∧ l = [] := by
        obtain ⟨hp, hl⟩ := List.cons.inj hsplit
        exact ⟨hp.symm, (List.append_eq_nil_iff.mp hl.symm).1⟩
      rw [hp.1, hp.2] at hlast
      exact absurd (hlast [] rfl) (by decide)
    | cons c s =>
      have hc : c ≠ '/' := fun heq => hs (by rw [heq]; rfl)
      have hp : ∃ p', p = c :: p' := by
        rw [pieces_cons, if_neg hc] at hsplit
        split at hsplit
        · exact ⟨[], (List.cons.inj hsplit).1.symm⟩
        · exact ⟨_, (List.cons.inj hsplit).1.symm⟩
      obtain ⟨p', rfl⟩ := hp
      have hhead : (joined ((c :: p') :: l)).head? = some c := by
        cases l with
        | nil => rfl
        | cons q l => rfl
      rw [hhead]
      exact fun heq => hc (Option.some.inj heq)

lemma parent_eq (path : String) :
    parent path = match backwards (split path.toList).2 with
      | _ :: before => some (String.ofList
          ((split path.toList).1 ++ joined (before.dropWhile isSkipped).reverse))
      | [] => if (split path.toList).1 = ['.'] then some "" else none := rfl

/-- The first pieces of a path, behind its start, are the pieces of a path of their own. -/
lemma steps_of_split {s : List Char} {l rest : List (List Char)} (hsplit : (split s).2 = l ++ rest)
    (hrest : rest ≠ []) (hlast : ∀ p ∈ l.getLast?, isSkipped p = false) :
    steps ((split s).1 ++ joined l) = l.filter (!isSkipped ·) ∧
      (((split s).1 ++ joined l).head? = some '/' ↔ s.head? = some '/') := by
  have hnoslash : ∀ s' : List Char, pieces s' = l ++ rest → ∀ p ∈ l, '/' ∉ p := by
    intro s' hs' p hp
    refine no_slash_of_mem_pieces (s := s') ?_
    rw [hs']
    exact List.mem_append_left rest hp
  rcases split_cases s with ⟨s', rfl, hs⟩ | ⟨rfl, hs⟩ | ⟨s', rfl, hs⟩ | ⟨hhead, hs⟩
  · rw [hs] at hsplit ⊢
    rw [List.singleton_append, steps_slash, steps_joined (hnoslash s' hsplit)]
    exact ⟨rfl, by simp⟩
  · rw [hs] at hsplit
    exact absurd (List.append_eq_nil_iff.mp hsplit.symm).2 hrest
  · rw [hs] at hsplit ⊢
    refine ⟨?_, by simp⟩
    have hjoined := steps_joined (hnoslash _ hsplit)
    cases l with
    | nil => rfl
    | cons p l =>
      -- the piece before the first slash is empty
      obtain ⟨rfl, -⟩ := List.cons.inj hsplit
      have hne : l ≠ [] := by
        rintro rfl
        exact absurd (hlast [] rfl) (by decide)
      rw [joined_cons hne] at hjoined ⊢
      rw [← hjoined]
      rfl
  · rw [hs] at hsplit ⊢
    rw [List.nil_append]
    exact ⟨steps_joined (hnoslash s hsplit),
      iff_of_false (head?_joined_ne hhead hsplit hlast) hhead⟩

/-- The pieces of a path: those that its parent is made of, skipped ones, the last name, and
skipped ones again. -/
lemma exists_pieces_of_backwards {ps before : List (List Char)} {last : List Char}
    (h : backwards ps = last :: before) :
    ∃ rest, ps = (before.dropWhile isSkipped).reverse ++ rest ∧
      rest.filter (!isSkipped ·) = [last] := by
  obtain ⟨hlast, tail, hps, htail⟩ := split_at_dropWhile_reverse h
  have hnone : ∀ l : List (List Char), (∀ p ∈ l, isSkipped p = true) →
      l.filter (!isSkipped ·) = [] := by
    intro l hl
    refine List.filter_eq_nil_iff.mpr fun p hp => ?_
    simp [hl p hp]
  refine ⟨(before.takeWhile isSkipped).reverse ++ last :: tail, ?_, ?_⟩
  · rw [← List.append_assoc, ← List.reverse_append, List.takeWhile_append_dropWhile, hps]
  · rw [List.filter_append, List.filter_cons_of_pos (by simp [hlast]), hnone tail htail,
      hnone _ fun p hp => List.mem_takeWhile_imp (List.mem_reverse.mp hp)]
    rfl

/-- The names that a path is made of, and those of its parent. -/
lemma parent_of_backwards {path : String} {last : List Char} {before : List (List Char)}
    (hback : backwards (split path.toList).2 = last :: before) :
    ∃ q, parent path = some q ∧ isAbsolute q = isAbsolute path ∧
      steps path.toList = steps q.toList ++ [last] := by
  obtain ⟨rest, hps, hrest⟩ := exists_pieces_of_backwards hback
  have hne : rest ≠ [] := by
    rintro rfl
    cases hrest
  have hend : ∀ p ∈ (before.dropWhile isSkipped).reverse.getLast?, isSkipped p = false := by
    intro p hp
    rw [List.getLast?_reverse] at hp
    have hskip := List.head?_dropWhile_not isSkipped before
    rw [hp] at hskip
    simpa using hskip
  obtain ⟨hsteps, habsolute⟩ := steps_of_split hps hne hend
  refine ⟨String.ofList ((split path.toList).1 ++
    joined (before.dropWhile isSkipped).reverse), ?_, ?_, ?_⟩
  · rw [parent_eq, hback]
  · rw [isAbsolute, isAbsolute, String.toList_ofList]
    exact decide_eq_decide.mpr habsolute
  · have hpath : steps path.toList = (split path.toList).2.filter (!isSkipped ·) :=
      filter_pieces path.toList
    rw [hpath, String.toList_ofList, hsteps, hps, List.filter_append, hrest]

end Path

/-! ## Where the parent leads -/

namespace FileTree

/-- Going along the steps of a path leads where its names lead. -/
lemma leadsTo_eq_walk_steps (working : Place) (path : String) :
    leadsTo working path = walk (if Path.isAbsolute path then [] else working)
      ((Path.steps path.toList).map String.ofList) :=
  (walk_filter _ (Path.pieces path.toList)).symm

lemma dots_mem_names_iff {path : String} :
    ".." ∈ names path ↔ ['.', '.'] ∈ Path.steps path.toList := by
  have hdots : String.ofList ['.', '.'] = ".." := rfl
  rw [names, ← hdots, List.mem_map_of_injective fun _ _ h => String.ofList_injective h, Path.steps,
    List.mem_filter]
  exact (and_iff_left (by decide)).symm

/-- A path whose last piece is a name leads to this name in the place that its parent leads to. -/
lemma leadsTo_of_backwards {path : String} {last : List Char} {before : List (List Char)}
    (hback : Path.backwards (Path.split path.toList).2 = last :: before)
    (hlast : last ≠ ['.', '.']) :
    ∃ q, Path.parent path = some q ∧ Path.isAbsolute q = Path.isAbsolute path ∧
      Path.steps path.toList = Path.steps q.toList ++ [last] ∧
      ∀ working, leadsTo working path = leadsTo working q ++ [String.ofList last] := by
  obtain ⟨q, hq, habsolute, hsteps⟩ := Path.parent_of_backwards hback
  refine ⟨q, hq, habsolute, hsteps, fun working => ?_⟩
  have hmem : last ∈ Path.steps path.toList := by simp [hsteps]
  have hskip : Path.isSkipped last = false := by
    simpa using (List.mem_filter.mp hmem).2
  have hname := isName_of_not_skipped hskip hlast
  rw [leadsTo_eq_walk_steps, leadsTo_eq_walk_steps, habsolute, hsteps, List.map_append,
    walk_append]
  exact advance_of_isName hname _

/-- Where a path without the name `..` leads is behind the place that its parent leads to, by the
last name of the path. -/
theorem parent_leadsTo {path q : String} (h : Path.parent path = some q)
    (hdots : ".." ∉ names path) (working : Place) :
    ".." ∉ names q ∧ Path.isAbsolute q = Path.isAbsolute path ∧
      (leadsTo working path = leadsTo working q ∨
        ∃ name, leadsTo working path = leadsTo working q ++ [name]) := by
  cases hback : Path.backwards (Path.split path.toList).2 with
  | nil =>
    -- the path is the name `.`, or goes on with nothing but pieces that are skipped
    rw [Path.parent_eq, hback] at h
    dsimp only at h
    split at h
    next hstart =>
      obtain rfl : "" = q := Option.some.inj h
      have hnone : Path.steps path.toList = [] := by
        refine (Path.filter_pieces path.toList).trans (List.filter_eq_nil_iff.mpr fun p hp => ?_)
        have hall := List.dropWhile_eq_nil_iff.mp hback
        simp [hall p (List.mem_reverse.mpr hp)]
      have hrelative : Path.isAbsolute path = false := by
        rw [Path.isAbsolute, decide_eq_false_iff_not]
        intro hhead
        obtain ⟨rest, hs⟩ := List.head?_eq_some_iff.mp hhead
        rw [hs] at hstart
        exact absurd hstart (by simp [Path.split])
      refine ⟨by decide, hrelative.symm, Or.inl ?_⟩
      rw [leadsTo_eq_walk_steps, leadsTo_eq_walk_steps, hnone, hrelative]
      rfl
    · cases h
  | cons last before =>
    have hlast : last ≠ ['.', '.'] := by
      rintro rfl
      obtain ⟨_, -, -, hsteps⟩ := Path.parent_of_backwards hback
      exact hdots (dots_mem_names_iff.mpr (by simp [hsteps]))
    obtain ⟨q', hq', habsolute, hsteps, hleads⟩ := leadsTo_of_backwards hback hlast
    obtain rfl : q' = q := Option.some.inj (hq'.symm.trans h)
    refine ⟨?_, habsolute, Or.inr ⟨_, hleads working⟩⟩
    intro hmem
    refine hdots (dots_mem_names_iff.mpr ?_)
    rw [hsteps]
    exact List.mem_append_left _ (dots_mem_names_iff.mp hmem)

/-- A path that ends with a name has a parent, and leads to this name in the place that its parent
leads to. -/
theorem exists_parent_of_fileName {path name : String} (h : Path.fileName path = some name) :
    ∃ q, Path.parent path = some q ∧
      ∀ working, leadsTo working path = leadsTo working q ++ [name] := by
  rw [Path.fileName] at h
  cases hback : Path.backwards (Path.split path.toList).2 with
  | nil =>
    rw [hback] at h
    cases h
  | cons last before =>
    rw [hback] at h
    dsimp only at h
    split at h
    · cases h
    next hlast =>
    cases h
    obtain ⟨q, hq, -, -, hleads⟩ := leadsTo_of_backwards hback hlast
    exact ⟨q, hq, hleads⟩

end FileTree

end Deprecation
