/-
# The leftmost match

A search finds the match that begins first.  Two facts about a search under way give this.  What it
finds comes from one of its threads, or from the match found so far, or begins later on.  And for
whatever a thread can still accept, it finds a match that began with this thread or before, since
threads are ordered by where they began and only a thread that began no later can end another.
-/
import Mathlib
import Deprecation.Proofs.Regex.Threads

namespace Deprecation.Regex.Search

/-- In a text behind the character `before`, the program can match `n` characters from the `k`-th
character on. -/
inductive Found (p : Program) : Option Char → List Char → Nat → Nat → Prop
  | here {before : Option Char} {rest : List Char} {n : Nat}
    (h : Accepts p.code before rest p.entry n) : Found p before rest 0 n
  | later {before : Option Char} {c : Char} {rest : List Char} {k n : Nat}
    (h : Found p (some c) rest k n) : Found p before (c :: rest) (k + 1) n

variable {p : Program} {before : Option Char} {place : Nat} {threads : List Thread}
  {found : Option Span} {rest : List Char}

lemma lastOr_nil (before : Option Char) : lastOr before [] = before := by
  simp [lastOr]

lemma lastOr_cons (before : Option Char) (c : Char) (taken : List Char) :
    lastOr before (c :: taken) = lastOr (some c) taken := by
  cases taken with
  | nil => simp [lastOr]
  | cons d taken =>
    rw [lastOr, lastOr, List.getLast?_cons_cons]
    simp [List.getLast?_eq_some_getLast (List.cons_ne_nil d taken)]

lemma lastOr_append (before : Option Char) (taken more : List Char) :
    lastOr before (taken ++ more) = lastOr (lastOr before taken) more := by
  induction taken generalizing before with
  | nil => rw [List.nil_append, lastOr_nil]
  | cons c taken ih => rw [List.cons_append, lastOr_cons, lastOr_cons, ih]

/-- Only characters of the text are accepted. -/
lemma Accepts.le_length {code : Array Instr} {q n : Nat} (h : Accepts code before rest q n) :
    n ≤ rest.length := by
  induction h with
  | accept => exact Nat.zero_le _
  | char _ _ _ ih => exact Nat.succ_le_succ ih
  | look _ _ _ ih | first _ _ ih | second _ _ ih => exact ih

lemma found_iff {k n : Nat} : Found p before rest k n ↔ k ≤ rest.length ∧
    Accepts p.code (lastOr before (rest.take k)) (rest.drop k) p.entry n := by
  induction k generalizing before rest with
  | zero =>
    rw [List.take_zero, lastOr_nil, List.drop_zero]
    constructor
    · intro h
      cases h with
      | here h => exact ⟨Nat.zero_le _, h⟩
    · exact fun h => .here h.2
  | succ k ih =>
    constructor
    · intro h
      cases h with
      | later h =>
        obtain ⟨hk, haccepts⟩ := ih.mp h
        rw [List.take_succ_cons, lastOr_cons, List.drop_succ_cons]
        exact ⟨Nat.succ_le_succ hk, haccepts⟩
    · rintro ⟨hk, haccepts⟩
      cases rest with
      | nil => cases hk
      | cons c rest =>
        rw [List.take_succ_cons, lastOr_cons, List.drop_succ_cons] at haccepts
        exact .later (ih.mpr ⟨Nat.le_of_succ_le_succ hk, haccepts⟩)

/-! ## One place -/

/-- The threads at a place, with the one that begins there while nothing is found. -/
def threadsAt (p : Program) (place : Nat) (threads : List Thread) (found : Option Span) :
    List Thread :=
  if found.isNone then threads ++ [⟨p.entry, place⟩] else threads

lemma mem_threadsAt {t : Thread} : t ∈ threadsAt p place threads found ↔
    t ∈ threads ∨ found = none ∧ t = ⟨p.entry, place⟩ := by
  cases found with
  | none => simp [threadsAt]
  | some m => simp [threadsAt]

/-- The threads of a search at a place: in the order in which they began, none behind the place,
and none behind the beginning of the match found so far. -/
structure UnderWay (place : Nat) (threads : List Thread) (found : Option Span) : Prop where
  sorted : threads.Pairwise (·.start ≤ ·.start)
  start_le : ∀ t ∈ threads, t.start ≤ place
  start_le_found : ∀ m, found = some m → m.start ≤ place ∧ ∀ t ∈ threads, t.start ≤ m.start

lemma underWay_nil (place : Nat) : UnderWay place [] none := ⟨List.Pairwise.nil, by simp, by simp⟩

namespace UnderWay

variable (h : UnderWay place threads found)
include h

lemma threadsAt (p : Program) : UnderWay place (threadsAt p place threads found) found where
  sorted := by
    rw [Search.threadsAt]
    split
    · refine List.pairwise_append.mpr ⟨h.sorted, List.pairwise_singleton _ _, ?_⟩
      intro t ht t' ht'
      rw [List.mem_singleton.mp ht']
      exact h.start_le t ht
    · exact h.sorted
  start_le := by
    intro t ht
    rcases mem_threadsAt.mp ht with ht | ⟨-, rfl⟩
    · exact h.start_le t ht
    · exact le_rfl
  start_le_found := by
    rintro m hm
    refine ⟨(h.start_le_found m hm).1, fun t ht => ?_⟩
    rcases mem_threadsAt.mp ht with ht | ⟨hnone, -⟩
    · exact (h.start_le_found m hm).2 t ht
    · rw [hm] at hnone
      cases hnone

lemma ordered_leavesAt {after : Option Char} :
    Ordered (leavesAt p before after place threads found) :=
  ordered_follow (h.threadsAt p).sorted List.Pairwise.nil (by simp)

omit h in
lemma start_le_of_mem_leavesAt {after : Option Char} {b : Nat}
    (hb : ∀ t ∈ Search.threadsAt p place threads found, t.start ≤ b) :
    ∀ l ∈ leavesAt p before after place threads found, l.start ≤ b := by
  intro l hl
  exact follow_keeps (P := (· ≤ b)) hb (by simp) l (Array.mem_toList_iff.mp hl)

end UnderWay

/-- Where one leaf of several in order accepts, all began there or before. -/
lemma start_le_of_accept {leaves : List Leaf} (hleaves : Ordered leaves) {start : Nat}
    (h : .accept start ∈ leaves) : ∀ l ∈ leaves, l.start ≤ start := by
  obtain ⟨front, back, rfl⟩ := List.append_of_mem h
  obtain ⟨-, hback, hfront⟩ := List.pairwise_append.mp hleaves
  intro l hl
  rcases List.mem_append.mp hl with hl | hl
  · exact (hfront l hl _ List.mem_cons_self).2
  rcases List.mem_cons.mp hl with rfl | hl
  · exact le_rfl
  · exact absurd rfl (((List.pairwise_cons.mp hback).1 l hl).1 start)

lemma mem_of_accepted {leaves : List Leaf} {start : Nat} (h : accepted leaves = some start) :
    .accept start ∈ leaves := by
  obtain ⟨l, hl, hsome⟩ := List.exists_of_findSome?_eq_some h
  cases l with
  | accept start' =>
    cases hsome
    exact hl
  | char s next start' => cases hsome

lemma accepted_of_mem {leaves : List Leaf} (hleaves : Ordered leaves) {start : Nat}
    (h : .accept start ∈ leaves) : accepted leaves = some start := by
  cases haccepted : accepted leaves with
  | none =>
    have hnone := List.findSome?_eq_none_iff.mp haccepted _ h
    cases hnone
  | some start' =>
    have hmem := mem_of_accepted haccepted
    have hle : start' ≤ start := start_le_of_accept hleaves h _ hmem
    have hge : start ≤ start' := start_le_of_accept hleaves hmem _ h
    rw [le_antisymm hle hge]

lemma mem_take {c : Char} {leaves : List Leaf} {t : Thread} :
    t ∈ take c leaves ↔ ∃ s, .char s t.state t.start ∈ leaves ∧ s.has c = true := by
  rw [take, List.mem_filterMap]
  constructor
  · rintro ⟨l, hl, hsome⟩
    cases l with
    | accept start => cases hsome
    | char s next start =>
      dsimp only at hsome
      split at hsome
      · next hc =>
        cases hsome
        exact ⟨s, hl, hc⟩
      · cases hsome
  · rintro ⟨s, hl, hc⟩
    exact ⟨_, hl, if_pos hc⟩

/-- What is under way stays in order when a character is taken. -/
lemma UnderWay.next (h : UnderWay place threads found) (c : Char) :
    UnderWay (place + 1) (take c (leavesAt p before (some c) place threads found))
      (foundAt place (leavesAt p before (some c) place threads found) found) := by
  have hordered : Ordered (leavesAt p before (some c) place threads found) := h.ordered_leavesAt
  have hplace : ∀ l ∈ leavesAt p before (some c) place threads found, l.start ≤ place :=
    UnderWay.start_le_of_mem_leavesAt (h.threadsAt p).start_le
  have hfound : ∀ m, found = some m → m.start ≤ place ∧
      ∀ l ∈ leavesAt p before (some c) place threads found, l.start ≤ m.start := by
    intro m hm
    obtain ⟨hm, hthreads⟩ := (h.threadsAt p).start_le_found m hm
    exact ⟨hm, UnderWay.start_le_of_mem_leavesAt hthreads⟩
  generalize leavesAt p before (some c) place threads found = leaves at *
  refine ⟨?_, ?_, ?_⟩
  · refine List.Pairwise.filterMap _ ?_ hordered
    intro l l' hl t ht t' ht'
    have hstart {l : Leaf} {t : Thread} (ht : t ∈ take c [l]) : t.start = l.start := by
      obtain ⟨s, hmem, -⟩ := mem_take.mp ht
      rw [← List.mem_singleton.mp hmem]
      rfl
    rw [hstart (l := l) (by simpa [take] using ht), hstart (l := l') (by simpa [take] using ht')]
    exact hl.2
  · intro t ht
    exact (start_of_mem_take (P := (· ≤ place)) hplace c t ht).trans (Nat.le_succ place)
  · intro m hm
    have hm' : m.start ≤ place ∧ ∀ l ∈ leaves, l.start ≤ m.start := by
      rw [foundAt] at hm
      split at hm
      · next start haccepted =>
        cases hm
        have hmem := mem_of_accepted haccepted
        exact ⟨hplace _ hmem, start_le_of_accept hordered hmem⟩
      · exact hfound m hm
    exact ⟨hm'.1.trans (Nat.le_succ place), start_of_mem_take (P := (· ≤ m.start)) hm'.2 c⟩

/-! ## What a search can find -/

/-- The matches that a search under way can come to: the one found so far, what its threads
accept, and as long as nothing is found, whatever the program matches later on. -/
inductive Arises (p : Program) (before : Option Char) (place : Nat) (threads : List Thread)
    (found : Option Span) (rest : List Char) : Span → Prop
  | found {m : Span} (h : found = some m) : Arises p before place threads found rest m
  | thread {t : Thread} {n : Nat} (ht : t ∈ threads) (h : Accepts p.code before rest t.state n) :
    Arises p before place threads found rest ⟨t.start, place + n⟩
  | later {k n : Nat} (hnone : found = none) (h : Found p before rest k n) :
    Arises p before place threads found rest ⟨place + k, place + k + n⟩

/-- What a leaf reads, its thread accepts. -/
lemma arises_of_leaf (rest : List Char) {l : Leaf} {n : Nat}
    (hl : l ∈ leavesAt p before rest.head? place threads found) (hn : l.Reads p.code rest n) :
    Arises p before place threads found rest ⟨l.start, place + n⟩ := by
  rcases reads_of_follow rfl l (Array.mem_toList_iff.mp hl) with hmem | ⟨t, ht, hstart, hreads⟩
  · simp at hmem
  rw [← hstart]
  rcases mem_threadsAt.mp ht with ht | ⟨hnone, rfl⟩
  · exact .thread ht (hreads n hn)
  · exact .later hnone (.here (hreads n hn))

lemma arises_of_foundAt (rest : List Char) {m : Span}
    (h : foundAt place (leavesAt p before rest.head? place threads found) found = some m) :
    Arises p before place threads found rest m := by
  rw [foundAt] at h
  split at h
  · next start haccepted =>
    cases h
    exact arises_of_leaf rest (n := 0) (mem_of_accepted haccepted) rfl
  · exact .found h

/-- What arises behind a character arises in front of it. -/
lemma arises_cons {c : Char} {m : Span}
    (h : Arises p (some c) (place + 1) (take c (leavesAt p before (some c) place threads found))
      (foundAt place (leavesAt p before (some c) place threads found) found) rest m) :
    Arises p before place threads found (c :: rest) m := by
  cases h with
  | found h => exact arises_of_foundAt (c :: rest) h
  | @thread t n ht h =>
    obtain ⟨s, hl, hc⟩ := mem_take.mp ht
    have hreads : (Leaf.char s t.state t.start).Reads p.code (c :: rest) (n + 1) :=
      ⟨c, rest, n, rfl, hc, rfl, h⟩
    have hplace : place + 1 + n = place + (n + 1) := by omega
    rw [hplace]
    exact arises_of_leaf (c :: rest) hl hreads
  | @later k n hnone h =>
    have hfound : found = none := by
      rw [foundAt] at hnone
      split at hnone
      · cases hnone
      · exact hnone
    have hplace : place + 1 + k = place + (k + 1) := by omega
    rw [hplace]
    exact .later hfound (.later h)

/-- A search makes up no match. -/
theorem arises_of_run {m : Span} (h : run p before place threads found rest = some m) :
    Arises p before place threads found rest m := by
  induction rest generalizing before place threads found with
  | nil =>
    rw [run_nil] at h
    exact arises_of_foundAt [] h
  | cons c rest ih =>
    rw [run_cons] at h
    dsimp only at h
    split at h
    · exact arises_of_foundAt (c :: rest) h
    · exact arises_cons (ih h)

/-! ## What a search does find -/

/-- At a place a match is found that begins at `b` or before, or one arises behind the next
character. -/
def GoesOn (p : Program) (before : Option Char) (place : Nat) (threads : List Thread)
    (found : Option Span) (rest : List Char) (b : Nat) : Prop :=
  (∃ m, foundAt place (leavesAt p before rest.head? place threads found) found = some m ∧
    m.start ≤ b) ∨
  ∃ c rest' m, rest = c :: rest' ∧ m.start ≤ b ∧
    Arises p (some c) (place + 1) (take c (leavesAt p before rest.head? place threads found))
      (foundAt place (leavesAt p before rest.head? place threads found) found) rest' m

lemma goesOn_of_thread (h : UnderWay place threads found) {t : Thread} {n : Nat}
    (ht : t ∈ threadsAt p place threads found) (hn : Accepts p.code before rest t.state n) :
    GoesOn p before place threads found rest t.start := by
  obtain ⟨l, hl, hstart, hleaf⟩ := exists_leaf_of_accepts (h.threadsAt p).sorted ht hn
  have hmem : l ∈ leavesAt p before rest.head? place threads found := Array.mem_toList_iff.mpr hl
  cases l with
  | accept start =>
    refine Or.inl ⟨⟨start, place⟩, ?_, hstart⟩
    rw [foundAt, accepted_of_mem h.ordered_leavesAt hmem]
  | char s next start =>
    rcases hleaf with ⟨start', heq⟩ | ⟨c, rest', m, hrest, hc, -, haccepts⟩
    · cases heq
    · exact Or.inr ⟨c, rest', _, hrest, hstart,
        .thread (t := ⟨next, start⟩) (mem_take.mpr ⟨s, hmem, hc⟩) haccepts⟩

/-- What arises at a place is there or behind it, in a match that began no later. -/
lemma goesOn_of_arises (h : UnderWay place threads found) {m : Span}
    (hm : Arises p before place threads found rest m) :
    GoesOn p before place threads found rest m.start := by
  cases hm with
  | found hfound =>
    -- the match found so far stays, or gives way to one that began before
    left
    cases haccepted : accepted (leavesAt p before rest.head? place threads found) with
    | none => exact ⟨m, by rw [foundAt, haccepted, hfound], le_rfl⟩
    | some start =>
      refine ⟨⟨start, place⟩, by rw [foundAt, haccepted], ?_⟩
      exact UnderWay.start_le_of_mem_leavesAt ((h.threadsAt p).start_le_found m hfound).2 _
        (mem_of_accepted haccepted)
  | thread ht hn => exact goesOn_of_thread h (mem_threadsAt.mpr (Or.inl ht)) hn
  | later hnone hk =>
    cases hk with
    | here hn => exact goesOn_of_thread h (mem_threadsAt.mpr (Or.inr ⟨hnone, rfl⟩)) hn
    | @later _ c rest' k n hk =>
      cases hat : foundAt place (leavesAt p before (c :: rest').head? place threads found) found with
      | some m' =>
        refine Or.inl ⟨m', hat, ?_⟩
        have hstart : m'.start ≤ place + 1 := ((h.next c).start_le_found m' hat).1
        dsimp only
        omega
      | none =>
        refine Or.inr ⟨c, rest', _, rfl, ?_, .later hat hk⟩
        dsimp only
        omega

/-- A search finds a match that began no later than any that can arise. -/
theorem run_of_arises (h : UnderWay place threads found) {m : Span}
    (hm : Arises p before place threads found rest m) :
    ∃ m', run p before place threads found rest = some m' ∧ m'.start ≤ m.start := by
  induction rest generalizing before place threads found m with
  | nil =>
    rcases goesOn_of_arises h hm with ⟨m', hat, hle⟩ | ⟨c, rest', m', hrest, -⟩
    · exact ⟨m', hat, hle⟩
    · cases hrest
  | cons c rest ih =>
    rw [run_cons]
    dsimp only
    have hnext {m' : Span} (hm' : Arises p (some c) (place + 1)
        (take c (leavesAt p before (some c) place threads found))
        (foundAt place (leavesAt p before (some c) place threads found) found) rest m') :=
      ih (h.next c) hm'
    split
    · next hend =>
      -- the search ends early: no thread is left, and nothing new begins once something is found
      rw [Bool.and_eq_true, List.isEmpty_iff, Option.isSome_iff_exists] at hend
      obtain ⟨hthreads, m', hm'⟩ := hend
      rcases goesOn_of_arises h hm with ⟨m'', hat, hle⟩ | ⟨_, _, m'', heq, hle, harises⟩
      · exact ⟨m'', hat, hle⟩
      · cases heq
        cases harises with
        | found hfound => exact ⟨m'', hfound, hle⟩
        | thread ht =>
          have hnone := hthreads ▸ ht
          cases hnone
        | later hnone =>
          have hsome := hnone ▸ hm'
          cases hsome
    · rcases goesOn_of_arises h hm with ⟨m'', hat, hle⟩ | ⟨_, _, m'', heq, hle, harises⟩
      · obtain ⟨m', hrun, hle'⟩ := hnext (.found hat)
        exact ⟨m', hrun, hle'.trans hle⟩
      · cases heq
        obtain ⟨m', hrun, hle'⟩ := hnext harises
        exact ⟨m', hrun, hle'.trans hle⟩

/-! ## The first match -/

/-- **A search finds the match that begins first.** -/
theorem find_eq_some {m : Span} (h : find p before place rest = some m) :
    ∃ k n, Found p before rest k n ∧ m = ⟨place + k, place + k + n⟩ ∧
      ∀ k' n', Found p before rest k' n' → k ≤ k' := by
  cases arises_of_run h with
  | found hm => cases hm
  | thread ht => cases ht
  | @later k n _ hk =>
    refine ⟨k, n, hk, rfl, fun k' n' hk' => ?_⟩
    obtain ⟨m', hm', hle⟩ := run_of_arises (underWay_nil place) (.later rfl hk')
    rw [find, hm'] at h
    cases h
    dsimp only at hle
    omega

/-- A search finds nothing just when there is no match. -/
theorem find_eq_none_iff :
    find p before place rest = none ↔ ∀ k n, ¬Found p before rest k n := by
  constructor
  · intro h k n hk
    obtain ⟨m, hm, -⟩ := run_of_arises (underWay_nil place) (.later rfl hk)
    rw [find, hm] at h
    cases h
  · intro h
    rw [Option.eq_none_iff_forall_ne_some]
    intro m hm
    obtain ⟨k, n, hk, -⟩ := find_eq_some hm
    exact h k n hk

/-- A text has matches just when the program matches somewhere in it. -/
theorem spans_ne_nil_iff {r : Regex} {text : List Char} :
    r.spans text ≠ [] ↔ ∃ k n, Found r.program none text k n := by
  have hspans : r.spans text = [] ↔ find r.program none 0 text = none := by
    rw [spans, findAll.eq_def]
    cases find r.program none 0 text with
    | none => simp
    | some m =>
      dsimp only
      split
      · simp
      · cases text with
        | nil => simp
        | cons c rest => simp
  rw [Ne, hspans, find_eq_none_iff]
  simp only [not_forall, not_not]

end Deprecation.Regex.Search
