/-
# Matches do not overlap

The matches of a pattern come from left to right, each inside the text, and each starts where
the one before stops or further on.  Two of them never stop at one place: an empty match right
behind another match does not count.

A search only hands on the places at which its threads began, so a match that it finds begins at
or behind the place where the search was set off.
-/
import Mathlib
import Deprecation.Regex

namespace Deprecation
namespace Regex

/-- One match comes before another in a text: it stops where the other starts, or in front of
it, and never where the other stops. -/
def Span.Before (m m' : Span) : Prop := m.stop ≤ m'.start ∧ m.stop < m'.stop

namespace Search

/-- The place where the match of a leaf began. -/
def Leaf.start : Leaf → Nat
  | .accept start => start
  | .char _ _ start => start

/-- Following threads makes up no new beginnings. -/
lemma follow_keeps {P : Nat → Prop} {code : Array Instr} {before after : Option Char}
    {threads : List Thread} {seen : Array Bool} {leaves : Array Leaf}
    (hthreads : ∀ t ∈ threads, P t.start) (hleaves : ∀ l ∈ leaves, P l.start) :
    ∀ l ∈ follow code before after threads seen leaves, P l.start := by
  have hpush : ∀ {leaves : Array Leaf} {l : Leaf}, (∀ l ∈ leaves, P l.start) → P l.start →
      ∀ l' ∈ leaves.push l, P l'.start := by
    intro leaves l h hl l' hl'
    rcases Array.mem_push.mp hl' with hl' | rfl
    · exact h l' hl'
    · exact hl
  fun_induction follow code before after threads seen leaves with
  | case1 => exact hleaves
  | case2 seen leaves t rest h _ _ =>
    exact hpush hleaves (hthreads t List.mem_cons_self)
  | case3 seen leaves t rest h _ _ s next hc ih =>
    exact ih (fun t' ht' => hthreads t' (List.mem_cons_of_mem _ ht'))
      (hpush hleaves (hthreads t List.mem_cons_self))
  | case4 seen leaves t rest h _ _ l next hc hl ih =>
    refine ih ?_ hleaves
    intro t' ht'
    rcases List.mem_cons.mp ht' with rfl | ht'
    · exact hthreads t List.mem_cons_self
    · exact hthreads t' (List.mem_cons_of_mem _ ht')
  | case6 seen leaves t rest h _ _ first second hc ih =>
    refine ih ?_ hleaves
    intro t' ht'
    rcases List.mem_cons.mp ht' with rfl | ht'
    · exact hthreads t List.mem_cons_self
    rcases List.mem_cons.mp ht' with rfl | ht'
    · exact hthreads t List.mem_cons_self
    · exact hthreads t' (List.mem_cons_of_mem _ ht')
  | case5 _ _ _ _ _ _ _ _ _ _ _ ih | case7 _ _ _ _ _ _ _ _ ih | case8 _ _ _ _ _ ih =>
    exact ih (fun t' ht' => hthreads t' (List.mem_cons_of_mem _ ht')) hleaves

lemma start_of_mem_take {P : Nat → Prop} {leaves : List Leaf} (h : ∀ l ∈ leaves, P l.start)
    (c : Char) : ∀ t ∈ take c leaves, P t.start := by
  intro t ht
  obtain ⟨l, hl, hsome⟩ := List.mem_filterMap.mp ht
  cases l with
  | accept start => cases hsome
  | char s next start =>
    dsimp only at hsome
    split at hsome
    · cases hsome
      exact h _ hl
    · cases hsome

lemma accepted_keeps {P : Nat → Prop} {leaves : List Leaf} (h : ∀ l ∈ leaves, P l.start)
    {start : Nat} (hstart : accepted leaves = some start) : P start := by
  obtain ⟨l, hl, hsome⟩ := List.exists_of_findSome?_eq_some hstart
  cases l with
  | accept start =>
    cases hsome
    exact h _ hl
  | char s next start => cases hsome

/-- A match lies between two places. -/
def Within (first last : Nat) (m : Span) : Prop :=
  first ≤ m.start ∧ m.start ≤ m.stop ∧ m.stop ≤ last

lemma Within.mono {first last first' last' : Nat} {m : Span} (h : Within first last m)
    (hfirst : first' ≤ first) (hlast : last ≤ last') : Within first' last' m :=
  ⟨hfirst.trans h.1, h.2.1, h.2.2.trans hlast⟩

/-! ## One search -/

/-- The leaves at a place, from the threads under way and from the one that begins there while
nothing is found. -/
def leavesAt (p : Program) (before after : Option Char) (place : Nat) (threads : List Thread)
    (found : Option Span) : List Leaf :=
  (follow p.code before after
    (if found.isNone then threads ++ [⟨p.entry, place⟩] else threads)
    (Array.replicate p.code.size false) #[]).toList

/-- The match found so far, after the leaves at a place. -/
def foundAt (place : Nat) (leaves : List Leaf) (found : Option Span) : Option Span :=
  match accepted leaves with
  | some start => some ⟨start, place⟩
  | none => found

lemma run_nil (p : Program) (before : Option Char) (place : Nat) (threads : List Thread)
    (found : Option Span) :
    run p before place threads found []
      = foundAt place (leavesAt p before none place threads found) found := rfl

lemma run_cons (p : Program) (before : Option Char) (place : Nat) (threads : List Thread)
    (found : Option Span) (c : Char) (rest : List Char) :
    run p before place threads found (c :: rest) =
      let leaves := leavesAt p before (some c) place threads found
      if (take c leaves).isEmpty && (foundAt place leaves found).isSome then
        foundAt place leaves found
      else run p (some c) (place + 1) (take c leaves) (foundAt place leaves found) rest := rfl

section Search

variable {p : Program} {first place : Nat} {before after : Option Char} {threads : List Thread}
  {found : Option Span}

/-- The places where matches may have begun that are under way at a place. -/
lemma start_of_mem_leavesAt (hplace : first ≤ place)
    (hthreads : ∀ t ∈ threads, first ≤ t.start ∧ t.start ≤ place) :
    ∀ l ∈ leavesAt p before after place threads found, first ≤ l.start ∧ l.start ≤ place := by
  intro l hl
  rw [leavesAt, Array.mem_toList_iff] at hl
  refine follow_keeps (P := fun n => first ≤ n ∧ n ≤ place) ?_ (by simp) l hl
  intro t ht
  split at ht
  · rcases List.mem_append.mp ht with ht | ht
    · exact hthreads t ht
    · rw [List.mem_singleton.mp ht]
      exact ⟨hplace, le_rfl⟩
  · exact hthreads t ht

lemma within_of_foundAt {leaves : List Leaf}
    (hleaves : ∀ l ∈ leaves, first ≤ l.start ∧ l.start ≤ place)
    (hfound : ∀ m, found = some m → Within first place m) :
    ∀ m, foundAt place leaves found = some m → Within first place m := by
  intro m hm
  rw [foundAt] at hm
  cases haccepted : accepted leaves with
  | some start =>
    rw [haccepted] at hm
    cases hm
    obtain ⟨hfirst, hplace⟩ :=
      accepted_keeps (P := fun n => first ≤ n ∧ n ≤ place) hleaves haccepted
    exact ⟨hfirst, hplace, le_rfl⟩
  | none =>
    rw [haccepted] at hm
    exact hfound m hm

/-- A search that was set off at `first` and has come to `place` finds a match between `first`
and the end. -/
lemma within_of_run {rest : List Char} (hplace : first ≤ place)
    (hthreads : ∀ t ∈ threads, first ≤ t.start ∧ t.start ≤ place)
    (hfound : ∀ m, found = some m → Within first place m) {m : Span}
    (h : run p before place threads found rest = some m) :
    Within first (place + rest.length) m := by
  induction rest generalizing before place threads found with
  | nil =>
    rw [run_nil] at h
    exact within_of_foundAt (start_of_mem_leavesAt hplace hthreads) hfound m h
  | cons c rest ih =>
    have hlength : place + 1 + rest.length = place + (c :: rest).length := by
      rw [List.length_cons]
      omega
    have hleaves : ∀ l ∈ leavesAt p before (some c) place threads found,
        first ≤ l.start ∧ l.start ≤ place := start_of_mem_leavesAt hplace hthreads
    have hfound' := within_of_foundAt hleaves hfound
    rw [run_cons] at h
    dsimp only at h
    split at h
    · exact (hfound' m h).mono le_rfl (by omega)
    · rw [← hlength]
      refine ih (by omega) ?_ ?_ h
      · intro t ht
        have ht' := start_of_mem_take (P := fun n => first ≤ n ∧ n ≤ place) hleaves c t ht
        exact ⟨ht'.1, by omega⟩
      · intro m' hm'
        exact (hfound' m' hm').mono le_rfl (by omega)

end Search

/-! ## All matches -/

lemma within_of_find {p : Program} {before : Option Char} {place : Nat} {rest : List Char}
    {m : Span} (h : find p before place rest = some m) :
    Within place (place + rest.length) m :=
  within_of_run le_rfl (by simp) (by simp) h

/-- All matches behind a place lie between it and the end, and unless the place is fresh, they
stop behind it; and they come in order. -/
lemma findAll_ordered (p : Program) (before : Option Char) (place : Nat) (fresh : Bool)
    (rest : List Char) :
    (∀ m ∈ findAll p before place fresh rest,
      Within place (place + rest.length) m ∧ (fresh = false → place < m.stop)) ∧
    (findAll p before place fresh rest).Pairwise Span.Before := by
  fun_induction findAll p before place fresh rest with
  | case1 => simp
  | case2 before place rest m hfind length hlength ih =>
    obtain ⟨hbehind, hpairwise⟩ := ih
    obtain ⟨hfirst, hle, hlast⟩ := within_of_find hfind
    refine ⟨?_, List.Pairwise.cons ?_ hpairwise⟩
    · intro m' hm'
      rcases List.mem_cons.mp hm' with rfl | hm'
      · exact ⟨⟨hfirst, hle, hlast⟩, by simp⟩
      · exact ⟨(hbehind m' hm').1, by simp⟩
    · intro m' hm'
      obtain ⟨⟨hfirst', -⟩, hstop'⟩ := hbehind m' hm'
      have := hstop' rfl
      exact ⟨by omega, by omega⟩
  | case3 => simp
  | case4 before place fresh m length hlength hfresh c rest hfind ih =>
    obtain ⟨hbehind, hpairwise⟩ := ih
    refine ⟨?_, hpairwise⟩
    intro m' hm'
    obtain ⟨hwithin, -⟩ := hbehind m' hm'
    have hlast : place + 1 + rest.length ≤ place + (c :: rest).length := by
      rw [List.length_cons]
      omega
    refine ⟨hwithin.mono (by omega) hlast, fun _ => ?_⟩
    obtain ⟨hfirst, hle, -⟩ := hwithin
    omega
  | case5 before place fresh m length hlength hfind =>
    obtain ⟨hfirst, hle, hlast⟩ := within_of_find hfind
    rw [List.length_nil] at hlast
    omega
  | case6 before place fresh m length hlength c rest hfind ih =>
    obtain ⟨hbehind, hpairwise⟩ := ih
    obtain ⟨hfirst, hle, hlast⟩ := within_of_find hfind
    have hrest : m.stop + ((c :: rest).drop length).length = place + (c :: rest).length := by
      rw [List.length_drop]
      omega
    rw [hrest] at hbehind
    refine ⟨?_, List.Pairwise.cons ?_ hpairwise⟩
    · intro m' hm'
      rcases List.mem_cons.mp hm' with rfl | hm'
      · exact ⟨⟨hfirst, hle, hlast⟩, fun _ => by omega⟩
      · obtain ⟨hwithin, hstop⟩ := hbehind m' hm'
        have := hstop rfl
        exact ⟨hwithin.mono (by omega) le_rfl, fun _ => by omega⟩
    · intro m' hm'
      obtain ⟨⟨hfirst', -⟩, hstop⟩ := hbehind m' hm'
      exact ⟨hfirst', hstop rfl⟩

end Search

/-! ## The matches in a text -/

/-- Matches lie in the text. -/
theorem within_of_mem_spans {r : Regex} {text : List Char} {m : Span} (h : m ∈ r.spans text) :
    m.start ≤ m.stop ∧ m.stop ≤ text.length := by
  obtain ⟨-, hle, hlast⟩ := ((Search.findAll_ordered r.program none 0 true text).1 m h).1
  exact ⟨hle, by omega⟩

/-- Matches come in the order of the text, and none overlaps with another. -/
theorem pairwise_spans (r : Regex) (text : List Char) : (r.spans text).Pairwise Span.Before :=
  (Search.findAll_ordered r.program none 0 true text).2

end Regex
end Deprecation
