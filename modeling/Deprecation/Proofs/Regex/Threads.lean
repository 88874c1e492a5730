/-
# What threads come to

A program accepts a stretch of a text from a state when some choice of its ways takes just that
stretch.  A search does not try the ways one by one: at a place it follows all threads at once,
and gives up every way that comes to a state visited before.  Nothing is lost by that.  A way that
is cut off goes on from a state that another thread has come to, earlier in the order of
preference; and a way that avoids what was visited is cut off nowhere.  So it is enough to look at
the last visit that a way makes to a state, and to follow it from there.

Threads are ordered by the places where they began.  A match that is reached by way of another
thread therefore began where its own thread did, or before.
-/
import Mathlib
import Deprecation.Proofs.Regex.Spans

namespace Deprecation.Regex.Search

variable {code : Array Instr} {before after : Option Char} {rest : List Char} {q r p n : Nat}

/-! ## Acceptance -/

/-- From the state `q`, between the character `before` and the text `rest`, the code can accept
the first `n` characters of the text. -/
inductive Accepts (code : Array Instr) : Option Char → List Char → Nat → Nat → Prop
  | accept {before : Option Char} {rest : List Char} {q : Nat} (hq : code[q]? = some .accept) :
    Accepts code before rest q 0
  | char {before : Option Char} {c : Char} {rest : List Char} {q next n : Nat} {s : CharSet}
    (hq : code[q]? = some (.char s next)) (hc : s.has c = true)
    (hnext : Accepts code (some c) rest next n) : Accepts code before (c :: rest) q (n + 1)
  | look {before : Option Char} {rest : List Char} {q next n : Nat} {l : Look}
    (hq : code[q]? = some (.look l next)) (hl : l.holds before rest.head? = true)
    (hnext : Accepts code before rest next n) : Accepts code before rest q n
  | first {before : Option Char} {rest : List Char} {q a b n : Nat}
    (hq : code[q]? = some (.split a b)) (ha : Accepts code before rest a n) :
    Accepts code before rest q n
  | second {before : Option Char} {rest : List Char} {q a b n : Nat}
    (hq : code[q]? = some (.split a b)) (hb : Accepts code before rest b n) :
    Accepts code before rest q n

lemma accepts_accept_iff (hq : code[q]? = some .accept) :
    Accepts code before rest q n ↔ n = 0 := by
  constructor
  · intro h
    cases h with
    | accept _ => rfl
    | char hq' | look hq' | first hq' | second hq' =>
      rw [hq] at hq'
      cases hq'
  · rintro rfl
    exact .accept hq

lemma accepts_char_iff {s : CharSet} {next : Nat} (hq : code[q]? = some (.char s next)) :
    Accepts code before rest q n ↔ ∃ c rest' m, rest = c :: rest' ∧ s.has c = true ∧ n = m + 1 ∧
      Accepts code (some c) rest' next m := by
  constructor
  · intro h
    cases h with
    | char hq' hc hnext =>
      rw [hq] at hq'
      cases hq'
      exact ⟨_, _, _, rfl, hc, rfl, hnext⟩
    | accept hq' | look hq' | first hq' | second hq' =>
      rw [hq] at hq'
      cases hq'
  · rintro ⟨c, rest', m, rfl, hc, rfl, hnext⟩
    exact .char hq hc hnext

lemma accepts_look_iff {l : Look} {next : Nat} (hq : code[q]? = some (.look l next)) :
    Accepts code before rest q n ↔
      l.holds before rest.head? = true ∧ Accepts code before rest next n := by
  constructor
  · intro h
    cases h with
    | look hq' hl hnext =>
      rw [hq] at hq'
      cases hq'
      exact ⟨hl, hnext⟩
    | accept hq' | char hq' | first hq' | second hq' =>
      rw [hq] at hq'
      cases hq'
  · rintro ⟨hl, hnext⟩
    exact .look hq hl hnext

lemma accepts_split_iff {a b : Nat} (hq : code[q]? = some (.split a b)) :
    Accepts code before rest q n ↔
      Accepts code before rest a n ∨ Accepts code before rest b n := by
  constructor
  · intro h
    cases h with
    | first hq' ha =>
      rw [hq] at hq'
      cases hq'
      exact Or.inl ha
    | second hq' hb =>
      rw [hq] at hq'
      cases hq'
      exact Or.inr hb
    | accept hq' | char hq' | look hq' =>
      rw [hq] at hq'
      cases hq'
  · rintro (ha | hb)
    · exact .first hq ha
    · exact .second hq hb

/-! ## Ways without a character -/

/-- The states that a state goes on with between two characters, when it takes none: what is
behind a condition that holds, and both sides of a choice. -/
def nexts (before after : Option Char) : Instr → List Nat
  | .look l next => if l.holds before after then [next] else []
  | .split a b => [a, b]
  | .accept | .char .. => []

/-- One step between states at a place. -/
def Goes (code : Array Instr) (before after : Option Char) (q q' : Nat) : Prop :=
  ∃ i, code[q]? = some i ∧ q' ∈ nexts before after i

lemma goes_iff {q' : Nat} {i : Instr} (hq : code[q]? = some i) :
    Goes code before after q q' ↔ q' ∈ nexts before after i := by
  rw [Goes, hq]
  simp

/-- A way from one state to another at a place, through fresh states only. -/
inductive Leads (code : Array Instr) (before after : Option Char) (fresh : Nat → Prop) :
    Nat → Nat → Prop
  | here {q : Nat} (hq : fresh q) : Leads code before after fresh q q
  | step {q q' r : Nat} (hq : fresh q) (hgoes : Goes code before after q q')
    (hleads : Leads code before after fresh q' r) : Leads code before after fresh q r

lemma Leads.fresh_left {fresh : Nat → Prop} (h : Leads code before after fresh q r) : fresh q := by
  cases h with
  | here hq => exact hq
  | step hq => exact hq

/-- A way avoids a state, or ends there, or goes on from there without coming back. -/
lemma Leads.avoid {fresh : Nat → Prop} (h : Leads code before after fresh q r) (p : Nat) :
    Leads code before after (fun x => fresh x ∧ x ≠ p) q r ∨ r = p ∨
      ∃ q', Goes code before after p q' ∧
        Leads code before after (fun x => fresh x ∧ x ≠ p) q' r := by
  induction h with
  | @here q hq =>
    by_cases hp : q = p
    · exact Or.inr (Or.inl hp)
    · exact Or.inl (.here ⟨hq, hp⟩)
  | @step q q' r hq hgoes _ ih =>
    rcases ih with ih | ih
    · by_cases hp : q = p
      · subst hp
        exact Or.inr (Or.inr ⟨q', hgoes, ih⟩)
      · exact Or.inl (.step ⟨hq, hp⟩ hgoes ih)
    · exact Or.inr ih

/-- Where a state is visited, what was fresh is fresh except for this state. -/
lemma fresh_after_visit {seen : Array Bool} {x : Nat} :
    (seen.setIfInBounds p true)[x]? = some false ↔ seen[x]? = some false ∧ x ≠ p := by
  rw [Array.getElem?_setIfInBounds]
  split
  · next hpx =>
    split
    · simp [hpx]
    · next hsize => simp [← hpx, hsize]
  · next hpx => simp [Ne.symm hpx]

/-! ## Leaves -/

/-- The text that a leaf accepts: none, or what is accepted after its character. -/
def Leaf.Reads (code : Array Instr) (rest : List Char) : Leaf → Nat → Prop
  | .accept _, n => n = 0
  | .char s next _, n => ∃ c rest' m, rest = c :: rest' ∧ s.has c = true ∧ n = m + 1 ∧
      Accepts code (some c) rest' next m

/-- Each leaf is a way of the thread that it comes from. -/
lemma reads_of_follow {threads : List Thread} {seen : Array Bool} {leaves : Array Leaf}
    (hafter : after = rest.head?) :
    ∀ l ∈ follow code before after threads seen leaves, l ∈ leaves ∨
      ∃ t ∈ threads, t.start = l.start ∧
        ∀ n, l.Reads code rest n → Accepts code before rest t.state n := by
  have hlater {threads : List Thread} {leaves : Array Leaf} {t : Thread} {l : Leaf}
      (h : l ∈ leaves ∨ ∃ t ∈ threads, t.start = l.start ∧
        ∀ n, l.Reads code rest n → Accepts code before rest t.state n) :
      l ∈ leaves ∨ ∃ t' ∈ t :: threads, t'.start = l.start ∧
        ∀ n, l.Reads code rest n → Accepts code before rest t'.state n := by
    rcases h with h | ⟨t', ht', h⟩
    · exact Or.inl h
    · exact Or.inr ⟨t', List.mem_cons_of_mem t ht', h⟩
  fun_induction follow code before after threads seen leaves with
  | case1 => exact fun l hl => Or.inl hl
  | case2 seen leaves t ts h _ hc =>
    intro l hl
    rcases Array.mem_push.mp hl with hl | rfl
    · exact Or.inl hl
    · exact Or.inr ⟨t, List.mem_cons_self, rfl, fun n hn => (accepts_accept_iff hc).mpr hn⟩
  | case3 seen leaves t ts h _ _ s next hc ih =>
    intro l hl
    rcases ih l hl with hl | hl
    · rcases Array.mem_push.mp hl with hl | rfl
      · exact Or.inl hl
      · exact Or.inr ⟨t, List.mem_cons_self, rfl, fun n hn => (accepts_char_iff hc).mpr hn⟩
    · exact hlater (Or.inr hl)
  | case4 seen leaves t ts h _ _ look next hc hholds ih =>
    intro l hl
    rcases ih l hl with hl | ⟨t', ht', hstart, hreads⟩
    · exact Or.inl hl
    rcases List.mem_cons.mp ht' with rfl | ht'
    · refine Or.inr ⟨t, List.mem_cons_self, hstart, fun n hn => ?_⟩
      exact .look hc (hafter ▸ hholds) (hreads n hn)
    · exact Or.inr ⟨t', List.mem_cons_of_mem t ht', hstart, hreads⟩
  | case6 seen leaves t ts h _ _ a b hc ih =>
    intro l hl
    rcases ih l hl with hl | ⟨t', ht', hstart, hreads⟩
    · exact Or.inl hl
    rcases List.mem_cons.mp ht' with rfl | ht'
    · exact Or.inr ⟨t, List.mem_cons_self, hstart, fun n hn => .first hc (hreads n hn)⟩
    rcases List.mem_cons.mp ht' with rfl | ht'
    · exact Or.inr ⟨t, List.mem_cons_self, hstart, fun n hn => .second hc (hreads n hn)⟩
    · exact Or.inr ⟨t', List.mem_cons_of_mem t ht', hstart, hreads⟩
  | case5 _ _ _ _ _ _ _ _ _ _ _ ih | case7 _ _ _ _ _ _ _ _ ih | case8 _ _ _ _ _ ih =>
    exact fun l hl => hlater (ih l hl)

/-- Leaves in order: only the last one may accept, and none began before one in front of it. -/
def Ordered (leaves : List Leaf) : Prop :=
  leaves.Pairwise fun l l' => (∀ start, l ≠ .accept start) ∧ l.start ≤ l'.start

lemma ordered_follow {threads : List Thread} {seen : Array Bool} {leaves : Array Leaf}
    (hthreads : threads.Pairwise (·.start ≤ ·.start)) (hleaves : Ordered leaves.toList)
    (hbetween : ∀ l ∈ leaves, (∀ start, l ≠ .accept start) ∧ ∀ t ∈ threads, l.start ≤ t.start) :
    Ordered (follow code before after threads seen leaves).toList := by
  have hpush {leaves : Array Leaf} {l : Leaf} (h : Ordered leaves.toList)
      (hl : ∀ l' ∈ leaves, (∀ start, l' ≠ .accept start) ∧ l'.start ≤ l.start) :
      Ordered (leaves.push l).toList := by
    rw [Array.toList_push]
    refine List.pairwise_append.mpr ⟨h, List.pairwise_singleton _ l, ?_⟩
    intro l' hl' l'' hl''
    rw [List.mem_singleton.mp hl'']
    exact hl l' (Array.mem_toList_iff.mp hl')
  fun_induction follow code before after threads seen leaves with
  | case1 => exact hleaves
  | case2 seen leaves t ts h _ hc =>
    exact hpush hleaves fun l hl => (hbetween l hl).imp_right fun h => h t List.mem_cons_self
  | case3 seen leaves t ts h _ _ s next hc ih =>
    obtain ⟨ht, hts⟩ := List.pairwise_cons.mp hthreads
    refine ih hts (hpush hleaves fun l hl =>
      (hbetween l hl).imp_right fun h => h t List.mem_cons_self) ?_
    intro l hl
    rcases Array.mem_push.mp hl with hl | rfl
    · exact (hbetween l hl).imp_right fun h => (List.forall_mem_cons.mp h).2
    · exact ⟨by simp, ht⟩
  | case4 seen leaves t ts h _ _ look next hc hholds ih =>
    obtain ⟨ht, hts⟩ := List.pairwise_cons.mp hthreads
    refine ih (List.pairwise_cons.mpr ⟨ht, hts⟩) hleaves fun l hl => ?_
    exact (hbetween l hl).imp_right fun h =>
      List.forall_mem_cons.mpr (List.forall_mem_cons.mp h)
  | case6 seen leaves t ts h _ _ a b hc ih =>
    obtain ⟨ht, hts⟩ := List.pairwise_cons.mp hthreads
    refine ih (List.pairwise_cons.mpr ⟨List.forall_mem_cons.mpr ⟨le_rfl, ht⟩,
      List.pairwise_cons.mpr ⟨ht, hts⟩⟩) hleaves fun l hl => ?_
    refine (hbetween l hl).imp_right fun h => ?_
    obtain ⟨hhead, htail⟩ := List.forall_mem_cons.mp h
    exact List.forall_mem_cons.mpr ⟨hhead, List.forall_mem_cons.mpr ⟨hhead, htail⟩⟩
  | case5 _ _ _ _ _ _ _ _ _ _ _ ih | case7 _ _ _ _ _ _ _ _ ih | case8 _ _ _ _ _ ih =>
    refine ih (List.pairwise_cons.mp hthreads).2 hleaves fun l hl => ?_
    exact (hbetween l hl).imp_right fun h => (List.forall_mem_cons.mp h).2

/-- Leaves found before stay. -/
lemma mem_follow {threads : List Thread} {seen : Array Bool} {leaves : Array Leaf} {l : Leaf}
    (hl : l ∈ leaves) : l ∈ follow code before after threads seen leaves := by
  have happend := follow_append code before after threads seen leaves #[]
  rw [Array.append_empty] at happend
  rw [happend]
  exact Array.mem_append_left _ hl

/-- Some leaf that began at `b` or before accepts, or is what the state `r` waits for. -/
def Serves (code : Array Instr) (r b : Nat) (leaves : Array Leaf) : Prop :=
  ∃ l ∈ leaves, l.start ≤ b ∧ ((∃ start, l = .accept start) ∨
    ∃ s next, code[r]? = some (.char s next) ∧ l = .char s next l.start)

lemma Serves.mono {b b' : Nat} {leaves : Array Leaf} (h : Serves code r b leaves) (hb : b ≤ b') :
    Serves code r b' leaves := by
  obtain ⟨l, hl, hstart, hleaf⟩ := h
  exact ⟨l, hl, hstart.trans hb, hleaf⟩

/-- When the first of some threads visits its state, a way of theirs to a leaf is still open,
ends there, or goes on from there. -/
lemma Leads.after_visit {seen : Array Bool} {t t' : Thread} {threads : List Thread}
    (ht' : t' ∈ t :: threads)
    (h : Leads code before after (fun x => seen[x]? = some false) t'.state r) :
    (t' ∈ threads ∧ Leads code before after
        (fun x => (seen.setIfInBounds t.state true)[x]? = some false) t'.state r) ∨
      r = t.state ∨ ∃ q', Goes code before after t.state q' ∧ Leads code before after
        (fun x => (seen.setIfInBounds t.state true)[x]? = some false) q' r := by
  have hfresh : (fun x => (seen.setIfInBounds t.state true)[x]? = some false) =
      fun x => seen[x]? = some false ∧ x ≠ t.state :=
    funext fun x => propext fresh_after_visit
  rw [hfresh]
  rcases h.avoid t.state with hopen | h
  · refine Or.inl ⟨?_, hopen⟩
    rcases List.mem_cons.mp ht' with rfl | ht'
    · exact absurd rfl hopen.fresh_left.2
    · exact ht'
  · exact Or.inr h

/-- **No leaf is lost.**  A way of a thread to a leaf, through states not visited before, is
served by a leaf that began where the thread did or before. -/
theorem serves_of_leads {threads : List Thread} {seen : Array Bool} {leaves : Array Leaf}
    (hthreads : threads.Pairwise (·.start ≤ ·.start))
    (hr : code[r]? = some .accept ∨ ∃ s next, code[r]? = some (.char s next)) {u : Thread}
    (hu : u ∈ threads)
    (hway : Leads code before after (fun x => seen[x]? = some false) u.state r) :
    Serves code r u.start (follow code before after threads seen leaves) := by
  have hfirst {t u : Thread} {ts : List Thread} (h : (t :: ts).Pairwise (·.start ≤ ·.start))
      (hu : u ∈ t :: ts) : t.start ≤ u.start := by
    rcases List.mem_cons.mp hu with rfl | hu
    · exact le_rfl
    · exact (List.pairwise_cons.mp h).1 u hu
  -- along the search, a way through unvisited states stays open in some thread, until a visit
  -- ends it; the states that are visited are never asked for again
  fun_induction follow code before after threads seen leaves generalizing u with
  | case1 => cases hu
  | case2 seen leaves t ts h _ hc =>
    exact ⟨.accept t.start, Array.mem_push_self, hfirst hthreads hu, Or.inl ⟨_, rfl⟩⟩
  | case3 seen leaves t ts h _ _ s next hc ih =>
    rcases hway.after_visit hu with ⟨hmem, hway⟩ | rfl | ⟨q', hgoes, -⟩
    · exact ih (List.pairwise_cons.mp hthreads).2 hmem hway
    · exact ⟨.char s next t.start, mem_follow Array.mem_push_self, hfirst hthreads hu,
        Or.inr ⟨s, next, hc, rfl⟩⟩
    · simp [goes_iff hc, nexts] at hgoes
  | case4 seen leaves t ts h _ _ look next hc hholds ih =>
    have hbefore : t.start ≤ u.start := hfirst hthreads hu
    have hthreads' : (⟨next, t.start⟩ :: ts : List Thread).Pairwise (·.start ≤ ·.start) :=
      List.pairwise_cons.mpr (List.pairwise_cons.mp hthreads)
    rcases hway.after_visit hu with ⟨hmem, hway⟩ | rfl | ⟨q', hgoes, hway⟩
    · exact ih hthreads' (List.mem_cons_of_mem _ hmem) hway
    · simp [hc] at hr
    · simp only [goes_iff hc, nexts, hholds, if_true, List.mem_singleton] at hgoes
      subst hgoes
      exact (ih hthreads' (u := ⟨q', t.start⟩) List.mem_cons_self hway).mono hbefore
  | case5 seen leaves t ts h _ _ look next hc hholds ih =>
    rcases hway.after_visit hu with ⟨hmem, hway⟩ | rfl | ⟨q', hgoes, -⟩
    · exact ih (List.pairwise_cons.mp hthreads).2 hmem hway
    · simp [hc] at hr
    · simp [goes_iff hc, nexts, hholds] at hgoes
  | case6 seen leaves t ts h _ _ a b hc ih =>
    have hbefore : t.start ≤ u.start := hfirst hthreads hu
    obtain ⟨hhead, hts⟩ := List.pairwise_cons.mp hthreads
    have hthreads' : (⟨a, t.start⟩ :: ⟨b, t.start⟩ :: ts : List Thread).Pairwise
        (·.start ≤ ·.start) :=
      List.pairwise_cons.mpr ⟨List.forall_mem_cons.mpr ⟨le_rfl, hhead⟩,
        List.pairwise_cons.mpr ⟨hhead, hts⟩⟩
    rcases hway.after_visit hu with ⟨hmem, hway⟩ | rfl | ⟨q', hgoes, hway⟩
    -- both branches take the place of the thread, so a way through either goes on in one of them
    · exact ih hthreads' (List.mem_cons_of_mem _ (List.mem_cons_of_mem _ hmem)) hway
    · simp [hc] at hr
    · have hnew : (⟨q', t.start⟩ : Thread) ∈ (⟨a, t.start⟩ :: ⟨b, t.start⟩ :: ts : List Thread) := by
        simp only [goes_iff hc, nexts, List.mem_cons, List.not_mem_nil, or_false] at hgoes
        rcases hgoes with rfl | rfl
        · exact List.mem_cons_self
        · exact List.mem_cons_of_mem _ List.mem_cons_self
      exact (ih hthreads' hnew hway).mono hbefore
  | case7 seen leaves t ts h _ _ hc ih =>
    rcases hway.after_visit hu with ⟨hmem, hway⟩ | rfl | ⟨q', hgoes, -⟩
    · exact ih (List.pairwise_cons.mp hthreads).2 hmem hway
    · simp [hc] at hr
    · simp [Goes, hc] at hgoes
  | case8 seen leaves t ts h ih =>
    rcases List.mem_cons.mp hu with rfl | hmem
    · exact absurd hway.fresh_left h
    · exact ih (List.pairwise_cons.mp hthreads).2 hmem hway

/-- What is accepted is accepted by way of a leaf. -/
lemma Accepts.leads {seen : Array Bool} (hseen : ∀ x, x < code.size → seen[x]? = some false)
    (h : Accepts code before rest q n) :
    ∃ r, Leads code before rest.head? (fun x => seen[x]? = some false) q r ∧
      (code[r]? = some .accept ∨ ∃ s next, code[r]? = some (.char s next) ∧
        ∀ start, (Leaf.char s next start).Reads code rest n) := by
  have hfresh {q : Nat} {i : Instr} (hq : code[q]? = some i) : seen[q]? = some false :=
    hseen q (Array.getElem?_eq_some_iff.mp hq).1
  induction h with
  | @accept before rest q hq => exact ⟨q, .here (hfresh hq), Or.inl hq⟩
  | @char before c rest q next n s hq hc hnext _ =>
    exact ⟨q, .here (hfresh hq), Or.inr ⟨s, next, hq, fun start => ⟨c, rest, n, rfl, hc, rfl, hnext⟩⟩⟩
  | look hq hl _ ih =>
    obtain ⟨r, hway, hr⟩ := ih
    exact ⟨r, .step (hfresh hq) ((goes_iff hq).mpr (by simp [nexts, hl])) hway, hr⟩
  | first hq _ ih =>
    obtain ⟨r, hway, hr⟩ := ih
    exact ⟨r, .step (hfresh hq) ((goes_iff hq).mpr (by simp [nexts])) hway, hr⟩
  | second hq _ ih =>
    obtain ⟨r, hway, hr⟩ := ih
    exact ⟨r, .step (hfresh hq) ((goes_iff hq).mpr (by simp [nexts])) hway, hr⟩

/-- What a thread accepts is accepted by a leaf that began with it or before, unless such a leaf
accepts at once. -/
theorem exists_leaf_of_accepts {threads : List Thread} {t : Thread}
    (hthreads : threads.Pairwise (·.start ≤ ·.start)) (ht : t ∈ threads)
    (h : Accepts code before rest t.state n) :
    ∃ l ∈ follow code before rest.head? threads (Array.replicate code.size false) #[],
      l.start ≤ t.start ∧ ((∃ start, l = .accept start) ∨ l.Reads code rest n) := by
  have hseen (x : Nat) (hx : x < code.size) : (Array.replicate code.size false)[x]? = some false := by
    rw [Array.getElem?_replicate, if_pos hx]
  obtain ⟨r, hway, hr⟩ := h.leads hseen
  have hleaf : code[r]? = some .accept ∨ ∃ s next, code[r]? = some (.char s next) :=
    hr.imp_right fun ⟨s, next, hq, _⟩ => ⟨s, next, hq⟩
  have hserves : Serves code r t.start
      (follow code before rest.head? threads (Array.replicate code.size false) #[]) :=
    serves_of_leads hthreads hleaf ht hway
  obtain ⟨l, hl, hstart, haccept | ⟨s, next, hq, heq⟩⟩ := hserves
  · exact ⟨l, hl, hstart, Or.inl haccept⟩
  · refine ⟨l, hl, hstart, Or.inr ?_⟩
    rcases hr with hr | ⟨s', next', hq', hreads⟩
    · rw [hq] at hr
      cases hr
    · rw [hq] at hq'
      cases hq'
      rw [heq]
      exact hreads l.start

end Deprecation.Regex.Search
