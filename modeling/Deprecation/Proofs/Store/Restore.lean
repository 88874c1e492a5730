/-
# Restoring what was persisted

A snapshot holds the rules and the entries of a store, but neither the compiled patterns nor
the list of the active rules; these are made anew when it is restored.  In a coherent store
they are what would be made anew anyway.  So two coherent stores with the same rules and
entries are the same store, and a store that is restored from the bytes of another one is that
other one: nothing of what it held before is left, and nothing is lost on the way.

The one thing that may change on the way is an instant off the clock, which comes back as the
one as which it is shown.  With such instants the order of age may change as well.
-/
import Mathlib
import Deprecation.Check
import Deprecation.Proofs.Snapshot
import Deprecation.Proofs.Store.Coherence

namespace Deprecation

/-! ## Rules that compile together -/

/-- Rules with different ids whose patterns compile one by one compile together. -/
lemma Compiled.exists_of_isSome {α : Type} {view : α → Rule} {seen : List String} {rules : List α}
    (hnodup : (rules.map fun r => (view r).id).Nodup) (hunseen : ∀ r ∈ rules, (view r).id ∉ seen)
    (hcompiles : ∀ r ∈ rules, (Regex.compile (view r).pattern).isSome) :
    ∃ compiled, Compiled view seen rules compiled := by
  induction rules generalizing seen with
  | nil => exact ⟨[], rfl, by simp, by simp, by simp⟩
  | cons r rest ih =>
    rw [List.map_cons, List.nodup_cons] at hnodup
    obtain ⟨x, hx⟩ := Option.isSome_iff_exists.mp (hcompiles r List.mem_cons_self)
    have hrest : ∀ r' ∈ rest, (view r').id ∉ (view r).id :: seen := by
      intro r' hr' hmem
      rcases List.mem_cons.mp hmem with hid | hmem
      · exact hnodup.1 (List.mem_map.mpr ⟨r', hr', hid⟩)
      · exact hunseen r' (List.mem_cons_of_mem _ hr') hmem
    obtain ⟨others, hothers⟩ :=
      ih hnodup.2 hrest fun r' hr' => hcompiles r' (List.mem_cons_of_mem _ hr')
    exact ⟨(r, x) :: others, hothers.cons (hunseen r List.mem_cons_self) hx⟩

namespace Store

variable {s t : Store}

/-! ## The store that contents describe -/

lemma foldl_putMined (s : Store) (mined : List (MinedRule × Regex)) :
    mined.foldl (fun s r => s.putMined r.1 r.2) s
      = { s with
          mined := mined.foldl (fun t r => t.insert r.1.id r.1) s.mined
          patterns := mined.foldl (fun t r => t.insert r.1.id r.2) s.patterns } := by
  induction mined generalizing s with
  | nil => rfl
  | cons r mined ih =>
    rw [List.foldl_cons, ih]
    rfl

/-- Contents decide on the static rules, the mined rules and the entries of their store. -/
lemma holds_of_ofContents {c : Contents} (h : ofContents c = .ok t) :
    t.statics = c.statics ∧ t.mined = Keyed.ofList MinedRule.id c.mined ∧
      t.entries = Keyed.ofList Entry.id c.entries := by
  obtain ⟨statics, mined, hs, hm, rfl⟩ := ofContents_eq_ok_iff.mp h
  rw [foldl_putMined]
  refine ⟨hs.map_fst, ?_, rfl⟩
  show mined.foldl (fun t r => t.insert r.1.id r.1) Keyed.empty = _
  rw [← hm.map_fst, Keyed.ofList, List.foldl_map]

/-! ## The contents of a coherent store -/

lemma Consistent.compiles_static (h : s.Consistent) {r : StaticRule} (hr : r ∈ s.statics) :
    (Regex.compile r.view.pattern).isSome :=
  h.compiles r.id r.view (ruleAt_of_mem_statics h.nodup hr)

lemma Consistent.compiles_mined (h : s.Consistent) {r : MinedRule} (hr : r ∈ s.mined.values) :
    (Regex.compile r.view.pattern).isSome :=
  h.compiles r.id r.view (h.ruleAt_of_mined (h.mined_own.mem_values_iff.mp hr))

/-- Coherent stores with the same contents are the same store. -/
lemma Coherent.eq_of_contents (hs : s.Coherent) (ht : t.Coherent)
    (h : s.contents = t.contents) : s = t := by
  refine hs.ext ht (congrArg Contents.statics h) ?_ ?_
  · rw [← hs.consistent.mined_own.ofList_values, ← ht.consistent.mined_own.ofList_values]
    exact congrArg (Keyed.ofList MinedRule.id) (congrArg Contents.mined h)
  · rw [← hs.consistent.entries_own.ofList_values, ← ht.consistent.entries_own.ofList_values]
    exact congrArg (Keyed.ofList Entry.id) (congrArg Contents.entries h)

/-- What comes back of a store when it is restored from its snapshot: the same contents, with
their instants as they are shown. -/
structure ComesBack (s t : Store) : Prop where
  coherent : t.Coherent
  contents : t.contents = s.contents.asShown

/-- What is written down of a consistent store is not refused, and the store comes back. -/
theorem Consistent.exists_comesBack (h : s.Consistent) :
    ∃ t, ofContents s.contents.asShown = .ok t ∧ s.ComesBack t := by
  obtain ⟨statics, hs⟩ : ∃ compiled, Compiled StaticRule.view [] s.statics compiled :=
    Compiled.exists_of_isSome h.nodup (by simp) fun r hr => h.compiles_static hr
  -- the values of a table come with increasing ids
  have hmined : (s.mined.values.map MinedRule.asShown).Pairwise fun r r' => r.id < r'.id :=
    List.pairwise_map.mpr h.mined_own.pairwise_values
  have hentries : (s.entries.values.map Entry.asShown).Pairwise fun e e' => e.id < e'.id :=
    List.pairwise_map.mpr h.entries_own.pairwise_values
  obtain ⟨mined, hm⟩ : ∃ compiled, Compiled MinedRule.view (s.statics.map StaticRule.id)
      (s.mined.values.map MinedRule.asShown) compiled := by
    refine Compiled.exists_of_isSome ?_ ?_ ?_
    · exact List.pairwise_map.mpr (hmined.imp fun hlt => String.ne_of_lt hlt)
    · refine List.forall_mem_map.mpr fun r hr hmem => ?_
      obtain ⟨r', hr', hid⟩ := List.mem_map.mp hmem
      have hfind : s.mined.find? r.id = some r := h.mined_own.mem_values_iff.mp hr
      have hnone : s.mined.find? r'.id = none := h.apart r' hr'
      rw [MinedRule.view_asShown, MinedRule.id_view] at hid
      rw [hid, hfind] at hnone
      cases hnone
    · refine List.forall_mem_map.mpr fun r hr => ?_
      rw [MinedRule.view_asShown]
      exact h.compiles_mined hr
  have ht : ofContents s.contents.asShown = .ok _ :=
    ofContents_eq_ok_iff.mpr ⟨statics, mined, hs, hm, rfl⟩
  obtain ⟨hstatics', hmined', hentries'⟩ := holds_of_ofContents ht
  refine ⟨_, ht, coherent_of_ofContents ht, ?_⟩
  rw [contents, hstatics', hmined', hentries']
  show Contents.mk _ (Keyed.ofList MinedRule.id (s.mined.values.map MinedRule.asShown)).values
    (Keyed.ofList Entry.id (s.entries.values.map Entry.asShown)).values = _
  rw [Keyed.values_ofList_of_pairwise hmined, Keyed.values_ofList_of_pairwise hentries]
  rfl

namespace ComesBack

lemma statics (ht : s.ComesBack t) : t.statics = s.statics :=
  congrArg Contents.statics ht.contents

/-- The mined rule at an id is back with its instant as it is shown. -/
lemma find?_mined (ht : s.ComesBack t) (hs : s.Coherent) (id : String) :
    t.mined.find? id = (s.mined.find? id).map MinedRule.asShown := by
  have hvalues : t.mined.values = s.mined.values.map MinedRule.asShown :=
    congrArg Contents.mined ht.contents
  rw [← ht.coherent.consistent.mined_own.ofList_values, hvalues]
  exact hs.consistent.mined_own.find?_ofList_map MinedRule.id_asShown id

/-- The entries are back under their ids. -/
lemma has_entries (ht : s.ComesBack t) (hs : s.Coherent) (id : String) :
    t.entries.has id = s.entries.has id := by
  have hvalues : t.entries.values = s.entries.values.map Entry.asShown :=
    congrArg Contents.entries ht.contents
  rw [Keyed.has, ← ht.coherent.consistent.entries_own.ofList_values, hvalues,
    hs.consistent.entries_own.find?_ofList_map Entry.id_asShown, Option.isSome_map, Keyed.has]

/-- A coherent store with instants on the clock comes back as it was. -/
lemma eq_self (ht : s.ComesBack t) (hs : s.Coherent) (hclock : s.contents.OnClock) : t = s := by
  have hcontents : t.contents = s.contents := ht.contents.trans hclock.asShown_eq_self
  exact ht.coherent.eq_of_contents hs hcontents

/-- What comes back is written down in the same bytes. -/
lemma persist (ht : s.ComesBack t) : t.persist = s.persist := by
  rw [Store.persist, snapshot, ht.contents, Snapshot.encode_asShown, Store.persist, snapshot]

end ComesBack

/-! ## There and back -/

/-- Whatever a store holds, restoring the snapshot of a coherent store succeeds, and that store
comes back. -/
theorem Coherent.exists_restore_persist (h : s.Coherent) (u : Store) :
    ∃ t, u.restore (.ok (some s.persist)) = .ok (true, t) ∧ s.ComesBack t := by
  obtain ⟨t, ht, hback⟩ := h.consistent.exists_comesBack
  refine ⟨t, ?_, hback⟩
  rw [restore, ofBytes, persist, snapshot, Snapshot.decode_encode]
  show (ofContents s.contents.asShown).map _ = _
  rw [ht]
  rfl

/-- If its instants are on the clock, it comes back as it was. -/
theorem Coherent.restore_persist (h : s.Coherent) (hclock : s.contents.OnClock) (u : Store) :
    u.restore (.ok (some s.persist)) = .ok (true, s) := by
  obtain ⟨t, ht, hback⟩ := h.exists_restore_persist u
  rw [ht, hback.eq_self h hclock]

end Store
end Deprecation
