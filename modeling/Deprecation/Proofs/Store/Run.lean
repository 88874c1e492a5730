/-
# Runs of a store

A store lives through one operation after the other: catalogues are loaded, entries added,
mined rules submitted and reviewed, release notes ingested, snapshots restored.  An operation
that is refused leaves the store as it is.  This file sets up the operations, what a run of
them makes of a store, and the store after each operation of a run that starts with nothing,
which is how the laws of whole histories are stated.
-/
import Mathlib
import Deprecation.Ingest
import Deprecation.Proofs.Store.Change

namespace Deprecation
namespace Store

/-- What can be asked of a store. -/
inductive Op where
  | load (rules : List StaticRule) (entries : List Entry)
  | addEntries (entries : List Entry)
  | submit (r : MinedRule)
  | setStatus (id : String) (status : Status)
  | ingest (z : Synthesizer) (text version : String) (clock : Clock)
  | ingestDocument (z : Synthesizer) (text : String) (clock : Clock)
  | restore (held : Except MediumError (Option ByteArray))

namespace Op

/-- Restoring a snapshot is the one operation that takes the place of the whole store. -/
def isRestore : Op → Bool
  | restore _ => true
  | _ => false

/-- Reviews and added entries: what an operator does between two ingestions. -/
def isUpkeep : Op → Bool
  | addEntries _ | setStatus _ _ => true
  | _ => false

end Op

/-- What an operation makes of a store, unless it is refused. -/
def attempt (s : Store) : Op → Except StoreError Store
  | .load rules entries => s.loadStatics rules entries
  | .addEntries entries => .ok (s.addEntries entries)
  | .submit r => (s.submit r).map (·.2)
  | .setStatus id status => (s.setStatus id status).map (·.2)
  | .ingest z text version clock => .ok (s.ingest z text version clock).2.1
  | .ingestDocument z text clock => .ok (s.ingestDocument z text clock).2.1
  | .restore held => (s.restore held).map (·.2)

/-- The store after an operation; a refused one changes nothing. -/
def after (s : Store) (op : Op) : Store :=
  match s.attempt op with
  | .ok t => t
  | .error _ => s

/-- The store after a run of operations. -/
def run (s : Store) (ops : List Op) : Store :=
  ops.foldl after s

/-! ## One operation -/

lemma after_eq_self_or (s : Store) (op : Op) :
    s.after op = s ∨ s.attempt op = .ok (s.after op) := by
  cases h : s.attempt op with
  | error e =>
    left
    rw [after, h]
  | ok t =>
    right
    rw [after, h]

lemma after_load_eq_self_or (s : Store) (rules : List StaticRule) (entries : List Entry) :
    s.after (.load rules entries) = s ∨
      s.loadStatics rules entries = .ok (s.after (.load rules entries)) :=
  s.after_eq_self_or (.load rules entries)

/-- Loading a catalogue leaves the mined rules alone, whether it is accepted or not. -/
lemma mined_after_load (s : Store) (rules : List StaticRule) (entries : List Entry) :
    (s.after (.load rules entries)).mined = s.mined := by
  rcases s.after_load_eq_self_or rules entries with heq | heq
  · rw [heq]
  · exact mined_of_loadStatics heq

@[simp] lemma after_addEntries (s : Store) (entries : List Entry) :
    s.after (.addEntries entries) = s.addEntries entries := rfl

@[simp] lemma after_ingest (s : Store) (z : Synthesizer) (text version : String) (clock : Clock) :
    s.after (.ingest z text version clock) = (s.ingest z text version clock).2.1 := rfl

@[simp] lemma after_ingestDocument (s : Store) (z : Synthesizer) (text : String) (clock : Clock) :
    s.after (.ingestDocument z text clock) = (s.ingestDocument z text clock).2.1 := rfl

lemma exists_ok_of_map_snd {ε σ τ : Type} {e : Except ε (σ × τ)} {t : τ}
    (h : e.map (·.2) = .ok t) : ∃ a, e = .ok (a, t) := by
  cases e with
  | error e => cases h
  | ok p =>
    cases h
    exact ⟨p.1, rfl⟩

lemma after_submit_eq_self_or (s : Store) (r : MinedRule) :
    s.after (.submit r) = s ∨ ∃ o, s.submit r = .ok (o, s.after (.submit r)) :=
  (s.after_eq_self_or (.submit r)).imp_right exists_ok_of_map_snd

lemma after_setStatus_eq_self_or (s : Store) (id : String) (status : Status) :
    s.after (.setStatus id status) = s ∨
      ∃ r, s.setStatus id status = .ok (r, s.after (.setStatus id status)) :=
  (s.after_eq_self_or (.setStatus id status)).imp_right exists_ok_of_map_snd

lemma after_submit_of_ok {s t : Store} {r : MinedRule} {o : Submission}
    (h : s.submit r = .ok (o, t)) : s.after (.submit r) = t := by
  rw [after, attempt, h]
  rfl

lemma after_submit_of_error {s : Store} {r : MinedRule} {e : StoreError}
    (h : s.submit r = .error e) : s.after (.submit r) = s := by
  rw [after, attempt, h]
  rfl

lemma after_setStatus_of_ok {s t : Store} {id : String} {status : Status} {r : MinedRule}
    (h : s.setStatus id status = .ok (r, t)) : s.after (.setStatus id status) = t := by
  rw [after, attempt, h]
  rfl

lemma after_setStatus_of_error {s : Store} {id : String} {status : Status} {e : StoreError}
    (h : s.setStatus id status = .error e) : s.after (.setStatus id status) = s := by
  rw [after, attempt, h]
  rfl

/-- A review leaves the store as it is, or moves a draft to another status. -/
lemma after_setStatus_cases (s : Store) (id : String) (status : Status) :
    s.after (.setStatus id status) = s ∨
      ∃ r, s.mined.find? id = some r ∧ r.status = .draft ∧
        (s.after (.setStatus id status)).statics = s.statics ∧
        (s.after (.setStatus id status)).mined = s.mined.insert id { r with status } := by
  rcases s.after_setStatus_eq_self_or id status with heq | ⟨reviewed, hok⟩
  · exact Or.inl heq
  · obtain ⟨r, hr, hdraft, -, rfl, heq⟩ := setStatus_eq_ok_iff.mp hok
    right
    refine ⟨r, hr, hdraft, ?_, ?_⟩
    · rw [heq, statics_refresh]
    · rw [heq, mined_refresh]

/-- Restoring leaves the store as it is, or makes it the one that some contents describe. -/
lemma after_restore_eq_self_or (s : Store) (held : Except MediumError (Option ByteArray)) :
    s.after (.restore held) = s ∨ ∃ c, ofContents c = .ok (s.after (.restore held)) := by
  rcases s.after_eq_self_or (.restore held) with h | h
  · exact Or.inl h
  · obtain ⟨b, hb⟩ := exists_ok_of_map_snd h
    generalize s.after (.restore held) = t at h hb
    rcases held with e | _ | bytes
    · cases hb
    · cases hb
      exact Or.inl rfl
    · right
      simp only [restore, ofBytes] at hb
      cases hd : Snapshot.decode bytes with
      | error e =>
        rw [hd] at hb
        cases hb
      | ok snapshot =>
        simp only [hd] at hb
        cases hc : ofContents snapshot.contents with
        | error e =>
          rw [hc] at hb
          cases hb
        | ok fresh =>
          rw [hc] at hb
          cases hb
          exact ⟨snapshot.contents, hc⟩

/-! ## Runs -/

@[simp] lemma run_nil (s : Store) : s.run [] = s := rfl

@[simp] lemma run_cons (s : Store) (op : Op) (ops : List Op) :
    s.run (op :: ops) = (s.after op).run ops := rfl

lemma run_append (s : Store) (ops ops' : List Op) :
    s.run (ops ++ ops') = (s.run ops).run ops' :=
  List.foldl_append

/-- What every operation of a run keeps, the run keeps. -/
lemma run_keeps {P : Store → Prop} {ops : List Op} {s : Store}
    (hstep : ∀ t, ∀ op ∈ ops, P t → P (t.after op)) (hs : P s) : P (s.run ops) := by
  induction ops generalizing s with
  | nil => exact hs
  | cons op ops ih =>
    rw [run_cons]
    refine ih (fun t op' hop' => hstep t op' (List.mem_cons_of_mem _ hop')) ?_
    exact hstep s op List.mem_cons_self hs

/-- The store after the first `n` operations of a run that starts with nothing. -/
def storeAt (ops : List Op) (n : Nat) : Store :=
  empty.run (ops.take n)

@[simp] lemma storeAt_zero (ops : List Op) : storeAt ops 0 = empty := rfl

lemma storeAt_succ (ops : List Op) (n : Nat) :
    storeAt ops (n + 1) = (storeAt ops n).run ops[n]?.toList := by
  rw [storeAt, List.take_add_one, run_append]
  rfl

lemma storeAt_succ_of_some {ops : List Op} {n : Nat} {op : Op} (h : ops[n]? = some op) :
    storeAt ops (n + 1) = (storeAt ops n).after op := by
  rw [storeAt_succ, h]
  rfl

lemma storeAt_succ_of_none {ops : List Op} {n : Nat} (h : ops[n]? = none) :
    storeAt ops (n + 1) = storeAt ops n := by
  rw [storeAt_succ, h]
  rfl

end Store
end Deprecation
