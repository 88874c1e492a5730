/-
# Calls on different rules

Submissions and reviews of mined rules all work on one store.  They read the static rules and
the entries, they share the table of compiled patterns, and each one that is taken makes the
active list anew.  This file shows that calls that concern different rules do not get in each
other's way: in whatever order they are made, each is answered as if it were the only one, and
the store at the end is the same.

What a call is answered, and what it puts under its own id, depends on the static rules, the
entries and the rule under that id.  No call touches the first two, and none touches the id of
another.  The compiled patterns and the active list need no argument of their own, since a
coherent store is fixed by its rules and entries.
-/
import Mathlib
import Deprecation.Proofs.Store.Active

namespace Deprecation
namespace Store

variable {s t : Store}

/-- A submission or a review. -/
inductive Call where
  | submit (r : MinedRule)
  | setStatus (id : String) (status : Status)

namespace Call

/-- The id of the rule that a call concerns. -/
def id : Call → String
  | submit r => r.id
  | setStatus id _ => id

/-- The operation that a call asks for. -/
def op : Call → Op
  | submit r => .submit r
  | setStatus id status => .setStatus id status

lemma isMining_op (c : Call) : c.op.isMining = true := by
  cases c <;> rfl

end Call

/-- What a call is answered: what became of a submission, the rule after a review, or why the
call was refused. -/
abbrev Answer := Except StoreError (Submission ⊕ MinedRule)

/-- The answer to a call. -/
def answer (s : Store) : Call → Answer
  | .submit r => (s.submit r).map fun p => .inl p.1
  | .setStatus id status => (s.setStatus id status).map fun p => .inr p.1

/-- The answers to calls that are made one after the other, each with its call. -/
def answers (s : Store) : List Call → List (Call × Answer)
  | [] => []
  | c :: rest => (c, s.answer c) :: (s.after c.op).answers rest

/-! ## What a call reads -/

/-- Two stores do not differ in what a call on an id reads. -/
structure Agree (s t : Store) (id : String) : Prop where
  statics : t.statics = s.statics
  entries : t.entries = s.entries
  find? : t.mined.find? id = s.mined.find? id

lemma Agree.submit {r : MinedRule} (h : Agree s t r.id) :
    (∃ e, s.submit r = .error e ∧ t.submit r = .error e) ∨
      ∃ o s' t', s.submit r = .ok (o, s') ∧ t.submit r = .ok (o, t') ∧
        t'.mined.find? r.id = s'.mined.find? r.id := by
  have hstatic : t.isStatic r.id = s.isStatic r.id := by rw [isStatic, isStatic, h.statics]
  have hdangling : t.dangling r = s.dangling r := by rw [dangling, dangling, h.entries]
  rw [submit_eq s, submit_eq t, hstatic, hdangling, h.find?]
  split
  · exact Or.inl ⟨_, rfl, rfl⟩
  split
  · exact Or.inl ⟨_, rfl, rfl⟩
  cases compileRule r.id r.pattern with
  | error e => exact Or.inl ⟨e, rfl, rfl⟩
  | ok x =>
    dsimp only [bind, Except.bind]
    split
    · exact Or.inl ⟨_, rfl, rfl⟩
    cases s.dangling r with
    | some e => exact Or.inl ⟨e, rfl, rfl⟩
    | none =>
      cases submissionOf (s.mined.find? r.id) r with
      | error e => exact Or.inl ⟨e, rfl, rfl⟩
      | ok o =>
        right
        cases o with
        | unchanged => exact ⟨_, s, t, rfl, rfl, h.find?⟩
        | inserted | replaced =>
          refine ⟨_, _, _, rfl, rfl, ?_⟩
          rw [mined_refresh, mined_refresh, putMined, putMined]
          simp only [Keyed.find?_insert_self]

lemma Agree.setStatus {id : String} (h : Agree s t id) (status : Status) :
    (∃ e, s.setStatus id status = .error e ∧ t.setStatus id status = .error e) ∨
      ∃ r s' t', s.setStatus id status = .ok (r, s') ∧ t.setStatus id status = .ok (r, t') ∧
        t'.mined.find? id = s'.mined.find? id := by
  have hstatic : t.isStatic id = s.isStatic id := by rw [isStatic, isStatic, h.statics]
  rw [Store.setStatus, Store.setStatus, h.find?, hstatic]
  cases s.mined.find? id with
  | none => exact Or.inl ⟨_, rfl, rfl⟩
  | some r =>
    dsimp only
    split
    · refine Or.inr ⟨_, _, _, rfl, rfl, ?_⟩
      rw [mined_refresh, mined_refresh]
      simp only [Keyed.find?_insert_self]
    · exact Or.inl ⟨_, rfl, rfl⟩

/-- A call is answered alike by stores that agree, and puts the same under its id. -/
theorem Agree.call {c : Call} (h : Agree s t c.id) :
    t.answer c = s.answer c ∧
      (t.after c.op).mined.find? c.id = (s.after c.op).mined.find? c.id := by
  cases c with
  | submit r =>
    rw [Call.op, answer, answer]
    rcases h.submit with ⟨e, hs, ht⟩ | ⟨o, s', t', hs, ht, hfind⟩
    · rw [after_submit_of_error hs, after_submit_of_error ht, hs, ht]
      exact ⟨rfl, h.find?⟩
    · rw [after_submit_of_ok hs, after_submit_of_ok ht, hs, ht]
      exact ⟨rfl, hfind⟩
  | setStatus id status =>
    replace h : Agree s t id := h
    rw [Call.op, Call.id, answer, answer]
    rcases h.setStatus status with ⟨e, hs, ht⟩ | ⟨r, s', t', hs, ht, hfind⟩
    · rw [after_setStatus_of_error hs, after_setStatus_of_error ht, hs, ht]
      exact ⟨rfl, h.find?⟩
    · rw [after_setStatus_of_ok hs, after_setStatus_of_ok ht, hs, ht]
      exact ⟨rfl, hfind⟩

/-! ## What a call leaves alone -/

lemma find?_after_call (s : Store) {c : Call} {id : String} (hid : id ≠ c.id) :
    (s.after c.op).mined.find? id = s.mined.find? id := by
  cases c with
  | submit r =>
    rcases s.after_submit_eq_self_or r with heq | ⟨o, ho⟩
    · rw [Call.op, heq]
    · obtain ⟨x, -, -, heq⟩ := submit_eq_ok_iff.mp ho
      rw [Call.op, heq]
      split
      · rfl
      · exact Keyed.find?_insert_of_ne _ _ hid
  | setStatus id' status =>
    rcases s.after_setStatus_cases id' status with heq | ⟨r, -, -, -, hmined⟩
    · rw [Call.op, heq]
    · rw [Call.op, hmined]
      exact Keyed.find?_insert_of_ne _ _ hid

/-- A call cannot tell whether a call on another id was made before. -/
lemma agree_after_call (s : Store) {c : Call} {id : String} (hid : id ≠ c.id) :
    Agree s (s.after c.op) id := by
  obtain ⟨hstatics, hentries⟩ := s.statics_entries_after c.isMining_op
  exact ⟨hstatics, hentries, s.find?_after_call hid⟩

/-! ## Many calls -/

variable {calls calls' : List Call}

/-- The store after some calls. -/
def afterCalls (s : Store) (calls : List Call) : Store :=
  s.run (calls.map Call.op)

@[simp] lemma afterCalls_nil (s : Store) : s.afterCalls [] = s := rfl

@[simp] lemma afterCalls_cons (s : Store) (c : Call) (calls : List Call) :
    s.afterCalls (c :: calls) = (s.after c.op).afterCalls calls := rfl

/-- Calls that concern different rules are answered as if each were the only one. -/
lemma answers_eq_map (hids : (calls.map Call.id).Nodup) (s : Store) :
    s.answers calls = calls.map fun c => (c, s.answer c) := by
  induction calls generalizing s with
  | nil => rfl
  | cons c rest ih =>
    rw [List.map_cons, List.nodup_cons] at hids
    rw [answers, ih hids.2, List.map_cons]
    refine congrArg (_ :: ·) (List.map_congr_left fun d hd => ?_)
    have hne : d.id ≠ c.id := by
      intro heq
      exact hids.1 (List.mem_map.mpr ⟨d, hd, heq⟩)
    rw [(s.agree_after_call hne).call.1]

lemma find?_afterCalls_of_notMem {id : String} (hid : id ∉ calls.map Call.id) (s : Store) :
    (s.afterCalls calls).mined.find? id = s.mined.find? id := by
  induction calls generalizing s with
  | nil => rfl
  | cons c rest ih =>
    rw [List.map_cons, List.mem_cons, not_or] at hid
    rw [afterCalls_cons, ih hid.2, s.find?_after_call hid.1]

/-- Under the id of a call is at the end what the call put there. -/
lemma find?_afterCalls_of_mem (hids : (calls.map Call.id).Nodup) {c : Call} (hc : c ∈ calls)
    (s : Store) :
    (s.afterCalls calls).mined.find? c.id = (s.after c.op).mined.find? c.id := by
  induction calls generalizing s with
  | nil => cases hc
  | cons d rest ih =>
    rw [List.map_cons, List.nodup_cons] at hids
    rw [afterCalls_cons]
    rcases List.mem_cons.mp hc with rfl | hc
    · exact find?_afterCalls_of_notMem hids.1 _
    · have hne : c.id ≠ d.id := by
        intro heq
        exact hids.1 (List.mem_map.mpr ⟨c, hc, heq⟩)
      rw [ih hids.2 hc, (s.agree_after_call hne).call.2]

lemma statics_entries_afterCalls (s : Store) (calls : List Call) :
    (s.afterCalls calls).statics = s.statics ∧ (s.afterCalls calls).entries = s.entries := by
  induction calls generalizing s with
  | nil => exact ⟨rfl, rfl⟩
  | cons c rest ih =>
    obtain ⟨hstatics, hentries⟩ := s.statics_entries_after c.isMining_op
    rw [afterCalls_cons]
    exact ⟨(ih _).1.trans hstatics, (ih _).2.trans hentries⟩

lemma Coherent.afterCalls (h : s.Coherent) (calls : List Call) : (s.afterCalls calls).Coherent :=
  run_keeps (fun _ op _ ht => ht.after op) h

/-- Calls that concern different rules lead to one store in whatever order they are made. -/
lemma Coherent.afterCalls_perm (h : s.Coherent) (hids : (calls.map Call.id).Nodup)
    (hperm : calls'.Perm calls) : s.afterCalls calls' = s.afterCalls calls := by
  have hids' : (calls'.map Call.id).Nodup := (hperm.map Call.id).nodup_iff.mpr hids
  obtain ⟨hstatics, hentries⟩ := s.statics_entries_afterCalls calls
  obtain ⟨hstatics', hentries'⟩ := s.statics_entries_afterCalls calls'
  refine (h.afterCalls calls').ext (h.afterCalls calls) (hstatics'.trans hstatics.symm) ?_
    (hentries'.trans hentries.symm)
  apply Keyed.ext_find?
  intro id
  by_cases hid : id ∈ calls.map Call.id
  · obtain ⟨c, hc, rfl⟩ := List.mem_map.mp hid
    rw [find?_afterCalls_of_mem hids hc, find?_afterCalls_of_mem hids' (hperm.mem_iff.mpr hc)]
  · have hid' : id ∉ calls'.map Call.id := fun hmem => hid ((hperm.map Call.id).mem_iff.mp hmem)
    rw [find?_afterCalls_of_notMem hid, find?_afterCalls_of_notMem hid']

/-- **Calls on different rules do not depend on their order.**  After any run, let submissions
and reviews concern pairwise different rules.  In whatever order they are made, each call gets
the same answer, be it taken or refused, and the store at the end is the same, with the active
list. -/
theorem answers_do_not_depend_on_order (ops : List Op) (calls calls' : List Call)
    (hids : (calls.map Call.id).Nodup) (hperm : calls'.Perm calls) :
    let s := empty.run ops
    (s.answers calls').Perm (s.answers calls) ∧
    s.run (calls'.map Call.op) = s.run (calls.map Call.op) ∧
    (s.run (calls'.map Call.op)).active = (s.run (calls.map Call.op)).active := by
  intro s
  have h : s.Coherent := coherent_run ops
  have hids' : (calls'.map Call.id).Nodup := (hperm.map Call.id).nodup_iff.mpr hids
  have hstore : s.run (calls'.map Call.op) = s.run (calls.map Call.op) :=
    h.afterCalls_perm hids hperm
  refine ⟨?_, hstore, congrArg Store.active hstore⟩
  rw [answers_eq_map hids, answers_eq_map hids']
  exact hperm.map _

/-- The sample draft is approved, and another draft, whose reference dangles, is submitted. -/
def sampleCalls : List Call :=
  [.setStatus "auto-a-1.0" .approved,
    .submit { sampleDraft with id := "auto-b-1.0", correction := some "async" }]

/-- The approval succeeds also after the other draft was refused, and the stores are the same at
the end. -/
theorem sampleCalls_in_either_order :
    (sampleCalls.map Call.id).Nodup ∧ sampleCalls.reverse.Perm sampleCalls ∧
    let s := empty.run [.submit sampleDraft]
    (Call.setStatus "auto-a-1.0" .approved, .ok (.inr { sampleDraft with status := .approved }))
        ∈ s.answers sampleCalls.reverse ∧
      s.run (sampleCalls.reverse.map Call.op) = s.run (sampleCalls.map Call.op) := by
  have hids : (sampleCalls.map Call.id).Nodup := by decide
  have hperm : sampleCalls.reverse.Perm sampleCalls := List.reverse_perm sampleCalls
  obtain ⟨hanswers, hstore, -⟩ :=
    answers_do_not_depend_on_order [.submit sampleDraft] sampleCalls sampleCalls.reverse hids hperm
  refine ⟨hids, hperm, ?_, hstore⟩
  -- made first, the approval finds the draft
  have happroved : (empty.run [.submit sampleDraft]).setStatus "auto-a-1.0" .approved = .ok _ :=
    setStatus_eq_ok_iff.mpr ⟨sampleDraft, find?_sampleDraft, rfl, by decide, rfl, rfl⟩
  refine hanswers.mem_iff.mpr (List.mem_cons.mpr (Or.inl ?_))
  rw [answer, happroved]
  rfl

end Store
end Deprecation
