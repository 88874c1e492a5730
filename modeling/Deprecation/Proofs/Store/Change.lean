/-
# What an accepted change does

A store takes a change or refuses it.  This file says for each kind of change when it is
taken and which store it leaves, so that what a change keeps can be proved without going
through the order of its checks again.
-/
import Mathlib
import Deprecation.Store.Persistence

namespace Deprecation

/-! ## Outcomes -/

lemma bind_eq_ok_iff {ε α β : Type} {x : Except ε α} {f : α → Except ε β} {b : β} :
    x >>= f = .ok b ↔ ∃ a, x = .ok a ∧ f a = .ok b := by
  cases x with
  | error e => simp [bind, Except.bind]
  | ok a => simp [bind, Except.bind]

/-! ## Compiling many patterns -/

/-- Rules with their compiled patterns: the ids differ from each other and from those seen
before. -/
structure Compiled {α : Type} (view : α → Rule) (seen : List String) (rules : List α)
    (compiled : List (α × Regex)) : Prop where
  map_fst : compiled.map (·.1) = rules
  compiles : ∀ p ∈ compiled, Regex.compile (view p.1).pattern = some p.2
  nodup : (rules.map fun r => (view r).id).Nodup
  unseen : ∀ r ∈ rules, (view r).id ∉ seen

lemma compileRule_eq_ok_iff {id pattern : String} {x : Regex} :
    compileRule id pattern = .ok x ↔ Regex.compile pattern = some x := by
  rw [compileRule]
  cases Regex.compile pattern with
  | none => simp
  | some y => simp

section CompileAll

variable {α : Type} {view : α → Rule} {objection : α → Option StoreError} {seen : List String}

lemma Compiled.cons {r : α} {rest : List α} {x : Regex} {others : List (α × Regex)}
    (hr : (view r).id ∉ seen) (hx : Regex.compile (view r).pattern = some x)
    (h : Compiled view ((view r).id :: seen) rest others) :
    Compiled view seen (r :: rest) ((r, x) :: others) where
  map_fst := by rw [List.map_cons, h.map_fst]
  compiles := by
    intro p hp
    rcases List.mem_cons.mp hp with rfl | hp
    · exact hx
    · exact h.compiles p hp
  nodup := by
    rw [List.map_cons, List.nodup_cons]
    refine ⟨?_, h.nodup⟩
    intro hmem
    obtain ⟨r', hr', hid⟩ := List.mem_map.mp hmem
    exact h.unseen r' hr' (by rw [hid]; exact List.mem_cons_self)
  unseen := by
    intro r' hr'
    rcases List.mem_cons.mp hr' with rfl | hr'
    · exact hr
    · intro hmem
      exact h.unseen r' hr' (List.mem_cons_of_mem _ hmem)

lemma Compiled.tail {r : α} {rest : List α} {p : α × Regex} {others : List (α × Regex)}
    (h : Compiled view seen (r :: rest) (p :: others)) :
    Compiled view ((view r).id :: seen) rest others where
  map_fst := by
    have := h.map_fst
    rw [List.map_cons, List.cons.injEq] at this
    exact this.2
  compiles := fun q hq => h.compiles q (List.mem_cons_of_mem _ hq)
  nodup := (List.nodup_cons.mp h.nodup).2
  unseen := by
    intro r' hr' hmem
    rcases List.mem_cons.mp hmem with hid | hmem
    · exact (List.nodup_cons.mp h.nodup).1 (List.mem_map.mpr ⟨r', hr', hid⟩)
    · exact h.unseen r' (List.mem_cons_of_mem _ hr') hmem

/-- Rules are compiled together just when their ids differ, nothing is objected and every
pattern compiles. -/
theorem compileAll_eq_ok_iff {rules : List α} {compiled : List (α × Regex)} :
    compileAll view objection seen rules = .ok compiled ↔
      Compiled view seen rules compiled ∧ ∀ r ∈ rules, objection r = none := by
  induction rules generalizing seen compiled with
  | nil =>
    rw [compileAll]
    constructor
    · intro h
      cases h
      exact ⟨⟨rfl, by simp, by simp, by simp⟩, by simp⟩
    · rintro ⟨h, -⟩
      rw [List.map_eq_nil_iff.mp h.map_fst]
  | cons r rest ih =>
    rw [compileAll]
    constructor
    · intro h
      split at h
      · cases h
      next hr =>
        split at h
        · cases h
        next ho =>
          obtain ⟨x, hx, h⟩ := bind_eq_ok_iff.mp h
          obtain ⟨others, hothers, h⟩ := bind_eq_ok_iff.mp h
          cases h
          obtain ⟨hc, hobj⟩ := ih.mp hothers
          refine ⟨hc.cons hr (compileRule_eq_ok_iff.mp hx), ?_⟩
          intro r' hr'
          rcases List.mem_cons.mp hr' with rfl | hr'
          · exact ho
          · exact hobj r' hr'
    · rintro ⟨h, hobj⟩
      cases compiled with
      | nil => exact absurd h.map_fst (by simp)
      | cons p others =>
        have hp : p.1 = r := by
          have := h.map_fst
          rw [List.map_cons, List.cons.injEq] at this
          exact this.1
        have hx : compileRule (view r).id (view r).pattern = .ok p.2 :=
          compileRule_eq_ok_iff.mpr (hp ▸ h.compiles p List.mem_cons_self)
        have hrest := ih.mpr ⟨h.tail, fun r' hr' => hobj r' (List.mem_cons_of_mem _ hr')⟩
        rw [if_neg (h.unseen r List.mem_cons_self), hobj r List.mem_cons_self]
        simp only [hx, hrest]
        rw [← hp]
        rfl

end CompileAll

namespace Store

variable {s t : Store}

/-! ## Catalogues and snapshots -/

/-- Nothing is objected to a rule that refers to no entry, or to one that is given. -/
lemma danglingAmong_eq_none_iff {entries : List Entry} {r : StaticRule} :
    danglingAmong entries r = none ↔ ∀ c, r.correction = some c → ∃ e ∈ entries, e.id = c := by
  rw [danglingAmong]
  cases r.correction with
  | none => simp
  | some c => simp

theorem loadStatics_eq_ok_iff {rules : List StaticRule} {entries : List Entry} :
    s.loadStatics rules entries = .ok t ↔
      ∃ compiled, Compiled StaticRule.view [] rules compiled ∧
        (∀ r ∈ rules, danglingAmong entries r = none) ∧
        (∀ r ∈ rules, s.mined.has r.id = false) ∧
        (s.replaceStatics compiled entries).refresh = t := by
  rw [loadStatics, bind_eq_ok_iff]
  refine exists_congr fun compiled => ?_
  rw [compileAll_eq_ok_iff]
  constructor
  · rintro ⟨⟨hc, hobj⟩, h⟩
    split at h
    · cases h
    next hclash =>
      refine ⟨hc, hobj, ?_, by simpa using h⟩
      intro r hr
      simpa using List.find?_eq_none.mp hclash r hr
  · rintro ⟨hc, hobj, hclash, h⟩
    have hnone : rules.find? (fun r => s.mined.has r.id) = none := by
      apply List.find?_eq_none.mpr
      intro r hr
      simp [hclash r hr]
    refine ⟨⟨hc, hobj⟩, ?_⟩
    rw [hnone]
    exact congrArg Except.ok h

lemma mined_of_loadStatics {rules : List StaticRule} {entries : List Entry}
    (h : s.loadStatics rules entries = .ok t) : t.mined = s.mined := by
  obtain ⟨compiled, -, -, -, rfl⟩ := loadStatics_eq_ok_iff.mp h
  rfl

lemma statics_of_loadStatics {rules : List StaticRule} {entries : List Entry}
    (h : s.loadStatics rules entries = .ok t) : t.statics = rules := by
  obtain ⟨compiled, hc, -, -, rfl⟩ := loadStatics_eq_ok_iff.mp h
  exact hc.map_fst

section Loading

variable {rules : List StaticRule} {entries : List Entry} {e : StoreError}
  {compiled : List (StaticRule × Regex)} {clash : StaticRule}

/-- A catalogue with a fault of its own is refused for it. -/
lemma loadStatics_of_fault
    (h : compileAll StaticRule.view (danglingAmong entries) [] rules = .error e) :
    s.loadStatics rules entries = .error e := by
  rw [loadStatics, h]
  rfl

/-- Otherwise it is refused for the first rule with an id of a mined rule. -/
lemma loadStatics_of_clash
    (h : compileAll StaticRule.view (danglingAmong entries) [] rules = .ok compiled)
    (hclash : rules.find? (fun r => s.mined.has r.id) = some clash) :
    s.loadStatics rules entries = .error (.duplicateRule clash.id) := by
  rw [loadStatics, h, hclash]
  rfl

/-- Otherwise it takes the place of the one before. -/
lemma loadStatics_of_free
    (h : compileAll StaticRule.view (danglingAmong entries) [] rules = .ok compiled)
    (hfree : rules.find? (fun r => s.mined.has r.id) = none) :
    s.loadStatics rules entries = .ok (s.replaceStatics compiled entries).refresh := by
  rw [loadStatics, h, hfree]
  rfl

end Loading

theorem ofContents_eq_ok_iff {c : Contents} :
    ofContents c = .ok t ↔
      ∃ statics mined, Compiled StaticRule.view [] c.statics statics ∧
        Compiled MinedRule.view (c.statics.map StaticRule.id) c.mined mined ∧
        (mined.foldl (fun s r => s.putMined r.1 r.2)
          (empty.replaceStatics statics c.entries)).refresh = t := by
  rw [ofContents, bind_eq_ok_iff]
  refine exists_congr fun statics => ?_
  rw [compileAll_eq_ok_iff, bind_eq_ok_iff]
  constructor
  · rintro ⟨⟨hs, -⟩, mined, hm, h⟩
    cases h
    exact ⟨mined, hs, (compileAll_eq_ok_iff.mp hm).1, rfl⟩
  · rintro ⟨mined, hs, hm, h⟩
    refine ⟨⟨hs, fun _ _ => rfl⟩, mined, compileAll_eq_ok_iff.mpr ⟨hm, fun _ _ => rfl⟩, ?_⟩
    exact congrArg Except.ok h

/-! ## Added entries -/

/-- Adding entries touches the entries alone. -/
lemma foldl_putEntry (s : Store) (entries : List Entry) :
    entries.foldl putEntry s
      = { s with entries := entries.foldl (fun t e => t.insert e.id e) s.entries } := by
  induction entries generalizing s with
  | nil => rfl
  | cons e entries ih =>
    rw [List.foldl_cons, ih]
    rfl

@[simp] lemma statics_addEntries (s : Store) (entries : List Entry) :
    (s.addEntries entries).statics = s.statics := by
  rw [addEntries, foldl_putEntry]
  rfl

@[simp] lemma mined_addEntries (s : Store) (entries : List Entry) :
    (s.addEntries entries).mined = s.mined := by
  rw [addEntries, foldl_putEntry]
  rfl

/-! ## Mined rules -/

/-- What a store asks of a submitted rule before it looks at the one it holds. -/
structure Admissible (s : Store) (r : MinedRule) (x : Regex) : Prop where
  release : (Text.trimmed r.release).isEmpty = false
  draft : r.status = .draft
  compiles : Regex.compile r.pattern = some x
  notStatic : s.isStatic r.id = false
  resolves : s.dangling r = none

/-- The checks of a submitted rule in their order. -/
lemma submit_eq (s : Store) (r : MinedRule) :
    s.submit r =
      if (Text.trimmed r.release).isEmpty then .error (.missingRelease r.id)
      else if r.status ≠ .draft then .error (.notDraft r.id r.status)
      else compileRule r.id r.pattern >>= fun x =>
        if s.isStatic r.id then .error (.staticConflict r.id)
        else match s.dangling r with
          | some e => .error e
          | none => submissionOf (s.mined.find? r.id) r >>= fun
            | .unchanged => .ok (.unchanged, s)
            | o => .ok (o, (s.putMined r x).refresh) := by
  rw [submit]
  by_cases hrelease : (Text.trimmed r.release).isEmpty
  · rw [if_pos hrelease, if_pos hrelease]
    rfl
  rw [if_neg hrelease, if_neg hrelease]
  by_cases hdraft : r.status ≠ .draft
  · rw [if_pos hdraft, if_pos hdraft]
    rfl
  rw [if_neg hdraft, if_neg hdraft]
  refine congrArg (compileRule r.id r.pattern >>= ·) (funext fun x => ?_)
  by_cases hstatic : s.isStatic r.id
  · rw [if_pos hstatic, if_pos hstatic]
    rfl
  rw [if_neg hstatic, if_neg hstatic]
  cases s.dangling r with
  | some e => rfl
  | none => rfl

/-- A rule is taken when it is admissible and the rule that is held does not stand against it. -/
theorem submit_eq_ok_iff {r : MinedRule} {o : Submission} :
    s.submit r = .ok (o, t) ↔
      ∃ x, s.Admissible r x ∧ submissionOf (s.mined.find? r.id) r = .ok o ∧
        t = if o = .unchanged then s else (s.putMined r x).refresh := by
  rw [submit_eq]
  constructor
  · intro h
    split at h
    · cases h
    next hrelease =>
    split at h
    · cases h
    next hdraft =>
    obtain ⟨x, hx, h⟩ := bind_eq_ok_iff.mp h
    split at h
    · cases h
    next hstatic =>
    split at h
    · cases h
    next hdangling =>
    obtain ⟨o', ho', h⟩ := bind_eq_ok_iff.mp h
    have hadmissible : s.Admissible r x :=
      ⟨by simpa using hrelease, by simpa using hdraft, compileRule_eq_ok_iff.mp hx,
        by simpa using hstatic, hdangling⟩
    cases o' <;> cases h <;> exact ⟨x, hadmissible, ho', rfl⟩
  · rintro ⟨x, h, ho, rfl⟩
    rw [if_neg (by simp [h.release]), if_neg (by simp [h.draft]),
      compileRule_eq_ok_iff.mpr h.compiles, bind_eq_ok_iff]
    refine ⟨x, rfl, ?_⟩
    rw [if_neg (by simp [h.notStatic]), h.resolves, ho]
    cases o <;> rfl

/-- An admissible rule is refused for one reason alone: a reviewed rule would change. -/
lemma submit_of_admissible {r : MinedRule} {x : Regex} (h : s.Admissible r x) {e : StoreError}
    (he : submissionOf (s.mined.find? r.id) r = .error e) : s.submit r = .error e := by
  rw [submit_eq, if_neg (by simp [h.release]), if_neg (by simp [h.draft]),
    compileRule_eq_ok_iff.mpr h.compiles]
  show (if s.isStatic r.id then _ else _) = _
  rw [if_neg (by simp [h.notStatic]), h.resolves, he]
  rfl

/-- What becomes of a rule in the four cases: the id is free, the rule is held as it is, a
reviewed rule holds the id, a draft holds it. -/
lemma submissionOf_cases (held : Option MinedRule) (r : MinedRule) :
    (held = none ∧ submissionOf held r = .ok .inserted) ∨
      ∃ old, held = some old ∧
        ((old.sameContent r = true ∧ submissionOf held r = .ok .unchanged) ∨
          (old.sameContent r = false ∧ old.status ≠ .draft ∧
            submissionOf held r = .error (.alreadyReviewed r.id old.status)) ∨
          (old.sameContent r = false ∧ old.status = .draft ∧
            submissionOf held r = .ok .replaced)) := by
  cases held with
  | none => exact Or.inl ⟨rfl, rfl⟩
  | some old =>
    refine Or.inr ⟨old, rfl, ?_⟩
    rw [submissionOf]
    cases hsame : old.sameContent r with
    | true => simp
    | false => cases hstatus : old.status <;> simp [Status.isFinal]

theorem setStatus_eq_ok_iff {id : String} {status : Status} {reviewed : MinedRule} :
    s.setStatus id status = .ok (reviewed, t) ↔
      ∃ r, s.mined.find? id = some r ∧ r.status = .draft ∧ status ≠ .draft ∧
        reviewed = { r with status } ∧
        t = { s with mined := s.mined.insert id reviewed }.refresh := by
  rw [setStatus]
  cases s.mined.find? id with
  | none => simp
  | some r =>
    dsimp only
    by_cases h : r.status.canBecome status = true
    · rw [if_pos h]
      obtain ⟨hdraft, hstatus⟩ := Status.canBecome_iff.mp h
      constructor
      · intro hc
        cases hc
        exact ⟨r, rfl, hdraft, hstatus, rfl, rfl⟩
      · rintro ⟨r', hr', -, -, rfl, rfl⟩
        cases hr'
        rfl
    · rw [if_neg h]
      constructor
      · intro hc
        cases hc
      · rintro ⟨r', hr', hdraft, hstatus, -⟩
        cases hr'
        exact absurd (Status.canBecome_iff.mpr ⟨hdraft, hstatus⟩) h

end Store
end Deprecation
