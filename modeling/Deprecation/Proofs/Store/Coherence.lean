/-
# Coherence

A store keeps two things beside its rules that follow from them: the compiled patterns and
the list of the active rules.  A stale pattern would let a rule search for the wrong thing,
and a missing one would switch it off without a word.  This file shows that neither happens.
A store is *consistent* when its rules stand under their own ids, no two rules share an id,
and the compiled pattern of each is that of its current pattern; it is *coherent* when its
active list is moreover the one made from these.  Nothing is coherent, every change keeps
coherence, and whatever a snapshot describes is coherent, so every run leads to a coherent
store.
-/
import Mathlib
import Deprecation.Proofs.Ingest.Pass
import Deprecation.Proofs.Keyed
import Deprecation.Proofs.Store.Age

namespace Deprecation
namespace Store

variable {s t : Store}

/-- The rule that an id belongs to, of either kind. -/
def ruleAt (s : Store) (id : String) : Option Rule :=
  ((s.statics.find? (·.id == id)).map StaticRule.view).or ((s.mined.find? id).map MinedRule.view)

/-- The compilation of a pattern is kept under an id. -/
def KeepsPattern (s : Store) (id pattern : String) : Prop :=
  ∃ x, Regex.compile pattern = some x ∧ s.patterns.find? id = some x

/-- The ids are those of the rules and entries, no two rules share one, and the compiled
patterns are those of the rules. -/
structure Consistent (s : Store) : Prop where
  nodup : (s.statics.map StaticRule.id).Nodup
  apart : ∀ r ∈ s.statics, s.mined.find? r.id = none
  mined_own : Keyed.Own MinedRule.id s.mined
  entries_own : Keyed.Own Entry.id s.entries
  compiles : ∀ id r, s.ruleAt id = some r → (Regex.compile r.pattern).isSome
  patterns : ∀ id, s.patterns.find? id = (s.ruleAt id).bind fun r => Regex.compile r.pattern

/-- A consistent store whose active list is the one made from its rules. -/
structure Coherent (s : Store) : Prop where
  consistent : s.Consistent
  fresh : s.refresh = s

/-! ## The rule at an id -/

lemma find?_statics (h : (s.statics.map StaticRule.id).Nodup) {r : StaticRule}
    (hr : r ∈ s.statics) : s.statics.find? (·.id == r.id) = some r :=
  (Keyed.find?_eq_some_iff_of_nodup h).mpr ⟨hr, rfl⟩

lemma ruleAt_of_mem_statics (h : (s.statics.map StaticRule.id).Nodup) {r : StaticRule}
    (hr : r ∈ s.statics) : s.ruleAt r.id = some r.view := by
  rw [ruleAt, find?_statics h hr]
  rfl

lemma ruleAt_of_not_static {id : String} (h : s.isStatic id = false) :
    s.ruleAt id = (s.mined.find? id).map MinedRule.view := by
  have hnone : s.statics.find? (·.id == id) = none := by
    apply List.find?_eq_none.mpr
    intro r hr hid
    have : s.isStatic id = true := isStatic_iff.mpr ⟨r, hr, by simpa using hid⟩
    rw [h] at this
    cases this
  rw [ruleAt, hnone]
  rfl

lemma isStatic_eq_false_iff {id : String} : s.isStatic id = false ↔ ∀ r ∈ s.statics, r.id ≠ id := by
  rw [← Bool.not_eq_true, isStatic_iff]
  simp

namespace Consistent

lemma not_static (h : s.Consistent) {id : String} {r : MinedRule} (hr : s.mined.find? id = some r) :
    s.isStatic id = false := by
  rw [isStatic_eq_false_iff]
  rintro r' hr' rfl
  rw [h.apart r' hr'] at hr
  cases hr

lemma ruleAt_of_mined (h : s.Consistent) {id : String} {r : MinedRule}
    (hr : s.mined.find? id = some r) : s.ruleAt id = some r.view := by
  rw [ruleAt_of_not_static (h.not_static hr), hr]
  rfl

/-- The compiled pattern that is kept for a rule is that of the rule. -/
lemma keepsPattern (h : s.Consistent) {id : String} {r : Rule} (hr : s.ruleAt id = some r) :
    s.KeepsPattern id r.pattern := by
  obtain ⟨x, hx⟩ := Option.isSome_iff_exists.mp (h.compiles id r hr)
  refine ⟨x, hx, ?_⟩
  rw [h.patterns, hr]
  exact hx

end Consistent

/-! ## What keeps a store consistent -/

lemma consistent_empty : Consistent empty where
  nodup := List.nodup_nil
  apart := by intro r hr; cases hr
  mined_own := Keyed.own_empty
  entries_own := Keyed.own_empty
  compiles := by intro id r hr; cases hr
  patterns := fun _ => rfl

/-- What a store is built from decides whether it is consistent, not its active list. -/
lemma Consistent.of_eq (h : s.Consistent) (hs : t.statics = s.statics)
    (hm : t.mined = s.mined) (he : Keyed.Own Entry.id t.entries) (hp : t.patterns = s.patterns) :
    t.Consistent := by
  have hrule : ∀ id, t.ruleAt id = s.ruleAt id := by
    intro id
    rw [ruleAt, ruleAt, hs, hm]
  exact
    { nodup := hs ▸ h.nodup
      apart := by rw [hs, hm]; exact h.apart
      mined_own := hm ▸ h.mined_own
      entries_own := he
      compiles := fun id r hr => h.compiles id r (by rw [← hrule, hr])
      patterns := fun id => by rw [hp, hrule, h.patterns] }

lemma Consistent.refresh (h : s.Consistent) : s.refresh.Consistent :=
  h.of_eq rfl rfl h.entries_own rfl

lemma Consistent.putEntry (h : s.Consistent) (e : Entry) : (s.putEntry e).Consistent :=
  h.of_eq rfl rfl (h.entries_own.insert e) rfl

/-- A mined rule and its compiled pattern, put in together. -/
lemma Consistent.putMined (h : s.Consistent) {r : MinedRule} {x : Regex}
    (hstatic : s.isStatic r.id = false) (hx : Regex.compile r.pattern = some x) :
    (s.putMined r x).Consistent := by
  have hrule : ∀ id, (s.putMined r x).ruleAt id
      = if id = r.id then some r.view else s.ruleAt id := by
    intro id
    split
    · next hid =>
      rw [hid, ruleAt_of_not_static (s := s.putMined r x) hstatic]
      simp [Store.putMined]
    · next hid =>
      rw [ruleAt, ruleAt]
      simp [Store.putMined, Keyed.find?_insert_of_ne _ _ hid]
  refine ⟨h.nodup, ?_, h.mined_own.insert r, h.entries_own, ?_, ?_⟩
  · intro r' hr'
    have hne : r'.id ≠ r.id := isStatic_eq_false_iff.mp hstatic r' hr'
    show (s.mined.insert r.id r).find? r'.id = none
    rw [Keyed.find?_insert_of_ne _ _ hne, h.apart r' hr']
  · intro id r' hr'
    rw [hrule] at hr'
    split at hr'
    · cases hr'
      rw [MinedRule.pattern_view, hx]
      rfl
    · exact h.compiles id r' hr'
  · intro id
    show (s.patterns.insert r.id x).find? id = _
    rw [hrule, Keyed.find?_insert]
    split
    · exact hx.symm
    · exact h.patterns id

/-- A review changes the status alone, which no pattern depends on; so it puts in the rule
and its compiled pattern like a submission does. -/
lemma Consistent.insert_eq_putMined (h : s.Consistent) {id : String} {r : MinedRule}
    (hr : s.mined.find? id = some r) (status : Status) :
    ∃ x, Regex.compile r.pattern = some x ∧
      { s with mined := s.mined.insert id { r with status } } = s.putMined { r with status } x := by
  obtain ⟨x, hx, hkept⟩ := h.keepsPattern (h.ruleAt_of_mined hr)
  refine ⟨x, hx, ?_⟩
  have hid : r.id = id := h.mined_own id r hr
  subst hid
  rw [Store.putMined, Keyed.insert_eq_self hkept]

/-! ## Sweeps -/

lemma Consistent.addEntries (h : s.Consistent) (entries : List Entry) :
    (entries.foldl Store.putEntry s).Consistent := by
  induction entries generalizing s with
  | nil => exact h
  | cons e entries ih => exact ih (h.putEntry e)

/-- A new catalogue takes the place of the one before: the patterns of the old rules go and
those of the new ones come. -/
lemma Consistent.replaceStatics (h : s.Consistent) {rules : List StaticRule}
    {compiled : List (StaticRule × Regex)} (hc : Compiled StaticRule.view [] rules compiled)
    (hclash : ∀ r ∈ rules, s.mined.find? r.id = none) (entries : List Entry) :
    (s.replaceStatics compiled entries).Consistent := by
  have hstatics : (s.replaceStatics compiled entries).statics = rules := hc.map_fst
  have hnodup : ((s.replaceStatics compiled entries).statics.map StaticRule.id).Nodup := by
    rw [hstatics]
    exact hc.nodup
  have hmined : ∀ id, (s.replaceStatics compiled entries).isStatic id = false →
      (s.replaceStatics compiled entries).ruleAt id = (s.mined.find? id).map MinedRule.view :=
    fun id hid => ruleAt_of_not_static hid
  have hstatic : ∀ p ∈ compiled,
      (s.replaceStatics compiled entries).ruleAt p.1.id = some p.1.view := by
    intro p hp
    refine ruleAt_of_mem_statics hnodup ?_
    rw [hstatics, ← hc.map_fst]
    exact List.mem_map.mpr ⟨p, hp, rfl⟩
  have hcases : ∀ id, (s.replaceStatics compiled entries).isStatic id = false ∨
      ∃ p ∈ compiled, p.1.id = id := by
    intro id
    cases hid : (s.replaceStatics compiled entries).isStatic id with
    | false => exact Or.inl rfl
    | true =>
      obtain ⟨r, hr, rfl⟩ := isStatic_iff.mp hid
      rw [hstatics, ← hc.map_fst] at hr
      obtain ⟨p, hp, rfl⟩ := List.mem_map.mp hr
      exact Or.inr ⟨p, hp, rfl⟩
  refine ⟨hnodup, ?_, h.mined_own, Keyed.own_ofList entries, ?_, ?_⟩
  · rw [hstatics]
    exact hclash
  · intro id r hr
    rcases hcases id with hid | ⟨p, hp, rfl⟩
    · rw [hmined id hid] at hr
      obtain ⟨m, hm, rfl⟩ := Option.map_eq_some_iff.mp hr
      exact h.compiles id m.view (h.ruleAt_of_mined hm)
    · rw [hstatic p hp] at hr
      cases hr
      exact Option.isSome_iff_exists.mpr ⟨p.2, hc.compiles p hp⟩
  · intro id
    show (compiled.foldl (fun t r => t.insert r.1.id r.2)
      (s.statics.foldl (fun t r => t.erase r.id) s.patterns)).find? id = _
    rw [Keyed.find?_foldl_insert (fun p : StaticRule × Regex => p.1.id) (·.2),
      Keyed.find?_foldl_erase StaticRule.id]
    cases hf : compiled.reverse.find? fun p => p.1.id == id with
    | some p =>
      have hp : p ∈ compiled := List.mem_reverse.mp (List.mem_of_find?_eq_some hf)
      have hid : p.1.id = id := by simpa using List.find?_some hf
      rw [← hid, hstatic p hp]
      exact (hc.compiles p hp).symm
    | none =>
      have hid : (s.replaceStatics compiled entries).isStatic id = false := by
        rcases hcases id with hid | ⟨p, hp, rfl⟩
        · exact hid
        · have := List.find?_eq_none.mp hf p (List.mem_reverse.mpr hp)
          exact absurd (beq_self_eq_true p.1.id) this
      rw [hmined id hid, Option.map_none, Option.none_or]
      -- an id that the old catalogue gives up belongs to no mined rule
      split
      · next hold =>
        obtain ⟨r, hr, rfl⟩ := List.mem_map.mp hold
        rw [h.apart r hr]
        rfl
      · next hold =>
        have hold' : s.isStatic id = false := by
          rw [isStatic_eq_false_iff]
          intro r hr hrid
          exact hold (List.mem_map.mpr ⟨r, hr, hrid⟩)
        rw [h.patterns, ruleAt_of_not_static hold']

/-- Mined rules put in one after the other, none of them under an id of a static rule. -/
lemma Consistent.foldl_putMined (h : s.Consistent) {mined : List (MinedRule × Regex)}
    (hstatic : ∀ p ∈ mined, s.isStatic p.1.id = false)
    (hx : ∀ p ∈ mined, Regex.compile p.1.pattern = some p.2) :
    (mined.foldl (fun s r => s.putMined r.1 r.2) s).Consistent := by
  induction mined generalizing s with
  | nil => exact h
  | cons p mined ih =>
    have hp := h.putMined (hstatic p List.mem_cons_self) (hx p List.mem_cons_self)
    exact ih hp (fun q hq => hstatic q (List.mem_cons_of_mem _ hq))
      (fun q hq => hx q (List.mem_cons_of_mem _ hq))

/-! ## Coherence along a run -/

lemma Consistent.coherent_refresh (h : s.Consistent) : s.refresh.Coherent :=
  ⟨h.refresh, refresh_refresh s⟩

/-- The rules and entries decide on the rest of a coherent store. -/
theorem Coherent.ext (hs : s.Coherent) (ht : t.Coherent) (hstatics : s.statics = t.statics)
    (hmined : s.mined = t.mined) (hentries : s.entries = t.entries) : s = t := by
  have hrule : ∀ id, s.ruleAt id = t.ruleAt id := by
    intro id
    rw [ruleAt, ruleAt, hstatics, hmined]
  have hpatterns : s.patterns = t.patterns := by
    apply Keyed.ext_find?
    intro id
    rw [hs.consistent.patterns, ht.consistent.patterns, hrule]
  have hviews : s.activeViews = t.activeViews := by
    rw [activeViews, activeViews, approved, approved, hstatics, hmined]
  rw [← hs.fresh, ← ht.fresh, refresh, refresh, hviews, hpatterns, hstatics, hmined, hentries]

lemma coherent_empty : Coherent empty :=
  ⟨consistent_empty, rfl⟩

lemma Coherent.of_loadStatics (h : s.Coherent) {rules : List StaticRule} {entries : List Entry}
    (ht : s.loadStatics rules entries = .ok t) : t.Coherent := by
  obtain ⟨compiled, hc, -, hclash, rfl⟩ := loadStatics_eq_ok_iff.mp ht
  refine (h.consistent.replaceStatics hc ?_ entries).coherent_refresh
  intro r hr
  exact Keyed.has_eq_false_iff.mp (hclash r hr)

lemma Coherent.of_submit (h : s.Coherent) {r : MinedRule} {o : Submission}
    (ht : s.submit r = .ok (o, t)) : t.Coherent := by
  obtain ⟨x, hx, -, rfl⟩ := submit_eq_ok_iff.mp ht
  split
  · exact h
  · exact (h.consistent.putMined hx.notStatic hx.compiles).coherent_refresh

lemma Coherent.of_setStatus (h : s.Coherent) {id : String} {status : Status} {r : MinedRule}
    (ht : s.setStatus id status = .ok (r, t)) : t.Coherent := by
  obtain ⟨old, hold, -, -, rfl, rfl⟩ := setStatus_eq_ok_iff.mp ht
  obtain ⟨x, hx, heq⟩ := h.consistent.insert_eq_putMined hold status
  have hid : old.id = id := h.consistent.mined_own id old hold
  have hstatic : s.isStatic old.id = false := by
    rw [hid]
    exact h.consistent.not_static hold
  rw [heq]
  exact (h.consistent.putMined (r := { old with status }) hstatic hx).coherent_refresh

lemma coherent_of_ofContents {c : Contents} (ht : ofContents c = .ok t) : t.Coherent := by
  obtain ⟨statics, mined, hs, hm, rfl⟩ := ofContents_eq_ok_iff.mp ht
  have hfresh : (empty.replaceStatics statics c.entries).Consistent :=
    consistent_empty.replaceStatics hs (fun _ _ => rfl) c.entries
  refine (hfresh.foldl_putMined ?_ hm.compiles).coherent_refresh
  intro p hp
  have hunseen : p.1.id ∉ c.statics.map StaticRule.id :=
    hm.unseen p.1 (by rw [← hm.map_fst]; exact List.mem_map.mpr ⟨p, hp, rfl⟩)
  rw [isStatic_eq_false_iff]
  intro r hr hid
  refine hunseen (List.mem_map.mpr ⟨r, ?_, hid⟩)
  rwa [← hs.map_fst]

/-- Every operation keeps coherence, whether it is taken or refused. -/
theorem Coherent.after (h : s.Coherent) (op : Op) : (s.after op).Coherent := by
  have hsubmit : ∀ (t : Store) (r : MinedRule), t.Coherent → (t.after (.submit r)).Coherent := by
    intro t r ht
    rcases t.after_submit_eq_self_or r with heq | ⟨o, heq⟩
    · rwa [heq]
    · exact ht.of_submit heq
  cases op with
  | load rules entries =>
    rcases s.after_load_eq_self_or rules entries with heq | heq
    · rwa [heq]
    · exact h.of_loadStatics heq
  | addEntries entries => exact (h.consistent.addEntries entries).coherent_refresh
  | submit r => exact hsubmit s r h
  | setStatus id status =>
    rcases s.after_setStatus_eq_self_or id status with heq | ⟨r, heq⟩
    · rwa [heq]
    · exact h.of_setStatus heq
  | ingest z text version clock =>
    exact Ingest.keeps_ingest (fun t r _ => hsubmit t r) h z text version clock
  | ingestDocument z text clock =>
    exact Ingest.keeps_ingestDocument (fun t r _ => hsubmit t r) h z text clock
  | restore held =>
    rcases s.after_restore_eq_self_or held with heq | ⟨c, hc⟩
    · rwa [heq]
    · exact coherent_of_ofContents hc

theorem coherent_run (ops : List Op) : (empty.run ops).Coherent :=
  run_keeps (fun _ op _ h => h.after op) coherent_empty

theorem coherent_storeAt (ops : List Op) (n : Nat) : (storeAt ops n).Coherent :=
  coherent_run (ops.take n)

/-! ## The active list -/

/-- An active rule that shows a rule and searches for the rule's own pattern. -/
def Activates (r : Rule) (a : ActiveRule) : Prop :=
  a.rule = r ∧ Regex.compile r.pattern = some a.regex

lemma Activates.unique {r : Rule} {a b : ActiveRule} (ha : Activates r a) (hb : Activates r b) :
    a = b := by
  obtain ⟨rule, x⟩ := a
  obtain ⟨rule', y⟩ := b
  obtain ⟨rfl, hx⟩ := ha
  obtain ⟨rfl, hy⟩ := hb
  rw [hx] at hy
  cases hy
  rfl

/-- An active list belongs to the rules that it shows when each searches for its own pattern. -/
lemma forall₂_activates_iff {rules : List Rule} {active : List ActiveRule} :
    List.Forall₂ Activates rules active ↔
      active.map ActiveRule.rule = rules ∧
        ∀ a ∈ active, Regex.compile a.rule.pattern = some a.regex := by
  constructor
  · intro h
    induction h with
    | nil => simp
    | cons hr _ ih =>
      obtain ⟨rfl, hx⟩ := hr
      refine ⟨by rw [List.map_cons, ih.1], ?_⟩
      intro a ha
      rcases List.mem_cons.mp ha with rfl | ha
      · exact hx
      · exact ih.2 a ha
  · rintro ⟨rfl, hown⟩
    rw [List.forall₂_map_left_iff]
    exact List.forall₂_same.mpr fun a ha => ⟨rfl, hown a ha⟩

lemma forall₂_filterMap_withRegex {patterns : Keyed Regex} {rules : List Rule}
    (h : ∀ r ∈ rules, ∃ x, Regex.compile r.pattern = some x ∧ patterns.find? r.id = some x) :
    List.Forall₂ Activates rules (rules.filterMap (withRegex patterns)) := by
  induction rules with
  | nil => exact List.Forall₂.nil
  | cons r rules ih =>
    obtain ⟨x, hx, hkept⟩ := h r List.mem_cons_self
    have hr : withRegex patterns r = some ⟨r, x⟩ := by rw [withRegex, hkept]; rfl
    rw [List.filterMap_cons_some hr]
    exact List.Forall₂.cons ⟨rfl, hx⟩ (ih fun r' hr' => h r' (List.mem_cons_of_mem _ hr'))

/-- No rule that is to be active is dropped, and each searches for its own pattern. -/
theorem Coherent.forall₂_active (h : s.Coherent) :
    List.Forall₂ Activates s.activeViews s.active := by
  have hactive : s.active = s.activeViews.filterMap (withRegex s.patterns) :=
    congrArg Store.active h.fresh.symm
  rw [hactive]
  apply forall₂_filterMap_withRegex
  intro r hr
  refine h.consistent.keepsPattern ?_
  rcases List.mem_append.mp hr with hr | hr
  · obtain ⟨rule, hrule, rfl⟩ := List.mem_map.mp hr
    exact ruleAt_of_mem_statics h.consistent.nodup hrule
  · obtain ⟨rule, hrule, rfl⟩ := List.mem_map.mp hr
    have hmem := (mem_approved.mp hrule).1
    exact h.consistent.ruleAt_of_mined (h.consistent.mined_own.mem_values_iff.mp hmem)

lemma Coherent.map_rule_active (h : s.Coherent) : s.active.map ActiveRule.rule = s.activeViews :=
  (forall₂_activates_iff.mp h.forall₂_active).1

/-- The rules that are to be active fix the active list. -/
lemma Coherent.active_eq_of_activates (h : s.Coherent) {active : List ActiveRule}
    (hactive : List.Forall₂ Activates s.activeViews active) : s.active = active :=
  List.right_unique_forall₂' (fun _ _ _ ha hb => ha.unique hb) h.forall₂_active hactive

/-- The approved rules come in strict order of age. -/
theorem Consistent.pairwise_approved (h : s.Consistent) :
    s.approved.Pairwise MinedRule.Precedes := by
  refine MinedRule.pairwise_byAge (List.Pairwise.filter _ ?_)
  refine h.mined_own.pairwise_values.imp ?_
  intro r r' hlt heq
  rw [heq] at hlt
  exact String.lt_irrefl _ hlt

/-! ## Every run -/

lemma Consistent.mem_ids_patterns_iff (h : s.Consistent) {id : String} :
    id ∈ s.patterns.ids ↔ id ∈ s.statics.map StaticRule.id ∨ id ∈ s.mined.ids := by
  rw [Keyed.mem_ids_iff, Keyed.mem_ids_iff]
  constructor
  · intro hid
    obtain ⟨x, hx⟩ := Keyed.has_iff.mp hid
    rw [h.patterns] at hx
    obtain ⟨r, hr, -⟩ := Option.bind_eq_some_iff.mp hx
    cases hstatic : s.isStatic id with
    | true =>
      obtain ⟨r', hr', rfl⟩ := isStatic_iff.mp hstatic
      exact Or.inl (List.mem_map.mpr ⟨r', hr', rfl⟩)
    | false =>
      rw [ruleAt_of_not_static hstatic] at hr
      obtain ⟨m, hm, -⟩ := Option.map_eq_some_iff.mp hr
      exact Or.inr (Keyed.has_iff.mpr ⟨m, hm⟩)
  · rintro (hid | hid)
    · obtain ⟨r, hr, rfl⟩ := List.mem_map.mp hid
      obtain ⟨x, -, hx⟩ := h.keepsPattern (ruleAt_of_mem_statics h.nodup hr)
      exact Keyed.has_iff.mpr ⟨x, hx⟩
    · obtain ⟨m, hm⟩ := Keyed.has_iff.mp hid
      obtain ⟨x, -, hx⟩ := h.keepsPattern (h.ruleAt_of_mined hm)
      exact Keyed.has_iff.mpr ⟨x, hx⟩

/-- **What follows from the rules follows them.**  After any run of operations, taken or
refused, the static ids differ from each other and from the mined ones, mined rules and
entries stand under their own ids, the compiled patterns are those of the static and the mined
rules and of no others, and the active list shows exactly the static rules as declared and
then the approved rules in strict order of age, each with the compilation of its own
pattern. -/
theorem patterns_and_active_follow_rules (ops : List Op) :
    let s := empty.run ops
    (s.statics.map StaticRule.id).Nodup ∧
    (∀ r ∈ s.statics, r.id ∉ s.mined.ids) ∧
    (∀ id r, s.mined.find? id = some r → r.id = id) ∧
    (∀ id e, s.entries.find? id = some e → e.id = id) ∧
    (∀ id, id ∈ s.patterns.ids ↔ id ∈ s.statics.map StaticRule.id ∨ id ∈ s.mined.ids) ∧
    (∀ r ∈ s.statics, s.KeepsPattern r.id r.pattern) ∧
    (∀ id r, s.mined.find? id = some r → s.KeepsPattern id r.pattern) ∧
    ∃ approved : List MinedRule,
      (∀ r, r ∈ approved ↔ r ∈ s.mined.values ∧ r.status = .approved) ∧
      approved.Pairwise MinedRule.Precedes ∧
      List.Forall₂ Activates
        (s.statics.map StaticRule.view ++ approved.map MinedRule.view) s.active := by
  intro s
  have hs : s.Coherent := coherent_run ops
  have h := hs.consistent
  refine ⟨h.nodup, ?_, h.mined_own, h.entries_own, fun id => h.mem_ids_patterns_iff, ?_, ?_,
    s.approved, fun r => mem_approved, h.pairwise_approved, hs.forall₂_active⟩
  · intro r hr hid
    obtain ⟨m, hm⟩ := Keyed.has_iff.mp (Keyed.mem_ids_iff.mp hid)
    rw [h.apart r hr] at hm
    cases hm
  · intro r hr
    have hkept := h.keepsPattern (ruleAt_of_mem_statics h.nodup hr)
    exact hkept
  · intro id r hr
    have hkept := h.keepsPattern (h.ruleAt_of_mined hr)
    exact hkept

end Store
end Deprecation
