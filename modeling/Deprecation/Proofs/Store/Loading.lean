/-
# Loading a catalogue

Loading exchanges all static rules and all entries at once.  Whether a catalogue is loaded depends
on the catalogue and on the ids of the mined rules, and on nothing else of the store; and when it
is loaded, nothing is left of the catalogue before.  So what was loaded or refused earlier makes
no difference to a catalogue that is loaded later.  Only a catalogue that is refused lets the
difference be seen, since the store stays as it is then.

A catalogue is looked through twice: when it is read it is validated, and when it is loaded the
store looks for itself.  The two agree.  Loading refuses a valid catalogue only for what
validation does not look at, which is the patterns and the mined rules of the store.
-/
import Mathlib
import Deprecation.Proofs.Catalogue
import Deprecation.Proofs.Store.Acceptance

namespace Deprecation

/-- When ids are new and different and nothing is objected, a pattern is at fault. -/
lemma exists_of_compileAll_eq_error {α : Type} {view : α → Rule}
    {objection : α → Option StoreError} {seen : List String} {rules : List α} {e : StoreError}
    (h : compileAll view objection seen rules = .error e)
    (hids : (∀ r ∈ rules, (view r).id ∉ seen) ∧ (rules.map fun r => (view r).id).Nodup)
    (hobjection : ∀ r ∈ rules, objection r = none) :
    ∃ r ∈ rules, e = .invalidPattern (view r).id ∧ Regex.compile (view r).pattern = none := by
  induction rules generalizing seen with
  | nil => cases h
  | cons r rest ih =>
    obtain ⟨hid, hrest⟩ := Catalogue.unseen_cons_iff.mp hids
    rw [compileAll, if_neg hid, hobjection r List.mem_cons_self] at h
    dsimp only at h
    rw [compileRule] at h
    cases hcompile : Regex.compile (view r).pattern with
    | none =>
      rw [hcompile] at h
      cases h
      exact ⟨r, List.mem_cons_self, rfl, hcompile⟩
    | some x =>
      rw [hcompile] at h
      cases hothers : compileAll view objection ((view r).id :: seen) rest with
      | error e' =>
        rw [hothers] at h
        cases h
        obtain ⟨r', hr', hfault⟩ :=
          ih hothers hrest fun r' hr' => hobjection r' (List.mem_cons_of_mem _ hr')
        exact ⟨r', List.mem_cons_of_mem _ hr', hfault⟩
      | ok others =>
        rw [hothers] at h
        cases h

namespace Store

variable {s t : Store} {rules : List StaticRule} {entries : List Entry}

/-! ## When a catalogue is loaded -/

/-- What is asked of rules and entries that are loaded into a store. -/
structure Loadable (s : Store) (rules : List StaticRule) (entries : List Entry) : Prop where
  nodup : (rules.map StaticRule.id).Nodup
  resolves : ∀ r ∈ rules, ∀ c, r.correction = some c → ∃ e ∈ entries, e.id = c
  compiles : ∀ r ∈ rules, (Regex.compile r.pattern).isSome = true
  apart : ∀ r ∈ rules, r.id ∉ s.mined.ids

lemma notMem_ids_iff {id : String} : id ∉ s.mined.ids ↔ s.mined.has id = false := by
  rw [Keyed.mem_ids_iff, Bool.not_eq_true]

theorem exists_loadStatics_iff :
    (∃ t, s.loadStatics rules entries = .ok t) ↔ s.Loadable rules entries := by
  constructor
  · rintro ⟨t, ht⟩
    obtain ⟨compiled, hc, hdangling, hclash, -⟩ := loadStatics_eq_ok_iff.mp ht
    exact ⟨hc.nodup, fun r hr => danglingAmong_eq_none_iff.mp (hdangling r hr),
      fun r hr => hc.isSome hr, fun r hr => notMem_ids_iff.mpr (hclash r hr)⟩
  · intro h
    obtain ⟨compiled, hc⟩ : ∃ compiled, Compiled StaticRule.view [] rules compiled :=
      Compiled.exists_of_isSome h.nodup (by simp) h.compiles
    exact ⟨_, loadStatics_eq_ok_iff.mpr ⟨compiled, hc,
      fun r hr => danglingAmong_eq_none_iff.mpr (h.resolves r hr),
      fun r hr => notMem_ids_iff.mp (h.apart r hr), rfl⟩⟩

/-! ## What loading leaves -/

/-- The entries are the given ones, and of those with one id the last. -/
lemma find?_entries_of_loadStatics (h : s.loadStatics rules entries = .ok t) (id : String) :
    t.entries.find? id = entries.reverse.find? (·.id == id) := by
  obtain ⟨compiled, -, -, -, rfl⟩ := loadStatics_eq_ok_iff.mp h
  exact Keyed.find?_ofList Entry.id entries id

/-- A mined rule keeps its compiled pattern, since it has no id of a static rule, be it an old or a
new one. -/
lemma Coherent.find?_patterns_of_loadStatics (hs : s.Coherent)
    (h : s.loadStatics rules entries = .ok t) {id : String} (hid : id ∈ s.mined.ids) :
    t.patterns.find? id = s.patterns.find? id := by
  have ht : t.Coherent := hs.of_loadStatics h
  obtain ⟨r, hr⟩ := Keyed.has_iff.mp (Keyed.mem_ids_iff.mp hid)
  have hr' : t.mined.find? id = some r := by rwa [mined_of_loadStatics h]
  rw [hs.consistent.patterns, ht.consistent.patterns, hs.consistent.ruleAt_of_mined hr,
    ht.consistent.ruleAt_of_mined hr']

/-! ## Loading after loading -/

/-- **What comes of loading a catalogue depends on the mined rules alone.** -/
theorem Coherent.loadStatics_congr (hs : s.Coherent) (ht : t.Coherent) (hmined : s.mined = t.mined)
    (rules : List StaticRule) (entries : List Entry) :
    s.loadStatics rules entries = t.loadStatics rules entries := by
  cases hcompile : compileAll StaticRule.view (danglingAmong entries) [] rules with
  | error e => rw [loadStatics_of_fault hcompile, loadStatics_of_fault hcompile]
  | ok compiled =>
    have hc := (compileAll_eq_ok_iff.mp hcompile).1
    cases hclash : rules.find? fun r => t.mined.has r.id with
    | some clash =>
      rw [loadStatics_of_clash hcompile (hmined ▸ hclash), loadStatics_of_clash hcompile hclash]
    | none =>
      have hfree : ∀ r ∈ rules, t.mined.find? r.id = none := fun r hr =>
        Keyed.has_eq_false_iff.mp (by simpa using List.find?_eq_none.mp hclash r hr)
      have hs' := (hs.consistent.replaceStatics hc (hmined ▸ hfree) entries).coherent_refresh
      have ht' := (ht.consistent.replaceStatics hc hfree entries).coherent_refresh
      rw [loadStatics_of_free hcompile (hmined ▸ hclash), loadStatics_of_free hcompile hclash]
      exact congrArg Except.ok (hs'.ext ht' rfl hmined rfl)

/-- A catalogue loads as if none had been loaded, or refused, before. -/
lemma Coherent.loadStatics_after_load (hs : s.Coherent) (rules rules' : List StaticRule)
    (entries entries' : List Entry) :
    (s.after (.load rules' entries')).loadStatics rules entries = s.loadStatics rules entries :=
  (hs.after _).loadStatics_congr hs (mined_after_load s rules' entries') rules entries

lemma after_load_of_ok (h : s.loadStatics rules entries = .ok t) :
    s.after (.load rules entries) = t := by
  rw [after, attempt, h]

lemma after_load_of_error {e : StoreError} (h : s.loadStatics rules entries = .error e) :
    s.after (.load rules entries) = s := by
  rw [after, attempt, h]

/-- **A catalogue is taken whole or not at all, and takes the place of the one before.**  After any
run of operations it is loaded just when its rules have different ids that belong to no mined rule,
every rule that refers to an entry refers to one that comes with it, and every pattern compiles.
Then the static rules and the entries are the given ones, of entries with one id the last, and the
mined rules and their compiled patterns are as they were; if it is refused, the store is as it was.
What was loaded or refused before makes no difference to what is answered, nor to the store when
the catalogue is loaded; when it is refused, the store stays as the one before left it. -/
theorem catalogue_takes_the_place_of_earlier_one (ops : List Op) (rules : List StaticRule)
    (entries : List Entry) :
    let s := empty.run ops
    ((∃ t, s.loadStatics rules entries = .ok t) ↔ s.Loadable rules entries) ∧
    (∀ t, s.loadStatics rules entries = .ok t →
      t.statics = rules ∧ (∀ id, t.entries.find? id = entries.reverse.find? (·.id == id)) ∧
      t.mined = s.mined ∧ ∀ id ∈ s.mined.ids, t.patterns.find? id = s.patterns.find? id) ∧
    (∀ e, s.loadStatics rules entries = .error e → s.after (.load rules entries) = s) ∧
    ∀ (rules' : List StaticRule) (entries' : List Entry),
      let earlier := s.after (.load rules' entries')
      earlier.loadStatics rules entries = s.loadStatics rules entries ∧
      (∀ t, s.loadStatics rules entries = .ok t →
        earlier.after (.load rules entries) = s.after (.load rules entries)) ∧
      ∀ e, s.loadStatics rules entries = .error e →
        earlier.after (.load rules entries) = earlier := by
  intro s
  have hs : s.Coherent := coherent_run ops
  refine ⟨exists_loadStatics_iff, ?_, fun e he => after_load_of_error he, ?_⟩
  · intro t ht
    exact ⟨statics_of_loadStatics ht, find?_entries_of_loadStatics ht, mined_of_loadStatics ht,
      fun id hid => hs.find?_patterns_of_loadStatics ht hid⟩
  · intro rules' entries' earlier
    have hsame : earlier.loadStatics rules entries = s.loadStatics rules entries :=
      hs.loadStatics_after_load rules rules' entries entries'
    refine ⟨hsame, ?_, ?_⟩
    · intro t ht
      rw [after_load_of_ok ht, after_load_of_ok (hsame.trans ht)]
    · intro e he
      exact after_load_of_error (hsame.trans he)

/-- A rule that is a catalogue by itself, and none when it is given twice. -/
def loneRule : StaticRule := ⟨"a", "a", "", none, .warning⟩

/-- A catalogue that is refused leaves the one before in its place. -/
theorem refused_catalogue_leaves_earlier_one :
    (empty.after (.load [loneRule] [])).after (.load [loneRule, loneRule] []) ≠
      empty.after (.load [loneRule, loneRule] []) := by
  have hcompiles : (Regex.compile loneRule.pattern).isSome = true := by cbv
  obtain ⟨t, ht⟩ : ∃ t, empty.loadStatics [loneRule] [] = .ok t :=
    exists_loadStatics_iff.mpr
      ⟨by simp, by simp [loneRule], by simpa using hcompiles, by simp [empty, Keyed.mem_ids_iff]⟩
  have hrefused (s : Store) : s.after (.load [loneRule, loneRule] []) = s := by
    rcases s.after_load_eq_self_or [loneRule, loneRule] [] with heq | heq
    · exact heq
    · exact absurd (exists_loadStatics_iff.mp ⟨_, heq⟩).nodup (by simp)
  intro heq
  rw [after_load_of_ok ht, hrefused, hrefused] at heq
  have hstatics := statics_of_loadStatics ht
  rw [heq] at hstatics
  cases hstatics

/-! ## Validation -/

lemma exists_of_loadStatics_eq_error {e : StoreError} (h : s.loadStatics rules entries = .error e)
    (hnodup : (rules.map StaticRule.id).Nodup)
    (hresolves : ∀ r ∈ rules, danglingAmong entries r = none) :
    ∃ r ∈ rules, (e = .invalidPattern r.id ∧ Regex.compile r.pattern = none) ∨
      (e = .duplicateRule r.id ∧ r.id ∈ s.mined.ids) := by
  cases hcompile : compileAll StaticRule.view (danglingAmong entries) [] rules with
  | error e' =>
    rw [loadStatics_of_fault hcompile] at h
    cases h
    obtain ⟨r, hr, hfault⟩ :=
      exists_of_compileAll_eq_error hcompile ⟨by simp, hnodup⟩ hresolves
    exact ⟨r, hr, Or.inl hfault⟩
  | ok compiled =>
    cases hclash : rules.find? fun r => s.mined.has r.id with
    | some r =>
      rw [loadStatics_of_clash hcompile hclash] at h
      cases h
      have hr := List.find?_some hclash
      exact ⟨r, List.mem_of_find?_eq_some hclash, Or.inr ⟨rfl, Keyed.mem_ids_iff.mpr hr⟩⟩
    | none =>
      rw [loadStatics_of_free hcompile hclash] at h
      cases h

/-- **Validation and loading agree.**  A valid catalogue is refused by a store only because of a
pattern that does not compile or of an id that a mined rule has; and a catalogue that some store
loads is valid if its entries have different ids. -/
theorem validation_agrees_with_loading (c : Catalogue) :
    (c.validate = .ok () → ∀ (s : Store) (e : StoreError),
      s.loadStatics c.rules c.entries = .error e →
      ∃ r ∈ c.rules, (e = .invalidPattern r.id ∧ Regex.compile r.pattern = none) ∨
        (e = .duplicateRule r.id ∧ r.id ∈ s.mined.ids)) ∧
    ∀ s t : Store, s.loadStatics c.rules c.entries = .ok t → (c.entries.map Entry.id).Nodup →
      c.validate = .ok () := by
  constructor
  · intro hvalid s e he
    have hsound := Catalogue.sound_of_validate hvalid
    exact exists_of_loadStatics_eq_error he hsound.nodup hsound.resolves
  · intro s t ht hentries
    obtain ⟨compiled, hc, hresolves, -, -⟩ := loadStatics_eq_ok_iff.mp ht
    exact Catalogue.validate_eq_ok_iff.mpr ⟨hentries, hc.nodup, hresolves⟩

end Store
end Deprecation
