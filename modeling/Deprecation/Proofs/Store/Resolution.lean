/-
# Static rules keep their entries

A static rule may refer to a knowledge entry, and a catalogue is refused when one of its rules
refers to an entry that the catalogue does not bring.  A snapshot is not asked for this: it is
restored with whatever references its rules have.  Still no finding of a static rule has an
unresolved correction, as long as what is restored was persisted by a store.

A store alone cannot show it, since a snapshot may come from any other store, by way of any
medium, from any earlier time.  So this file looks at many stores and many media at once.  What
carries the argument is that a snapshot brings back the static rules of the store that it was
made of, with entries under the same ids: each store of each time has the references of one that
was asked for nothing but what keeps them, after it had started empty or had taken over an
earlier store that did the same.
-/
import Mathlib
import Deprecation.Proofs.Store.Active
import Deprecation.Proofs.Store.Restore

namespace Deprecation
namespace Store

variable {s t : Store}

/-- The entry that a static rule refers to is in the store. -/
def Resolves (s : Store) : Prop :=
  ∀ r ∈ s.statics, ∀ c, r.correction = some c → s.entries.has c = true

lemma resolves_empty : empty.Resolves := by
  intro r hr
  cases hr

/-! ## One operation -/

/-- While the static rules stay and no entry goes, no reference is lost. -/
lemma Resolves.of_grown (h : s.Resolves) (hstatics : t.statics = s.statics)
    (hentries : ∀ id, s.entries.has id = true → t.entries.has id = true) : t.Resolves := by
  intro r hr c hc
  rw [hstatics] at hr
  exact hentries c (h r hr c hc)

/-- A catalogue that is accepted brings the entries that its rules refer to. -/
lemma resolves_of_loadStatics {rules : List StaticRule} {entries : List Entry}
    (h : s.loadStatics rules entries = .ok t) : t.Resolves := by
  obtain ⟨compiled, -, hdangling, -, heq⟩ := loadStatics_eq_ok_iff.mp h
  intro r hr c hcorrection
  rw [statics_of_loadStatics h] at hr
  obtain ⟨e, he, hid⟩ := danglingAmong_eq_none_iff.mp (hdangling r hr) c hcorrection
  rw [← heq]
  show (Keyed.ofList Entry.id entries).has c = true
  rw [Keyed.has, Keyed.find?_ofList, List.find?_isSome]
  exact ⟨e, List.mem_reverse.mpr he, by simpa using hid⟩

lemma resolves_addEntries (h : s.Resolves) (entries : List Entry) :
    (s.addEntries entries).Resolves := by
  refine h.of_grown (statics_addEntries s entries) ?_
  intro id hid
  obtain ⟨e, he⟩ := Keyed.has_iff.mp hid
  rw [addEntries, foldl_putEntry]
  show (entries.foldl (fun t e => t.insert e.id e) s.entries).has id = true
  have hfind := Keyed.find?_foldl_insert Entry.id (fun e => e) entries s.entries id
  rw [Keyed.has, hfind, he]
  cases entries.reverse.find? (fun b => Entry.id b == id) with
  | none => rfl
  | some e' => rfl

lemma Resolves.after_mining (h : s.Resolves) {op : Op} (hop : op.isMining = true) :
    (s.after op).Resolves := by
  obtain ⟨hstatics, hentries⟩ := s.statics_entries_after hop
  refine h.of_grown hstatics ?_
  intro id hid
  rw [hentries]
  exact hid

/-- Whatever a store is asked for, short of restoring a snapshot, its references stay. -/
theorem Resolves.after (h : s.Resolves) {op : Op} (hop : op.isRestore = false) :
    (s.after op).Resolves := by
  cases op with
  | load rules entries =>
    rcases s.after_load_eq_self_or rules entries with heq | heq
    · rwa [heq]
    · exact resolves_of_loadStatics heq
  | addEntries entries => exact resolves_addEntries h entries
  | submit | setStatus | ingest | ingestDocument => exact h.after_mining rfl
  | restore held => cases hop

/-! ## What is found -/

/-- A finding that carries the id of a static rule is one of that rule. -/
lemma Coherent.exists_static_of_finding (h : s.Coherent) {text : String} {f : Finding}
    (hf : f ∈ (s.check text).findings) (hstatic : s.isStatic f.ruleId = true) :
    ∃ r ∈ s.statics,
      f.correction = r.correction.map fun c => Correction.ofEntry (s.entries.find? c) := by
  rw [check, CheckResult.findings_ofFindings] at hf
  obtain ⟨a, ha, hf⟩ := List.mem_flatMap.mp hf
  obtain ⟨m, -, rfl⟩ := List.mem_map.mp hf
  have hshown : a.rule ∈ s.activeViews := by
    rw [← h.map_rule_active]
    exact List.mem_map.mpr ⟨a, ha, rfl⟩
  rcases List.mem_append.mp hshown with hmem | hmem
  · obtain ⟨r, hr, heq⟩ := List.mem_map.mp hmem
    exact ⟨r, hr, by rw [Finding.ofSpan, ← heq]; rfl⟩
  · -- no mined rule has the id of a static one
    obtain ⟨r, hr, heq⟩ := List.mem_map.mp hmem
    have hnot := h.consistent.not_static (h.mem_approved_iff.mp hr).1
    have hid : a.rule.id = r.id := by rw [← heq]; rfl
    rw [Finding.ofSpan] at hstatic
    dsimp only at hstatic
    rw [hid, hnot] at hstatic
    cases hstatic

lemma Coherent.correction_ne_unresolved (h : s.Coherent) (hresolves : s.Resolves) {text : String}
    {f : Finding} (hf : f ∈ (s.check text).findings) (hstatic : s.isStatic f.ruleId = true) :
    f.correction ≠ some .unresolved := by
  obtain ⟨r, hr, hcorrection⟩ := h.exists_static_of_finding hf hstatic
  rw [hcorrection]
  cases hc : r.correction with
  | none => simp
  | some c =>
    obtain ⟨e, he⟩ := Keyed.has_iff.mp (hresolves r hr c hc)
    rw [Option.map_some, he]
    simp [Correction.ofEntry]

/-! ## Many stores, many media -/

/-- Stores, and media that keep snapshots; each goes by a name. -/
structure World (ι κ : Type) where
  stores : ι → Store
  media : κ → Medium

namespace World

/-- What may happen next. -/
inductive Event (ι κ : Type) where
  /-- A store is asked for something.  This may be to restore what was found elsewhere, such
  as in a file. -/
  | asks (i : ι) (op : Op)
  /-- A store is persisted to a medium. -/
  | persists (i : ι) (k : κ)
  /-- A store is restored from a medium. -/
  | restores (i : ι) (k : κ)
  /-- A medium loses its snapshot, or gets another one, or begins or ceases to answer. -/
  | alters (k : κ) (m : Medium)

variable {ι κ : Type}

/-- The store that an event concerns, and the operation that is asked of it. -/
def asked (w : World ι κ) : Event ι κ → Option (ι × Op)
  | .asks i op => some (i, op)
  | .restores i k => some (i, .restore (w.media k).load)
  | _ => none

variable [DecidableEq ι] [DecidableEq κ]

/-- Asks a store for something. -/
def ask (w : World ι κ) (i : ι) (op : Op) : World ι κ :=
  { w with stores := Function.update w.stores i ((w.stores i).after op) }

/-- What an event leaves.  A medium that does not answer keeps nothing. -/
def after (w : World ι κ) : Event ι κ → World ι κ
  | .asks i op => w.ask i op
  | .restores i k => w.ask i (.restore (w.media k).load)
  | .persists i k =>
    match (w.media k).save (w.stores i).persist with
    | .ok m => { w with media := Function.update w.media k m }
    | .error _ => w
  | .alters k m => { w with media := Function.update w.media k m }

end World

section Worlds

variable {ι κ : Type} [DecidableEq ι] [DecidableEq κ]

/-- The world after the first `n` events; in the beginning all stores are empty. -/
def worldAt (media : κ → Medium) (events : List (World.Event ι κ)) (n : ℕ) : World ι κ :=
  (events.take n).foldl World.after ⟨fun _ => empty, media⟩

variable {media : κ → Medium} {events : List (World.Event ι κ)} {n : ℕ} {i : ι}

lemma worldAt_succ_of_some {event : World.Event ι κ} (h : events[n]? = some event) :
    worldAt media events (n + 1) = (worldAt media events n).after event := by
  rw [worldAt, List.take_add_one, List.foldl_append, h]
  rfl

lemma worldAt_succ_of_none (h : events[n]? = none) :
    worldAt media events (n + 1) = worldAt media events n := by
  rw [worldAt, List.take_add_one, List.foldl_append, h]
  rfl

/-- An event leaves a store as it is, or it asks something of it. -/
lemma World.stores_after (w : World ι κ) (event : World.Event ι κ) (i : ι) :
    (w.after event).stores i = w.stores i ∨
      ∃ op, w.asked event = some (i, op) ∧ (w.after event).stores i = (w.stores i).after op := by
  have hask : ∀ j op, (w.ask j op).stores i = w.stores i ∨
      j = i ∧ (w.ask j op).stores i = (w.stores i).after op := by
    intro j op
    by_cases hij : i = j
    · subst hij
      exact Or.inr ⟨rfl, Function.update_self i _ w.stores⟩
    · exact Or.inl (Function.update_of_ne hij _ w.stores)
  cases event with
  | asks j op =>
    rcases hask j op with h | ⟨rfl, h⟩
    · exact Or.inl h
    · exact Or.inr ⟨op, rfl, h⟩
  | restores j k =>
    rcases hask j (.restore (w.media k).load) with h | ⟨rfl, h⟩
    · exact Or.inl h
    · exact Or.inr ⟨_, rfl, h⟩
  | persists j k =>
    left
    rw [World.after]
    split <;> rfl
  | alters k m => exact Or.inl rfl

/-- A store is asked at some time to restore these bytes. -/
def RestoresAt (media : κ → Medium) (events : List (World.Event ι κ)) (n : ℕ)
    (bytes : ByteArray) : Prop :=
  ∃ event i, events[n]? = some event ∧
    (worldAt media events n).asked event = some (i, .restore (.ok (some bytes)))

/-- These bytes are what a store was persisted as at an earlier time. -/
def PersistedBefore (media : κ → Medium) (events : List (World.Event ι κ)) (n : ℕ)
    (bytes : ByteArray) : Prop :=
  ∃ m < n, ∃ j k, events[m]? = some (.persists j k) ∧
    ((worldAt media events m).stores j).persist = bytes

/-- From one time to the next. -/
lemma stores_succ (media : κ → Medium) (events : List (World.Event ι κ)) (n : ℕ) (i : ι) :
    (worldAt media events (n + 1)).stores i = (worldAt media events n).stores i ∨
      ∃ event op, events[n]? = some event ∧
        (worldAt media events n).asked event = some (i, op) ∧
        (worldAt media events (n + 1)).stores i = ((worldAt media events n).stores i).after op := by
  cases hevent : events[n]? with
  | none =>
    left
    rw [worldAt_succ_of_none hevent]
  | some event =>
    rw [worldAt_succ_of_some hevent]
    refine ((worldAt media events n).stores_after event i).imp_right ?_
    rintro ⟨op, hasked, heq⟩
    exact ⟨event, op, rfl, hasked, heq⟩

lemma coherent_worldAt (media : κ → Medium) (events : List (World.Event ι κ)) (n : ℕ) (i : ι) :
    ((worldAt media events n).stores i).Coherent := by
  induction n with
  | zero => exact coherent_empty
  | succ n ih =>
    rcases stores_succ media events n i with heq | ⟨event, op, -, -, heq⟩
    · rwa [heq]
    · rw [heq]
      exact ih.after op

/-- What is asked of a store keeps its references, if what it restores was made of a store that
had kept its own. -/
lemma Resolves.after_of_restored (h : s.Resolves) {op : Op}
    (hop : ∀ bytes, op = .restore (.ok (some bytes)) →
      ∃ u : Store, u.persist = bytes ∧ u.Coherent ∧ u.Resolves) : (s.after op).Resolves := by
  cases hrestore : op.isRestore with
  | false => exact h.after hrestore
  | true =>
    cases op with
    | restore held =>
      rcases held with e | _ | bytes
      · exact h
      · exact h
      · -- the rules and the ids of the entries are those of which the snapshot was made
        obtain ⟨u, rfl, hcoherent, hresolves⟩ := hop bytes rfl
        obtain ⟨t, ht, hback⟩ := hcoherent.exists_restore_persist s
        rw [Store.after, attempt, ht]
        exact hresolves.of_grown hback.statics fun id => (hback.has_entries hcoherent id).trans
    | _ => cases hrestore

/-- Every store keeps its references as long as nothing but persisted stores is restored. -/
theorem resolves_worldAt (h : ∀ n bytes, RestoresAt media events n bytes →
      PersistedBefore media events n bytes) (n : ℕ) :
    ∀ i, ((worldAt media events n).stores i).Resolves := by
  induction n using Nat.strong_induction_on with
  | _ n ih =>
    intro i
    cases n with
    | zero => exact resolves_empty
    | succ n =>
      have hnow := ih n (Nat.lt_succ_self n) i
      rcases stores_succ media events n i with heq | ⟨event, op, hevent, hasked, heq⟩
      · rwa [heq]
      · rw [heq]
        refine hnow.after_of_restored ?_
        rintro bytes rfl
        obtain ⟨m, hm, j, -, -, hbytes⟩ := h n bytes ⟨event, i, hevent, hasked⟩
        exact ⟨_, hbytes, coherent_worldAt media events m j, ih m (by omega) j⟩

/-- **Static rules keep their entries.**  Any number of stores, which start empty, are loaded,
extended, reviewed and fed with release notes, are persisted to media and restored from them, in
any order, and every snapshot that one of them restores is what one of them was persisted as
before.  Then at every time the entry that a static rule of a store refers to is in that store,
and no finding of a static rule has an unresolved correction, whatever text is checked. -/
theorem static_rules_keep_their_entries (media : κ → Medium) (events : List (World.Event ι κ))
    (h : ∀ n bytes, RestoresAt media events n bytes → PersistedBefore media events n bytes)
    (n : ℕ) (i : ι) :
    let s := (worldAt media events n).stores i
    (∀ r ∈ s.statics, ∀ c, r.correction = some c → ∃ e ∈ s.entries.values, e.id = c) ∧
    ∀ text, ∀ f ∈ (s.check text).findings, s.isStatic f.ruleId = true →
      f.correction ≠ some .unresolved := by
  intro s
  have hcoherent : s.Coherent := coherent_worldAt media events n i
  have hresolves : s.Resolves := resolves_worldAt h n i
  refine ⟨?_, fun text f hf => hcoherent.correction_ne_unresolved hresolves hf⟩
  intro r hr c hc
  obtain ⟨e, he⟩ := Keyed.has_iff.mp (hresolves r hr c hc)
  exact ⟨e, Keyed.mem_values_iff.mpr ⟨c, he⟩, hcoherent.consistent.entries_own c e he⟩

end Worlds

/-- A static rule against waiting, which refers to an entry. -/
def waitRule : StaticRule := ⟨"s-wait", "wait", "Blocks the event loop.", some "async", .error⟩

/-- The entry that the rule refers to. -/
def asyncEntry : Entry :=
  ⟨"async", "Async handlers", "Use await.", "*", .high, ⟨⟨2024, 2, 1, 0, 0, 0, 0⟩, by decide⟩⟩

/-- One store loads the rule and its entry and is persisted; another one is restored from the
same medium. -/
def handingOn : List (World.Event Bool Unit) :=
  [.asks false (.load [waitRule] [asyncEntry]), .persists false (), .restores true ()]

/-- The medium, which keeps nothing in the beginning. -/
def handingMedia : Unit → Medium := fun _ => .memory none

/-- The store that has loaded the rule. -/
def waitStore : Store := (worldAt handingMedia handingOn 1).stores false

lemma statics_waitStore : waitStore.statics = [waitRule] := by
  have hsome : (Regex.compile "wait").isSome = true := by cbv
  obtain ⟨x, hx⟩ := Option.isSome_iff_exists.mp hsome
  have hcompiled : Compiled StaticRule.view [] [waitRule] [(waitRule, x)] := by
    refine ⟨rfl, ?_, List.nodup_singleton _, by simp⟩
    intro p hp
    rw [List.mem_singleton.mp hp]
    exact hx
  have hload : empty.loadStatics [waitRule] [asyncEntry]
      = .ok (empty.replaceStatics [(waitRule, x)] [asyncEntry]).refresh :=
    loadStatics_eq_ok_iff.mpr ⟨_, hcompiled, by decide, by decide, rfl⟩
  show (empty.after (.load [waitRule] [asyncEntry])).statics = [waitRule]
  rw [Store.after, attempt, hload]
  rfl

lemma media_handingOn (k : Unit) :
    ((worldAt handingMedia handingOn 2).media k).load = .ok (some waitStore.persist) := by
  cases k
  rfl

/-- What is restored was persisted, and the store that is restored has the rule together with
its entry. -/
theorem handingOn_keeps_entry :
    (∀ n bytes, RestoresAt handingMedia handingOn n bytes →
      PersistedBefore handingMedia handingOn n bytes) ∧
    waitRule ∈ ((worldAt handingMedia handingOn 3).stores true).statics ∧
    ∃ e ∈ ((worldAt handingMedia handingOn 3).stores true).entries.values, e.id = "async" := by
  have hpersisted : ∀ n bytes, RestoresAt handingMedia handingOn n bytes →
      PersistedBefore handingMedia handingOn n bytes := by
    rintro n bytes ⟨event, i, hevent, hasked⟩
    match n with
    | 0 | 1 =>
      cases hevent
      cases hasked
    | 2 =>
      cases hevent
      rw [World.asked, media_handingOn] at hasked
      cases hasked
      exact ⟨1, by decide, false, (), rfl, rfl⟩
    | n + 3 => cases hevent
  have hrule : waitRule ∈ ((worldAt handingMedia handingOn 3).stores true).statics := by
    have hcoherent : waitStore.Coherent := coherent_worldAt handingMedia handingOn 1 false
    obtain ⟨t, ht, hback⟩ :=
      hcoherent.exists_restore_persist ((worldAt handingMedia handingOn 2).stores true)
    have hrestored : (worldAt handingMedia handingOn 3).stores true = t := by
      show ((worldAt handingMedia handingOn 2).stores true).after
        (.restore (.ok (some waitStore.persist))) = _
      rw [Store.after, attempt, ht]
      rfl
    rw [hrestored, hback.statics, statics_waitStore]
    exact List.mem_singleton.mpr rfl
  refine ⟨hpersisted, hrule, ?_⟩
  exact (static_rules_keep_their_entries handingMedia handingOn hpersisted 3 true).1 waitRule hrule
    "async" rfl

end Store
end Deprecation
