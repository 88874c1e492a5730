/-
# Opening a service

A service opens on what two files hold: the catalogue that its settings choose, and the state
that was kept last.  It only reads.  A state that was kept by a service with the same catalogue
is taken up as it was, since loading a catalogue over a store that has it already changes
nothing: no mined rule of such a store has an id of the catalogue, and all that is made anew is
made as before.  The instants of such a store are on the clock, for a catalogue is read and a
service mines by a clock.
-/
import Mathlib
import Deprecation.Proofs.Catalogue
import Deprecation.Proofs.Store.File
import Deprecation.Proofs.Store.OnClock
import Deprecation.Service

namespace Deprecation

open FileTree

/-! ## What is read -/

/-- The text of a file of a tree. -/
def FileTree.textAt (t : FileTree) (path : String) : Except FileError String :=
  match t.read path with
  | .error e => .error e
  | .ok bytes =>
    match String.fromUTF8? bytes with
    | some text => .ok text
    | none => .error .notText

lemma FileTree.outcome_readText (t : FileTree) (path : String) :
    outcome (Disk.readText path) t = (t.textAt path, t) := by
  have hread : outcome (ExceptT.mk (Disk.read path)) t = (t.read path, t) := rfl
  rw [Disk.readText, outcome_bind, hread, textAt]
  cases t.read path with
  | error e => rfl
  | ok bytes =>
    dsimp only
    cases String.fromUTF8? bytes with
    | none => rfl
    | some text => rfl

/-- The catalogue that settings choose in a tree. -/
def Settings.catalogueIn (s : Settings) (t : FileTree) : Except CatalogueError Catalogue :=
  match s.cataloguePath with
  | none => .ok .builtin
  | some path =>
    match t.textAt (s.resolve path) with
    | .error e => .error (.file (s.resolve path) e)
    | .ok text => Catalogue.ofToml text

lemma Settings.outcome_catalogue (s : Settings) (t : FileTree) :
    outcome s.catalogue t = (s.catalogueIn t, t) := by
  rw [Settings.catalogue, Settings.catalogueIn]
  cases s.cataloguePath with
  | none => rfl
  | some path =>
    dsimp only
    rw [Catalogue.load, outcome_bind, outcome_adapt, outcome_readText]
    cases t.textAt (s.resolve path) with
    | error e => rfl
    | ok text => rfl

lemma Settings.catalogueIn_of_text {s : Settings} {t : FileTree} {path text : String}
    (hpath : s.cataloguePath = some path) (htext : t.textAt (s.resolve path) = .ok text) :
    s.catalogueIn t = Catalogue.ofToml text := by
  rw [Settings.catalogueIn, hpath]
  dsimp only
  rw [htext]

/-- The catalogue depends on one file alone. -/
lemma Settings.catalogueIn_congr {s : Settings} {t t' : FileTree}
    (h : ∀ path, s.cataloguePath = some path → t'.read (s.resolve path) = t.read (s.resolve path)) :
    s.catalogueIn t' = s.catalogueIn t := by
  rw [Settings.catalogueIn, Settings.catalogueIn]
  cases hpath : s.cataloguePath with
  | none => rfl
  | some path =>
    dsimp only
    rw [textAt, textAt, h path hpath]

lemma Settings.exists_read_of_catalogueIn {s : Settings} {t : FileTree} {c : Catalogue}
    {path : String} (hpath : s.cataloguePath = some path) (h : s.catalogueIn t = .ok c) :
    ∃ bytes, t.read (s.resolve path) = .ok bytes := by
  rw [Settings.catalogueIn, hpath] at h
  dsimp only [textAt] at h
  cases hread : t.read (s.resolve path) with
  | error e =>
    rw [hread] at h
    cases h
  | ok bytes => exact ⟨bytes, rfl⟩

lemma Settings.sound_of_catalogueIn {s : Settings} {t : FileTree} {c : Catalogue}
    (h : s.catalogueIn t = .ok c) : c.Sound := by
  rw [Settings.catalogueIn] at h
  split at h
  · cases h
    exact Catalogue.sound_builtin
  split at h
  · cases h
  · exact Catalogue.sound_of_ofToml h

lemma Settings.onClock_of_catalogueIn {s : Settings} {t : FileTree} {c : Catalogue}
    (h : s.catalogueIn t = .ok c) : ∀ e ∈ c.entries, e.verifiedAt.OnClock := by
  rw [Settings.catalogueIn] at h
  split at h
  · cases h
    exact Catalogue.onClock_builtin
  split at h
  · cases h
  · exact Catalogue.onClock_of_ofToml h

/-! ## Opening -/

namespace Service

variable {s : Settings} {t : FileTree} {x : Service} {c : Catalogue}

/-- What opening comes to on a tree. -/
def opening (s : Settings) (t : FileTree) : Except ServiceError Service :=
  (outcome (start s) t).1

/-- The store that was kept last, or the empty one. -/
def keptIn (s : Settings) (t : FileTree) : Except StoreError Store :=
  (Store.empty.restore (t.snapshotAt s.storeFile)).map (·.2)

lemma outcome_kept (s : Settings) (t : FileTree) : outcome (kept s) t = (keptIn s t, t) := by
  rw [kept, outcome_bind, outcome_adapt, SnapshotFile.outcome_load, keptIn]
  cases t.snapshotAt s.storeFile with
  | error e => rfl
  | ok held =>
    show outcome (ExceptT.mk (pure (Store.empty.restore (.ok held))) >>= _) t = _
    rw [outcome_bind, outcome_mk_pure]
    cases Store.empty.restore (.ok held) with
    | error e => rfl
    | ok p => rfl

/-- Opening only reads. -/
theorem outcome_start (s : Settings) (t : FileTree) : outcome (start s) t = (opening s t, t) := by
  have htree : (outcome (start s) t).2 = t := by
    rw [start, outcome_bind, outcome_adapt, Settings.outcome_catalogue]
    cases s.catalogueIn t with
    | error e => rfl
    | ok c =>
      show (outcome (ExceptT.adapt ServiceError.store (kept s) >>= _) t).2 = t
      rw [outcome_bind, outcome_adapt, outcome_kept]
      cases keptIn s t with
      | error e => rfl
      | ok store => rfl
  exact Prod.ext rfl htree

/-- A service opens when there is a catalogue, what was kept can be restored, and the catalogue
can be loaded over it. -/
theorem opening_eq_ok_iff :
    opening s t = .ok x ↔ x.settings = s ∧ ∃ c store, s.catalogueIn t = .ok c ∧
      keptIn s t = .ok store ∧ store.loadStatics c.rules c.entries = .ok x.store := by
  rw [opening, start, outcome_bind, outcome_adapt, Settings.outcome_catalogue]
  cases s.catalogueIn t with
  | error e => simp [Except.mapError]
  | ok c =>
    show (outcome (ExceptT.adapt ServiceError.store (kept s) >>= _) t).1 = _ ↔ _
    rw [outcome_bind, outcome_adapt, outcome_kept]
    cases keptIn s t with
    | error e => simp [Except.mapError]
    | ok store =>
      show ((store.loadStatics c.rules c.entries).map (Service.mk s)).mapError
        ServiceError.store = .ok x ↔ _
      constructor
      · intro h
        cases hload : store.loadStatics c.rules c.entries with
        | error e =>
          rw [hload] at h
          cases h
        | ok loaded =>
          rw [hload] at h
          cases h
          exact ⟨rfl, c, store, rfl, rfl, hload⟩
      · rintro ⟨rfl, c', store', hc, hstore, hload⟩
        cases hc
        cases hstore
        rw [hload]
        rfl

/-! ## Taking up what was kept -/

/-- A store that stands on a catalogue: it is coherent, and the catalogue is loaded in it. -/
structure StandsOn (s : Store) (c : Catalogue) : Prop where
  coherent : s.Coherent
  statics : s.statics = c.rules
  entries : s.entries = Keyed.ofList Entry.id c.entries

/-- Loading a catalogue over a store that keeps out of its ids. -/
lemma exists_loadStatics {store : Store} (hstore : store.Coherent) (hc : c.Sound)
    (hcompiles : ∀ r ∈ c.rules, (Regex.compile r.pattern).isSome)
    (hclash : ∀ r ∈ c.rules, store.mined.has r.id = false) :
    ∃ loaded, store.loadStatics c.rules c.entries = .ok loaded ∧ StandsOn loaded c ∧
      loaded.mined = store.mined := by
  obtain ⟨compiled, hcompiled⟩ : ∃ compiled, Compiled StaticRule.view [] c.rules compiled :=
    Compiled.exists_of_isSome hc.nodup (by simp) hcompiles
  have hload := Store.loadStatics_eq_ok_iff.mpr ⟨compiled, hcompiled, hc.resolves, hclash, rfl⟩
  exact ⟨_, hload, ⟨hstore.of_loadStatics hload, hcompiled.map_fst, rfl⟩, rfl⟩

/-- Loading a catalogue over a store that stands on it changes nothing. -/
theorem StandsOn.loadStatics_self {store : Store} (h : StandsOn store c) (hc : c.Sound) :
    store.loadStatics c.rules c.entries = .ok store := by
  have hconsistent := h.coherent.consistent
  have hcompiles : ∀ r ∈ c.rules, (Regex.compile r.pattern).isSome := by
    intro r hr
    exact hconsistent.compiles_static (h.statics ▸ hr)
  have hclash : ∀ r ∈ c.rules, store.mined.has r.id = false := by
    intro r hr
    exact Keyed.has_eq_false_iff.mpr (hconsistent.apart r (h.statics ▸ hr))
  obtain ⟨loaded, hload, hstands, hmined⟩ :=
    exists_loadStatics h.coherent hc hcompiles hclash
  have heq : loaded = store :=
    hstands.coherent.ext h.coherent (hstands.statics.trans h.statics.symm) hmined
      (hstands.entries.trans h.entries.symm)
  rw [hload, heq]

lemma keptIn_of_notFound (hnone : t.read s.storeFile = .error .notFound) :
    keptIn s t = .ok .empty := by
  rw [keptIn, snapshotAt, hnone]
  rfl

/-- A service without anything kept opens on a catalogue whose patterns compile. -/
theorem exists_opening (hc : s.catalogueIn t = .ok c)
    (hcompiles : ∀ r ∈ c.rules, (Regex.compile r.pattern).isSome)
    (hnone : t.read s.storeFile = .error .notFound) :
    ∃ x, opening s t = .ok x ∧ StandsOn x.store c ∧ x.store.contents.OnClock ∧
      Store.empty.loadStatics c.rules c.entries = .ok x.store := by
  obtain ⟨loaded, hload, hstands, -⟩ :=
    exists_loadStatics Store.coherent_empty (Settings.sound_of_catalogueIn hc) hcompiles
      fun _ _ => rfl
  have hclock : loaded.contents.OnClock :=
    Store.onClock_of_loadStatics Store.onClock_empty (Settings.onClock_of_catalogueIn hc) hload
  exact ⟨⟨s, loaded⟩, opening_eq_ok_iff.mpr ⟨rfl, c, .empty, hc, keptIn_of_notFound hnone, hload⟩,
    hstands, hclock, hload⟩

/-- A service opens as the one whose store was kept, if the catalogue is the same and the store
was on the clock. -/
theorem opening_of_kept (hc : s.catalogueIn t = .ok c) (hx : x.settings = s)
    (hstands : StandsOn x.store c) (hclock : x.store.contents.OnClock)
    (hread : t.read s.storeFile = .ok x.store.persist) : opening s t = .ok x := by
  have hkept : keptIn s t = .ok x.store := by
    rw [keptIn, snapshotAt, hread, hstands.coherent.restore_persist hclock]
    rfl
  exact opening_eq_ok_iff.mpr ⟨hx, c, x.store, hc, hkept,
    hstands.loadStatics_self (Settings.sound_of_catalogueIn hc)⟩

lemma coherent_of_keptIn {store : Store} (h : keptIn s t = .ok store) : store.Coherent := by
  have hafter : Store.empty.after (.restore (t.snapshotAt s.storeFile)) = store := by
    rw [Store.after, Store.attempt, ← keptIn, h]
  exact hafter ▸ Store.coherent_empty.after _

/-- The mined rules of a service that opens are those that were kept. -/
theorem opening_keeps_mined (h : opening s t = .ok x) :
    x.store.Coherent ∧ ∃ store, keptIn s t = .ok store ∧ x.store.mined = store.mined := by
  obtain ⟨-, c, store, -, hkept, hload⟩ := opening_eq_ok_iff.mp h
  exact ⟨(coherent_of_keptIn hkept).of_loadStatics hload, store, hkept,
    Store.mined_of_loadStatics hload⟩

end Service

end Deprecation
