/-
# Which snapshots are restored

A snapshot comes from outside, and restoring it is all or nothing.  This file says exactly
when it succeeds: the bytes spell a snapshot of the current version that records the checksum
of its contents, no two of its rules share an id, of whatever kinds they are, and every pattern
compiles.  None of this concerns the store that is to be replaced, and none of that store is
left: the new one is described by the contents alone.  In every other case the store stays as
it is.
-/
import Mathlib
import Deprecation.Proofs.Store.Restore

namespace Deprecation

/-! ## What is asked of a snapshot -/

/-- A snapshot is trusted when it has the current version and the checksum of its contents. -/
lemma Snapshot.verify_eq_ok_iff {x y : Snapshot} :
    x.verify = .ok y ↔
      x = y ∧ x.formatVersion = currentVersion ∧ x.checksum = x.contents.checksum := by
  rw [verify]
  by_cases hversion : x.formatVersion = currentVersion
  · by_cases hchecksum : x.contents.checksum = x.checksum
    · rw [if_neg (by simpa using hversion), if_neg (by simpa using hchecksum)]
      simp [hversion, hchecksum]
    · rw [if_neg (by simpa using hversion), if_pos hchecksum]
      simp [Ne.symm hchecksum]
  · rw [if_pos hversion]
    simp [hversion]

lemma Snapshot.decode_eq_ok_iff {bytes : ByteArray} {x : Snapshot} :
    decode bytes = .ok x ↔
      read bytes = some x ∧ x.formatVersion = currentVersion ∧
        x.checksum = x.contents.checksum := by
  rw [decode]
  cases read bytes with
  | none => simp
  | some y =>
    dsimp only
    rw [verify_eq_ok_iff, Option.some.injEq]
    constructor
    · rintro ⟨rfl, h⟩
      exact ⟨rfl, h⟩
    · rintro ⟨rfl, h⟩
      exact ⟨rfl, h⟩

namespace Contents

/-- The rules of both kinds as checks see them. -/
def rules (c : Contents) : List Rule :=
  c.statics.map StaticRule.view ++ c.mined.map MinedRule.view

/-- No two rules share an id, and every pattern compiles. -/
structure Usable (c : Contents) : Prop where
  nodup : (c.rules.map Rule.id).Nodup
  compiles : ∀ r ∈ c.rules, (Regex.compile r.pattern).isSome

lemma ids_rules (c : Contents) :
    c.rules.map Rule.id = c.statics.map StaticRule.id ++ c.mined.map MinedRule.id := by
  rw [rules, List.map_append, List.map_map, List.map_map]
  rfl

lemma view_mem_rules_of_static {c : Contents} {r : StaticRule} (h : r ∈ c.statics) :
    r.view ∈ c.rules :=
  List.mem_append_left _ (List.mem_map.mpr ⟨r, h, rfl⟩)

lemma view_mem_rules_of_mined {c : Contents} {r : MinedRule} (h : r ∈ c.mined) :
    r.view ∈ c.rules :=
  List.mem_append_right _ (List.mem_map.mpr ⟨r, h, rfl⟩)

/-- The store that contents describe holds their rules under their ids, of entries with the
same id the last one, and besides what follows from these. -/
structure Describes (c : Contents) (t : Store) : Prop where
  statics : t.statics = c.statics
  mined : ∀ id r, t.mined.find? id = some r ↔ r ∈ c.mined ∧ r.id = id
  entries : ∀ id, t.entries.find? id = c.entries.reverse.find? (·.id == id)
  coherent : t.Coherent

end Contents

lemma Compiled.isSome {α : Type} {view : α → Rule} {seen : List String} {rules : List α}
    {compiled : List (α × Regex)} (h : Compiled view seen rules compiled) {r : α}
    (hr : r ∈ rules) : (Regex.compile (view r).pattern).isSome := by
  rw [← h.map_fst] at hr
  obtain ⟨p, hp, rfl⟩ := List.mem_map.mp hr
  rw [h.compiles p hp]
  rfl

namespace Store

variable {s t : Store} {c : Contents}

/-- A store is built of contents just when they are usable. -/
theorem exists_ofContents_iff : (∃ t, ofContents c = .ok t) ↔ c.Usable := by
  constructor
  · rintro ⟨t, ht⟩
    obtain ⟨statics, mined, hs, hm, -⟩ := ofContents_eq_ok_iff.mp ht
    refine ⟨?_, ?_⟩
    · rw [c.ids_rules]
      refine List.Nodup.append hs.nodup hm.nodup ?_
      intro id hid hid'
      obtain ⟨r, hr, rfl⟩ := List.mem_map.mp hid'
      exact hm.unseen r hr hid
    · intro r hr
      rcases List.mem_append.mp hr with hr | hr
      · obtain ⟨r', hr', rfl⟩ := List.mem_map.mp hr
        exact hs.isSome hr'
      · obtain ⟨r', hr', rfl⟩ := List.mem_map.mp hr
        exact hm.isSome hr'
  · intro h
    have hnodup := h.nodup
    rw [c.ids_rules, List.nodup_append] at hnodup
    obtain ⟨hstatics, hmined, hapart⟩ := hnodup
    obtain ⟨statics, hs⟩ : ∃ compiled, Compiled StaticRule.view [] c.statics compiled :=
      Compiled.exists_of_isSome hstatics (by simp)
        fun r hr => h.compiles r.view (Contents.view_mem_rules_of_static hr)
    obtain ⟨mined, hm⟩ : ∃ compiled,
        Compiled MinedRule.view (c.statics.map StaticRule.id) c.mined compiled := by
      refine Compiled.exists_of_isSome hmined ?_
        fun r hr => h.compiles r.view (Contents.view_mem_rules_of_mined hr)
      intro r hr hid
      exact hapart r.id hid r.id (List.mem_map.mpr ⟨r, hr, rfl⟩) rfl
    exact ⟨_, ofContents_eq_ok_iff.mpr ⟨statics, mined, hs, hm, rfl⟩⟩

/-- The store that is built of contents is the one that they describe. -/
theorem describes_of_ofContents (h : ofContents c = .ok t) : c.Describes t := by
  obtain ⟨hstatics, hmined, hentries⟩ := holds_of_ofContents h
  have husable : c.Usable := exists_ofContents_iff.mp ⟨t, h⟩
  have hnodup : (c.mined.map MinedRule.id).Nodup := by
    have := husable.nodup
    rw [c.ids_rules] at this
    exact this.of_append_right
  refine ⟨hstatics, ?_, ?_, coherent_of_ofContents h⟩
  · intro id r
    rw [hmined, Keyed.find?_ofList_of_nodup hnodup]
  · intro id
    rw [hentries, Keyed.find?_ofList]

/-- Contents describe one store. -/
lemma eq_of_describes (hs : c.Describes s) (ht : c.Describes t) : s = t := by
  refine hs.coherent.ext ht.coherent (hs.statics.trans ht.statics.symm) ?_ ?_
  · refine Keyed.ext_find? fun id => Option.ext fun r => ?_
    rw [hs.mined, ht.mined]
  · refine Keyed.ext_find? fun id => ?_
    rw [hs.entries, ht.entries]

/-! ## Restoring -/

/-- A snapshot that is restored: the store it came with does not matter. -/
lemma restore_eq_true_iff {held : Except MediumError (Option ByteArray)} :
    s.restore held = .ok (true, t) ↔
      ∃ bytes x, held = .ok (some bytes) ∧ Snapshot.decode bytes = .ok x ∧
        ofContents x.contents = .ok t := by
  rcases held with e | _ | bytes
  · simp [restore]
  · simp [restore]
  · simp only [restore, ofBytes, Except.ok.injEq, Option.some.injEq]
    cases hdecode : Snapshot.decode bytes with
    | error e =>
      constructor
      · intro h
        cases h
      · rintro ⟨_, x, rfl, hx, -⟩
        rw [hdecode] at hx
        cases hx
    | ok x =>
      dsimp only
      constructor
      · intro h
        cases hx : ofContents x.contents with
        | error e =>
          rw [hx] at h
          cases h
        | ok fresh =>
          rw [hx] at h
          cases h
          exact ⟨bytes, x, rfl, hdecode, hx⟩
      · rintro ⟨_, x', rfl, hx', ht⟩
        rw [hdecode] at hx'
        cases hx'
        rw [ht]
        rfl

/-- Restoring that does not succeed leaves the store as it is. -/
lemma after_restore_of_not {held : Except MediumError (Option ByteArray)}
    (h : ¬ ∃ t, s.restore held = .ok (true, t)) : s.after (.restore held) = s := by
  rw [after, attempt]
  cases hr : s.restore held with
  | error e => rfl
  | ok p =>
    obtain ⟨found, t⟩ := p
    cases found with
    | true => exact absurd ⟨t, hr⟩ h
    | false =>
      -- no snapshot was there
      rcases held with e | _ | bytes
      · cases hr
      · cases hr
        rfl
      · rw [restore] at hr
        cases hb : ofBytes bytes with
        | error e =>
          rw [hb] at hr
          cases hr
        | ok fresh =>
          rw [hb] at hr
          cases hr

/-- **Restoring decides on the snapshot alone.**  Whatever a store has been through, restoring
succeeds just when the medium gives bytes that spell a snapshot of version 1 with the checksum
of its contents, whose rules have different ids and patterns that compile.  The store is then
the one that the contents describe, and it would be that one after any other run too.  Otherwise
the store stays as it is. -/
theorem restore_decides_on_snapshot (ops : List Op)
    (held : Except MediumError (Option ByteArray)) :
    let s := empty.run ops
    ((∃ t, s.restore held = .ok (true, t)) ↔
      ∃ bytes x, held = .ok (some bytes) ∧ Snapshot.read bytes = some x ∧
        x.formatVersion = 1 ∧ x.checksum = x.contents.checksum ∧ x.contents.Usable) ∧
    (∀ t, s.restore held = .ok (true, t) →
      s.after (.restore held) = t ∧
      (∃ bytes x, held = .ok (some bytes) ∧ Snapshot.read bytes = some x ∧
        ∀ u, x.contents.Describes u ↔ u = t) ∧
      ∀ ops', (empty.run ops').restore held = .ok (true, t)) ∧
    ((¬ ∃ t, s.restore held = .ok (true, t)) → s.after (.restore held) = s) := by
  intro s
  refine ⟨?_, ?_, after_restore_of_not⟩
  · constructor
    · rintro ⟨t, ht⟩
      obtain ⟨bytes, x, hheld, hdecode, hx⟩ := restore_eq_true_iff.mp ht
      obtain ⟨hread, hversion, hchecksum⟩ := Snapshot.decode_eq_ok_iff.mp hdecode
      exact ⟨bytes, x, hheld, hread, hversion, hchecksum, exists_ofContents_iff.mp ⟨t, hx⟩⟩
    · rintro ⟨bytes, x, hheld, hread, hversion, hchecksum, husable⟩
      obtain ⟨t, ht⟩ := exists_ofContents_iff.mpr husable
      have hdecode := Snapshot.decode_eq_ok_iff.mpr ⟨hread, hversion, hchecksum⟩
      exact ⟨t, restore_eq_true_iff.mpr ⟨bytes, x, hheld, hdecode, ht⟩⟩
  · intro t ht
    obtain ⟨bytes, x, hheld, hdecode, hx⟩ := restore_eq_true_iff.mp ht
    have hdescribes : x.contents.Describes t := describes_of_ofContents hx
    refine ⟨?_, ⟨bytes, x, hheld, (Snapshot.decode_eq_ok_iff.mp hdecode).1, ?_⟩, ?_⟩
    · rw [after, attempt, ht]
      rfl
    · intro u
      constructor
      · intro hu
        exact eq_of_describes hu hdescribes
      · rintro rfl
        exact hdescribes
    · intro ops'
      exact restore_eq_true_iff.mpr ⟨bytes, x, hheld, hdecode, hx⟩

end Store
end Deprecation
