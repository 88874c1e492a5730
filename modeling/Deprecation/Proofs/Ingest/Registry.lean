/-
# The registry that a cycle carries

A cycle starts with the registry that its store leads to and from then on notes the ids it
gives out.  The store changes along with it, so one asks whether the two drift apart.  They do
not: after each record the registry is the one that the store of that moment leads to, whether
the rule was inserted, took another's place, was found unchanged or was refused.  Hence a
cycle is a matter of the store alone, and so is every id that it gives out.
-/
import Mathlib
import Deprecation.Proofs.Store.Coherence
import Deprecation.Proofs.Synthesis

namespace Deprecation

namespace Registry

/-- Many ids noted one after the other. -/
lemma foldl_put {α : Type} (key : α → String) (val : α → Holder) (l : List α) (g : Registry) :
    l.foldl (fun g a => g.put (key a) (val a)) g
      = { g with held := l.foldl (fun t a => t.insert (key a) (val a)) g.held } := by
  induction l generalizing g with
  | nil => rfl
  | cons a l ih =>
    rw [List.foldl_cons, ih]
    rfl

end Registry

namespace Store

variable {s t : Store}

/-- Who holds an id. -/
def holder (s : Store) (id : String) : Option Holder :=
  if s.isStatic id then some .reserved else (s.mined.find? id).map MinedRule.fact

lemma holder_of_static {id : String} (h : s.isStatic id = true) : s.holder id = some .reserved := by
  rw [holder, if_pos h]

lemma holder_of_not_static {id : String} (h : s.isStatic id = false) :
    s.holder id = (s.mined.find? id).map MinedRule.fact := by
  rw [holder, if_neg (by simp [h])]

lemma Consistent.holder_of_mined (h : s.Consistent) {id : String} {r : MinedRule}
    (hr : s.mined.find? id = some r) : s.holder id = some r.fact := by
  rw [holder_of_not_static (h.not_static hr), hr]
  rfl

lemma holder_congr (hstatics : t.statics = s.statics) (hmined : t.mined = s.mined) (id : String) :
    t.holder id = s.holder id := by
  rw [holder, holder, Store.isStatic, Store.isStatic, hstatics, hmined]

/-- A mined rule put under an id that is no static rule's. -/
lemma holder_of_insert {id : String} {r : MinedRule} (hid : s.isStatic id = false)
    (hstatics : t.statics = s.statics) (hmined : t.mined = s.mined.insert id r) (id' : String) :
    t.holder id' = if id' = id then some r.fact else s.holder id' := by
  have hstatic : ∀ id', t.isStatic id' = s.isStatic id' := by
    intro id'
    rw [Store.isStatic, Store.isStatic, hstatics]
  split
  · next heq =>
    rw [heq, holder_of_not_static ((hstatic id).trans hid), hmined, Keyed.find?_insert_self]
    rfl
  · next hne =>
    rw [holder, holder, hstatic, hmined, Keyed.find?_insert_of_ne _ _ hne]

/-- Every id that is held in the one store has the same holder in the other. -/
def KeepsHolders (s t : Store) : Prop :=
  ∀ id h, s.holder id = some h → t.holder id = some h

lemma KeepsHolders.refl (s : Store) : s.KeepsHolders s := fun _ _ h => h

lemma KeepsHolders.trans {u : Store} (hst : s.KeepsHolders t) (htu : t.KeepsHolders u) :
    s.KeepsHolders u :=
  fun id h hs => htu id h (hst id h hs)

end Store

namespace Ingest

open Store

variable {z : Synthesizer} {s t : Store} {r : Record} {id : String}

/-! ## The registry of a store -/

lemma registryOf_eq (z : Synthesizer) (s : Store) :
    registryOf z s =
      ⟨s.mined.values.foldl (fun t r => t.insert r.id r.fact)
        (s.statics.foldl (fun t r => t.insert r.id .reserved) .empty), z.maxSuffix⟩ := by
  calc registryOf z s
      = s.mined.values.foldl (fun g r => g.put r.id r.fact)
          (s.statics.foldl (fun g r => g.put r.id .reserved) z.registry) := rfl
    _ = _ := by
      rw [Registry.foldl_put StaticRule.id fun _ => .reserved,
        Registry.foldl_put MinedRule.id MinedRule.fact]
      rfl

@[simp] lemma maxSuffix_registryOf (z : Synthesizer) (s : Store) :
    (registryOf z s).maxSuffix = z.maxSuffix := by
  rw [registryOf_eq]

/-- The registry of a store has the store's holders. -/
theorem holder_registryOf (z : Synthesizer) (h : s.Consistent) (id : String) :
    (registryOf z s).holder id = s.holder id := by
  have hall : (registryOf z s).holder id
      = ((s.mined.find? id).map MinedRule.fact).or
        ((s.statics.reverse.find? (·.id == id)).map fun _ => .reserved) := by
    rw [registryOf_eq, Registry.holder, Keyed.find?_foldl_insert MinedRule.id MinedRule.fact,
      Keyed.find?_foldl_insert StaticRule.id (fun _ => Holder.reserved),
      h.mined_own.find?_reverse_values, Keyed.find?_empty, Option.or_none]
  rw [hall]
  -- in a consistent store at most one of the two is there
  cases hid : s.isStatic id with
  | true =>
    obtain ⟨x, hx, rfl⟩ := isStatic_iff.mp hid
    have hsome : (s.statics.reverse.find? (·.id == x.id)).isSome = true :=
      List.find?_isSome.mpr ⟨x, List.mem_reverse.mpr hx, beq_self_eq_true x.id⟩
    obtain ⟨y, hy⟩ := Option.isSome_iff_exists.mp hsome
    rw [h.apart x hx, hy, holder_of_static hid]
    rfl
  | false =>
    have hnone : s.statics.reverse.find? (·.id == id) = none := by
      apply List.find?_eq_none.mpr
      intro x hx
      simpa using isStatic_eq_false_iff.mp hid x (List.mem_reverse.mp hx)
    rw [hnone, holder_of_not_static hid, Option.map_none, Option.or_none]

lemma extends_registryOf (hs : s.Consistent) (ht : t.Consistent) (h : s.KeepsHolders t) :
    (registryOf z s).Extends (registryOf z t) := by
  intro id h' hid
  rw [holder_registryOf z hs] at hid
  rw [holder_registryOf z ht]
  exact h id h' hid

/-! ## A draft under the id that its record was offered -/

/-- An id that a store has for a record is free, or the record's fact holds it. -/
lemma holder_of_offer (h : s.Consistent) (hoffer : z.offer (registryOf z s) r = .ok id) :
    s.holder id = none ∨ s.holder id = some r.fact := by
  obtain ⟨-, hchoose⟩ := Synthesizer.offer_eq_ok_iff.mp hoffer
  obtain ⟨n, -, -, hadmits, -⟩ := Registry.choose_eq_some_iff.mp hchoose
  rw [← holder_registryOf z h]
  exact Registry.admits_iff.mp hadmits

lemma not_static_of_offer (h : s.Consistent) (hoffer : z.offer (registryOf z s) r = .ok id) :
    s.isStatic id = false := by
  by_contra hid
  have hreserved := holder_of_static (Bool.not_eq_false _ ▸ hid)
  rcases holder_of_offer h hoffer with hnone | hfact
  · rw [hreserved] at hnone
    cases hnone
  · rw [hreserved] at hfact
    cases hfact

/-- A mined rule at the id is about the fact of the record. -/
lemma fact_of_offer (h : s.Consistent) (hoffer : z.offer (registryOf z s) r = .ok id)
    {old : MinedRule} (hold : s.mined.find? id = some old) : old.fact = r.fact := by
  have hold' := h.holder_of_mined hold
  rcases holder_of_offer h hoffer with hnone | hsome
  · rw [hold'] at hnone
    cases hnone
  · rw [hold'] at hsome
    exact Option.some.inj hsome

/-- A drafted rule passes all checks that are made before the rule at its id is looked at. -/
lemma admissible_of_offer (h : s.Consistent) (hoffer : z.offer (registryOf z s) r = .ok id)
    (now : Instant) : ∃ x, s.Admissible (z.draft id now r) x := by
  obtain ⟨hfault, -⟩ := Synthesizer.offer_eq_ok_iff.mp hoffer
  obtain ⟨-, hrelease, hpattern, -⟩ := Synthesizer.fault_eq_none_iff.mp hfault
  obtain ⟨x, hx⟩ := Option.isSome_iff_exists.mp hpattern
  refine ⟨x, ?_, rfl, hx, not_static_of_offer h hoffer, rfl⟩
  show (Text.trimmed (Text.trimmed r.release)).isEmpty = false
  rw [Text.trimmed_trimmed]
  exact hrelease

/-- What becomes of a draft: its id is free, or a rule about the same fact is there, which has
the same content, or has been reviewed, or gives way. -/
inductive Outcome (s : Store) (d : MinedRule) : Prop
  | inserted (x : Regex) (hfree : s.mined.find? d.id = none)
      (h : s.submit d = .ok (.inserted, (s.putMined d x).refresh))
  | unchanged (old : MinedRule) (hold : s.mined.find? d.id = some old)
      (hfact : old.fact = d.fact) (hsame : old.sameContent d = true)
      (h : s.submit d = .ok (.unchanged, s))
  | refused (old : MinedRule) (hold : s.mined.find? d.id = some old)
      (hfact : old.fact = d.fact) (hsame : old.sameContent d = false)
      (hfinal : old.status ≠ .draft)
      (h : s.submit d = .error (.alreadyReviewed d.id old.status))
  | replaced (x : Regex) (old : MinedRule) (hold : s.mined.find? d.id = some old)
      (hfact : old.fact = d.fact) (hsame : old.sameContent d = false)
      (hdraft : old.status = .draft)
      (h : s.submit d = .ok (.replaced, (s.putMined d x).refresh))

theorem outcome_of_offer (h : s.Consistent) (hoffer : z.offer (registryOf z s) r = .ok id)
    (now : Instant) : Outcome s (z.draft id now r) := by
  obtain ⟨x, hx⟩ := admissible_of_offer h hoffer now
  have hfact : ∀ old, s.mined.find? id = some old → old.fact = r.fact :=
    fun old hold => fact_of_offer h hoffer hold
  rcases submissionOf_cases (s.mined.find? id) (z.draft id now r) with
    ⟨hnone, ho⟩ | ⟨old, hold, ⟨hsame, ho⟩ | ⟨hsame, hfinal, ho⟩ | ⟨hsame, hdraft, ho⟩⟩
  · exact .inserted x hnone (submit_eq_ok_iff.mpr ⟨x, hx, ho, rfl⟩)
  · exact .unchanged old hold (hfact old hold) hsame (submit_eq_ok_iff.mpr ⟨x, hx, ho, rfl⟩)
  · exact .refused old hold (hfact old hold) hsame hfinal (submit_of_admissible hx ho)
  · exact .replaced x old hold (hfact old hold) hsame hdraft
      (submit_eq_ok_iff.mpr ⟨x, hx, ho, rfl⟩)

/-- A draft is put under its id, or a rule about its fact is there already. -/
lemma mined_after_draft (h : s.Consistent) (hoffer : z.offer (registryOf z s) r = .ok id)
    (now : Instant) :
    (s.after (.submit (z.draft id now r))).statics = s.statics ∧
      ((s.after (.submit (z.draft id now r))).mined = s.mined.insert id (z.draft id now r) ∨
        (s.after (.submit (z.draft id now r))).mined = s.mined ∧
          ∃ old, s.mined.find? id = some old ∧ old.fact = r.fact) := by
  cases outcome_of_offer h hoffer now with
  | inserted x _ hs =>
    rw [after_submit_of_ok hs]
    exact ⟨rfl, Or.inl rfl⟩
  | unchanged old hold hfact _ hs =>
    rw [after_submit_of_ok hs]
    exact ⟨rfl, Or.inr ⟨rfl, old, hold, hfact⟩⟩
  | refused old hold hfact _ _ hs =>
    rw [after_submit_of_error hs]
    exact ⟨rfl, Or.inr ⟨rfl, old, hold, hfact⟩⟩
  | replaced x _ _ _ _ _ hs =>
    rw [after_submit_of_ok hs]
    exact ⟨rfl, Or.inl rfl⟩

/-- Whatever becomes of the draft, its fact holds the id afterwards, and no other id changes
hands. -/
lemma holder_after_draft (h : s.Consistent) (hoffer : z.offer (registryOf z s) r = .ok id)
    (now : Instant) (id' : String) :
    (s.after (.submit (z.draft id now r))).holder id'
      = if id' = id then some r.fact else s.holder id' := by
  obtain ⟨hstatics, hput | ⟨hmined, old, hold, hfact⟩⟩ := mined_after_draft h hoffer now
  · exact holder_of_insert (not_static_of_offer h hoffer) hstatics hput id'
  · rw [holder_congr hstatics hmined]
    split
    · next heq => rw [heq, h.holder_of_mined hold, hfact]
    · rfl

lemma keepsHolders_after_draft (h : s.Consistent)
    (hoffer : z.offer (registryOf z s) r = .ok id) (now : Instant) :
    s.KeepsHolders (s.after (.submit (z.draft id now r))) := by
  intro id' h' hid'
  rw [holder_after_draft h hoffer]
  -- the offered id was free or held by the fact already
  split
  · next hid =>
    rw [hid] at hid'
    rcases holder_of_offer h hoffer with hnone | hsome
    · rw [hnone] at hid'
      cases hid'
    · rw [← hsome, hid']
  · exact hid'

/-! ## One record and then many -/

/-- The registry keeps up with the store. -/
theorem registryOf_after_draft (h : s.Coherent) (hoffer : z.offer (registryOf z s) r = .ok id)
    (now : Instant) :
    registryOf z (s.after (.submit (z.draft id now r))) = (registryOf z s).put id r.fact := by
  refine Registry.ext_holder (fun id' => ?_) ?_
  · rw [holder_registryOf z (h.after _).consistent, holder_after_draft h.consistent hoffer,
      Registry.holder_put, holder_registryOf z h.consistent]
  · rw [maxSuffix_registryOf]
    exact (maxSuffix_registryOf z s).symm

lemma record_of_offer_error {e : SynthesisError}
    (he : z.offer (registryOf z s) r = .error e) (clock : Clock) :
    record z (start z s clock) r
      = ({ IngestReport.empty with records := 1, unsynthesized := [e] },
        start z s (clock.after 1)) := by
  have hsynthesize : z.synthesize (registryOf z s) clock.now r = .error e := by
    rw [Synthesizer.synthesize_eq, he]
    rfl
  exact record_of_error ⟨s, registryOf z s, clock⟩ hsynthesize

lemma record_of_offer_ok (h : s.Coherent) (hoffer : z.offer (registryOf z s) r = .ok id)
    (clock : Clock) :
    record z (start z s clock) r
      = ((submit s (z.draft id clock.now r)).1.ofRecord,
        start z (s.after (.submit (z.draft id clock.now r))) (clock.after 1)) := by
  have hsynthesize : z.synthesize (registryOf z s) clock.now r
      = .ok (z.draft id clock.now r, (registryOf z s).put id r.fact) :=
    Synthesizer.synthesize_eq_ok_iff.mpr ⟨id, hoffer, rfl, rfl⟩
  rw [start, record_of_ok ⟨s, registryOf z s, clock⟩ hsynthesize, start,
    registryOf_after_draft h hoffer, submit_snd]

/-- The registry that a cycle carries is at every time the one that its store leads to; and
what every draft under an offered id keeps, the cycle keeps. -/
theorem pass_start {P : Store → Prop}
    (hdraft : ∀ (t : Store) (x : Record) (id : String) (now : Instant), t.Coherent → P t →
      z.offer (registryOf z t) x = .ok id → P (t.after (.submit (z.draft id now x))))
    (h : s.Coherent) (hs : P s) (clock : Clock) (records : List Record) :
    ∃ t : Store, t.Coherent ∧ P t ∧
      pass z (start z s clock) records = start z t (clock.after records.length) := by
  -- the state after a record is again one in which a cycle could start
  induction records generalizing s clock with
  | nil => exact ⟨s, h, hs, rfl⟩
  | cons r records ih =>
    have hrecord : ∃ t : Store, t.Coherent ∧ P t ∧
        (record z (start z s clock) r).2 = start z t (clock.after 1) := by
      cases hoffer : z.offer (registryOf z s) r with
      | error e => exact ⟨s, h, hs, by rw [record_of_offer_error hoffer]⟩
      | ok id => exact ⟨_, h.after _, hdraft s r id clock.now h hs hoffer, by
          rw [record_of_offer_ok h hoffer]⟩
    obtain ⟨t, ht, hPt, heq⟩ := hrecord
    obtain ⟨u, hu, hPu, heq'⟩ := ih ht hPt (clock.after 1)
    refine ⟨u, hu, hPu, ?_⟩
    rw [pass_cons, heq, heq', Clock.after_after, List.length_cons, Nat.add_comm]

lemma keeps_cycle {P : Store → Prop}
    (hdraft : ∀ (t : Store) (x : Record) (id : String) (now : Instant), t.Coherent → P t →
      z.offer (registryOf z t) x = .ok id → P (t.after (.submit (z.draft id now x))))
    (h : s.Coherent) (hs : P s) (releases : List Release) (clock : Clock) :
    P (cycle z releases s clock).2.1 := by
  obtain ⟨t, -, ht, heq⟩ := pass_start hdraft h hs clock (releases.flatMap Release.records)
  rw [cycle_store, heq]
  exact ht

end Ingest
end Deprecation
