/-
# What a record becomes

Making a rule has two parts.  What is wrong with the record in itself is found without a look
at any registry; then the record asks the registry for an id, in the name of the fact that it
states.  The rule it becomes is settled by the record, the id and the time, and the time is
all in which two rules made of one record under one id differ.
-/
import Mathlib
import Deprecation.Proofs.RuleId.Choice
import Deprecation.Proofs.Text.Trim
import Deprecation.Synthesis

namespace Deprecation

open Text

namespace Record

/-- The fact in whose name a record asks for an id. -/
def fact (r : Record) : Holder := .fact (trimmed r.token) r.category

/-- The base id with which a record asks. -/
def base (r : Record) : String := Synthesizer.baseId (trimmed r.token) (trimmed r.release)

end Record

namespace MinedRule

/-- The fact that a mined rule is about. -/
def fact (r : MinedRule) : Holder := .fact r.token r.category

/-- The base id that the token and the release of a mined rule lead to. -/
def base (r : MinedRule) : String := Synthesizer.baseId r.token r.release

end MinedRule

namespace Synthesizer

variable {z : Synthesizer} {g g' : Registry} {r : Record} {id : String}

/-- The pattern of a rule made of a record. -/
def patternOf (z : Synthesizer) (r : Record) : String :=
  TokenPattern.pattern z.legacyPrefixes (trimmed r.token)

/-- What is wrong with a record before it asks for an id. -/
def fault (z : Synthesizer) (r : Record) : Option SynthesisError :=
  if (trimmed r.token).isEmpty then some (.emptyToken (trimmed r.release))
  else if (trimmed r.release).isEmpty then some (.missingRelease (trimmed r.token))
  else if (Regex.compile (z.patternOf r)).isNone then
    some (.invalidPattern (trimmed r.token) (z.patternOf r))
  else if (RuleId.slug (trimmed r.token)).isEmpty then some (.emptySlug (trimmed r.token))
  else none

/-- The rule that a record becomes under an id. -/
def draft (z : Synthesizer) (id : String) (madeAt : Instant) (r : Record) : MinedRule where
  id := id
  token := trimmed r.token
  category := r.category
  pattern := z.patternOf r
  description := describe (trimmed r.token) (replacementOf r) r.category (trimmed r.release)
  severity := r.category.severity
  fix := (replacementOf r).map fun new =>
    "Replace '" ++ trimmed r.token ++ "' with '" ++ new ++ "'"
  correction := none
  release := trimmed r.release
  status := .draft
  madeAt := madeAt

/-- The id that a registry has for a record, or why the record becomes no rule. -/
def offer (z : Synthesizer) (g : Registry) (r : Record) : Except SynthesisError String :=
  match z.fault r with
  | some e => .error e
  | none =>
    match g.choose r.fact r.base with
    | none => .error (.idCollision (trimmed r.token) r.base)
    | some id => .ok id

/-- Making a rule is asking for an id, noting it, and drafting the rule under it. -/
theorem synthesize_eq (z : Synthesizer) (g : Registry) (t : Instant) (r : Record) :
    z.synthesize g t r = (z.offer g r).map fun id => (z.draft id t r, g.put id r.fact) := by
  unfold synthesize offer fault patternOf
  dsimp only
  by_cases htoken : (trimmed r.token).isEmpty = true
  · rw [if_pos htoken, if_pos htoken]
    rfl
  rw [if_neg htoken, if_neg htoken]
  by_cases hrelease : (trimmed r.release).isEmpty = true
  · rw [if_pos hrelease, if_pos hrelease]
    rfl
  rw [if_neg hrelease, if_neg hrelease]
  by_cases hpattern : (Regex.compile
      (TokenPattern.pattern z.legacyPrefixes (trimmed r.token))).isNone = true
  · rw [if_pos hpattern, if_pos hpattern]
    rfl
  rw [if_neg hpattern, if_neg hpattern]
  by_cases hslug : (RuleId.slug (trimmed r.token)).isEmpty = true
  · rw [if_pos hslug, if_pos hslug]
    rfl
  rw [if_neg hslug, if_neg hslug, Registry.claim, ← Record.base, ← Record.fact]
  cases g.choose r.fact r.base with
  | none => rfl
  | some id => rfl

lemma synthesize_eq_ok_iff {t : Instant} {rule : MinedRule} :
    z.synthesize g t r = .ok (rule, g') ↔
      ∃ id, z.offer g r = .ok id ∧ rule = z.draft id t r ∧ g' = g.put id r.fact := by
  rw [synthesize_eq]
  cases z.offer g r with
  | error e => simp [Except.map]
  | ok id => simp [Except.map, eq_comm]

lemma offer_eq_ok_iff :
    z.offer g r = .ok id ↔ z.fault r = none ∧ g.choose r.fact r.base = some id := by
  rw [offer]
  cases z.fault r with
  | some e => simp
  | none => cases g.choose r.fact r.base <;> simp

/-- A record that becomes no rule becomes none of a registry with more holders either, and for
the same reason. -/
lemma offer_error_of_extends (hg : g.Extends g') (hmax : g'.maxSuffix = g.maxSuffix)
    {e : SynthesisError} (h : z.offer g r = .error e) : z.offer g' r = .error e := by
  rw [offer] at h ⊢
  cases hfault : z.fault r with
  | some e' =>
    rw [hfault] at h
    exact h
  | none =>
    rw [hfault] at h
    cases hchoose : g.choose r.fact r.base with
    | none =>
      rw [hchoose] at h
      dsimp only
      rw [hg.choose_eq_none hmax hchoose]
      exact h
    | some id =>
      rw [hchoose] at h
      cases h

/-- A record whose fact holds its id is offered the same id again. -/
lemma offer_ok_of_extends (hg : g.Extends g') (hmax : g'.maxSuffix = g.maxSuffix)
    (hid : g'.holder id = some r.fact) (h : z.offer g r = .ok id) : z.offer g' r = .ok id := by
  obtain ⟨hfault, hchoose⟩ := offer_eq_ok_iff.mp h
  exact offer_eq_ok_iff.mpr ⟨hfault, hg.choose_eq_some hmax hid hchoose⟩

/-! ## The drafted rule -/

@[simp] lemma id_draft (t : Instant) : (z.draft id t r).id = id := rfl

@[simp] lemma token_draft (t : Instant) : (z.draft id t r).token = trimmed r.token := rfl

@[simp] lemma category_draft (t : Instant) : (z.draft id t r).category = r.category := rfl

@[simp] lemma release_draft (t : Instant) : (z.draft id t r).release = trimmed r.release := rfl

/-- When a rule was made does not count when its content is compared. -/
lemma sameContent_draft (old : MinedRule) (t t' : Instant) :
    old.sameContent (z.draft id t r) = old.sameContent (z.draft id t' r) := by
  rw [Bool.eq_iff_iff, MinedRule.sameContent_iff, MinedRule.sameContent_iff]
  simp only [draft, MinedRule.mk.injEq]

/-- Rules made of two records of one fact have one content when the records name one release
and one replacement. -/
lemma sameContent_drafts_iff {r' : Record} (hfact : r.fact = r'.fact) (t t' : Instant) :
    (z.draft id t r).sameContent (z.draft id t' r') = true ↔
      trimmed r.release = trimmed r'.release ∧ replacementOf r = replacementOf r' := by
  obtain ⟨htoken, hcategory⟩ := Holder.fact.inj hfact
  rw [MinedRule.sameContent_iff]
  constructor
  · intro heq
    refine ⟨congrArg MinedRule.release heq, ?_⟩
    -- the suggested fix names the replacement
    have hfix : (replacementOf r).map (fun new =>
          "Replace '" ++ trimmed r.token ++ "' with '" ++ new ++ "'")
        = (replacementOf r').map (fun new =>
          "Replace '" ++ trimmed r'.token ++ "' with '" ++ new ++ "'") :=
      congrArg MinedRule.fix heq
    rw [htoken] at hfix
    refine Option.map_injective (fun new new' hnew => ?_) hfix
    have hlist := congrArg String.toList hnew
    simp only [String.toList_append] at hlist
    exact String.toList_inj.mp (List.append_cancel_left (List.append_cancel_right hlist))
  · rintro ⟨hrelease, hreplacement⟩
    simp only [draft, patternOf, htoken, hcategory, hrelease, hreplacement]

lemma fault_eq_none_iff :
    z.fault r = none ↔ (trimmed r.token).isEmpty = false ∧ (trimmed r.release).isEmpty = false ∧
      (Regex.compile (z.patternOf r)).isSome = true ∧
      (RuleId.slug (trimmed r.token)).isEmpty = false := by
  unfold fault
  cases (trimmed r.token).isEmpty <;> cases (trimmed r.release).isEmpty <;>
    cases Regex.compile (z.patternOf r) <;> cases (RuleId.slug (trimmed r.token)).isEmpty <;>
    simp

end Synthesizer
end Deprecation
