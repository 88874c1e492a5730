/-
# Why a record becomes no rule

Four things can keep a record from becoming a rule: it has no token, it has no release, its token
has no letter or digit to build an id from, or every id that it could have is held by another.  The
first of these that is so is the reason that is given.

A fifth reason can be given, that the pattern of the token does not compile.  It is never given for
a token whose pattern keeps to the memory that a pattern may take, since the pattern is well formed
whatever the token is made of.
-/
import Mathlib
import Deprecation.Proofs.RuleId.Sharing
import Deprecation.Proofs.RuleId.Slug
import Deprecation.Proofs.TokenPattern.Size

namespace Deprecation

open Text

/-- Every id that a fact could have for a base id is held by another. -/
def Registry.Taken (g : Registry) (h : Holder) (base : String) : Prop :=
  ∀ id ∈ g.candidates base, ∃ h', g.holder id = some h' ∧ h' ≠ h

lemma Registry.choose_eq_none_iff_taken {g : Registry} {h : Holder} {base : String} :
    g.choose h base = none ↔ g.Taken h base := by
  simp only [Registry.Taken, choose_eq_find?, List.find?_eq_none, Bool.not_eq_true,
    admits_eq_false_iff]

namespace Synthesizer

variable {z : Synthesizer} {g g' : Registry} {r : Record} {e : SynthesisError} {id : String}

/-- A registry has no rule for a record, and this is why: the first reason that there is. -/
inductive Refused (g : Registry) (r : Record) : SynthesisError → Prop
  | emptyToken (token : trimmed r.token = "") : Refused g r (.emptyToken (trimmed r.release))
  | missingRelease (token : trimmed r.token ≠ "") (release : trimmed r.release = "") :
      Refused g r (.missingRelease (trimmed r.token))
  | emptySlug (token : trimmed r.token ≠ "") (release : trimmed r.release ≠ "")
      (slug : ∀ c ∈ (trimmed r.token).toList, isAsciiAlphanumeric c = false) :
      Refused g r (.emptySlug (trimmed r.token))
  | idCollision (token : trimmed r.token ≠ "") (release : trimmed r.release ≠ "")
      (slug : ∃ c ∈ (trimmed r.token).toList, isAsciiAlphanumeric c = true)
      (taken : g.Taken r.fact r.base) : Refused g r (.idCollision (trimmed r.token) r.base)

/-- A record that is refused for a reason becomes no rule, and this reason is given. -/
lemma Refused.offer (hrefused : Refused g r e)
    (hcompiles : (Regex.compile (z.patternOf r)).isSome = true) : z.offer g r = .error e := by
  have hpattern : (Regex.compile (z.patternOf r)).isNone = false := by simpa using hcompiles
  cases hrefused with
  | emptyToken token => simp [Synthesizer.offer, fault, token]
  | missingRelease token release =>
    simp [Synthesizer.offer, fault, release, String.isEmpty_eq_false_iff.mpr token]
  | emptySlug token release slug =>
    have hslug : (RuleId.slug (trimmed r.token)).isEmpty = true := by
      rw [← Bool.not_eq_false, RuleId.slug_isEmpty_eq_false_iff]
      simpa using slug
    simp [Synthesizer.offer, fault, String.isEmpty_eq_false_iff.mpr token,
      String.isEmpty_eq_false_iff.mpr release, hpattern, hslug]
  | idCollision token release slug taken =>
    have hfault : z.fault r = none := fault_eq_none_iff.mpr
      ⟨String.isEmpty_eq_false_iff.mpr token, String.isEmpty_eq_false_iff.mpr release, hcompiles,
        (RuleId.slug_isEmpty_eq_false_iff _).mpr slug⟩
    rw [Synthesizer.offer, hfault, Registry.choose_eq_none_iff_taken.mpr taken]

/-- A record that becomes no rule is refused for some reason. -/
lemma exists_refused_of_offer (hcompiles : (Regex.compile (z.patternOf r)).isSome = true)
    (h : z.offer g r = .error e) : ∃ e', Refused g r e' := by
  by_cases htoken : trimmed r.token = ""
  · exact ⟨_, .emptyToken htoken⟩
  by_cases hrelease : trimmed r.release = ""
  · exact ⟨_, .missingRelease htoken hrelease⟩
  by_cases hslug : ∃ c ∈ (trimmed r.token).toList, isAsciiAlphanumeric c = true
  · have hfault : z.fault r = none := fault_eq_none_iff.mpr
      ⟨String.isEmpty_eq_false_iff.mpr htoken, String.isEmpty_eq_false_iff.mpr hrelease, hcompiles,
        (RuleId.slug_isEmpty_eq_false_iff _).mpr hslug⟩
    refine ⟨_, .idCollision htoken hrelease hslug (Registry.choose_eq_none_iff_taken.mp ?_)⟩
    cases hchoose : g.choose r.fact r.base with
    | none => rfl
    | some id =>
      rw [offer_eq_ok_iff.mpr ⟨hfault, hchoose⟩] at h
      cases h
  · exact ⟨_, .emptySlug htoken hrelease (by simpa using hslug)⟩

lemma offer_eq_error_iff_refused (hcompiles : (Regex.compile (z.patternOf r)).isSome = true) :
    z.offer g r = .error e ↔ Refused g r e := by
  refine ⟨fun h => ?_, fun h => h.offer hcompiles⟩
  obtain ⟨e', hrefused⟩ := exists_refused_of_offer hcompiles h
  have heq : e' = e := Except.error.inj ((hrefused.offer hcompiles).symm.trans h)
  exact heq ▸ hrefused

lemma synthesize_eq_error_iff {t : Instant} :
    z.synthesize g t r = .error e ↔ z.offer g r = .error e := by
  rw [synthesize_eq]
  cases z.offer g r <;> simp [Except.map]

/-- **A record becomes no rule for one of four reasons, and the first of them is given.**  As long
as the pattern of its token keeps to the memory that a pattern may take, the pattern compiles; and
the id of a rule, which is all that the registry notes, holds the slug of the token and the
release, and perhaps a suffix that may be tried.  A record that becomes no rule leaves the registry
as it is, by the way in which calls follow one another: a failed one gives no other registry. -/
theorem synthesis_fails_just_when_refused (z : Synthesizer) (g : Registry) (t : Instant)
    (r : Record) (hmemory : TokenPattern.memory z.legacyPrefixes (trimmed r.token)
      ≤ Regex.Size.limit) :
    (Regex.compile (z.patternOf r)).isSome = true ∧
      (∀ e, z.synthesize g t r = .error e ↔ Refused g r e) ∧
      (∀ e, z.synthesize g t r = .error e → z.noted g (t, r) = g) ∧
      ∀ rule g', z.synthesize g t r = .ok (rule, g') →
        (rule.id = "auto-" ++ RuleId.slug (trimmed r.token) ++ "-" ++ trimmed r.release ∨
          ∃ n, 2 ≤ n ∧ n ≤ g.maxSuffix ∧
            rule.id = "auto-" ++ RuleId.slug (trimmed r.token) ++ "-" ++ trimmed r.release
              ++ "-" ++ toString n) ∧
          ∀ id, g'.holder id = if id = rule.id then some r.fact else g.holder id := by
  have hcompiles : (Regex.compile (z.patternOf r)).isSome = true :=
    (TokenPattern.compile_pattern_isSome_iff_memory_le _ _).mpr hmemory
  refine ⟨hcompiles, fun e => ?_, fun e herror => ?_, fun rule g' hok => ?_⟩
  · rw [synthesize_eq_error_iff, offer_eq_error_iff_refused hcompiles]
  · exact noted_of_offer_error t (synthesize_eq_error_iff.mp herror)
  · obtain ⟨id, hoffer, rfl, rfl⟩ := synthesize_eq_ok_iff.mp hok
    exact ⟨Registry.eq_base_or_eq_suffixed (offer_eq_ok_iff.mp hoffer).2,
      Registry.holder_put g id r.fact⟩

/-! ## A function for which there is no id -/

/-- A function that is removed. -/
def removedFunction : Record where
  token := "A.f(_:)"
  replacement := none
  category := .removed
  release := "1"

/-- The base id of the function and the one suffix that may be tried belong to static rules. -/
def fullRegistry : Registry := ((Registry.empty 2).reserve "auto-a-f-1").reserve "auto-a-f-1-2"

/-- The function becomes no rule, since its ids are taken. -/
theorem removedFunction_is_refused :
    TokenPattern.memory ["A"] (trimmed removedFunction.token) ≤ Regex.Size.limit ∧
      (⟨["A"], 2⟩ : Synthesizer).synthesize fullRegistry .last removedFunction
        = .error (.idCollision "A.f(_:)" "auto-a-f-1") := by
  have hmemory : TokenPattern.memory ["A"] (trimmed removedFunction.token) ≤ Regex.Size.limit := by
    decide +kernel
  have hrefused : Refused fullRegistry removedFunction (.idCollision "A.f(_:)" "auto-a-f-1") :=
    .idCollision (by decide) (by decide) ⟨'A', by decide, by decide⟩
      (Registry.choose_eq_none_iff_taken.mp (by decide +kernel))
  obtain ⟨-, herror, -⟩ :=
    synthesis_fails_just_when_refused ⟨["A"], 2⟩ fullRegistry .last removedFunction hmemory
  exact ⟨hmemory, (herror _).mpr hrefused⟩

end Synthesizer
end Deprecation
