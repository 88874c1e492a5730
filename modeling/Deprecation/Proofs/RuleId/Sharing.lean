/-
# When two records share an id

The ids of a sequence of records come from one registry.  An id holds the token, the release
and perhaps a number, all joined by hyphens, and it is kept for a token and a category; the
release that it was given for is not noted.  So an id tells its token and its category, but it
does not tell the release `1` with the number two from the release `1-2`.

This file says which records of a sequence share an id: those that state one fact of one
release, and those where the release of the one is that of the other followed by the number
which the other was given.  Three records show that the second kind occurs.
-/
import Mathlib
import Deprecation.Proofs.Synthesis

namespace Deprecation

open Text

namespace Registry

variable {g g' : Registry} {h h' : Holder} {base base' id id' : String}

/-! ## Suffixes -/

lemma hyphen_notMem_toString (n : Nat) : '-' ∉ (toString n).toList := by
  intro hmem
  rw [Nat.toString_eq_ofList_toDigits, String.toList_ofList] at hmem
  have hdigit := Nat.isDigit_of_mem_toDigits (by decide) (by decide) hmem
  exact absurd hdigit (by decide)

/-- What stands before the last hyphen and behind it. -/
lemma append_hyphen_inj {s s' d d' : List Char} (hd : '-' ∉ d) (hd' : '-' ∉ d')
    (h : s ++ '-' :: d = s' ++ '-' :: d') : s = s' ∧ d = d' := by
  rcases List.append_eq_append_iff.mp h with ⟨l, hs, hl⟩ | ⟨l, hs, hl⟩
  · cases l with
    | nil => exact ⟨by simpa using hs.symm, by simpa using hl⟩
    | cons c l =>
      have hmem : d = l ++ '-' :: d' := (List.cons.inj hl).2
      exact absurd (by simp [hmem]) hd
  · cases l with
    | nil => exact ⟨by simpa using hs, by simpa using hl.symm⟩
    | cons c l =>
      have hmem : d' = l ++ '-' :: d := (List.cons.inj hl).2
      exact absurd (by simp [hmem]) hd'

/-- A suffix is read off an id: it stands behind the last hyphen. -/
lemma base_eq_of_suffixed_eq {m n : Nat} (heq : suffixed base m = suffixed base' n) :
    base = base' := by
  have hlist := congrArg String.toList heq
  simp only [suffixed, String.toList_append, List.append_assoc] at hlist
  exact String.toList_inj.mp
    (append_hyphen_inj (hyphen_notMem_toString m) (hyphen_notMem_toString n) hlist).1

/-! ## What a choice looks like -/

/-- The base id itself is the first choice. -/
lemma choose_of_admits_base (hbase : g.admits h base = true) : g.choose h base = some base := by
  rw [choose, if_pos hbase]

/-- The id that a fact holds by its choice is the base id, or the base id with a suffix that may
be tried. -/
lemma eq_base_or_eq_suffixed (hid : g.choose h base = some id) :
    id = base ∨ ∃ n, 2 ≤ n ∧ n ≤ g.maxSuffix ∧ id = suffixed base n := by
  obtain ⟨n, hn, rfl, -, -⟩ := choose_eq_some_iff.mp hid
  cases n with
  | zero => exact Or.inl rfl
  | succ n => exact Or.inr ⟨n + 2, by omega, by omega, rfl⟩

/-- Two base ids that lead to one id are the same, or the one is the other with the suffix that
its fact was given. -/
lemma base_of_choose (hid : g.choose h base = some id) (hid' : g.choose h' base' = some id) :
    base = base' ∨ (∃ n, id = suffixed base n ∧ base' = suffixed base n) ∨
      ∃ n, id = suffixed base' n ∧ base = suffixed base' n := by
  rcases eq_base_or_eq_suffixed hid with heq | ⟨m, -, -, heq⟩ <;>
    rcases eq_base_or_eq_suffixed hid' with heq' | ⟨n, -, -, heq'⟩
  · exact Or.inl (heq.symm.trans heq')
  · exact Or.inr (Or.inr ⟨n, heq', heq.symm.trans heq'⟩)
  · exact Or.inr (Or.inl ⟨m, heq, heq'.symm.trans heq⟩)
  · exact Or.inl (base_eq_of_suffixed_eq (heq.symm.trans heq'))

end Registry

namespace Synthesizer

variable {z : Synthesizer} {limit : Nat} {calls : List (Instant × Record)} {i j : Nat}
  {x y : Record} {r s : MinedRule}

/-! ## Base ids -/

lemma baseId_injective {token release release' : String}
    (h : baseId token release = baseId token release') : release = release' := by
  have hlist := congrArg String.toList h
  simp only [baseId, String.toList_append] at hlist
  exact String.toList_inj.mp (List.append_cancel_left hlist)

/-- A number behind a base id may as well stand behind the release. -/
lemma suffixed_baseId (token release : String) (n : Nat) :
    Registry.suffixed (baseId token release) n
      = baseId token (Registry.suffixed release n) := by
  simp only [Registry.suffixed, baseId, String.append_assoc]

/-! ## A sequence of calls -/

/-- The registry after a call.  A call gives a registry only together with a rule; when a record
becomes no rule there is no new one, and the one before stays in use. -/
def noted (z : Synthesizer) (g : Registry) (call : Instant × Record) : Registry :=
  match z.synthesize g call.1 call.2 with
  | .ok (_, g') => g'
  | .error _ => g

/-- The registry before the call with number `i` of some calls on one registry, in which
nothing is held at first.  Suffixes are tried up to a limit. -/
def registryAt (z : Synthesizer) (limit : Nat) (calls : List (Instant × Record)) (i : Nat) :
    Registry :=
  (calls.take i).foldl z.noted (.empty limit)

/-- The call with number `i` makes a rule of a record. -/
def Makes (z : Synthesizer) (limit : Nat) (calls : List (Instant × Record)) (i : Nat)
    (x : Record) (r : MinedRule) : Prop :=
  ∃ now g, calls[i]? = some (now, x) ∧
    z.synthesize (z.registryAt limit calls i) now x = .ok (r, g)

lemma noted_of_offer_ok {g : Registry} {id : String} (now : Instant)
    (h : z.offer g x = .ok id) : z.noted g (now, x) = g.put id x.fact := by
  have hok : z.synthesize g now x = .ok (z.draft id now x, g.put id x.fact) :=
    synthesize_eq_ok_iff.mpr ⟨id, h, rfl, rfl⟩
  simp only [noted, hok]

lemma noted_of_offer_error {g : Registry} {e : SynthesisError} (now : Instant)
    (h : z.offer g x = .error e) : z.noted g (now, x) = g := by
  have herror : z.synthesize g now x = .error e := by
    rw [synthesize_eq, h]
    rfl
  simp only [noted, herror]

lemma admits_of_offer {g : Registry} {id : String} (h : z.offer g x = .ok id) :
    g.admits x.fact id = true := by
  obtain ⟨-, hchoose⟩ := offer_eq_ok_iff.mp h
  obtain ⟨n, -, -, hadmits, -⟩ := Registry.choose_eq_some_iff.mp hchoose
  exact hadmits

/-- No call takes an id from its holder, or changes how many suffixes may be tried. -/
lemma extends_noted (z : Synthesizer) (g : Registry) (call : Instant × Record) :
    g.Extends (z.noted g call) ∧ (z.noted g call).maxSuffix = g.maxSuffix := by
  obtain ⟨now, x⟩ := call
  cases h : z.offer g x with
  | error e =>
    rw [noted_of_offer_error now h]
    exact ⟨.refl g, rfl⟩
  | ok id =>
    rw [noted_of_offer_ok now h]
    exact ⟨Registry.extends_put (admits_of_offer h), rfl⟩

lemma registryAt_succ {call : Instant × Record} (h : calls[i]? = some call) :
    z.registryAt limit calls (i + 1) = z.noted (z.registryAt limit calls i) call := by
  rw [registryAt, List.take_add_one, List.foldl_append, h, Option.toList_some, List.foldl_cons,
    List.foldl_nil, ← registryAt]

/-- What holds of one call holds of many. -/
lemma extends_foldl_noted (z : Synthesizer) (g : Registry) (rest : List (Instant × Record)) :
    g.Extends (rest.foldl z.noted g) ∧ (rest.foldl z.noted g).maxSuffix = g.maxSuffix := by
  induction rest generalizing g with
  | nil => exact ⟨.refl g, rfl⟩
  | cons call rest ih =>
    obtain ⟨hextends, hmax⟩ := extends_noted z g call
    obtain ⟨hextends', hmax'⟩ := ih (z.noted g call)
    rw [List.foldl_cons]
    exact ⟨hextends.trans hextends', hmax'.trans hmax⟩

/-- What the registry holds before a call it holds at the end. -/
lemma extends_registryAt (z : Synthesizer) (limit : Nat) (calls : List (Instant × Record))
    (i : Nat) :
    (z.registryAt limit calls i).Extends (z.registryAt limit calls calls.length) ∧
      (z.registryAt limit calls calls.length).maxSuffix
        = (z.registryAt limit calls i).maxSuffix := by
  have hall : z.registryAt limit calls calls.length
      = (calls.drop i).foldl z.noted (z.registryAt limit calls i) := by
    rw [registryAt, registryAt, ← List.foldl_append, List.take_append_drop, List.take_length]
  rw [hall]
  exact extends_foldl_noted z (z.registryAt limit calls i) (calls.drop i)

/-- At the end a record's fact holds the id that the record was given, and would be given it
again. -/
lemma Makes.at_end (h : z.Makes limit calls i x r) :
    (z.registryAt limit calls calls.length).holder r.id = some x.fact ∧
      (z.registryAt limit calls calls.length).choose x.fact x.base = some r.id := by
  obtain ⟨now, g, hcall, hok⟩ := h
  obtain ⟨id, hoffer, rfl, rfl⟩ := synthesize_eq_ok_iff.mp hok
  obtain ⟨-, hchoose⟩ := offer_eq_ok_iff.mp hoffer
  obtain ⟨hextends, hmax⟩ := extends_registryAt z limit calls i
  have hnext := (extends_registryAt z limit calls (i + 1)).1
  have hholder : (z.registryAt limit calls calls.length).holder id = some x.fact := by
    refine hnext id x.fact ?_
    rw [registryAt_succ hcall, noted_of_offer_ok now hoffer, Registry.holder_put, if_pos rfl]
  exact ⟨hholder, hextends.choose_eq_some hmax hholder hchoose⟩

lemma Makes.fault (h : z.Makes limit calls i x r) : z.fault x = none := by
  obtain ⟨now, g, -, hok⟩ := h
  obtain ⟨id, hoffer, -, -⟩ := synthesize_eq_ok_iff.mp hok
  exact (offer_eq_ok_iff.mp hoffer).1

/-! ## Which records share an id -/

/-- A record was given the number that stands behind its own release in the release of
another. -/
def Reaches (x : Record) (r : MinedRule) (y : Record) : Prop :=
  ∃ n, r.id = Registry.suffixed x.base n ∧
    trimmed y.release = Registry.suffixed (trimmed x.release) n

/-- Two records of one fact: their base ids differ as their releases do. -/
lemma base_eq_suffixed_iff (hfact : x.fact = y.fact) {n : Nat} :
    y.base = Registry.suffixed x.base n ↔
      trimmed y.release = Registry.suffixed (trimmed x.release) n := by
  have htoken : trimmed x.token = trimmed y.token := (Holder.fact.inj hfact).1
  rw [Record.base, Record.base, suffixed_baseId, htoken]
  exact ⟨baseId_injective, fun h => by rw [h]⟩

lemma base_eq_iff (hfact : x.fact = y.fact) :
    x.base = y.base ↔ trimmed x.release = trimmed y.release := by
  have htoken : trimmed x.token = trimmed y.token := (Holder.fact.inj hfact).1
  rw [Record.base, Record.base, htoken]
  exact ⟨baseId_injective, fun h => by rw [h]⟩

/-- A record whose base id is the id of a rule of its fact is given this id. -/
lemma Makes.id_eq_of_reaches (hx : z.Makes limit calls i x r) (hy : z.Makes limit calls j y s)
    (hfact : x.fact = y.fact) (h : Reaches x r y) : r.id = s.id := by
  obtain ⟨n, hid, hrelease⟩ := h
  have hbase : y.base = r.id := by rw [hid, (base_eq_suffixed_iff hfact).mpr hrelease]
  have hadmits : (z.registryAt limit calls calls.length).admits y.fact y.base = true := by
    rw [Registry.admits_iff, hbase, ← hfact]
    exact Or.inr hx.at_end.1
  have hchoose := hy.at_end.2
  rw [Registry.choose_of_admits_base hadmits] at hchoose
  rw [← hbase, Option.some.inj hchoose]

/-- Two records that became rules share an id just when they state one fact, and their
releases are the same or the one is the other with the number that the other was given. -/
theorem Makes.id_eq_iff (hx : z.Makes limit calls i x r) (hy : z.Makes limit calls j y s) :
    r.id = s.id ↔ x.fact = y.fact ∧
      (trimmed x.release = trimmed y.release ∨ Reaches x r y ∨ Reaches y s x) := by
  constructor
  · intro hid
    have hfact : x.fact = y.fact := by
      have hholder := hx.at_end.1
      rw [hid, hy.at_end.1] at hholder
      exact (Option.some.inj hholder).symm
    refine ⟨hfact, ?_⟩
    rcases Registry.base_of_choose hx.at_end.2 (hid ▸ hy.at_end.2) with
      hbase | ⟨n, hr, hbase⟩ | ⟨n, hs, hbase⟩
    · exact Or.inl ((base_eq_iff hfact).mp hbase)
    · exact Or.inr (Or.inl ⟨n, hr, (base_eq_suffixed_iff hfact).mp hbase⟩)
    · exact Or.inr (Or.inr ⟨n, hid ▸ hs, (base_eq_suffixed_iff hfact.symm).mp hbase⟩)
  · rintro ⟨hfact, hrelease | hreaches | hreaches⟩
    · have hchoose := hx.at_end.2
      rw [hfact, (base_eq_iff hfact).mpr hrelease, hy.at_end.2] at hchoose
      exact (Option.some.inj hchoose).symm
    · exact hx.id_eq_of_reaches hy hfact hreaches
    · exact (hy.id_eq_of_reaches hx hfact.symm hreaches).symm

/-- A record of the sequence whose release is reached from another becomes a rule. -/
lemma Makes.of_reaches (hx : z.Makes limit calls i x r) {now : Instant}
    (hy : calls[j]? = some (now, y)) (hfact : x.fact = y.fact) (h : Reaches x r y) :
    ∃ s, z.Makes limit calls j y s := by
  obtain ⟨n, hid, hrelease⟩ := h
  have hbase : y.base = r.id := by rw [hid, (base_eq_suffixed_iff hfact).mpr hrelease]
  -- nobody but the fact can have held the id before the call, since the fact holds it in the end
  have hadmits : (z.registryAt limit calls j).admits y.fact y.base = true := by
    rw [Registry.admits_iff, hbase]
    cases hholder : (z.registryAt limit calls j).holder r.id with
    | none => exact Or.inl rfl
    | some h =>
      have hend := (extends_registryAt z limit calls j).1 r.id h hholder
      rw [hx.at_end.1, hfact] at hend
      exact Or.inr hend.symm
  -- and the record has no fault: it has the token of the other, and its release has a hyphen
  have hfault : z.fault y = none := by
    have htoken : trimmed x.token = trimmed y.token := (Holder.fact.inj hfact).1
    obtain ⟨hempty, -, hpattern, hslug⟩ := fault_eq_none_iff.mp hx.fault
    rw [patternOf, htoken] at hpattern
    rw [htoken] at hempty hslug
    refine fault_eq_none_iff.mpr ⟨hempty, ?_, hpattern, hslug⟩
    rw [hrelease, Registry.suffixed]
    simp
  have hoffer : z.offer (z.registryAt limit calls j) y = .ok y.base :=
    offer_eq_ok_iff.mpr ⟨hfault, Registry.choose_of_admits_base hadmits⟩
  exact ⟨z.draft y.base now y, now, _, hy, synthesize_eq_ok_iff.mpr ⟨_, hoffer, rfl, rfl⟩⟩

/-- No record of the sequence names the release of another record of its fact followed by the
number that this one was given. -/
def Unreached (z : Synthesizer) (limit : Nat) (calls : List (Instant × Record)) : Prop :=
  ∀ i x r, z.Makes limit calls i x r →
    ∀ call ∈ calls, x.fact = call.2.fact → ¬ Reaches x r call.2

lemma Unreached.not_reaches (h : z.Unreached limit calls) (hx : z.Makes limit calls i x r)
    (hy : z.Makes limit calls j y s) (hfact : x.fact = y.fact) : ¬ Reaches x r y := by
  obtain ⟨now, g, hcall, -⟩ := hy
  exact h i x r hx (now, y) (List.mem_of_getElem? hcall) hfact

/-- **Which records share an id.**  Records are made into rules one after the other, through one
registry that holds nothing at first and tries numbers up to any limit.  Two of them that get
one id have the same token and the same category; and they have the same release too just when
no record of the sequence names the release of another record of its fact followed by the
number that this one was given. -/
theorem ids_tell_releases_apart_iff (z : Synthesizer) (limit : Nat)
    (calls : List (Instant × Record)) :
    (∀ i j x y r s, z.Makes limit calls i x r → z.Makes limit calls j y s → r.id = s.id →
      trimmed x.token = trimmed y.token ∧ x.category = y.category) ∧
    ((∀ i j x y r s, z.Makes limit calls i x r → z.Makes limit calls j y s → r.id = s.id →
        trimmed x.release = trimmed y.release) ↔ z.Unreached limit calls) := by
  refine ⟨?_, ?_, ?_⟩
  · intro i j x y r s hx hy hid
    exact Holder.fact.inj ((hx.id_eq_iff hy).mp hid).1
  · rintro hsame i x r hx ⟨now, y⟩ hmem hfact hreaches
    obtain ⟨j, hj⟩ := List.getElem?_of_mem hmem
    obtain ⟨s, hy⟩ := hx.of_reaches hj hfact hreaches
    have heq := hsame i j x y r s hx hy (hx.id_eq_of_reaches hy hfact hreaches)
    obtain ⟨n, -, hrelease⟩ := hreaches
    rw [hrelease] at heq
    exact Registry.suffixed_ne_base _ n heq.symm
  · intro h i j x y r s hx hy hid
    obtain ⟨hfact, hrelease | hreaches | hreaches⟩ := (hx.id_eq_iff hy).mp hid
    · exact hrelease
    · exact absurd hreaches (h.not_reaches hx hy hfact)
    · exact absurd hreaches (h.not_reaches hy hx hfact.symm)

/-! ## A release that is reached -/

/-- A synthesizer without legacy prefixes. -/
def bare : Synthesizer where
  legacyPrefixes := []
  maxSuffix := 9

/-- A token, what became of it, and in which release. -/
def bracketed (category : Category) (release : String) : Record where
  token := "<a>"
  replacement := none
  category := category
  release := release

/-- The token is renamed and removed in the release `1`, and removed in the release `1-2`. -/
def reachingCalls : List (Instant × Record) :=
  [bracketed .renamed "1", bracketed .removed "1", bracketed .removed "1-2"].map
    fun x => (.last, x)

lemma fault_bracketed {category : Category} {release : String}
    (h : (trimmed release).isEmpty = false) : bare.fault (bracketed category release) = none := by
  have hpattern : TokenPattern.pattern [] (trimmed "<a>") = "<a>" := by decide
  have hcompiles : (Regex.compile "<a>").isSome = true := by cbv
  have htoken : (trimmed "<a>").isEmpty = false := by decide
  have hslug : (RuleId.slug (trimmed "<a>")).isEmpty = false := by decide
  refine fault_eq_none_iff.mpr ⟨htoken, h, ?_, hslug⟩
  show (Regex.compile (TokenPattern.pattern [] (trimmed "<a>"))).isSome = true
  rw [hpattern, hcompiles]

/-- The second call gets the number two, since the rename holds the base id. -/
lemma makes_reachingCalls_one :
    ∃ r, bare.Makes 9 reachingCalls 1 (bracketed .removed "1") r ∧ r.id = "auto-a-1-2" := by
  have hfirst : bare.offer (.empty 9) (bracketed .renamed "1") = .ok "auto-a-1" :=
    offer_eq_ok_iff.mpr ⟨fault_bracketed (by decide), by cbv⟩
  have hregistry : bare.registryAt 9 reachingCalls 1
      = (Registry.empty 9).put "auto-a-1" (bracketed .renamed "1").fact := by
    have hcall : reachingCalls[0]? = some (.last, bracketed .renamed "1") := rfl
    rw [registryAt_succ hcall]
    exact noted_of_offer_ok .last hfirst
  have hsecond : bare.offer (bare.registryAt 9 reachingCalls 1) (bracketed .removed "1")
      = .ok "auto-a-1-2" := by
    rw [hregistry]
    exact offer_eq_ok_iff.mpr ⟨fault_bracketed (by decide), by cbv⟩
  exact ⟨_, ⟨_, _, rfl, synthesize_eq_ok_iff.mpr ⟨_, hsecond, rfl, rfl⟩⟩, rfl⟩

/-- The third call gets the id of the second, for another release. -/
theorem reachingCalls_share_an_id :
    ¬ ∀ i j x y r s, bare.Makes 9 reachingCalls i x r → bare.Makes 9 reachingCalls j y s →
      r.id = s.id → trimmed x.token = trimmed y.token ∧ x.category = y.category ∧
        trimmed x.release = trimmed y.release := by
  intro hall
  obtain ⟨r, hsecond, hid⟩ := makes_reachingCalls_one
  have hreaches : Reaches (bracketed .removed "1") r (bracketed .removed "1-2") :=
    ⟨2, by rw [hid]; decide, by decide +kernel⟩
  obtain ⟨s, hthird⟩ := hsecond.of_reaches (j := 2) rfl rfl hreaches
  have hsame := hsecond.id_eq_of_reaches hthird rfl hreaches
  obtain ⟨-, -, hrelease⟩ := hall 1 2 _ _ r s hsecond hthird hsame
  exact absurd hrelease (by decide)

end Synthesizer
end Deprecation
