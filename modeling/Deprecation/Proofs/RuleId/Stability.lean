/-
# Ids stay with their facts

A registry is filled with the ids of static rules and of rules that were mined before, and then
it is asked for ids, any number of times, with any base ids.  A candidate for one base id may be
the base id of another fact or one of its candidates, so what a fact is given depends on all
that was asked before.  Nevertheless an id that was given stays with its fact: nobody takes it
away, because an id is only ever given when it is free or when its fact has it already, and the
candidates before it that were held by others are still held by them.  So the fact gets it again
whenever it asks with the same base id, and no other fact gets it, whatever the base id.

A registry gives nothing only when every candidate is held by another.  The candidates are
different ids, so it holds at least as many ids as there are candidates then.
-/
import Mathlib
import Deprecation.Proofs.Keyed
import Deprecation.Proofs.RuleId.Choice

namespace Deprecation
namespace Registry

/-! ## Filling and asking -/

/-- What a registry is told before it is asked. -/
inductive Notice where
  /-- An id belongs to a static rule. -/
  | reserved (id : String)
  /-- A rule was mined before. -/
  | recorded (r : MinedRule)

/-- The registry that was told one more thing. -/
def told (g : Registry) : Notice → Registry
  | .reserved id => g.reserve id
  | .recorded r => g.record r

/-- What a registry is asked: for an id for a fact. -/
structure Request where
  base : String
  token : String
  category : Category

/-- The fact that a request is about. -/
def Request.fact (q : Request) : Holder := .fact q.token q.category

/-- The id that is given for a request, and the registry in which it is noted. -/
def ask (g : Registry) (q : Request) : Option (String × Registry) :=
  g.claim q.base q.token q.category

/-- The registry after a request.  A registry that gives an id gives with it the registry that
notes the id; one that gives none gives nothing, and stays in use as it is. -/
def asked (g : Registry) (q : Request) : Registry :=
  match g.ask q with
  | some (_, g') => g'
  | none => g

/-- The registry that was told some things and then asked for some ids, with suffixes up to a
limit. -/
def after (limit : Nat) (notices : List Notice) (requests : List Request) : Registry :=
  requests.foldl asked (notices.foldl told (.empty limit))

/-- An id that nobody holds but perhaps the fact that a request is about. -/
def Open (g : Registry) (q : Request) (id : String) : Prop :=
  g.holder id = none ∨ g.holder id = some q.fact

variable {g g' : Registry} {q r : Request} {id : String}

lemma admits_iff_open : g.admits q.fact id = true ↔ g.Open q id := admits_iff

lemma admits_eq_false_iff_not_open : g.admits q.fact id = false ↔ ¬ g.Open q id := by
  rw [← admits_iff_open, Bool.not_eq_true]

/-! ## One request -/

lemma ask_eq_some_iff :
    g.ask q = some (id, g') ↔ g.choose q.fact q.base = some id ∧ g' = g.put id q.fact := by
  rw [ask, claim, Option.map_eq_some_iff]
  constructor
  · rintro ⟨id', hid', heq⟩
    cases heq
    exact ⟨hid', rfl⟩
  · rintro ⟨hid, rfl⟩
    exact ⟨id, hid, rfl⟩

lemma ask_eq_none_iff : g.ask q = none ↔ g.choose q.fact q.base = none :=
  Option.map_eq_none_iff

lemma asked_of_some (h : g.ask q = some (id, g')) : g.asked q = g' := by
  rw [asked, h]

lemma asked_of_none (h : g.ask q = none) : g.asked q = g := by
  rw [asked, h]

/-- What is given is open, and the candidates before it are not. -/
lemma first_of_ask (h : g.ask q = some (id, g')) :
    ∃ n ≤ g.maxSuffix - 1, candidate q.base n = id ∧ g.Open q id ∧
      ∀ m < n, ¬ g.Open q (candidate q.base m) := by
  obtain ⟨n, hn, hid, hadmits, hleast⟩ := choose_eq_some_iff.mp (ask_eq_some_iff.mp h).1
  refine ⟨n, hn, hid, admits_iff_open.mp hadmits, ?_⟩
  intro m hm
  exact admits_eq_false_iff_not_open.mp (hleast m hm)

lemma ask_eq_none_iff_not_open :
    g.ask q = none ↔ ∀ n ≤ g.maxSuffix - 1, ¬ g.Open q (candidate q.base n) := by
  rw [ask_eq_none_iff, choose_eq_none_iff]
  refine forall₂_congr fun n _ => ?_
  exact admits_eq_false_iff_not_open

/-- The one change to a registry is that the fact holds the id that it is given. -/
lemma holder_of_ask (h : g.ask q = some (id, g')) (id' : String) :
    g'.holder id' = if id' = id then some q.fact else g.holder id' := by
  rw [(ask_eq_some_iff.mp h).2, holder_put]

/-- One more id is held when the id was free, and otherwise nothing changes. -/
lemma size_of_ask (h : g.ask q = some (id, g')) :
    (g.holder id = none ∧ g'.size = g.size + 1) ∨ (g.holder id = some q.fact ∧ g' = g) := by
  obtain ⟨n, -, -, hopen, -⟩ := first_of_ask h
  obtain ⟨-, rfl⟩ := ask_eq_some_iff.mp h
  rcases hopen with hnone | hsome
  · refine Or.inl ⟨hnone, ?_⟩
    have hhas : g.held.has id = false := Keyed.has_eq_false_iff.mpr hnone
    rw [size, put, Keyed.size_insert, hhas]
    rfl
  · exact Or.inr ⟨hsome, put_eq_self hsome⟩

/-- The candidates for a base id are different, so when all of them are held there are at least
as many ids that are held. -/
lemma max_le_size (h : g.ask q = none) : max 1 g.maxSuffix ≤ g.size := by
  have hclosed := ask_eq_none_iff_not_open.mp h
  have hnodup : ((List.range (g.maxSuffix - 1 + 1)).map (candidate q.base)).Nodup :=
    List.nodup_range.map fun _ _ heq => candidate_injective heq
  have hheld : ∀ id ∈ (List.range (g.maxSuffix - 1 + 1)).map (candidate q.base),
      g.held.has id = true := by
    intro id hid
    obtain ⟨n, hn, rfl⟩ := List.mem_map.mp hid
    have hnot := hclosed n (by have := List.mem_range.mp hn; omega)
    by_contra hfree
    exact hnot (Or.inl (Keyed.has_eq_false_iff.mp (Bool.not_eq_true _ ▸ hfree)))
  have hlength := Keyed.length_le_size hnodup hheld
  rw [List.length_map, List.length_range] at hlength
  rw [size]
  omega

/-! ## Many requests -/

/-- A request takes no id from its holder, and the limit stays. -/
lemma extends_asked (g : Registry) (q : Request) :
    g.Extends (g.asked q) ∧ (g.asked q).maxSuffix = g.maxSuffix := by
  cases h : g.ask q with
  | none =>
    rw [asked_of_none h]
    exact ⟨.refl g, rfl⟩
  | some given =>
    obtain ⟨id, g'⟩ := given
    obtain ⟨n, -, -, hopen, -⟩ := first_of_ask h
    rw [asked_of_some h, (ask_eq_some_iff.mp h).2]
    exact ⟨extends_put (admits_iff_open.mpr hopen), rfl⟩

lemma extends_foldl_asked (g : Registry) (requests : List Request) :
    g.Extends (requests.foldl asked g) ∧ (requests.foldl asked g).maxSuffix = g.maxSuffix := by
  induction requests generalizing g with
  | nil => exact ⟨.refl g, rfl⟩
  | cons q requests ih =>
    obtain ⟨hextends, hmax⟩ := extends_asked g q
    obtain ⟨hextends', hmax'⟩ := ih (g.asked q)
    rw [List.foldl_cons]
    exact ⟨hextends.trans hextends', hmax'.trans hmax⟩

lemma maxSuffix_foldl_told (g : Registry) (notices : List Notice) :
    (notices.foldl told g).maxSuffix = g.maxSuffix := by
  induction notices generalizing g with
  | nil => rfl
  | cons x notices ih =>
    rw [List.foldl_cons, ih]
    cases x <;> rfl

lemma maxSuffix_after (limit : Nat) (notices : List Notice) (requests : List Request) :
    (after limit notices requests).maxSuffix = limit := by
  rw [after, (extends_foldl_asked _ requests).2, maxSuffix_foldl_told]
  rfl

/-- From a request on, the fact holds the id that it was given. -/
lemma holder_later (h : g.ask q = some (id, g')) (later : List Request) :
    (later.foldl asked g').holder id = some q.fact := by
  refine (extends_foldl_asked g' later).1 id q.fact ?_
  rw [holder_of_ask h, if_pos rfl]

/-- The same request gets the same id ever after, and changes nothing any more. -/
lemma ask_again (h : g.ask q = some (id, g')) (later : List Request) :
    (later.foldl asked g').ask q = some (id, later.foldl asked g') := by
  have hheld := holder_later h later
  obtain ⟨hextends, hmax⟩ := extends_foldl_asked g' later
  have hg' : g.Extends g' ∧ g'.maxSuffix = g.maxSuffix := by
    have := extends_asked g q
    rwa [asked_of_some h] at this
  have hchoose := (ask_eq_some_iff.mp h).1
  have hagain := (hg'.1.trans hextends).choose_eq_some (hmax.trans hg'.2) hheld hchoose
  exact ask_eq_some_iff.mpr ⟨hagain, (put_eq_self hheld).symm⟩

/-- Who is given an id that was given before is the fact that it was given to. -/
lemma fact_eq_of_ask {g'' : Registry} (h : g.ask q = some (id, g')) (later : List Request)
    (hr : (later.foldl asked g').ask r = some (id, g'')) : r.fact = q.fact := by
  obtain ⟨n, -, -, hopen, -⟩ := first_of_ask hr
  have hheld := holder_later h later
  rcases hopen with hnone | hsome
  · rw [hheld] at hnone
    cases hnone
  · rw [hheld] at hsome
    exact (Option.some.inj hsome).symm

/-- What it means for a registry that it gives an id for a request and becomes another
registry. -/
structure Grants (g : Registry) (q : Request) (id : String) (g' : Registry) : Prop where
  /-- The id is the first open one of the base id, the base id with `-2`, with `-3`, and so on. -/
  first : ∃ n ≤ g.maxSuffix - 1, candidate q.base n = id ∧ g.Open q id ∧
    ∀ m < n, ¬ g.Open q (candidate q.base m)
  /-- The fact holds it from then on, and no other id changes hands. -/
  holder : ∀ id', g'.holder id' = if id' = id then some q.fact else g.holder id'
  maxSuffix : g'.maxSuffix = g.maxSuffix
  /-- One more id is held, or nothing at all has changed. -/
  size : (g.holder id = none ∧ g'.size = g.size + 1) ∨ (g.holder id = some q.fact ∧ g' = g)
  /-- Whatever is asked in between, the same request gets the id again and changes nothing. -/
  again : ∀ later : List Request,
    (later.foldl asked g').ask q = some (id, later.foldl asked g')
  /-- Whatever is asked in between, a request that gets the id is about the same fact. -/
  apart : ∀ (later : List Request) (r : Request) (g'' : Registry),
    (later.foldl asked g').ask r = some (id, g'') → r.token = q.token ∧ r.category = q.category

theorem grants_of_ask (h : g.ask q = some (id, g')) : g.Grants q id g' where
  first := first_of_ask h
  holder := holder_of_ask h
  maxSuffix := by
    have hmax := (extends_asked g q).2
    rwa [asked_of_some h] at hmax
  size := size_of_ask h
  again := ask_again h
  apart := fun later _ _ hr => Holder.fact.inj (fact_eq_of_ask h later hr)

/-- **Ids stay with their facts.**  A registry was told of any reserved ids and mined rules and
was then asked for any ids, with suffixes up to a limit.  If the next request is given an id, it
is the first open candidate up to the limit, it is given again for the same request ever after,
and to no other fact.  No id is given just when no candidate is open; then the registry holds as
many ids as the limit says, and at least one.  That it stays as it is then goes without saying,
since no other registry is given. -/
theorem ids_stay_with_their_facts (limit : Nat) (notices : List Notice)
    (requests : List Request) (q : Request) :
    (after limit notices requests).maxSuffix = limit ∧
    (∀ id g', (after limit notices requests).ask q = some (id, g') →
      (after limit notices requests).Grants q id g') ∧
    ((after limit notices requests).ask q = none ↔
      ∀ n ≤ limit - 1, ¬ (after limit notices requests).Open q (candidate q.base n)) ∧
    ((after limit notices requests).ask q = none →
      max 1 limit ≤ (after limit notices requests).size ∧
        (after limit notices requests).asked q = after limit notices requests) := by
  have hlimit := maxSuffix_after limit notices requests
  generalize after limit notices requests = g at hlimit
  subst hlimit
  refine ⟨rfl, fun id g' h => grants_of_ask h, ask_eq_none_iff_not_open, ?_⟩
  intro hnone
  exact ⟨max_le_size hnone, asked_of_none hnone⟩

end Registry
end Deprecation
