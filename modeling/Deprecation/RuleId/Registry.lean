/-
# The registry of rule ids

Different records may lead to the same id, so ids are handed out by a registry.  A fact, that
is a token with a category, asks with a base id and gets the first of

    base, base-2, base-3, …

up to a largest suffix that is free or that it holds already.  A fact that asks again for an
id it holds gets the same one back, and that is what makes reading a release a second time
harmless.  Some ids are reserved: they belong to static rules and are given to no fact.
-/
import Deprecation.Keyed
import Deprecation.Rule

namespace Deprecation

/-- Who holds an id. -/
inductive Holder where
  /-- A static rule. -/
  | reserved
  /-- The rule made for a token and a category. -/
  | fact (token : String) (category : Category)
deriving DecidableEq, Repr, Inhabited

/-- The ids that are held, with their holders, and the largest suffix that may be tried. -/
structure Registry where
  held : Keyed Holder
  maxSuffix : Nat

namespace Registry

/-- A registry in which nothing is held. -/
def empty (maxSuffix : Nat) : Registry := ⟨.empty, maxSuffix⟩

/-- The holder of an id, if it is held. -/
def holder (g : Registry) (id : String) : Option Holder := g.held.find? id

/-- How many ids are held. -/
def size (g : Registry) : Nat := g.held.size

/-- The registry in which an id has a given holder, whoever held it before. -/
def put (g : Registry) (id : String) (h : Holder) : Registry :=
  { g with held := g.held.insert id h }

/-- Sets an id aside. -/
def reserve (g : Registry) (id : String) : Registry := g.put id .reserved

/-- Notes the id of a mined rule. -/
def record (g : Registry) (r : MinedRule) : Registry := g.put r.id (.fact r.token r.category)

/-- A base id with a suffix. -/
def suffixed (base : String) (n : Nat) : String := base ++ "-" ++ toString n

/-- The ids that may be given for a base id, in order. -/
def candidates (g : Registry) (base : String) : List String :=
  base :: (List.range' 2 (g.maxSuffix - 1)).map (suffixed base)

/-- Whether an id may be given to a fact. -/
def admits (g : Registry) (h : Holder) (id : String) : Bool :=
  match g.holder id with
  | none => true
  | some h' => h' == h

/-- The smallest suffix from `n` on, of `count` that may be tried, that gives an admitted
id. -/
def firstSuffix (g : Registry) (h : Holder) (base : String) (n : Nat) : Nat → Option String
  | 0 => none
  | count + 1 =>
    if g.admits h (suffixed base n) then some (suffixed base n)
    else firstSuffix g h base (n + 1) count

/-- The id that a fact gets for a base id. -/
def choose (g : Registry) (h : Holder) (base : String) : Option String :=
  if g.admits h base then some base else g.firstSuffix h base 2 (g.maxSuffix - 1)

/-- Gives a fact an id for a base id, and notes it.  An id that the fact holds already is
given as it is. -/
def claim (g : Registry) (base token : String) (category : Category) :
    Option (String × Registry) :=
  (g.choose (.fact token category) base).map fun id =>
    (id, g.put id (.fact token category))

/-! ## The first admitted candidate -/

@[simp] theorem holder_put (g : Registry) (id : String) (h : Holder) (id' : String) :
    (g.put id h).holder id' = if id' = id then some h else g.holder id' :=
  Keyed.find?_insert g.held id h id'

theorem admits_iff {g : Registry} {h : Holder} {id : String} :
    g.admits h id = true ↔ g.holder id = none ∨ g.holder id = some h := by
  unfold admits
  split <;> simp_all

/-- Noting what is noted already changes nothing. -/
theorem put_eq_self {g : Registry} {id : String} {h : Holder} (hg : g.holder id = some h) :
    g.put id h = g := by
  rw [put, Keyed.insert_eq_self hg]

theorem firstSuffix_eq_find? (g : Registry) (h : Holder) (base : String) (n count : Nat) :
    g.firstSuffix h base n count
      = ((List.range' n count).map (suffixed base)).find? (g.admits h) := by
  induction count generalizing n with
  | zero => rfl
  | succ count ih =>
    rw [firstSuffix, List.range'_succ, List.map_cons, List.find?_cons, ih]
    cases g.admits h (suffixed base n) <;> simp

/-- A fact gets the first candidate that it may have. -/
theorem choose_eq_find? (g : Registry) (h : Holder) (base : String) :
    g.choose h base = (g.candidates base).find? (g.admits h) := by
  rw [choose, candidates, List.find?_cons, firstSuffix_eq_find?]
  cases g.admits h base <;> simp

end Registry

end Deprecation
