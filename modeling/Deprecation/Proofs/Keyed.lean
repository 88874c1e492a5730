/-
# What a table holds after many changes

A table is changed one id at a time, but stores change it in sweeps: the patterns of one
catalogue are taken out and those of the next put in, and the entries of a catalogue make a
table at once.  This file says what is at an id after such a sweep.  It also says when the
values of a table stand under their own ids, in which case the list of the values and the
table are two forms of one thing.
-/
import Mathlib
import Deprecation.Keyed

namespace Deprecation
namespace Keyed

variable {α β : Type}

@[simp] lemma has_empty (id : String) : (empty : Keyed α).has id = false := rfl

lemma has_iff {t : Keyed α} {id : String} : t.has id = true ↔ ∃ a, t.find? id = some a :=
  Option.isSome_iff_exists

lemma has_eq_false_iff {t : Keyed α} {id : String} : t.has id = false ↔ t.find? id = none := by
  simp [has]

lemma mem_ids_iff {t : Keyed α} {id : String} : id ∈ t.ids ↔ t.has id = true := by
  rw [has_iff]
  constructor
  · intro h
    obtain ⟨p, hp, rfl⟩ := List.mem_map.mp h
    exact ⟨p.2, mem_toList_iff.mp hp⟩
  · rintro ⟨a, ha⟩
    exact List.mem_map.mpr ⟨(id, a), mem_toList_iff.mpr ha, rfl⟩

lemma mem_values_iff {t : Keyed α} {a : α} : a ∈ t.values ↔ ∃ id, t.find? id = some a := by
  constructor
  · intro h
    obtain ⟨p, hp, rfl⟩ := List.mem_map.mp h
    exact ⟨p.1, mem_toList_iff.mp hp⟩
  · rintro ⟨id, ha⟩
    exact List.mem_map.mpr ⟨(id, a), mem_toList_iff.mpr ha, rfl⟩

/-! ## How many values there are -/

lemma length_insertInto {l : List (String × α)} (h : l.Pairwise fun p q => p.1 < q.1)
    (id : String) (a : α) :
    (insertInto id a l).length = if (l.lookup id).isSome then l.length else l.length + 1 := by
  induction l with
  | nil => rfl
  | cons p rest ih =>
    obtain ⟨id', a'⟩ := p
    obtain ⟨hrest, hsorted⟩ := List.pairwise_cons.mp h
    rw [insertInto, lookup_cons_ite]
    split
    · next hlt =>
      -- the ids behind are greater still, so the id is new
      have hnone : rest.lookup id = none := by
        cases hfound : rest.lookup id with
        | none => rfl
        | some b =>
          have hbehind := hrest _ (mem_of_lookup_eq_some hfound)
          exact absurd (String.lt_trans hlt hbehind) (String.lt_irrefl id)
      rw [if_neg (String.ne_of_lt hlt), hnone]
      rfl
    · split
      · next heq => simp [heq]
      · next hne =>
        rw [List.length_cons, ih hsorted]
        split <;> rfl

/-- A table grows by one when a value is put under a new id, and not otherwise. -/
lemma size_insert (t : Keyed α) (id : String) (a : α) :
    (t.insert id a).size = if t.has id then t.size else t.size + 1 :=
  length_insertInto t.increasing id a

/-- A table has at least as many values as there are different ids at which it has one. -/
lemma length_le_size {t : Keyed α} {l : List String} (hl : l.Nodup)
    (h : ∀ id ∈ l, t.has id = true) : l.length ≤ t.size := by
  have hsub : l ⊆ t.ids := fun id hid => mem_ids_iff.mpr (h id hid)
  have hlength := (List.subperm_of_subset hl hsub).length_le
  rwa [ids, List.length_map] at hlength

/-! ## Sweeps -/

lemma lookup_filter_ne (l : List (String × α)) (id id' : String) :
    (l.filter (·.1 ≠ id)).lookup id' = if id' = id then none else l.lookup id' := by
  induction l with
  | nil => simp
  | cons p l ih =>
    rw [List.filter_cons]
    split
    · next hp =>
      rw [lookup_cons_ite, lookup_cons_ite, ih]
      by_cases h : id' = p.1
      · have hne : p.1 ≠ id := by simpa using hp
        rw [if_pos h, if_pos h, if_neg (by rw [h]; exact hne)]
      · rw [if_neg h, if_neg h]
    · next hp =>
      have heq : p.1 = id := by simpa using hp
      rw [ih, lookup_cons_ite]
      by_cases h : id' = id
      · rw [if_pos h, if_pos h]
      · rw [if_neg h, if_neg h, if_neg (by rw [heq]; exact h)]

@[simp] lemma find?_erase (t : Keyed α) (id id' : String) :
    (t.erase id).find? id' = if id' = id then none else t.find? id' :=
  lookup_filter_ne t.toList id id'

/-- What is left when the ids of a list are taken out. -/
lemma find?_foldl_erase (key : β → String) (l : List β) (t : Keyed α) (id : String) :
    (l.foldl (fun t b => t.erase (key b)) t).find? id
      = if id ∈ l.map key then none else t.find? id := by
  induction l generalizing t with
  | nil => simp
  | cons b l ih =>
    rw [List.foldl_cons, ih, find?_erase, List.map_cons]
    by_cases hl : id ∈ l.map key
    · rw [if_pos hl, if_pos (List.mem_cons_of_mem _ hl)]
    · by_cases hb : id = key b
      · rw [if_neg hl, if_pos hb, if_pos (by rw [hb]; exact List.mem_cons_self)]
      · have hne : id ∉ key b :: l.map key := by
          rintro (_ | ⟨_, h⟩)
          · exact hb rfl
          · exact hl h
        rw [if_neg hl, if_neg hb, if_neg hne]

/-- When the members of a list are put in under their ids, the last one with an id counts. -/
lemma find?_foldl_insert (key : β → String) (val : β → α) (l : List β) (t : Keyed α)
    (id : String) :
    (l.foldl (fun t b => t.insert (key b) (val b)) t).find? id
      = ((l.reverse.find? fun b => key b == id).map val).or (t.find? id) := by
  induction l generalizing t with
  | nil => simp
  | cons b l ih =>
    rw [List.foldl_cons, ih, find?_insert, List.reverse_cons, List.find?_append]
    cases l.reverse.find? fun b => key b == id with
    | some c => simp
    | none =>
      by_cases h : id = key b
      · simp [h]
      · have hb : (key b == id) = false := by simpa using fun e => h e.symm
        simp [h, hb]

/-- What all values have, all have once a value with it is put in. -/
lemma forall_values_insert {P : α → Prop} {t : Keyed α} (h : ∀ b ∈ t.values, P b) {a : α}
    (ha : P a) (id : String) : ∀ b ∈ (t.insert id a).values, P b := by
  intro b hb
  obtain ⟨id', hid'⟩ := mem_values_iff.mp hb
  rw [find?_insert] at hid'
  split at hid'
  · cases hid'
    exact ha
  · exact h b (mem_values_iff.mpr ⟨id', hid'⟩)

lemma forall_values_foldl_insert {P : α → Prop} (key : α → String) {l : List α}
    (hl : ∀ a ∈ l, P a) {t : Keyed α} (h : ∀ b ∈ t.values, P b) :
    ∀ b ∈ (l.foldl (fun t a => t.insert (key a) a) t).values, P b := by
  induction l generalizing t with
  | nil => exact h
  | cons a l ih =>
    rw [List.foldl_cons]
    refine ih (fun b hb => hl b (List.mem_cons_of_mem _ hb)) ?_
    exact forall_values_insert h (hl a List.mem_cons_self) (key a)

lemma forall_values_ofList {P : α → Prop} (key : α → String) {l : List α} (hl : ∀ a ∈ l, P a) :
    ∀ b ∈ (ofList key l).values, P b :=
  forall_values_foldl_insert key hl (List.forall_mem_nil P)

lemma find?_ofList (key : α → String) (l : List α) (id : String) :
    (ofList key l).find? id = l.reverse.find? fun a => key a == id := by
  have h := find?_foldl_insert key (fun a => a) l empty id
  rw [ofList, h]
  cases l.reverse.find? fun a => key a == id <;> simp

/-- Among values with different keys a key belongs to one value alone. -/
lemma find?_eq_some_iff_of_nodup {key : α → String} {l : List α} (h : (l.map key).Nodup)
    {id : String} {a : α} :
    (l.find? fun a => key a == id) = some a ↔ a ∈ l ∧ key a = id := by
  constructor
  · intro ha
    exact ⟨List.mem_of_find?_eq_some ha, by simpa using List.find?_some ha⟩
  · rintro ⟨ha, rfl⟩
    cases hfound : l.find? fun b => key b == key a with
    | none =>
      have := List.find?_eq_none.mp hfound a ha
      exact absurd (beq_self_eq_true (key a)) this
    | some b =>
      have hkey : key b = key a := by simpa using List.find?_some hfound
      rw [List.inj_on_of_nodup_map h (List.mem_of_find?_eq_some hfound) ha hkey]

lemma find?_ofList_of_nodup {key : α → String} {l : List α} (h : (l.map key).Nodup) {id : String}
    {a : α} : (ofList key l).find? id = some a ↔ a ∈ l ∧ key a = id := by
  have hreverse : (l.reverse.map key).Nodup := by
    rw [List.map_reverse]
    exact List.nodup_reverse.mpr h
  rw [find?_ofList, find?_eq_some_iff_of_nodup hreverse, List.mem_reverse]

/-! ## Values under their own ids -/

/-- Every value stands under the id that it carries. -/
def Own (key : α → String) (t : Keyed α) : Prop :=
  ∀ id a, t.find? id = some a → key a = id

section Own

variable {key : α → String} {t : Keyed α}

lemma own_empty : Own key empty := by
  intro id a h
  cases h

lemma Own.insert (h : Own key t) (a : α) : Own key (t.insert (key a) a) := by
  intro id b hb
  rw [find?_insert] at hb
  split at hb
  · next hid =>
    cases hb
    exact hid.symm
  · exact h id b hb

lemma own_ofList (l : List α) : Own key (ofList key l) := by
  intro id a h
  rw [find?_ofList] at h
  simpa using List.find?_some h

lemma Own.mem_values_iff (h : Own key t) {a : α} :
    a ∈ t.values ↔ t.find? (key a) = some a := by
  rw [Keyed.mem_values_iff]
  constructor
  · rintro ⟨id, ha⟩
    rw [h id a ha]
    exact ha
  · intro ha
    exact ⟨key a, ha⟩

/-- A value is found among the values by its id alone, in whatever order they are looked
through. -/
lemma Own.find?_reverse_values (h : Own key t) (id : String) :
    (t.values.reverse.find? fun a => key a == id) = t.find? id := by
  cases hv : t.values.reverse.find? fun a => key a == id with
  | some a =>
    have hid : key a = id := by simpa using List.find?_some hv
    have hmem : a ∈ t.values := List.mem_reverse.mp (List.mem_of_find?_eq_some hv)
    rw [← hid, h.mem_values_iff.mp hmem]
  | none =>
    cases ht : t.find? id with
    | none => rfl
    | some a =>
      have hmem : a ∈ t.values.reverse :=
        List.mem_reverse.mpr (Keyed.mem_values_iff.mpr ⟨id, ht⟩)
      have := List.find?_eq_none.mp hv a hmem
      rw [h id a ht] at this
      exact absurd (beq_self_eq_true id) this

/-- A table is the one that its values make. -/
lemma Own.ofList_values (h : Own key t) : ofList key t.values = t := by
  apply ext_find?
  intro id
  rw [find?_ofList, h.find?_reverse_values]

/-- The table that the values make once each has been changed under its id. -/
lemma Own.find?_ofList_map (h : Own key t) {f : α → α} (hf : ∀ a, key (f a) = key a)
    (id : String) : (ofList key (t.values.map f)).find? id = (t.find? id).map f := by
  have hkey : (fun a => key a == id) ∘ f = fun a => key a == id := by
    funext a
    rw [Function.comp_apply, hf]
  rw [find?_ofList, ← List.map_reverse, List.find?_map, hkey, h.find?_reverse_values]

lemma Own.ids_eq (h : Own key t) : t.values.map key = t.ids := by
  rw [values, ids, List.map_map]
  apply List.map_congr_left
  intro p hp
  exact h p.1 p.2 (mem_toList_iff.mp hp)

lemma Own.pairwise_values (h : Own key t) : t.values.Pairwise fun a b => key a < key b := by
  rw [← List.pairwise_map (f := key) (R := (· < ·)), h.ids_eq, ids, List.pairwise_map]
  exact t.increasing

/-- Values in the order of their ids are the values of the table that they make. -/
lemma values_ofList_of_pairwise {l : List α} (h : l.Pairwise fun a b => key a < key b) :
    (ofList key l).values = l := by
  let u : Keyed α := ⟨l.map fun a => (key a, a), List.pairwise_map.mpr h⟩
  have hvalues : u.values = l := by
    rw [values, List.map_map]
    exact List.map_id l
  have hown : Own key u := by
    intro id a ha
    obtain ⟨b, -, hb⟩ := List.mem_map.mp (mem_toList_iff.mpr ha)
    cases hb
    rfl
  rw [← hvalues, hown.ofList_values]

end Own

end Keyed
end Deprecation
