/-
# Tables ordered by id

Rules, entries and ids are kept in tables that hold one value for each id, in the order of
the ids.  The order of texts is that of their characters' code points.  A table is a list
whose ids increase, and the type carries the proof, so two tables are equal as soon as they
give the same answer for every id.
-/

namespace Deprecation

/-- A table of values ordered by id. -/
structure Keyed (α : Type) where
  /-- The ids and values, in order. -/
  toList : List (String × α)
  increasing : toList.Pairwise fun p q => p.1 < q.1

namespace Keyed

variable {α : Type}

/-- The table without values. -/
def empty : Keyed α := ⟨[], .nil⟩

instance : Inhabited (Keyed α) := ⟨empty⟩

/-- The value at an id. -/
def find? (t : Keyed α) (id : String) : Option α := t.toList.lookup id

/-- Whether there is a value at an id. -/
def has (t : Keyed α) (id : String) : Bool := (t.find? id).isSome

/-- The values in the order of their ids. -/
def values (t : Keyed α) : List α := t.toList.map (·.2)

/-- The ids in order. -/
def ids (t : Keyed α) : List String := t.toList.map (·.1)

/-- The number of values. -/
def size (t : Keyed α) : Nat := t.toList.length

/-! ## Changing a value -/

/-- Puts a value into a list ordered by id, in place of the one at its id. -/
def insertInto (id : String) (a : α) : List (String × α) → List (String × α)
  | [] => [(id, a)]
  | (id', a') :: rest =>
    if id < id' then (id, a) :: (id', a') :: rest
    else if id = id' then (id, a) :: rest
    else (id', a') :: insertInto id a rest

theorem lt_of_not_lt_of_ne {s t : String} (h : ¬ s < t) (hne : s ≠ t) : t < s := by
  rcases Decidable.em (t < s) with h' | h'
  · exact h'
  · exact absurd (String.le_antisymm h' h) hne

theorem mem_insertInto {id : String} {a : α} {l : List (String × α)} {p : String × α}
    (h : p ∈ insertInto id a l) : p = (id, a) ∨ p ∈ l := by
  induction l with
  | nil => simpa [insertInto] using h
  | cons q rest ih =>
    obtain ⟨id', a'⟩ := q
    rw [insertInto] at h
    split at h
    · simpa using h
    · split at h
      · rcases List.mem_cons.mp h with h | h
        · exact .inl h
        · exact .inr (by simp [h])
      · rcases List.mem_cons.mp h with h | h
        · exact .inr (by simp [h])
        · rcases ih h with h | h
          · exact .inl h
          · exact .inr (by simp [h])

theorem pairwise_insertInto {id : String} {a : α} {l : List (String × α)}
    (h : l.Pairwise fun p q => p.1 < q.1) :
    (insertInto id a l).Pairwise fun p q => p.1 < q.1 := by
  induction l with
  | nil => simp [insertInto]
  | cons q rest ih =>
    obtain ⟨id', a'⟩ := q
    rw [List.pairwise_cons] at h
    rw [insertInto]
    split
    · next hlt =>
      refine List.pairwise_cons.mpr ⟨fun p hp => ?_, List.pairwise_cons.mpr h⟩
      rcases List.mem_cons.mp hp with rfl | hp
      · exact hlt
      · exact String.lt_trans hlt (h.1 p hp)
    · next hlt =>
      split
      · next heq =>
        subst heq
        exact List.pairwise_cons.mpr h
      · next hne =>
        refine List.pairwise_cons.mpr ⟨fun p hp => ?_, ih h.2⟩
        rcases mem_insertInto hp with rfl | hp
        · exact lt_of_not_lt_of_ne hlt hne
        · exact h.1 p hp

/-- The table with a value at an id, whatever was there before. -/
def insert (t : Keyed α) (id : String) (a : α) : Keyed α :=
  ⟨insertInto id a t.toList, pairwise_insertInto t.increasing⟩

/-- The table without the value at an id. -/
def erase (t : Keyed α) (id : String) : Keyed α :=
  ⟨t.toList.filter (·.1 ≠ id), t.increasing.filter _⟩

/-- The table of some values under their ids; of values with the same id the last one
counts. -/
def ofList (idOf : α → String) (as : List α) : Keyed α :=
  as.foldl (fun t a => t.insert (idOf a) a) empty

/-! ## What is at an id afterwards -/

@[simp] theorem find?_empty (id : String) : (empty : Keyed α).find? id = none := rfl

theorem lookup_cons_ite (p : String × α) (l : List (String × α)) (id : String) :
    (p :: l).lookup id = if id = p.1 then some p.2 else l.lookup id := by
  rw [List.lookup_cons]
  by_cases h : id = p.1
  · simp [h]
  · have : (id == p.1) = false := by simpa using h
    simp [h, this]

theorem lookup_insertInto (id : String) (a : α) (l : List (String × α)) (id' : String) :
    (insertInto id a l).lookup id' = if id' = id then some a else l.lookup id' := by
  induction l with
  | nil => simp [insertInto, lookup_cons_ite]
  | cons q rest ih =>
    obtain ⟨id'', a''⟩ := q
    rw [insertInto]
    split
    · rw [lookup_cons_ite]
    · split
      · next heq =>
        subst heq
        rw [lookup_cons_ite, lookup_cons_ite]
        by_cases h : id' = id <;> simp [h]
      · next hne =>
        rw [lookup_cons_ite, ih, lookup_cons_ite]
        by_cases h : id' = id''
        · subst h
          have : id' ≠ id := fun e => hne e.symm
          simp [this]
        · simp [h]

theorem find?_insert (t : Keyed α) (id : String) (a : α) (id' : String) :
    (t.insert id a).find? id' = if id' = id then some a else t.find? id' :=
  lookup_insertInto id a t.toList id'

@[simp] theorem find?_insert_self (t : Keyed α) (id : String) (a : α) :
    (t.insert id a).find? id = some a := by
  simp [find?_insert]

theorem find?_insert_of_ne (t : Keyed α) {id id' : String} (a : α) (h : id' ≠ id) :
    (t.insert id a).find? id' = t.find? id' := by
  simp [find?_insert, h]

/-! ## Equality -/

theorem lookup_eq_some_of_mem {l : List (String × α)}
    (h : l.Pairwise fun p q => p.1 < q.1) {p : String × α} (hp : p ∈ l) :
    l.lookup p.1 = some p.2 := by
  induction l with
  | nil => simp at hp
  | cons q rest ih =>
    rw [List.pairwise_cons] at h
    rw [lookup_cons_ite]
    rcases List.mem_cons.mp hp with rfl | hp
    · simp
    · have : p.1 ≠ q.1 := fun e => String.lt_irrefl q.1 (e ▸ h.1 p hp)
      rw [if_neg this, ih h.2 hp]

theorem mem_of_lookup_eq_some {l : List (String × α)} {id : String} {a : α}
    (h : l.lookup id = some a) : (id, a) ∈ l := by
  induction l with
  | nil => simp at h
  | cons q rest ih =>
    rw [lookup_cons_ite] at h
    split at h
    · next he =>
      cases h
      simp [he]
    · exact List.mem_cons_of_mem _ (ih h)

theorem mem_toList_iff {t : Keyed α} {id : String} {a : α} :
    (id, a) ∈ t.toList ↔ t.find? id = some a :=
  ⟨fun h => lookup_eq_some_of_mem t.increasing h, mem_of_lookup_eq_some⟩

theorem eq_of_pairwise_of_mem_iff {l m : List (String × α)}
    (hl : l.Pairwise fun p q => p.1 < q.1) (hm : m.Pairwise fun p q => p.1 < q.1)
    (h : ∀ p, p ∈ l ↔ p ∈ m) : l = m := by
  induction l generalizing m with
  | nil =>
    cases m with
    | nil => rfl
    | cons q rest => exact absurd ((h q).mpr (by simp)) (by simp)
  | cons p l ih =>
    cases m with
    | nil => exact absurd ((h p).mp (by simp)) (by simp)
    | cons q m =>
      rw [List.pairwise_cons] at hl hm
      have hpq : p = q := by
        rcases List.mem_cons.mp ((h p).mp (by simp)) with e | hp
        · exact e
        · rcases List.mem_cons.mp ((h q).mpr (by simp)) with e | hq
          · exact e.symm
          · exact absurd (String.lt_trans (hl.1 q hq) (hm.1 p hp)) (String.lt_irrefl _)
      subst hpq
      congr 1
      refine ih hl.2 hm.2 fun r => ⟨fun hr => ?_, fun hr => ?_⟩
      · rcases List.mem_cons.mp ((h r).mp (by simp [hr])) with rfl | hr'
        · exact absurd (hl.1 r hr) (String.lt_irrefl _)
        · exact hr'
      · rcases List.mem_cons.mp ((h r).mpr (by simp [hr])) with rfl | hr'
        · exact absurd (hm.1 r hr) (String.lt_irrefl _)
        · exact hr'

/-- Tables that give the same answer for every id are equal. -/
theorem ext_find? {t u : Keyed α} (h : ∀ id, t.find? id = u.find? id) : t = u := by
  have : t.toList = u.toList :=
    eq_of_pairwise_of_mem_iff t.increasing u.increasing fun p => by
      obtain ⟨id, a⟩ := p
      rw [mem_toList_iff, mem_toList_iff, h]
  cases t; cases u; cases this; rfl

theorem insert_insert_self (t : Keyed α) (id : String) (a b : α) :
    (t.insert id a).insert id b = t.insert id b :=
  ext_find? fun id' => by
    simp only [find?_insert]
    split <;> rfl

theorem insert_comm (t : Keyed α) {id id' : String} (a b : α) (h : id ≠ id') :
    (t.insert id a).insert id' b = (t.insert id' b).insert id a :=
  ext_find? fun x => by
    simp only [find?_insert]
    by_cases h1 : x = id <;> by_cases h2 : x = id' <;> simp_all

theorem insert_eq_self {t : Keyed α} {id : String} {a : α} (h : t.find? id = some a) :
    t.insert id a = t :=
  ext_find? fun id' => by
    rw [find?_insert]
    split
    · next e => rw [e, h]
    · rfl

end Keyed

end Deprecation
