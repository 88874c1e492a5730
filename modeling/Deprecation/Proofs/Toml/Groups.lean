/-
# A table of tables is written in groups

A text that opens a table for each of its groups, and puts the fields of a group into the table
that it has just opened, stands for the table of these tables.  Neither a group nor a field of a
group may come twice.  Fields are then always added at the end of the table that was opened last,
which stands at the end of all tables.

So a table of tables is read from its own text, and it has one if all fields of the groups have a
written form.
-/
import Mathlib
import Deprecation.Proofs.Toml.Statement

namespace Deprecation.Toml

/-- A group of fields under its name. -/
abbrev Group := String × List (String × Datum)

namespace Group

/-- The fields of a group, as they stand in its table. -/
def nodes (fields : List (String × Datum)) : Fields := fields.map fun f => (f.1, .closed f.2)

/-- The table that is made of a group. -/
def node (g : Group) : String × Node := (g.1, .table .opened (nodes g.2))

/-- The statements that make a table of a group. -/
def statements (g : Group) : List Statement :=
  .header ⟨[], g.1⟩ :: g.2.map fun f => .pair ⟨[], f.1⟩ f.2

end Group

/-! ## The end of a table -/

section Fields

variable {key : String} {f : Option Node → Option Node} {fields : Fields}

lemma alter_of_not_mem (h : key ∉ fields.map Prod.fst) :
    Fields.alter key f fields = (f none).map fun n => fields ++ [(key, n)] := by
  induction fields with
  | nil => rfl
  | cons p rest ih =>
    obtain ⟨hne, hrest⟩ := not_or.mp (mt List.mem_cons.mpr h)
    rw [Fields.alter, if_neg (Ne.symm hne), ih hrest, Option.map_map]
    rfl

lemma alter_last (h : key ∉ fields.map Prod.fst) (n : Node) :
    Fields.alter key f (fields ++ [(key, n)])
      = (f (some n)).map fun n => fields ++ [(key, n)] := by
  induction fields with
  | nil =>
    rw [List.nil_append, Fields.alter, if_pos rfl]
    rfl
  | cons p rest ih =>
    obtain ⟨hne, hrest⟩ := not_or.mp (mt List.mem_cons.mpr h)
    rw [List.cons_append, Fields.alter, if_neg (Ne.symm hne), ih hrest, Option.map_map]
    rfl

end Fields

/-! ## Adding statements -/

/-- A header opens a new table at the end. -/
lemma add_header (d : Document) {name : String} (h : name ∉ d.fields.map Prod.fst) :
    d.add (.header ⟨[], name⟩) = some ⟨[name], d.fields ++ [Group.node (name, [])]⟩ := by
  rw [Document.add, Fields.openTable, Fields.descend, alter_of_not_mem h]
  rfl

/-- A pair goes to the end of the table that stands at the end. -/
lemma add_pair {before : Fields} {g : Group} {key : String} (value : Datum)
    (hg : g.1 ∉ before.map Prod.fst) (hkey : key ∉ g.2.map Prod.fst) :
    Document.add ⟨[g.1], before ++ [Group.node g]⟩ (.pair ⟨[], key⟩ value)
      = some ⟨[g.1], before ++ [Group.node (g.1, g.2 ++ [(key, value)])]⟩ := by
  have hnodes : key ∉ (Group.nodes g.2).map Prod.fst := by
    rwa [Group.nodes, List.map_map]
  have hput : Fields.putDotted [] key value .opened (Group.nodes g.2)
      = some (Group.nodes (g.2 ++ [(key, value)])) := by
    rw [Fields.putDotted, Fields.descend, if_pos (.inr rfl), Fields.put, alter_of_not_mem hnodes,
      Option.map_some, Group.nodes, Group.nodes, List.map_append, List.map_singleton]
  rw [Document.add, Fields.descend, Group.node, alter_last hg]
  dsimp only
  rw [if_neg (by simp), Fields.descend, hput]
  rfl

lemma not_mem_of_nodup {α : Type} {l m : List (String × α)} {p : String × α}
    (h : ((l ++ p :: m).map Prod.fst).Nodup) : p.1 ∉ l.map Prod.fst := by
  intro hmem
  rw [List.map_append] at h
  exact List.disjoint_of_nodup_append h hmem List.mem_cons_self

/-- The fields of a group, added to those that are there. -/
lemma foldlM_pairs {before : Fields} {name : String} (hname : name ∉ before.map Prod.fst)
    (there fields : List (String × Datum)) (h : ((there ++ fields).map Prod.fst).Nodup) :
    (fields.map fun f => Statement.pair ⟨[], f.1⟩ f.2).foldlM Document.add
        ⟨[name], before ++ [Group.node (name, there)]⟩
      = some ⟨[name], before ++ [Group.node (name, there ++ fields)]⟩ := by
  induction fields generalizing there with
  | nil =>
    rw [List.append_nil]
    rfl
  | cons f fields ih =>
    have hf : f.1 ∉ there.map Prod.fst := not_mem_of_nodup h
    rw [List.append_cons] at h
    rw [List.map_cons, List.foldlM_cons, add_pair (g := (name, there)) f.2 hname hf,
      Option.bind_eq_bind, Option.bind_some, ih _ h, List.append_cons there f fields]

/-- The groups of a text, added to those that are there. -/
lemma foldlM_groups (there groups : List Group) (hnames : ((there ++ groups).map Prod.fst).Nodup)
    (hfields : ∀ g ∈ groups, (g.2.map Prod.fst).Nodup) (current : List String) :
    ∃ last, (groups.flatMap Group.statements).foldlM Document.add ⟨current, there.map Group.node⟩
      = some ⟨last, (there ++ groups).map Group.node⟩ := by
  induction groups generalizing there current with
  | nil =>
    rw [List.append_nil]
    exact ⟨current, rfl⟩
  | cons g groups ih =>
    obtain ⟨hg, hgroups⟩ := List.forall_mem_cons.mp hfields
    have hname : g.1 ∉ (there.map Group.node).map Prod.fst := by
      rw [List.map_map]
      exact not_mem_of_nodup hnames
    have hgroup : g.statements.foldlM Document.add ⟨current, there.map Group.node⟩
        = some ⟨[g.1], (there ++ [g]).map Group.node⟩ := by
      rw [Group.statements, List.foldlM_cons, add_header _ hname, Option.bind_eq_bind,
        Option.bind_some, foldlM_pairs hname [] g.2 hg, List.nil_append, List.map_append,
        List.map_singleton]
    rw [List.append_cons] at hnames
    rw [List.flatMap_cons, List.foldlM_append, hgroup, List.append_cons there g groups]
    exact ih (there ++ [g]) hnames hgroups [g.1]

/-! ## What the tables stand for -/

lemma fieldsDatum_eq (fields : Fields) :
    fieldsDatum fields = fields.map fun f => (some f.1, f.2.datum) := by
  induction fields with
  | nil => rfl
  | cons f rest ih => rw [fieldsDatum, ih, List.map_cons]

lemma datum_node (g : Group) : (Group.node g).2.datum = .record g.2 := by
  rw [Group.node, Node.datum, fieldsDatum_eq, Group.nodes, List.map_map]
  rfl

/-- **Groups of pairs make a table of tables.** -/
theorem datumOf_groups {groups : List Group} (hnames : (groups.map Prod.fst).Nodup)
    (hfields : ∀ g ∈ groups, (g.2.map Prod.fst).Nodup) :
    datumOf (groups.flatMap Group.statements)
      = some (.record (groups.map fun g => (g.1, .record g.2))) := by
  obtain ⟨last, hfold⟩ := foldlM_groups [] groups hnames hfields []
  have hempty : Document.empty = ⟨[], [].map Group.node⟩ := rfl
  rw [datumOf, hempty, hfold, Option.map_some, List.nil_append, fieldsDatum_eq, List.map_map,
    Datum.record, List.map_map]
  simp only [Function.comp_def, datum_node]
  rfl

/-! ## Texts of groups -/

lemma isSome_write_groups (groups : List Group) :
    (write (groups.flatMap Group.statements)).isSome
      = groups.all fun g => g.2.all fun f => (valueText f.2).isSome := by
  rw [isSome_write, List.all_flatMap]
  congr 1
  funext g
  rw [Group.statements, List.all_cons, List.all_map]
  simp only [Statement.text, Option.isSome_some, Bool.true_and, Function.comp_def,
    Option.isSome_map]

/-- **A table of tables is read from its own text.** -/
theorem ofString_write_groups {groups : List Group} {text : String}
    (h : write (groups.flatMap Group.statements) = some text)
    (hnames : (groups.map Prod.fst).Nodup) (hfields : ∀ g ∈ groups, (g.2.map Prod.fst).Nodup)
    (hvalues : ∀ g ∈ groups, ∀ f ∈ g.2, f.2.isPlain = true ∧ f.2.depth ≤ maxNesting - 1) :
    ofString text = some (.record (groups.map fun g => (g.1, .record g.2))) := by
  have hfits : ∀ st ∈ groups.flatMap Group.statements, st.Fits := by
    intro st hst
    obtain ⟨g, hg, hst⟩ := List.mem_flatMap.mp hst
    have hnesting : ([] : List String).length < maxNesting - 1 := by decide
    rcases List.mem_cons.mp hst with rfl | hst
    · exact hnesting
    · obtain ⟨f, hf, rfl⟩ := List.mem_map.mp hst
      exact ⟨hnesting, hvalues g hg f hf⟩
  rw [ofString, statements_write h hfits, Option.bind_eq_bind, Option.bind_some,
    datumOf_groups hnames hfields]

end Deprecation.Toml
