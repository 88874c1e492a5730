/-
# Decoding what was encoded

A value *survives* an encoding when its datum is plain and decodes to it, and then it is also read
from the JSON text of its datum.  An encoding is *faithful* when all values survive it.  The two
differ for numbers, which survive only below the bound that they are decoded with.

A structure that is encoded as a table of differently named fields gives each of its fields the
datum it was encoded with; so it survives as soon as its fields do.  A tag among the fields is taken
off first.
-/
import Mathlib
import Deprecation.Datum.Decode
import Deprecation.Proofs.Json.RoundTrip

namespace Deprecation.Datum

variable {α : Type}

/-! ## Plain data -/

lemma arePlain_eq (items : List Datum) : arePlain items = items.all isPlain := by
  induction items with
  | nil => rfl
  | cons d rest ih => rw [arePlain, ih, List.all_cons]

lemma isPlain_record (fields : List (String × Datum)) :
    (record fields).isPlain = fields.all fun f => f.2.isPlain := by
  rw [record, isPlain]
  induction fields with
  | nil => rfl
  | cons f rest ih => rw [List.map_cons, fieldsArePlain, ih, List.all_cons]

@[simp] lemma isPlain_str (s : String) : (str s).isPlain = true := rfl

/-! ## The fields of a table -/

lemma lookup_record (name : String) (fields : List (String × Datum)) :
    lookup name (fields.map fun f => (some f.1, f.2)) = fields.lookup name := by
  induction fields with
  | nil => rfl
  | cons f rest ih =>
    obtain ⟨n, d⟩ := f
    rw [List.map_cons, lookup, ih, List.lookup_cons]
    by_cases h : n = name
    · subst h
      simp
    · have hne : (name == n) = false := by simpa using fun heq => h heq.symm
      simp [h, hne]

lemma occurrences_record (name : String) (fields : List (String × Datum)) :
    occurrences name (fields.map fun f => (some f.1, f.2)) = (fields.map Prod.fst).count name := by
  rw [occurrences, List.filter_map, List.length_map, List.count_eq_countP, List.countP_map,
    List.countP_eq_length_filter]
  congr 2
  funext f
  simp [beq_eq_decide]

/-- A table of differently named fields gives each name its datum. -/
theorem given_record (names : List String) (format : Format) {fields : List (String × Datum)}
    (h : (fields.map Prod.fst).Nodup) :
    (record fields).given names format
      = some ⟨false, names.map fun name => fields.lookup name⟩ := by
  have hnamed : (fields.map fun f => (some f.1, f.2)).any (fun f => f.1.isNone) = false := by
    simp [List.any_eq_false]
  have honce : (names.any fun name =>
      decide (1 < occurrences name (fields.map fun f => (some f.1, f.2)))) = false := by
    rw [List.any_eq_false]
    intro name _
    rw [occurrences_record]
    have := List.nodup_iff_count_le_one.mp h name
    simp only [decide_eq_true_eq]
    omega
  simp only [record, given, hnamed, honce, Bool.or_self, Bool.false_eq_true, if_false,
    lookup_record]

/-! ## What survives an encoding -/

/-- A value survives an encoding: its datum is plain and decodes to it. -/
structure Survives (encode : α → Datum) (decode : Datum → Option α) (a : α) : Prop where
  plain : (encode a).isPlain = true
  decoded : decode (encode a) = some a

namespace Survives

variable {encode : α → Datum} {decode : Datum → Option α}

/-- A value is read from the JSON text of its datum. -/
theorem ofString_write {a : α} (h : Survives encode decode a) (style : Json.Style) :
    Json.ofString (Json.write style (encode a)) = some (encode a) :=
  Json.read_write style h.plain

lemma nat {bound n : Nat} (hn : n < bound) (hbound : bound ≤ 2 ^ 64) :
    Survives Datum.nat (asNatBelow bound) n where
  plain := by
    simp only [Datum.nat, isPlain, Bool.and_eq_true, decide_eq_true_eq]
    omega
  decoded := by rw [Datum.nat, asNatBelow, if_pos (by omega), Int.toNat_natCast]

lemma list {as : List α} (h : ∀ a ∈ as, Survives encode decode a) :
    Survives (fun as => .list (as.map encode)) (asList decode) as where
  plain := by
    rw [isPlain, arePlain_eq, List.all_map]
    exact List.all_eq_true.mpr fun a ha => (h a ha).plain
  decoded := by
    show (as.map encode).mapM decode = some as
    induction as with
    | nil => rfl
    | cons a rest ih =>
      obtain ⟨ha, hrest⟩ := List.forall_mem_cons.mp h
      rw [List.map_cons, List.mapM_cons, ha.decoded, ih hrest]
      rfl

end Survives

/-! ## Faithful encodings -/

/-- Only the datum of no value is taken for none. -/
lemma asOption_of_ne_null {decode : Datum → Option α} {d : Datum} (hnull : d ≠ .null) :
    asOption decode d = (decode d).map some := by
  unfold asOption
  split
  · exact absurd rfl hnull
  · rfl

/-- An encoding makes plain data, which decode to what they were made from. -/
structure Faithful (encode : α → Datum) (decode : Datum → Option α) : Prop where
  plain : ∀ a, (encode a).isPlain = true
  decoded : ∀ a, decode (encode a) = some a

namespace Faithful

variable {encode : α → Datum} {decode : Datum → Option α}

lemma survives (h : Faithful encode decode) (a : α) : Survives encode decode a :=
  ⟨h.plain a, h.decoded a⟩

/-- A value is read from the JSON text of its datum. -/
theorem read_write (h : Faithful encode decode) (style : Json.Style) (a : α) :
    (Json.read ((Json.write style (encode a)).toList.map some) >>= decode) = some a := by
  rw [Json.read_write style (h.plain a)]
  exact h.decoded a

lemma str : Faithful Datum.str asText where
  plain := isPlain_str
  decoded _ := rfl

lemma bool : Faithful Datum.bool asBool where
  plain _ := rfl
  decoded _ := rfl

lemma list (h : Faithful encode decode) :
    Faithful (fun as => .list (as.map encode)) (asList decode) where
  plain _ := (Survives.list fun a _ => h.survives a).plain
  decoded _ := (Survives.list fun a _ => h.survives a).decoded

lemma option (h : Faithful encode decode) (hnull : ∀ a, encode a ≠ .null) :
    Faithful (Datum.option encode) (asOption decode) where
  plain o := by
    cases o with
    | none => rfl
    | some a => exact h.plain a
  decoded o := by
    cases o with
    | none => rfl
    | some a => rw [Datum.option, asOption_of_ne_null (hnull a), h.decoded, Option.map_some]

/-- The values of an enumeration have different names. -/
lemma oneOf {all : List α} {nameOf : α → String} (format : Format)
    (h : ∀ a, all.find? (fun b => nameOf b == nameOf a) = some a) :
    Faithful (fun a => .str (nameOf a)) (asOneOf all nameOf format) where
  plain _ := rfl
  decoded a := h a

end Faithful

/-! ## The fields of a structure -/

section Fields

variable {β : Type} {encode : α → Datum} {decode : Datum → Option α} {g : Given} {i : Nat}

/-- A field that is there is decoded. -/
lemma required_bind {d : Datum} {a : α} (h : decode d = some a) (hi : g.at? i = some d)
    (f : α → Option β) : (g.required i decode >>= f) = f a := by
  have hfield : g.required i decode = some a := by
    rw [Given.required, hi]
    exact h
  rw [hfield]
  rfl

/-- A field with a default that is given all the same. -/
lemma withDefault_bind {d : Datum} {a : α} (h : decode d = some a) (default : α)
    (hi : g.at? i = some d) (f : α → Option β) :
    (g.withDefault i default decode >>= f) = f a := by
  have hfield : g.withDefault i default decode = some a := by
    rw [Given.withDefault, hi]
    exact h
  rw [hfield]
  rfl

/-- A field without a default that may be null. -/
lemma optional_bind {d : Datum} {o : Option α} (h : asOption decode d = some o)
    (hi : g.at? i = some d) (f : Option α → Option β) : (g.optional i decode >>= f) = f o := by
  have hfield : g.optional i decode = some o := by
    rw [Given.optional, hi]
    exact h
  rw [hfield]
  rfl

/-- A field that is left out when its value is none is decoded either way. -/
lemma leftOut_bind (h : Faithful encode decode) (hnull : ∀ a, encode a ≠ .null)
    {o : Option α} (hi : g.at? i = o.map encode) (f : Option α → Option β) :
    (g.withDefault i none (asOption decode) >>= f) = f o := by
  have hfield : g.withDefault i none (asOption decode) = some o := by
    rw [Given.withDefault, hi]
    cases o with
    | none => rfl
    | some a =>
      show asOption decode (encode a) = _
      rw [asOption_of_ne_null (hnull a), h.decoded, Option.map_some]
  rw [hfield]
  rfl

end Fields

/-! ## What is decoded -/

section Decoded

variable {decode : Datum → Option α} {d : Datum}

lemma lt_of_asNatBelow {bound n : Nat} (h : asNatBelow bound d = some n) : n < bound := by
  unfold asNatBelow at h
  split at h
  · split at h
    · next hbounds =>
      cases h
      omega
    · cases h
  · cases h

lemma exists_of_required {g : Given} {i : Nat} {a : α} (h : g.required i decode = some a) :
    ∃ d, decode d = some a := by
  obtain ⟨d, -, hd⟩ := Option.bind_eq_some_iff.mp h
  exact ⟨d, hd⟩

/-- Every item of a list is decoded from a datum of its own. -/
lemma exists_of_asList {as : List α} (h : asList decode d = some as) :
    ∀ a ∈ as, ∃ d', decode d' = some a := by
  unfold asList at h
  split at h
  · next items =>
    induction items generalizing as with
    | nil =>
      cases h
      exact List.forall_mem_nil _
    | cons item rest ih =>
      rw [List.mapM_cons] at h
      obtain ⟨a, ha, h⟩ := Option.bind_eq_some_iff.mp h
      obtain ⟨others, hothers, h⟩ := Option.bind_eq_some_iff.mp h
      cases h
      exact List.forall_mem_cons.mpr ⟨⟨item, ha⟩, ih hothers⟩
  · cases h

lemma exists_of_requiredList {g : Given} {i : Nat} {as : List α}
    (h : g.required i (asList decode) = some as) : ∀ a ∈ as, ∃ d, decode d = some a := by
  obtain ⟨d, hd⟩ := exists_of_required h
  exact exists_of_asList hd

/-- A list that is left out has no items. -/
lemma exists_of_defaultList {g : Given} {i : Nat} {as : List α}
    (h : g.withDefault i [] (asList decode) = some as) : ∀ a ∈ as, ∃ d, decode d = some a := by
  unfold Given.withDefault at h
  split at h
  · exact exists_of_asList h
  · cases h
    exact List.forall_mem_nil _

end Decoded

/-! ## A tag among the fields -/

/-- Fields that are texts. -/
def textFields (fields : List (String × String)) : List (String × Datum) :=
  fields.map fun f => (f.1, str f.2)

lemma names_textFields (fields : List (String × String)) :
    (textFields fields).map Prod.fst = fields.map Prod.fst := by
  rw [textFields, List.map_map]
  rfl

lemma isSound_textFields (fields : List (String × String)) :
    (record (textFields fields)).isSound = true := by
  rw [record, isSound]
  induction fields with
  | nil => rfl
  | cons f rest ih => exact ih

lemma depth_textFields (fields : List (String × String)) :
    (record (textFields fields)).depth = 1 := by
  rw [record, depth, Nat.add_eq_right]
  induction fields with
  | nil => rfl
  | cons f rest ih =>
    show max 0 (depthFields ((textFields rest).map fun f => (some f.1, f.2))) = 0
    rw [ih, Nat.max_self]

/-- A tag is taken off a structure whose fields are texts. -/
lemma tagged_textFields (tag kind : String) {around : Nat} (fields : List (String × String))
    (htag : tag ∉ fields.map Prod.fst) (haround : around < maxDepth) :
    tagged tag around (record (textFields ((tag, kind) :: fields)))
      = some (kind, record (textFields fields)) := by
  have hread : (!(record (textFields ((tag, kind) :: fields))).isSound
      || maxDepth < around + (record (textFields ((tag, kind) :: fields))).depth) = false := by
    rw [isSound_textFields, depth_textFields, Bool.not_true, Bool.false_or, decide_eq_false_iff_not]
    omega
  have honce : ¬1 < occurrences tag
      ((textFields ((tag, kind) :: fields)).map fun f => (some f.1, f.2)) := by
    rw [occurrences_record, names_textFields, List.map_cons, List.count_cons_self,
      List.count_eq_zero_of_not_mem htag]
    decide
  have hothers : ((textFields fields).map fun f => (some f.1, f.2)).filter
      (fun f => decide (f.1 ≠ some tag)) = (textFields fields).map fun f => (some f.1, f.2) := by
    refine List.filter_eq_self.mpr fun f hf => ?_
    obtain ⟨g, hg, rfl⟩ := List.mem_map.mp hf
    have hname : g.1 ∈ fields.map Prod.fst := names_textFields fields ▸ List.mem_map_of_mem hg
    have hne : g.1 ≠ tag := fun heq => htag (heq ▸ hname)
    simpa using hne
  have hname : lookup tag ((textFields ((tag, kind) :: fields)).map fun f => (some f.1, f.2))
      = some (str kind) := by
    rw [lookup_record, textFields, List.map_cons, List.lookup_cons_self]
  unfold tagged
  rw [hread, if_neg Bool.false_ne_true]
  dsimp only [record]
  rw [if_neg honce, hname]
  show some (kind, Datum.table (List.filter _ ((some tag, str kind) ::
    (textFields fields).map fun f => (some f.1, f.2)))) = _
  rw [List.filter_cons_of_neg (by simp), hothers]

end Deprecation.Datum
