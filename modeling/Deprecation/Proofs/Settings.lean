/-
# Settings survive being saved

Settings are written in groups, one table to a group.  Their fields are texts, lists of texts and
two numbers, so all of them have a written form unless a number is too large for TOML, which has
integers of 63 bits and a sign.  The largest suffix of an id has 32 bits and always fits; the
interval has 64 bits, and with one that does not fit nothing is written.

What is written is read again.  A catalogue path that is left out is none, and every other field is
there, so no default is taken.  The directory that paths are looked up from is not written: it is
that of the file.
-/
import Mathlib
import Deprecation.Proofs.Files.Written
import Deprecation.Proofs.Service.Start
import Deprecation.Proofs.Snapshot
import Deprecation.Proofs.Toml.Groups

namespace Deprecation

open Datum FileTree

namespace Settings

variable {s : Settings}

/-! ## The groups of settings -/

lemma names_groups (s : Settings) :
    s.groups.map Prod.fst = ["catalog", "store", "synthesis", "check", "watch"] := rfl

lemma nodup_fields : ∀ g ∈ s.groups, (g.2.map Prod.fst).Nodup := by
  rw [groups]
  simp only [List.forall_mem_cons]
  refine ⟨?_, by simp, by simp, by simp, by simp, List.forall_mem_nil _⟩
  cases s.cataloguePath with
  | none => exact List.nodup_nil
  | some path => exact List.nodup_singleton _

/-- The fields of settings are texts, lists of texts and two numbers. -/
lemma forall_fields {P : Datum → Prop} (htext : ∀ t, P (.str t))
    (hlist : ∀ l : List String, P (.list (l.map .str))) (hsuffix : P (.nat s.maxSuffix))
    (hinterval : P (.nat s.interval)) : ∀ g ∈ s.groups, ∀ f ∈ g.2, P f.2 := by
  rw [groups]
  simp only [List.forall_mem_cons]
  refine ⟨?_, ⟨htext _, List.forall_mem_nil _⟩, ⟨hlist _, hsuffix, List.forall_mem_nil _⟩,
    ⟨hlist _, List.forall_mem_nil _⟩, ⟨hinterval, List.forall_mem_nil _⟩, List.forall_mem_nil _⟩
  cases s.cataloguePath with
  | none => exact List.forall_mem_nil _
  | some path => exact List.forall_mem_singleton.mpr (htext path)

/-! ## The text of settings -/

/-- A number has a written form if it has 63 bits. -/
lemma isSome_valueText_nat (n : Nat) : (Toml.valueText (.nat n)).isSome = decide (n < 2 ^ 63) := by
  have hpow : Int.pow 2 63 = ((2 ^ 63 : Nat) : Int) := rfl
  show ((Toml.inRange n).map Json.integer).isSome = _
  rw [Option.isSome_map, Toml.inRange, hpow]
  by_cases hn : n < 2 ^ 63
  · rw [if_pos (by omega), Option.isSome_some, decide_eq_true hn]
  · rw [if_neg (by omega), Option.isSome_none, decide_eq_false hn]

lemma isSome_valueText_list (l : List String) :
    (Toml.valueText (.list (l.map .str))).isSome = true := by
  have hitems : Toml.itemTexts (l.map .str) = some (l.map fun t => Toml.quote t.toList) := by
    induction l with
    | nil => rfl
    | cons t rest ih =>
      rw [List.map_cons, Toml.itemTexts, ih]
      rfl
  rw [Toml.valueText, hitems]
  rfl

/-- Settings are written just when their interval has 63 bits. -/
theorem isSome_write_statements (hsuffix : s.maxSuffix < 2 ^ 32) :
    (Toml.write s.statements).isSome = decide (s.interval < 2 ^ 63) := by
  have hgroups : s.statements = s.groups.flatMap Toml.Group.statements := rfl
  rw [hgroups, Toml.isSome_write_groups]
  by_cases hinterval : s.interval < 2 ^ 63
  · rw [decide_eq_true hinterval]
    have hfields : ∀ g ∈ s.groups, ∀ f ∈ g.2, (Toml.valueText f.2).isSome = true := by
      refine forall_fields (P := fun d => (Toml.valueText d).isSome = true) (fun _ => rfl)
        isSome_valueText_list ?_ ?_
      · rw [isSome_valueText_nat, decide_eq_true (by omega)]
      · rw [isSome_valueText_nat, decide_eq_true hinterval]
    exact List.all_eq_true.mpr fun g hg => List.all_eq_true.mpr (hfields g hg)
  · rw [decide_eq_false hinterval, List.all_eq_false]
    refine ⟨("watch", [("interval_secs", .nat s.interval)]), by simp [groups], ?_⟩
    rw [List.all_cons, isSome_valueText_nat, decide_eq_false hinterval]
    decide

lemma toToml_of_lt (hsuffix : s.maxSuffix < 2 ^ 32) (hinterval : s.interval < 2 ^ 63) :
    ∃ text, Toml.write s.statements = some text ∧ s.toToml = .ok text := by
  obtain ⟨text, htext⟩ := Option.isSome_iff_exists.mp
    ((isSome_write_statements hsuffix).trans (decide_eq_true hinterval))
  exact ⟨text, htext, by rw [toToml, htext]⟩

lemma toToml_of_le (hsuffix : s.maxSuffix < 2 ^ 32) (hinterval : 2 ^ 63 ≤ s.interval) :
    s.toToml = .error .unwritable := by
  have hnone : (Toml.write s.statements).isSome = false :=
    (isSome_write_statements hsuffix).trans (decide_eq_false (by omega))
  rw [toToml, Option.isNone_iff_eq_none.mp (Option.isSome_eq_false_iff.mp hnone)]

/-! ## Reading settings -/

lemma given_toDatum (s : Settings) :
    s.toDatum.given ["catalog", "store", "synthesis", "check", "watch"] .toml
      = some ⟨false, s.groups.map fun g => some (.record g.2)⟩ := by
  rw [toDatum, given_record]
  · rfl
  · rw [List.map_map]
    exact of_decide_eq_true rfl

/-- A group that is there is decoded. -/
lemma group_bind {α : Type} {g : Given} {i : Nat} {names : List String}
    (fields : List (String × Datum)) (h : (fields.map Prod.fst).Nodup)
    (hi : g.at? i = some (.record fields)) (f : Given → Option α) :
    (group g .toml i names).bind f = f ⟨false, names.map fun name => fields.lookup name⟩ :=
  withDefault_bind (given_record names .toml h) _ hi f

lemma lookup_optionalField (name : String) (o : Option String) :
    (optionalField name .str o).lookup name = o.map .str := by
  cases o with
  | none => rfl
  | some t => exact List.lookup_cons_self

/-- **Settings are decoded from their own datum**, but for the directory of their paths. -/
theorem ofDatum_toDatum (hsuffix : s.maxSuffix < 2 ^ 32) (hinterval : s.interval < 2 ^ 64) :
    ofDatum .toml s.toDatum = some { s with root := "" } := by
  have hcatalogue : ((optionalField "path" .str s.cataloguePath).map Prod.fst).Nodup :=
    nodup_fields (s := s) ("catalog", _) List.mem_cons_self
  have hpath : Given.at? ⟨false, ["path"].map fun name =>
      (optionalField "path" .str s.cataloguePath).lookup name⟩ 0 = s.cataloguePath.map .str := by
    show (some ((optionalField "path" .str s.cataloguePath).lookup "path")).join = _
    rw [lookup_optionalField, Option.join_some]
  have hsuffix' : Survives Datum.nat (asNatBelow (Nat.pow 2 32)) s.maxSuffix :=
    .nat hsuffix (by decide)
  have hinterval' : Survives Datum.nat (asNatBelow (Nat.pow 2 64)) s.interval :=
    .nat hinterval le_rfl
  rw [ofDatum, given_toDatum, Option.bind_eq_bind, Option.bind_some]
  dsimp only
  rw [group_bind _ hcatalogue rfl, leftOut_bind Faithful.str (by simp [Datum.str]) hpath,
    group_bind [("path", .str s.storePath)] (by simp) rfl,
    withDefault_bind (Faithful.str.decoded s.storePath) _ rfl,
    group_bind [("legacy_prefixes", .list (s.legacyPrefixes.map .str)),
      ("max_id_suffix", .nat s.maxSuffix)] (by simp) rfl,
    withDefault_bind (Faithful.str.list.decoded s.legacyPrefixes) _ rfl,
    withDefault_bind hsuffix'.decoded _ rfl,
    group_bind [("extensions", .list (s.extensions.map .str))] (by simp) rfl,
    withDefault_bind (Faithful.str.list.decoded s.extensions) _ rfl,
    group_bind [("interval_secs", .nat s.interval)] (by simp) rfl,
    withDefault_bind hinterval'.decoded _ rfl]
  rfl

/-- All fields of settings can be read from their text. -/
lemma readable_fields (hsuffix : s.maxSuffix < 2 ^ 32) (hinterval : s.interval < 2 ^ 64) :
    ∀ g ∈ s.groups, ∀ f ∈ g.2, f.2.isPlain = true ∧ f.2.depth ≤ Toml.maxNesting - 1 := by
  have hnat : ∀ {n : Nat}, n < 2 ^ 64 →
      (Datum.nat n).isPlain = true ∧ (Datum.nat n).depth ≤ Toml.maxNesting - 1 :=
    fun hn => ⟨(Survives.nat hn le_rfl).plain, Nat.zero_le _⟩
  refine forall_fields (P := fun d => d.isPlain = true ∧ d.depth ≤ Toml.maxNesting - 1)
    (fun t => ⟨isPlain_str t, Nat.zero_le _⟩) (fun l => ⟨Faithful.str.list.plain l, ?_⟩)
    (hnat (by omega)) (hnat hinterval)
  have hitems : depthItems (l.map .str) = 0 := by
    induction l with
    | nil => rfl
    | cons t rest ih =>
      rw [List.map_cons, depthItems, ih]
      rfl
  rw [depth, hitems]
  decide

/-- **Settings are read from their own text**, but for the directory of their paths. -/
theorem ofToml_toToml {text : String} (hsuffix : s.maxSuffix < 2 ^ 32)
    (hinterval : s.interval < 2 ^ 64) (h : Toml.write s.statements = some text) :
    ofToml text = .ok { s with root := "" } := by
  have hread : Toml.ofString text = some s.toDatum :=
    Toml.ofString_write_groups h (by rw [names_groups]; decide) nodup_fields
      (readable_fields hsuffix hinterval)
  rw [ofToml, hread, Option.bind_eq_bind, Option.bind_some, ofDatum_toDatum hsuffix hinterval]

/-! ## Files of settings -/

variable {t : FileTree} {path : String}

lemma outcome_save (s : Settings) (t : FileTree) (path : String) :
    outcome (s.save path) t = match s.toToml with
      | .error e => (.error e, t)
      | .ok content => match t.write path content.toUTF8 with
        | .error e => (.error (.file e), t)
        | .ok t' => (.ok (), t') := by
  rw [save, outcome_bind, outcome_mk_pure]
  cases s.toToml with
  | error e => rfl
  | ok content =>
    have hwrite : outcome (Disk.writeText path content) t
        = match t.write path content.toUTF8 with
          | .error e => (.error e, t)
          | .ok t' => (.ok (), t') := by
      show outcome (ExceptT.mk (change fun t => t.write path content.toUTF8)) t = _
      rw [outcome_change]
      cases t.write path content.toUTF8 <;> rfl
    dsimp only
    rw [outcome_adapt, hwrite]
    cases t.write path content.toUTF8 with
    | error e => rfl
    | ok t' => rfl

lemma outcome_load {text : String} (htext : t.read path = .ok text.toUTF8)
    {loaded : Settings} (h : ofToml text = .ok loaded) :
    outcome (load path) t = (.ok { loaded with root := (Path.parent path).getD loaded.root }, t) := by
  have hread : t.textAt path = .ok text := by
    rw [textAt, htext]
    dsimp only
    rw [Text.fromUTF8?_toUTF8]
  rw [load, outcome_bind, outcome_adapt, outcome_readText, hread]
  show outcome (ExceptT.mk (pure (ofToml text)) >>= _) t = _
  rw [outcome_bind, outcome_mk_pure, h]
  rfl

/-- **Settings survive being saved.**  Settings whose interval has 63 bits are saved wherever a
file can be written, and those that are loaded from this file differ only in the directory that
their paths are looked up from: it is the directory of the file.  With a greater interval nothing
is written. -/
theorem saved_settings_are_loaded (s : Settings) (hsuffix : s.maxSuffix < 2 ^ 32) (t : FileTree)
    (path : String) :
    (s.interval ≤ 2 ^ 63 - 1 → t.Writable path →
      ∃ t' root name, outcome (s.save path) t = (.ok (), t') ∧
        outcome (load path) t' = (.ok { s with root }, t') ∧
        Path.parent path = some root ∧ Path.fileName path = some name ∧
        leadsTo t.working path = leadsTo t.working root ++ [name]) ∧
    (2 ^ 63 - 1 < s.interval → outcome (s.save path) t = (.error .unwritable, t)) := by
  constructor
  · intro hinterval hwritable
    obtain ⟨text, hwritten, htext⟩ := toToml_of_lt hsuffix (by omega : s.interval < 2 ^ 63)
    obtain ⟨t', hwrite, hread⟩ := hwritable.exists_write text.toUTF8
    obtain ⟨root, name, hroot, hname, hleads⟩ := hwritable.exists_parent
    refine ⟨t', root, name, ?_, ?_, hroot, hname, hleads⟩
    · rw [outcome_save, htext]
      dsimp only
      rw [hwrite]
    · rw [outcome_load hread (ofToml_toToml hsuffix (by omega) hwritten), hroot]
      rfl
  · intro hinterval
    rw [outcome_save, toToml_of_le hsuffix (by omega)]

/-- Settings whose texts cannot stand between plain marks, and whose numbers are as large as they
can be. -/
def marked : Settings where
  cataloguePath := some "the \"new\"\ncatalogue.toml"
  legacyPrefixes := ["'", "\"'\\", "\t\r", ""]
  maxSuffix := 2 ^ 32 - 1
  interval := 2 ^ 63 - 1

/-- A tree with one directory. -/
def etc : FileTree := ⟨[(["etc"], .directory)], []⟩

theorem marked_settings_are_loaded :
    (∃ t', outcome (marked.save "etc/settings.toml") etc = (.ok (), t') ∧
      outcome (load "etc/settings.toml") t' = (.ok { marked with root := "etc" }, t')) ∧
    outcome ({ marked with interval := 2 ^ 63 }.save "etc/settings.toml") etc
      = (.error .unwritable, etc) := by
  have hwritable : etc.Writable "etc/settings.toml" := ⟨["etc"], "settings.toml", rfl, rfl⟩
  have hparent : Path.parent "etc/settings.toml" = some "etc" := rfl
  constructor
  · obtain ⟨t', root, name, hsave, hload, hroot, -⟩ :=
      (saved_settings_are_loaded marked (by decide) etc "etc/settings.toml").1 (by decide) hwritable
    obtain rfl : root = "etc" := Option.some.inj (hroot.symm.trans hparent)
    exact ⟨t', hsave, hload⟩
  · exact (saved_settings_are_loaded _ (by decide) etc "etc/settings.toml").2 (by decide)

end Settings
end Deprecation
