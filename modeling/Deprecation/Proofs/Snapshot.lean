/-
# Snapshots survive being written

The snapshot of any contents is read from its own bytes, and it is accepted: its version is the
current one, and the checksum that it records is the one that is computed of what was read.  What
is read are the contents with their instants as they are shown.  These are the contents
themselves just when their instants are on the clock, as in all that is read.
-/
import Mathlib
import Deprecation.Proofs.Rule.Codec
import Deprecation.Snapshot

namespace Deprecation

open Datum

namespace Text

/-- The bytes of a text are those of no other text. -/
lemma fromUTF8?_toUTF8 (s : String) : String.fromUTF8? s.toUTF8 = some s := by
  rw [String.fromUTF8?, String.toUTF8_eq_toByteArray, dif_pos s.isValidUTF8]
  rfl

/-- The bytes of a text are read as its characters. -/
lemma charsOfBytes_toUTF8 (s : String) : charsOfBytes s.toUTF8 = s.toList.map some := by
  rw [charsOfBytes, fromUTF8?_toUTF8]

end Text

namespace Contents

lemma given_toDatum (c : Contents) :
    c.toDatum.given ["static_rules", "dynamic_rules", "entries"]
      = some ⟨false, [some (.list (c.statics.map StaticRule.toDatum)),
          some (.list (c.mined.map MinedRule.toDatum)),
          some (.list (c.entries.map Entry.toDatum))]⟩ := by
  rw [toDatum, given_record]
  · rfl
  · exact of_decide_eq_true rfl

/-- The instants of the contents are on the clock. -/
structure OnClock (c : Contents) : Prop where
  mined : ∀ r ∈ c.mined, r.madeAt.OnClock
  entries : ∀ e ∈ c.entries, e.verifiedAt.OnClock

/-- Contents survive if their instants are on the clock. -/
theorem survives {c : Contents} (h : c.OnClock) : Survives toDatum ofDatum c := by
  have hmined := Survives.list fun r hr => MinedRule.survives (h.mined r hr)
  have hentries := Survives.list fun e he => Entry.survives (h.entries e he) .json
  constructor
  · rw [toDatum, isPlain_record]
    simp only [List.all_cons, List.all_nil, (StaticRule.faithful .json).list.plain, hmined.plain,
      hentries.plain, Bool.and_self]
  · rw [ofDatum, given_toDatum, Option.bind_eq_bind, Option.bind_some,
      required_bind ((StaticRule.faithful .json).list.decoded c.statics) rfl,
      required_bind hmined.decoded rfl, required_bind hentries.decoded rfl]
    rfl

/-- The contents with their instants as they are shown. -/
def asShown (c : Contents) : Contents :=
  ⟨c.statics, c.mined.map MinedRule.asShown, c.entries.map Entry.asShown⟩

lemma map_eq_self_iff {α : Type} {f : α → α} {l : List α} : l.map f = l ↔ ∀ a ∈ l, f a = a := by
  have hinj := List.map_inj_left (l := l) (f := f) (g := id)
  rwa [List.map_id] at hinj

lemma onClock_asShown (c : Contents) : c.asShown.OnClock where
  mined r hr := by
    obtain ⟨r', -, rfl⟩ := List.mem_map.mp hr
    exact r'.madeAt.onClock_asShown
  entries e he := by
    obtain ⟨e', -, rfl⟩ := List.mem_map.mp he
    exact e'.verifiedAt.onClock_asShown

/-- The contents on the clock are those that are shown as themselves. -/
theorem asShown_eq_self_iff {c : Contents} : c.asShown = c ↔ c.OnClock := by
  constructor
  · intro h
    constructor
    · intro r hr
      exact MinedRule.asShown_eq_self_iff.mp (map_eq_self_iff.mp (congrArg mined h) r hr)
    · intro e he
      exact Entry.asShown_eq_self_iff.mp (map_eq_self_iff.mp (congrArg entries h) e he)
  · intro h
    rw [asShown, map_eq_self_iff.mpr fun r hr => MinedRule.asShown_eq_self_iff.mpr (h.mined r hr),
      map_eq_self_iff.mpr fun e he => Entry.asShown_eq_self_iff.mpr (h.entries e he)]

lemma OnClock.asShown_eq_self {c : Contents} (h : c.OnClock) : c.asShown = c :=
  asShown_eq_self_iff.mpr h

lemma toDatum_asShown (c : Contents) : c.asShown.toDatum = c.toDatum := by
  have hmined : (c.mined.map MinedRule.asShown).map MinedRule.toDatum
      = c.mined.map MinedRule.toDatum := by
    rw [List.map_map]
    exact List.map_congr_left fun r _ => r.toDatum_asShown
  have hentries : (c.entries.map Entry.asShown).map Entry.toDatum
      = c.entries.map Entry.toDatum := by
    rw [List.map_map]
    exact List.map_congr_left fun e _ => e.toDatum_asShown
  rw [toDatum, asShown, hmined, hentries, toDatum]

@[simp] lemma checksum_asShown (c : Contents) : c.asShown.checksum = c.checksum := by
  rw [checksum, canonical, toDatum_asShown, ← canonical, ← checksum]

/-- What is decoded are the contents with their instants as they are shown. -/
theorem ofDatum_toDatum (c : Contents) : ofDatum c.toDatum = some c.asShown := by
  rw [← toDatum_asShown]
  exact (survives c.onClock_asShown).decoded

lemma isPlain_toDatum (c : Contents) : c.toDatum.isPlain = true := by
  rw [← toDatum_asShown]
  exact (survives c.onClock_asShown).plain

lemma onClock_of_ofDatum {d : Datum} {c : Contents} (h : ofDatum d = some c) : c.OnClock := by
  rw [ofDatum] at h
  simp only [Option.bind_eq_bind, Option.bind_eq_some_iff] at h
  obtain ⟨g, -, statics, -, mined, hmined, entries, hentries, h⟩ := h
  cases h
  constructor
  · intro r hr
    obtain ⟨d', hd'⟩ := exists_of_requiredList hmined r hr
    exact MinedRule.onClock_of_ofDatum hd'
  · intro e he
    obtain ⟨d', hd'⟩ := exists_of_requiredList hentries e he
    exact Entry.onClock_of_ofDatum hd'

end Contents

namespace Snapshot

lemma given_toDatum (s : Snapshot) :
    s.toDatum.given ["format_version", "checksum", "state"]
      = some ⟨false, [some (.nat s.formatVersion), some (str s.checksum),
          some s.contents.toDatum]⟩ := by
  rw [toDatum, given_record]
  · rfl
  · exact of_decide_eq_true rfl

/-- A snapshot is read from its own bytes, with the instants of its contents as they are shown. -/
theorem read_encode {s : Snapshot} (hversion : s.formatVersion < 2 ^ 32) :
    read s.encode = some { s with contents := s.contents.asShown } := by
  -- the version is read as a number of 32 bits
  have hnat : Survives Datum.nat (asNatBelow (Nat.pow 2 32)) s.formatVersion :=
    .nat hversion (by decide)
  have hplain : s.toDatum.isPlain = true := by
    rw [toDatum, isPlain_record]
    simp only [List.all_cons, List.all_nil, hnat.plain, isPlain_str, Contents.isPlain_toDatum,
      Bool.and_self]
  have hdecoded : ofDatum s.toDatum = some { s with contents := s.contents.asShown } := by
    rw [ofDatum, given_toDatum, Option.bind_eq_bind, Option.bind_some,
      required_bind hnat.decoded rfl, required_bind (Faithful.str.decoded s.checksum) rfl,
      required_bind s.contents.ofDatum_toDatum rfl]
    rfl
  rw [read, encode, text, Text.charsOfBytes_toUTF8, Json.indented, Json.read_write _ hplain,
    Option.bind_eq_bind, Option.bind_some, hdecoded]

/-- **Snapshots survive being written**, with the instants of their contents as they are shown. -/
theorem decode_encode (c : Contents) :
    decode (ofContents c).encode = .ok (ofContents c.asShown) := by
  have hversion : (ofContents c).formatVersion < 2 ^ 32 := by
    show currentVersion < 2 ^ 32
    decide
  rw [decode, read_encode hversion]
  simp only [verify, ofContents, Contents.checksum_asShown, ne_eq, not_true_eq_false, if_false]

lemma encode_asShown (c : Contents) : (ofContents c.asShown).encode = (ofContents c).encode := by
  simp only [encode, text, toDatum, ofContents, Contents.checksum_asShown,
    Contents.toDatum_asShown]

lemma decode_encode_of_onClock {c : Contents} (h : c.OnClock) :
    decode (ofContents c).encode = .ok (ofContents c) := by
  rw [decode_encode, h.asShown_eq_self]

/-- The instants of what is decoded are on the clock. -/
lemma onClock_of_decode {bytes : ByteArray} {s : Snapshot} (h : decode bytes = .ok s) :
    s.contents.OnClock := by
  rw [decode] at h
  split at h
  · cases h
  next s' hread =>
    obtain ⟨d, -, hs'⟩ := Option.bind_eq_some_iff.mp hread
    rw [ofDatum] at hs'
    simp only [Option.bind_eq_bind, Option.bind_eq_some_iff] at hs'
    obtain ⟨g, -, version, -, checksum, -, contents, hcontents, hs'⟩ := hs'
    obtain ⟨d', hd'⟩ := exists_of_required hcontents
    have heq : s = s' := by
      rw [verify] at h
      split at h
      · cases h
      split at h
      · cases h
      · exact (Except.ok.inj h).symm
    cases hs'
    rw [heq]
    exact Contents.onClock_of_ofDatum hd'

end Snapshot
end Deprecation
