/-
# The pattern of an ASCII token searches like a scanner

Among ASCII characters, the edges next to which word boundaries are demanded are just the word
characters.  So a boundary asks no more than that no word goes on beyond the end of a text, and the
matches of a pattern are what a scanner finds that looks for the texts themselves, from left to
right.

Only a function reference has two texts.  They never stand at one place, since one begins with a
dot and the other with a name that has none, so it does not matter which is looked for first.
-/
import Mathlib
import Deprecation.Proofs.Regex.Scan
import Deprecation.Proofs.Text.Trim
import Deprecation.Proofs.TokenPattern.Occurrence

namespace Deprecation
namespace TokenPattern

open Regex Regex.Search Text

/-! ## The scanner -/

/-- Whether a text stands at the front of `rest`, behind the character `before`, so that no word
goes on beyond either of its ends. -/
def admissible (before : Option Char) (rest text : List Char) : Bool :=
  text.isPrefixOf rest
    && !(Look.wordAt true text.head? && Look.wordAt true before)
    && !(Look.wordAt true text.getLast? && Look.wordAt true (rest.drop text.length).head?)

/-- The length of an admissible text at a place, if there is one. -/
def occurrence (texts : List (List Char)) (before : Option Char) (rest : List Char) : Option Nat :=
  (texts.find? (admissible before rest)).map List.length

variable {before after : Option Char} {rest text token : List Char}

/-- Where an edge is a word character, a boundary asks that no word goes on. -/
lemma parted_iff {c : Option Char} (hc : ∀ d, c = some d → isEdge d = isWord d) (b : Option Char) :
    (HasEdge c → Parted b c) ↔ (!(Look.wordAt true c && Look.wordAt true b)) = true := by
  cases c with
  | none => simp [HasEdge, Look.wordAt]
  | some d =>
    have hedge : HasEdge (some d) ↔ isWord d = true := by
      rw [HasEdge, Option.map_some, Option.getD_some, hc d rfl]
    have hword : Look.wordAt true (some d) = isWord d := rfl
    rw [hedge, Parted, hword]
    cases isWord d with
    | false => simp
    | true => simp

lemma admissible_iff (h : ∀ c ∈ text, isEdge c = isWord c) :
    admissible before rest text = true ↔
      ∃ after, rest = text ++ after ∧ Stands text before after.head? := by
  have hleft := parted_iff (c := text.head?) (fun d hd => h d (List.mem_of_head? hd))
  have hright := parted_iff (c := text.getLast?) (fun d hd => h d (List.mem_of_getLast? hd))
  rw [admissible, Bool.and_eq_true, Bool.and_eq_true, List.isPrefixOf_iff_prefix, ← hleft, ← hright]
  constructor
  · rintro ⟨⟨⟨after, rfl⟩, hbefore⟩, hafter⟩
    rw [List.drop_left] at hafter
    exact ⟨after, rfl, hbefore, fun hedge => (hafter hedge).symm⟩
  · rintro ⟨after, rfl, hbefore, hafter⟩
    rw [List.drop_left]
    exact ⟨⟨⟨after, rfl⟩, hbefore⟩, fun hedge => (hafter hedge).symm⟩

/-! ## The texts of a token -/

lemma mem_of_mem_lastSegment {c : Char} (h : c ∈ lastSegment token) : c ∈ token ∧ c ≠ '.' := by
  have hmem : c ∈ token.reverse.takeWhile (· ≠ '.') := List.mem_reverse.mp (mem_of_mem_trim h)
  refine ⟨List.mem_reverse.mp (List.takeWhile_subset _ hmem), ?_⟩
  simpa using List.mem_takeWhile_imp hmem

lemma isEdge_eq_isWord {c : Char} (h : c.toNat < 128) : isEdge c = isWord c :=
  (isWord_eq_isAlphanumeric_or h).symm

/-- What is searched for is made of characters of the token, a dot and a parenthesis. -/
lemma ascii_of_mem_searched (hascii : ∀ c ∈ token, c.toNat < 128) {shape : Shape}
    (h : text ∈ searched shape token) : ∀ c ∈ text, c.toNat < 128 := by
  have hsegment {s : List Char} (hs : ∀ c ∈ s, c.toNat < 128) : ∀ c ∈ lastSegment s, c.toNat < 128 :=
    fun c hc => hs c (mem_of_mem_lastSegment hc).1
  have hname : ∀ c ∈ lastSegment (token.takeWhile (· ≠ '(')), c.toNat < 128 :=
    hsegment fun c hc => hascii c (List.takeWhile_subset _ hc)
  cases shape with
  | legacyType | literal => rwa [List.mem_singleton.mp h]
  | propertyAccess =>
    rw [List.mem_singleton.mp h]
    exact List.forall_mem_cons.mpr ⟨by decide, hsegment hascii⟩
  | functionReference =>
    rcases List.mem_cons.mp h with rfl | h
    · exact List.forall_mem_cons.mpr ⟨by decide, hname⟩
    · rw [List.mem_singleton.mp h]
      exact List.forall_mem_append.mpr ⟨hname, by simp⟩

/-- At most one of the texts stands at a place. -/
lemma eq_of_append_eq {shape : Shape} {text' after after' : List Char}
    (h : text ∈ searched shape token) (h' : text' ∈ searched shape token)
    (heq : text ++ after = text' ++ after') : text = text' := by
  cases shape with
  | legacyType | literal | propertyAccess =>
    rw [List.mem_singleton.mp h, List.mem_singleton.mp h']
  | functionReference =>
    -- one text begins with a dot, the other with a character of the last segment
    have hne {after after' : List Char} :
        '.' :: lastSegment (token.takeWhile (· ≠ '(')) ++ after ≠
          lastSegment (token.takeWhile (· ≠ '(')) ++ ['('] ++ after' := by
      intro heq
      cases hname : lastSegment (token.takeWhile (· ≠ '(')) with
      | nil =>
        rw [hname] at heq
        simp at heq
      | cons c s =>
        have hc : c ∈ lastSegment (token.takeWhile (· ≠ '(')) := by
          rw [hname]
          exact List.mem_cons_self
        rw [hname] at heq
        exact (mem_of_mem_lastSegment hc).2 (List.cons.inj heq).1.symm
    rcases List.mem_cons.mp h with rfl | h
    · rcases List.mem_cons.mp h' with rfl | h'
      · rfl
      · rw [List.mem_singleton.mp h'] at heq
        exact absurd heq hne
    · rcases List.mem_cons.mp h' with rfl | h'
      · rw [List.mem_singleton.mp h] at heq
        exact absurd heq.symm hne
      · rw [List.mem_singleton.mp h, List.mem_singleton.mp h']

/-! ## The result -/

section Result

variable {prefixes : List String} {token : String} {r : Regex} (hne : token ≠ "")
  (htrim : trimmed token = token) (hascii : ∀ c ∈ token.toList, c.toNat < 128)
  (hr : Regex.compile (pattern prefixes token) = some r)
include hne htrim hascii hr

lemma accepts_iff_admissible {n : Nat} :
    Accepts r.program.code before rest r.program.entry n ↔
      ∃ t ∈ searched (shape prefixes token) token.toList, n = t.length ∧
        admissible before rest t = true := by
  have htrimmed : trim token.toList = token.toList := by rw [← toList_trimmed, htrim]
  have hnil : trim token.toList ≠ [] := by
    rw [htrimmed]
    simpa using hne
  rw [accepts_pattern_iff hnil hr, htrimmed]
  refine exists_congr fun t => and_congr_right fun ht => and_congr_right fun _ => ?_
  rw [admissible_iff fun c hc => isEdge_eq_isWord (ascii_of_mem_searched hascii ht c hc)]

/-- At each place the pattern matches the admissible text, if there is one. -/
lemma matchesOnly_pattern : MatchesOnly r.program
    (occurrence (searched (shape prefixes token) token.toList)) where
  accepts_iff before rest n := by
    have hword : ∀ t ∈ searched (shape prefixes token) token.toList,
        ∀ c ∈ t, isEdge c = isWord c :=
      fun t ht c hc => isEdge_eq_isWord (ascii_of_mem_searched hascii ht c hc)
    rw [accepts_iff_admissible hne htrim hascii hr, occurrence, Option.map_eq_some_iff]
    constructor
    · rintro ⟨t, ht, rfl, hadm⟩
      cases hfind : (searched (shape prefixes token) token.toList).find? (admissible before rest) with
      | none => exact absurd hadm (List.find?_eq_none.mp hfind t ht)
      | some t' =>
        have ht' := List.mem_of_find?_eq_some hfind
        obtain ⟨after, rfl, -⟩ := (admissible_iff (hword t ht)).mp hadm
        obtain ⟨after', heq, -⟩ := (admissible_iff (hword t' ht')).mp (List.find?_some hfind)
        exact ⟨t', rfl, by rw [eq_of_append_eq ht ht' heq]⟩
    · rintro ⟨t, hfind, rfl⟩
      exact ⟨t, List.mem_of_find?_eq_some hfind, rfl, List.find?_some hfind⟩
  pos before rest hzero := by
    have hnil : trim token.toList ≠ [] := by
      rw [← toList_trimmed, htrim]
      simpa using hne
    obtain ⟨t, hfind, hlength⟩ := Option.map_eq_some_iff.mp hzero
    have ht := List.mem_of_find?_eq_some hfind
    rw [← htrim, toList_trimmed, htrim, shape] at ht
    exact ne_nil_of_mem_searched hnil ht (List.length_eq_zero_iff.mp hlength)

/-- **The matches of an ASCII token's pattern are what a scanner finds.**  The scanner looks for the
texts that belong to the shape of the token, takes the leftmost admissible occurrence, and goes on
at its end. -/
theorem spans_eq_scan (text : List Char) : r.spans text =
    scan (occurrence (searched (shape prefixes token) token.toList)) none 0 text :=
  (matchesOnly_pattern hne htrim hascii hr).findAll_eq_scan none 0 true text

end Result

/-- Accesses and calls are what is found of a function reference. -/
theorem sampleFunction_is_scanned_for :
    ∃ r, Regex.compile (pattern [] "A.f(_:)") = some r ∧
      ∀ text, r.spans text = scan (occurrence [".f".toList, "f(".toList]) none 0 text := by
  have hfits : (Regex.compile (pattern [] "A.f(_:)")).isSome = true :=
    (compile_pattern_isSome_iff [] "A.f(_:)").mpr (by cbv)
  obtain ⟨r, hr⟩ := Option.isSome_iff_exists.mp hfits
  refine ⟨r, hr, fun text => ?_⟩
  have hsearched : searched (shape [] "A.f(_:)") "A.f(_:)".toList = [".f".toList, "f(".toList] := by
    decide +kernel
  rw [← hsearched]
  exact spans_eq_scan (by decide) (by decide) (by simp) hr text

end TokenPattern
end Deprecation
