/-
# Whether the pattern of a token finds the token

A token that is written as the release notes spell it should be found by its own pattern.  The texts
that are searched for do stand in the token: the token itself, the access to its last segment, or
the call of its function.  What may fail is a word boundary.  It is demanded at each end that has
a letter, a number or an underscore; and some numbers, such as a raised two, are no word
characters, so that no boundary separates them from the end of the text.
-/
import Mathlib
import Deprecation.Proofs.Synthesis
import Deprecation.Proofs.TokenPattern.Occurrence

namespace Deprecation
namespace TokenPattern

open Regex Regex.Search Text

variable {text token : List Char} {prefixes : List String}

/-- A pattern has matches in a text where something that it searches for stands. -/
theorem spans_pattern_ne_nil_iff {token : String} {r : Regex} (hne : trim token.toList ≠ [])
    (hr : Regex.compile (pattern prefixes token) = some r) : r.spans text ≠ [] ↔
      ∃ t ∈ searched (shape prefixes token) (trim token.toList),
        ∃ before after, text = before ++ t ++ after ∧ Stands t before.getLast? after.head? := by
  have hlast (before : List Char) : lastOr none before = before.getLast? := by
    rw [lastOr, Option.orElse_eq_orElse, Option.orElse_eq_or, Option.or_none]
  rw [spans_ne_nil_iff]
  constructor
  · rintro ⟨k, n, hfound⟩
    obtain ⟨-, haccepts⟩ := found_iff.mp hfound
    obtain ⟨t, ht, -, after, hafter, hstands⟩ := (accepts_pattern_iff hne hr).mp haccepts
    refine ⟨t, ht, text.take k, after, ?_, hlast _ ▸ hstands⟩
    rw [List.append_assoc, ← hafter, List.take_append_drop]
  · rintro ⟨t, ht, before, after, rfl, hstands⟩
    refine ⟨before.length, t.length, found_iff.mpr ⟨by simp, (accepts_pattern_iff hne hr).mpr ?_⟩⟩
    rw [List.append_assoc, List.take_left, List.drop_left, hlast]
    exact ⟨t, ht, rfl, after, rfl, hstands⟩

/-! ## Where the texts stand in the token -/

/-- A token without blanks ends with its last segment, and a dot stands before it if there is one
at all. -/
lemma exists_append_lastSegment (hblank : ∀ c ∈ token, isBlank c = false) :
    ∃ before, token = before ++ lastSegment token ∧ (before = [] ∨ before.getLast? = some '.') ∧
      ('.' ∈ token → before ≠ []) := by
  have hsplit : token = (token.reverse.dropWhile (· ≠ '.')).reverse ++
      (token.reverse.takeWhile (· ≠ '.')).reverse := by
    rw [← List.reverse_append, List.takeWhile_append_dropWhile, List.reverse_reverse]
  have hsegment : lastSegment token = (token.reverse.takeWhile (· ≠ '.')).reverse := by
    refine trim_eq_self fun c hc => hblank c ?_
    exact List.mem_reverse.mp (List.takeWhile_subset _ (List.mem_reverse.mp hc))
  refine ⟨(token.reverse.dropWhile (· ≠ '.')).reverse, by rw [hsegment, ← hsplit], ?_, ?_⟩
  · have hhead := List.head?_dropWhile_not (· ≠ '.') token.reverse
    cases hdrop : token.reverse.dropWhile (· ≠ '.') with
    | nil => exact Or.inl rfl
    | cons c s =>
      rw [hdrop] at hhead
      have hc : c = '.' := by simpa using hhead
      exact Or.inr (by rw [List.getLast?_reverse, hc]; rfl)
  · intro hdot hnil
    rw [List.reverse_eq_nil_iff, List.dropWhile_eq_nil_iff] at hnil
    simpa using hnil '.' (List.mem_reverse.mpr hdot)

lemma exists_functionName (h : (ofTrimmed prefixes token).1 = .functionReference) :
    ∃ name, functionName token = some name := by
  rw [ofTrimmed] at h
  split at h
  · cases h
  cases hname : functionName token with
  | some name => exact ⟨name, rfl⟩
  | none =>
    rw [hname] at h
    dsimp only at h
    split at h
    · cases h
    · cases h

lemma exists_propertyName (h : (ofTrimmed prefixes token).1 = .propertyAccess) :
    ∃ name, propertyName token = some name := by
  rw [ofTrimmed] at h
  split at h
  · cases h
  cases hfunction : functionName token with
  | some name =>
    rw [hfunction] at h
    cases h
  | none =>
    cases hname : propertyName token with
    | some name => exact ⟨name, rfl⟩
    | none =>
      rw [hfunction, hname] at h
      cases h

/-- Between a word character and no character, or one that is none, there is a boundary. -/
lemma parted_of_isWord {c : Option Char} (hc : ∀ d, c = some d → isAlphanumeric d = true →
    isWord d = true) (hedge : HasEdge c) {b : Option Char} (hb : Look.wordAt true b = false) :
    Parted b c ∧ Parted c b := by
  cases c with
  | none => cases hedge
  | some d =>
    have hunderscore : isWord '_' = true := by decide
    have hd : isEdge d = true := hedge
    rw [isEdge, Bool.or_eq_true, beq_iff_eq] at hd
    have hword : Look.wordAt true (some d) = true := by
      rcases hd with hd | rfl
      · exact hc d rfl hd
      · exact hunderscore
    rw [Parted, Parted, hword, hb]
    simp

/-- Where all letters and numbers are word characters, a token has what is searched for. -/
lemma exists_stands (hblank : ∀ c ∈ token, isBlank c = false)
    (hword : ∀ c ∈ token, isAlphanumeric c = true → isWord c = true) :
    ∃ t ∈ searched (ofTrimmed prefixes token).1 token, ∃ before after,
      token = before ++ t ++ after ∧ Stands t before.getLast? after.head? := by
  have hdot : Look.wordAt true (some '.') = false := by decide
  have hself : ∃ before after, token = before ++ token ++ after ∧
      Stands token before.getLast? after.head? := by
    refine ⟨[], [], by rw [List.nil_append, List.append_nil], fun hedge => ?_, fun hedge => ?_⟩
    · exact (parted_of_isWord (fun d hd => hword d (List.mem_of_head? hd)) hedge rfl).1
    · exact (parted_of_isWord (fun d hd => hword d (List.mem_of_getLast? hd)) hedge rfl).2
  cases hshape : (ofTrimmed prefixes token).1 with
  | legacyType | literal => exact ⟨token, List.mem_singleton_self token, hself⟩
  | propertyAccess =>
    obtain ⟨name, hproperty⟩ := exists_propertyName hshape
    obtain ⟨rfl, hne, hmem⟩ := propertyName_eq_some hproperty
    obtain ⟨before, htoken, hbefore, hdots⟩ := exists_append_lastSegment hblank
    obtain ⟨before, rfl⟩ := List.getLast?_eq_some_iff.mp (hbefore.resolve_left (hdots hmem))
    refine ⟨'.' :: lastSegment token, List.mem_singleton_self _, before, [], ?_, ?_, ?_⟩
    · rw [List.append_nil]
      rw [List.append_assoc] at htoken
      exact htoken
    · exact fun hedge => absurd hedge not_hasEdge_dot
    · intro hedge
      rw [List.getLast?_cons_of_ne_nil hne] at hedge ⊢
      refine (parted_of_isWord (fun d hd => hword d ?_) hedge rfl).2
      rw [htoken]
      exact List.mem_append_right _ (List.mem_of_getLast? hd)
  | functionReference =>
    obtain ⟨name, hfunction⟩ := exists_functionName hshape
    obtain ⟨rfl, hne, hmem⟩ := functionName_eq_some hfunction
    obtain ⟨head, tail, rfl, hhead⟩ := List.eq_append_cons_of_mem hmem
    have htake : (head ++ '(' :: tail).takeWhile (· ≠ '(') = head := by
      have hall : ∀ c ∈ head, decide (c ≠ '(') = true :=
        fun c hc => decide_eq_true fun heq => hhead (heq ▸ hc)
      rw [List.takeWhile_append_of_pos hall]
      simp
    rw [htake] at hne
    obtain ⟨before, hbefore, hends, -⟩ :=
      exists_append_lastSegment fun c hc => hblank c (List.mem_append_left _ hc)
    have hneighbour : Look.wordAt true before.getLast? = false := by
      rcases hends with rfl | hends
      · rfl
      · rw [hends, hdot]
    refine ⟨lastSegment head ++ ['('], ?_, before, tail, ?_, fun hedge => ?_, fun hedge => ?_⟩
    · rw [searched, htake]
      exact List.mem_cons_of_mem _ (List.mem_singleton_self _)
    · rw [← List.append_assoc, ← hbefore, List.append_assoc]
      rfl
    · rw [List.head?_append_of_ne_nil _ hne] at hedge ⊢
      refine (parted_of_isWord (fun d hd => hword d (List.mem_append_left _ ?_)) hedge hneighbour).1
      rw [hbefore]
      exact List.mem_append_right _ (List.mem_of_head? hd)
    · rw [List.getLast?_concat] at hedge
      exact absurd hedge not_hasEdge_paren

/-! ## The result -/

/-- **When a token is found by its own pattern.**  A token without blanks has a match of its pattern
just when a text that the pattern searches for stands in it between the right neighbours; and this
is so whenever the letters and numbers of the token are word characters. -/
theorem token_finds_itself_iff {token : String} {r : Regex} (hne : token ≠ "")
    (hblank : ∀ c ∈ token.toList, isBlank c = false)
    (hr : Regex.compile (pattern prefixes token) = some r) :
    (r.spans token.toList ≠ [] ↔ ∃ t ∈ searched (shape prefixes token) token.toList,
      ∃ before after, token.toList = before ++ t ++ after ∧
        Stands t before.getLast? after.head?) ∧
    ((∀ c ∈ token.toList, isAlphanumeric c = true → isWord c = true) →
      r.spans token.toList ≠ []) := by
  have htrim : trim token.toList = token.toList := trim_eq_self hblank
  have hnil : trim token.toList ≠ [] := by
    rw [htrim]
    simpa using hne
  have hspans : r.spans token.toList ≠ [] ↔ _ := spans_pattern_ne_nil_iff hnil hr
  rw [htrim] at hspans
  refine ⟨hspans, fun hword => hspans.mpr ?_⟩
  rw [shape, htrim]
  exact exists_stands hblank hword

/-- A function is found in the text that refers to it. -/
theorem sampleFunction_finds_itself :
    ∃ r, Regex.compile (pattern [] "A.f(_:)") = some r ∧ r.spans "A.f(_:)".toList ≠ [] := by
  have hfits : (Regex.compile (pattern [] "A.f(_:)")).isSome = true :=
    (compile_pattern_isSome_iff [] "A.f(_:)").mpr (by cbv)
  obtain ⟨r, hr⟩ := Option.isSome_iff_exists.mp hfits
  have hblank : ("A.f(_:)".toList.all fun c => !isBlank c) = true := by decide
  have hword : ("A.f(_:)".toList.all fun c => !isAlphanumeric c || isWord c) = true := by decide
  refine ⟨r, hr, (token_finds_itself_iff (by decide) (fun c hc => ?_) hr).2 fun c hc hletter => ?_⟩
  · simpa using List.all_eq_true.mp hblank c hc
  · simpa [hletter] using List.all_eq_true.mp hword c hc

/-- The removal of a token that ends with a raised two, which is a number and no word character. -/
def raisedRecord : Record where
  token := "x²"
  replacement := none
  category := .removed
  release := "1.0"

set_option maxRecDepth 2000 in
/-- Neither end of a text lets a raised two stand there. -/
lemma not_stands_raised : ¬Stands "x²".toList none none := by
  intro h
  have hedge : HasEdge "x²".toList.getLast? := by
    rw [HasEdge]
    cbv
  have hword : Look.wordAt true "x²".toList.getLast? = false := by cbv
  exact h.right hedge (by rw [hword]; rfl)

/-- The removal becomes a rule, and this rule does not find the token. -/
theorem raisedToken_is_not_found : ∃ rule g r,
    (Synthesizer.mk [] 9).synthesize (Registry.empty 9) .last raisedRecord = .ok (rule, g) ∧
      Regex.compile rule.pattern = some r ∧ r.spans "x²".toList = [] := by
  have hfits : (Regex.compile (pattern [] "x²")).isSome = true :=
    (compile_pattern_isSome_iff [] "x²").mpr (by cbv)
  obtain ⟨r, hr⟩ := Option.isSome_iff_exists.mp hfits
  have htoken : trimmed raisedRecord.token = "x²" := by decide
  have hoffer : (Synthesizer.mk [] 9).offer (Registry.empty 9) raisedRecord = .ok "auto-x-1.0" := by
    refine Synthesizer.offer_eq_ok_iff.mpr ⟨?_, by decide +kernel⟩
    have hrelease : (trimmed raisedRecord.release).isEmpty = false := by decide
    have hempty : ("x²").isEmpty = false := by decide
    have hslug : (RuleId.slug "x²").isEmpty = false := by decide
    rw [Synthesizer.fault, Synthesizer.patternOf, htoken, hr, hempty, hrelease, hslug]
    rfl
  refine ⟨_, _, r, Synthesizer.synthesize_eq_ok_iff.mpr ⟨_, hoffer, rfl, rfl⟩, ?_, ?_⟩
  · rw [Synthesizer.draft, Synthesizer.patternOf, htoken, hr]
  · have htrim : trim "x²".toList = "x²".toList := by decide
    by_contra hspans
    obtain ⟨text, htext, before, after, heq, hstands⟩ :=
      (spans_pattern_ne_nil_iff (by rw [htrim]; decide) hr).mp hspans
    have hshape : shape [] "x²" = .literal := by decide +kernel
    rw [hshape, htrim] at htext
    rw [List.mem_singleton.mp htext] at heq hstands
    have hlength := congrArg List.length heq
    simp only [List.length_append] at hlength
    obtain rfl : before = [] := List.length_eq_zero_iff.mp (by omega)
    obtain rfl : after = [] := List.length_eq_zero_iff.mp (by omega)
    exact not_stands_raised hstands

end TokenPattern
end Deprecation
