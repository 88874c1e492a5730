/-
# What is written is read

The tokens of a layout are put together to the datum that was laid out, whatever lists and
tables it stands in.  With the scanner this gives that a plain datum is read from its own JSON
text, in either style.  So JSON texts of plain data can be told apart.
-/
import Mathlib
import Deprecation.Json.Reader
import Deprecation.Proofs.Json.Scan

namespace Deprecation.Json

open Scan (tokensOf tokensOf_append tokensOf_cons)

/-! ## Numbers -/

lemma numberOf_integer {n : Int} (hn : (Datum.int n).isPlain = true) :
    numberOf (integer n) = .int n := by
  simp only [Datum.isPlain, Bool.and_eq_true, decide_eq_true_eq] at hn
  have hdigits : (Nat.toDigits 10 n.natAbs).all Char.isDigit = true :=
    List.all_eq_true.mpr fun c hc => Nat.isDigit_of_mem_toDigits (by decide) (by decide) hc
  have hvalue : Nat.ofDigitChars 10 (Nat.toDigits 10 n.natAbs) 0 = n.natAbs :=
    Nat.ofDigitChars_toDigits (by decide) (by decide)
  have hlow : (Nat.pow 2 63 : Nat) = 2 ^ 63 := rfl
  have hhigh : (Nat.pow 2 64 : Nat) = 2 ^ 64 := rfl
  rw [integer]
  split
  · have hbounds : 0 < n.natAbs ∧ n.natAbs ≤ Nat.pow 2 63 := by omega
    simp only [numberOf, hdigits, hvalue, hbounds, and_self, if_true]
    congr 1
    omega
  · have hbound : n.natAbs < Nat.pow 2 64 := by omega
    unfold numberOf
    split
    · next digits hminus =>
      -- a minus sign is no digit
      rw [hminus] at hdigits
      cases hdigits
    · simp only [hdigits, hvalue, hbound, if_true]
      congr 1
      omega

/-! ## Layouts -/

/-- The first token of a value ends no list. -/
lemma step_firstItem_layout (style : Style) (depth : Nat) (lead : List Char) (d : Datum)
    (stack : List Frame) :
    (tokensOf (layout style depth lead d)).foldl State.step (.firstItem stack)
      = (tokensOf (layout style depth lead d)).foldl State.step (.value (.list [] :: stack)) := by
  have hfirst : ∃ t rest, tokensOf (layout style depth lead d) = t :: rest ∧ t ≠ .closeList := by
    cases d with
    | list items =>
      cases items with
      | nil => exact ⟨_, _, rfl, by simp⟩
      | cons d rest => exact ⟨.openList, _, by rw [layout]; rfl, by simp⟩
    | table fields =>
      cases fields with
      | nil => exact ⟨_, _, rfl, by simp⟩
      | cons f rest => exact ⟨.openTable, _, by rw [layout]; rfl, by simp⟩
    | _ => exact ⟨_, _, rfl, by simp⟩
  obtain ⟨t, rest, htokens, ht⟩ := hfirst
  have hstep : State.step (.firstItem stack) t = State.step (.value (.list [] :: stack)) t := by
    cases t with
    | closeList => exact absurd rfl ht
    | _ => rfl
  rw [htokens, List.foldl_cons, List.foldl_cons, hstep]

mutual

/-- The tokens of a layout deliver its datum. -/
theorem foldl_layout (style : Style) : ∀ d : Datum, d.isPlain = true → ∀ (depth : Nat)
    (lead : List Char) (stack : List Frame),
      (tokensOf (layout style depth lead d)).foldl State.step (.value stack)
        = .deliver d stack
  | .null, _, depth, lead, stack => rfl
  | .bool b, _, depth, lead, stack => rfl
  | .int n, hd, depth, lead, stack => by
    show State.deliver (numberOf (integer n)) stack = _
    rw [numberOf_integer hd]
  | .real spelling, hd, depth, lead, stack => by cases hd
  | .text s, _, depth, lead, stack => rfl
  | .list [], _, depth, lead, stack => rfl
  | .list (d :: rest), hd, depth, lead, stack => by
    obtain ⟨hd, hrest⟩ := Bool.and_eq_true_iff.mp hd
    have hitem := foldl_layout style d hd (depth + 1) (style.newLine (depth + 1))
      (.list [] :: stack)
    have hitems := foldl_layoutItems style rest hrest (depth + 1) [d] stack
    have hopen : State.step (.value stack) .openList = .firstItem stack := rfl
    rw [layout, tokensOf_append, tokensOf_append, tokensOf_cons, List.foldl_append,
      List.foldl_append, List.foldl_cons, hopen, step_firstItem_layout, hitem, State.deliver,
      hitems]
    simp [State.step]
  | .table [], _, depth, lead, stack => rfl
  | .table ((name, d) :: rest), hd, depth, lead, stack => by
    obtain ⟨hd, hrest⟩ := Bool.and_eq_true_iff.mp hd
    have hfield := foldl_layout style d hd (depth + 1) style.afterColon
      (.table [] name :: stack)
    have hfields := foldl_layoutFields style rest hrest (depth + 1) [(name, d)] stack
    have hopen : State.step (.value stack) .openTable = .firstField stack := rfl
    have hname : State.step (State.step (.firstField stack) (.text name)) .colon
        = .value (.table [] name :: stack) := rfl
    rw [layout, tokensOf_append, tokensOf_append,
      tokensOf_cons, tokensOf_cons, tokensOf_cons, List.foldl_append, List.foldl_append,
      List.foldl_cons, List.foldl_cons, List.foldl_cons, hopen, hname, hfield, State.deliver,
      hfields]
    simp [State.step]

theorem foldl_layoutItems (style : Style) : ∀ items : List Datum,
    Datum.arePlain items = true → ∀ (depth : Nat) (before : List Datum) (stack : List Frame),
      (tokensOf (layoutItems style depth items)).foldl State.step (.afterItem before stack)
        = .afterItem (items.reverse ++ before) stack
  | [], _, depth, before, stack => rfl
  | d :: rest, hitems, depth, before, stack => by
    obtain ⟨hd, hrest⟩ := Bool.and_eq_true_iff.mp hitems
    have hitem := foldl_layout style d hd depth (style.newLine depth) (.list before :: stack)
    have hitems := foldl_layoutItems style rest hrest depth (d :: before) stack
    have hcomma : State.step (.afterItem before stack) .comma
        = .value (.list before :: stack) := rfl
    rw [layoutItems, tokensOf_append, tokensOf_cons, List.foldl_append, List.foldl_cons, hcomma,
      hitem, State.deliver, hitems, List.reverse_cons, List.append_assoc]
    rfl

theorem foldl_layoutFields (style : Style) : ∀ fields : List (Option String × Datum),
    Datum.fieldsArePlain fields = true → ∀ (depth : Nat) (before : List (Option String × Datum))
      (stack : List Frame),
        (tokensOf (layoutFields style depth fields)).foldl State.step (.afterField before stack)
          = .afterField (fields.reverse ++ before) stack
  | [], _, depth, before, stack => rfl
  | (name, d) :: rest, hfields, depth, before, stack => by
    obtain ⟨hd, hrest⟩ := Bool.and_eq_true_iff.mp hfields
    have hfield := foldl_layout style d hd depth style.afterColon (.table before name :: stack)
    have hfields := foldl_layoutFields style rest hrest depth ((name, d) :: before) stack
    have hname : State.step (State.step (State.step (.afterField before stack) .comma)
        (.text name)) .colon = .value (.table before name :: stack) := rfl
    rw [layoutFields, tokensOf_append, tokensOf_cons, tokensOf_cons, tokensOf_cons,
      List.foldl_append, List.foldl_cons, List.foldl_cons, List.foldl_cons, hname, hfield,
      State.deliver, hfields, List.reverse_cons, List.append_assoc]
    rfl

end

/-- **What is written is read.** -/
theorem read_write (style : Style) {d : Datum} (hd : d.isPlain = true) :
    read ((write style d).toList.map some) = some d := by
  rw [read, tokens_write style hd]
  show (State.result _) = some d
  rw [foldl_layout style d hd]
  rfl

end Deprecation.Json
