/-
# Decimal integers

Reading machine integers from text, as the standard library's `from_str` does:
an optional sign, at least one digit, nothing else, and no overflow.
-/

import Mathlib.Algebra.Ring.Int.Defs
import Mathlib.Algebra.Ring.Nat
import Mathlib.Data.List.Induction
import Mathlib.Data.Nat.Digits.Defs
import Mathlib.Data.Nat.Notation

namespace Wardnet.Base

open List

def parseDigits (digits : List Char) : Option ℕ :=
  if digits ≠ [] ∧ digits.all Char.isDigit then
    some (digits.foldl (fun n c => 10 * n + (c.toNat - '0'.toNat)) 0)
  else
    none

/-- `i64::from_str`: an optional sign, then digits, within range. -/
def parseI64 (text : String) : Option Int :=
  let inRange (n : Int) : Option Int := if -2 ^ 63 ≤ n ∧ n < 2 ^ 63 then some n else none
  match text.toList with
  | '-' :: digits => (parseDigits digits).bind fun n => inRange (-n)
  | '+' :: digits => (parseDigits digits).bind fun n => inRange n
  | digits => (parseDigits digits).bind fun n => inRange n

/-- `u32::from_str`: an optional plus sign, then digits, within range. -/
def parseU32 (text : String) : Option ℕ :=
  let inRange (n : ℕ) : Option ℕ := if n < 2 ^ 32 then some n else none
  match text.toList with
  | '+' :: digits => (parseDigits digits).bind inRange
  | digits => (parseDigits digits).bind inRange

/-- `u16::from_str`. -/
def parseU16 (text : String) : Option ℕ := (parseU32 text).filter (· < 2 ^ 16)

/-- The number that decimal digits denote. -/
def decimal (digits : List Char) : ℕ :=
  Nat.ofDigits 10 (digits.reverse.map fun c => c.toNat - '0'.toNat)

theorem parseDigits_eq_some_iff {digits : List Char} {n : ℕ} : parseDigits digits = some n ↔
      digits ≠ [] ∧ (∀ c ∈ digits, c.isDigit = true) ∧ decimal digits = n := by
  have hfold : digits.foldl (fun n c => 10 * n + (c.toNat - '0'.toNat)) 0 = decimal digits := by
    induction digits using reverseRecOn with
    | nil => rfl
    | append_singleton digits c ih =>
      rw [foldl_append, ih, decimal, decimal, reverse_append, reverse_singleton, singleton_append,
        map_cons, Nat.ofDigits_cons, foldl_cons, foldl_nil, Nat.add_comm]
  rw [parseDigits, hfold]
  simp [and_assoc]

/-- Decimal text, with or without a sign, of a number in the range of `i64`. -/
structure IsI64 (text : String) (n : Int) : Prop where
  range : -2 ^ 63 ≤ n ∧ n < 2 ^ 63
  form : ∃ digits, digits ≠ [] ∧ (∀ c ∈ digits, c.isDigit = true) ∧
    ((text.toList = digits ∨ text.toList = '+' :: digits) ∧ n = decimal digits ∨
      text.toList = '-' :: digits ∧ n = -decimal digits)

theorem parseI64_eq_some_iff {text : String} {n : Int} :
    parseI64 text = some n ↔ IsI64 text n := by
  have hinRange : ∀ (digits : List Char) (f : ℕ → Int), ((parseDigits digits).bind fun m =>
      if -2 ^ 63 ≤ f m ∧ f m < 2 ^ 63 then some (f m) else none) = some n ↔
        (-2 ^ 63 ≤ n ∧ n < 2 ^ 63) ∧ digits ≠ [] ∧ (∀ c ∈ digits, c.isDigit = true) ∧
          n = f (decimal digits) := by
    intro digits f
    simp only [Option.bind_eq_some_iff, parseDigits_eq_some_iff, Option.ite_none_right_eq_some,
      Option.some.injEq]
    constructor
    · rintro ⟨_, ⟨hne, hdigits, rfl⟩, hrange, rfl⟩
      exact ⟨hrange, hne, hdigits, rfl⟩
    · rintro ⟨hrange, hne, hdigits, rfl⟩
      exact ⟨_, ⟨hne, hdigits, rfl⟩, hrange, rfl⟩
  unfold parseI64
  dsimp only
  split
  · rename_i digits htext
    rw [hinRange digits fun m => -(m : Int)]
    constructor
    · rintro ⟨hrange, hne, hdigits, hn⟩
      exact ⟨hrange, digits, hne, hdigits, .inr ⟨htext, hn⟩⟩
    · rintro ⟨hrange, digits', hne, hdigits, ⟨heq | heq, -⟩ | ⟨heq, hn⟩⟩ <;>
        cases htext.symm.trans heq
      · exact absurd (hdigits _ mem_cons_self) (by decide)
      · exact ⟨hrange, hne, hdigits, hn⟩
  · rename_i digits htext
    rw [hinRange digits fun m => (m : Int)]
    constructor
    · rintro ⟨hrange, hne, hdigits, hn⟩
      exact ⟨hrange, digits, hne, hdigits, .inl ⟨.inr htext, hn⟩⟩
    · rintro ⟨hrange, digits', hne, hdigits, ⟨heq | heq, hn⟩ | ⟨heq, -⟩⟩ <;>
        cases htext.symm.trans heq
      · exact absurd (hdigits _ mem_cons_self) (by decide)
      · exact ⟨hrange, hne, hdigits, hn⟩
  · rename_i hminus hplus
    rw [hinRange _ fun m => (m : Int)]
    constructor
    · rintro ⟨hrange, hne, hdigits, hn⟩
      exact ⟨hrange, _, hne, hdigits, .inl ⟨.inl rfl, hn⟩⟩
    · rintro ⟨hrange, digits', hne, hdigits, ⟨rfl | heq, hn⟩ | ⟨heq, -⟩⟩
      · exact ⟨hrange, hne, hdigits, hn⟩
      · exact (hplus _ heq).elim
      · exact (hminus _ heq).elim

end Wardnet.Base

