/-
# Bytes

Big-endian numbers and UTF-8. What a reader takes from the
front of some bytes is told by how the bytes begin.
-/

import Mathlib

namespace Wardnet.Base

open List

/-! ## Numbers -/

def beBytes : ℕ → ℕ → List UInt8
  | 0, _ => []
  | k + 1, n => beBytes k (n / 256) ++ [.ofNat n]

/-- The number with these bytes, the most significant one first. -/
def ofBeBytes (bytes : List UInt8) : ℕ := bytes.foldl (fun n b => n * 256 + b.toNat) 0

@[simp]
theorem length_beBytes (k n : ℕ) : (beBytes k n).length = k := by
  induction k generalizing n with
  | zero => rfl
  | succ k ih => simp [beBytes, ih]

theorem ofBeBytes_concat (bytes : List UInt8) (b : UInt8) :
    ofBeBytes (bytes ++ [b]) = ofBeBytes bytes * 256 + b.toNat := by
  simp [ofBeBytes]

theorem ofBeBytes_lt (bytes : List UInt8) : ofBeBytes bytes < 256 ^ bytes.length := by
  induction bytes using reverseRecOn with
  | nil => decide
  | append_singleton bytes b ih =>
    have hb := b.toNat_lt
    rw [ofBeBytes_concat, length_append, length_singleton, Nat.pow_succ]
    omega

theorem ofBeBytes_beBytes {k n : ℕ} (h : n < 256 ^ k) : ofBeBytes (beBytes k n) = n := by
  induction k generalizing n with
  | zero => exact (Nat.lt_one_iff.mp h).symm
  | succ k ih =>
    rw [Nat.pow_succ] at h
    rw [beBytes, ofBeBytes_concat, ih (by omega), UInt8.toNat_ofNat']
    omega

theorem beBytes_ofBeBytes (bytes : List UInt8) :
    beBytes bytes.length (ofBeBytes bytes) = bytes := by
  induction bytes using reverseRecOn with
  | nil => rfl
  | append_singleton bytes b ih =>
    have hb := b.toNat_lt
    have hdiv : (ofBeBytes bytes * 256 + b.toNat) / 256 = ofBeBytes bytes := by omega
    rw [ofBeBytes_concat, length_append, length_singleton, beBytes, hdiv, ih]
    congr
    apply UInt8.toNat_inj.mp
    rw [UInt8.toNat_ofNat']
    omega

/-! ## Reading -/

/-- `read_exact`: the next `k` bytes, and those after them. -/
def readExact (k : ℕ) (bytes : List UInt8) : Option (List UInt8 × List UInt8) :=
  if k ≤ bytes.length then some (bytes.take k, bytes.drop k) else none

variable {k : ℕ} {bytes first rest : List UInt8}

theorem readExact_eq_some_iff :
    readExact k bytes = some (first, rest) ↔ bytes = first ++ rest ∧ first.length = k := by
  unfold readExact
  constructor
  · intro h
    split at h
    · rename_i hle
      cases h
      exact ⟨(take_append_drop ..).symm, length_take_of_le hle⟩
    · cases h
  · rintro ⟨rfl, rfl⟩
    simp

/-! ## UTF-8 -/

/-- `str::as_bytes`. -/
def utf8 (text : String) : List UInt8 := text.toByteArray.data.toList

/-- `str::from_utf8`. -/
def fromUtf8 (bytes : List UInt8) : Option String := String.fromUTF8? ⟨bytes.toArray⟩

theorem length_utf8 (text : String) : (utf8 text).length = text.utf8ByteSize := rfl

theorem fromUtf8_eq_some_iff {text : String} : fromUtf8 bytes = some text ↔ bytes = utf8 text := by
  unfold fromUtf8 String.fromUTF8?
  constructor
  · intro h
    split at h
    · cases h
      rfl
    · cases h
  · rintro rfl
    have hsame : (⟨(utf8 text).toArray⟩ : ByteArray) = text.toByteArray := by
      simp [utf8]
    rw [dif_pos (by rw [hsame]; exact text.isValidUTF8)]
    exact congrArg some (String.toByteArray_inj.mp hsame)

theorem utf8_append (s t : String) : utf8 (s ++ t) = utf8 s ++ utf8 t := by
  simp [utf8]

theorem toList_prefix_of_utf8 {s t : String} (h : utf8 s <+: utf8 t) : s.toList <+: t.toList := by
  obtain ⟨rest, hrest⟩ := h
  apply List.isPrefix_of_utf8Encode_append_eq_utf8Encode ⟨rest.toArray⟩
  rw [String.utf8Encode_toList, String.utf8Encode_toList]
  apply ByteArray.ext
  apply Array.toList_inj.mp
  simpa [utf8] using hrest

end Wardnet.Base
