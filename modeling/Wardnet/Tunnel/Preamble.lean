/-
# The forward preamble

A node that forwards a stream to another node writes the slug and the port before it. The reader
takes exactly these bytes, so that the stream of the client is next, and it takes nothing that the
writer would write differently.
-/

import Wardnet.Base.Bytes

namespace Wardnet.Tunnel

open Base

def maxSlugLen : ℕ := 64

inductive PreambleError
  | slugTooLong (length : ℕ)
  | lengthOutOfBounds (length : ℕ)
  | slugNotUtf8
  | unexpectedEof
  deriving DecidableEq

/-- `write_preamble`: what is written. -/
def writePreamble (slug : String) (destPort : UInt16) : Except PreambleError (List UInt8) :=
  let bytes := utf8 slug
  if maxSlugLen < bytes.length then throw (.slugTooLong bytes.length)
  else pure (beBytes 2 bytes.length ++ bytes ++ beBytes 2 destPort.toNat)

/-- `read_preamble`: the slug and the port, and the bytes that are left. -/
def readPreamble (bytes : List UInt8) : Except PreambleError ((String × UInt16) × List UInt8) :=
  match readExact 2 bytes with
  | none => throw .unexpectedEof
  | some (lenBuf, bytes) =>
    let len := ofBeBytes lenBuf
    if len = 0 ∨ maxSlugLen < len then throw (.lengthOutOfBounds len)
    else
      match readExact len bytes with
      | none => throw .unexpectedEof
      | some (slug, bytes) =>
        match readExact 2 bytes with
        | none => throw .unexpectedEof
        | some (portBuf, bytes) =>
          match fromUtf8 slug with
          | none => throw .slugNotUtf8
          | some slug => pure ((slug, .ofNat (ofBeBytes portBuf)), bytes)

theorem readPreamble_of_append {slug : String} (hne : slug ≠ "")
    (hle : (utf8 slug).length ≤ maxSlugLen) (destPort : UInt16) (rest : List UInt8) :
    readPreamble (beBytes 2 (utf8 slug).length ++ utf8 slug ++ beBytes 2 destPort.toNat ++ rest) =
      .ok ((slug, destPort), rest) := by
  have hpos : (utf8 slug).length ≠ 0 := by
    rw [length_utf8]
    exact fun h => hne (String.utf8ByteSize_eq_zero_iff.mp h)
  have hlen : readExact 2 (beBytes 2 (utf8 slug).length ++ utf8 slug ++ beBytes 2 destPort.toNat ++
      rest) = some (beBytes 2 (utf8 slug).length,
        utf8 slug ++ (beBytes 2 destPort.toNat ++ rest)) :=
    readExact_eq_some_iff.mpr ⟨by simp only [List.append_assoc], length_beBytes ..⟩
  have hslug : readExact (utf8 slug).length (utf8 slug ++ (beBytes 2 destPort.toNat ++ rest)) =
      some (utf8 slug, beBytes 2 destPort.toNat ++ rest) := readExact_eq_some_iff.mpr ⟨rfl, rfl⟩
  have hport : readExact 2 (beBytes 2 destPort.toNat ++ rest) =
      some (beBytes 2 destPort.toNat, rest) := readExact_eq_some_iff.mpr ⟨rfl, length_beBytes ..⟩
  have hutf8 : fromUtf8 (utf8 slug) = some slug := fromUtf8_eq_some_iff.mpr rfl
  have hlt : (utf8 slug).length < 256 ^ 2 := hle.trans_lt (by decide)
  simp only [readPreamble, hlen, ofBeBytes_beBytes hlt, hslug, hport, hutf8]
  rw [if_neg (by omega), ofBeBytes_beBytes destPort.toNat_lt, UInt16.ofNat_toNat]
  rfl

theorem append_of_readPreamble {bytes rest : List UInt8} {slug : String} {destPort : UInt16}
    (h : readPreamble bytes = .ok ((slug, destPort), rest)) :
    (utf8 slug).length ≤ maxSlugLen ∧
      bytes = beBytes 2 (utf8 slug).length ++ utf8 slug ++ beBytes 2 destPort.toNat ++ rest := by
  unfold readPreamble at h
  split at h
  · cases h
  rename_i lenBuf afterLen hlen
  dsimp only at h
  split at h
  · cases h
  rename_i hbound
  split at h
  · cases h
  rename_i slugBytes afterSlug hslug
  split at h
  · cases h
  rename_i portBuf afterPort hport
  split at h
  · cases h
  rename_i text hutf8
  cases h
  obtain ⟨rfl, hlenBuf⟩ := readExact_eq_some_iff.mp hlen
  obtain ⟨rfl, hslugLen⟩ := readExact_eq_some_iff.mp hslug
  obtain ⟨rfl, hportBuf⟩ := readExact_eq_some_iff.mp hport
  obtain rfl := fromUtf8_eq_some_iff.mp hutf8
  have hportNat : (UInt16.ofNat (ofBeBytes portBuf)).toNat = ofBeBytes portBuf := by
    have hlt := ofBeBytes_lt portBuf
    rw [hportBuf] at hlt
    exact UInt16.toNat_ofNat_of_lt' hlt
  have hlenBytes := beBytes_ofBeBytes lenBuf
  have hportBytes := beBytes_ofBeBytes portBuf
  rw [hlenBuf] at hlenBytes
  rw [hportBuf] at hportBytes
  rw [hslugLen, hportNat, hlenBytes, hportBytes]
  simp only [List.append_assoc, and_true]
  omega

/-- A preamble that was written is read back, up to its end; and what is read starts with what is
written for the slug and the port. -/
theorem preamble_codec : (∀ (slug : String) (destPort : UInt16) (rest : List UInt8), slug ≠ "" →
      slug.utf8ByteSize ≤ 64 → ∃ written, writePreamble slug destPort = .ok written ∧
        readPreamble (written ++ rest) = .ok ((slug, destPort), rest)) ∧
    ∀ (bytes rest : List UInt8) (slug : String) (destPort : UInt16),
      readPreamble bytes = .ok ((slug, destPort), rest) →
        ∃ written, writePreamble slug destPort = .ok written ∧ bytes = written ++ rest := by
  constructor
  · intro slug destPort rest hne hle
    exact ⟨_, if_neg (Nat.not_lt.mpr hle), readPreamble_of_append hne hle destPort rest⟩
  · intro bytes rest slug destPort h
    obtain ⟨hle, hbytes⟩ := append_of_readPreamble h
    exact ⟨_, if_neg (Nat.not_lt.mpr hle), hbytes⟩

theorem preamble_codec_sample : ∃ written, writePreamble "home" 443 = .ok written ∧
      readPreamble (written ++ [22, 3, 1]) = .ok (("home", 443), [22, 3, 1]) :=
  preamble_codec.1 "home" 443 [22, 3, 1] (by decide) (by decide)

end Wardnet.Tunnel
