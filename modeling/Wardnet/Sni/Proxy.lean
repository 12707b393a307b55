/-
# The PROXY v1 header

`read_required` takes the header off the front of a connection byte by byte, up to its CRLF and
no further, so that the next byte read is the wrapped protocol's first one. The line is measured
after each byte that does not end it, so one byte more than the longest header is taken before
the reader gives up, and a line of just that length is accepted.
-/

import Wardnet.Base.Bytes
import Wardnet.Base.Decimal

namespace Wardnet.Sni

open Base List

/-- `MAX_HEADER_LEN`, with the CRLF. -/
def maxHeaderLen : ℕ := 107

def crlf : List UInt8 := [13, 10]

inductive HeaderError
  | io
  | exceeded
  | notTerminated
  | notUtf8
  | missingSignature
  | missingSourceAddress
  | missingSourcePort
  | invalidSourceIp
  | invalidSourcePort
  | unsupportedFamily (other : Option String)
deriving DecidableEq, Repr

structure SocketAddr (IpAddr : Type) where
  ip : IpAddr
  port : ℕ
deriving DecidableEq, Repr

section

variable {IpAddr : Type} (parseIp : String → Option IpAddr)

/-- `parse_v1`, over the parser of addresses. -/
def parseV1 (line : List UInt8) : Except HeaderError (Option (SocketAddr IpAddr)) := do
  if ¬ crlf <:+ line then throw .notTerminated
  let some text := fromUtf8 (line.take (line.length - crlf.length)) | throw .notUtf8
  let parts := (text.toList.splitOn ' ').map String.ofList
  if parts[0]? ≠ some "PROXY" then throw .missingSignature
  match parts[1]? with
  | some "TCP4" | some "TCP6" =>
    let some srcIp := parts[2]? | throw .missingSourceAddress
    -- The destination address is skipped.
    let some srcPort := parts[4]? | throw .missingSourcePort
    let some ip := parseIp srcIp | throw .invalidSourceIp
    let some port := parseU16 srcPort | throw .invalidSourcePort
    return some ⟨ip, port⟩
  | some "UNKNOWN" => return none
  | other => throw (.unsupportedFamily other)

/-- The loop of `read_required`: the line so far and the bytes still to come give the line, or
the error, and the bytes left. -/
def readLine (line : List UInt8) : List UInt8 → Except HeaderError (List UInt8) × List UInt8
  | [] => (.error .io, [])
  | b :: stream =>
    let line := line ++ [b]
    if crlf <:+ line then (.ok line, stream)
    else if line.length > maxHeaderLen then (.error .exceeded, stream)
    else readLine line stream

/-- `read_required`: the client's address, if the family has one, and the bytes left. -/
def readRequired (stream : List UInt8) :
    Except HeaderError (Option (SocketAddr IpAddr)) × List UInt8 :=
  let (line, rest) := readLine [] stream
  (line.bind (parseV1 parseIp), rest)

/-- No CRLF ends within these bytes. -/
def Unterminated (line : List UInt8) : Prop := ∀ part, part <+: line → ¬ crlf <:+ part

/-- A line up to its CRLF, which is the first one. -/
def IsFirstLine (header : List UInt8) : Prop :=
  crlf <:+ header ∧ ∀ part, part <+: header → crlf <:+ part → part = header

/-- The header is taken exactly: no more than the longest one, on success just the first line,
which alone decides the address, and never a line that is too long. -/
structure TakenExactly (stream : List UInt8) : Prop where
  consumed : ∃ taken, stream = taken ++ (readRequired parseIp stream).2 ∧
    taken.length ≤ maxHeaderLen
  success : ∀ addr rest, readRequired parseIp stream = (.ok addr, rest) →
    ∃ header, stream = header ++ rest ∧ IsFirstLine header ∧
      ∀ following, readRequired parseIp (header ++ following) = (.ok addr, following)
  tooLong : ∀ header rest, stream = header ++ rest → IsFirstLine header →
    maxHeaderLen < header.length → ∃ e, (readRequired parseIp stream).1 = .error e

variable {line taken header : List UInt8}

theorem unterminated_nil : Unterminated [] := by
  intro part hpart
  rw [prefix_nil.mp hpart]
  decide

theorem Unterminated.concat {b : UInt8} (h : Unterminated line) (hb : ¬ crlf <:+ line ++ [b]) :
    Unterminated (line ++ [b]) := by
  intro part hpart
  obtain rfl | hpart := prefix_concat_iff.mp hpart
  · exact hb
  · exact h part hpart

theorem Unterminated.isFirstLine {b : UInt8} (h : Unterminated line) (hb : crlf <:+ line ++ [b]) :
    IsFirstLine (line ++ [b]) := by
  refine ⟨hb, fun part hpart hend => ?_⟩
  obtain rfl | hpart := prefix_concat_iff.mp hpart
  · rfl
  · exact absurd hend (h part hpart)

theorem IsFirstLine.unique {header' rest rest' : List UInt8} (h : IsFirstLine header)
    (h' : IsFirstLine header') (heq : header ++ rest = header' ++ rest') : header = header' := by
  obtain hle | hle := Nat.le_total header.length header'.length
  · exact h'.2 _ (prefix_of_prefix_length_le ⟨rest, heq⟩ ⟨rest', rfl⟩ hle) h.1
  · exact (h.2 _ (prefix_of_prefix_length_le ⟨rest', rfl⟩ ⟨rest, heq⟩ hle) h'.1).symm

/-- What the loop can do: end with the first line, or give up with none in what it took. -/
theorem readLine_spec (stream : List UInt8) (hline : Unterminated line)
    (hlen : line.length ≤ maxHeaderLen) :
    ∃ taken rest, stream = taken ++ rest ∧ (line ++ taken).length ≤ maxHeaderLen + 1 ∧
      (readLine line stream = (.ok (line ++ taken), rest) ∧ IsFirstLine (line ++ taken) ∨
        ∃ e, readLine line stream = (.error e, rest) ∧ Unterminated (line ++ taken) ∧
          (maxHeaderLen < (line ++ taken).length ∨ rest = [])) := by
  induction stream generalizing line with
  | nil =>
    refine ⟨[], [], rfl, ?_, .inr ⟨_, rfl, ?_, .inr rfl⟩⟩
    · rw [append_nil]
      omega
    · rwa [append_nil]
  | cons b stream ih =>
    have hlen' : (line ++ [b]).length = line.length + 1 := length_append
    unfold readLine
    dsimp only
    split
    · rename_i hend
      exact ⟨[b], stream, rfl, by omega, .inl ⟨rfl, hline.isFirstLine hend⟩⟩
    · rename_i hend
      have hline' := hline.concat hend
      split
      · exact ⟨[b], stream, rfl, by omega, .inr ⟨_, rfl, hline', .inl ‹_›⟩⟩
      · obtain ⟨taken, rest, rfl, hspec⟩ := ih hline' (by omega)
        rw [append_assoc, singleton_append] at hspec
        exact ⟨b :: taken, rest, rfl, hspec⟩

/-- A first line that is short enough is what the address is read from. -/
theorem readRequired_of_isFirstLine (rest : List UInt8) (h : IsFirstLine header)
    (hlen : header.length ≤ maxHeaderLen + 1) :
    readRequired parseIp (header ++ rest) = (parseV1 parseIp header, rest) := by
  obtain ⟨taken, rest', heq, -, hspec⟩ :=
    readLine_spec (header ++ rest) unterminated_nil (Nat.zero_le _)
  rw [nil_append] at hspec
  obtain ⟨hread, hfirst⟩ | ⟨e, hread, hopen, hstop⟩ := hspec
  · obtain rfl := h.unique hfirst heq
    rw [readRequired, hread, append_cancel_left heq]
    rfl
  · -- What was taken is no shorter than the line, so it holds the CRLF.
    have hle : header.length ≤ taken.length := by
      rcases hstop with hlong | rfl
      · omega
      · rw [← append_nil taken, ← heq]
        simp
    exact absurd h.1 (hopen _ (prefix_of_prefix_length_le ⟨rest, rfl⟩ ⟨rest', heq.symm⟩ hle))

/-- The header is taken exactly from just the streams that end, or have their first CRLF, within
the longest header. -/
theorem takenExactly_iff (stream : List UInt8) :
    TakenExactly parseIp stream ↔ stream.length ≤ maxHeaderLen ∨
      ∃ header rest, stream = header ++ rest ∧ IsFirstLine header ∧
        header.length ≤ maxHeaderLen := by
  obtain ⟨taken, rest, rfl, hlen, hspec⟩ := readLine_spec stream unterminated_nil (Nat.zero_le _)
  rw [List.nil_append] at hlen hspec
  obtain ⟨hread, hfirst⟩ | ⟨e, hread, hopen, hstop⟩ := hspec
  · have hresult (rest) := readRequired_of_isFirstLine parseIp rest hfirst hlen
    constructor
    · intro h
      obtain ⟨taken', heq, hshort⟩ := h.consumed
      rw [hresult] at heq
      exact .inr ⟨taken, rest, rfl, hfirst, List.append_cancel_right heq ▸ hshort⟩
    · intro h
      have hshort : taken.length ≤ maxHeaderLen := by
        rcases h with h | ⟨header, rest', heq, hheader, hshort⟩
        · rw [List.length_append] at h
          omega
        · rwa [hfirst.unique hheader heq]
      refine ⟨⟨taken, by rw [hresult], hshort⟩, ?_, ?_⟩
      · intro addr rest' h
        rw [hresult, Prod.mk.injEq] at h
        obtain ⟨haddr, rfl⟩ := h
        exact ⟨taken, rfl, hfirst, fun following => haddr ▸ hresult following⟩
      · intro header rest' heq hheader hlong
        rw [← hfirst.unique hheader heq] at hlong
        omega
  · have hresult : readRequired parseIp (taken ++ rest) = (.error e, rest) := by
      rw [readRequired, hread]
      rfl
    constructor
    · intro h
      obtain ⟨taken', heq, hshort⟩ := h.consumed
      rw [hresult] at heq
      rw [← List.append_cancel_right heq] at hshort
      obtain rfl := hstop.resolve_left (by omega)
      exact .inl (by rwa [List.append_nil])
    · intro h
      refine ⟨⟨taken, by rw [hresult], ?_⟩, ?_, ?_⟩
      · rcases h with h | ⟨header, rest', heq, hheader, hshort⟩
        · rw [List.length_append] at h
          omega
        · by_contra hlong
          exact hopen _ (List.prefix_of_prefix_length_le ⟨rest', heq.symm⟩ ⟨rest, rfl⟩ (by omega))
            hheader.1
      · intro addr rest' h
        rw [hresult] at h
        cases h
      · intro header rest' _ _ _
        exact ⟨e, congrArg Prod.fst hresult⟩

end

/-- A header of one byte more than the longest one. -/
def longHeader : List UInt8 := utf8 "PROXY UNKNOWN " ++ replicate 92 120 ++ crlf

/-- It is taken whole and accepted. -/
theorem long_header_accepted :
    readRequired (fun _ => some ()) (longHeader ++ [22]) = (.ok none, [22]) ∧
      longHeader.length = maxHeaderLen + 1 ∧
      ¬ TakenExactly (fun _ => some ()) (longHeader ++ [22]) := by
  have hread : readRequired (fun _ => some ()) (longHeader ++ [22]) = (.ok none, [22]) := by
    decide +kernel
  refine ⟨hread, by decide +kernel, fun h => ?_⟩
  obtain ⟨taken, heq, hshort⟩ := h.consumed
  rw [hread] at heq
  rw [← List.append_cancel_right heq] at hshort
  exact absurd hshort (by decide +kernel)

end Wardnet.Sni
