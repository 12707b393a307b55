/-
# Webhook signatures

`verify_signature` reads the `Stripe-Signature` header leniently: parts without `=` and unknown
keys are skipped, keys and values are trimmed, and a later `t` replaces an earlier one even if it
is malformed. It accepts exactly the payloads that were signed under the secret at a time near
`now`, and what is signed determines the time and the payload. What a field of a header is, is
said without the parser.
-/

import Wardnet.Base.Bytes
import Wardnet.Base.Decimal
import Wardnet.Base.Text

namespace Wardnet.Billing

open Base

def signatureToleranceSecs : Int := 300

inductive SignatureError
  | noTimestamp
  | noSignature
  | unmatched
  | outsideTolerance
  deriving DecidableEq, Repr

/-- `split_once('=')`, and both sides trimmed. -/
def headerField (part : List Char) : Option (String × String) :=
  (splitOnce '=' part).map fun (key, value) => (trim (.ofList key), trim (.ofList value))

def headerFields (sigHeader : String) : List (String × String) :=
  (sigHeader.toList.splitOn ',').filterMap headerField

/-- What the loop over the fields has read. -/
structure Signed where
  timestamp : Option Int
  signatures : List String

def Signed.read (s : Signed) (field : String × String) : Signed :=
  if field.1 = "t" then { s with timestamp := parseI64 field.2 }
  else if field.1 = "v1" then { s with signatures := s.signatures ++ [field.2] }
  else s

/-- `i64`, where a result out of range becomes the closest one in range. -/
def saturate (n : Int) : Int := max (-2 ^ 63) (min n (2 ^ 63 - 1))

def signedPayload (timestamp : Int) (payload : List UInt8) : List UInt8 :=
  utf8 (toString timestamp) ++ utf8 "." ++ payload

/-- `verify_signature`, over the HMAC. -/
def verifySignature (hmac : String → List UInt8 → Vector UInt8 32) (payload : List UInt8)
    (sigHeader secret : String) (now : Int) : Except SignatureError Unit := do
  let read := (headerFields sigHeader).foldl Signed.read ⟨none, []⟩
  let some timestamp := read.timestamp | throw .noTimestamp
  if read.signatures = [] then throw .noSignature
  let mac := (hmac secret (signedPayload timestamp payload)).toList
  if ¬ read.signatures.any fun sig => (hexDecode sig.toList).any (· = mac) then throw .unmatched
  -- `saturating_sub`, then `saturating_abs`.
  if saturate (saturate (now - timestamp)).natAbs > signatureToleranceSecs then
    throw .outsideTolerance

/-! ## The fields of a header -/

/-- The parts of a header, between its commas. -/
structure IsParts (header : String) (parts : List (List Char)) : Prop where
  ne_nil : parts ≠ []
  commas : ∀ part ∈ parts, ',' ∉ part
  joined : header.toList = [','].intercalate parts

/-- A part is a field: a key, an equals sign and a value, with white space around them. -/
def IsField (part : List Char) (key value : String) : Prop :=
  ∃ k v, part = k ++ '=' :: v ∧ '=' ∉ k ∧ Padded key k ∧ Padded value v

def HasField (header key value : String) : Prop :=
  ∃ parts, IsParts header parts ∧ ∃ part ∈ parts, IsField part key value

/-- A field of the header with the key and the value, and none with the key after it. -/
def LastField (header key value : String) : Prop :=
  ∃ before part after, IsParts header (before ++ part :: after) ∧ IsField part key value ∧
    ∀ later ∈ after, ∀ value', ¬ IsField later key value'

theorem isParts_iff {header : String} {parts : List (List Char)} :
    IsParts header parts ↔ header.toList.splitOn ',' = parts := by
  constructor
  · rintro ⟨hne, hcommas, hjoined⟩
    rw [hjoined, List.splitOn_intercalate ',' hcommas hne]
  · rintro rfl
    exact ⟨List.splitOn_ne_nil _ _, fun part => notMem_of_mem_splitOn,
      (List.intercalate_splitOn ',').symm⟩

theorem headerField_eq_some_iff {part : List Char} {key value : String} :
    headerField part = some (key, value) ↔ IsField part key value := by
  simp only [headerField, Option.map_eq_some_iff, Prod.exists, Prod.mk.injEq,
    splitOnce_eq_some_iff, trim_eq_iff, IsField, and_assoc]

theorem mem_headerFields_iff {header key value : String} :
    (key, value) ∈ headerFields header ↔ HasField header key value := by
  simp only [headerFields, List.mem_filterMap, headerField_eq_some_iff, HasField, isParts_iff,
    exists_eq_left']

theorem getLast?_headerFields_iff {header key value : String} :
    ((headerFields header).filter (·.1 = key)).getLast? = some (key, value) ↔
      LastField header key value := by
  have hfield : ∀ part, (headerField part).filter (·.1 = key) = some (key, value) ↔
      IsField part key value := by
    intro part
    rw [Option.filter_eq_some_iff, headerField_eq_some_iff]
    simp
  have hnone : ∀ part, (headerField part).filter (·.1 = key) = none ↔
      ∀ value', ¬ IsField part key value' := by
    intro part
    simp only [Option.filter_eq_none_iff, Prod.forall, headerField_eq_some_iff]
    grind
  rw [headerFields, List.filter_filterMap, List.getLast?_filterMap, List.findSome?_eq_some_iff]
  simp only [hfield, hnone, LastField, isParts_iff]
  constructor
  · rintro ⟨after, part, before, hparts, hpart, hlater⟩
    refine ⟨before.reverse, part, after.reverse, ?_, hpart,
      fun later h => hlater later (by simpa using h)⟩
    simpa using congrArg List.reverse hparts
  · rintro ⟨before, part, after, hparts, hpart, hlater⟩
    exact ⟨after.reverse, part, before.reverse, by simp [hparts], hpart,
      fun later h => hlater later (by simpa using h)⟩

/-! ## Acceptance -/

/-- The last `t` counts, and every `v1`. -/
theorem foldl_read (fields : List (String × String)) : fields.foldl Signed.read ⟨none, []⟩ =
    ⟨(fields.filter (·.1 = "t")).getLast?.bind (parseI64 ·.2),
      (fields.filter (·.1 = "v1")).map Prod.snd⟩ := by
  induction fields using List.reverseRecOn with
  | nil => rfl
  | append_singleton fields field ih =>
    rw [List.foldl_append, ih, List.foldl_cons, List.foldl_nil, Signed.read]
    by_cases ht : field.1 = "t"
    · simp [ht]
    · by_cases hv : field.1 = "v1" <;> simp [ht, hv]

theorem saturate_natAbs_le_iff (n : Int) :
    saturate (saturate n).natAbs ≤ signatureToleranceSecs ↔ n.natAbs ≤ signatureToleranceSecs := by
  simp only [saturate, signatureToleranceSecs]
  omega

theorem dot_notMem_toString (t : Int) : '.' ∉ (toString t).toList := by
  have hdigits : ∀ n : ℕ, '.' ∉ n.repr.toList := by
    intro n hn
    rw [Nat.toList_repr] at hn
    exact absurd (Nat.isDigit_of_mem_toDigits (by decide) (by decide) hn) (by decide)
  rw [show toString t = t.repr from rfl, Int.repr_eq_if]
  split
  · exact hdigits _
  · rw [String.toList_append, List.mem_append]
    exact not_or_intro (by decide) (hdigits _)

/-- The decimal form of the time ends at the first dot. -/
theorem signedPayload_inj {t t' : Int} {payload payload' : List UInt8}
    (h : signedPayload t payload = signedPayload t' payload') : t = t' ∧ payload = payload' := by
  have hshorter : ∀ {t t' : Int}, utf8 (toString t ++ ".") <+: utf8 (toString t' ++ ".") →
      t = t' := by
    intro t t' hle
    have hle := toList_prefix_of_utf8 hle
    rw [String.toList_append, String.toList_append] at hle
    rcases List.prefix_concat_iff.mp hle with heq | hle
    · exact Int.repr_inj.mp (String.toList_inj.mp (List.append_cancel_right heq))
    · exact absurd (hle.subset (by simp)) (dot_notMem_toString t')
  rw [signedPayload, signedPayload, ← utf8_append, ← utf8_append] at h
  have ht : t = t' := by
    rcases Nat.le_total (utf8 (toString t ++ ".")).length (utf8 (toString t' ++ ".")).length with
      hle | hle
    · exact hshorter (List.prefix_of_prefix_length_le ⟨payload, h⟩ ⟨payload', rfl⟩ hle)
    · exact (hshorter (List.prefix_of_prefix_length_le ⟨payload', h.symm⟩ ⟨payload, rfl⟩ hle)).symm
  subst ht
  exact ⟨rfl, List.append_cancel_left h⟩

/-- Accepted: the last timestamp is close, and one of the signatures is right. -/
theorem verifySignature_eq_ok_iff {hmac : String → List UInt8 → Vector UInt8 32}
    {payload : List UInt8} {sigHeader secret : String} {now : Int} :
    verifySignature hmac payload sigHeader secret now = .ok () ↔ ∃ value t sig,
      ((headerFields sigHeader).filter (·.1 = "t")).getLast? = some ("t", value) ∧
      parseI64 value = some t ∧ (now - t).natAbs ≤ signatureToleranceSecs ∧
      ("v1", sig) ∈ headerFields sigHeader ∧
      hexDecode sig.toList = some (hmac secret (signedPayload t payload)).toList := by
  have hmatch : ∀ mac : List UInt8,
      (((headerFields sigHeader).filter (·.1 = "v1")).map Prod.snd).any
        (fun sig => (hexDecode sig.toList).any (· = mac)) = true ↔
        ∃ sig, ("v1", sig) ∈ headerFields sigHeader ∧ hexDecode sig.toList = some mac := by
    intro mac
    simp [Option.any_eq_true, and_comm]
  unfold verifySignature
  rw [foldl_read]
  dsimp only
  constructor
  · intro h
    split at h
    · rename_i t ht
      obtain ⟨⟨key, value⟩, hlast, hvalue⟩ := Option.bind_eq_some_iff.mp ht
      obtain rfl : key = "t" := by
        simpa using (List.mem_filter.mp (List.mem_of_getLast? hlast)).2
      split at h
      · cases h
      split at h
      · cases h
      rename_i hany
      split at h
      · cases h
      rename_i hnear
      obtain ⟨sig, hsig, hmac⟩ := (hmatch _).mp (not_not.mp hany)
      rw [not_lt, saturate_natAbs_le_iff] at hnear
      exact ⟨value, t, sig, hlast, hvalue, hnear, hsig, hmac⟩
    · cases h
  · rintro ⟨value, t, sig, hlast, hvalue, hnear, hsig, hmac⟩
    have hany := (hmatch _).mpr ⟨sig, hsig, hmac⟩
    rw [hlast, Option.bind_some, hvalue]
    dsimp only
    rw [if_neg fun hnil => ?_, if_neg (not_not_intro hany),
      if_neg (not_lt.mpr ((saturate_natAbs_le_iff _).mpr hnear))]
    · rfl
    · rw [hnil] at hany
      cases hany

/-- A webhook is accepted just if the last `t` is a number near `now` and some `v1` is the
signature of that number and the payload. -/
theorem signature_exact (hmac : String → List UInt8 → Vector UInt8 32) (payload : List UInt8)
    (sigHeader secret : String) (now : Int) :
    (verifySignature hmac payload sigHeader secret now = .ok () ↔ ∃ value t sig,
      LastField sigHeader "t" value ∧ IsI64 value t ∧
      (now - t).natAbs ≤ signatureToleranceSecs ∧ HasField sigHeader "v1" sig ∧
      IsHex sig.toList (hmac secret (signedPayload t payload)).toList) ∧
    ∀ t t' payload', signedPayload t payload = signedPayload t' payload' →
      t = t' ∧ payload = payload' := by
  refine ⟨?_, fun _ _ _ => signedPayload_inj⟩
  simp only [verifySignature_eq_ok_iff, getLast?_headerFields_iff, parseI64_eq_some_iff,
    mem_headerFields_iff, hexDecode_eq_some_iff]

/-- Fields are repeated, unknown, malformed and spaced. -/
def sampleHeader : String :=
  "t=1, t = +100 ,t,v0=00,v1=zz,=,v1 =\t" ++ .ofList ((List.replicate 32 ['0', 'A']).flatten)

theorem signature_exact_sample :
    (∃ value t sig, LastField sampleHeader "t" value ∧ IsI64 value t ∧
      (-200 - t).natAbs ≤ signatureToleranceSecs ∧ HasField sampleHeader "v1" sig ∧
      IsHex sig.toList (Vector.replicate 32 10).toList) ∧
    ∀ t t' payload', signedPayload t [1] = signedPayload t' payload' → t = t' ∧ [1] = payload' := by
  have haccepted : verifySignature (fun _ _ => Vector.replicate 32 10) [1] sampleHeader "secret"
      (-200) = .ok () := by
    decide +kernel
  have hexact := signature_exact (fun _ _ => Vector.replicate 32 10) [1] sampleHeader "secret"
    (-200)
  exact ⟨hexact.1.mp haccepted, hexact.2⟩

end Wardnet.Billing
