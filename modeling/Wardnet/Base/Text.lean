/-
# Text

Trimming, suffixes, hexadecimal and Base64, as the standard library and the crates `hex` and
`base64` read them. Where a result speaks of what was read, the text is described without the
reader: `Padded`, `IsHex`.
-/

import Mathlib

namespace Wardnet.Base

open List

/-- The characters that `str::trim` strips. -/
def isWhiteSpace (c : Char) : Bool :=
  let n := c.toNat
  (0x9 ≤ n ∧ n ≤ 0xd) ∨ n = 0x20 ∨ n = 0x85 ∨ n = 0xa0 ∨ n = 0x1680 ∨ (0x2000 ≤ n ∧ n ≤ 0x200a) ∨
    n = 0x2028 ∨ n = 0x2029 ∨ n = 0x202f ∨ n = 0x205f ∨ n = 0x3000

/-- `str::trim`. -/
def trim (text : String) : String :=
  String.ofList ((text.toList.dropWhile isWhiteSpace).reverse.dropWhile isWhiteSpace).reverse

/-- The text with white space around it. -/
structure Padded (text : String) (padded : List Char) : Prop where
  around : ∃ before after, padded = before ++ text.toList ++ after ∧
    (∀ c ∈ before, isWhiteSpace c = true) ∧ ∀ c ∈ after, isWhiteSpace c = true
  first : ∀ c ∈ text.toList.head?, isWhiteSpace c = false
  last : ∀ c ∈ text.toList.getLast?, isWhiteSpace c = false

theorem dropWhile_of_head? {p : Char → Bool} {l : List Char} (h : ∀ c ∈ l.head?, p c = false) :
    l.dropWhile p = l := by
  cases l with
  | nil => rfl
  | cons c l => simp [h c rfl]

theorem trim_eq_iff {text : String} {padded : List Char} :
    trim (.ofList padded) = text ↔ Padded text padded := by
  have htrim : (trim (.ofList padded)).toList =
      (padded.dropWhile isWhiteSpace).rdropWhile isWhiteSpace := by
    rw [trim, String.toList_ofList, String.toList_ofList, rdropWhile]
  constructor
  · rintro rfl
    refine ⟨⟨padded.takeWhile isWhiteSpace,
      (padded.dropWhile isWhiteSpace).rtakeWhile isWhiteSpace, ?_,
      fun c hc => mem_takeWhile_imp hc, fun c hc => mem_rtakeWhile_imp hc⟩, ?_, ?_⟩
    · rw [htrim, append_assoc, rdropWhile_append_rtakeWhile, takeWhile_append_dropWhile]
    · intro c hc
      rw [htrim] at hc
      obtain ⟨rest, hrest⟩ := rdropWhile_prefix isWhiteSpace (padded.dropWhile isWhiteSpace)
      have hhead : (padded.dropWhile isWhiteSpace).head? = some c := by
        rw [← hrest, head?_append, Option.mem_def.mp hc, Option.some_or]
      have hnot := head?_dropWhile_not isWhiteSpace padded
      rwa [hhead] at hnot
    · intro c hc
      rw [htrim] at hc
      obtain ⟨hne, rfl⟩ := mem_getLast?_eq_getLast hc
      simpa using rdropWhile_last_not _ _ hne
  · rintro ⟨⟨before, after, rfl, hbefore, hafter⟩, hfirst, hlast⟩
    apply String.toList_inj.mp
    rw [htrim, append_assoc, dropWhile_append_of_pos hbefore]
    by_cases hempty : text.toList = []
    · rw [hempty, nil_append, dropWhile_eq_nil_iff.mpr hafter, rdropWhile_nil]
    · rw [dropWhile_of_head? (by rwa [head?_append_of_ne_nil _ hempty]), rdropWhile, reverse_append,
        dropWhile_append_of_pos fun c hc => hafter c (mem_reverse.mp hc),
        dropWhile_of_head? (by rwa [head?_reverse]), reverse_reverse]

/-- `str::strip_suffix`. -/
def stripSuffix (suffix text : String) : Option String :=
  if suffix.toList.isSuffixOf text.toList then
    some (String.ofList (text.toList.take (text.toList.length - suffix.toList.length)))
  else none

theorem stripSuffix_eq_some_iff {suffix text rest : String} :
    stripSuffix suffix text = some rest ↔ text = rest ++ suffix := by
  unfold stripSuffix
  constructor
  · intro h
    split at h
    · rename_i hsuffix
      obtain ⟨first, hfirst⟩ := isSuffixOf_iff_suffix.mp hsuffix
      cases h
      apply String.toList_inj.mp
      rw [String.toList_append, String.toList_ofList, ← hfirst]
      simp
    · cases h
  · rintro rfl
    rw [String.toList_append, if_pos (isSuffixOf_iff_suffix.mpr (suffix_append _ _))]
    simp

/-- The first part of `str::rsplit`: what comes after the last separator. -/
def lastPart (separator : Char) (text : String) : String :=
  String.ofList (text.toList.rtakeWhile (· ≠ separator))

/-- The last part is the whole text, or a separator is before it. -/
theorem eq_or_eq_append_lastPart (separator : Char) (text : String) :
    text = lastPart separator text ∨
      ∃ first, text = first ++ String.singleton separator ++ lastPart separator text := by
  have hsplit : text.toList.rdropWhile (· ≠ separator) ++ text.toList.rtakeWhile (· ≠ separator) =
      text.toList := rdropWhile_append_rtakeWhile
  rcases eq_nil_or_concat (text.toList.rdropWhile (· ≠ separator)) with hnil | ⟨l, c, hlast⟩
  · left
    apply String.toList_inj.mp
    rw [hnil, nil_append] at hsplit
    rw [lastPart, String.toList_ofList, hsplit]
  · right
    rw [concat_eq_append] at hlast
    have hc : c = separator := by
      have hne : text.toList.rdropWhile (· ≠ separator) ≠ [] := by
        rw [hlast]
        exact append_ne_nil_of_right_ne_nil _ (cons_ne_nil _ _)
      have hnot := rdropWhile_last_not _ _ hne
      simp only [hlast, getLast_concat] at hnot
      simpa using hnot
    refine ⟨String.ofList l, String.toList_inj.mp ?_⟩
    rw [hlast, hc] at hsplit
    simpa [lastPart] using hsplit.symm

theorem lastPart_eq_self {separator : Char} {text : String} (h : separator ∉ text.toList) :
    lastPart separator text = text := by
  apply String.toList_inj.mp
  rw [lastPart, String.toList_ofList, rtakeWhile_eq_self_iff]
  rintro c hc
  refine decide_eq_true ?_
  rintro rfl
  exact h hc

theorem lastPart_append {separator : Char} {last : String} (h : separator ∉ last.toList)
    (first : String) :
    lastPart separator (first ++ String.singleton separator ++ last) = last := by
  have hnot : ∀ c ∈ last.toList.reverse, (decide (c ≠ separator)) = true := by
    rintro c hc
    refine decide_eq_true ?_
    rintro rfl
    exact h (mem_reverse.mp hc)
  apply String.toList_inj.mp
  rw [lastPart, String.toList_ofList, rtakeWhile, String.toList_append, String.toList_append,
    reverse_append, takeWhile_append_of_pos hnot]
  simp

/-! ## Parts and digits -/

/-- `str::split_once`. -/
def splitOnce (separator : Char) (text : List Char) : Option (List Char × List Char) :=
  if separator ∈ text then
    some (text.takeWhile (· ≠ separator), (text.dropWhile (· ≠ separator)).tail)
  else none

theorem splitOnce_eq_some_iff {separator : Char} {text key value : List Char} :
    splitOnce separator text = some (key, value) ↔
      text = key ++ separator :: value ∧ separator ∉ key := by
  unfold splitOnce
  constructor
  · intro h
    split at h
    · rename_i hmem
      cases h
      have hne : text.dropWhile (· ≠ separator) ≠ [] := by
        simpa [dropWhile_eq_nil_iff] using hmem
      have hhead : (text.dropWhile (· ≠ separator)).head hne = separator := by
        simpa using head_dropWhile_not (fun c => decide (c ≠ separator)) hne
      refine ⟨?_, fun hin => by simpa using mem_takeWhile_imp hin⟩
      conv_lhs => rw [← takeWhile_append_dropWhile (p := fun c => decide (c ≠ separator))
        (l := text), ← cons_head_tail hne, hhead]
    · cases h
  · rintro ⟨rfl, hkey⟩
    have hall : ∀ c ∈ key, decide (c ≠ separator) = true := by
      intro c hc
      exact decide_eq_true fun heq => hkey (heq ▸ hc)
    rw [if_pos (by simp), takeWhile_append_of_pos hall, dropWhile_append_of_pos hall]
    simp

/-- The parts of a split do not have the separator. -/
theorem notMem_of_mem_splitOn {separator : Char} {text part : List Char}
    (h : part ∈ text.splitOn separator) : separator ∉ part := by
  induction text generalizing part with
  | nil =>
    rw [splitOn_nil, mem_singleton] at h
    simp [h]
  | cons c text ih =>
    rw [splitOn_cons_eq_if_modifyHead] at h
    split at h
    · rcases mem_cons.mp h with rfl | h
      · simp
      · exact ih h
    · rename_i hc
      cases hparts : text.splitOn separator with
      | nil => exact absurd hparts (splitOn_ne_nil _ _)
      | cons first parts =>
        rw [hparts] at ih
        rw [hparts, modifyHead_cons] at h
        rcases mem_cons.mp h with rfl | h
        · intro hmem
          rcases mem_cons.mp hmem with rfl | hmem
          · exact hc (beq_self_eq_true _)
          · exact ih mem_cons_self hmem
        · exact ih (mem_cons_of_mem _ h)

def hexDigit (c : Char) : Option ℕ :=
  if '0' ≤ c ∧ c ≤ '9' then some (c.toNat - '0'.toNat)
  else if 'a' ≤ c ∧ c ≤ 'f' then some (c.toNat - 'a'.toNat + 10)
  else if 'A' ≤ c ∧ c ≤ 'F' then some (c.toNat - 'A'.toNat + 10)
  else none

/-- `hex::decode`. -/
def hexDecode : List Char → Option (List UInt8)
  | [] => some []
  | [_] => none
  | c :: d :: rest => do return .ofNat (16 * (← hexDigit c) + (← hexDigit d)) :: (← hexDecode rest)

/-- The hexadecimal form of bytes, with letters in either case. -/
def IsHex (text : List Char) (bytes : List UInt8) : Prop :=
  text.map Char.toLower =
    bytes.flatMap fun b => [Nat.digitChar (b.toNat / 16), Nat.digitChar (b.toNat % 16)]

theorem hexDigit_eq_some_iff {c : Char} {d : ℕ} :
    hexDigit c = some d ↔ c.toLower = Nat.digitChar d ∧ d < 16 := by
  by_cases hc : c.toNat < 128
  · have hascii : ∀ n < 128, (∀ d ∈ hexDigit (Char.ofNat n), d < 16) ∧ ∀ d < 16,
        hexDigit (Char.ofNat n) = some d ↔ (Char.ofNat n).toLower = Nat.digitChar d := by
      decide +kernel
    obtain ⟨hlt, hiff⟩ := hascii c.toNat hc
    rw [Char.ofNat_toNat] at hlt hiff
    exact ⟨fun h => ⟨(hiff d (hlt d h)).mp h, hlt d h⟩, fun h => (hiff d h.2).mpr h.1⟩
  · have hnone : hexDigit c = none := by
      simp only [Char.toNat] at hc
      simp only [hexDigit, Char.le_def, UInt32.le_iff_toNat_le]
      grind
    have hlower : c.toLower = c := by
      refine Char.toLower_eq_of_not_isUpper ?_
      simp only [Char.toNat] at hc
      simp only [Char.isUpper, decide_eq_true_eq, UInt32.le_iff_toNat_le]
      grind
    rw [hnone, hlower]
    refine iff_of_false (by simp) ?_
    rintro ⟨rfl, hd⟩
    have hascii : ∀ d < 16, (Nat.digitChar d).toNat < 128 := by decide
    exact hc (hascii d hd)

theorem hexDecode_eq_some_iff {text : List Char} {bytes : List UInt8} :
    hexDecode text = some bytes ↔ IsHex text bytes := by
  induction text using hexDecode.induct generalizing bytes with
  | case1 | case2 c => cases bytes <;> simp [hexDecode, IsHex]
  | case3 c d rest ih =>
    simp only [hexDecode, Option.bind_eq_bind, Option.bind_eq_some_iff, Option.pure_def,
      Option.some.injEq, hexDigit_eq_some_iff, ih]
    constructor
    · rintro ⟨x, ⟨hc, hx⟩, y, ⟨hd, hy⟩, tail, htail, rfl⟩
      have hb : (UInt8.ofNat (16 * x + y)).toNat = 16 * x + y := by
        rw [UInt8.toNat_ofNat']
        omega
      rw [IsHex] at htail ⊢
      rw [map_cons, map_cons, flatMap_cons, hb, hc, hd, htail, show (16 * x + y) / 16 = x by omega,
        show (16 * x + y) % 16 = y by omega]
      rfl
    · intro h
      cases bytes with
      | nil => simp [IsHex] at h
      | cons b bytes =>
        simp only [IsHex, map_cons, flatMap_cons, cons_append, nil_append, cons.injEq] at h
        obtain ⟨hc, hd, hrest⟩ := h
        have hb := b.toNat_lt
        refine ⟨_, ⟨hc, by omega⟩, _, ⟨hd, by omega⟩, bytes, hrest, ?_⟩
        rw [Nat.div_add_mod, UInt8.ofNat_toNat]

/-! ## Base64 -/

/-- The standard Base64 alphabet, in the order of the digits' values. -/
def base64Alphabet : List Char :=
  "ABCDEFGHIJKLMNOPQRSTUVWXYZabcdefghijklmnopqrstuvwxyz0123456789+/".toList

end Wardnet.Base
