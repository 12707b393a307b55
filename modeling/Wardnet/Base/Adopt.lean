/-
# Adopt or create, claim, drop the duplicate

Several clients publish one record under a name. Each looks for a record of the name and
adopts it or creates one, then tries to file its record where at most one is ever filed,
and drops its record when another one was filed before.

A client that adopts may hold the record of another one, and may find it gone when it
comes to use it. However the steps interleave, the record on file exists, and every other
record is about to be dropped by a client that answers for it. `Settled` is the invariant;
each step of a client keeps it, with the client's phase moved on.
-/

import Mathlib.Data.Set.Insert
import Mathlib.Data.Set.Subsingleton

namespace Wardnet.Base

/-- The records of a name, and the one on file. -/
structure Adoption (ι : Type) where
  records : Set ι
  filed : Option ι

namespace Adoption

inductive Phase (ι : Type)
  | idle
  | found (existing : Option ι)
  | held (id : ι)
  | lost (id : ι)
  | dropping (id : ι)
  | finished

variable {ι : Type} {a a' : Adoption ι} {g g' : Phase ι} {rest : Set (Phase ι)} {id : ι}

def Phase.Ok (a : Adoption ι) : Phase ι → Prop
  | .idle | .found none => True
  -- Records go only after one is on file.
  | .found (some id) | .held id => a.filed = none → id ∈ a.records
  | .lost _ | .finished => a.filed ≠ none
  | .dropping id => a.filed ≠ none ∧ a.filed ≠ some id

def Phase.Owns (id : ι) : Phase ι → Prop
  | .held mine | .lost mine | .dropping mine => mine = id
  | _ => False

/-- The invariant over the phases of all clients. A record that no client answers for is
the only one, and no client is about to create another. -/
structure Settled (a : Adoption ι) (phases : Set (Phase ι)) : Prop where
  filed : ∀ id, a.filed = some id → id ∈ a.records
  ok : ∀ g ∈ phases, g.Ok a
  owned : ∀ id ∈ a.records, a.filed = some id ∨ (∃ g ∈ phases, g.Owns id) ∨
    (a.filed = none ∧ .found none ∉ phases ∧ ∀ other ∈ a.records, other = id)

/-- What any client may do: a record on file stays on file, and before there is one no
record goes. -/
structure Grows (a a' : Adoption ι) : Prop where
  filed : a.filed ≠ none → a'.filed = a.filed
  records : a'.filed = none → a.records ⊆ a'.records

theorem Grows.refl (a : Adoption ι) : a.Grows a := ⟨fun _ => rfl, fun _ _ h => h⟩

theorem Grows.filed_ne_none (h : a.Grows a') (hfiled : a.filed ≠ none) : a'.filed ≠ none := by
  rwa [h.filed hfiled]

theorem Phase.Ok.grows (h : g.Ok a) (hgrows : a.Grows a') : g.Ok a' := by
  have hkeep : ∀ id, (a.filed = none → id ∈ a.records) → a'.filed = none → id ∈ a'.records := by
    intro id hid hnone
    apply hgrows.records hnone
    apply hid
    by_contra hfiled
    exact hgrows.filed_ne_none hfiled hnone
  match g, h with
  | .idle, _ | .found none, _ => trivial
  | .found (some id), h => exact hkeep id h
  | .held id, h => exact hkeep id h
  | .lost _, h | .finished, h => exact hgrows.filed_ne_none h
  | .dropping id, h => exact ⟨hgrows.filed_ne_none h.1, by rw [hgrows.filed h.1]; exact h.2⟩

theorem settled_of_subsingleton (hfiled : a.filed = none) (hrecords : a.records.Subsingleton) :
    a.Settled ∅ where
  filed id hid := by simp [hfiled] at hid
  ok g hg := hg.elim
  owned id hid := .inr (.inr ⟨hfiled, fun h => h, fun other hother => hrecords hother hid⟩)

namespace Settled

theorem start (h : a.Settled rest) : a.Settled (insert .idle rest) where
  filed := h.filed
  ok g hg := by
    rcases hg with rfl | hg
    · trivial
    · exact h.ok g hg
  owned id hid := by
    rcases h.owned id hid with hfiled | ⟨g, hg, howns⟩ | ⟨hnone, hfound, honly⟩
    · exact .inl hfiled
    · exact .inr (.inl ⟨g, .inr hg, howns⟩)
    · exact .inr (.inr ⟨hnone, by simpa using hfound, honly⟩)

/-- What one step has to show: the client knows what its new phase says, and answers for
every record that is new or that it answered for before. -/
theorem next (h : a.Settled (insert g rest)) (hgrows : a.Grows a')
    (hfiled : ∀ id, a'.filed = some id → id ∈ a'.records) (hok : g'.Ok a')
    (hnew : ∀ id ∈ a'.records, id ∈ a.records ∨ g'.Owns id)
    (hown : ∀ id ∈ a'.records, g.Owns id → a'.filed = some id ∨ g'.Owns id)
    (halone : ∀ id ∈ a'.records, a.filed = none → g ≠ .found none →
      (∀ other ∈ a.records, other = id) → a'.filed = some id ∨ g'.Owns id ∨
        (a'.filed = none ∧ g' ≠ .found none ∧ ∀ other ∈ a'.records, other = id)) :
    a'.Settled (insert g' rest) where
  filed := hfiled
  ok g₀ hg₀ := by
    rcases hg₀ with rfl | hg₀
    · exact hok
    · exact (h.ok g₀ (.inr hg₀)).grows hgrows
  owned id hid := by
    have hself : g'.Owns id → ∃ g₀ ∈ insert g' rest, g₀.Owns id := fun howns =>
      ⟨g', .inl rfl, howns⟩
    rcases hnew id hid with hold | howns
    · rcases h.owned id hold with hfiled | ⟨g₀, rfl | hg₀, howns⟩ | ⟨hnone, hfound, honly⟩
      · exact .inl (by rw [hgrows.filed (by simp [hfiled]), hfiled])
      · exact (hown id hid howns).imp_right fun howns => .inl (hself howns)
      · exact .inr (.inl ⟨g₀, .inr hg₀, howns⟩)
      · rcases halone id hid hnone (fun heq => hfound (.inl heq.symm)) honly with
          hfiled | howns | ⟨hnone', hfound', honly'⟩
        · exact .inl hfiled
        · exact .inr (.inl (hself howns))
        · refine .inr (.inr ⟨hnone', ?_, honly'⟩)
          rintro (heq | hmem)
          · exact hfound' heq.symm
          · exact hfound (.inr hmem)
    · exact .inr (.inl (hself howns))

theorem find_none (h : a.Settled (insert .idle rest)) (hnone : a.records = ∅) :
    a.Settled (insert (.found none) rest) := by
  refine h.next (.refl a) h.filed trivial ?_ ?_ ?_
  all_goals simp [hnone]

theorem find_some (h : a.Settled (insert .idle rest)) (hid : id ∈ a.records) :
    a.Settled (insert (.found (some id)) rest) :=
  h.next (.refl a) h.filed (fun _ => hid) (fun _ hid => .inl hid) (fun _ _ howns => howns.elim)
    fun _ _ hnone _ honly => .inr (.inr ⟨hnone, by simp, honly⟩)

theorem grows_insert (a : Adoption ι) (id : ι) :
    a.Grows { a with records := insert id a.records } :=
  ⟨fun _ => rfl, fun _ _ h => .inr h⟩

theorem create (h : a.Settled (insert (.found none) rest)) (id : ι) :
    Settled { a with records := insert id a.records } (insert (.held id) rest) := by
  apply h.next (grows_insert a id)
  · exact fun id' hfiled => .inr (h.filed id' hfiled)
  · exact fun _ => .inl rfl
  · exact fun id' hid' => hid'.symm.imp_right Eq.symm
  · exact fun _ _ howns => howns.elim
  · exact fun _ _ _ hne => absurd rfl hne

theorem adopt (h : a.Settled (insert (.found (some id)) rest)) :
    Settled { a with records := insert id a.records } (insert (.held id) rest) := by
  apply h.next (grows_insert a id)
  · exact fun id' hfiled => .inr (h.filed id' hfiled)
  · exact fun _ => .inl rfl
  · exact fun id' hid' => hid'.symm.imp_right Eq.symm
  · exact fun _ _ howns => howns.elim
  · intro id' _ hnone _ honly
    exact .inr (.inl (honly id (h.ok _ (.inl rfl) hnone)))

theorem missing (h : a.Settled (insert (.found (some id)) rest)) (hgone : id ∉ a.records) :
    a.Settled (insert .finished rest) := by
  have hfiled : a.filed ≠ none := fun hnone => hgone (h.ok _ (.inl rfl) hnone)
  exact h.next (.refl a) h.filed hfiled (fun _ hid => .inl hid) (fun _ _ howns => howns.elim)
    fun _ _ hnone => absurd hnone hfiled

theorem claim_won (h : a.Settled (insert (.held id) rest)) (hnone : a.filed = none) :
    Settled { a with filed := some id } (insert .finished rest) := by
  have hid : id ∈ a.records := h.ok _ (.inl rfl) hnone
  apply h.next ⟨fun hfiled => absurd hnone hfiled, fun hfiled => by cases hfiled⟩
  · rintro id' ⟨⟩
    exact hid
  · exact fun hfiled => by cases hfiled
  · exact fun _ hid' => .inl hid'
  · exact fun id' _ howns => .inl (congrArg some howns)
  · exact fun id' _ _ _ honly => .inl (congrArg some (honly id hid))

theorem claim_lost (h : a.Settled (insert (.held id) rest)) (hfiled : a.filed ≠ none) :
    a.Settled (insert (.lost id) rest) :=
  h.next (.refl a) h.filed hfiled (fun _ hid => .inl hid) (fun _ _ howns => .inr howns)
    fun _ _ hnone => absurd hnone hfiled

theorem keep (h : a.Settled (insert (.lost id) rest)) (hfiled : a.filed = some id) :
    a.Settled (insert .finished rest) := by
  have hne : a.filed ≠ none := by simp [hfiled]
  exact h.next (.refl a) h.filed hne (fun _ hid => .inl hid)
    (fun _ _ howns => .inl (hfiled.trans (congrArg some howns))) fun _ _ hnone => absurd hnone hne

theorem discard (h : a.Settled (insert (.lost id) rest)) (hfiled : a.filed ≠ some id) :
    a.Settled (insert (.dropping id) rest) :=
  h.next (.refl a) h.filed ⟨h.ok _ (.inl rfl), hfiled⟩ (fun _ hid => .inl hid)
    (fun _ _ howns => .inr howns) fun _ _ hnone => absurd hnone (h.ok _ (.inl rfl))

theorem drop (h : a.Settled (insert (.dropping id) rest)) :
    Settled { a with records := a.records \ {id} } (insert .finished rest) := by
  obtain ⟨hfiled, hother⟩ := h.ok _ (.inl rfl)
  have hgrows : a.Grows { a with records := a.records \ {id} } :=
    ⟨fun _ => rfl, fun hnone => absurd hnone hfiled⟩
  apply h.next hgrows
  · refine fun id' hid' => ⟨h.filed id' hid', ?_⟩
    rintro rfl
    exact hother hid'
  · exact hfiled
  · exact fun _ hid' => .inl hid'.1
  · exact fun id' hid' howns => absurd howns.symm hid'.2
  · exact fun _ _ hnone => absurd hnone hfiled

/-- When every client has finished, the record on file is the only one. -/
theorem records_eq {phases : Set (Phase ι)} (h : a.Settled phases) (hne : phases.Nonempty)
    (hfinished : ∀ g ∈ phases, g = .finished) : ∃ id, a.filed = some id ∧ a.records = {id} := by
  obtain ⟨g, hg⟩ := hne
  have hok := h.ok g hg
  rw [hfinished g hg] at hok
  obtain ⟨id, hid⟩ := Option.ne_none_iff_exists'.mp hok
  refine ⟨id, hid, Set.eq_singleton_iff_unique_mem.mpr ⟨h.filed id hid, fun other hother => ?_⟩⟩
  rcases h.owned other hother with hfiled | ⟨g₀, hg₀, howns⟩ | ⟨hnone, -⟩
  · exact Option.some.inj (hfiled.symm.trans hid)
  · rw [hfinished g₀ hg₀] at howns
    exact howns.elim
  · exact absurd hnone hok

end Settled

end Adoption

end Wardnet.Base
