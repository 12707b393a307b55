/-
# Replacing what is on file

Resources live at a provider, and a file lists those in use. A client that replaces them
reads the file, deletes what it has read, creates its own resources and files them if the
file still says what it has read. The file is compared and set in one step; nothing else is.

However many clients work at once, every resource is on file or was created by one client
that has not filed it, and a filed resource is missing only while a client is about to
replace it. `Accounted` is the invariant, and each step of a client keeps it. So once all
clients are finished, what exists beyond the file is what clients have left behind.
-/

import Mathlib.Data.Set.Insert

namespace Wardnet.Base

open List

/-- The resources that exist, those on file, and the ids handed out so far. -/
structure Filing (ι : Type) where
  existing : Set ι
  filed : List ι
  issued : Set ι

namespace Filing

inductive Stage (ι : Type)
  | idle
  /-- It has read `prior`, has `rest` of it left to delete, and has created `created`. -/
  | replacing (prior rest created : List ι)
  /-- It is done, and has left `left` behind. -/
  | finished (left : List ι)

variable {ι : Type}

namespace Stage

def prior : Stage ι → List ι
  | .replacing prior _ _ => prior
  | .idle | .finished _ => []

def holds : Stage ι → List ι
  | .idle => []
  | .replacing _ _ created => created
  | .finished left => left

def left : Stage ι → List ι
  | .finished left => left
  | .idle | .replacing .. => []

def rest : Stage ι → List ι
  | .replacing _ rest _ => rest
  | .idle | .finished _ => []

/-- The client has read what is on file, or nothing that is on file any more; of what it has
read, it has deleted all but `rest`. -/
structure Ok (f : Filing ι) (g : Stage ι) : Prop where
  read : g.prior = f.filed ∨ ∀ id ∈ g.prior, id ∉ f.filed
  issued : ∀ id ∈ g.prior, id ∈ f.issued
  rest : ∀ id ∈ g.rest, id ∈ g.prior
  deleted : ∀ id ∈ g.prior, id ∈ f.existing → id ∈ g.rest

theorem ok_of_prior_nil {f : Filing ι} {g : Stage ι} (hprior : g.prior = [])
    (hrest : g.rest = []) : g.Ok f := by
  constructor
  all_goals simp [hprior, hrest]

end Stage

/-- The invariant over all clients, each with its number. -/
structure Accounted (f : Filing ι) (clients : Set (ℕ × Stage ι)) : Prop where
  issued : ∀ id, id ∈ f.existing ∨ id ∈ f.filed → id ∈ f.issued
  ok : ∀ c ∈ clients, c.2.Ok f
  held : ∀ c ∈ clients, ∀ id ∈ c.2.holds, id ∈ f.existing ∧ id ∉ f.filed
  apart : ∀ c ∈ clients, ∀ c' ∈ clients, ∀ id ∈ c.2.holds, id ∈ c'.2.holds → c = c'
  unread : ∀ c ∈ clients, ∀ c' ∈ clients, ∀ id ∈ c.2.holds, id ∉ c'.2.prior
  known : ∀ id ∈ f.existing, id ∈ f.filed ∨ ∃ c ∈ clients, id ∈ c.2.holds
  gone : ∀ id ∈ f.filed, id ∈ f.existing ∨ ∃ c ∈ clients, c.2.prior = f.filed

namespace Accounted

variable {f f' : Filing ι} {i : ℕ} {g g' : Stage ι} {others : Set (ℕ × Stage ι)} {id : ι}
  {prior rest created : List ι}

theorem of_eq (hissued : ∀ id ∈ f.existing, id ∈ f.issued)
    (heq : ∀ id, id ∈ f.existing ↔ id ∈ f.filed) : f.Accounted ∅ where
  issued id hid := hissued id (hid.elim (fun h => h) (heq id).mpr)
  ok _ hc := hc.elim
  held _ hc := hc.elim
  apart _ hc := hc.elim
  unread _ hc := hc.elim
  known id hid := .inl ((heq id).mp hid)
  gone id hid := .inl ((heq id).mpr hid)

/-- What one step has to show. The client reads only what it had read or what is on file,
and holds only what it held or what is new. -/
theorem next (h : f.Accounted (insert (i, g) others)) (halone : (i, g) ∉ others)
    (hissued : ∀ id, id ∈ f'.existing ∨ id ∈ f'.filed → id ∈ f'.issued)
    (hothers : ∀ c ∈ others, c.2.Ok f')
    (hheld : ∀ c ∈ others, ∀ id ∈ c.2.holds, id ∈ f'.existing ∧ id ∉ f'.filed)
    (hok : g'.Ok f') (hmine : ∀ id ∈ g'.holds, id ∈ f'.existing ∧ id ∉ f'.filed)
    (hprior : ∀ id ∈ g'.prior, id ∈ g.prior ∨ id ∈ f.filed)
    (hholds : ∀ id ∈ g'.holds, id ∈ g.holds ∨ id ∉ f.issued)
    (hknown : ∀ id ∈ f'.existing, id ∈ f.existing ∧ id ∉ f.filed ∧ id ∉ g.holds ∨
      id ∈ f'.filed ∨ id ∈ g'.holds)
    (hgone : ∀ id ∈ f'.filed, id ∈ f'.existing ∨ g'.prior = f'.filed ∨
      ∃ c ∈ others, c.2.prior = f'.filed) :
    f'.Accounted (insert (i, g') others) where
  issued := hissued
  ok c hc := by
    rcases hc with rfl | hc
    · exact hok
    · exact hothers c hc
  held c hc := by
    rcases hc with rfl | hc
    · exact hmine
    · exact hheld c hc
  apart c hc c' hc' id hid hid' := by
    have hsole : ∀ c ∈ others, id ∈ c.2.holds → id ∉ g'.holds := by
      intro c hc hid hid'
      rcases hholds id hid' with hold | hfresh
      · exact halone (h.apart _ (.inl rfl) c (.inr hc) id hold hid ▸ hc)
      · exact hfresh (h.issued id (.inl (h.held c (.inr hc) id hid).1))
    rcases hc with rfl | hc
    · rcases hc' with rfl | hc'
      · rfl
      · exact absurd hid (hsole c' hc' hid')
    · rcases hc' with rfl | hc'
      · exact absurd hid' (hsole c hc hid)
      · exact h.apart c (.inr hc) c' (.inr hc') id hid hid'
  unread c hc c' hc' id hid hid' := by
    -- Either the resource was held and the id was read before, or one of them is new.
    have hheld : (∃ c ∈ insert (i, g) others, id ∈ c.2.holds) ∨ id ∉ f.issued := by
      rcases hc with rfl | hc
      · exact (hholds id hid).imp_left fun hold => ⟨_, .inl rfl, hold⟩
      · exact .inl ⟨c, .inr hc, hid⟩
    have hread : (∃ c ∈ insert (i, g) others, id ∈ c.2.prior) ∨ id ∈ f.filed := by
      rcases hc' with rfl | hc'
      · exact (hprior id hid').imp_left fun hold => ⟨_, .inl rfl, hold⟩
      · exact .inl ⟨c', .inr hc', hid'⟩
    rcases hheld with ⟨d, hd, hold⟩ | hfresh
    · rcases hread with ⟨d', hd', hread⟩ | hfiled
      · exact h.unread d hd d' hd' id hold hread
      · exact (h.held d hd id hold).2 hfiled
    · rcases hread with ⟨d', hd', hread⟩ | hfiled
      · exact hfresh ((h.ok d' hd').issued id hread)
      · exact hfresh (h.issued id (.inr hfiled))
  known id hid := by
    rcases hknown id hid with ⟨hexists, hfiled, hg⟩ | hfiled | hmine
    · obtain ⟨c, rfl | hc, hholds⟩ := (h.known id hexists).resolve_left hfiled
      · exact absurd hholds hg
      · exact .inr ⟨c, .inr hc, hholds⟩
    · exact .inl hfiled
    · exact .inr ⟨_, .inl rfl, hmine⟩
  gone id hid := by
    rcases hgone id hid with hexists | hprior | ⟨c, hc, hprior⟩
    · exact .inl hexists
    · exact .inr ⟨_, .inl rfl, hprior⟩
    · exact .inr ⟨c, .inr hc, hprior⟩

theorem start (h : f.Accounted others) : f.Accounted (insert (i, .idle) others) where
  issued := h.issued
  ok c hc := by
    rcases hc with rfl | hc
    · exact Stage.ok_of_prior_nil rfl rfl
    · exact h.ok c hc
  held c hc := by
    rcases hc with rfl | hc
    · exact nofun
    · exact h.held c hc
  apart c hc c' hc' id hid hid' := by
    rcases hc with rfl | hc
    · cases hid
    · rcases hc' with rfl | hc'
      · cases hid'
      · exact h.apart c hc c' hc' id hid hid'
  unread c hc c' hc' id hid hid' := by
    rcases hc with rfl | hc
    · cases hid
    · rcases hc' with rfl | hc'
      · cases hid'
      · exact h.unread c hc c' hc' id hid hid'
  known id hid := (h.known id hid).imp_right (Exists.imp fun _ => And.imp_left .inr)
  gone id hid := (h.gone id hid).imp_right (Exists.imp fun _ => And.imp_left .inr)

theorem move (h : f.Accounted (insert (i, g) others)) (halone : (i, g) ∉ others) (hok : g'.Ok f)
    (hholds : g'.holds = g.holds) (hprior : ∀ id ∈ g'.prior, id ∈ g.prior ∨ id ∈ f.filed)
    (hgone : f.filed ≠ [] → g.prior = f.filed → g'.prior = f.filed) :
    f.Accounted (insert (i, g') others) := by
  apply h.next halone h.issued (fun c hc => h.ok c (.inr hc)) (fun c hc => h.held c (.inr hc))
    hok (hholds ▸ h.held _ (.inl rfl)) hprior (fun id hid => .inl (hholds ▸ hid))
  · intro id hid
    by_cases hfiled : id ∈ f.filed
    · exact .inr (.inl hfiled)
    · by_cases hmine : id ∈ g.holds
      · exact .inr (.inr (hholds ▸ hmine))
      · exact .inl ⟨hid, hfiled, hmine⟩
  · intro id hid
    rcases h.gone id hid with hexists | ⟨c, rfl | hc, hread⟩
    · exact .inl hexists
    · exact .inr (.inl (hgone (ne_nil_of_mem hid) hread))
    · exact .inr (.inr ⟨c, hc, hread⟩)

theorem read (h : f.Accounted (insert (i, .idle) others)) (halone : (i, .idle) ∉ others) :
    f.Accounted (insert (i, .replacing f.filed f.filed []) others) := by
  have hok : (Stage.replacing f.filed f.filed []).Ok f :=
    ⟨.inl rfl, fun id hid => h.issued id (.inr hid), fun _ hid => hid, fun _ hid _ => hid⟩
  exact h.move halone hok rfl (fun id hid => .inr hid) fun _ _ => rfl

theorem miss (h : f.Accounted (insert (i, .replacing prior [] created) others))
    (halone : (i, .replacing prior [] created) ∉ others) (hmiss : f.filed ≠ prior) :
    f.Accounted (insert (i, .finished created) others) :=
  h.move halone (Stage.ok_of_prior_nil rfl rfl) rfl nofun fun _ hread => absurd hread.symm hmiss

theorem delete (h : f.Accounted (insert (i, .replacing prior (id :: rest) created) others))
    (halone : (i, .replacing prior (id :: rest) created) ∉ others) :
    Accounted { f with existing := f.existing \ {id} }
      (insert (i, .replacing prior rest created) others) := by
  have hme := h.ok _ (.inl rfl)
  have hid : id ∈ prior := hme.rest id mem_cons_self
  -- No client holds what another one has read.
  have hheld : ∀ c ∈ insert (i, .replacing prior (id :: rest) created) others,
      ∀ id' ∈ c.2.holds, id' ∈ f.existing \ {id} ∧ id' ∉ f.filed := by
    intro c hc id' hid'
    obtain ⟨hexists, hfiled⟩ := h.held c hc id' hid'
    refine ⟨⟨hexists, ?_⟩, hfiled⟩
    rintro rfl
    exact h.unread c hc _ (.inl rfl) id' hid' hid
  apply h.next halone
  · exact fun id' hid' => h.issued id' (hid'.imp_left And.left)
  · intro c hc
    have hok := h.ok c (.inr hc)
    exact ⟨hok.read, hok.issued, hok.rest, fun id' hid' hexists => hok.deleted id' hid' hexists.1⟩
  · exact fun c hc => hheld c (.inr hc)
  · refine ⟨hme.read, hme.issued, fun id' hid' => hme.rest id' (mem_cons_of_mem _ hid'), ?_⟩
    intro id' hid' hexists
    exact (mem_cons.mp (hme.deleted id' hid' hexists.1)).resolve_left hexists.2
  · exact hheld _ (.inl rfl)
  · exact fun id' hid' => .inl hid'
  · exact fun id' hid' => .inl hid'
  · intro id' hid'
    by_cases hfiled : id' ∈ f.filed
    · exact .inr (.inl hfiled)
    · by_cases hmine : id' ∈ created
      · exact .inr (.inr hmine)
      · exact .inl ⟨hid'.1, hfiled, hmine⟩
  · intro id' hid'
    by_cases heq : id' = id
    · subst heq
      exact .inr (.inl (hme.read.resolve_right fun hnot => hnot id' hid hid'))
    · rcases h.gone id' hid' with hexists | ⟨c, rfl | hc, hread⟩
      · exact .inl ⟨hexists, heq⟩
      · exact .inr (.inl hread)
      · exact .inr (.inr ⟨c, hc, hread⟩)

theorem create (h : f.Accounted (insert (i, .replacing prior [] created) others))
    (halone : (i, .replacing prior [] created) ∉ others) (hfresh : id ∉ f.issued) :
    Accounted { f with existing := insert id f.existing, issued := insert id f.issued }
      (insert (i, .replacing prior [] (created ++ [id])) others) := by
  have hnew : id ∉ f.filed := fun hid => hfresh (h.issued id (.inr hid))
  have hok : ∀ c ∈ insert (i, .replacing prior [] created) others,
      c.2.Ok { f with existing := insert id f.existing, issued := insert id f.issued } := by
    intro c hc
    have hok := h.ok c hc
    refine ⟨hok.read, fun id' hid' => .inr (hok.issued id' hid'), hok.rest, ?_⟩
    rintro id' hid' (rfl | hexists)
    · exact absurd (hok.issued id' hid') hfresh
    · exact hok.deleted id' hid' hexists
  have hheld : ∀ c ∈ insert (i, .replacing prior [] created) others, ∀ id' ∈ c.2.holds,
      id' ∈ insert id f.existing ∧ id' ∉ f.filed := fun c hc id' hid' =>
    (h.held c hc id' hid').imp_left .inr
  apply h.next halone
  · rintro id' ((rfl | hexists) | hfiled)
    · exact .inl rfl
    · exact .inr (h.issued id' (.inl hexists))
    · exact .inr (h.issued id' (.inr hfiled))
  · exact fun c hc => hok c (.inr hc)
  · exact fun c hc => hheld c (.inr hc)
  · have hme := hok _ (.inl rfl)
    exact ⟨hme.read, hme.issued, hme.rest, hme.deleted⟩
  · intro id' hid'
    rcases mem_append.mp hid' with hold | hlast
    · exact hheld _ (.inl rfl) id' hold
    · rw [mem_singleton.mp hlast]
      exact ⟨.inl rfl, hnew⟩
  · exact fun id' hid' => .inl hid'
  · intro id' hid'
    rcases mem_append.mp hid' with hold | hlast
    · exact .inl hold
    · rw [mem_singleton.mp hlast]
      exact .inr hfresh
  · rintro id' (rfl | hexists)
    · exact .inr (.inr (by simp [Stage.holds]))
    · by_cases hfiled : id' ∈ f.filed
      · exact .inr (.inl hfiled)
      · by_cases hmine : id' ∈ created
        · exact .inr (.inr (mem_append_left _ hmine))
        · exact .inl ⟨hexists, hfiled, hmine⟩
  · intro id' hid'
    rcases h.gone id' hid' with hexists | ⟨c, rfl | hc, hread⟩
    · exact .inl (.inr hexists)
    · exact .inr (.inl hread)
    · exact .inr (.inr ⟨c, hc, hread⟩)

theorem hit (h : f.Accounted (insert (i, .replacing f.filed [] created) others))
    (halone : (i, .replacing f.filed [] created) ∉ others) :
    Accounted { f with filed := created } (insert (i, .finished []) others) := by
  have hme := h.ok _ (.inl rfl)
  have hmine := h.held _ (.inl rfl)
  apply h.next halone
  · exact fun id' hid' => h.issued id' (hid'.elim .inl fun hcreated => .inl (hmine id' hcreated).1)
  · intro c hc
    have hok := h.ok c (.inr hc)
    refine ⟨.inr fun id' hid' hcreated => ?_, hok.issued, hok.rest, hok.deleted⟩
    exact h.unread _ (.inl rfl) c (.inr hc) id' hcreated hid'
  · intro c hc id' hid'
    refine ⟨(h.held c (.inr hc) id' hid').1, fun hcreated => halone ?_⟩
    rw [h.apart _ (.inl rfl) c (.inr hc) id' hcreated hid']
    exact hc
  · exact Stage.ok_of_prior_nil rfl rfl
  · exact nofun
  · exact nofun
  · exact nofun
  · intro id' hid'
    -- What was on file has been deleted by this client.
    have hfiled : id' ∉ f.filed := fun hfiled => by cases hme.deleted id' hfiled hid'
    by_cases hcreated : id' ∈ created
    · exact .inr (.inl hcreated)
    · exact .inl ⟨hid', hfiled, hcreated⟩
  · exact fun id' hid' => .inl (hmine id' hid').1

/-- Once every client is finished, what exists beyond the file is what they have left. -/
theorem existing_iff {clients : Set (ℕ × Stage ι)} (h : f.Accounted clients)
    (hfinished : ∀ c ∈ clients, c.2.prior = []) :
    (∀ id, id ∈ f.existing ↔ id ∈ f.filed) ↔ ∀ c ∈ clients, c.2.holds = [] := by
  constructor
  · intro heq c hc
    apply eq_nil_iff_forall_not_mem.mpr
    intro id hid
    obtain ⟨hexists, hfiled⟩ := h.held c hc id hid
    exact hfiled ((heq id).mp hexists)
  · intro hnone id
    constructor
    · intro hexists
      apply (h.known id hexists).resolve_right
      rintro ⟨c, hc, hid⟩
      rw [hnone c hc] at hid
      cases hid
    · intro hfiled
      apply (h.gone id hfiled).resolve_right
      rintro ⟨c, hc, hread⟩
      rw [← hread, hfinished c hc] at hfiled
      cases hfiled

end Accounted

end Filing

end Wardnet.Base
