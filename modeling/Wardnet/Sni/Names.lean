/-
# Names, from registration to routing

A network is registered under a slug, the provisioner publishes it as a host under the parent
domain of the region, and a tunneller takes the slug back out of the host name that a TLS client
asks for. The names agree: every host under the published name gives the slug that was registered,
and a host gives a slug only if it is such a host.
-/

import Wardnet.Authority.World
import Wardnet.Ddns.Passes

namespace Wardnet.Sni

open Base Authority Ddns Tenants

/-- `extract_slug`: the last label before the suffix, if it is a valid name. -/
def extractSlug (hostname subdomainDotSuffix : String) : Option String :=
  (stripSuffix subdomainDotSuffix hostname).bind fun first =>
    let slug := lastPart '.' first
    if isValidName slug then some slug else none

def dotSuffix (subdomainParent : String) : String := "." ++ subdomainParent

def withLabels (labels : List String) (name : String) : String :=
  labels.foldr (fun label rest => label ++ "." ++ rest) name

/-- `register_network` takes the slug: with some answers of the database it succeeds. -/
def Accepts (slug : String) : Prop :=
  ∃ config networkId tenantId publicKey displayName region,
    ¬ (registerNetwork config networkId tenantId publicKey slug displayName region).run.Always
      (· ≠ .ret (.ok ()))

theorem accepts_iff {slug : String} : Accepts slug ↔ isValidName slug = true := by
  constructor
  · rintro ⟨config, networkId, tenantId, publicKey, displayName, region, hreturns⟩
    by_contra hinvalid
    apply hreturns
    rw [registerNetwork, if_pos (by simpa using hinvalid)]
    rintro ⟨⟩
  · intro hvalid
    refine ⟨sampleConfig, "network", "tenant", "key", none, "eu", fun hrefused => ?_⟩
    rw [registerNetwork, if_neg (by simp [hvalid]), if_neg (by decide +kernel)] at hrefused
    exact (hrefused.2 (.ok (some ⟨"owner@example.com", none⟩))).2
      (.ok (some ⟨"tenant", .trialing, ⟨1, 1⟩, none, none⟩)) |>.2 (.ok .created) rfl

theorem not_mem_of_isValidName {slug : String} (h : isValidName slug = true) :
    '.' ∉ slug.toList := by
  intro hdot
  simp only [isValidName, Bool.decide_and, Bool.and_eq_true, decide_eq_true_eq] at h
  have hchars := List.all_eq_true.mp h.2.2.2.2.1 _ hdot
  exact absurd hchars (by decide)

theorem withLabels_cases (labels : List String) (name : String) :
    withLabels labels name = name ∨ ∃ first, withLabels labels name = first ++ "." ++ name := by
  induction labels with
  | nil => exact .inl rfl
  | cons label labels ih =>
    have hcons : withLabels (label :: labels) name = label ++ "." ++ withLabels labels name := rfl
    right
    rcases ih with h | ⟨first, h⟩
    · exact ⟨label, by rw [hcons, h]⟩
    · exact ⟨label ++ "." ++ first, by simp only [hcons, h, String.append_assoc]⟩

theorem extractSlug_of_host {host slug subdomainParent : String} (hvalid : isValidName slug = true)
    (hhost : host = slug ++ dotSuffix subdomainParent ∨
      ∃ first, host = first ++ "." ++ slug ++ dotSuffix subdomainParent) :
    extractSlug host (dotSuffix subdomainParent) = some slug := by
  have hdot := not_mem_of_isValidName hvalid
  rcases hhost with rfl | ⟨first, rfl⟩
  · rw [extractSlug, stripSuffix_eq_some_iff.mpr rfl, Option.bind_some, lastPart_eq_self hdot]
    exact if_pos hvalid
  · have hlast : lastPart '.' (first ++ "." ++ slug) = slug := lastPart_append hdot first
    rw [extractSlug, stripSuffix_eq_some_iff.mpr rfl, Option.bind_some, hlast]
    exact if_pos hvalid

theorem host_of_extractSlug {host slug subdomainParent : String}
    (h : extractSlug host (dotSuffix subdomainParent) = some slug) :
    isValidName slug = true ∧ (host = slug ++ dotSuffix subdomainParent ∨
      ∃ first, host = first ++ "." ++ slug ++ dotSuffix subdomainParent) := by
  obtain ⟨before, hbefore, hslug⟩ := Option.bind_eq_some_iff.mp h
  dsimp only at hslug
  split at hslug
  · rename_i hvalid
    cases hslug
    rw [stripSuffix_eq_some_iff.mp hbefore]
    refine ⟨hvalid, ?_⟩
    rcases eq_or_eq_append_lastPart '.' before with heq | ⟨first, heq⟩
    · exact .inl (congrArg (· ++ dotSuffix subdomainParent) heq)
    · exact .inr ⟨first, congrArg (· ++ dotSuffix subdomainParent) heq⟩
  · cases hslug

/-- A slug that registration accepts is published, and every host under the name that the
provisioner publishes for it gives that slug. A host gives a slug only if it is the dotted parent
after the slug, with nothing or labels in front, and registration accepts the slug. -/
theorem names_agree (slug subdomainParent : String) :
    (∀ net : NetworkView, net.slug = slug → Accepts slug →
      ¬ (provisionNetwork subdomainParent net).All (fun c => c.publishes = none) ∧
      ∀ labels, (provisionNetwork subdomainParent net).All fun c => ∀ name,
        c.publishes = some name →
          extractSlug (withLabels labels name) (dotSuffix subdomainParent) = some slug) ∧
    ∀ host, extractSlug host (dotSuffix subdomainParent) = some slug ↔
      Accepts slug ∧ (host = slug ++ dotSuffix subdomainParent ∨
        ∃ first, host = first ++ "." ++ slug ++ dotSuffix subdomainParent) := by
  refine ⟨?_, fun host => ⟨fun h => ?_, fun h => ?_⟩⟩
  · rintro net rfl haccepts
    refine ⟨fun hsilent => ?_, fun labels => ?_⟩
    · -- The network has reported an address, and has no record yet.
      have hupsert := ((hsilent.2 (.ok (some ⟨some "192.0.2.1", none, none, []⟩))).2 (.ok none)).1
      cases hupsert
    · refine (provisionNetwork_publishes subdomainParent net).mono fun c hc name hname => ?_
      rw [hc name hname, String.append_assoc]
      apply extractSlug_of_host (accepts_iff.mp haccepts)
      refine (withLabels_cases labels _).imp_right ?_
      rintro ⟨first, heq⟩
      exact ⟨first, by simp only [heq, dotSuffix, String.append_assoc]⟩
  · obtain ⟨hvalid, hhost⟩ := host_of_extractSlug h
    exact ⟨accepts_iff.mpr hvalid, hhost⟩
  · exact extractSlug_of_host (accepts_iff.mp h.1) h.2

theorem names_agree_sample : Accepts "alice" ∧
    extractSlug "jellyfin.alice.my.wardnet.services" ".my.wardnet.services" = some "alice" := by
  have haccepts : Accepts "alice" := accepts_iff.mpr (by decide +kernel)
  refine ⟨haccepts, ((names_agree "alice" "my.wardnet.services").2 _).mpr ⟨haccepts, .inr ?_⟩⟩
  exact ⟨"jellyfin", by decide +kernel⟩

end Wardnet.Sni
