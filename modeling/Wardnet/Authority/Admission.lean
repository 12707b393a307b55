/-
# A registration that runs alone

`register_network` of the service checks the request, reads the tenant and its license, and
runs the transaction of the repository. When nothing else runs and no statement fails, its
outcome is a function of the tables: it succeeds exactly when the license has room, slug and key
are free and the columns take the values, and it changes the tables only then. The service does
not check the length of a display name, so that one that is too long is an internal error.
-/

import Wardnet.Authority.Registration
import Wardnet.Authority.World

namespace Wardnet.Tenants

open Base

namespace Fleet

/-- Slugs are unique over the networks, and a daemon has the tenant of its network. Public keys
are unique over the daemons by the type of the table. -/
structure Ok (fleet : Fleet) : Prop where
  slugs : ∀ id id' row row', fleet.networks.get? id = some row →
    fleet.networks.get? id' = some row' → row.slug = row'.slug → id = id'
  tenants : ∀ publicKey daemon, fleet.daemons.get? publicKey = some daemon →
    ∃ row, fleet.networks.get? daemon.networkId = some row ∧ row.tenantId = daemon.tenantId

/-- The license has room for a network and a daemon, and slug and key are free. -/
structure Admits (fleet : Fleet) (row : NetworkRow) (publicKey : String) (license : Entitlement) :
    Prop where
  networks : (fleet.networks.select fun _ r => r.tenantId = row.tenantId).length <
    license.maxNetworks
  daemons : (fleet.daemons.select fun _ r => r.tenantId = row.tenantId).length < license.maxDaemons
  slug : ∀ id r, fleet.networks.get? id = some r → r.slug ≠ row.slug
  key : fleet.daemons.get? publicKey = none

/-- The tables with one network and one daemon more, and without the pending enrollment. -/
def add (fleet : Fleet) (networkId : String) (row : NetworkRow) (publicKey : String) : Fleet where
  networks := fleet.networks.insert networkId row
  daemons := fleet.daemons.insert publicKey ⟨row.tenantId, networkId⟩
  pending := fleet.pending.erase publicKey

variable {fleet : Fleet} {networkId : String} {row : NetworkRow} {publicKey : String}
  {license : Entitlement}

theorem registerNetwork_of_admits (hfresh : fleet.networks.get? networkId = none)
    (h : fleet.Admits row publicKey license) (hrow : row.fits = true)
    (hkey : fitsVarchar 64 publicKey = true) :
    fleet.registerNetwork networkId row publicKey license.maxNetworks license.maxDaemons =
      some (.created, fleet.add networkId row publicKey) := by
  have hslug := NetworkTable.slugFree_iff.mpr h.slug
  simp [registerNetwork, Nat.not_le_of_lt h.networks, Nat.not_le_of_lt h.daemons, hrow, hslug,
    Store.contains, hfresh, hkey, h.key, add]

variable (networkId) in
/-- A value that its column does not take is a failed statement. -/
theorem registerNetwork_of_not_fits (h : fleet.Admits row publicKey license)
    (hrow : row.fits = false) : fleet.registerNetwork networkId row publicKey license.maxNetworks
      license.maxDaemons = none := by
  simp [registerNetwork, Nat.not_le_of_lt h.networks, Nat.not_le_of_lt h.daemons, hrow]

variable (networkId) in
/-- A registration that is not admitted, or whose values do not fit, is refused. -/
theorem registerNetwork_of_not_admits
    (h : ¬ (fleet.Admits row publicKey license ∧ row.fits = true ∧
      fitsVarchar 64 publicKey = true)) :
    fleet.registerNetwork networkId row publicKey license.maxNetworks license.maxDaemons = none ∨
      ∃ outcome, outcome ≠ .created ∧ fleet.registerNetwork networkId row publicKey
        license.maxNetworks license.maxDaemons = some (outcome, fleet) := by
  unfold registerNetwork
  split
  · exact .inr ⟨.networkLimit, by decide, rfl⟩
  rename_i hnetworks
  split
  · exact .inr ⟨.daemonLimit, by decide, rfl⟩
  rename_i hdaemons
  split
  · exact .inl rfl
  rename_i hrow
  split
  · exact .inr ⟨.slugTaken, by decide, rfl⟩
  rename_i hslug
  split
  · exact .inl rfl
  split
  · exact .inl rfl
  rename_i hfits
  split
  · exact .inr ⟨.daemonExists, by decide, rfl⟩
  · rename_i hkey
    refine absurd ⟨⟨Nat.lt_of_not_le hnetworks, Nat.lt_of_not_le hdaemons, ?_, ?_⟩,
      by simpa using hrow, by simpa using hfits⟩ h
    · exact NetworkTable.slugFree_iff.mp (by simpa using hslug)
    · simpa [Store.contains] using hkey

theorem Ok.add (h : fleet.Ok) (hfresh : fleet.networks.get? networkId = none)
    (hadmits : fleet.Admits row publicKey license) : (fleet.add networkId row publicKey).Ok where
  slugs id id' r r' hr hr' hslug := by
    rcases Store.get?_of_insert hr with ⟨rfl, rfl⟩ | ⟨-, hold⟩
    · rcases Store.get?_of_insert hr' with ⟨rfl, -⟩ | ⟨-, hold'⟩
      · rfl
      · exact absurd hslug.symm (hadmits.slug id' r' hold')
    · rcases Store.get?_of_insert hr' with ⟨-, rfl⟩ | ⟨-, hold'⟩
      · exact absurd hslug (hadmits.slug id r hold)
      · exact h.slugs id id' r r' hold hold' hslug
  tenants key daemon hdaemon := by
    simp only [Fleet.add, Store.get?_insert] at hdaemon ⊢
    split at hdaemon
    · cases hdaemon
      exact ⟨row, by simp, rfl⟩
    · obtain ⟨r, hr, htenant⟩ := h.tenants key daemon hdaemon
      have hne : daemon.networkId ≠ networkId := by
        intro heq
        rw [heq, hfresh] at hr
        cases hr
      exact ⟨r, by simp [hne, hr], htenant⟩

end Fleet

end Wardnet.Tenants

namespace Wardnet.Authority

open Base Tenants

/-- A database that fails nothing and serves nobody else. The registration of a network is the
run of its transaction; the tenant of the rows must be there. -/
def Database.alone (choice : Choice) : (c : Call) → Database → Option (c.Resp × Database)
  | .registerNetwork networkId row publicKey maxNetworks maxDaemons, s =>
    if s.tenantExists row.tenantId then
      ((Registration.registerNetwork
        ⟨networkId, row, publicKey, maxNetworks, maxDaemons⟩).run.runWith Registration.perform
          ⟨s.fleet, [], [], []⟩).map fun out => (out.1, { s with fleet := out.2.committed })
    else perform choice (.registerNetwork networkId row publicKey maxNetworks maxDaemons) s
  | c, s => perform choice c s

theorem runWith_orInternal {α β : Type}
    {answer : (c : Call) → Database → Option (c.Resp × Database)}
    (p : Proc (Except Failure α)) (f : α → ExceptT TenantsError Proc β) (s : Database) :
    (orInternal p >>= f).run.runWith answer s =
      (p.runWith answer s).bind fun out => match out.1 with
        | .ok value => (f value).run.runWith answer out.2
        | .error _ => some (.error .internal, out.2) := by
  have hbind : (orInternal p >>= f).run =
      (p.bind fun r => .ret (r.mapError fun _ => TenantsError.internal)).bind
        (ExceptT.bindCont f) := rfl
  rw [hbind, Prog.bind_assoc, Prog.runWith_bind]
  congr
  funext out
  cases out.1 with
  | ok | error => rfl

section

variable (config : Config) (choice : Choice) {s : Database}
  {networkId tenantId publicKey slug region : String} {displayName : Option String}
  {license : Subscriptions.Subscription}

def answerOf (slug : String) : Option RegisterNetworkOutcome → Except TenantsError Unit
  | none => .error .internal
  | some .created => .ok ()
  | some .slugTaken => .error (.conflict ("'" ++ slug ++ "' is already taken"))
  | some .networkLimit => .error (.entitlementExceeded "tenant has reached its network limit")
  | some .daemonLimit => .error (.entitlementExceeded "tenant has reached its daemon limit")
  | some .daemonExists => .error (.conflict "this daemon is already registered")

/-- A request that passes the checks comes down to the transaction. -/
theorem runWith_service (hslug : isValidName slug = true)
    (hregion : trim region ∈ config.regions) (htenant : s.tenantExists tenantId = true)
    (hlicense : s.subscriptions.findCurrent tenantId = some license)
    {out : Option (RegisterNetworkOutcome × Fleet)}
    (htables : s.fleet.registerNetwork networkId
      (newNetwork tenantId slug displayName (trim region)) publicKey
        license.entitlement.maxNetworks license.entitlement.maxDaemons = out) :
    (registerNetwork config networkId tenantId publicKey slug displayName region).run.runWith
      (Database.alone choice) s = some (answerOf slug (out.map Prod.fst),
        { s with fleet := (out.map Prod.snd).getD s.fleet }) := by
  unfold registerNetwork
  simp only [hslug, hregion, not_true_eq_false, if_false, Bool.not_true, Bool.false_eq_true]
  have hfind : (issue (.findTenant tenantId)).runWith (Database.alone choice) s =
      some (.ok (s.tenants.findById tenantId), s) := rfl
  have hcurrent : (issue (.findCurrent tenantId)).runWith (Database.alone choice) s =
      some (.ok (some license), s) := by
    rw [← hlicense]
    rfl
  have htransaction : (issue (.registerNetwork networkId
      (newNetwork tenantId slug displayName (trim region)) publicKey
        license.entitlement.maxNetworks license.entitlement.maxDaemons)).runWith
          (Database.alone choice) s = some ((out.map Prod.fst).elim (.error .failed) .ok,
            { s with fleet := (out.map Prod.snd).getD s.fleet }) := by
    rw [issue, Base.perform, Prog.runWith]
    simp only [Database.alone, newNetwork, htenant, if_true] at htables ⊢
    rw [Registration.runWith_registerNetwork, htables]
    cases out <;> rfl
  have hsome : (s.tenants.findById tenantId).isNone = false := by
    rw [Option.isNone_eq_false_iff]
    exact htenant
  rw [runWith_orInternal, hfind]
  simp only [Option.bind_some, hsome, Bool.false_eq_true, if_false]
  rw [runWith_orInternal, hcurrent]
  simp only [Option.bind_some]
  rw [runWith_orInternal, htransaction]
  rcases out with _ | ⟨outcome, fleet⟩
  · rfl
  · cases outcome <;> rfl

variable (publicKey displayName) in
/-- A registration returns; it succeeds exactly when it is admitted and the columns take its
values; it then adds the network and the daemon and removes the pending enrollment; otherwise it
changes nothing; and the invariants stay. -/
theorem registration_exact (hok : s.fleet.Ok) (hslug : isValidName slug = true)
    (hregion : trim region ∈ config.regions) (htenant : s.tenantExists tenantId = true)
    (hlicense : s.subscriptions.findCurrent tenantId = some license)
    (hfresh : s.fleet.networks.get? networkId = none) :
    ∃ r s', (registerNetwork config networkId tenantId publicKey slug displayName
        region).run.runWith (Database.alone choice) s = some (r, s') ∧
      (r = .ok () ↔ s.fleet.Admits (newNetwork tenantId slug displayName (trim region)) publicKey
          license.entitlement ∧
        (newNetwork tenantId slug displayName (trim region)).fits = true ∧
        fitsVarchar 64 publicKey = true) ∧
      (r = .ok () → s' = { s with
        fleet := s.fleet.add networkId (newNetwork tenantId slug displayName (trim region))
          publicKey }) ∧
      (r ≠ .ok () → s' = s) ∧ s'.fleet.Ok := by
  by_cases hadmits : s.fleet.Admits (newNetwork tenantId slug displayName (trim region)) publicKey
      license.entitlement ∧ (newNetwork tenantId slug displayName (trim region)).fits = true ∧
    fitsVarchar 64 publicKey = true
  · have htables := Fleet.registerNetwork_of_admits hfresh hadmits.1 hadmits.2.1 hadmits.2.2
    have hrun := runWith_service config choice hslug hregion htenant hlicense htables
    exact ⟨_, _, hrun, iff_of_true rfl hadmits, fun _ => rfl, fun hne => absurd rfl hne,
      hok.add hfresh hadmits.1⟩
  · rcases Fleet.registerNetwork_of_not_admits networkId hadmits with
      htables | ⟨outcome, hrefused, htables⟩
    · have hrun := runWith_service config choice hslug hregion htenant hlicense htables
      exact ⟨_, _, hrun, iff_of_false (by simp [answerOf]) hadmits, by simp [answerOf],
        fun _ => rfl, hok⟩
    · have hanswer : answerOf slug (some outcome) ≠ .ok () := by
        cases outcome with
        | created => exact absurd rfl hrefused
        | _ => simp [answerOf]
      have hrun := runWith_service config choice hslug hregion htenant hlicense htables
      exact ⟨_, _, hrun, iff_of_false hanswer hadmits, fun heq => absurd heq hanswer,
        fun _ => rfl, hok⟩

end

def sampleSignedUp : Database := ((world sampleConfig).system.runD (.start .empty) signup).state

theorem sampleSignedUp_fleet : sampleSignedUp.fleet = ⟨∅, ∅, ∅⟩ := rfl

theorem sampleSignedUp_ok : sampleSignedUp.fleet.Ok := by
  rw [sampleSignedUp_fleet]
  constructor <;> simp

theorem sampleSignedUp_license : ∃ license, sampleSignedUp.subscriptions.findCurrent "tenant-1" =
    some license ∧ license.entitlement = ⟨1, 1⟩ := ⟨_, rfl, rfl⟩

theorem sampleSignedUp_admits (row : NetworkRow) (publicKey : String) :
    sampleSignedUp.fleet.Admits row publicKey ⟨1, 1⟩ := by
  rw [sampleSignedUp_fleet]
  exact ⟨Nat.zero_lt_one, Nat.zero_lt_one, by simp, rfl⟩

/-- A name of blanks only is no display name. -/
theorem registration_exact_sample :
    ∃ s', (registerNetwork sampleConfig "net-1" "tenant-1" "key-1" "home" (some " ")
        "eu").run.runWith (Database.alone ⟨0, false, "tenant-1", []⟩) sampleSignedUp =
          some (.ok (), s') ∧
      s'.fleet.networks.get? "net-1" =
        some ⟨"tenant-1", "home", "home", "eu", .provisioning⟩ := by
  obtain ⟨license, hlicense, hlimits⟩ := sampleSignedUp_license
  have hslug : isValidName "home" = true := by decide +kernel
  have hregion : trim "eu" ∈ sampleConfig.regions := by decide +kernel
  have htenant : sampleSignedUp.tenantExists "tenant-1" = true := by decide +kernel
  have hrow : newNetwork "tenant-1" "home" (some " ") (trim "eu") =
      ⟨"tenant-1", "home", "home", "eu", .provisioning⟩ := by decide +kernel
  obtain ⟨r, s', hrun, hiff, hadded, -⟩ := registration_exact sampleConfig
    ⟨0, false, "tenant-1", []⟩ "key-1" (some " ") sampleSignedUp_ok hslug hregion htenant hlicense
    (show sampleSignedUp.fleet.networks.get? "net-1" = none by rw [sampleSignedUp_fleet]; rfl)
  rw [hrow, hlimits] at hiff
  obtain rfl := hiff.mpr ⟨sampleSignedUp_admits _ _, by decide +kernel, by decide +kernel⟩
  refine ⟨s', hrun, ?_⟩
  rw [hadded rfl, hrow]
  exact Store.get?_insert_self ..

def sampleLongName : String := .ofList (List.replicate 256 'x')

/-- The license has room and slug and key are free, but the display name has 256 characters. -/
theorem registration_too_long_name :
    ∃ license, sampleSignedUp.fleet.Ok ∧ isValidName "home" = true ∧
      trim "eu" ∈ sampleConfig.regions ∧ sampleSignedUp.tenantExists "tenant-1" = true ∧
      sampleSignedUp.subscriptions.findCurrent "tenant-1" = some license ∧
      sampleSignedUp.fleet.Admits (newNetwork "tenant-1" "home" (some sampleLongName) (trim "eu"))
        "key-1" license.entitlement ∧
      (registerNetwork sampleConfig "net-1" "tenant-1" "key-1" "home" (some sampleLongName)
        "eu").run.runWith (Database.alone ⟨0, false, "tenant-1", []⟩) sampleSignedUp =
          some (.error .internal, sampleSignedUp) := by
  obtain ⟨license, hlicense, hlimits⟩ := sampleSignedUp_license
  have hslug : isValidName "home" = true := by decide +kernel
  have hregion : trim "eu" ∈ sampleConfig.regions := by decide +kernel
  have htenant : sampleSignedUp.tenantExists "tenant-1" = true := by decide +kernel
  have hrow : (newNetwork "tenant-1" "home" (some sampleLongName) (trim "eu")).fits = false := by
    decide +kernel
  have hadmits : sampleSignedUp.fleet.Admits
      (newNetwork "tenant-1" "home" (some sampleLongName) (trim "eu")) "key-1"
        license.entitlement := by
    rw [hlimits]
    exact sampleSignedUp_admits _ _
  exact ⟨license, sampleSignedUp_ok, hslug, hregion, htenant, hlicense, hadmits,
    runWith_service sampleConfig _ hslug hregion htenant hlicense
      (Fleet.registerNetwork_of_not_fits "net-1" hadmits hrow)⟩

end Wardnet.Authority
