/-
# Network registration, statement by statement

`register_network` is one transaction: it counts the networks and daemons of the
tenant, inserts the network and the daemon, and commits. Under READ COMMITTED a
statement sees the rows committed before it and those of its own transaction. An
insert waits while another open transaction holds the same unique key. Nothing
locks the rows that were counted, so overlapping registrations of one tenant may
pass its limits together. Registrations that do not overlap respect them.
-/

import Wardnet.Authority.State

namespace Wardnet.Authority.Registration

open Base Tenants Outline

/-! ## The database -/

/-- What a transaction has written and not committed yet. -/
structure Draft where
  networks : List (String × NetworkRow)
  daemons : List (String × DaemonRow)
  /-- The public keys whose pending enrollments it has deleted. -/
  enrolled : List String
  deriving DecidableEq

def Draft.empty : Draft := ⟨[], [], []⟩

def Draft.slugs (draft : Draft) : List String := draft.networks.map (·.2.slug)

def Draft.publicKeys (draft : Draft) : List String := draft.daemons.map Prod.fst

/-- The committed rows, and the unique keys that open transactions hold. -/
structure Server where
  committed : Fleet
  networkIds : List String
  slugs : List String
  publicKeys : List String

def Server.release (s : Server) (draft : Draft) : Server :=
  { s with
    networkIds := s.networkIds.diff (draft.networks.map Prod.fst)
    slugs := s.slugs.diff draft.slugs
    publicKeys := s.publicKeys.diff draft.publicKeys }

def Draft.apply (draft : Draft) (fleet : Fleet) : Fleet where
  networks := draft.networks.foldl (fun table entry => table.insert entry.1 entry.2) fleet.networks
  daemons := draft.daemons.foldl (fun table entry => table.insert entry.1 entry.2) fleet.daemons
  pending := draft.enrolled.foldl Store.erase fleet.pending

/-- The statements of a registration, each with what its transaction has written. -/
inductive Statement
  | begin
  | countNetworks (draft : Draft) (tenantId : String)
  | countDaemons (draft : Draft) (tenantId : String)
  | insertNetwork (draft : Draft) (networkId : String) (row : NetworkRow)
  | insertDaemon (draft : Draft) (publicKey : String) (row : DaemonRow)
  | deletePending (draft : Draft) (publicKey : String)
  | commit (draft : Draft)
  | rollback (draft : Draft)

/-- What a statement answers. An insert that affects a row, and the deletion, return
what the transaction has then written. -/
@[reducible]
def Statement.Resp : Statement → Type
  | .begin | .commit _ | .rollback _ => Except Failure Unit
  | .countNetworks .. | .countDaemons .. => Except Failure ℕ
  | .insertNetwork .. | .insertDaemon .. => Except Failure (Option Draft)
  | .deletePending .. => Except Failure Draft

def Statement.draft : Statement → Draft
  | .begin => .empty
  | .countNetworks draft _ | .countDaemons draft _ | .insertNetwork draft ..
  | .insertDaemon draft .. | .deletePending draft _ | .commit draft | .rollback draft => draft

def networksOf (networks : NetworkTable) (tenantId : String) : ℕ :=
  (networks.select fun _ row => row.tenantId = tenantId).length

def daemonsOf (daemons : Store String DaemonRow) (tenantId : String) : ℕ :=
  (daemons.select fun _ row => row.tenantId = tenantId).length

/-- The effect of a statement that does not fail by itself, or `none` while it
waits for another transaction. -/
def perform : (c : Statement) → Server → Option (c.Resp × Server)
  | .begin, s => some (.ok (), s)
  | .countNetworks draft tenantId, s =>
    some (.ok (networksOf s.committed.networks tenantId +
      draft.networks.countP fun entry => entry.2.tenantId = tenantId), s)
  | .countDaemons draft tenantId, s =>
    some (.ok (daemonsOf s.committed.daemons tenantId +
      draft.daemons.countP fun entry => entry.2.tenantId = tenantId), s)
  | .insertNetwork draft networkId row, s =>
    -- `ON CONFLICT (slug) DO NOTHING`; a clash of the primary key is a failure, and so is a value
    -- that its column does not take.
    if !row.fits then some (.error .failed, s.release draft)
    else if !s.committed.networks.slugFree row.slug ∨ row.slug ∈ draft.slugs then some (.ok none, s)
    else if row.slug ∈ s.slugs then none
    else if s.committed.networks.contains networkId then some (.error .failed, s.release draft)
    else if networkId ∈ s.networkIds then none
    else
      some (.ok (some { draft with networks := draft.networks ++ [(networkId, row)] }),
        { s with networkIds := networkId :: s.networkIds, slugs := row.slug :: s.slugs })
  | .insertDaemon draft publicKey row, s =>
    -- `ON CONFLICT (public_key) DO NOTHING`
    if !fitsVarchar 64 publicKey then some (.error .failed, s.release draft)
    else if s.committed.daemons.contains publicKey ∨ publicKey ∈ draft.publicKeys then
      some (.ok none, s)
    else if publicKey ∈ s.publicKeys then none
    else
      some (.ok (some { draft with daemons := draft.daemons ++ [(publicKey, row)] }),
        { s with publicKeys := publicKey :: s.publicKeys })
  | .deletePending draft publicKey, s =>
    some (.ok { draft with enrolled := draft.enrolled ++ [publicKey] }, s)
  | .commit draft, s =>
    some (.ok (), { s.release draft with committed := draft.apply s.committed })
  | .rollback draft, s => some (.ok (), s.release draft)

def refuse : (c : Statement) → c.Resp
  | .begin | .countNetworks .. | .countDaemons .. | .insertNetwork .. | .insertDaemon ..
  | .deletePending .. | .commit _ | .rollback _ => .error .failed

/-- The effect of a statement. One that fails ends its transaction. -/
def exec (fails : Bool) (c : Statement) (s : Server) : Option (c.Resp × Server) :=
  if fails then some (refuse c, s.release c.draft) else perform c s

/-! ## The transaction -/

structure Request where
  networkId : String
  row : NetworkRow
  publicKey : String
  maxNetworks : ℕ
  maxDaemons : ℕ
  deriving DecidableEq

/-- A procedure of the repository, which gives up at the first failed statement. -/
abbrev Transaction := ExceptT Failure (Prog Statement Statement.Resp)

abbrev issue (c : Statement) : Prog Statement Statement.Resp c.Resp := Base.perform c

abbrev attempt {α : Type} (p : Prog Statement Statement.Resp (Except Failure α)) :
    Transaction α := ExceptT.mk p

def giveUp (draft : Draft) (outcome : RegisterNetworkOutcome) :
    Transaction RegisterNetworkOutcome := do
  attempt (issue (.rollback draft))
  pure outcome

/-- Both rows are there: drop the pending enrollment and commit. -/
def conclude (request : Request) (draft : Draft) : Transaction RegisterNetworkOutcome := do
  let draft ← attempt (issue (.deletePending draft request.publicKey))
  attempt (issue (.commit draft))
  pure .created

def Request.daemon (request : Request) : DaemonRow := ⟨request.row.tenantId, request.networkId⟩

/-- The network is there: insert the daemon. -/
def enroll (request : Request) (draft : Draft) : Transaction RegisterNetworkOutcome := do
  match ← attempt (issue (.insertDaemon draft request.publicKey request.daemon)) with
  | none => giveUp draft .daemonExists
  | some draft => conclude request draft

/-- There is room for both: insert the network. -/
def enlist (request : Request) : Transaction RegisterNetworkOutcome := do
  match ← attempt (issue (.insertNetwork .empty request.networkId request.row)) with
  | none => giveUp .empty .slugTaken
  | some draft => enroll request draft

/-- There is room for the network: count the daemons. -/
def checkDaemons (request : Request) : Transaction RegisterNetworkOutcome := do
  let daemonCount ← attempt (issue (.countDaemons .empty request.row.tenantId))
  if request.maxDaemons ≤ daemonCount then
    giveUp .empty .daemonLimit
  else
    enlist request

/-- `register_network` of the repository. -/
def registerNetwork (request : Request) : Transaction RegisterNetworkOutcome := do
  attempt (issue .begin)
  let networkCount ← attempt (issue (.countNetworks .empty request.row.tenantId))
  if request.maxNetworks ≤ networkCount then
    giveUp .empty .networkLimit
  else
    checkDaemons request

def world : World where
  State := Server
  Call := Statement
  Resp := Statement.Resp
  Choice := Bool
  exec := exec
  Task := Request
  Result := Except Failure RegisterNetworkOutcome
  body request := (registerNetwork request).run
  Env := Empty
  env e := e.elim

variable {fails : Bool} {s s' : Server}

/-- A statement fails and ends its transaction, or has its effect. -/
theorem exec_cases {c : Statement} {r : c.Resp} (hexec : exec fails c s = some (r, s')) :
    (r = refuse c ∧ s' = s.release c.draft) ∨ perform c s = some (r, s') := by
  unfold exec at hexec
  split at hexec
  · cases hexec
    exact .inl ⟨rfl, rfl⟩
  · exact .inr hexec

theorem insertNetwork_answer {draft : Draft} {networkId : String} {row : NetworkRow}
    {r : Except Failure (Option Draft)}
    (hexec : exec fails (.insertNetwork draft networkId row) s = some (r, s')) :
    r = .error .failed ∨ r = .ok none ∨
      r = .ok (some { draft with networks := draft.networks ++ [(networkId, row)] }) := by
  rcases exec_cases hexec with ⟨rfl, -⟩ | hperform
  · exact .inl rfl
  · simp only [perform] at hperform
    grind

theorem insertDaemon_answer {draft : Draft} {publicKey : String} {row : DaemonRow}
    {r : Except Failure (Option Draft)}
    (hexec : exec fails (.insertDaemon draft publicKey row) s = some (r, s')) :
    r = .error .failed ∨ r = .ok none ∨
      r = .ok (some { draft with daemons := draft.daemons ++ [(publicKey, row)] }) := by
  rcases exec_cases hexec with ⟨rfl, -⟩ | hperform
  · exact .inl rfl
  · simp only [perform] at hperform
    grind

/-! ## A registration that runs alone -/

theorem runWith_attempt {α β : Type} (p : Prog Statement Statement.Resp (Except Failure α))
    (f : α → Transaction β) (s : Server) :
    (attempt p >>= f).run.runWith perform s = (p.runWith perform s).bind fun out => match out.1 with
        | .ok value => (f value).run.runWith perform out.2
        | .error e => some (.error e, out.2) := by
  have hbind : (attempt p >>= f).run = p.bind (ExceptT.bindCont f) := rfl
  rw [hbind, Prog.runWith_bind]
  congr
  funext out
  cases out.1 <;> rfl

theorem runWith_issue (c : Statement) (s : Server) : (issue c).runWith perform s = perform c s := by
  simp [issue, Base.perform, Prog.runWith]

theorem runWith_giveUp (draft : Draft) (outcome : RegisterNetworkOutcome) (s : Server) :
    (giveUp draft outcome).run.runWith perform s = some (.ok outcome, s.release draft) := rfl

theorem runWith_conclude (request : Request) (draft : Draft) (s : Server) :
    (conclude request draft).run.runWith perform s = some (.ok .created, { s.release draft with
        committed := Draft.apply { draft with enrolled := draft.enrolled ++ [request.publicKey] }
          s.committed }) := rfl

section

variable (fleet : Fleet) (request : Request)

theorem runWith_enroll :
    (enroll request ⟨[(request.networkId, request.row)], [], []⟩).run.runWith perform
        ⟨fleet, [request.networkId], [request.row.slug], []⟩ =
      if !fitsVarchar 64 request.publicKey then some (.error .failed, ⟨fleet, [], [], []⟩)
      else if fleet.daemons.contains request.publicKey then
        some (.ok .daemonExists, ⟨fleet, [], [], []⟩)
      else
        some (.ok .created, ⟨⟨fleet.networks.insert request.networkId request.row,
            fleet.daemons.insert request.publicKey request.daemon,
            fleet.pending.erase request.publicKey⟩, [], [], []⟩) := by
  rw [enroll, runWith_attempt, runWith_issue]
  split
  · rename_i hfits
    simp [perform, hfits, Server.release, Draft.slugs, Draft.publicKeys]
  split
  · rename_i hfits hdaemon
    simp [perform, hfits, hdaemon, runWith_giveUp, Server.release, Draft.slugs, Draft.publicKeys]
  · rename_i hfits hdaemon
    simp [perform, hfits, hdaemon, runWith_conclude, Server.release, Draft.slugs, Draft.publicKeys,
      Draft.apply]

theorem runWith_enlist : (enlist request).run.runWith perform ⟨fleet, [], [], []⟩ =
      if !request.row.fits then some (.error .failed, ⟨fleet, [], [], []⟩)
      else if !fleet.networks.slugFree request.row.slug then
        some (.ok .slugTaken, ⟨fleet, [], [], []⟩)
      else if fleet.networks.contains request.networkId then
        some (.error .failed, ⟨fleet, [], [], []⟩)
      else
        (enroll request ⟨[(request.networkId, request.row)], [], []⟩).run.runWith perform
          ⟨fleet, [request.networkId], [request.row.slug], []⟩ := by
  rw [enlist, runWith_attempt, runWith_issue]
  split
  · rename_i hfits
    simp [perform, hfits, Server.release, Draft.slugs, Draft.publicKeys, Draft.empty]
  split
  · rename_i hfits hslug
    simp [perform, hfits, hslug, runWith_giveUp, Server.release, Draft.slugs, Draft.publicKeys,
      Draft.empty]
  split
  · rename_i hfits hslug hid
    simp [perform, hfits, hslug, hid, Server.release, Draft.slugs, Draft.publicKeys, Draft.empty]
  · rename_i hfits hslug hid
    simp [perform, hfits, hslug, hid, Draft.slugs, Draft.empty]

theorem runWith_checkDaemons : (checkDaemons request).run.runWith perform ⟨fleet, [], [], []⟩ =
      if request.maxDaemons ≤ daemonsOf fleet.daemons request.row.tenantId then
        some (.ok .daemonLimit, ⟨fleet, [], [], []⟩)
      else
        (enlist request).run.runWith perform ⟨fleet, [], [], []⟩ := by
  rw [checkDaemons, runWith_attempt, runWith_issue]
  split
  · rename_i hfull
    simp [perform, hfull, Draft.empty, runWith_giveUp, Server.release, Draft.slugs,
      Draft.publicKeys]
  · rename_i hfull
    simp [perform, hfull, Draft.empty]

/-- A registration alone on the server does in one go what the tables say. -/
theorem runWith_registerNetwork :
    (registerNetwork request).run.runWith perform ⟨fleet, [], [], []⟩ =
      match fleet.registerNetwork request.networkId request.row request.publicKey
        request.maxNetworks request.maxDaemons with
      | some (outcome, fleet') => some (.ok outcome, ⟨fleet', [], [], []⟩)
      | none => some (.error .failed, ⟨fleet, [], [], []⟩) := by
  rw [registerNetwork, runWith_attempt, runWith_issue]
  simp only [perform, Option.bind_some]
  rw [runWith_attempt, runWith_issue]
  simp only [perform, Option.bind_some]
  unfold Fleet.registerNetwork
  by_cases hnetworks : request.maxNetworks ≤ networksOf fleet.networks request.row.tenantId
  · simp only [networksOf] at hnetworks
    simp [hnetworks, Draft.empty, runWith_giveUp, Server.release, Draft.slugs, Draft.publicKeys,
      networksOf]
  have hcheck : request.maxNetworks ≤ networksOf fleet.networks request.row.tenantId +
      Draft.empty.networks.countP (fun entry => entry.2.tenantId = request.row.tenantId) ↔ False :=
    iff_of_false hnetworks id
  simp only [hcheck, if_false]
  rw [runWith_checkDaemons, runWith_enlist, runWith_enroll]
  simp only [networksOf] at hnetworks
  simp only [hnetworks, if_false, daemonsOf]
  by_cases hdaemons : request.maxDaemons ≤
    (fleet.daemons.select fun _ row => row.tenantId = request.row.tenantId).length
  · simp [hdaemons]
  by_cases hrow : request.row.fits = false
  · simp [hdaemons, hrow]
  by_cases hslug : fleet.networks.slugFree request.row.slug = false
  · simp [hdaemons, hrow, hslug]
  by_cases hid : fleet.networks.contains request.networkId = true
  · simp [hdaemons, hrow, hslug, hid]
  by_cases hfits : fitsVarchar 64 request.publicKey = false
  · simp [hdaemons, hrow, hslug, hid, hfits]
  by_cases hkey : fleet.daemons.contains request.publicKey = true
  · simp [hdaemons, hrow, hslug, hid, hfits, hkey]
  · simp [hdaemons, hrow, hslug, hid, hfits, hkey, Request.daemon]

end

/-! ## The limits -/

def Statement.isCommit : Statement → Bool
  | .commit _ => true
  | _ => false

def Statement.isCountNetworks : Statement → Bool
  | .countNetworks .. => true
  | _ => false

/-- Only a commit changes what the others see. -/
theorem committed_of_exec {c : Statement} {r : c.Resp} (hc : c.isCommit = false)
    (hexec : exec fails c s = some (r, s')) :
    s'.committed = s.committed := by
  rcases exec_cases hexec with ⟨-, rfl⟩ | hperform
  · rfl
  cases c with
  | begin | countNetworks | countDaemons | deletePending | rollback =>
    cases hperform
    rfl
  | insertNetwork | insertDaemon =>
    simp only [perform] at hperform
    grind [Server.release]
  | commit => cases hc

def counted (log : List world.Event) : Bool :=
  log.any fun e => Statement.isCountNetworks e.call

/-- What a registration may rely on: nothing, room for a network of its tenant, or
room for a network and a daemon. -/
inductive Note
  | idle
  | room (tenantId : String)
  | admitted (tenantId : String)

instance : Inhabited Note := ⟨.idle⟩

def Note.Fits (request : Request) (log : List world.Event) : Note → Prop
  | .idle => True
  | .room tenantId | .admitted tenantId => request.row.tenantId = tenantId ∧ counted log = true

section

variable (tenantId : String) (maxNetworks maxDaemons : ℕ)

/-- The tenant is within its limits, with the room that its registrations rely on. -/
structure Within (fleet : Fleet) (notes : Set Note) : Prop where
  networks : networksOf fleet.networks tenantId ≤ maxNetworks
  daemons : daemonsOf fleet.daemons tenantId ≤ maxDaemons
  room : .room tenantId ∈ notes → networksOf fleet.networks tenantId < maxNetworks
  admitted : .admitted tenantId ∈ notes →
    networksOf fleet.networks tenantId < maxNetworks ∧ daemonsOf fleet.daemons tenantId < maxDaemons

def limits : Outline world Note where
  Inv s notes := Within tenantId maxNetworks maxDaemons (Server.committed s) notes
  Sees _ g request log pending := g.Fits request log ∧
    (g = .idle → ∀ c ∈ pending, Statement.isCommit c = false) ∧ (pending = none → g = .idle)
  Permits _ g rest c _ := Statement.isCommit c = true → g = .admitted tenantId →
    .room tenantId ∉ rest ∧ .admitted tenantId ∉ rest

variable {tenantId maxNetworks maxDaemons}

variable {fleet fleet' : Fleet} {g : Note} {rest : Set Note} {owner : String}

theorem Within.mono {notes notes' : Set Note}
    (h : Within tenantId maxNetworks maxDaemons fleet notes) (hfleet : fleet' = fleet)
    (hnotes : ∀ note ∈ notes', note = .idle ∨ note ∈ notes) :
    Within tenantId maxNetworks maxDaemons fleet' notes' := by
  subst hfleet
  refine ⟨h.networks, h.daemons, fun hroom => ?_, fun hadmitted => ?_⟩
  · exact h.room ((hnotes _ hroom).resolve_left (by simp))
  · exact h.admitted ((hnotes _ hadmitted).resolve_left (by simp))

theorem Within.forget (h : Within tenantId maxNetworks maxDaemons fleet (insert g rest))
    (hfleet : fleet' = fleet) :
    Within tenantId maxNetworks maxDaemons fleet' (insert .idle rest) := by
  apply h.mono hfleet
  rintro note (rfl | hrest)
  · exact .inl rfl
  · exact .inr (.inr hrest)

/-- A registration that has counted the networks may rely on room for one. -/
theorem Within.claim (h : Within tenantId maxNetworks maxDaemons fleet (insert g rest))
    (hroom : owner = tenantId → networksOf fleet.networks tenantId < maxNetworks) :
    Within tenantId maxNetworks maxDaemons fleet (insert (.room owner) rest) := by
  refine ⟨h.networks, h.daemons, ?_, ?_⟩
  · rintro (hnote | hnote)
    · cases hnote
      exact hroom rfl
    · exact h.room (.inr hnote)
  · rintro (hnote | hnote)
    · cases hnote
    · exact h.admitted (.inr hnote)

theorem Within.claimBoth
    (h : Within tenantId maxNetworks maxDaemons fleet (insert (.room owner) rest))
    (hroom : owner = tenantId → daemonsOf fleet.daemons tenantId < maxDaemons) :
    Within tenantId maxNetworks maxDaemons fleet (insert (.admitted owner) rest) := by
  refine ⟨h.networks, h.daemons, ?_, ?_⟩
  · rintro (hnote | hnote)
    · cases hnote
    · exact h.room (.inr hnote)
  · rintro (hnote | hnote)
    · cases hnote
      exact ⟨h.room (.inl rfl), hroom rfl⟩
    · exact h.admitted (.inr hnote)

theorem Within.commit {request : Request} (h : Within tenantId maxNetworks maxDaemons fleet
      (insert (.admitted request.row.tenantId) rest))
    (halone : request.row.tenantId = tenantId → .room tenantId ∉ rest ∧ .admitted tenantId ∉ rest) :
    Within tenantId maxNetworks maxDaemons
      (Draft.apply ⟨[(request.networkId, request.row)], [(request.publicKey, request.daemon)],
        [request.publicKey]⟩ fleet)
      (insert .idle rest) := by
  have hnetworks := fleet.networks.length_select_insert_le request.networkId request.row
    fun _ row => row.tenantId = tenantId
  have hdaemons := fleet.daemons.length_select_insert_le request.publicKey request.daemon
    fun _ row => row.tenantId = tenantId
  by_cases hown : request.row.tenantId = tenantId
  · obtain ⟨hroom, hadmitted⟩ := halone hown
    subst hown
    obtain ⟨hnet, hdae⟩ := h.admitted (Set.mem_insert _ _)
    simp only [Request.daemon, decide_true, if_true] at hnetworks hdaemons
    refine ⟨hnetworks.trans hnet, hdaemons.trans hdae, ?_, ?_⟩
    · rintro (hnote | hnote)
      · cases hnote
      · exact absurd hnote hroom
    · rintro (hnote | hnote)
      · cases hnote
      · exact absurd hnote hadmitted
  · simp only [Request.daemon, hown, decide_false, Bool.false_eq_true, if_false,
      Nat.add_zero] at hnetworks hdaemons
    refine ⟨hnetworks.trans h.networks, hdaemons.trans h.daemons, ?_, ?_⟩
    · rintro (hnote | hnote)
      · cases hnote
      · exact hnetworks.trans_lt (h.room (.inr hnote))
    · rintro (hnote | hnote)
      · cases hnote
      · obtain ⟨hnet, hdae⟩ := h.admitted (.inr hnote)
        exact ⟨hnetworks.trans_lt hnet, hdaemons.trans_lt hdae⟩

section

variable {i : ℕ} {request : Request} {g : Note} {log : List world.Event}

theorem sees_of_fits {c : Statement} (hg : g.Fits request log) (hc : c.isCommit = false) :
    (limits tenantId maxNetworks maxDaemons).Sees i g request log (some c) := by
  refine ⟨hg, fun _ c' hc' => ?_, fun hnone => nomatch hnone⟩
  cases hc'
  exact hc

section

variable {α : Type} {Q : Note → List world.Event → Except Failure α → Prop} {b : Prop} [Decidable b]
  {p q : Transaction α}

theorem wp_ite_pos (hb : b)
    (h : (limits tenantId maxNetworks maxDaemons).Wp i request Q g log p.run) :
    (limits tenantId maxNetworks maxDaemons).Wp i request Q g log (if b then p else q).run := by
  rwa [if_pos hb]

theorem wp_ite_neg (hb : ¬b)
    (h : (limits tenantId maxNetworks maxDaemons).Wp i request Q g log q.run) :
    (limits tenantId maxNetworks maxDaemons).Wp i request Q g log (if b then p else q).run := by
  rwa [if_neg hb]

end

theorem wp_giveUp {draft : Draft} {outcome : RegisterNetworkOutcome} (hg : g.Fits request log) :
    (limits tenantId maxNetworks maxDaemons).Wp i request (fun g' _ _ => g' = .idle) g log
      (giveUp draft outcome).run := by
  refine ⟨sees_of_fits hg rfl, fun s rest fails r s' hinv _ hexec => ?_⟩
  refine ⟨.idle, hinv.forget (committed_of_exec rfl hexec), ?_⟩
  cases r <;> rfl

theorem Note.Fits.concat {e : world.Event} (hg : g.Fits request log) :
    g.Fits request (log ++ [e]) := by
  cases g with
  | idle => trivial
  | room | admitted => exact ⟨hg.1, by simp [counted, ← hg.2]⟩

section

variable (hg : Note.Fits request log (.admitted request.row.tenantId))
include hg

theorem wp_conclude :
    (limits tenantId maxNetworks maxDaemons).Wp i request (fun g' _ _ => g' = .idle)
      (.admitted request.row.tenantId) log
      (conclude request ⟨[(request.networkId, request.row)],
        [(request.publicKey, request.daemon)], []⟩).run := by
  refine ⟨sees_of_fits hg rfl, fun s rest fails r s' hinv _ hexec => ?_⟩
  have hsame := committed_of_exec rfl hexec
  rcases exec_cases hexec with ⟨rfl, -⟩ | hperform
  · exact ⟨.idle, hinv.forget hsame, rfl⟩
  cases hperform
  refine ⟨_, hinv, ?_⟩
  refine ⟨⟨hg.concat, by simp, by simp⟩,
    fun s rest fails r s' hinv halone hexec => ⟨.idle, ?_, by cases r <;> rfl⟩⟩
  rcases exec_cases hexec with ⟨-, rfl⟩ | hperform
  · exact hinv.forget rfl
  · cases hperform
    exact hinv.commit fun hown => halone rfl (hown ▸ rfl)

theorem wp_enroll : (limits tenantId maxNetworks maxDaemons).Wp i request (fun g' _ _ => g' = .idle)
      (.admitted request.row.tenantId) log
      (enroll request ⟨[(request.networkId, request.row)], [], []⟩).run := by
  refine ⟨sees_of_fits hg rfl, fun s rest fails r s' hinv _ hexec => ?_⟩
  have hsame := committed_of_exec rfl hexec
  rcases insertDaemon_answer hexec with rfl | rfl | rfl
  · exact ⟨.idle, hinv.forget hsame, rfl⟩
  · exact ⟨_, hinv.mono hsame fun _ => .inr, wp_giveUp hg.concat⟩
  · exact ⟨_, hinv.mono hsame fun _ => .inr, wp_conclude hg.concat⟩

theorem wp_enlist : (limits tenantId maxNetworks maxDaemons).Wp i request (fun g' _ _ => g' = .idle)
      (.admitted request.row.tenantId) log (enlist request).run := by
  refine ⟨sees_of_fits hg rfl, fun s rest fails r s' hinv _ hexec => ?_⟩
  have hsame := committed_of_exec rfl hexec
  rcases insertNetwork_answer hexec with rfl | rfl | rfl
  · exact ⟨.idle, hinv.forget hsame, rfl⟩
  · exact ⟨_, hinv.mono hsame fun _ => .inr, wp_giveUp hg.concat⟩
  · exact ⟨_, hinv.mono hsame fun _ => .inr, wp_enroll hg.concat⟩

end

theorem wp_checkDaemons
    (hlicense : request.row.tenantId = tenantId → request.maxDaemons = maxDaemons)
    (hg : Note.Fits request log (.room request.row.tenantId)) :
    (limits tenantId maxNetworks maxDaemons).Wp i request (fun g' _ _ => g' = .idle)
      (.room request.row.tenantId) log (checkDaemons request).run := by
  refine ⟨sees_of_fits hg rfl, fun s rest fails r s' hinv _ hexec => ?_⟩
  have hsame := committed_of_exec rfl hexec
  rcases exec_cases hexec with ⟨rfl, -⟩ | hperform
  · exact ⟨.idle, hinv.forget hsame, rfl⟩
  cases hperform
  by_cases hfull : request.maxDaemons ≤ daemonsOf (Server.committed s).daemons request.row.tenantId
  · exact ⟨_, hinv.mono hsame fun _ => .inr, wp_ite_pos hfull (wp_giveUp hg.concat)⟩
  refine ⟨.admitted request.row.tenantId, ?_, wp_ite_neg hfull (wp_enlist hg.concat)⟩
  refine (hinv.claimBoth fun hown => ?_).mono hsame fun _ => .inr
  rw [← hlicense hown, ← hown]
  exact Nat.lt_of_not_le hfull

theorem wp_registerNetwork (hlicense : request.row.tenantId = tenantId →
      request.maxNetworks = maxNetworks ∧ request.maxDaemons = maxDaemons) :
    (limits tenantId maxNetworks maxDaemons).Wp i request (fun g' _ _ => g' = .idle) .idle []
      (registerNetwork request).run := by
  refine ⟨sees_of_fits trivial rfl, fun s rest fails r s' hinv _ hexec => ?_⟩
  refine ⟨.idle, hinv.forget (committed_of_exec rfl hexec), ?_⟩
  cases r with
  | error => rfl
  | ok =>
  refine ⟨sees_of_fits trivial rfl, fun s rest fails r s' hinv _ hexec => ?_⟩
  have hsame := committed_of_exec rfl hexec
  rcases exec_cases hexec with ⟨rfl, -⟩ | hperform
  · exact ⟨.idle, hinv.forget hsame, rfl⟩
  cases hperform
  by_cases hfull :
    request.maxNetworks ≤ networksOf (Server.committed s).networks request.row.tenantId
  · exact ⟨.idle, hinv.forget hsame, wp_ite_pos hfull (wp_giveUp trivial)⟩
  refine ⟨.room request.row.tenantId, ?_,
    wp_ite_neg hfull (wp_checkDaemons (fun hown => (hlicense hown).2) ⟨rfl, rfl⟩)⟩
  refine (hinv.claim fun hown => ?_).mono hsame fun _ => .inr
  rw [← (hlicense hown).1, ← hown]
  exact Nat.lt_of_not_le hfull

end

/-- No registration of the tenant commits while another has counted the networks and
is still open. -/
def Exclusive (tenantId : String) (cfg : world.Config) : world.Action → Prop
  | .spawn _ | .env _ => True
  | .step i _ => ∀ th ∈ cfg.threads[i]?, th.task.row.tenantId = tenantId →
      th.pending.any Statement.isCommit = true →
      ∀ j < cfg.threads.length, j ≠ i → ∀ th' ∈ cfg.threads[j]?, th'.task.row.tenantId = tenantId →
        counted th'.log = true → th'.done = true

instance (tenantId : String) (cfg : world.Config) (a : world.Action) :
    Decidable (Exclusive tenantId cfg a) :=
  match a with
  | .spawn _ | .env _ => inferInstanceAs (Decidable True)
  | .step _ _ => inferInstanceAs (Decidable (∀ _, _))

/-- Registrations that exclude each other keep the limits. -/
theorem limits_sound : (limits tenantId maxNetworks maxDaemons).Sound (fun _ _ => True) fun cfg a =>
      Exclusive tenantId cfg a ∧ ∀ request, a = .spawn request → request.row.tenantId = tenantId →
        request.maxNetworks = maxNetworks ∧ request.maxDaemons = maxDaemons where
  spawn cfg request notes hguard hinv := by
    refine ⟨.idle, ?_, hinv.mono rfl fun note hnote => hnote⟩
    apply (wp_registerNetwork (hguard.2 request rfl)).mono
    rintro g log value rfl
    exact ⟨⟨trivial, by simp, fun _ => rfl⟩, trivial⟩
  env cfg e := e.elim
  permits cfg i choice th c next g rest hguard hth hprog hsees hrest := by
    intro hcommit hg
    subst hg
    have hpending : th.pending = some c := by simp [World.Thread.pending, hprog]
    have hquiet : ∀ g' ∈ rest, g' ≠ .room tenantId ∧ g' ≠ .admitted tenantId := by
      intro g' hg'
      obtain ⟨j, th', hth', hsees', hne⟩ := hrest g' hg'
      have hdone := hguard.1 th hth hsees.1.1 (by rwa [hpending])
        j (List.getElem?_eq_some_iff.mp hth').1 hne th' hth'
      -- A returned registration relies on nothing.
      have hidle : th'.done = true → g' = .idle := fun hdone =>
        hsees'.2.2 (Option.isNone_iff_eq_none.mp hdone)
      constructor
      · rintro rfl
        cases hidle (hdone hsees'.1.1 hsees'.1.2)
      · rintro rfl
        cases hidle (hdone hsees'.1.1 hsees'.1.2)
    exact ⟨fun hmem => (hquiet _ hmem).1 rfl, fun hmem => (hquiet _ hmem).2 rfl⟩

end

/-- Registrations that do not overlap keep a tenant within the limits of its
license, whatever the registrations of other tenants do. -/
theorem exclusive_registrations_within_limits (tenantId : String) (maxNetworks maxDaemons : ℕ)
    (s : Server) (hnetworks : networksOf s.committed.networks tenantId ≤ maxNetworks)
    (hdaemons : daemonsOf s.committed.daemons tenantId ≤ maxDaemons) (acts : List world.Action)
    (hlicense : ∀ request : Request, .spawn request ∈ acts → request.row.tenantId = tenantId →
      request.maxNetworks = maxNetworks ∧ request.maxDaemons = maxDaemons)
    (hexclusive : world.system.Along (Exclusive tenantId) (.start s) acts) (cfg : world.Config)
    (hrun : world.system.run (.start s) acts = some cfg) :
    networksOf (Server.committed cfg.state).networks tenantId ≤ maxNetworks ∧
      daemonsOf (Server.committed cfg.state).daemons tenantId ≤ maxDaemons := by
  have hlicensed : world.system.Along (fun _ a => ∀ request : Request, a = .spawn request →
      request.row.tenantId = tenantId →
        request.maxNetworks = maxNetworks ∧ request.maxDaemons = maxDaemons) (.start s) acts :=
    world.system.along_of_forall_mem fun a ha _ request heq => hlicense request (heq ▸ ha)
  have hstart : (limits tenantId maxNetworks maxDaemons).Inv s ∅ :=
    ⟨hnetworks, hdaemons, fun hnote => hnote.elim, fun hnote => hnote.elim⟩
  obtain ⟨note, -, hinv⟩ := limits_sound.run (annotates_start hstart)
    (hexclusive.and _ hlicensed) hrun
  exact ⟨hinv.networks, hinv.daemons⟩

def sampleRequest (networkId slug publicKey : String) : Request :=
  ⟨networkId, ⟨"tenant-1", slug, slug, "eu", .provisioning⟩, publicKey, 1, 1⟩

def emptyServer : Server := ⟨⟨∅, ∅, ∅⟩, [], [], []⟩

def statements (i n : ℕ) : List world.Action := List.replicate n (.step i false)

/-- Two registrations in turn: the second finds the limit reached. -/
def sampleInTurn : List world.Action :=
  .spawn (sampleRequest "net-1" "home" "key-1") :: statements 0 7 ++
    .spawn (sampleRequest "net-2" "work" "key-2") :: statements 1 3

/-- Two registrations at once: both count before either commits. -/
def sampleOverlap : List world.Action :=
  [.spawn (sampleRequest "net-1" "home" "key-1"), .spawn (sampleRequest "net-2" "work" "key-2")] ++
    statements 0 3 ++ statements 1 3 ++ statements 0 4 ++ statements 1 4

theorem exclusive_registrations_sample :
    networksOf (Server.committed (world.system.runD (.start emptyServer)
        sampleInTurn).state).networks "tenant-1" ≤ 1 ∧
      daemonsOf (Server.committed (world.system.runD (.start emptyServer)
        sampleInTurn).state).daemons "tenant-1" ≤ 1 :=
  exclusive_registrations_within_limits "tenant-1" 1 1 emptyServer (by decide) (by decide)
    sampleInTurn (fun request hmem _ => by
      simp [sampleInTurn, statements] at hmem
      rcases hmem with hmem | hmem <;> cases hmem <;> exact ⟨rfl, rfl⟩) (by decide) _
        (System.run_eq_some_runD _ (by decide))

/-- Registrations that overlap exceed both limits. -/
theorem overlapping_registrations_exceed_limits :
    ∃ cfg, world.system.run (.start emptyServer) sampleOverlap = some cfg ∧
      (∀ request : Request, .spawn request ∈ sampleOverlap →
        request.row.tenantId = "tenant-1" ∧ request.maxNetworks = 1 ∧ request.maxDaemons = 1) ∧
      networksOf (Server.committed cfg.state).networks "tenant-1" = 2 ∧
      daemonsOf (Server.committed cfg.state).daemons "tenant-1" = 2 := by
  refine ⟨_, System.run_eq_some_runD _ (by decide), ?_, by decide, by decide⟩
  intro request hmem
  simp [sampleOverlap, statements] at hmem
  rcases hmem with hmem | hmem <;> cases hmem <;> exact ⟨rfl, rfl, rfl⟩

end Wardnet.Authority.Registration
