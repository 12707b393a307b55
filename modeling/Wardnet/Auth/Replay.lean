/-
# Signed daemon requests and the replay cache

`verify_pop_request` accepts a request whose timestamp lies within sixty
seconds of the clock, whose signature verifies, and whose replay key the cache
does not hold. The cache forgets a key once it is 120 seconds old. The key is
made of the subject, the timestamp and the body, so two requests that differ in
the method or the path alone have the same one. SHA-256 and Ed25519 are
parameters of the model; the clock is read twice in each call, and
both readings are inputs of the call.
-/

import Mathlib.Algebra.Order.Group.Unbundled.Int
import Wardnet.Base.Decimal
import Wardnet.Base.Store

namespace Wardnet.Auth

open Base Store Option

def timestampWindowSecs : Int := 60

def replayWindowSecs : Int := 120

/-- `ReplayCache`: when each replay key was first seen. -/
structure ReplayCache where
  inner : Store String Int

namespace ReplayCache

def new : ReplayCache := ⟨∅⟩

/-- The lazy expiry that every call performs first. -/
def prune (cache : ReplayCache) (now : Int) : ReplayCache :=
  ⟨cache.inner.retain fun _ ts => now - ts < replayWindowSecs⟩

/-- `contains_or_insert`: whether the key was present, and the cache after. -/
def containsOrInsert (cache : ReplayCache) (key : String) (now : Int) : Bool × ReplayCache :=
  let guard := cache.prune now
  if guard.inner.contains key then (true, guard) else (false, ⟨guard.inner.insert key now⟩)

end ReplayCache

/-- The hash and signature primitives: the lower-case hex SHA-256 of a body, and
whether a base64 Ed25519 signature of a message verifies under a public key. -/
structure Crypto where
  sha256Hex : List UInt8 → String
  verifySignatureBytes : Vector UInt8 32 → String → String → Bool

/-- The arguments of `verify_pop_request` that come with a request. Only header
values that are printable text are present in `headers`. -/
structure PopRequest where
  method : String
  pathAndQuery : String
  headers : Store String String
  body : List UInt8
  pubKeyBytes : Vector UInt8 32
  replaySubject : String

def PopRequest.timestamp (req : PopRequest) : Option Int :=
  (req.headers.get? "X-Wardnet-Timestamp").bind parseI64

/-- `canonical_request_payload`: the text a daemon signs. -/
def canonicalRequestPayload (method pathAndQuery : String) (timestamp : Int)
    (bodyHash : String) : String :=
  method ++ "\n" ++ pathAndQuery ++ "\n" ++ toString timestamp ++ "\n" ++ bodyHash

inductive PopError
  | timestampOutsideWindow
  | badSignature
  deriving DecidableEq

/-- `verify_pop` at clock reading `now`: on success the hash of the body. -/
def verifyPop (crypto : Crypto) (now : Int) (method pathAndQuery : String) (timestamp : Int)
    (signatureB64 : String) (body : List UInt8) (pubKeyBytes : Vector UInt8 32) :
    Except PopError String :=
  if timestampWindowSecs < |now - timestamp| then
    .error .timestampOutsideWindow
  else
    let bodyHash := crypto.sha256Hex body
    let payload := canonicalRequestPayload method pathAndQuery timestamp bodyHash
    if crypto.verifySignatureBytes pubKeyBytes payload signatureB64 then
      .ok bodyHash
    else
      .error .badSignature

def replayKey (replaySubject : String) (timestamp : Int) (bodyHash : String) : String :=
  replaySubject ++ ":" ++ toString timestamp ++ ":" ++ bodyHash

/-- `verify_pop_request`, with the reading `popNow` of the clock in `verify_pop`
and the later reading `replayNow` for the cache. -/
def verifyPopRequest (crypto : Crypto) (req : PopRequest) (popNow replayNow : Int)
    (replay : ReplayCache) : Except String Unit × ReplayCache :=
  match req.timestamp with
  | none => (.error "missing or invalid X-Wardnet-Timestamp", replay)
  | some timestamp =>
    match verifyPop crypto popNow req.method req.pathAndQuery timestamp
        ((req.headers.get? "X-Wardnet-Signature").getD "") req.body req.pubKeyBytes with
    | .error _ => (.error "invalid request signature", replay)
    | .ok bodyHash =>
      match replay.containsOrInsert
          (replayKey req.replaySubject timestamp bodyHash) replayNow with
      | (true, replay') => (.error "replayed request", replay')
      | (false, replay') => (.ok (), replay')

/-! ## Traffic at one replica -/

/-- One call of `verify_pop_request`: the request and the two clock readings. -/
structure Call where
  req : PopRequest
  popNow : Int
  replayNow : Int

def accepted (crypto : Crypto) : ReplayCache → List Call → List Call
  | _, [] => []
  | replay, c :: cs =>
    match verifyPopRequest crypto c.req c.popNow c.replayNow replay with
    | (.ok (), replay') => c :: accepted crypto replay' cs
    | (.error _, replay') => accepted crypto replay' cs

def clockReads (calls : List Call) : List Int :=
  calls.flatMap fun c => [c.popNow, c.replayNow]

def ClockNonDecreasing (calls : List Call) : Prop :=
  (clockReads calls).Pairwise (· ≤ ·)

instance : DecidablePred ClockNonDecreasing :=
  fun _ => inferInstanceAs (Decidable (List.Pairwise _ _))

/-- The same signed request: daemon key, method, path, timestamp and body. -/
def SameRequest (a b : PopRequest) : Prop :=
  a.pubKeyBytes = b.pubKeyBytes ∧ a.replaySubject = b.replaySubject ∧ a.method = b.method ∧
    a.pathAndQuery = b.pathAndQuery ∧ a.timestamp = b.timestamp ∧ a.body = b.body

instance : DecidableRel SameRequest :=
  fun _ _ => inferInstanceAs (Decidable (_ ∧ _))

/-- No two accepted calls carry the same request. -/
def NoReplay (crypto : Crypto) (calls : List Call) : Prop :=
  (accepted crypto .new calls).Pairwise fun c d => ¬ SameRequest c.req d.req

instance (crypto : Crypto) (calls : List Call) : Decidable (NoReplay crypto calls) :=
  inferInstanceAs (Decidable (List.Pairwise _ _))

/-! ## What one call does -/

/-- The replay key with which a call reaches the cache, if it gets that far. -/
def Call.key? (crypto : Crypto) (c : Call) : Option String :=
  c.req.timestamp.bind fun timestamp =>
    match verifyPop crypto c.popNow c.req.method c.req.pathAndQuery timestamp
        ((c.req.headers.get? "X-Wardnet-Signature").getD "") c.req.body c.req.pubKeyBytes with
    | .error _ => none
    | .ok bodyHash => some (replayKey c.req.replaySubject timestamp bodyHash)

def Call.PassesPop (crypto : Crypto) (c : Call) : Prop := (c.key? crypto).isSome

instance (crypto : Crypto) : DecidablePred (Call.PassesPop crypto) :=
  fun _ => inferInstanceAs (Decidable (_ = true))

variable {crypto : Crypto} {c d : Call} {key : String} {calls : List Call}

/-- A call that fails its checks is refused and leaves the cache alone. -/
theorem verifyPopRequest_of_key?_none (hkey : c.key? crypto = none) (replay : ReplayCache) :
    ∃ message, message ≠ "replayed request" ∧
      verifyPopRequest crypto c.req c.popNow c.replayNow replay = (.error message, replay) := by
  unfold verifyPopRequest
  cases htime : c.req.timestamp with
  | none => exact ⟨_, by decide, rfl⟩
  | some timestamp =>
    simp only [Call.key?, htime, bind_some] at hkey
    split at hkey
    · rename_i err hpop
      simp only [hpop]
      exact ⟨_, by decide, rfl⟩
    · cases hkey

/-- A call that passes its checks is accepted exactly when the pruned cache does
not hold its key, and the cache holds its key afterwards. -/
theorem verifyPopRequest_of_key?_some (hkey : c.key? crypto = some key) (replay : ReplayCache) :
    verifyPopRequest crypto c.req c.popNow c.replayNow replay =
      if (replay.prune c.replayNow).inner.contains key then
        (.error "replayed request", replay.prune c.replayNow)
      else
        (.ok (), ⟨(replay.prune c.replayNow).inner.insert key c.replayNow⟩) := by
  unfold verifyPopRequest
  cases htime : c.req.timestamp with
  | none => simp [Call.key?, htime] at hkey
  | some timestamp =>
    simp only [Call.key?, htime, bind_some] at hkey
    split at hkey
    · cases hkey
    · rename_i bodyHash hpop
      cases hkey
      by_cases hseen : (replay.prune c.replayNow).inner.contains
          (replayKey c.req.replaySubject timestamp bodyHash)
      · simp [hpop, ReplayCache.containsOrInsert, hseen]
      · simp [hpop, ReplayCache.containsOrInsert, hseen]

theorem accepted_cons_of_key?_none (hkey : c.key? crypto = none) (replay : ReplayCache)
    (cs : List Call) :
    accepted crypto replay (c :: cs) = accepted crypto replay cs := by
  obtain ⟨message, -, hverify⟩ := verifyPopRequest_of_key?_none hkey replay
  rw [accepted, hverify]

theorem accepted_cons_of_key?_some (hkey : c.key? crypto = some key) (replay : ReplayCache)
    (cs : List Call) :
    accepted crypto replay (c :: cs) = if (replay.prune c.replayNow).inner.contains key then
        accepted crypto (replay.prune c.replayNow) cs
      else
        c :: accepted crypto ⟨(replay.prune c.replayNow).inner.insert key c.replayNow⟩ cs := by
  rw [accepted, verifyPopRequest_of_key?_some hkey]
  by_cases hseen : (replay.prune c.replayNow).inner.contains key
  · simp only [if_pos hseen]
  · simp only [if_neg hseen]

/-- Two calls with the same request that reach the cache reach it with the same
key. -/
theorem Call.key?_eq_of_sameRequest (hsame : SameRequest c.req d.req) (hc : c.PassesPop crypto)
    (hd : d.PassesPop crypto) :
    c.key? crypto = d.key? crypto := by
  obtain ⟨-, hsubject, -, -, htime, hbody⟩ := hsame
  simp only [Call.PassesPop, Call.key?, verifyPop, htime, hbody, hsubject] at hc hd ⊢
  cases htime' : d.req.timestamp with
  | none => rfl
  | some timestamp =>
    simp only [htime', bind_some] at hc hd ⊢
    split_ifs at hc hd ⊢ <;> simp_all

/-! ## Whole runs -/

theorem ClockNonDecreasing.replayNow (hclock : ClockNonDecreasing calls) :
    calls.Pairwise fun c d => c.replayNow ≤ d.replayNow := by
  have hreads := List.pairwise_flatMap.mp hclock
  apply hreads.2.imp
  intro c d hle
  exact hle c.replayNow (by simp) d.replayNow (by simp)

theorem accepted_sublist (crypto : Crypto) (replay : ReplayCache) (calls : List Call) :
    (accepted crypto replay calls).Sublist (calls.filter (·.PassesPop crypto)) := by
  induction calls generalizing replay with
  | nil => simp [accepted]
  | cons c cs ih =>
    cases hkey : c.key? crypto with
    | none =>
      rw [accepted_cons_of_key?_none hkey, List.filter_cons_of_neg]
      · exact ih replay
      · simp [Call.PassesPop, hkey]
    | some key =>
      rw [accepted_cons_of_key?_some hkey, List.filter_cons_of_pos]
      · split
        · exact (ih _).cons c
        · exact (ih _).cons_cons c
      · simp [Call.PassesPop, hkey]

/-- An entry that is younger than the retention survives the expiry. -/
theorem ReplayCache.get?_prune {replay : ReplayCache} {seen now : Int}
    (hseen : replay.inner.get? key = some seen) (hyoung : now - seen < replayWindowSecs) :
    (replay.prune now).inner.get? key = some seen := by
  simp [ReplayCache.prune, hseen, Option.filter, hyoung]

/-- A key in the cache is not accepted again before it is 120 seconds old. The
induction is on the calls still to come: each prunes at its own reading of the
clock, which is at most the reading of any later call. -/
theorem replayWindow_le_of_accepted {replay : ReplayCache} {seen : Int}
    (hseen : replay.inner.get? key = some seen)
    (hclock : calls.Pairwise fun c d => c.replayNow ≤ d.replayNow)
    (hacc : d ∈ accepted crypto replay calls) (hkey : d.key? crypto = some key) :
    replayWindowSecs ≤ d.replayNow - seen := by
  induction calls generalizing replay with
  | nil => simp [accepted] at hacc
  | cons c cs ih =>
    obtain ⟨hfirst, hrest⟩ := List.pairwise_cons.mp hclock
    cases hckey : c.key? crypto with
    | none =>
      rw [accepted_cons_of_key?_none hckey] at hacc
      exact ih hseen hrest hacc
    | some ckey =>
      by_cases hyoung : c.replayNow - seen < replayWindowSecs
      · have hkept := ReplayCache.get?_prune hseen hyoung
        rw [accepted_cons_of_key?_some hckey] at hacc
        split at hacc
        · exact ih hkept hrest hacc
        · rename_i hfresh
          -- The key of `c` was not in the pruned cache, but `key` is.
          have hne : key ≠ ckey := by
            intro heq
            exact hfresh (contains_eq_true_iff.mpr ⟨seen, heq ▸ hkept⟩)
          rcases List.mem_cons.mp hacc with rfl | hacc
          · rw [hckey] at hkey
            exact absurd (some.inj hkey).symm hne
          · exact ih (by rw [get?_insert_of_ne _ hne]; exact hkept) hrest hacc
      · have hmem := List.mem_of_mem_filter ((accepted_sublist _ _ _).subset hacc)
        have hle : c.replayNow ≤ d.replayNow := by
          rcases List.mem_cons.mp hmem with rfl | hmem
          · exact le_refl _
          · exact hfirst d hmem
        omega

/-- Any two calls that carry the same request and pass their checks reach the
cache within the retention of its entries. -/
def WithinRetention (crypto : Crypto) (calls : List Call) : Prop :=
  (calls.filter (·.PassesPop crypto)).Pairwise fun c d =>
    SameRequest c.req d.req → d.replayNow - c.replayNow < replayWindowSecs

instance (crypto : Crypto) (calls : List Call) : Decidable (WithinRetention crypto calls) :=
  inferInstanceAs (Decidable (List.Pairwise _ _))

/-- Within the retention no accepted request is repeated, whatever the cache
holds at the start. -/
theorem pairwise_accepted (replay : ReplayCache)
    (hclock : calls.Pairwise fun c d => c.replayNow ≤ d.replayNow)
    (hwithin : WithinRetention crypto calls) :
    (accepted crypto replay calls).Pairwise fun c d => ¬ SameRequest c.req d.req := by
  induction calls generalizing replay with
  | nil => simp [accepted]
  | cons c cs ih =>
    have hrest := (List.pairwise_cons.mp hclock).2
    cases hkey : c.key? crypto with
    | none =>
      have hfail : ¬ c.PassesPop crypto := by simp [Call.PassesPop, hkey]
      rw [accepted_cons_of_key?_none hkey]
      apply ih replay hrest
      simpa [WithinRetention, List.filter_cons, hfail] using hwithin
    | some key =>
      have hpass : c.PassesPop crypto := by simp [Call.PassesPop, hkey]
      simp only [WithinRetention, List.filter_cons, hpass, decide_true, if_true,
        List.pairwise_cons] at hwithin
      rw [accepted_cons_of_key?_some hkey]
      split
      · exact ih _ hrest hwithin.2
      · apply List.Pairwise.cons
        · intro d hd hsame
          have hmem := (accepted_sublist _ _ _).subset hd
          have hdpass : d.PassesPop crypto := by simpa using (List.mem_filter.mp hmem).2
          have hdkey := (Call.key?_eq_of_sameRequest hsame hpass hdpass).symm.trans hkey
          have hold := replayWindow_le_of_accepted
            (get?_insert_self _ key c.replayNow) hrest hd hdkey
          have hnew := hwithin.1 d hmem hsame
          omega
        · exact ih _ hrest hwithin.2

/-- Two calls alone with the same request, both passing their checks, are both
accepted once the retention lies between them. -/
theorem accepted_pair (hc : c.PassesPop crypto) (hd : d.PassesPop crypto)
    (hsame : SameRequest c.req d.req) (hlate : replayWindowSecs ≤ d.replayNow - c.replayNow) :
    accepted crypto .new [c, d] = [c, d] := by
  obtain ⟨key, hkey⟩ := Option.isSome_iff_exists.mp hc
  have hdkey := (Call.key?_eq_of_sameRequest hsame hc hd).symm.trans hkey
  have hfirst : ¬ (ReplayCache.new.prune c.replayNow).inner.contains key := by
    simp [contains, ReplayCache.prune, ReplayCache.new]
  rw [accepted_cons_of_key?_some hkey, if_neg hfirst, accepted_cons_of_key?_some hdkey, if_neg]
  · rfl
  -- The only entry under the key is the one `c` made, and it expires when `d` prunes.
  · simp [contains, ReplayCache.prune, Option.filter, not_lt.mpr hlate]

/-- No part of the traffic contains an accepted replay exactly when any two
passing calls with the same request reach the cache less than 120 seconds
apart. The timestamp check alone allows 120 seconds: both ends of its window
are included. -/
theorem noReplay_iff_withinRetention (crypto : Crypto) (calls : List Call)
    (hclock : ClockNonDecreasing calls) :
    (∀ part : List Call, part.Sublist calls → NoReplay crypto part) ↔
      WithinRetention crypto calls := by
  constructor
  · intro hnone
    apply List.pairwise_iff_forall_sublist.mpr
    intro c d hpair hsame
    have hmem := hpair.subset
    have hc : c.PassesPop crypto := by simpa using (List.mem_filter.mp (hmem (by simp))).2
    have hd : d.PassesPop crypto := by
      simpa using (List.mem_filter.mp (hmem (List.mem_cons_of_mem c (by simp)))).2
    have hnoReplay := hnone [c, d] (hpair.trans List.filter_sublist)
    by_contra hlate
    rw [NoReplay, accepted_pair hc hd hsame (not_lt.mp hlate)] at hnoReplay
    exact (List.pairwise_cons.mp hnoReplay).1 d (by simp) hsame
  · intro hwithin part hpart
    exact pairwise_accepted .new (hclock.replayNow.sublist hpart) (hwithin.sublist (hpart.filter _))

def sampleCrypto : Crypto where
  sha256Hex _ := "e3b0c44298fc1c14"
  verifySignatureBytes _ _ signature := signature == "c2lnbmF0dXJl"

def sampleRequest : PopRequest where
  method := "DELETE"
  pathAndQuery := "/v1/acme-challenge"
  headers := (∅ : Store String String).insert "X-Wardnet-Timestamp" "60"
    |>.insert "X-Wardnet-Signature" "c2lnbmF0dXJl"
  body := []
  pubKeyBytes := Vector.replicate 32 7
  replaySubject := "BwcHBwcHBwcHBwcHBwcHBwcHBwcHBwcHBwcHBwcHBwc="

/-- A request that arrives at both ends of its timestamp window is accepted
twice. -/
theorem replay_at_window_ends : ∃ (crypto : Crypto) (calls : List Call),
      ClockNonDecreasing calls ∧ ¬ NoReplay crypto calls :=
  ⟨sampleCrypto, [⟨sampleRequest, 0, 0⟩, ⟨sampleRequest, 120, 120⟩], by decide, by decide⟩

theorem noReplay_iff_withinRetention_sample :
    NoReplay sampleCrypto [⟨sampleRequest, 0, 0⟩, ⟨sampleRequest, 119, 119⟩] :=
  (noReplay_iff_withinRetention sampleCrypto
    [⟨sampleRequest, 0, 0⟩, ⟨sampleRequest, 119, 119⟩] (by decide)).mpr (by decide)
    _ (List.Sublist.refl _)

/-! ## False replays -/

/-- The daemon signs the same: its key, the method, the path, the timestamp and the body. -/
def SignsSame (a b : PopRequest) : Prop :=
  a.pubKeyBytes = b.pubKeyBytes ∧ a.method = b.method ∧ a.pathAndQuery = b.pathAndQuery ∧
    a.timestamp = b.timestamp ∧ a.body = b.body

instance : DecidableRel SignsSame :=
  fun _ _ => inferInstanceAs (Decidable (_ ∧ _))

def cacheAfter (crypto : Crypto) (replay : ReplayCache) (calls : List Call) : ReplayCache :=
  calls.foldl (fun replay c => (verifyPopRequest crypto c.req c.popNow c.replayNow replay).2) replay

def AnsweredReplay (crypto : Crypto) (before : List Call) (c : Call) : Prop :=
  (verifyPopRequest crypto c.req c.popNow c.replayNow (cacheAfter crypto .new before)).1 =
    .error "replayed request"

/-- Whoever is told so repeats what was accepted before. -/
def NoFalseReplay (crypto : Crypto) (calls : List Call) : Prop :=
  ∀ before c after, calls = before ++ c :: after → AnsweredReplay crypto before c →
    ∃ d ∈ accepted crypto .new before, SignsSame d.req c.req

/-- Any two passing calls that reach the cache with one key, the second before the entry of
the first expires, sign the same. -/
def KeysSeparate (crypto : Crypto) (calls : List Call) : Prop :=
  (calls.filter (·.PassesPop crypto)).Pairwise fun c d =>
    c.key? crypto = d.key? crypto → d.replayNow - c.replayNow < replayWindowSecs →
      SignsSame c.req d.req

theorem ReplayCache.get?_of_prune {replay : ReplayCache} {seen now : Int}
    (hseen : (replay.prune now).inner.get? key = some seen) :
    replay.inner.get? key = some seen ∧ now - seen < replayWindowSecs := by
  simpa [ReplayCache.prune, filter_eq_some_iff] using hseen

/-- Every entry of the cache was made by an accepted call. -/
theorem exists_accepted_of_get? {replay : ReplayCache} {seen : Int}
    (hseen : (cacheAfter crypto replay calls).inner.get? key = some seen) :
    replay.inner.get? key = some seen ∨
      ∃ e ∈ accepted crypto replay calls, e.key? crypto = some key ∧ e.replayNow = seen := by
  induction calls generalizing replay with
  | nil => exact .inl hseen
  | cons c cs ih =>
    rw [cacheAfter, List.foldl_cons] at hseen
    cases hkey : c.key? crypto with
    | none =>
      obtain ⟨message, -, hverify⟩ := verifyPopRequest_of_key?_none hkey replay
      rw [hverify] at hseen
      rw [accepted_cons_of_key?_none hkey]
      exact ih hseen
    | some ckey =>
      rw [verifyPopRequest_of_key?_some hkey] at hseen
      rw [accepted_cons_of_key?_some hkey]
      split at hseen
      · rename_i hfound
        rw [if_pos hfound]
        exact (ih hseen).imp_left fun h => (ReplayCache.get?_of_prune h).1
      · rename_i hnew
        rw [if_neg hnew]
        rcases ih hseen with hold | ⟨e, he, hmade⟩
        · rcases get?_of_insert hold with ⟨rfl, rfl⟩ | ⟨-, hold⟩
          · exact .inr ⟨c, List.mem_cons_self, hkey, rfl⟩
          · exact .inl (ReplayCache.get?_of_prune hold).1
        · exact .inr ⟨e, List.mem_cons_of_mem c he, hmade⟩

/-- A call is told that it is a replay exactly if an accepted call has made an entry under its
key that has not expired. -/
theorem answeredReplay_iff (hkey : c.key? crypto = some key) : AnsweredReplay crypto calls c ↔
      ((cacheAfter crypto .new calls).prune c.replayNow).inner.contains key = true := by
  rw [AnsweredReplay, verifyPopRequest_of_key?_some hkey]
  split
  · rename_i hseen
    exact iff_of_true rfl hseen
  · rename_i hnew
    exact iff_of_false nofun hnew

/-- No part of the traffic contains a false replay exactly when the keys tell apart what the
daemons sign. The clock may do as it likes. -/
theorem noFalseReplay_iff_keysSeparate (crypto : Crypto) (calls : List Call) :
    (∀ part : List Call, part.Sublist calls → NoFalseReplay crypto part) ↔
      KeysSeparate crypto calls := by
  constructor
  · intro hnone
    apply List.pairwise_iff_forall_sublist.mpr
    intro c d hpair heq hyoung
    have hc := (List.mem_filter.mp (hpair.subset List.mem_cons_self)).2
    obtain ⟨key, hkey⟩ := isSome_iff_exists.mp (of_decide_eq_true hc)
    have hfirst : ¬ (ReplayCache.new.prune c.replayNow).inner.contains key := by
      simp [contains, ReplayCache.prune, ReplayCache.new]
    have hanswered : AnsweredReplay crypto [c] d := by
      rw [answeredReplay_iff (heq ▸ hkey), cacheAfter, List.foldl_cons, List.foldl_nil,
        verifyPopRequest_of_key?_some hkey, if_neg hfirst]
      exact contains_eq_true_iff.mpr ⟨_, ReplayCache.get?_prune (get?_insert_self ..) hyoung⟩
    obtain ⟨e, he, hsame⟩ :=
      hnone [c, d] (hpair.trans List.filter_sublist) [c] d [] rfl hanswered
    rw [accepted_cons_of_key?_some hkey, if_neg hfirst] at he
    obtain rfl := List.mem_singleton.mp he
    exact hsame
  · rintro hseparate part hpart before c after rfl hanswered
    cases hkey : c.key? crypto with
    | none =>
      obtain ⟨message, hne, hverify⟩ :=
        verifyPopRequest_of_key?_none hkey (cacheAfter crypto .new before)
      rw [AnsweredReplay, hverify] at hanswered
      exact absurd (Except.error.inj hanswered) hne
    | some key =>
      obtain ⟨seen, hseen⟩ :=
        contains_eq_true_iff.mp ((answeredReplay_iff hkey).mp hanswered)
      obtain ⟨hentry, hyoung⟩ := ReplayCache.get?_of_prune hseen
      obtain hnew | ⟨e, he, hekey, rfl⟩ := exists_accepted_of_get? hentry
      · cases hnew
      have hpairs := hseparate.sublist (hpart.filter _)
      rw [List.filter_append, List.filter_cons_of_pos (by simp [Call.PassesPop, hkey])] at hpairs
      exact ⟨e, he, (List.pairwise_append.mp hpairs).2.2 e ((accepted_sublist _ _ _).subset he) c
        List.mem_cons_self (hekey.trans hkey.symm) hyoung⟩

/-- Two deletions with the same timestamp, signed for two paths: the second one is told that
it is a replay. -/
theorem false_replay_of_other_path :
    ∃ (crypto : Crypto) (calls : List Call), ClockNonDecreasing calls ∧
      (∀ c ∈ calls, c.PassesPop crypto) ∧ ¬ NoFalseReplay crypto calls := by
  refine ⟨sampleCrypto, [⟨sampleRequest, 60, 60⟩,
    ⟨{ sampleRequest with pathAndQuery := "/v1/networks/home" }, 60, 60⟩], by decide, by decide, ?_⟩
  intro hnone
  obtain ⟨d, hd, hsame⟩ := hnone [_] _ [] rfl rfl
  have hall : ∀ e ∈ accepted sampleCrypto .new [⟨sampleRequest, 60, 60⟩],
      e.req.pathAndQuery = "/v1/acme-challenge" := by decide
  exact absurd ((hall d hd).symm.trans hsame.2.2.1) (by decide)

/-- An accepted request is remembered within the retention. -/
theorem get?_cacheAfter {replay : ReplayCache} {seen : Int}
    (hseen : replay.inner.get? key = some seen ∨
      ∃ e ∈ accepted crypto replay calls, e.key? crypto = some key ∧ e.replayNow = seen)
    (hyoung : ∀ d ∈ calls, d.replayNow - seen < replayWindowSecs) :
    (cacheAfter crypto replay calls).inner.get? key = some seen := by
  induction calls generalizing replay with
  | nil => exact hseen.resolve_right nofun
  | cons c cs ih =>
    obtain ⟨hc, hcs⟩ := List.forall_mem_cons.mp hyoung
    rw [cacheAfter, List.foldl_cons]
    cases hkey : c.key? crypto with
    | none =>
      obtain ⟨message, -, hverify⟩ := verifyPopRequest_of_key?_none hkey replay
      rw [accepted_cons_of_key?_none hkey] at hseen
      rw [hverify]
      exact ih hseen hcs
    | some ckey =>
      rw [accepted_cons_of_key?_some hkey] at hseen
      rw [verifyPopRequest_of_key?_some hkey]
      split
      · rename_i hfound
        rw [if_pos hfound] at hseen
        exact ih (hseen.imp_left (ReplayCache.get?_prune · hc)) hcs
      · rename_i hnew
        rw [if_neg hnew] at hseen
        refine ih ?_ hcs
        rcases hseen with hold | ⟨e, he, hekey, rfl⟩
        · have hkept := ReplayCache.get?_prune hold hc
          have hne : key ≠ ckey := by
            rintro rfl
            exact hnew (contains_eq_true_iff.mpr ⟨seen, hkept⟩)
          exact .inl ((get?_insert_of_ne _ hne _).trans hkept)
        · rcases List.mem_cons.mp he with rfl | he
          · obtain rfl := some.inj (hkey.symm.trans hekey)
            exact .inl (get?_insert_self ..)
          · exact .inr ⟨e, he, hekey, rfl⟩

/-- A request is told that it is a replay exactly if one with its key was accepted within the
retention. -/
theorem answeredReplay_exact (hclock : ClockNonDecreasing (calls ++ [c]))
    (hpass : c.PassesPop crypto) : AnsweredReplay crypto calls c ↔
      ∃ e ∈ accepted crypto .new calls, e.key? crypto = c.key? crypto ∧
        c.replayNow - e.replayNow < replayWindowSecs := by
  obtain ⟨key, hkey⟩ := isSome_iff_exists.mp hpass
  rw [answeredReplay_iff hkey, contains_eq_true_iff, hkey]
  constructor
  · rintro ⟨seen, hseen⟩
    obtain ⟨hentry, hyoung⟩ := ReplayCache.get?_of_prune hseen
    obtain hnew | ⟨e, he, hekey, rfl⟩ := exists_accepted_of_get? hentry
    · cases hnew
    · exact ⟨e, he, hekey, hyoung⟩
  · rintro ⟨e, he, hekey, hyoung⟩
    refine ⟨_, ReplayCache.get?_prune (get?_cacheAfter (.inr ⟨e, he, hekey, rfl⟩) ?_) hyoung⟩
    intro d hd
    have hle := (List.pairwise_append.mp hclock.replayNow).2.2 d hd c List.mem_cons_self
    omega

theorem answeredReplay_exact_sample :
    AnsweredReplay sampleCrypto [⟨sampleRequest, 0, 0⟩] ⟨sampleRequest, 119, 119⟩ :=
  (answeredReplay_exact (by decide) (by decide)).mpr
    ⟨⟨sampleRequest, 0, 0⟩, List.mem_cons_self, rfl, by decide⟩

end Wardnet.Auth
