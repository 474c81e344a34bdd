import AbrChin.S2S.Replay

/-!
# A signed request is accepted once

A signed request is *spent* when a row for its nonce is stored that expires no
earlier than its own would, or when its window is over.  An accepted request is
spent, a spent request is not accepted, and the only step that can make it
fresh again is a purge in the second between the expiry of a row and the end of
its window (`PurgesLate` excludes it).
-/

namespace AbrChin.S2S

open Lib MessageGo

variable {web : Web} {env : Env}

/-! ## Windows and expiries -/

variable {timestampUnix now : ℤ}

/-- For the timestamp of an expiry that has passed, the window is open for less
than another second. -/
theorem withinSkew_iff_of_expired (hexpired : (timestampUnix + env.skew) * 1000 < now) :
    env.withinSkew now timestampUnix = true ↔ now < (timestampUnix + env.skew) * 1000 + 1000 := by
  have hskew : 30 ≤ env.skew := (boundSkewSeconds_mem _).1
  -- the expiry has passed, so the clock is past the middle of the window
  have habs : |now / 1000 - timestampUnix| = now / 1000 - timestampUnix :=
    abs_of_nonneg (by omega)
  simp only [Env.withinSkew, habs, decide_eq_true_eq]
  omega

theorem lt_of_withinSkew (h : env.withinSkew now timestampUnix = true) :
    now < (timestampUnix + env.skew) * 1000 + 1000 := by
  have hle : now / 1000 - timestampUnix ≤ env.skew := (abs_le.1 (of_decide_eq_true h)).2
  omega

/-- The row was stored for a timestamp that the check accepts at `now`. -/
def ReplayNonce.Protects (env : Env) (row : ReplayNonce) (now : ℤ) : Prop :=
  ∃ timestampUnix : ℤ, row.expiresAt = (timestampUnix + env.skew) * 1000 ∧
    env.withinSkew now timestampUnix = true

/-- Every stored row was made by `replayNonce`. -/
def WellTimed (env : Env) (nonces : ReplayNonces) : Prop :=
  ∀ row ∈ nonces, ∃ timestampUnix : ℤ, row.expiresAt = (timestampUnix + env.skew) * 1000

/-- No stored row expired less than a second ago. -/
def NoneJustExpired (nonces : ReplayNonces) (now : ℤ) : Prop :=
  ∀ row ∈ nonces, ¬ (row.expiresAt < now ∧ now < row.expiresAt + 1000)

instance (nonces : ReplayNonces) (now : ℤ) : Decidable (NoneJustExpired nonces now) :=
  inferInstanceAs (Decidable (∀ row ∈ nonces.rows, ¬ (_ ∧ _)))

variable {nonces : ReplayNonces}

/-- A purge spares every row whose request the timestamp check would still
accept, if and only if no row expired less than a second ago. -/
theorem purge_spares_iff (hrows : WellTimed env nonces) (now : ℤ) :
    (∀ row ∈ nonces, row.Protects env now → row ∈ purgeExpiredS2SReplayNonces now nonces) ↔
      NoneJustExpired nonces now := by
  constructor
  · rintro hspares row hrow ⟨hexpired, hlate⟩
    obtain ⟨timestampUnix, htime⟩ := hrows row hrow
    have hprotects : row.Protects env now := by
      refine ⟨timestampUnix, htime, ?_⟩
      rw [withinSkew_iff_of_expired (by omega)]
      omega
    have hkept := hspares row hrow hprotects
    simp only [purgeExpiredS2SReplayNonces, Table.mem_filter, decide_eq_true_eq] at hkept
    exact hkept.2 hexpired
  · rintro hnone row hrow ⟨timestampUnix, htime, hwithin⟩
    simp only [purgeExpiredS2SReplayNonces, Table.mem_filter, decide_eq_true_eq]
    refine ⟨hrow, fun hexpired => hnone row hrow ⟨hexpired, ?_⟩⟩
    rw [htime]
    exact lt_of_withinSkew hwithin

/-! ## What a call does -/

variable {keyring : Except HmacFailure S2SKeyring} {request : Request}

/-- The fields that a request signs, once it is accepted. -/
theorem parseHeaders_of_verifySignature {fields : S2SFields}
    (h : verifySignature web env now keyring request = .ok fields) :
    (∃ signature, parseHeaders web request = .ok (fields, signature)) ∧
      env.withinSkew now fields.timestampUnix = true := by
  obtain ⟨ring, -, h⟩ := bind_eq_ok.1 h
  obtain ⟨⟨parsed, signature⟩, hparse, h⟩ := bind_eq_ok.1 h
  obtain ⟨_, hcheck, h⟩ := bind_eq_ok.1 h
  obtain ⟨key, -, h⟩ := bind_eq_ok.1 h
  obtain ⟨expected, -, h⟩ := bind_eq_ok.1 h
  have hparsed : parseHeaders web request = .ok (parsed, signature) := by
    cases hheaders : parseHeaders web request with
    | error e => rw [hheaders] at hparse; cases hparse
    | ok pair => rw [hheaders] at hparse; cases hparse; rfl
  have hfields : parsed = fields := by
    by_cases hsignature : compareSignature expected signature = true
    · simpa [hsignature] using h
    · simp [hsignature] at h
  subst hfields
  refine ⟨⟨signature, hparsed⟩, ?_⟩
  unfold checkFields at hcheck
  by_contra hskew
  simp only [hskew] at hcheck
  split at hcheck
  · cases hcheck
  · split at hcheck <;> cases hcheck

/-- A call that accepts a signed request stores its nonce, in a table without
it and inside its window; a call that accepts any other request stores nothing. -/
theorem authenticate_commits {nonces' : ReplayNonces} {serviceId : String}
    (h : Tx.Commits (authenticateSettlementRequest web env now keyring request) nonces serviceId
      nonces') :
    (∃ fields signature, parseHeaders web request = .ok (fields, signature) ∧
      env.withinSkew now fields.timestampUnix = true ∧
      nonces.insert? (replayNonce env fields) = some nonces') ∨
    (hasHmacHeaders request = false ∧ nonces' = nonces) := by
  unfold authenticateSettlementRequest at h
  rcases Tx.commits_ite.1 h with ⟨-, h⟩ | ⟨-, h⟩
  · exact (Tx.commits_throw h).elim
  rcases Tx.commits_ite.1 h with ⟨-, h⟩ | ⟨-, h⟩
  · exact (Tx.commits_throw h).elim
  rcases Tx.commits_ite.1 h with ⟨-, h⟩ | ⟨hunsigned, h⟩
  · rcases Tx.commits_ite.1 h with ⟨-, h⟩ | ⟨-, h⟩
    · simp only [authenticateHmac, claimS2SReplay, Tx.commits_mapError, Tx.commits_bind,
        Tx.commits_ofExcept, Tx.commits_attempt, Tx.commits_pure] at h
      obtain ⟨fields, _, ⟨hverify, rfl⟩, _, _, hinsert, -, rfl⟩ := h
      obtain ⟨⟨signature, hparse⟩, hskew⟩ := parseHeaders_of_verifySignature hverify
      exact .inl ⟨fields, signature, hparse, hskew, hinsert⟩
    · exact (Tx.commits_throw h).elim
  · exact .inr ⟨by simpa using hunsigned, (Tx.commits_ofExcept.1 h).2⟩

/-- A call that throws stores nothing. -/
theorem authenticate_throws {nonces' : ReplayNonces} {error : SettlementError}
    (h : Tx.Throws (authenticateSettlementRequest web env now keyring request) nonces error
      nonces') : nonces' = nonces := by
  unfold authenticateSettlementRequest at h
  rcases Tx.throws_ite.1 h with ⟨-, h⟩ | ⟨-, h⟩
  · exact (Tx.throws_throw.1 h).2
  rcases Tx.throws_ite.1 h with ⟨-, h⟩ | ⟨-, h⟩
  · exact (Tx.throws_throw.1 h).2
  rcases Tx.throws_ite.1 h with ⟨-, h⟩ | ⟨-, h⟩
  · rcases Tx.throws_ite.1 h with ⟨-, h⟩ | ⟨-, h⟩
    · obtain ⟨failure, -, h⟩ := Tx.throws_mapError.1 h
      simp only [authenticateHmac, claimS2SReplay, Tx.throws_bind, Tx.commits_ofExcept,
        Tx.throws_ofExcept, Tx.throws_attempt, Tx.throws_pure] at h
      rcases h with ⟨-, rfl⟩ | ⟨_, _, ⟨-, rfl⟩, ⟨-, -, rfl⟩ | ⟨_, _, _, h⟩⟩
      · rfl
      · rfl
      · exact h.elim
    · exact (Tx.throws_throw.1 h).2
  · exact (Tx.throws_ofExcept.1 h).2

/-- What an authentication step does to the table. -/
theorem authenticate_step (web : Web) (env : Env) (state : ReplayState) (elapsed : ℕ)
    (keyring : Except HmacFailure S2SKeyring) (request : Request) :
    let next := replayStep web env state ⟨elapsed, .authenticate keyring request⟩
    next.1.clock = state.clock + elapsed ∧
      ((∃ fields signature, parseHeaders web request = .ok (fields, signature) ∧
        env.withinSkew (state.clock + elapsed) fields.timestampUnix = true ∧
        state.nonces.insert? (replayNonce env fields) = some next.1.nonces) ∨
      (next.1.nonces = state.nonces ∧
        ∀ serviceId, next.2 = .authenticated (.ok serviceId) → hasHmacHeaders request = false)) := by
  refine ⟨rfl, ?_⟩
  simp only [replayStep]
  cases hcall : (authenticateSettlementRequest web env (state.clock + elapsed) keyring
      request).run state.nonces with
  | mk result nonces' =>
      cases result with
      | error e => exact .inr ⟨authenticate_throws (Tx.run_error.1 hcall), nofun⟩
      | ok serviceId =>
          rcases authenticate_commits (Tx.run_ok.1 hcall) with hstored | ⟨hunsigned, hsame⟩
          · exact .inl hstored
          · exact .inr ⟨hsame, fun _ _ => hunsigned⟩

/-! ## Spent requests -/

/-- When the row of a signed request expires. -/
def SignedRequest.expiresAt (env : Env) (signed : SignedRequest) : ℤ :=
  (signed.timestampUnix + env.skew) * 1000

/-- A signed request that cannot be accepted any more: a row for its nonce
expires no earlier than its own, or its window is over. -/
def Spent (env : Env) (signed : SignedRequest) (state : ReplayState) : Prop :=
  (∃ row ∈ state.nonces, row.key = (signed.serviceId, signed.keyId, signed.nonce) ∧
    signed.expiresAt env ≤ row.expiresAt) ∨
  signed.expiresAt env + 1000 ≤ state.clock

/-- The step is no purge in the second after the expiry of a stored row. -/
def PurgesLate (state : ReplayState) (event : ReplayEvent) : Prop :=
  match event.action with
  | .purge => NoneJustExpired state.nonces (state.clock + event.elapsed)
  | .authenticate _ _ => True

instance : (state : ReplayState) → (event : ReplayEvent) → Decidable (PurgesLate state event)
  | state, ⟨elapsed, .purge⟩ =>
      inferInstanceAs (Decidable (NoneJustExpired state.nonces (state.clock + elapsed)))
  | _, ⟨_, .authenticate _ _⟩ => inferInstanceAs (Decidable True)

variable {signed : SignedRequest} {elapsed : ℕ}

private theorem spent_authenticate {state : ReplayState} (h : Spent env signed state) :
    Spent env signed (replayStep web env state ⟨elapsed, .authenticate keyring request⟩).1 := by
  rcases h with ⟨row, hrow, hkey, hexpires⟩ | hover
  · refine .inl ⟨row, ?_, hkey, hexpires⟩
    rcases (authenticate_step web env state elapsed keyring request).2 with
      ⟨fields, _, _, _, hinsert⟩ | ⟨hsame, -⟩
    · exact (Table.mem_insert? hinsert).2 (.inl hrow)
    · rw [hsame]
      exact hrow
  · refine .inr ?_
    simp only [replayStep]
    omega

/-- A spent request stays spent, unless a purge comes in the second after the
expiry of a row. -/
theorem spent_step (state : ReplayState) (event : ReplayEvent) (hlate : PurgesLate state event)
    (h : Spent env signed state) :
    Spent env signed (replayStep web env state event).1 := by
  obtain ⟨elapsed, action⟩ := event
  cases action with
  | authenticate keyring request => exact spent_authenticate h
  | purge =>
      rcases h with ⟨row, hrow, hkey, hexpires⟩ | hover
      · by_cases hexpired : row.expiresAt < state.clock + elapsed
        · -- the purge deletes the row, but only after the window of the request
          have hwindow : ¬ (row.expiresAt < state.clock + elapsed ∧
              state.clock + elapsed < row.expiresAt + 1000) := hlate row hrow
          refine .inr ?_
          simp only [replayStep]
          omega
        · refine .inl ⟨row, ?_, hkey, hexpires⟩
          simp only [replayStep, purgeExpiredS2SReplayNonces, Table.mem_filter, decide_eq_true_eq]
          exact ⟨hrow, hexpired⟩
      · refine .inr ?_
        simp only [replayStep]
        omega

private theorem signed_of_accepts {state : ReplayState} {result : ReplayResult}
    (h : accepts web signed ⟨state, ⟨elapsed, .authenticate keyring request⟩, result⟩ = true) :
    ∃ serviceId, result = .authenticated (.ok serviceId) ∧ request.signed? web = some signed := by
  cases result with
  | purged => cases h
  | authenticated result =>
      cases result with
      | error e => cases h
      | ok serviceId => exact ⟨serviceId, rfl, of_decide_eq_true h⟩

/-- Only a request that is not spent is accepted, and accepting spends it. -/
theorem spent_of_accepts (state : ReplayState) (event : ReplayEvent)
    (h : accepts web signed ⟨state, event, (replayStep web env state event).2⟩ = true) :
    ¬ Spent env signed state ∧ Spent env signed (replayStep web env state event).1 := by
  obtain ⟨elapsed, action⟩ := event
  cases action with
  | purge => cases h
  | authenticate keyring request =>
      obtain ⟨serviceId, hresult, h⟩ := signed_of_accepts h
      rcases (authenticate_step web env state elapsed keyring request).2 with
        ⟨fields, signature, hparse, hskew, hinsert⟩ | ⟨-, hunsigned⟩
      · have hsigned : signed = ⟨fields.serviceId, fields.keyId, fields.nonce,
            fields.timestampUnix, signature⟩ := by
          unfold Request.signed? at h
          split at h
          · rw [hparse] at h
            exact (Option.some.inj h).symm
          · cases h
        subst hsigned
        constructor
        · rintro (⟨row, hrow, hkey, -⟩ | hover)
          · exact Table.find?_eq_none.1 (Table.fresh_of_insert? hinsert) row hrow hkey
          · have hopen := lt_of_withinSkew hskew
            simp only [SignedRequest.expiresAt] at hover
            omega
        · exact .inl ⟨replayNonce env fields, (Table.mem_insert? hinsert).2 (.inr rfl), rfl, le_rfl⟩
      · -- an accepted request without a signature is not signed
        simp [Request.signed?, hunsigned serviceId hresult] at h

/-! ## Rows come from timestamps -/

theorem wellTimed_step (state : ReplayState) (event : ReplayEvent)
    (h : WellTimed env state.nonces) : WellTimed env (replayStep web env state event).1.nonces := by
  obtain ⟨elapsed, action⟩ := event
  cases action with
  | purge =>
      intro row hrow
      simp only [replayStep, purgeExpiredS2SReplayNonces, Table.mem_filter] at hrow
      exact h row hrow.1
  | authenticate keyring request =>
      intro row hrow
      rcases (authenticate_step web env state elapsed keyring request).2 with
        ⟨fields, _, _, _, hinsert⟩ | ⟨hsame, -⟩
      · rcases (Table.mem_insert? hinsert).1 hrow with hrow | rfl
        · exact h row hrow
        · exact ⟨fields.timestampUnix, rfl⟩
      · rw [hsame] at hrow
        exact h row hrow

/-! ## Runs -/

/-- The state before the first call. -/
def ReplayState.start (clock : ℤ) : ReplayState := ⟨clock, Table.empty⟩

/-- **In a run whose purges never come in the second after the expiry of a
stored row, each signed request is accepted at most once, and no purge deletes a
row whose request the timestamp check would still accept.** -/
theorem signed_request_accepted_once (web : Web) (env : Env) (clock : ℤ)
    (events : List ReplayEvent)
    (hpurges : Meets (replayStep web env) PurgesLate (.start clock) events) :
    (∀ signed, ((trace (replayStep web env) (.start clock) events).filter
      (accepts web signed)).length ≤ 1) ∧
    ∀ entry ∈ trace (replayStep web env) (.start clock) events, entry.event.action = .purge →
      ∀ row ∈ entry.before.nonces,
        row.Protects env (entry.before.clock + entry.event.elapsed) →
        row ∈ (replayStep web env entry.before entry.event).1.nonces := by
  constructor
  · intro signed
    have hinv : ∀ state event, PurgesLate state event → True →
        (fun _ : ReplayState => True) (replayStep web env state event).1 := fun _ _ _ _ => trivial
    exact length_filter_le_one hinv
      (fun state event hlate _ h => spent_step state event hlate h)
      (fun state event _ _ h => spent_of_accepts state event h) trivial hpurges
  · intro entry hentry haction
    have hempty : WellTimed env (ReplayState.start clock).nonces := by
      intro row hrow
      cases hrow
    obtain ⟨hrows, hlate, -⟩ := of_mem_trace_of_meets
      (fun state event _ h => wellTimed_step state event h) hempty hpurges hentry
    simp only [PurgesLate, haction] at hlate
    simp only [replayStep, haction]
    exact (purge_spares_iff hrows _).2 hlate

/-! ## A request of the second after its expiry -/

/-- The digests of the example. -/
def exampleWeb : Web where
  sha256 _ := fromHex
    "e3b0c44298fc1c149afbf4c8996fb92427ae41e4649b934ca495991b7852b855".toList
  hmacSha256 _ _ := fromHex
    "5af6af97cad411e39f332a4ced5ec8226c1148f2888349c652121585da71bc6a".toList
  searchParams _ := []
  encodeURIComponent value := value

def exampleEnv : Env where
  isProduction := true
  messageGoSettlementEnabled := true
  messageGoSettlementServiceCredential := ""
  messageGoS2SKeyringFile := "/run/secrets/s2s.json"
  messageGoS2SAllowedServiceIds := ["messagego"]
  messageGoS2SMaxClockSkewSeconds := some 30

def exampleKeyring : S2SKeyring := ⟨[⟨"k1", List.replicate 32 107, .messagegoToAbrchin, .active⟩]⟩

/-- A request signed at second 1000. -/
def exampleRequest : Request where
  method := "POST"
  pathname := "/api/internal/messagego/v2/settlement"
  rawQuery := ""
  rawBody := []
  headers := [
    ("x-messagego-s2s-version", "MESSAGEGO-S2S-HMAC-V1"),
    ("x-messagego-s2s-service-id", "messagego"),
    ("x-messagego-s2s-key-id", "k1"),
    ("x-messagego-s2s-timestamp", "1000"),
    ("x-messagego-s2s-nonce", "00112233445566778899aabbccddeeff"),
    ("x-messagego-s2s-content-sha256",
      "e3b0c44298fc1c149afbf4c8996fb92427ae41e4649b934ca495991b7852b855"),
    ("x-messagego-s2s-contract-id", "MESSAGEGO-V2-ABRCHIN-SETTLEMENT"),
    ("x-messagego-s2s-contract-version", "2.1.0"),
    ("x-messagego-s2s-signature",
      "5af6af97cad411e39f332a4ced5ec8226c1148f2888349c652121585da71bc6a")]

def exampleSigned : SignedRequest where
  serviceId := "messagego"
  keyId := "k1"
  nonce := "00112233445566778899aabbccddeeff"
  timestampUnix := 1000
  signature := "5af6af97cad411e39f332a4ced5ec8226c1148f2888349c652121585da71bc6a"

/-- The request, a purge some milliseconds after it, and the request again. -/
def exampleReplay (untilPurge : ℕ) : List ReplayEvent :=
  [⟨0, .authenticate (.ok exampleKeyring) exampleRequest⟩, ⟨untilPurge, .purge⟩,
    ⟨1, .authenticate (.ok exampleKeyring) exampleRequest⟩]

/-- With a skew of 30 seconds, a request signed and accepted at second 1000 is
accepted again after a purge one millisecond past its expiry. -/
theorem signed_request_accepted_twice :
    ¬ ((trace (replayStep exampleWeb exampleEnv) (.start 1000000) (exampleReplay 30001)).filter
      (accepts exampleWeb exampleSigned)).length ≤ 1 := by
  decide +kernel

/-- A purge a full second past the expiry does no harm. -/
theorem signed_request_accepted_once_example :
    Meets (replayStep exampleWeb exampleEnv) PurgesLate (.start 1000000) (exampleReplay 31000) ∧
      ((trace (replayStep exampleWeb exampleEnv) (.start 1000000) (exampleReplay 31000)).filter
        (accepts exampleWeb exampleSigned)).length ≤ 1 := by
  have hlate : Meets (replayStep exampleWeb exampleEnv) PurgesLate (.start 1000000)
      (exampleReplay 31000) := by decide +kernel
  exact ⟨hlate, (signed_request_accepted_once exampleWeb exampleEnv 1000000 (exampleReplay 31000)
    hlate).1 exampleSigned⟩

end AbrChin.S2S
