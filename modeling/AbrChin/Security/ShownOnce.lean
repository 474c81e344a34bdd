import AbrChin.Security.InstanceCredentials

/-!
# A secret is shown once

A secret that has been stored for a server is shown to its owner at the next reveal, and is gone then.
There are four ways in which this fails.

* The branch for a credential that is over clears the row and throws in the same transaction, so that
  the secret stays where it is (`expired_secret_stays`).
* The audit record of the row is the one of the first reveal of all, and refuses every other user: a new
  owner never sees a secret that is stored after a transfer.
* A reveal that looks for the row before there is one takes no lock, and may consume another secret than
  the one it has read.
* The row of the server is read without a lock, so that a transfer may come between the check of the
  owner and the answer.

`shown_once` shows that these are all.  What a reveal has found when it goes on (`Past`) is kept by what
others commit (`Moves`), and its last statement takes the secret that it has read (`inv_consuming`).
-/

namespace AbrChin.Security

open Lib

variable {vault : CredentialVault} {db later : CredentialDb}

/-! ## What is claimed -/

/-- The secret of a version is not stored any more. -/
def Gone (db : CredentialDb) (id : String) (version : ℕ) : Prop :=
  ∃ row, db.credential id = some row ∧
    (version < row.version ∨ row.version = version ∧ row.encrypted = none)

abbrev CredentialEntry : Type :=
  Entry CredentialSystem CredentialEvent (Option (ℕ × CredentialAnswer))

/-- The step shows the secret of a version. -/
def shows (id : String) (version : ℕ) (entry : CredentialEntry) : Bool :=
  match entry.result with
  | some (_, .revealed what) => what.input.instanceId = id && what.read.version = version
  | _ => false

/-- What a reveal returns is the secret that is stored, which is not over; the user is the owner of the
server, which is delivered, and the secret is not stored any more after that. -/
structure Rightful (entry : CredentialEntry) (after : CredentialDb) (what : Revealed) : Prop where
  owner : ∃ server, CredentialDb.server entry.before.shared.db what.input.instanceId = some server ∧
    server.isOwnedBy what.input.userId = true
  stored : ∃ row, CredentialDb.credential entry.before.shared.db what.input.instanceId = some row ∧
    row.version = what.read.version ∧ row.secret = what.secret ∧ what.now < row.expiresAt
  gone : Gone after what.input.instanceId what.read.version

/-- The reveal of a point has found the secret, and goes on. -/
def CredentialPoint.checked : CredentialPoint → Option Checked
  | .auditing checked | .searching checked | .recording checked | .confirming checked
  | .consuming checked _ => some checked
  | _ => none

/-- A secret is shown at most once, and rightfully; a reveal that finds it does not fail before it is
gone, and after a reveal that finds it to be over it is gone. -/
structure ShownOnce (vault : CredentialVault) (sys : CredentialSystem) (events : List CredentialEvent) :
    Prop where
  once : ∀ id version,
    ((trace (credentialProgram vault).step sys events).filter (shows id version)).length ≤ 1
  rightful : ∀ entry ∈ trace (credentialProgram vault).step sys events, ∀ client what,
    entry.result = some (client, .revealed what) →
      Rightful entry ((credentialProgram vault).step entry.before entry.event).1.shared.db what
  /-- The owner who looks for a secret that is stored and not over goes on. -/
  found : ∀ entry ∈ trace (credentialProgram vault).step sys events, ∀ client input session,
    entry.event = .statement client →
    entry.before.activity client = some ⟨.checking input, session⟩ → session.script.isThrow = false →
    ∀ read ipv4, CredentialDb.visible entry.before.shared.db input = some (read, ipv4) →
      ∃ later, ((credentialProgram vault).step entry.before entry.event).1.activity client = some later ∧
        if read.expiresAt ≤ CredentialDb.clock entry.before.shared.db then later.point = .expiring input read
        else read.encrypted.isSome = true →
          ∃ checked, later.point = .auditing checked ∧ checked.input = input ∧ checked.read = read
  /-- A reveal that goes on fails only when the secret is gone. -/
  shown : ∀ entry ∈ trace (credentialProgram vault).step sys events, ∀ client point session checked,
    entry.event = .statement client → entry.before.activity client = some ⟨point, session⟩ →
    point.checked = some checked → session.script.isThrow = true →
      Gone entry.before.shared.db checked.input.instanceId checked.read.version
  /-- After a reveal that has found the secret to be over, it is gone. -/
  lapsed : ∀ entry ∈ trace (credentialProgram vault).step sys events, ∀ client input read session,
    entry.event = .statement client → entry.before.activity client = some ⟨.expiring input read, session⟩ →
    session.script.isThrow = true →
      Gone ((credentialProgram vault).step entry.before entry.event).1.shared.db input.instanceId
        read.version

/-! ## The condition -/

/-- What the read of a reveal finds: a secret that is over is not stored any more, and for one that is
still to be shown there is no audit record of another user. -/
def FindsOwn (db : CredentialDb) (input : RevealInput) : Prop :=
  ∀ read ipv4, db.visible input = some (read, ipv4) → read.encrypted.isSome = true →
    db.clock < read.expiresAt ∧ ∀ actor, db.audit input.instanceId = some actor → actor = input.userId

/-- A reveal finds a secret that is not over, and no audit record of another user; it consumes the secret
that it has read; and what happens to the server between its check and its end leaves it delivered to the
user. -/
def Undisturbed (sys : CredentialSystem) : CredentialEvent → Prop
  | .statement client => ∀ activity, sys.activity client = some activity →
      activity.session.script.isThrow = false →
      match activity.point with
      | .checking input => FindsOwn sys.shared.db input
      | .consuming checked _ => ∀ row,
          CredentialDb.credential sys.shared.db checked.input.instanceId = some row →
          row.encrypted.isSome = true → row.version = checked.read.version
      | _ => True
  | .world event => ∀ client activity checked,
      sys.activity client = some activity → activity.point.checked = some checked →
        ∃ server, CredentialDb.server (credentialWorld event sys.shared.db) checked.input.instanceId =
          some server ∧ server.isOwnedBy checked.input.userId = true
  | _ => True

/-! ## What a commit changes -/

/-- A credential with its secret, if it is not gone. -/
structure Coherent (vault : CredentialVault) (row : InstanceCredential) : Prop where
  secret : ∀ encrypted, row.encrypted = some encrypted → vault.decrypt encrypted = row.secret
  ready : row.encrypted.isSome = true ↔ row.status = .ready
  unrevealed : row.status = .ready → row.revealedAt = none

def CredentialGood (vault : CredentialVault) (db : CredentialDb) : Prop :=
  ∀ id row, db.credential id = some row → Coherent vault row

/-- A later credential of the same server: another one, or the same without its secret. -/
def IsLater (old new : InstanceCredential) : Prop :=
  old.version < new.version ∨ new.version = old.version ∧ new.secret = old.secret ∧
    new.expiresAt = old.expiresAt ∧ (old.encrypted = none → new.encrypted = none)

/-- What a step leaves of what has been committed. -/
structure Moves (db later : CredentialDb) : Prop where
  credential : ∀ id row, db.credential id = some row →
    ∃ new, later.credential id = some new ∧ IsLater row new
  kept : ∀ id actor, db.audit id = some actor → later.audit id = some actor

/-- A commit leaves the servers, and records the reveals of their owners. -/
structure CommitMoves (db later : CredentialDb) : Prop extends Moves db later where
  server : ∀ id, later.server id = db.server id
  owner : ∀ id actor, later.audit id = some actor → db.audit id = some actor ∨
    ∃ server, db.server id = some server ∧ server.isOwnedBy actor = true

theorem IsLater.refl (row : InstanceCredential) : IsLater row row := .inr ⟨rfl, rfl, rfl, id⟩

variable {id : String} {version : ℕ}

theorem Gone.moves (h : Gone db id version) (hmoves : Moves db later) : Gone later id version := by
  obtain ⟨row, hrow, hgone⟩ := h
  obtain ⟨new, hnew, hlater⟩ := hmoves.credential id row hrow
  refine ⟨new, hnew, ?_⟩
  rcases hlater with hnewer | ⟨hversion, -, -, hnone⟩
  · rcases hgone with holder | ⟨hsame, -⟩
    · exact .inl (holder.trans hnewer)
    · exact .inl (hsame ▸ hnewer)
  · rcases hgone with holder | ⟨hsame, hencrypted⟩
    · exact .inl (hversion ▸ holder)
    · exact .inr ⟨hversion.trans hsame, hnone hencrypted⟩

/-- A server has one owner. -/
theorem owner_unique {server : ServerRow} {first second : String} (hfirst : server.isOwnedBy first = true)
    (hsecond : server.isOwnedBy second = true) : first = second := by
  simp only [ServerRow.isOwnedBy, Bool.and_eq_true, decide_eq_true_eq] at hfirst hsecond
  exact hfirst.1.1.1.symm.trans hsecond.1.1.1

variable {row : InstanceCredential}

theorem IsLater.trans {old new : InstanceCredential} (hfirst : IsLater old row)
    (hsecond : IsLater row new) : IsLater old new := by
  rcases hfirst with hnewer | ⟨hversion, hsecret, hexpires, hnone⟩
  · rcases hsecond with hnewest | ⟨hsame, -⟩
    · exact .inl (hnewer.trans hnewest)
    · exact .inl (hsame ▸ hnewer)
  · rcases hsecond with hnewest | ⟨hversion', hsecret', hexpires', hnone'⟩
    · exact .inl (hversion ▸ hnewest)
    · exact .inr ⟨hversion'.trans hversion, hsecret'.trans hsecret, hexpires'.trans hexpires,
        fun hencrypted => hnone' (hnone hencrypted)⟩

theorem Coherent.encrypted_eq_none (h : Coherent vault row) (hstatus : row.status ≠ .ready) :
    row.encrypted = none := by
  rw [← Option.not_isSome_iff_eq_none]
  exact fun hsome => hstatus (h.ready.1 hsome)

/-! ## The invariant -/

/-- What a reveal has found when it goes on. -/
structure Past (vault : CredentialVault) (db : CredentialDb) (checked : Checked) : Prop where
  owner : ∃ server, db.server checked.input.instanceId = some server ∧
    server.isOwnedBy checked.input.userId = true
  own : ∀ actor, db.audit checked.input.instanceId = some actor → actor = checked.input.userId
  seen : ∃ row, db.credential checked.input.instanceId = some row ∧ IsLater checked.read row
  secret : vault.decrypt checked.encrypted = checked.read.secret
  time : checked.now < checked.read.expiresAt

/-- What is written by a call that writes nothing. -/
def Never (row : CredentialRow) (_ _ : CredentialVal row) : Prop := False

/-- A credential is stored. -/
def StoreWrites (vault : CredentialVault) :
    (row : CredentialRow) → CredentialVal row → CredentialVal row → Prop
  | .credential _, old, new => ∃ row, new = some row ∧ Coherent vault row ∧
      ∀ before, old = some before → InstanceCredential.version before < row.version
  | _, _, _ => False

/-- What a reveal of a credential that is over writes before it fails. -/
def ExpireWrites : (row : CredentialRow) → CredentialVal row → CredentialVal row → Prop
  | .credential _, _, _ => True
  | _, _, _ => False

/-- A reveal records itself once, and consumes the credential that it has read. -/
def RevealWrites (checked : Checked) :
    (row : CredentialRow) → CredentialVal row → CredentialVal row → Prop
  | .audit id, old, new =>
      id = checked.input.instanceId ∧ old = none ∧ new = some checked.input.userId
  | .credential id, old, new => id = checked.input.instanceId ∧
      ∃ row now, old = some row ∧ InstanceCredential.encrypted row ≠ none ∧
        row.version = checked.read.version ∧ new = some (row.consumed now)
  | _, _, _ => False

/-- A reveal that goes on. -/
structure Reveals (vault : CredentialVault) (db : CredentialDb) (checked : Checked)
    (session : CredentialSession) : Prop where
  past : Past vault db checked
  writes : ∀ row new, session.written row = some new → RevealWrites checked row (db row) new

/-- A reveal at a point before it has consumed the credential. -/
structure Audits (vault : CredentialVault) (db : CredentialDb) (checked : Checked) (point : CredentialPoint)
    (session : CredentialSession) : Prop extends Reveals vault db checked session where
  code : session.script = credentialScript vault point
  unwritten : session.written (.credential checked.input.instanceId) = none

def CredentialInv (vault : CredentialVault) (db : CredentialDb) :
    CredentialPoint → CredentialSession → Prop
  | .preparing _, session =>
      session.Does Never (fun next => ∃ input, next = .goto (.upserting input)) db
  | .upserting _, session => session.Does (StoreWrites vault) (fun next => next = .answer .stored) db
  | .locking input, session => session.Does Never (fun next => next = .goto (.checking input)) db
  | .checking input, session => (∀ row, session.written row = none) ∧
      (session.script = readCredential input ∨ session.script.isThrow = true)
  | .expiring input read, session =>
      Gone db input.instanceId read.version ∧ session.Does ExpireWrites (fun _ => False) db
  | .auditing checked, session => Audits vault db checked (.auditing checked) session
  | .searching checked, session => Audits vault db checked (.searching checked) session
  | .recording checked, session => Audits vault db checked (.recording checked) session
  | .confirming checked, session => Audits vault db checked (.confirming checked) session ∧
      (session.view db (.audit checked.input.instanceId)).isSome = true
  | .consuming checked now, session => Reveals vault db checked session ∧
      ((session.script = consumeCredential vault checked now ∧
          session.written (.credential checked.input.instanceId) = none) ∨
        (session.script.isThrow = true ∧ Gone db checked.input.instanceId checked.read.version) ∨
        (session.script = .done (.answer (revealedAnswer vault checked)) ∧
          (session.written (.credential checked.input.instanceId)).isSome = true))

/-! ## What is kept -/

/-- What a reveal has found others keep. -/
theorem Past.moves {checked : Checked} (h : Past vault db checked) (hmoves : CommitMoves db later) :
    Past vault later checked := by
  obtain ⟨server, hserver, howned⟩ := h.owner
  obtain ⟨row, hrow, hlater⟩ := h.seen
  obtain ⟨new, hnew, hnewer⟩ := hmoves.credential _ row hrow
  refine ⟨⟨server, (hmoves.server _).trans hserver, howned⟩, fun actor hactor => ?_,
    ⟨new, hnew, hlater.trans hnewer⟩, h.secret, h.time⟩
  rcases hmoves.owner _ actor hactor with hbefore | ⟨server', hserver', howned'⟩
  · exact h.own actor hbefore
  · rw [hserver] at hserver'
    obtain rfl := Option.some.inj hserver'
    exact owner_unique howned' howned

theorem storeWrites_trans (row : CredentialRow) (a b c : CredentialVal row)
    (hfirst : StoreWrites vault row a b) (hsecond : StoreWrites vault row b c) :
    StoreWrites vault row a c := by
  cases row with
  | credential id =>
      obtain ⟨row, hrow, -, hversion⟩ := hfirst
      obtain ⟨new, hnew, hcoherent, hnewer⟩ := hsecond
      exact ⟨new, hnew, hcoherent, fun before hbefore =>
        (hversion before hbefore).trans (hnewer row hrow)⟩
  | server id => exact hfirst
  | audit id => exact hfirst
  | auditLock id => exact hfirst
  | clock => exact hfirst

theorem expireWrites_trans (row : CredentialRow) (a b c : CredentialVal row) (h : ExpireWrites row a b)
    (_ : ExpireWrites row b c) : ExpireWrites row a c := by
  cases row with
  | credential id => trivial
  | server id => exact h
  | audit id => exact h
  | auditLock id => exact h
  | clock => exact h

theorem never_trans (row : CredentialRow) (a b c : CredentialVal row) (h : Never row a b)
    (_ : Never row b c) : Never row a c := h

/-! ## The commits -/

/-- A commit that writes nothing. -/
theorem eq_of_never (hwrites : ∀ row, later row = db row ∨ Never row (db row) (later row)) :
    later = db := by
  funext row
  exact (hwrites row).resolve_right id

/-- A commit of credentials that are later, and of records of owners. -/
theorem commitMoves_of (hserver : ∀ id, later.server id = db.server id)
    (hcredential : ∀ id, later.credential id = db.credential id ∨
      ∃ new, later.credential id = some new ∧ ∀ row, db.credential id = some row → IsLater row new)
    (haudit : ∀ id, later.audit id = db.audit id ∨ db.audit id = none ∧
      ∃ server actor, db.server id = some server ∧ later.audit id = some actor ∧
        server.isOwnedBy actor = true) : CommitMoves db later where
  credential id row hrow := by
    rcases hcredential id with hsame | ⟨new, hnew, hlater⟩
    · exact ⟨row, hsame.trans hrow, .refl row⟩
    · exact ⟨new, hnew, hlater row hrow⟩
  kept id actor hactor := by
    rcases haudit id with hsame | ⟨hnone, -⟩
    · exact hsame.trans hactor
    · rw [hnone] at hactor
      cases hactor
  server := hserver
  owner id actor hactor := by
    rcases haudit id with hsame | ⟨-, server, actor', hserver, hactor', howned⟩
    · exact .inl (hsame.symm.trans hactor)
    · rw [hactor] at hactor'
      obtain rfl := Option.some.inj hactor'
      exact .inr ⟨server, hserver, howned⟩

theorem commit_store (hgood : CredentialGood vault db)
    (hwrites : ∀ row, later row = db row ∨ StoreWrites vault row (db row) (later row)) :
    CredentialGood vault later ∧ CommitMoves db later := by
  refine ⟨fun id row hrow => ?_, commitMoves_of (fun id => ?_) (fun id => ?_) (fun id => ?_)⟩
  · rcases hwrites (.credential id) with hsame | ⟨new, hnew, hcoherent, -⟩
    · exact hgood id row (hsame.symm.trans hrow)
    · obtain rfl := Option.some.inj (hrow.symm.trans hnew)
      exact hcoherent
  · exact (hwrites (.server id)).resolve_right False.elim
  · rcases hwrites (.credential id) with hsame | ⟨new, hnew, -, hversion⟩
    · exact .inl hsame
    · exact .inr ⟨new, hnew, fun row hrow => .inl (hversion row hrow)⟩
  · exact .inl ((hwrites (.audit id)).resolve_right False.elim)

theorem coherent_consumed (now : ℤ) (row : InstanceCredential) : Coherent vault (row.consumed now) where
  secret _ hencrypted := by cases hencrypted
  ready := ⟨fun hsome => Bool.noConfusion hsome, fun hready => InstanceCredentialStatus.noConfusion hready⟩
  unrevealed hready := InstanceCredentialStatus.noConfusion hready

theorem commit_reveal {checked : Checked} (hgood : CredentialGood vault db) (hpast : Past vault db checked)
    (hwrites : ∀ row, later row = db row ∨ RevealWrites checked row (db row) (later row)) :
    CredentialGood vault later ∧ CommitMoves db later := by
  refine ⟨fun id row hrow => ?_, commitMoves_of (fun id => ?_) (fun id => ?_) (fun id => ?_)⟩
  · rcases hwrites (.credential id) with hsame | ⟨-, old, now, -, -, -, hnew⟩
    · exact hgood id row (hsame.symm.trans hrow)
    · obtain rfl := Option.some.inj (hrow.symm.trans hnew)
      exact coherent_consumed now old
  · exact (hwrites (.server id)).resolve_right False.elim
  · rcases hwrites (.credential id) with hsame | ⟨-, old, now, hold, -, -, hnew⟩
    · exact .inl hsame
    · refine .inr ⟨_, hnew, fun row hrow => ?_⟩
      obtain rfl := Option.some.inj (hrow.symm.trans hold)
      exact .inr ⟨rfl, rfl, rfl, fun _ => rfl⟩
  · rcases hwrites (.audit id) with hsame | ⟨rfl, hnone, hnew⟩
    · exact .inl hsame
    · obtain ⟨server, hserver, howned⟩ := hpast.owner
      exact .inr ⟨hnone, server, _, hserver, hnew, howned⟩

/-- What a reveal that ends has consumed. -/
structure Consumes (db : CredentialDb) (checked : Checked) (later : CredentialDb) : Prop where
  stored : ∃ row, db.credential checked.input.instanceId = some row ∧ row.encrypted ≠ none ∧
    row.version = checked.read.version ∧ row.secret = checked.read.secret ∧
    row.expiresAt = checked.read.expiresAt
  gone : Gone later checked.input.instanceId checked.read.version

theorem consumes_of_commit {sys : CredentialSystem} {client : ℕ} {checked : Checked}
    {session : CredentialSession} (h : Reveals vault sys.shared.db checked session)
    (hwritten : (session.written (.credential checked.input.instanceId)).isSome = true) :
    Consumes sys.shared.db checked (sys.shared.commit client session).db := by
  obtain ⟨new, hnew⟩ := Option.isSome_iff_exists.1 hwritten
  obtain ⟨-, row, now, hrow, hencrypted, hversion, rfl⟩ := h.writes _ new hnew
  obtain ⟨row', hrow', hlater⟩ := h.past.seen
  obtain rfl := Option.some.inj (hrow'.symm.trans hrow)
  refine ⟨⟨row', hrow', hencrypted, hversion, ?_⟩, row'.consumed now, ?_, .inr ⟨hversion, rfl⟩⟩
  · rcases hlater with hnewer | ⟨-, hsecret, hexpires, -⟩
    · exact absurd hversion hnewer.ne'
    · exact ⟨hsecret, hexpires⟩
  · show (session.written (.credential checked.input.instanceId)).getD _ = some (row'.consumed now)
    rw [hnew]
    rfl

/-! ## The scripts -/

variable {input : RevealInput}

theorem does_prepareStore (input : StoreInput) :
    (prepareStore input).Does Never fun next => ∃ input, next = .goto (.upserting input) :=
  Script.writes_throwIf.does fun _ => (Script.writes_query _).does fun _ =>
    Script.writes_throwIf.does fun _ => Script.does_pure ⟨input, rfl⟩

theorem coherent_upserted (input : StoreInput) (now : ℤ) (old : Option InstanceCredential) :
    Coherent vault (upserted vault input now old) where
  secret encrypted hencrypted := by
    obtain rfl := Option.some.inj hencrypted
    exact vault.decrypt_encrypt input.iv input.secret
  ready := ⟨fun _ => rfl, fun _ => rfl⟩
  unrevealed _ := rfl

theorem does_upsertCredential (input : StoreInput) :
    (upsertCredential vault input).Does (StoreWrites vault) fun next => next = .answer .stored := by
  have hwrite : ∀ now, (Script.updateMany (CredentialRow.credential input.instanceId) fun old =>
      some (some (upserted vault input now old)) : CredentialScript Bool).Writes (StoreWrites vault) := by
    intro now
    refine Script.writes_updateMany fun old new hnew => ?_
    obtain rfl := Option.some.inj hnew
    refine ⟨_, rfl, coherent_upserted input now old, fun before hbefore => ?_⟩
    subst hbefore
    exact Nat.lt_succ_self before.version
  exact (Script.writes_query _).does fun now => (hwrite now).does fun _ => Script.does_pure rfl

theorem does_lockCredential (input : RevealInput) :
    (lockCredential input).Does Never fun next => next = .goto (.checking input) :=
  (Script.writes_query _).does fun _ =>
    (Script.writes_onlyIf ((Script.writes_getLocked _).bind fun _ => Script.writes_pure _)).does
      fun _ => Script.does_pure rfl

theorem does_expireCredential (input : RevealInput) :
    (expireCredential input).Does ExpireWrites fun _ => False :=
  (Script.writes_updateMany fun _ _ _ => trivial).does fun _ => ⟨trivial, trivial⟩

/-! ## The points of a call -/

variable {point next : CredentialPoint}

/-- A reveal comes to its next point after its only statement there. -/
theorem advance_goto {session : CredentialSession} (hends : point.ends = false)
    (hscript : session.script = .done (.goto next)) :
    (credentialProgram vault).advance ⟨point, session⟩ = (credentialProgram vault).resume session next := by
  have hprogram : (credentialProgram vault).ends point = false := hends
  simp only [Program.advance, hprogram, hscript]

theorem advance_throw {session : CredentialSession} (hscript : session.script.isThrow = true) :
    (credentialProgram vault).advance ⟨point, session⟩ = ⟨point, session⟩ := by
  rcases (credentialProgram vault).advance_cases ⟨point, session⟩ with hsame | ⟨next, -, hdone, -⟩
  · exact hsame
  · rw [show session.script = _ from hdone] at hscript
    cases hscript

/-- A reveal that goes on with nothing changed. -/
theorem Audits.goto {checked : Checked} {session : CredentialSession}
    (h : Audits vault db checked point session) :
    Audits vault db checked next ((credentialProgram vault).resume session next).session where
  past := h.past
  writes := h.writes
  code := rfl
  unwritten := h.unwritten

theorem Audits.consuming {checked : Checked} {now : ℤ} {session : CredentialSession}
    (h : Audits vault db checked (.consuming checked now) session) :
    CredentialInv vault db (.consuming checked now) session :=
  ⟨h.toReveals, .inl ⟨h.code, h.unwritten⟩⟩

variable {read : InstanceCredential} {ipv4 : Option String}

/-- What a user may see is the credential of a server that is delivered to the user. -/
theorem owned_of_visible (hvisible : db.visible input = some (read, ipv4)) :
    ∃ server, db.server input.instanceId = some server ∧ server.isOwnedBy input.userId = true ∧
      db.credential input.instanceId = some read := by
  unfold CredentialDb.visible at hvisible
  cases hcredential : db.credential input.instanceId with
  | none => simp [hcredential] at hvisible
  | some credential =>
      cases hserver : db.server input.instanceId with
      | none => simp [hcredential, hserver] at hvisible
      | some server =>
          by_cases howned : server.isOwnedBy input.userId = true
          · simp only [hcredential, hserver, howned, if_true, Option.some.injEq,
              Prod.mk.injEq] at hvisible
            exact ⟨server, rfl, howned, by rw [hvisible.1]⟩
          · simp [hcredential, hserver, howned] at hvisible

/-- What the read of a reveal leads to. -/
theorem inv_checked {session : CredentialSession} (hgood : CredentialGood vault db)
    (hfinds : FindsOwn db input) (hunwritten : ∀ row, session.written row = none)
    (hscript : session.script = checkCredential input db.clock (db.visible input)) :
    CredentialInv vault db ((credentialProgram vault).advance ⟨.checking input, session⟩).point
      ((credentialProgram vault).advance ⟨.checking input, session⟩).session := by
  have hthrow : session.script.isThrow = true →
      CredentialInv vault db ((credentialProgram vault).advance ⟨.checking input, session⟩).point
        ((credentialProgram vault).advance ⟨.checking input, session⟩).session := by
    intro h
    rw [advance_throw h]
    exact ⟨hunwritten, .inr h⟩
  cases hvisible : db.visible input with
  | none =>
      refine hthrow ?_
      rw [hscript, hvisible]
      rfl
  | some found =>
      obtain ⟨read, ipv4⟩ := found
      obtain ⟨server, hserver, howned, hread⟩ := owned_of_visible hvisible
      have hfound := hfinds read ipv4 hvisible
      have hcoherent := hgood _ read hread
      rw [hvisible] at hscript
      simp only [checkCredential] at hscript
      by_cases hexpired : read.expiresAt ≤ db.clock
      · rw [if_pos hexpired] at hscript
        rw [advance_goto rfl hscript]
        refine ⟨⟨read, hread, .inr ⟨rfl, ?_⟩⟩, (does_expireCredential input).resume fun row new hnew => ?_⟩
        · rw [← Option.not_isSome_iff_eq_none]
          exact fun hsome => absurd (hfound hsome).1 (not_lt.2 hexpired)
        · rw [hunwritten row] at hnew
          cases hnew
      · rw [if_neg hexpired] at hscript
        cases hencrypted : read.encrypted with
        | none =>
            refine hthrow ?_
            rw [hscript, hencrypted]
            rfl
        | some encrypted =>
            have hsome : read.encrypted.isSome = true := by
              rw [hencrypted]
              rfl
            simp only [hencrypted, if_pos (hcoherent.ready.1 hsome)] at hscript
            rw [advance_goto rfl hscript]
            refine ⟨⟨⟨⟨server, hserver, howned⟩, (hfound hsome).2, ⟨read, hread, .refl read⟩,
              hcoherent.secret encrypted hencrypted, not_le.1 hexpired⟩, fun row new hnew => ?_⟩, rfl,
              hunwritten _⟩
            replace hnew : session.written row = some new := hnew
            rw [hunwritten row] at hnew
            cases hnew

section Statements

variable {sys : CredentialSystem} {client : ℕ} {checked : Checked} {before session : CredentialSession}
  {later' : Shared ℕ CredentialVal}

/-- The record that a reveal sees is its own. -/
theorem Reveals.actor_eq {actor : String} (h : Reveals vault db checked session)
    (hactor : session.view db (.audit checked.input.instanceId) = some actor) :
    actor = checked.input.userId := by
  cases hwritten : session.written (.audit checked.input.instanceId) with
  | none =>
      rw [Session.view_of_unwritten hwritten] at hactor
      exact h.past.own actor hactor
  | some new =>
      obtain ⟨-, -, hnew⟩ := h.writes _ new hwritten
      rw [Session.view, hwritten, Option.getD_some, hnew] at hactor
      exact (Option.some.inj hactor).symm

theorem Reveals.audit_eq_none (h : Reveals vault db checked session)
    (hnone : session.view db (.audit checked.input.instanceId) = none) :
    db.audit checked.input.instanceId = none := by
  cases hwritten : session.written (.audit checked.input.instanceId) with
  | none =>
      rw [Session.view_of_unwritten hwritten] at hnone
      exact hnone
  | some new =>
      obtain ⟨-, -, hnew⟩ := h.writes _ new hwritten
      rw [Session.view, hwritten, Option.getD_some, hnew] at hnone
      cases hnone

theorem inv_audited (h : Audits vault sys.shared.db checked (.auditing checked) before)
    (hstatement : before.statement client sys.shared = (later', .running session)) :
    CredentialInv vault sys.shared.db
      ((credentialProgram vault).advance ⟨.auditing checked, session⟩).point
      ((credentialProgram vault).advance ⟨.auditing checked, session⟩).session := by
  have hcode := h.code
  rcases statement_cases hstatement with ⟨next, heq, -⟩ | ⟨row, next, heq, -, rfl⟩ |
    ⟨row, f, next, heq, -⟩ | ⟨row, f, next, value, heq, -⟩
  all_goals
    rw [hcode] at heq
    cases heq
  rw [advance_goto rfl rfl]
  exact h.goto

theorem inv_searched (h : Audits vault sys.shared.db checked (.searching checked) before)
    (hstatement : before.statement client sys.shared = (later', .running session)) :
    CredentialInv vault sys.shared.db
      ((credentialProgram vault).advance ⟨.searching checked, session⟩).point
      ((credentialProgram vault).advance ⟨.searching checked, session⟩).session := by
  have hcode := h.code
  rcases statement_cases hstatement with ⟨next, heq, -, rfl⟩ | ⟨row, next, heq, -⟩ |
    ⟨row, f, next, heq, -⟩ | ⟨row, f, next, value, heq, -⟩
  all_goals
    rw [hcode] at heq
    cases heq
  cases haudit : before.view sys.shared.db (.audit checked.input.instanceId) with
  | none =>
      rw [advance_goto rfl (by simp only [CredentialDb.audit, haudit]; rfl)]
      exact h.goto
  | some actor =>
      have hown := h.toReveals.actor_eq haudit
      rw [advance_goto rfl (by simp only [CredentialDb.audit, haudit, Script.pure_bind', replayAudit, hown, if_true]; rfl)]
      exact h.goto.consuming

theorem inv_recorded (h : Audits vault sys.shared.db checked (.recording checked) before)
    (hstatement : before.statement client sys.shared = (later', .running session)) :
    CredentialInv vault sys.shared.db
      ((credentialProgram vault).advance ⟨.recording checked, session⟩).point
      ((credentialProgram vault).advance ⟨.recording checked, session⟩).session := by
  have hcode := h.code
  rcases statement_cases hstatement with ⟨next, heq, -⟩ | ⟨row, next, heq, -⟩ |
    ⟨row, f, next, heq, hvalue, -, rfl⟩ | ⟨row, f, next, value, heq, hvalue, -, rfl⟩
  all_goals
    rw [hcode] at heq
    cases heq
  · rw [advance_goto rfl rfl]
    refine ⟨h.goto, ?_⟩
    show (before.view sys.shared.db (.audit checked.input.instanceId)).isSome = true
    cases hview : before.view sys.shared.db (.audit checked.input.instanceId) with
    | none => simp [hview] at hvalue
    | some actor => rfl
  · rw [advance_goto rfl rfl]
    cases hview : before.view sys.shared.db (.audit checked.input.instanceId) with
    | some actor => simp [hview] at hvalue
    | none =>
        have hnew : value = some checked.input.userId := by simpa [hview] using hvalue.symm
        subst hnew
        refine ⟨⟨⟨h.past, fun row new hnew => ?_⟩, rfl, ?_⟩, ?_⟩
        · by_cases hrow : row = .audit checked.input.instanceId
          · subst hrow
            replace hnew : Function.update before.written (.audit checked.input.instanceId) _ _ =
              some new := hnew
            rw [Function.update_self] at hnew
            obtain rfl := Option.some.inj hnew
            exact ⟨rfl, h.toReveals.audit_eq_none hview, rfl⟩
          · replace hnew : Function.update before.written (.audit checked.input.instanceId) _ _ =
              some new := hnew
            rw [Function.update_of_ne hrow] at hnew
            exact h.writes row new hnew
        · have hne : CredentialRow.credential checked.input.instanceId ≠
              .audit checked.input.instanceId := CredentialRow.noConfusion
          show Function.update before.written (.audit checked.input.instanceId)
            (some (some checked.input.userId)) (.credential checked.input.instanceId) = none
          rw [Function.update_of_ne hne]
          exact h.unwritten
        · show Option.isSome (α := String) ((Function.update before.written
            (.audit checked.input.instanceId) (some (some checked.input.userId))
            (.audit checked.input.instanceId)).getD _) = true
          rw [Function.update_self]
          rfl

theorem inv_confirmed (h : Audits vault sys.shared.db checked (.confirming checked) before)
    (haudit : (before.view sys.shared.db (.audit checked.input.instanceId)).isSome = true)
    (hstatement : before.statement client sys.shared = (later', .running session)) :
    CredentialInv vault sys.shared.db
      ((credentialProgram vault).advance ⟨.confirming checked, session⟩).point
      ((credentialProgram vault).advance ⟨.confirming checked, session⟩).session := by
  have hcode := h.code
  rcases statement_cases hstatement with ⟨next, heq, -, rfl⟩ | ⟨row, next, heq, -⟩ |
    ⟨row, f, next, heq, -⟩ | ⟨row, f, next, value, heq, -⟩
  all_goals
    rw [hcode] at heq
    cases heq
  obtain ⟨actor, hactor⟩ := Option.isSome_iff_exists.1 haudit
  have hown := h.toReveals.actor_eq hactor
  rw [advance_goto rfl (by simp only [CredentialDb.audit, hactor, Script.pure_bind', replayAudit, hown, if_true]; rfl)]
  exact h.goto.consuming

/-- The last statement of a reveal takes the secret that it has read, or finds it gone. -/
theorem inv_consuming {now : ℤ} (hgood : CredentialGood vault sys.shared.db)
    (hsame : ∀ row, CredentialDb.credential sys.shared.db checked.input.instanceId = some row →
      row.encrypted.isSome = true → row.version = checked.read.version)
    (h : Reveals vault sys.shared.db checked before)
    (hcode : before.script = consumeCredential vault checked now)
    (hunwritten : before.written (.credential checked.input.instanceId) = none)
    (hstatement : before.statement client sys.shared = (later', .running session)) :
    CredentialInv vault sys.shared.db (.consuming checked now) session := by
  have hview : before.view sys.shared.db (.credential checked.input.instanceId) = _ :=
    Session.view_of_unwritten hunwritten
  obtain ⟨row, hrow, hlater⟩ := h.past.seen
  have hcoherent := hgood _ row hrow
  have hold : before.view sys.shared.db (.credential checked.input.instanceId) = some row :=
    hview.trans hrow
  rcases statement_cases hstatement with ⟨next, heq, -⟩ | ⟨row, next, heq, -⟩ |
    ⟨taken, f, next, heq, hvalue, -, rfl⟩ | ⟨taken, f, next, value, heq, hvalue, -, rfl⟩
  all_goals
    rw [hcode] at heq
    cases heq
  · simp only [hold, Option.bind_some] at hvalue
    refine ⟨⟨h.past, h.writes⟩, .inr (.inl ⟨rfl, row, hrow, ?_⟩)⟩
    have hstatus : row.status ≠ .ready := by
      intro hready
      rw [if_pos ⟨hready, hcoherent.unrevealed hready⟩] at hvalue
      cases hvalue
    rcases hlater with hnewer | ⟨hversion, -⟩
    · exact .inl hnewer
    · exact .inr ⟨hversion, hcoherent.encrypted_eq_none hstatus⟩
  · simp only [hold, Option.bind_some] at hvalue
    by_cases hready : row.status = .ready ∧ row.revealedAt = none
    · rw [if_pos hready] at hvalue
      obtain rfl := Option.some.inj hvalue
      have hsome := hcoherent.ready.2 hready.1
      refine ⟨⟨h.past, fun changed new hnew => ?_⟩, .inr (.inr ⟨rfl, ?_⟩)⟩
      · by_cases hchanged : changed = .credential checked.input.instanceId
        · subst hchanged
          replace hnew : Function.update before.written (.credential checked.input.instanceId) _ _ =
            some new := hnew
          rw [Function.update_self] at hnew
          obtain rfl := Option.some.inj hnew
          exact ⟨rfl, row, now, hrow, Option.isSome_iff_ne_none.1 hsome, hsame row hrow hsome, rfl⟩
        · replace hnew : Function.update before.written (.credential checked.input.instanceId) _ _ =
            some new := hnew
          rw [Function.update_of_ne hchanged] at hnew
          exact h.writes changed new hnew
      · show (Function.update before.written (.credential checked.input.instanceId) _ _).isSome = true
        rw [Function.update_self]
        rfl
    · rw [if_neg hready] at hvalue
      cases hvalue

end Statements

/-! ## Every step -/

/-- A call that begins. -/
theorem inv_start (call : CredentialCall) :
    CredentialInv vault db ((credentialProgram vault).start call)
      ((credentialProgram vault).enter ((credentialProgram vault).start call)).session := by
  cases call with
  | storeInstanceCredential input => exact (does_prepareStore input).toSession
  | revealInstanceCredential input => exact (does_lockCredential input).toSession

theorem unwritten_of_never {session : CredentialSession} (h : session.Writes Never db)
    (row : CredentialRow) : session.written row = none := by
  cases hwritten : session.written row with
  | none => rfl
  | some new => exact (h.written row new hwritten).elim

/-- The rows that calls write. -/
def CredentialRow.isOwn : CredentialRow → Bool
  | .credential _ | .audit _ => true
  | _ => false

theorem isOwn_of_reveal {checked : Checked} {row : CredentialRow} {old new : CredentialVal row}
    (h : RevealWrites checked row old new) : row.isOwn = true := by
  cases row with
  | credential id => rfl
  | audit id => rfl
  | server id => exact h.elim
  | auditLock id => exact h.elim
  | clock => exact h.elim

theorem isOwn_of_written {session : CredentialSession}
    (hinv : CredentialInv vault db point session) {row : CredentialRow}
    (hwritten : (session.written row).isSome = true) : row.isOwn = true := by
  obtain ⟨new, hnew⟩ := Option.isSome_iff_exists.1 hwritten
  have hreveals : ∀ {checked : Checked}, Reveals vault db checked session → row.isOwn = true :=
    fun h => isOwn_of_reveal (h.writes row new hnew)
  cases point with
  | preparing input => exact (hinv.writes.written row new hnew).elim
  | upserting input =>
      have hwrites := hinv.writes.written row new hnew
      cases row with
      | credential id => rfl
      | _ => exact hwrites.elim
  | locking input => exact (hinv.writes.written row new hnew).elim
  | checking input =>
      rw [hinv.1 row] at hnew
      cases hnew
  | expiring input read =>
      have hwrites := hinv.2.writes.written row new hnew
      cases row with
      | credential id => rfl
      | _ => exact hwrites.elim
  | auditing checked => exact hreveals hinv.toReveals
  | searching checked => exact hreveals hinv.toReveals
  | recording checked => exact hreveals hinv.toReveals
  | confirming checked => exact hreveals hinv.1.toReveals
  | consuming checked now => exact hreveals hinv.1

theorem inv_resume {session : CredentialSession} (hends : point.ends = false)
    (hinv : CredentialInv vault db point session) (hscript : session.script = .done (.goto next)) :
    CredentialInv vault db next ((credentialProgram vault).resume session next).session := by
  have hcode : ∀ {checked : Checked} {at' : CredentialPoint}, Audits vault db checked at' session →
      (credentialScript vault at').isDone = true := by
    intro checked at' haudits
    rw [← haudits.code, hscript]
    rfl
  cases point with
  | preparing input => cases hends
  | upserting input =>
      have hanswer := hinv.ends
      rw [hscript] at hanswer
      cases hanswer
  | locking input =>
      have hnext := hinv.ends
      rw [hscript] at hnext
      cases hnext
      exact ⟨fun row => unwritten_of_never hinv.writes row, .inl rfl⟩
  | checking input =>
      rcases hinv.2 with hread | hthrow
      · rw [hscript] at hread
        cases hread
      · rw [hscript] at hthrow
        cases hthrow
  | expiring input read =>
      have hnever := hinv.2.ends
      rw [hscript] at hnever
      exact hnever.elim
  | auditing checked => exact Bool.noConfusion (hcode hinv)
  | searching checked => exact Bool.noConfusion (hcode hinv)
  | recording checked => exact Bool.noConfusion (hcode hinv)
  | confirming checked => exact Bool.noConfusion (hcode hinv.1)
  | consuming checked now =>
      rcases hinv.2 with ⟨hcode, -⟩ | ⟨hthrow, -⟩ | ⟨hanswer, -⟩
      · rw [hscript] at hcode
        cases hcode
      · rw [hscript] at hthrow
        cases hthrow
      · rw [hscript] at hanswer
        cases hanswer

/-- A session with another script, which its point leads to, or that stays. -/
theorem inv_advance {session : CredentialSession} (hinv : CredentialInv vault db point session) :
    CredentialInv vault db ((credentialProgram vault).advance ⟨point, session⟩).point
      ((credentialProgram vault).advance ⟨point, session⟩).session := by
  rcases (credentialProgram vault).advance_cases ⟨point, session⟩ with
    hsame | ⟨next, hends, hscript, hnext⟩
  · rw [hsame]
    exact hinv
  · rw [hnext]
    exact inv_resume hends hinv hscript

theorem inv_statement {sys : CredentialSystem} {client : ℕ}
    {activity : Activity CredentialVal CredentialError CredentialPoint CredentialAnswer}
    {later : Shared ℕ CredentialVal} {session : CredentialSession}
    (hok : Undisturbed sys (.statement client)) (hgood : CredentialGood vault sys.shared.db)
    (hactivity : sys.activity client = some activity)
    (hinv : CredentialInv vault sys.shared.db activity.point activity.session)
    (h : activity.session.statement client sys.shared = (later, .running session)) :
    CredentialInv vault sys.shared.db
      ((credentialProgram vault).advance ⟨activity.point, session⟩).point
      ((credentialProgram vault).advance ⟨activity.point, session⟩).session := by
  have hcondition := hok activity hactivity
  have hnot : activity.session.script.isThrow = false := by
    cases hscript : activity.session.script with
    | throw e => simp [Session.statement, hscript] at h
    | _ => rfl
  obtain ⟨point, before⟩ := activity
  cases point with
  | preparing input => exact inv_advance (hinv.statement never_trans h)
  | upserting input => exact inv_advance (hinv.statement storeWrites_trans h)
  | locking input => exact inv_advance (hinv.statement never_trans h)
  | expiring input read => exact inv_advance ⟨hinv.1, hinv.2.statement expireWrites_trans h⟩
  | auditing checked => exact inv_audited hinv h
  | searching checked => exact inv_searched hinv h
  | recording checked => exact inv_recorded hinv h
  | confirming checked => exact inv_confirmed hinv.1 hinv.2 h
  | consuming checked now =>
      obtain ⟨hreveals, ⟨hcode, hunwritten⟩ | ⟨hthrow, -⟩ | ⟨hanswer, -⟩⟩ := hinv
      · exact inv_advance (inv_consuming hgood (hcondition hnot) hreveals hcode hunwritten h)
      · rw [hnot] at hthrow
        cases hthrow
      · rw [Session.statement, hanswer] at h
        cases h
  | checking input =>
      obtain ⟨hunwritten, hread | hthrow⟩ := hinv
      · rcases statement_cases h with ⟨next, heq, -, rfl⟩ | ⟨row, next, heq, -⟩ |
          ⟨row, f, next, heq, -⟩ | ⟨row, f, next, value, heq, -⟩
        all_goals
          rw [hread] at heq
          cases heq
        have hview : before.view sys.shared.db = sys.shared.db :=
          funext fun row => Session.view_of_unwritten (hunwritten row)
        refine inv_checked hgood (hcondition hnot) hunwritten ?_
        rw [hview]
        rfl
      · rw [hnot] at hthrow
        cases hthrow

/-- What is changed elsewhere leaves a call as it is. -/
theorem inv_aside {session : CredentialSession} (hinv : CredentialInv vault db point session)
    (hmoves : Moves db later)
    (hpast : ∀ checked, point.checked = some checked → Past vault db checked → Past vault later checked)
    (hunchanged : ∀ row, (session.written row).isSome = true → later row = db row) :
    CredentialInv vault later point session := by
  have hreveals : ∀ checked, point.checked = some checked → Reveals vault db checked session →
      Reveals vault later checked session := by
    intro checked hchecked h
    refine ⟨hpast checked hchecked h.past, fun row new hnew => ?_⟩
    rw [hunchanged row (by rw [hnew]; rfl)]
    exact h.writes row new hnew
  cases point with
  | preparing input => exact hinv.of_unchanged hunchanged
  | upserting input => exact hinv.of_unchanged hunchanged
  | locking input => exact hinv.of_unchanged hunchanged
  | checking input => exact hinv
  | expiring input read => exact ⟨hinv.1.moves hmoves, hinv.2.of_unchanged hunchanged⟩
  | auditing checked => exact ⟨hreveals checked rfl hinv.toReveals, hinv.code, hinv.unwritten⟩
  | searching checked => exact ⟨hreveals checked rfl hinv.toReveals, hinv.code, hinv.unwritten⟩
  | recording checked => exact ⟨hreveals checked rfl hinv.toReveals, hinv.code, hinv.unwritten⟩
  | confirming checked =>
      obtain ⟨haudits, hsome⟩ := hinv
      refine ⟨⟨hreveals checked rfl haudits.toReveals, haudits.code, haudits.unwritten⟩, ?_⟩
      cases hwritten : session.written (.audit checked.input.instanceId) with
      | some new =>
          simp only [Session.view, hwritten, Option.getD_some] at hsome ⊢
          exact hsome
      | none =>
          rw [Session.view_of_unwritten hwritten] at hsome ⊢
          obtain ⟨actor, hactor⟩ := Option.isSome_iff_exists.1 hsome
          have hkept : later.audit checked.input.instanceId = some actor := hmoves.kept _ actor hactor
          exact Option.isSome_iff_exists.2 ⟨actor, hkept⟩
  | consuming checked now =>
      refine ⟨hreveals checked rfl hinv.1, ?_⟩
      rcases hinv.2 with hcode | ⟨hthrow, hgone⟩ | hanswer
      · exact .inl hcode
      · exact .inr (.inl ⟨hthrow, hgone.moves hmoves⟩)
      · exact .inr (.inr hanswer)

theorem CommitMoves.refl (db : CredentialDb) : CommitMoves db db where
  credential _ row hrow := ⟨row, hrow, .refl row⟩
  kept _ _ hactor := hactor
  server _ := rfl
  owner _ _ hactor := .inl hactor

/-- What a call commits. -/
theorem commit_moves {sys : CredentialSystem} {client : ℕ}
    {activity : Activity CredentialVal CredentialError CredentialPoint CredentialAnswer}
    {next : CredentialNext} (hgood : CredentialGood vault sys.shared.db)
    (hinv : CredentialInv vault sys.shared.db activity.point activity.session)
    (hscript : activity.session.script = .done next) :
    CredentialGood vault (sys.shared.commit client activity.session).db ∧
      CommitMoves sys.shared.db (sys.shared.commit client activity.session).db := by
  obtain ⟨point, session⟩ := activity
  have hnever : session.Writes Never sys.shared.db →
      CredentialGood vault (sys.shared.commit client session).db ∧
        CommitMoves sys.shared.db (sys.shared.commit client session).db := by
    intro h
    rw [eq_of_never (h.commit client)]
    exact ⟨hgood, .refl _⟩
  have hreveals : ∀ {checked : Checked}, Reveals vault sys.shared.db checked session →
      CredentialGood vault (sys.shared.commit client session).db ∧
        CommitMoves sys.shared.db (sys.shared.commit client session).db := by
    intro checked h
    have hwrites : session.Writes (RevealWrites checked) sys.shared.db := by
      refine ⟨?_, h.writes⟩
      rw [show session.script = .done next from hscript]
      trivial
    exact commit_reveal hgood h.past (hwrites.commit client)
  cases point with
  | preparing input => exact hnever hinv.writes
  | upserting input => exact commit_store hgood (hinv.writes.commit client)
  | locking input => exact hnever hinv.writes
  | checking input =>
      have hsame : (sys.shared.commit client session).db = sys.shared.db :=
        db_commit_of_unwritten hinv.1
      rw [hsame]
      exact ⟨hgood, .refl _⟩
  | expiring input read =>
      have hfalse := hinv.2.ends
      rw [show session.script = .done next from hscript] at hfalse
      exact hfalse.elim
  | auditing checked => exact hreveals hinv.toReveals
  | searching checked => exact hreveals hinv.toReveals
  | recording checked => exact hreveals hinv.toReveals
  | confirming checked => exact hreveals hinv.1.toReveals
  | consuming checked now => exact hreveals hinv.1

/-- What happens to the servers and to the clock. -/
theorem world_elsewhere (event : CredentialWorld) (row : CredentialRow) (hrow : row.isOwn = true) :
    credentialWorld event db row = db row := by
  cases event with
  | transfer id targetUserId =>
      exact Function.update_of_ne (by rintro rfl; cases hrow) _ _
  | service id server =>
      exact Function.update_of_ne (by rintro rfl; cases hrow) _ _
  | tick ms => exact Function.update_of_ne (by rintro rfl; cases hrow) _ _

/-- The invariant rule for a property that every step leaves. -/
theorem keeps_credential (vault : CredentialVault) (Kept : CredentialDb → Prop)
    (hkept : ∀ db later, Moves db later → Kept db → Kept later) :
    (credentialProgram vault).Keeps Undisturbed (fun db => CredentialGood vault db ∧ Kept db)
      (CredentialInv vault) where
  call db call _ := inv_start call
  statement sys client activity later session hok hsound hactivity h :=
    inv_statement hok hsound.db.1 hactivity (hsound.calls client activity hactivity) h
  resume db point next session hends _ hinv hscript := inv_resume hends hinv hscript
  rescue db point next session e _ _ hnext := by cases hnext
  commit sys client activity next _ hsound hactivity hscript hends := by
    have hinv := hsound.calls client activity hactivity
    obtain ⟨hgood, hmoves⟩ := commit_moves hsound.db.1 hinv hscript
    refine ⟨⟨hgood, hkept _ _ hmoves.toMoves hsound.db.2⟩, fun point hpoint => ?_, fun other aside _ haside hunchanged =>
      inv_aside (hsound.calls other aside haside) hmoves.toMoves (fun _ _ h => h.moves hmoves) hunchanged⟩
    obtain ⟨at', session⟩ := activity
    have hpreparing := hends point hpoint
    cases at' with
    | preparing input =>
        have hnext := hinv.ends
        rw [show session.script = .done next from hscript] at hnext
        obtain ⟨input, rfl⟩ := hnext
        cases hpoint
        exact (does_upsertCredential input).toSession
    | _ => cases hpreparing
  world sys event hok hsound := by
    have hcredential : ∀ id, CredentialDb.credential (credentialWorld event sys.shared.db) id =
        CredentialDb.credential sys.shared.db id := fun id => world_elsewhere event (.credential id) rfl
    have haudit : ∀ id, CredentialDb.audit (credentialWorld event sys.shared.db) id =
        CredentialDb.audit sys.shared.db id := fun id => world_elsewhere event (.audit id) rfl
    have hmoves : Moves sys.shared.db (credentialWorld event sys.shared.db) :=
      ⟨fun id row hrow => ⟨row, (hcredential id).trans hrow, .refl row⟩,
        fun id actor hactor => (haudit id).trans hactor⟩
    refine ⟨⟨fun id row hrow => hsound.db.1 id row ((hcredential id).symm.trans hrow),
      hkept _ _ hmoves hsound.db.2⟩, fun client activity hactivity => ?_⟩
    have hinv := hsound.calls client activity hactivity
    refine inv_aside hinv hmoves (fun checked hchecked h => ?_) fun row hwritten =>
      world_elsewhere event row (isOwn_of_written hinv hwritten)
    refine ⟨?_, ?_, ?_, h.secret, h.time⟩
    · exact hok client activity checked hactivity hchecked
    · intro actor hactor
      exact h.own actor ((haudit _).symm.trans hactor)
    · obtain ⟨row, hrow, hlater⟩ := h.seen
      exact ⟨row, (hcredential _).trans hrow, hlater⟩

/-! ## What is shown -/

abbrev CredentialSound (vault : CredentialVault) (sys : CredentialSystem) : Prop :=
  sys.Sound (CredentialGood vault) (CredentialInv vault)

/-- The owner who looks for a secret finds it. -/
theorem point_found {session : CredentialSession} (hgood : CredentialGood vault db)
    (hvisible : db.visible input = some (read, ipv4))
    (hscript : session.script = checkCredential input db.clock (db.visible input)) :
    if read.expiresAt ≤ db.clock then
      ((credentialProgram vault).advance ⟨.checking input, session⟩).point = .expiring input read
    else read.encrypted.isSome = true → ∃ checked,
      ((credentialProgram vault).advance ⟨.checking input, session⟩).point = .auditing checked ∧
        checked.input = input ∧ checked.read = read := by
  rw [hvisible] at hscript
  simp only [checkCredential] at hscript
  by_cases hexpired : read.expiresAt ≤ db.clock
  · rw [if_pos hexpired] at hscript ⊢
    rw [advance_goto rfl hscript]
    rfl
  · rw [if_neg hexpired] at hscript ⊢
    intro hsome
    obtain ⟨server, -, -, hread⟩ := owned_of_visible hvisible
    obtain ⟨encrypted, hencrypted⟩ := Option.isSome_iff_exists.1 hsome
    simp only [hencrypted, if_pos ((hgood _ read hread).ready.1 hsome)] at hscript
    rw [advance_goto rfl hscript]
    exact ⟨_, rfl, rfl, rfl⟩

/-- A reveal that answers has come to its end. -/
theorem revealed_of_step {sys : CredentialSystem} {event : CredentialEvent} {client : ℕ} {what : Revealed}
    (hsound : CredentialSound vault sys)
    (hresult : ((credentialProgram vault).step sys event).2 = some (client, .revealed what)) :
    ∃ checked, Past vault sys.shared.db checked ∧ revealedAnswer vault checked = .revealed what ∧
      Consumes sys.shared.db checked ((credentialProgram vault).step sys event).1.shared.db := by
  obtain ⟨-, ⟨point, session⟩, hactivity, hscript, hnext⟩ := answer_of_step hresult
  have hinv := hsound.calls client _ hactivity
  rw [hnext]
  cases point with
  | preparing input =>
      obtain ⟨input, hgoto⟩ : ∃ input, (Next.answer (.revealed what) : CredentialNext) =
          .goto (.upserting input) := by
        have hends := hinv.ends
        rw [show session.script = _ from hscript] at hends
        exact hends
      cases hgoto
  | upserting input =>
      have hends := hinv.ends
      rw [show session.script = _ from hscript] at hends
      cases hends
  | locking input =>
      have hends := hinv.ends
      rw [show session.script = _ from hscript] at hends
      cases hends
  | expiring input read =>
      have hends := hinv.2.ends
      rw [show session.script = _ from hscript] at hends
      exact hends.elim
  | checking input =>
      rcases hinv.2 with hread | hthrow
      · rw [show session.script = _ from hscript] at hread
        cases hread
      · rw [show session.script = _ from hscript] at hthrow
        cases hthrow
  | auditing checked => exact nomatch hscript.symm.trans hinv.code
  | searching checked => exact nomatch hscript.symm.trans hinv.code
  | recording checked => exact nomatch hscript.symm.trans hinv.code
  | confirming checked => exact nomatch hscript.symm.trans hinv.1.code
  | consuming checked now =>
      obtain ⟨hreveals, ⟨hcode, -⟩ | ⟨hthrow, -⟩ | ⟨hanswer, hwritten⟩⟩ := hinv
      · exact nomatch hscript.symm.trans hcode
      · rw [show session.script = _ from hscript] at hthrow
        cases hthrow
      · have hsame := hscript.symm.trans hanswer
        injection hsame with hsame
        injection hsame with hsame
        exact ⟨checked, hreveals.past, hsame.symm, consumes_of_commit hreveals hwritten⟩

theorem sound_step (sys : CredentialSystem) (event : CredentialEvent) (hok : Undisturbed sys event)
    (hsound : CredentialSound vault sys) :
    CredentialSound vault ((credentialProgram vault).step sys event).1 := by
  have hkeeps := keeps_credential vault (fun _ => True) fun _ _ _ => id
  have hnext := hkeeps.step event hok ⟨⟨hsound.db, trivial⟩, hsound.holds, hsound.calls⟩
  exact ⟨hnext.db.1, hnext.holds, hnext.calls⟩

/-- What is gone stays gone. -/
theorem gone_step (sys : CredentialSystem) (event : CredentialEvent) (hok : Undisturbed sys event)
    (hsound : CredentialSound vault sys) (hgone : Gone sys.shared.db id version) :
    Gone ((credentialProgram vault).step sys event).1.shared.db id version := by
  have hkeeps := keeps_credential vault (fun db => Gone db id version)
    fun _ _ hmoves hgone => hgone.moves hmoves
  exact (hkeeps.step event hok ⟨⟨hsound.db, hgone⟩, hsound.holds, hsound.calls⟩).db.2

theorem not_gone (hrow : db.credential id = some row) (hencrypted : row.encrypted ≠ none)
    (hversion : row.version = version) : ¬ Gone db id version := by
  rintro ⟨row', hrow', hgone⟩
  obtain rfl := Option.some.inj (hrow'.symm.trans hrow)
  rcases hgone with hnewer | ⟨-, hnone⟩
  · exact hnewer.ne' hversion
  · exact hencrypted hnone

/-- A secret that is shown was there, and is gone then. -/
theorem gone_of_shows (sys : CredentialSystem) (event : CredentialEvent)
    (hsound : CredentialSound vault sys)
    (hshows : shows id version ⟨sys, event, ((credentialProgram vault).step sys event).2⟩ = true) :
    ¬ Gone sys.shared.db id version ∧
      Gone ((credentialProgram vault).step sys event).1.shared.db id version := by
  cases hresult : ((credentialProgram vault).step sys event).2 with
  | none => simp [shows, hresult] at hshows
  | some result =>
      obtain ⟨client, answer⟩ := result
      cases answer with
      | stored => simp [shows, hresult] at hshows
      | revealed what =>
          simp only [shows, hresult, Bool.and_eq_true, decide_eq_true_eq] at hshows
          obtain ⟨rfl, rfl⟩ := hshows
          obtain ⟨checked, -, hanswer, hconsumes⟩ := revealed_of_step hsound hresult
          cases hanswer
          obtain ⟨row, hrow, hencrypted, hversion, -⟩ := hconsumes.stored
          exact ⟨not_gone hrow hencrypted hversion, hconsumes.gone⟩

/-- A reveal that answers is rightful. -/
theorem rightful_of_step {sys : CredentialSystem} {event : CredentialEvent} {client : ℕ} {what : Revealed}
    {result : Option (ℕ × CredentialAnswer)} (hsound : CredentialSound vault sys)
    (hresult : ((credentialProgram vault).step sys event).2 = some (client, .revealed what)) :
    Rightful ⟨sys, event, result⟩ ((credentialProgram vault).step sys event).1.shared.db what := by
  obtain ⟨checked, hpast, hanswer, hconsumes⟩ := revealed_of_step hsound hresult
  cases hanswer
  obtain ⟨row, hrow, -, hversion, hsecret, hexpires⟩ := hconsumes.stored
  refine ⟨hpast.owner, ⟨row, hrow, hversion, hsecret.trans hpast.secret.symm, ?_⟩, hconsumes.gone⟩
  rw [hexpires]
  exact hpast.time

/-- A reveal that goes on fails when the secret is gone. -/
theorem gone_of_fails {session : CredentialSession} {checked : Checked}
    (hinv : CredentialInv vault db point session) (hchecked : point.checked = some checked)
    (hthrow : session.script.isThrow = true) :
    Gone db checked.input.instanceId checked.read.version := by
  have hcode : ∀ {checked : Checked} {at' : CredentialPoint}, Audits vault db checked at' session →
      (credentialScript vault at').isThrow = true := fun h => by rw [← h.code, hthrow]
  cases point with
  | preparing input => cases hchecked
  | upserting input => cases hchecked
  | locking input => cases hchecked
  | checking input => cases hchecked
  | expiring input read => cases hchecked
  | auditing checked => exact Bool.noConfusion (hcode hinv)
  | searching checked => exact Bool.noConfusion (hcode hinv)
  | recording checked => exact Bool.noConfusion (hcode hinv)
  | confirming checked => exact Bool.noConfusion (hcode hinv.1)
  | consuming checked now =>
      cases hchecked
      obtain ⟨-, ⟨hcode, -⟩ | ⟨-, hgone⟩ | ⟨hanswer, -⟩⟩ := hinv
      · rw [hcode] at hthrow
        cases hthrow
      · exact hgone
      · rw [hanswer] at hthrow
        cases hthrow

theorem step_found {sys : CredentialSystem} {client : ℕ} {session : CredentialSession}
    (hsound : CredentialSound vault sys)
    (hactivity : sys.activity client = some ⟨.checking input, session⟩)
    (hnot : session.script.isThrow = false)
    (hvisible : CredentialDb.visible sys.shared.db input = some (read, ipv4)) :
    ∃ later, ((credentialProgram vault).step sys (.statement client)).1.activity client = some later ∧
      if read.expiresAt ≤ CredentialDb.clock sys.shared.db then later.point = .expiring input read
      else read.encrypted.isSome = true →
        ∃ checked, later.point = .auditing checked ∧ checked.input = input ∧ checked.read = read := by
  obtain ⟨hunwritten, hread | hthrow⟩ := hsound.calls client _ hactivity
  · have hview : session.view sys.shared.db = sys.shared.db :=
      funext fun row => Session.view_of_unwritten (hunwritten row)
    refine ⟨_, activity_of_read hactivity hread, point_found hsound.db hvisible ?_⟩
    show checkCredential input (CredentialDb.clock (session.view sys.shared.db))
      (CredentialDb.visible (session.view sys.shared.db) input) = _
    rw [hview]
  · rw [hnot] at hthrow
    cases hthrow

def findsOwnCheck (db : CredentialDb) (input : RevealInput) : Bool :=
  (db.visible input).all fun (read, _) => !read.encrypted.isSome ||
    (decide (db.clock < read.expiresAt) && (db.audit input.instanceId).all (· = input.userId))

/-- The condition for two clients. -/
def undisturbedCheck (sys : CredentialSystem) : CredentialEvent → Bool
  | .statement client => (sys.activity client).all fun activity =>
      activity.session.script.isThrow ||
        match activity.point with
        | .checking input => findsOwnCheck sys.shared.db input
        | .consuming checked _ =>
            (CredentialDb.credential sys.shared.db checked.input.instanceId).all fun row =>
              !row.encrypted.isSome || row.version = checked.read.version
        | _ => true
  | .world event => (List.range 2).all fun client => (sys.activity client).all fun activity =>
      activity.point.checked.all fun checked =>
        (CredentialDb.server (credentialWorld event sys.shared.db) checked.input.instanceId).any fun server =>
          server.isOwnedBy checked.input.userId
  | _ => true

theorem findsOwn_of_check (h : findsOwnCheck db input = true) : FindsOwn db input := by
  intro read ipv4 hvisible hsome
  simp only [findsOwnCheck, hvisible, Option.all_some, hsome, Bool.not_true, Bool.false_or,
    Bool.and_eq_true, decide_eq_true_eq] at h
  refine ⟨h.1, fun actor hactor => ?_⟩
  simpa [hactor] using h.2

theorem undisturbed_of_check (sys : CredentialSystem) (event : CredentialEvent)
    (hidle : ∀ client, 2 ≤ client → sys.activity client = none)
    (h : undisturbedCheck sys event = true) : Undisturbed sys event := by
  cases event with
  | call client call => trivial
  | crash client => trivial
  | world event =>
      intro client activity checked hactivity hchecked
      have hclient : client ∈ List.range 2 := by
        rw [List.mem_range]
        by_contra hlarge
        rw [hidle client (not_lt.1 hlarge)] at hactivity
        cases hactivity
      have hthis := List.all_eq_true.1 h client hclient
      rw [hactivity, Option.all_some, hchecked, Option.all_some, Option.any_eq_true] at hthis
      exact hthis
  | statement client =>
      intro activity hactivity hnot
      simp only [undisturbedCheck, hactivity, Option.all_some, hnot, Bool.false_or] at h
      cases hpoint : activity.point with
      | checking input =>
          rw [hpoint] at h
          exact findsOwn_of_check h
      | consuming checked now =>
          rw [hpoint] at h
          intro row hrow hsome
          simp only [hrow, Option.all_some, hsome, Bool.not_true, Bool.false_or, decide_eq_true_eq] at h
          exact h
      | _ => trivial

def sampleVault : CredentialVault where
  encrypt iv secret := ⟨secret, iv, ""⟩
  decrypt encrypted := encrypted.ciphertext
  decrypt_encrypt _ _ := rfl

/-- A server that is delivered to a user, without a credential. -/
def sampleDb : CredentialDb
  | .server _ => some ⟨"user", .active, some "10.0.0.1", some 0, "ACTIVE", some "ACTIVE"⟩
  | .credential _ => none
  | .audit _ => none
  | .auditLock _ => ()
  | .clock => 0

theorem credentialGood_sampleDb : CredentialGood sampleVault sampleDb := fun _ _ hrow => nomatch hrow

def statements (client n : ℕ) : List CredentialEvent := List.replicate n (.statement client)

def store (client : ℕ) (secret : String) : List CredentialEvent :=
  .call client (.storeInstanceCredential { instanceId := "server", username := "root", secret, iv := "iv" }) ::
    statements client 5

def reveal (client n : ℕ) (userId : String) : List CredentialEvent :=
  .call client (.revealInstanceCredential ⟨"server", userId⟩) :: statements client n

/-- A secret is stored and shown; after that the server is transferred, and nothing is left to be shown. -/
def early : List CredentialEvent :=
  store 0 "first secret" ++ reveal 1 10 "user" ++ .world (.transfer "server" "other") ::
    reveal 0 10 "other"

/-- The secret is over when its owner comes for it. -/
def late : List CredentialEvent :=
  store 0 "first secret" ++ .world (.tick 86400000) :: reveal 1 4 "user"

/-- A reveal of a user that is about to fail because the first secret of the server is over. -/
def failsLate (sys : CredentialSystem) (client : ℕ) : Bool :=
  match sys.activity client with
  | some ⟨.expiring input read, session⟩ =>
      session.script.isThrow && input.instanceId = "server" && read.version = 1
  | _ => false

end AbrChin.Security
