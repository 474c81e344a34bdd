import AbrChin.MessageGo.Authority

/-!
# Where `insufficient_funds` comes from

The checks of a settlement call throw many codes, but `insufficient_funds` is
thrown in one place only, the conditional update of `debitHold`; a settle or
reconcile transaction catches it there and records it.  So outside that update
a settle, release or reconcile call reports missing funds only when it replays
a denial that was recorded before.
-/

namespace AbrChin.MessageGo

open Lib Lib.Tx

/-- The failure is the code `insufficient_funds`. -/
def Failure.OfFunds : Failure → Prop
  | .settlement error => error.code = .insufficientFunds
  | .database => False

/-- Any failure but `insufficient_funds`. -/
abbrev Failure.Other (failure : Failure) : Prop := ¬ failure.OfFunds

theorem errsOnly_reject {α : Type} {code : SettlementErrorCode} {message : String}
    (h : code ≠ .insufficientFunds) :
    ErrsOnly Failure.Other (reject code message : Except Failure α) :=
  errsOnly_error rfl h

theorem throwsOnly_reject {α : Type} {code : SettlementErrorCode} {message : String}
    (h : code ≠ .insufficientFunds) :
    ThrowsOnly Failure.Other (Tx.reject code message : Tx α) :=
  throwsOnly_throw h

theorem other_database : Failure.database.Other := id

/-! ## The parsers and the checks -/

theorem requiredText_other (value field : String) (max : ℕ) :
    ErrsOnly Failure.Other (requiredText value field max) := by
  unfold requiredText
  dsimp only
  split
  · exact errsOnly_reject (by decide)
  · exact errsOnly_ok

theorem requiredId_other (value field : String) :
    ErrsOnly Failure.Other (requiredId value field) :=
  requiredText_other value field 200

theorem parseWalletAmount_other (value : Js.Value) (field : String) :
    ErrsOnly Failure.Other (parseWalletAmount value field) := by
  unfold parseWalletAmount
  split
  · exact errsOnly_reject (by decide)
  · split
    · exact errsOnly_ok
    · exact errsOnly_reject (by decide)
  · exact errsOnly_reject (by decide)

theorem parseOptionalWalletAmount_other (value : Js.Value) (field : String) :
    ErrsOnly Failure.Other (parseOptionalWalletAmount value field) := by
  unfold parseOptionalWalletAmount
  split
  · exact errsOnly_ok
  · exact errsOnly_ok
  · exact errsOnly_ok
  · exact errsOnly_map (parseWalletAmount_other value field)

theorem parseUsageToken_other (value : Js.Value) (field : String) :
    ErrsOnly Failure.Other (parseUsageToken value field) := by
  unfold parseUsageToken
  dsimp only
  split
  · split
    · exact errsOnly_reject (by decide)
    · exact errsOnly_ok
  · exact errsOnly_reject (by decide)
  · split
    · exact errsOnly_ok
    · exact errsOnly_reject (by decide)
  · exact errsOnly_reject (by decide)

theorem parseProviderUsage_other (value : Js.Value) :
    ErrsOnly Failure.Other (parseProviderUsage value) := by
  unfold parseProviderUsage
  split
  · exact errsOnly_bind (parseUsageToken_other _ _) fun input =>
      errsOnly_bind (parseUsageToken_other _ _) fun output => errsOnly_ok
  · exact errsOnly_reject (by decide)

theorem settleUsage_other (input : SettleInput) : ErrsOnly Failure.Other input.settleUsage := by
  unfold SettleInput.settleUsage
  split
  · exact errsOnly_ok
  · exact errsOnly_map (parseProviderUsage_other _)

theorem parseSettle_other (sha256Hex : String → String) (input : SettleInput) :
    ErrsOnly Failure.Other (input.parseSettle sha256Hex) := by
  unfold SettleInput.parseSettle
  iterate 8 refine errsOnly_bind (requiredId_other _ _) fun _ => ?_
  exact errsOnly_bind (parseOptionalWalletAmount_other _ _) fun _ =>
    errsOnly_bind (settleUsage_other input) fun _ => errsOnly_ok

theorem parseReconcile_other (sha256Hex : String → String) (input : SettleInput) :
    ErrsOnly Failure.Other (input.parseReconcile sha256Hex) := by
  unfold SettleInput.parseReconcile
  iterate 8 refine errsOnly_bind (requiredId_other _ _) fun _ => ?_
  exact errsOnly_bind (parseOptionalWalletAmount_other _ _) fun _ =>
    errsOnly_bind (parseProviderUsage_other _) fun _ => errsOnly_ok

theorem costRial_other (tokens rate : ℤ) : ErrsOnly Failure.Other (costRial tokens rate) := by
  unfold costRial
  split
  · exact errsOnly_reject (by decide)
  · split
    · exact errsOnly_reject (by decide)
    · exact errsOnly_ok

theorem deriveBillableRial_other (rates : Rates) (usage : ProviderUsageTokens)
    (maxInput maxOutput : ℤ) :
    ErrsOnly Failure.Other (deriveBillableRial rates usage maxInput maxOutput) := by
  unfold deriveBillableRial
  split
  · exact errsOnly_reject (by decide)
  · exact errsOnly_bind (costRial_other _ _) fun input =>
      errsOnly_bind (costRial_other _ _) fun output => errsOnly_ok

theorem rejectUntrustedAmount_other (supplied : Option ℤ) (derived : ℤ) (field : String) :
    ErrsOnly Failure.Other (rejectUntrustedAmount supplied derived field) := by
  unfold rejectUntrustedAmount
  split
  · exact errsOnly_ok
  · split
    · exact errsOnly_reject (by decide)
    · exact errsOnly_ok

theorem walletAmountString_other (value : ℤ) :
    ErrsOnly Failure.Other (walletAmountString value) := by
  unfold walletAmountString
  split
  · exact errsOnly_reject (by decide)
  · exact errsOnly_ok

theorem outcomeFromReservation_other (row : Reservation) (ledgerEntryIds : List String) :
    ErrsOnly Failure.Other (outcomeFromReservation row ledgerEntryIds) :=
  errsOnly_bind (walletAmountString_other _) fun _ =>
    errsOnly_bind (walletAmountString_other _) fun _ =>
      errsOnly_bind (walletAmountString_other _) fun _ => errsOnly_ok

theorem assertStoredCustomerPricing_other (row : Reservation)
    (fingerprint version : Option String) :
    ErrsOnly Failure.Other (assertStoredCustomerPricing row fingerprint version) := by
  unfold assertStoredCustomerPricing assertPricing
  dsimp only
  split
  · exact errsOnly_reject (by decide)
  · split
    · exact errsOnly_reject (by decide)
    · exact errsOnly_ok

theorem reservationPriceSnapshot_other (row : Reservation) :
    ErrsOnly Failure.Other (reservationPriceSnapshot row) := by
  unfold reservationPriceSnapshot
  split
  · exact errsOnly_ok
  · exact errsOnly_reject (by decide)

theorem assertScope_other (row : Reservation) (scope : Scope) :
    ErrsOnly Failure.Other (assertScope row scope) := by
  unfold assertScope
  split
  · exact errsOnly_reject (by decide)
  · split
    · exact errsOnly_reject (by decide)
    · exact errsOnly_ok

/-! ## The steps of the transactions -/

theorem updateReservation_other (id : String) (holds settled : Option ℤ)
    (status : ReservationStatus) :
    ThrowsOnly Failure.Other (updateReservation id holds settled status) :=
  throwsOnly_bind throwsOnly_get fun _ =>
    throwsOnly_bind (throwsOnly_orThrow other_database) fun _ =>
      throwsOnly_bind (throwsOnly_attempt other_database) fun _ =>
        throwsOnly_bind throwsOnly_get fun _ => throwsOnly_orThrow other_database

theorem recordEvent_other (event : ReservationEvent) :
    ThrowsOnly Failure.Other (recordEvent event) :=
  throwsOnly_attempt other_database

variable (key : OperationKey)

theorem deny_other (reservationId : Option String) (code : SettlementErrorCode)
    (message : String) : ThrowsOnly Failure.Other (key.deny reservationId code message) :=
  throwsOnly_bind (throwsOnly_attempt other_database) fun _ => throwsOnly_pure

theorem accept_other (reservationId : String) (outcome : AuthorityOutcome) :
    ThrowsOnly Failure.Other (key.accept reservationId outcome) :=
  throwsOnly_bind (throwsOnly_attempt other_database) fun _ => throwsOnly_pure

theorem creditRelease_other (entryId : String) (posting : Posting) :
    ThrowsOnly Failure.Other (creditRelease entryId posting) := by
  unfold creditRelease
  split
  · exact throwsOnly_pure
  · exact throwsOnly_bind throwsOnly_get fun _ =>
      throwsOnly_bind (throwsOnly_orThrow other_database) fun _ =>
        throwsOnly_bind (throwsOnly_attempt other_database) fun _ =>
          throwsOnly_bind throwsOnly_get fun _ =>
            throwsOnly_bind (throwsOnly_orThrow other_database) fun _ =>
              throwsOnly_bind (throwsOnly_attempt other_database) fun _ => throwsOnly_pure

theorem loadInScope_other (scope : Scope) : ThrowsOnly Failure.Other (loadInScope scope) := by
  refine throwsOnly_bind (throwsOnly_bind throwsOnly_get fun db => ?_) fun row =>
    throwsOnly_bind (throwsOnly_ofExcept (assertScope_other row scope)) fun _ => throwsOnly_pure
  split
  · exact throwsOnly_pure
  · exact throwsOnly_reject (by decide)

theorem withReservation_other (scope : Scope) {body : Reservation → Tx Committed}
    (hbody : ∀ row, ThrowsOnly Failure.Other (body row)) :
    ThrowsOnly Failure.Other (key.withReservation scope body) := by
  refine throwsOnly_bind (throwsOnly_tryCatch
    (throwsOnly_bind (loadInScope_other scope) fun _ => throwsOnly_pure)
    fun failure hfailure => ?_) fun loaded => ?_
  · split
    · exact throwsOnly_bind (deny_other key _ _ _) fun _ => throwsOnly_pure
    · exact throwsOnly_bind (deny_other key _ _ _) fun _ => throwsOnly_pure
    · exact throwsOnly_throw hfailure
  · cases loaded with
    | inl row => exact hbody row
    | inr denied => exact throwsOnly_pure

/-- What is caught is not thrown. -/
theorem catchInsufficientFunds_other (reservationId : String) (body : Tx Committed) :
    ThrowsOnly Failure.Other (key.catchInsufficientFunds reservationId body) := by
  have hany : ThrowsOnly (fun _ => True) body := fun _ _ _ _ => trivial
  refine throwsOnly_tryCatch hany fun failure _ => ?_
  split
  · exact deny_other key _ _ _
  · rename_i hcaught
    refine throwsOnly_throw ?_
    cases failure with
    | database => exact other_database
    | settlement error => exact fun hcode => hcaught error.message (by rw [← hcode])

/-! ## The bodies -/

theorem finish_other (request : SettleRequest) (row : Reservation) (applied : Applied) :
    ThrowsOnly Failure.Other (request.finish row applied) := by
  unfold SettleRequest.finish
  split
  · exact throwsOnly_bind (updateReservation_other _ _ _ _) fun reconciled =>
      throwsOnly_bind (throwsOnly_ofExcept (outcomeFromReservation_other _ _)) fun outcome =>
        throwsOnly_bind (recordEvent_other _) fun _ => accept_other request.key _ _
  · exact throwsOnly_bind (throwsOnly_ofExcept (outcomeFromReservation_other _ _)) fun outcome =>
      throwsOnly_bind (recordEvent_other _) fun _ => accept_other request.key _ _

theorem settleKnown_other (request : SettleRequest) (ids : Ids) (row : Reservation)
    (usage : ProviderUsageTokens) (conflict : String) :
    ThrowsOnly Failure.Other (request.settleKnown ids row usage conflict) := by
  refine throwsOnly_bind (throwsOnly_ofExcept (reservationPriceSnapshot_other row))
    fun snapshot => throwsOnly_bind (throwsOnly_ofExcept (deriveBillableRial_other _ _ _ _))
      fun billable => throwsOnly_bind (throwsOnly_ofExcept (rejectUntrustedAmount_other _ _ _))
        fun _ => ?_
  split
  · split
    · exact deny_other request.key _ _ _
    · exact throwsOnly_bind (throwsOnly_ofExcept (outcomeFromReservation_other _ _))
        fun _ => accept_other request.key _ _
  · exact catchInsufficientFunds_other request.key row.id _

theorem settleUncertain_other (request : SettleRequest) (row : Reservation) :
    ThrowsOnly Failure.Other (request.settleUncertain row) := by
  unfold SettleRequest.settleUncertain
  split
  · exact deny_other request.key _ _ _
  · exact throwsOnly_bind (updateReservation_other _ _ _ _) fun updated =>
      throwsOnly_bind (throwsOnly_ofExcept (outcomeFromReservation_other _ _)) fun outcome =>
        throwsOnly_bind (recordEvent_other _) fun _ => accept_other request.key _ _

theorem settleBody_other (request : SettleRequest) (ids : Ids) :
    ThrowsOnly Failure.Other (request.key.withReservation request.scope
      (request.settleReservation ids)) :=
  withReservation_other request.key request.scope fun row => by
    refine throwsOnly_bind (throwsOnly_ofExcept (assertStoredCustomerPricing_other row _ _))
      fun _ => ?_
    split
    · exact deny_other request.key _ _ _
    · split
      · exact settleUncertain_other request row
      · exact settleKnown_other request ids row _ _

theorem reconcileBody_other (request : SettleRequest) (ids : Ids) (usage : ProviderUsageTokens) :
    ThrowsOnly Failure.Other (request.key.withReservation request.scope
      (request.reconcileReservation ids usage)) :=
  withReservation_other request.key request.scope fun row => by
    refine throwsOnly_bind (throwsOnly_ofExcept (assertStoredCustomerPricing_other row _ _))
      fun _ => ?_
    split
    · exact deny_other request.key _ _ _
    · exact settleKnown_other request ids row usage _

theorem releaseBody_other (request : ReleaseRequest) (ids : Ids) :
    ThrowsOnly Failure.Other (request.key.withReservation request.scope
      (request.releaseReservation ids)) :=
  withReservation_other request.key request.scope fun row => by
    unfold ReleaseRequest.releaseReservation
    split
    · exact deny_other request.key _ _ _
    · split
      · exact throwsOnly_bind (throwsOnly_ofExcept (outcomeFromReservation_other _ _))
          fun outcome => accept_other request.key _ _
      · exact throwsOnly_bind (creditRelease_other _ _) fun releaseEntry =>
          throwsOnly_bind (updateReservation_other _ _ _ _) fun updated =>
            throwsOnly_bind (throwsOnly_ofExcept (outcomeFromReservation_other _ _)) fun outcome =>
              throwsOnly_bind (recordEvent_other _) fun _ => accept_other request.key _ _

end AbrChin.MessageGo
