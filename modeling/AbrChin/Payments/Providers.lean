import AbrChin.Js.Number

/-!
# Payment providers

`lib/payments/`: the adapters of the two gateways and of the mock gateway, as
far as verifying a payment goes.  What the gateway answers to the adapter's
request comes from outside, as a `GatewayAnswer`; the adapter reads it field by
field.
-/

namespace AbrChin.Payments

inductive PaymentGatewayProvider where
  | zibal
  | zarinpal
  | mock
  deriving DecidableEq

/-- A field of a JSON payload.  A Number carries what `BigInt` and `String` make
of it; `array` and `other`, a boolean, carry their text. -/
inductive Json where
  | null
  | number (bigInt : Option ℤ) (text : String)
  | string (value : String)
  | object (fields : List (String × Json))
  | array (text : String)
  | other (text : String)

namespace Json

/-- `payload[name]`; a missing field reads as `null`, which `!= null` and `??` treat alike. -/
def field (payload : Json) (name : String) : Json :=
  match payload with
  | object fields => (fields.lookup name).getD null
  | _ => null

/-- `isRecord`. -/
def isRecord : Json → Bool
  | object _ => true
  | array _ => true
  | _ => false

/-- `=== value` for an integer. -/
def isInteger (json : Json) (value : ℤ) : Bool :=
  match json with
  | number bigInt _ => bigInt = some value
  | _ => false

/-- `String(json)` of a field that is not null. -/
def text? : Json → Option String
  | null => none
  | number _ text => some text
  | string value => some value
  | object _ => some "[object Object]"
  | array text => some text
  | other text => some text

end Json

/-- What comes back from the gateway: the provider cannot be used at all, the
request fails with the code of a `PaymentError`, or there is a payload. -/
inductive GatewayAnswer where
  | unavailable (code : String)
  | error (code : String)
  | payload (json : Json)

/-- A confirmed payment: the branch `ok: true` of `VerifyPaymentResult`. -/
structure VerifiedPayment where
  authority : String
  gatewayReference : String
  amountRial : ℤ
  currency : String
  deriving DecidableEq

/-- `VerifyPaymentResult`, without the message. -/
inductive VerifyPaymentResult where
  | ok (verified : VerifiedPayment)
  | failed (code : String)
  deriving DecidableEq

/-- `VerifyPaymentInput`. -/
structure VerifyPaymentInput where
  authority : String
  expectedAmountRial : ℤ
  statusHint : Option String

/-! ## Zibal -/

/-- The track number that is sent to the gateway: `Number(input.authority)`, if
it is finite and positive. -/
def trackNumber (authority : String) : Option ℚ :=
  (Js.toNumber authority).filter fun number => 0 < number

/-- The amount that an answer reports: `none` when it has none, an error when
`BigInt` refuses it. -/
def zibalAmount (amountRaw : Json) : Except Unit (Option ℤ) :=
  match amountRaw with
  | .number (some amount) _ => .ok (some amount)
  | .number none _ => .error ()
  | .string text =>
      match Js.toBigInt text with
      | some amount => .ok (some amount)
      | none => .error ()
  | _ => .ok none

/-- `ZibalPaymentProvider.verifyPayment`. -/
def verifyZibal (input : VerifyPaymentInput) (answer : GatewayAnswer) : VerifyPaymentResult :=
  if input.statusHint ∈ [some "0", some "canceled", some "CANCEL"] then .failed "canceled"
  else if trackNumber input.authority = none then .failed "invalid_authority"
  else
    match answer with
    | .unavailable code => .failed code
    | .error code => .failed code
    | .payload payload =>
        if ¬ payload.isRecord then .failed "invalid_response"
        else if ¬ (payload.field "result").isInteger 100 ∧
            ¬ (payload.field "result").isInteger 201 then
          .failed "verify_failed"
        else
          match zibalAmount (payload.field "amount") with
          | .error () => .failed "invalid_amount"
          | .ok amount => .ok {
              authority := input.authority
              gatewayReference := (payload.field "refNumber").text?.getD input.authority
              amountRial := amount.getD input.expectedAmountRial
              currency := "IRR" }

/-! ## ZarinPal -/

/-- `ZarinpalPaymentProvider.verifyPayment`. -/
def verifyZarinpal (input : VerifyPaymentInput) (answer : GatewayAnswer) : VerifyPaymentResult :=
  if input.statusHint ∉ [none, some "", some "OK", some "ok"] then .failed "canceled"
  else
    match answer with
    | .unavailable code => .failed code
    | .error code => .failed code
    | .payload payload =>
        let data := payload.field "data"
        if ¬ payload.isRecord ∨ ¬ data.isRecord then .failed "invalid_response"
        else if ¬ (data.field "code").isInteger 100 ∧ ¬ (data.field "code").isInteger 101 then
          .failed "verify_failed"
        else .ok {
          authority := input.authority
          gatewayReference := (data.field "ref_id").text?.getD input.authority
          amountRial := input.expectedAmountRial
          currency := "IRR" }

/-! ## Mock -/

/-- `MockPaymentProvider.verifyPayment`, which asks no gateway. -/
def verifyMock (input : VerifyPaymentInput) : VerifyPaymentResult :=
  if ¬ input.authority.startsWith "mock_" then .failed "invalid_authority"
  else if input.statusHint ∈ [some "NOK", some "CANCEL", some "FAILED"] then
    .failed (if input.statusHint = some "CANCEL" then "canceled" else "failed")
  else .ok {
    authority := input.authority
    gatewayReference := input.authority
    amountRial := input.expectedAmountRial
    currency := "IRR" }

/-- `provider.verifyPayment`; an error is the code of the exception when the
provider cannot be resolved or is not configured. -/
def verifyPayment (gateway : PaymentGatewayProvider) (input : VerifyPaymentInput)
    (answer : GatewayAnswer) : Except String VerifyPaymentResult :=
  match answer, gateway with
  | .unavailable code, _ => .error code
  | answer, .zibal => .ok (verifyZibal input answer)
  | answer, .zarinpal => .ok (verifyZarinpal input answer)
  | _, .mock => .ok (verifyMock input)

/-- `CreatePaymentResult`: what the gateway gives a new payment. -/
structure CreatePaymentResult where
  authority : String
  gatewayReference : Option String
  redirectUrl : String

/-! ## Transactions of the gateways -/

/-- What a gateway calls one transaction: Zibal goes by the track number, the
others by the authority string. -/
inductive GatewayTransaction where
  | zibal (trackId : ℚ)
  | zarinpal (authority : String)
  | mock (authority : String)
  deriving DecidableEq

/-- The transaction that an authority names. -/
def transactionOf (gateway : PaymentGatewayProvider) (authority : String) :
    Option GatewayTransaction :=
  match gateway with
  | .zibal => (trackNumber authority).map .zibal
  | .zarinpal => some (.zarinpal authority)
  | .mock => some (.mock authority)

/-- What an answer says about the transaction: the amount and the reference,
where it reports them. -/
structure Report where
  amount : Option ℤ
  reference : Option String
  deriving DecidableEq

/-- The report of an answer, as the adapter of the gateway reads it. -/
def reportOf (gateway : PaymentGatewayProvider) (answer : GatewayAnswer) : Report :=
  match gateway, answer with
  | .zibal, .payload payload =>
      ⟨match zibalAmount (payload.field "amount") with
        | .ok amount => amount
        | .error () => none, (payload.field "refNumber").text?⟩
  | .zarinpal, .payload payload => ⟨none, ((payload.field "data").field "ref_id").text?⟩
  | _, _ => ⟨none, none⟩

/-- A confirmed payment is the authority asked for, and what the answer reports
about its transaction or, where it reports nothing, what was asked for. -/
theorem verifyPayment_ok {gateway : PaymentGatewayProvider} {input : VerifyPaymentInput}
    {answer : GatewayAnswer} {verified : VerifiedPayment}
    (h : verifyPayment gateway input answer = .ok (.ok verified)) :
    (transactionOf gateway input.authority).isSome ∧ verified = {
      authority := input.authority
      gatewayReference := (reportOf gateway answer).reference.getD input.authority
      amountRial := (reportOf gateway answer).amount.getD input.expectedAmountRial
      currency := "IRR" } := by
  cases gateway with
  | zibal =>
      have hzibal : verifyZibal input answer = .ok verified := by
        cases answer <;> simp [verifyPayment] at h <;> exact h
      unfold verifyZibal at hzibal
      split at hzibal
      · cases hzibal
      split at hzibal
      · cases hzibal
      rename_i htrack
      cases answer with
      | unavailable code => cases hzibal
      | error code => cases hzibal
      | payload payload =>
          simp only at hzibal
          split at hzibal
          · cases hzibal
          split at hzibal
          · cases hzibal
          split at hzibal
          · cases hzibal
          · rename_i amount hamount
            cases hzibal
            refine ⟨?_, by simp [reportOf, hamount]⟩
            rw [transactionOf, Option.isSome_map]
            exact Option.isSome_iff_ne_none.2 htrack
  | zarinpal =>
      have hzarinpal : verifyZarinpal input answer = .ok verified := by
        cases answer <;> simp [verifyPayment] at h <;> exact h
      unfold verifyZarinpal at hzarinpal
      split at hzarinpal
      · cases hzarinpal
      cases answer with
      | unavailable code => cases hzarinpal
      | error code => cases hzarinpal
      | payload payload =>
          simp only at hzarinpal
          split at hzarinpal
          · cases hzarinpal
          split at hzarinpal
          · cases hzarinpal
          · cases hzarinpal
            exact ⟨rfl, rfl⟩
  | mock =>
      have hmock : verifyMock input = .ok verified := by
        cases answer <;> simp [verifyPayment] at h <;> exact h
      unfold verifyMock at hmock
      split at hmock
      · cases hmock
      split at hmock
      · cases hmock
      · cases hmock
        exact ⟨rfl, by cases answer <;> rfl⟩

/-- Two authorities of one transaction are one string, except that Zibal reads
the track number as a number. -/
theorem eq_of_transactionOf_eq {gateway₁ gateway₂ : PaymentGatewayProvider} {first second : String}
    {transaction : GatewayTransaction} (h₁ : transactionOf gateway₁ first = some transaction)
    (h₂ : transactionOf gateway₂ second = some transaction) :
    first = second ∨ (gateway₁ = .zibal ∧ gateway₂ = .zibal ∧
      Js.toNumber first = Js.toNumber second) := by
  cases gateway₁ <;> cases gateway₂ <;>
    simp only [transactionOf, Option.map_eq_some_iff, Option.some.injEq] at h₁ h₂
  case zibal.zibal =>
    obtain ⟨n, hn, rfl⟩ := h₁
    obtain ⟨m, hm, hmn⟩ := h₂
    cases hmn
    have hfirst := (Option.filter_eq_some_iff.1 hn).1
    have hsecond := (Option.filter_eq_some_iff.1 hm).1
    exact .inr ⟨rfl, rfl, hfirst.trans hsecond.symm⟩
  case zarinpal.zarinpal =>
    rw [← h₂] at h₁
    exact .inl (GatewayTransaction.zarinpal.inj h₁)
  case mock.mock =>
    rw [← h₂] at h₁
    exact .inl (GatewayTransaction.mock.inj h₁)
  -- transactions of different gateways differ
  all_goals
    first
      | (subst h₁; simp at h₂)
      | (subst h₂; simp at h₁)

end AbrChin.Payments
