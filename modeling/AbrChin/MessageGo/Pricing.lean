import Mathlib.Tactic.Linarith
import AbrChin.Js.Value

/-!
# Settlement amounts and customer prices

`lib/messagego/settlement/amount.ts` and `customer-pricing.ts`: the error type,
the parsers of amounts and token counts, the cost of a number of tokens and the
two derivations, the hold at reservation time and the billable amount at
settlement time.

Both round each of the two token costs up on its own.  `costRial_mono` is what
bounds a charge by its hold: within the reserved token bounds neither part can
exceed the part that was held.
-/

namespace AbrChin.MessageGo

/-- `SettlementErrorCode`. -/
inductive SettlementErrorCode where
  | invalidRequest
  | invalidAmount
  | jsonNumberMoney
  | idempotencyConflict
  | notFound
  | insufficientFunds
  | walletFrozen
  | accountInactive
  | scopeMismatch
  | stateConflict
  | productionDenied
  | browserForbidden
  | unauthenticated
  | settlementRuntimeUnavailable
  | unknownPricing
  | stalePricing
  | usageUnknown
  | customerAmountUntrusted
  deriving DecidableEq

/-- `SettlementError`: a code and a message. -/
structure SettlementError where
  code : SettlementErrorCode
  message : String
  deriving DecidableEq

/-- What a settlement call throws: a `SettlementError`, or an error of the
database client (a unique or foreign key violated, a row to update missing). -/
inductive Failure where
  | settlement (error : SettlementError)
  | database
  deriving DecidableEq

/-- `throw new SettlementError(code, message)`. -/
def reject {α : Type} (code : SettlementErrorCode) (message : String) : Except Failure α :=
  .error (.settlement ⟨code, message⟩)

/-! ## Amounts -/

/-- `parseWalletAmount`. -/
def parseWalletAmount (value : Js.Value) (field : String) : Except Failure ℤ :=
  match value with
  | .number _ =>
      reject .jsonNumberMoney s!"{field} must be an integer IRR rial JSON string, not a JSON number"
  | .string text =>
      if Js.isDecimal (Js.trim text) then .ok (Js.bigInt (Js.trim text))
      else reject .invalidAmount s!"{field} is not a lossless integer rial amount"
  | _ => reject .invalidAmount s!"{field} must be an integer IRR rial string"

/-- `parseOptionalWalletAmount`. -/
def parseOptionalWalletAmount (value : Js.Value) (field : String) : Except Failure (Option ℤ) :=
  match value with
  | .undefined => .ok none
  | .null => .ok none
  | .string "" => .ok none
  | value => (parseWalletAmount value field).map some

/-- `walletAmountString`. -/
def walletAmountString (value : ℤ) : Except Failure String :=
  if value < 0 then reject .invalidAmount "wallet amounts must not be negative"
  else .ok (toString value)

def tokensPerMillion : ℤ := 1000000

/-- `costRial`: the price of some tokens at a rate per million, rounded up. -/
def costRial (tokens rialPerMillion : ℤ) : Except Failure ℤ :=
  if tokens < 0 ∨ rialPerMillion < 0 then
    reject .invalidAmount "token cost inputs must not be negative"
  else if rialPerMillion = 0 ∧ 0 < tokens then
    reject .unknownPricing "customer rate is zero"
  else .ok ((tokens * rialPerMillion + (tokensPerMillion - 1)).tdiv tokensPerMillion)

/-- `rejectUntrustedAmount`: a supplied amount has to be the derived one. -/
def rejectUntrustedAmount (supplied : Option ℤ) (derived : ℤ) (field : String) :
    Except Failure Unit :=
  match supplied with
  | none => .ok ()
  | some amount =>
      if amount ≠ derived then
        reject .customerAmountUntrusted s!"{field} is not the AbrChin-derived amount"
      else .ok ()

/-! ## Tokens -/

/-- `parseTokenCount`. -/
def parseTokenCount (value : Js.Value) (field : String) : Except Failure ℤ :=
  let malformed := s!"{field} must be a positive integer token count"
  match value with
  | .number (.integer count) =>
      if count < 1 ∨ Js.maxSafeInteger < count then reject .invalidRequest malformed
      else .ok count
  | .number .other => reject .invalidRequest malformed
  | .string text =>
      if Js.isPositiveDecimal (Js.trim text) then .ok (Js.bigInt (Js.trim text))
      else reject .invalidRequest malformed
  | _ => reject .invalidRequest s!"{field} is required"

/-- `ProviderUsageTokens`. -/
structure ProviderUsageTokens where
  inputTextTokens : ℤ
  outputTextTokens : ℤ
  deriving DecidableEq

/-- `parseUsageToken`. -/
def parseUsageToken (value : Js.Value) (field : String) : Except Failure ℤ :=
  let malformed := s!"{field} is not a usable token count"
  match value with
  | .number (.integer count) =>
      if count < 0 ∨ Js.maxSafeInteger < count then reject .usageUnknown malformed
      else .ok count
  | .number .other => reject .usageUnknown malformed
  | .string text =>
      if Js.isDecimal (Js.trim text) then .ok (Js.bigInt (Js.trim text))
      else reject .usageUnknown malformed
  | _ => reject .usageUnknown s!"{field} is required"

/-- `parseProviderUsage`. -/
def parseProviderUsage (value : Js.Value) : Except Failure ProviderUsageTokens :=
  match value with
  | .object fields => do
      let input ← parseUsageToken (Js.Value.field fields "input_text_tokens")
        "provider_usage.input_text_tokens"
      let output ← parseUsageToken (Js.Value.field fields "output_text_tokens")
        "provider_usage.output_text_tokens"
      return ⟨input, output⟩
  | _ => reject .usageUnknown "provider_usage is required"

/-! ## Prices -/

/-- A row of `MessageGoCustomerPrice`; the table's checks are its last fields. -/
structure CustomerPrice where
  stableModelAlias : String
  revision : ℤ
  pricingVersion : String
  pricingFingerprint : String
  inputRialPerMillion : ℤ
  outputRialPerMillion : ℤ
  maxInputTokens : ℤ
  maxOutputTokens : ℤ
  positiveRates : 0 < inputRialPerMillion ∧ 0 < outputRialPerMillion
  positiveBounds : 0 < maxInputTokens ∧ 0 < maxOutputTokens

/-- The two rates that a reservation stores. -/
structure Rates where
  inputRialPerMillion : ℤ
  outputRialPerMillion : ℤ
  deriving DecidableEq

/-- `deriveHoldRial`. -/
def deriveHoldRial (price : CustomerPrice) (maxInput maxOutput : ℤ) : Except Failure ℤ :=
  if price.maxInputTokens < maxInput ∨ price.maxOutputTokens < maxOutput then
    reject .invalidRequest "requested token bounds exceed the published customer price"
  else do
    let input ← costRial maxInput price.inputRialPerMillion
    let output ← costRial maxOutput price.outputRialPerMillion
    return input + output

/-- `deriveBillableRial`. -/
def deriveBillableRial (price : Rates) (usage : ProviderUsageTokens) (maxInput maxOutput : ℤ) :
    Except Failure ℤ :=
  if maxInput < usage.inputTextTokens ∨ maxOutput < usage.outputTextTokens then
    reject .usageUnknown "provider usage exceeds the reserved token bounds"
  else do
    let input ← costRial usage.inputTextTokens price.inputRialPerMillion
    let output ← costRial usage.outputTextTokens price.outputRialPerMillion
    return input + output

/-- The `findFirst … orderBy revision desc` of `latestCustomerPrice`. -/
def newestPrice (prices : List CustomerPrice) (modelAlias : String) : Option CustomerPrice :=
  (prices.filter fun price => price.stableModelAlias = modelAlias).foldl
    (fun best price =>
      match best with
      | none => some price
      | some current => if current.revision < price.revision then some price else some current)
    none

/-- `latestCustomerPrice`. -/
def latestCustomerPrice (prices : List CustomerPrice) (modelAlias : String) :
    Except Failure CustomerPrice :=
  let trimmed := Js.trim modelAlias
  if trimmed = "" then reject .unknownPricing "model_alias is required"
  else
    match newestPrice prices trimmed with
    | none => reject .unknownPricing s!"no customer price for {trimmed}"
    | some price =>
        if price.inputRialPerMillion < 1 ∨ price.outputRialPerMillion < 1 then
          reject .unknownPricing s!"no customer price for {trimmed}"
        else .ok price

/-! ## What the derivations guarantee -/

variable {tokens rate cost : ℤ}

theorem costRial_ok (h : costRial tokens rate = .ok cost) :
    0 ≤ tokens ∧ 0 ≤ rate ∧ cost = (tokens * rate + 999999) / 1000000 := by
  unfold costRial at h
  split at h
  · cases h
  · rename_i hsign
    push Not at hsign
    split at h
    · cases h
    · cases h
      refine ⟨hsign.1, hsign.2, ?_⟩
      have hnonneg : 0 ≤ tokens * rate := mul_nonneg hsign.1 hsign.2
      exact Int.tdiv_eq_ediv_of_nonneg (by unfold tokensPerMillion; omega)

theorem costRial_nonneg (h : costRial tokens rate = .ok cost) : 0 ≤ cost := by
  obtain ⟨htokens, hrate, rfl⟩ := costRial_ok h
  have hnonneg : 0 ≤ tokens * rate := mul_nonneg htokens hrate
  omega

/-- More tokens at the same rate never cost less. -/
theorem costRial_mono {bound held : ℤ} (hle : tokens ≤ bound)
    (hcost : costRial tokens rate = .ok cost) (hheld : costRial bound rate = .ok held) :
    cost ≤ held := by
  obtain ⟨-, hrate, rfl⟩ := costRial_ok hcost
  obtain ⟨-, -, rfl⟩ := costRial_ok hheld
  have hmul : tokens * rate ≤ bound * rate := mul_le_mul_of_nonneg_right hle hrate
  omega

variable {maxOutput maxInput : ℤ}

/-- A hold is the cost of the reserved bounds at the price's rates. -/
theorem deriveHoldRial_ok {price : CustomerPrice} {hold : ℤ}
    (h : deriveHoldRial price maxInput maxOutput = .ok hold) :
    ∃ input output, costRial maxInput price.inputRialPerMillion = .ok input ∧
      costRial maxOutput price.outputRialPerMillion = .ok output ∧ hold = input + output := by
  unfold deriveHoldRial at h
  split at h
  · cases h
  · cases hinput : costRial maxInput price.inputRialPerMillion with
    | error e => simp [hinput, bind, Except.bind] at h
    | ok input =>
        cases houtput : costRial maxOutput price.outputRialPerMillion with
        | error e => simp [hinput, houtput, bind, Except.bind] at h
        | ok output =>
            simp only [hinput, houtput, bind, Except.bind, pure, Except.pure,
              Except.ok.injEq] at h
            exact ⟨input, output, rfl, rfl, h.symm⟩

variable {usage : ProviderUsageTokens} {rates : Rates} {billable : ℤ}

/-- A billable amount is the cost of a usage within the reserved bounds. -/
theorem deriveBillableRial_ok
    (h : deriveBillableRial rates usage maxInput maxOutput = .ok billable) :
    usage.inputTextTokens ≤ maxInput ∧ usage.outputTextTokens ≤ maxOutput ∧
      ∃ input output, costRial usage.inputTextTokens rates.inputRialPerMillion = .ok input ∧
        costRial usage.outputTextTokens rates.outputRialPerMillion = .ok output ∧
        billable = input + output := by
  unfold deriveBillableRial at h
  split at h
  · cases h
  · rename_i hbounds
    push Not at hbounds
    cases hinput : costRial usage.inputTextTokens rates.inputRialPerMillion with
    | error e => simp [hinput, bind, Except.bind] at h
    | ok input =>
        cases houtput : costRial usage.outputTextTokens rates.outputRialPerMillion with
        | error e => simp [hinput, houtput, bind, Except.bind] at h
        | ok output =>
            simp only [hinput, houtput, bind, Except.bind, pure, Except.pure,
              Except.ok.injEq] at h
            exact ⟨hbounds.1, hbounds.2, input, output, rfl, rfl, h.symm⟩

theorem deriveBillableRial_nonneg
    (h : deriveBillableRial rates usage maxInput maxOutput = .ok billable) : 0 ≤ billable := by
  obtain ⟨-, -, input, output, hinput, houtput, rfl⟩ := deriveBillableRial_ok h
  have := costRial_nonneg hinput
  have := costRial_nonneg houtput
  omega

/-- **A charge within the reserved bounds costs at most the hold.** -/
theorem deriveBillableRial_le_hold {input output : ℤ}
    (hinput : costRial maxInput rates.inputRialPerMillion = .ok input)
    (houtput : costRial maxOutput rates.outputRialPerMillion = .ok output)
    (h : deriveBillableRial rates usage maxInput maxOutput = .ok billable) :
    billable ≤ input + output := by
  obtain ⟨hin, hout, used, produced, hused, hproduced, rfl⟩ := deriveBillableRial_ok h
  have := costRial_mono hin hused hinput
  have := costRial_mono hout hproduced houtput
  omega

end AbrChin.MessageGo
