import AbrChin.Accounting.Cancelling
import AbrChin.Accounting.ExpenseRuns
import AbrChin.Accounting.Position
import AbrChin.Accounting.Recognition
import AbrChin.Auth.Login
import AbrChin.Auth.VerifiedEmail
import AbrChin.Billing.Activated
import AbrChin.Billing.Backlog
import AbrChin.Billing.ChargedOnce
import AbrChin.Billing.Coverage
import AbrChin.Billing.CreditRequired
import AbrChin.Billing.PolicyVersions
import AbrChin.Catalog.Sync
import AbrChin.Dispatch.Starvation
import AbrChin.Finance.Rollback
import AbrChin.Finance.Serial
import AbrChin.Inventory.PaidServers
import AbrChin.Js.StableJson
import AbrChin.MessageGo.Charge
import AbrChin.MessageGo.Idempotency
import AbrChin.Orders.RefundTerm
import AbrChin.Orders.Reversal
import AbrChin.Ownership.Transfer
import AbrChin.Parchin.BusinessMinutes
import AbrChin.Parchin.MonthlyQuota
import AbrChin.Payments.DefaultGateway
import AbrChin.Pricing.CurveResolver
import AbrChin.ProductFlow.Consistency
import AbrChin.Recommendation.Refresh
import AbrChin.S2S.SingleUse
import AbrChin.S2S.Verifies
import AbrChin.Security.ShownOnce
import AbrChin.Storefront.AdvertisedPrice
import AbrChin.Storefront.Suggestion
import AbrChin.Storefront.Undominated
import AbrChin.Subscriptions.RenewalPrice
import AbrChin.TopUp.Confirmed
import AbrChin.TopUp.Funding
import AbrChin.TopUp.Once
import AbrChin.Upgrade.Once
import AbrChin.Upgrade.PathIndependence
import AbrChin.Wallet.Keys
