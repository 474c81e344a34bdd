import AbrChin.Lib.Transaction

/-!
# The chart of accounts

`lib/accounting/accounts.ts`: the codes a journal line can carry and the class of each.
The labels, which only the admin pages show, are left out.
-/

namespace AbrChin.Accounting

inductive AccountCode where
  | cashGateway
  | providerFundingClearing
  | customerWalletLiability
  | taxPayable
  | deferredRevenue
  | infrastructureRevenue
  | parchinRevenue
  | addonRevenue
  | termDiscount
  | couponDiscount
  | salesRefund
  | providerInfrastructureCogs
  | providerAddonCogs
  | gatewayFees
  | smsExpense
  | supportOperations
  | hostingOperations
  | marketingExpense
  | payrollContractor
  | otherOperatingExpense
  deriving DecidableEq

inductive AccountClass where
  | asset
  | liability
  | revenue
  | contraRevenue
  | cogs
  | opex
  deriving DecidableEq

namespace AccountCode

/-- `ACCOUNT_CODES`. -/
def accountCodes : List AccountCode := [cashGateway, providerFundingClearing,
  customerWalletLiability, taxPayable, deferredRevenue, infrastructureRevenue, parchinRevenue,
  addonRevenue, termDiscount, couponDiscount, salesRefund, providerInfrastructureCogs,
  providerAddonCogs, gatewayFees, smsExpense, supportOperations, hostingOperations,
  marketingExpense, payrollContractor, otherOperatingExpense]

/-- The code as it is stored. -/
def text : AccountCode → String
  | cashGateway => "CASH_GATEWAY"
  | providerFundingClearing => "PROVIDER_FUNDING_CLEARING"
  | customerWalletLiability => "CUSTOMER_WALLET_LIABILITY"
  | taxPayable => "TAX_PAYABLE"
  | deferredRevenue => "DEFERRED_REVENUE"
  | infrastructureRevenue => "INFRASTRUCTURE_REVENUE"
  | parchinRevenue => "PARCHIN_REVENUE"
  | addonRevenue => "ADDON_REVENUE"
  | termDiscount => "TERM_DISCOUNT"
  | couponDiscount => "COUPON_DISCOUNT"
  | salesRefund => "SALES_REFUND"
  | providerInfrastructureCogs => "PROVIDER_INFRASTRUCTURE_COGS"
  | providerAddonCogs => "PROVIDER_ADDON_COGS"
  | gatewayFees => "GATEWAY_FEES"
  | smsExpense => "SMS_EXPENSE"
  | supportOperations => "SUPPORT_OPERATIONS"
  | hostingOperations => "HOSTING_OPERATIONS"
  | marketingExpense => "MARKETING_EXPENSE"
  | payrollContractor => "PAYROLL_CONTRACTOR"
  | otherOperatingExpense => "OTHER_OPERATING_EXPENSE"

/-- `ACCOUNT_DEFINITIONS[code].accountClass`. -/
def accountClass : AccountCode → AccountClass
  | cashGateway | providerFundingClearing => .asset
  | customerWalletLiability | taxPayable | deferredRevenue => .liability
  | infrastructureRevenue | parchinRevenue | addonRevenue => .revenue
  | termDiscount | couponDiscount | salesRefund => .contraRevenue
  | providerInfrastructureCogs | providerAddonCogs => .cogs
  | gatewayFees | smsExpense | supportOperations | hostingOperations | marketingExpense
  | payrollContractor | otherOperatingExpense => .opex

end AccountCode

/-- `isAccountCode`: the code that a text stands for. -/
def isAccountCode (value : String) : Option AccountCode :=
  AccountCode.accountCodes.find? fun code => code.text = value

@[simp] theorem isAccountCode_text (code : AccountCode) : isAccountCode code.text = some code := by
  cases code <;> decide

end AbrChin.Accounting
