import DiscountBazar.Finance.WalletLedger
import DiscountBazar.Cancellation.GatewayCalls
import DiscountBazar.Inventory.Compensation
import DiscountBazar.Placement.Preview
import DiscountBazar.Placement.WalletSpending
import DiscountBazar.Placement.KeyIsolation
import DiscountBazar.Workflow.Refines
import DiscountBazar.Payments.Credits
import DiscountBazar.Pos.Agreement
import DiscountBazar.Pos.Conservation
import DiscountBazar.Pos.Refunds
import DiscountBazar.Pos.Interleavings
import DiscountBazar.Returns.HoldRelease
import DiscountBazar.Workflow.OtpGuesses
import DiscountBazar.Returns.RiderCommission
import DiscountBazar.Workflow.Acceptances
import DiscountBazar.Business.PurchaseReturns
import DiscountBazar.Business.CustomerBalance
import DiscountBazar.Business.CustomerPayments
import DiscountBazar.Placement.UserLimit
import DiscountBazar.Pos.IdempotentSales
import DiscountBazar.Business.FinalDays
import DiscountBazar.Inventory.MasterStock
import DiscountBazar.Workflow.RiderCapacity
import DiscountBazar.Finance.RiderCash
import DiscountBazar.Finance.EarningsCover
import DiscountBazar.Ratings.Aggregates
import DiscountBazar.Auth.OtpLogin
import DiscountBazar.Cart.Consistency
import DiscountBazar.Catalog.StockKept
import DiscountBazar.Scheduler.OneAtATime
import DiscountBazar.Sellers.ResetOnce
import DiscountBazar.Sellers.Reachable
import DiscountBazar.Chat.Permission
import DiscountBazar.Chat.Following
import DiscountBazar.Pricing.Conserved
import DiscountBazar.Pricing.RoundedTotals
import DiscountBazar.Cancellation.RefundPlan
import DiscountBazar.Finance.SellerEarnings
import DiscountBazar.Inventory.Inspection
import DiscountBazar.Returns.LegacyRefund
import DiscountBazar.Workflow.RiderSearch
import DiscountBazar.Notifications.Dedupe
import DiscountBazar.Business.Partition
import DiscountBazar.Business.PurchaseCosts
import DiscountBazar.Business.Statements
import DiscountBazar.Business.Account
import DiscountBazar.Pos.Reports
import DiscountBazar.Pos.ReturnedCost
import DiscountBazar.Pricing.DeliveryQuote
import DiscountBazar.Placement.CartConsumption
import DiscountBazar.Cart.Reorder
import DiscountBazar.Pricing.RulesApplied
import DiscountBazar.Cache.Invalidation
import DiscountBazar.Catalog.Moderation
