import FinanceSync.Persistence.Delivery
import FinanceSync.Persistence.IdempotencyKeys
import FinanceSync.Persistence.Publishing
import FinanceSync.Persistence.UserState
import FinanceSync.Sync.Exclusive
import FinanceSync.Webhooks.Retries
import FinanceSync.Remediation.OpenItems
import FinanceSync.Remediation.Leases
import FinanceSync.Remediation.Decisions
import FinanceSync.Fx.Reciprocal
import FinanceSync.Auth.KeyGrants
import FinanceSync.Auth.SingleUse
import FinanceSync.Visibility.ScopedKey
import FinanceSync.Schedules.OptimisticLock
import FinanceSync.TaxLots.QuantityInvariant
import FinanceSync.Portfolio.TimeWeighted
import FinanceSync.Portfolio.Resync
import FinanceSync.Portfolio.History
import FinanceSync.Portfolio.CashConsistency
import FinanceSync.Portfolio.QuantityExactness
import FinanceSync.TaxLots.WashSales
import FinanceSync.Sync.Cursors
import FinanceSync.Persistence.DetailsAgreement
import FinanceSync.Wealthfolio.SignedCash
import FinanceSync.Wealthfolio.Comments
import FinanceSync.Sync.SecurityIdentity
import FinanceSync.Persistence.RepeatedIds
import FinanceSync.ActualBudget.Idempotent
import FinanceSync.ActualBudget.Conservation
import FinanceSync.Ynab.Conventions
import FinanceSync.Trading212.OpeningBalances
import FinanceSync.Ghostfolio.NetPositions
import FinanceSync.Visibility.PortfolioSums
import FinanceSync.Visibility.ReadPaths
import FinanceSync.Subscriptions.IgnoredMerchants
import FinanceSync.Sync.CardPayments
import FinanceSync.Remediation.HealthPolls
import FinanceSync.Deletion.Frame
import FinanceSync.Saxo.WorkbookReaders
import FinanceSync.Webhooks.Signing
import FinanceSync.Schedules.WallTimes
import FinanceSync.Intel.Identities
import FinanceSync.Intel.Staleness
import FinanceSync.Identity.Pipeline
import FinanceSync.TaxLots.SaleMatching
import FinanceSync.TaxLots.Tombstones
import FinanceSync.Persistence.UnitOfWork
import FinanceSync.Sync.GapAnalysis
import FinanceSync.Sync.HoldingsStage
import FinanceSync.Sync.UnlabeledPairs
import FinanceSync.Remediation.RateLimit
import FinanceSync.Wealthfolio.HoldingsHistory
import FinanceSync.Wealthfolio.RowCurrency
import FinanceSync.Schedules.Workers
import FinanceSync.Wealthfolio.Quarantine
import FinanceSync.ActualBudget.SplitTotals
import FinanceSync.Ynab.Exporter
import FinanceSync.Wealthfolio.TransferBalance
import FinanceSync.Trading212.Paging
import FinanceSync.Trading212.CashSigns
import FinanceSync.Degiro.FxDebits
import FinanceSync.Sync.CsvImport
import FinanceSync.Degiro.UploadCheck
import FinanceSync.Portfolio.AllocationTotals
import FinanceSync.Portfolio.CashflowAgreement
import FinanceSync.Saxo.NumberTexts
import FinanceSync.Bunq.MissingTimes
import FinanceSync.Remediation.HealthReview
import FinanceSync.Relevance.CashEvents
import FinanceSync.Wealthfolio.CheckedImport
import FinanceSync.Subscriptions.CrossAccounts
import FinanceSync.Sync.Retries
import FinanceSync.Sync.CursorWindows
import FinanceSync.Prices.StoredSeries
