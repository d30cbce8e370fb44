import FinanceSync.Data.Enums
import FinanceSync.Data.Values
import FinanceSync.Lib.Grouping
import FinanceSync.Lib.Latest
import FinanceSync.Lib.Table
import Mathlib.Data.Prod.Lex

/-!
# Snapshots

The time-versioned rows from which portfolio figures are read.  A sync adds a
snapshot of every position and of every balance; it does not touch those of
earlier syncs.  The lists of this model hold the rows of one tenant that the
reader may see.
-/

namespace FinanceSync.Portfolio

open Lib

/-- Semantic kind of a balance snapshot. -/
inductive BalanceKind
  | available
  | booked
  | current
  | limit
  | cash
deriving DecidableEq, Repr

/-- A point-in-time snapshot of a position in one security. -/
structure Holding where
  id : Uuid
  accountId : Uuid
  securityId : Uuid
  observedAt : Instant
  quantity : ℚ
  marketValue : Option ℚ
  currencyCode : String
  source : HoldingSource
deriving DecidableEq

/-- A point-in-time snapshot of an account balance. -/
structure Balance where
  id : Uuid
  tenantId : Uuid
  accountId : Uuid
  observedAt : Instant
  balanceKind : BalanceKind
  amount : ℚ
  currencyCode : String
deriving DecidableEq

/-- A canonical transaction as the health checks read it. -/
structure Transaction where
  id : Uuid
  tenantId : Uuid
  accountId : Uuid
  securityId : Option Uuid := none
  transactionType : TransactionType
  amount : ℚ
  quantity : Option ℚ := none
  currencyCode : String
  occurredAt : Instant
  providerMetadataContract : Option Json := none
  tombstonedAt : Option Instant := none

namespace Holding

/-- The position that a snapshot is of. -/
def position (holding : Holding) : Uuid × Uuid := (holding.accountId, holding.securityId)

/-- When the snapshot was observed; of two snapshots of one moment the greater
id counts as the later one. -/
def moment (holding : Holding) : Instant ×ₗ Uuid := toLex (holding.observedAt, holding.id)

/-- What the snapshot adds to a sum of market values. -/
def value (holding : Holding) : ℚ := holding.marketValue.getD 0

end Holding

/-- `date_trunc('day', moment)` -/
def truncateToDay (moment : Instant) : Instant :=
  Instant.date moment * Instant.microsecondsPerDay

/-- `SUM(amount) GROUP BY date_trunc('day', moment) ORDER BY day` -/
def totalsByDay (entries : List (Instant × ℚ)) : List (Instant × ℚ) :=
  (OrderBy.stable Prod.fst).sort
    (groupTotals (entries.map fun entry => (truncateToDay entry.1, entry.2)))

end FinanceSync.Portfolio
