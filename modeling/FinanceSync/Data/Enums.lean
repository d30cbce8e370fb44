import Mathlib.Data.List.Basic

/-!
# Enumerated types of the domain model

Each is a `StrEnum`: its members are stored as texts, and a text is read back as
the member that has it.
-/

namespace FinanceSync

/-- The members of an enumeration in order, and their texts. -/
class StrEnum (α : Type) where
  members : List α
  value : α → String

namespace StrEnum

variable {α : Type} [StrEnum α]

/-- The member with the text, which `raw in members.values()` looks for. -/
def ofValue? (raw : String) : Option α :=
  members.find? fun member => value member = raw

/-- A member that is read from a text has that text. -/
theorem value_of_ofValue? {raw : String} {member : α} (found : ofValue? raw = some member) :
    value member = raw := by
  have := List.find?_some found
  simpa using this

/-- `Enum(raw) if raw in members.values() else fallback` -/
def coerce (raw : String) (fallback : α) : α := (ofValue? raw).getD fallback

theorem value_coerce {raw : String} {fallback : α} (isMember : (ofValue? (α := α) raw).isSome) :
    value (coerce raw fallback) = raw := by
  obtain ⟨member, found⟩ := Option.isSome_iff_exists.mp isMember
  rw [coerce, found, Option.getD_some]
  exact value_of_ofValue? found

/-- Reading a text keeps it exactly if a member has it. -/
theorem value_coerce_eq_iff {raw : String} (fallback : α) (fallbackMem : fallback ∈ members) :
    value (coerce raw fallback) = raw ↔ (ofValue? (α := α) raw).isSome := by
  constructor
  · intro kept
    cases found : ofValue? (α := α) raw with
    | some member => rfl
    | none =>
        have unread := List.find?_eq_none.mp found fallback fallbackMem
        rw [coerce, found, Option.getD_none] at kept
        rw [kept] at unread
        simp at unread
  · exact value_coerce

end StrEnum

/-- Classification of a financial transaction. -/
inductive TransactionType
  | transfer
  | payment
  | purchase
  | sale
  | fee
  | interest
  | dividend
  | tax
  | split
  | adjustment
  | corporateAction
  | withdrawal
  | deposit
  | cardPayment
  | scheduledPayment
  | other
deriving DecidableEq, Repr

instance : StrEnum TransactionType where
  members := [.transfer, .payment, .purchase, .sale, .fee, .interest, .dividend, .tax, .split,
    .adjustment, .corporateAction, .withdrawal, .deposit, .cardPayment, .scheduledPayment, .other]
  value
    | .transfer => "transfer"
    | .payment => "payment"
    | .purchase => "purchase"
    | .sale => "sale"
    | .fee => "fee"
    | .interest => "interest"
    | .dividend => "dividend"
    | .tax => "tax"
    | .split => "split"
    | .adjustment => "adjustment"
    | .corporateAction => "corporate_action"
    | .withdrawal => "withdrawal"
    | .deposit => "deposit"
    | .cardPayment => "card_payment"
    | .scheduledPayment => "scheduled_payment"
    | .other => "other"

/-- Lifecycle state of a canonical transaction. -/
inductive TransactionStatus
  | pending
  | booked
  | reversed
  | cancelled
deriving DecidableEq, Repr

instance : StrEnum TransactionStatus where
  members := [.pending, .booked, .reversed, .cancelled]
  value
    | .pending => "pending"
    | .booked => "booked"
    | .reversed => "reversed"
    | .cancelled => "cancelled"

/-- Origin of a holding observation. -/
inductive HoldingSource
  | providerSync
  | computed
  | manualAdjustment
deriving DecidableEq, Repr

instance : StrEnum HoldingSource where
  members := [.providerSync, .computed, .manualAdjustment]
  value
    | .providerSync => "provider_sync"
    | .computed => "computed"
    | .manualAdjustment => "manual_adjustment"

/-- Recurrence frequency for scheduled/recurring payments. -/
inductive ScheduleFrequency
  | daily
  | weekly
  | biweekly
  | monthly
  | bimonthly
  | quarterly
  | semiAnnually
  | annually
  | custom
deriving DecidableEq, Repr

instance : StrEnum ScheduleFrequency where
  members := [.daily, .weekly, .biweekly, .monthly, .bimonthly, .quarterly, .semiAnnually,
    .annually, .custom]
  value
    | .daily => "daily"
    | .weekly => "weekly"
    | .biweekly => "biweekly"
    | .monthly => "monthly"
    | .bimonthly => "bimonthly"
    | .quarterly => "quarterly"
    | .semiAnnually => "semi_annually"
    | .annually => "annually"
    | .custom => "custom"

/-- Lifecycle state of a scheduled/recurring payment. -/
inductive ScheduleStatus
  | active
  | paused
  | completed
  | cancelled
  | failed
deriving DecidableEq, Repr

instance : StrEnum ScheduleStatus where
  members := [.active, .paused, .completed, .cancelled, .failed]
  value
    | .active => "active"
    | .paused => "paused"
    | .completed => "completed"
    | .cancelled => "cancelled"
    | .failed => "failed"

/-- Type of card transaction authorization. -/
inductive CardAuthorizationType
  | authorization
  | settlement
  | refund
  | chargeback
  | other
deriving DecidableEq, Repr

instance : StrEnum CardAuthorizationType where
  members := [.authorization, .settlement, .refund, .chargeback, .other]
  value
    | .authorization => "authorization"
    | .settlement => "settlement"
    | .refund => "refund"
    | .chargeback => "chargeback"
    | .other => "other"

/-- Delivery state of a transactional outbox message. -/
inductive OutboxMessageStatus
  | pending
  | processing
  | sent
  | failed
deriving DecidableEq, Repr

end FinanceSync
