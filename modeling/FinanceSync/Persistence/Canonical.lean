import FinanceSync.Data.Enums
import FinanceSync.Persistence.Values

/-!
# Canonical records

What connectors hand to the sync, with `getattr(record, field, None)` of the
fields that a sync compares.  Fields that the persistence layer does not read
are left out.
-/

namespace FinanceSync.Persistence

/-- The names of the attributes that a sync writes. -/
inductive Field
  | name
  | accountType
  | accountSubtype
  | currencyCode
  | currentBalance
  | availableBalance
  | netAssetValue
  | isoCurrencyCode
  | providerMetadata
  | capabilities
  | isActive
  | amount
  | occurredAt
  | bookedAt
  | transactionType
  | description
  | quantity
  | unitPrice
  | feeAmount
  | feeCurrencyCode
  | status
  | amountInBase
  | baseCurrencyCode
  | fxRate
  | providerFingerprint
  | providerMetadataContract
  | merchantName
  | merchantId
  | merchantCity
  | merchantCountry
  | counterpartyName
  | counterpartyAccountReference
  | merchantCategoryCode
  | originalType
  | originalStatus
  | authorizationStatus
  | settlementStatus
  | sourceRecordHash
  | cashflowBucket
  | cashflowSuggestion
  | classificationSource
  | classificationOverride
  | grossAmount
  | grossCurrencyCode
  | netAmount
  | netCurrencyCode
  | taxAmount
  | taxCurrencyCode
  | refundAmount
  | refundCurrencyCode
  | costBasis
  | costBasisCurrency
  | marketValue
  | price
  | priceCurrency
  | frequency
  | interval
  | nextExecutionDate
  | endDate
  | maxExecutions
  | executionCount
  | counterpartyIban
  | mcc
  | cardId
  | cardType
  | cardLastFour
  | authorizationType
  | exportStatus
  | securityId
deriving DecidableEq

/-- The name of the attribute in Python. -/
def Field.attributeName : Field → String
  | .name => "name"
  | .accountType => "account_type"
  | .accountSubtype => "account_subtype"
  | .currencyCode => "currency_code"
  | .currentBalance => "current_balance"
  | .availableBalance => "available_balance"
  | .netAssetValue => "net_asset_value"
  | .isoCurrencyCode => "iso_currency_code"
  | .providerMetadata => "provider_metadata"
  | .capabilities => "capabilities"
  | .isActive => "is_active"
  | .amount => "amount"
  | .occurredAt => "occurred_at"
  | .bookedAt => "booked_at"
  | .transactionType => "transaction_type"
  | .description => "description"
  | .quantity => "quantity"
  | .unitPrice => "unit_price"
  | .feeAmount => "fee_amount"
  | .feeCurrencyCode => "fee_currency_code"
  | .status => "status"
  | .amountInBase => "amount_in_base"
  | .baseCurrencyCode => "base_currency_code"
  | .fxRate => "fx_rate"
  | .providerFingerprint => "provider_fingerprint"
  | .providerMetadataContract => "provider_metadata_contract"
  | .merchantName => "merchant_name"
  | .merchantId => "merchant_id"
  | .merchantCity => "merchant_city"
  | .merchantCountry => "merchant_country"
  | .counterpartyName => "counterparty_name"
  | .counterpartyAccountReference => "counterparty_account_reference"
  | .merchantCategoryCode => "merchant_category_code"
  | .originalType => "original_type"
  | .originalStatus => "original_status"
  | .authorizationStatus => "authorization_status"
  | .settlementStatus => "settlement_status"
  | .sourceRecordHash => "source_record_hash"
  | .cashflowBucket => "cashflow_bucket"
  | .cashflowSuggestion => "cashflow_suggestion"
  | .classificationSource => "classification_source"
  | .classificationOverride => "classification_override"
  | .grossAmount => "gross_amount"
  | .grossCurrencyCode => "gross_currency_code"
  | .netAmount => "net_amount"
  | .netCurrencyCode => "net_currency_code"
  | .taxAmount => "tax_amount"
  | .taxCurrencyCode => "tax_currency_code"
  | .refundAmount => "refund_amount"
  | .refundCurrencyCode => "refund_currency_code"
  | .costBasis => "cost_basis"
  | .costBasisCurrency => "cost_basis_currency"
  | .marketValue => "market_value"
  | .price => "price"
  | .priceCurrency => "price_currency"
  | .frequency => "frequency"
  | .interval => "interval"
  | .nextExecutionDate => "next_execution_date"
  | .endDate => "end_date"
  | .maxExecutions => "max_executions"
  | .executionCount => "execution_count"
  | .counterpartyIban => "counterparty_iban"
  | .mcc => "mcc"
  | .cardId => "card_id"
  | .cardType => "card_type"
  | .cardLastFour => "card_last_four"
  | .authorizationType => "authorization_type"
  | .exportStatus => "export_status"
  | .securityId => "security_id"

/-- The attributes of an object; one that it does not have reads as `None`. -/
abbrev Attributes := Field → Option PyValue

/-! ## Pydantic models in JSON columns -/

/-- Versioned, privacy-filtered provider extensions. -/
structure ProviderMetadata where
  schemaVersion : String := "1"
  sourceObjectType : Option String := none
  fields : Dict := []

/-- A JSON text or `null`. -/
def jsonText : Option String → Json
  | some text => .string text
  | none => .null

def ProviderMetadata.modelDump (contract : ProviderMetadata) : Dict :=
  [("schema_version", .string contract.schemaVersion),
    ("source_object_type", jsonText contract.sourceObjectType),
    ("fields", .object contract.fields)]

/-- A category that was derived for a transaction.  The confidence is kept as
the text of the number. -/
structure CategorySuggestion where
  value : String
  source : String
  confidence : Option String := none
  taxonomy : Option String := none

def CategorySuggestion.modelDump (suggestion : CategorySuggestion) : Dict :=
  [("value", .string suggestion.value),
    ("source", .string suggestion.source),
    ("confidence", match suggestion.confidence with
      | some number => .number number
      | none => .null),
    ("taxonomy", jsonText suggestion.taxonomy)]

/-! ## Records -/

/-- Relation to one or more provider object revisions. -/
structure SourceReference where
  objectType : String
  externalIds : List String := []
  providerRevisions : List String := []

structure TransactionSplitData where
  amount : Decimal
  currencyCode : String
  percentage : Option Decimal := none
  categorySuggestion : Option CategorySuggestion := none
  destination : Option String := none
  provenance : String := "user"

structure TransactionAnnotationData where
  annotationType : String
  contentHash : Option String := none
  mimeType : Option String := none
  safeReference : Option String := none
  owner : Option String := none
  retentionUntil : Option AwareDatetime := none
  destinationReference : Option String := none

/-- Normalised, provider-agnostic account ready for upsert. -/
structure CanonicalAccountData where
  providerKey : String
  externalAccountId : String
  name : String
  accountType : String
  accountSubtype : Option String := none
  currencyCode : String := "EUR"
  currentBalance : Option Decimal := none
  availableBalance : Option Decimal := none
  netAssetValue : Option Decimal := none
  isoCurrencyCode : Option String := none
  providerMetadata : Option Dict := none
  capabilities : Option (List (String × Bool)) := none
  isActive : Bool := true

/-- `getattr(account, field, None)` -/
def CanonicalAccountData.getattr (account : CanonicalAccountData) : Attributes
  | .name => some (.text account.name)
  | .accountType => some (.text account.accountType)
  | .accountSubtype => account.accountSubtype.map .text
  | .currencyCode => some (.text account.currencyCode)
  | .currentBalance => account.currentBalance.map .decimal
  | .availableBalance => account.availableBalance.map .decimal
  | .netAssetValue => account.netAssetValue.map .decimal
  | .isoCurrencyCode => account.isoCurrencyCode.map .text
  | .providerMetadata => account.providerMetadata.map .dict
  | .capabilities => account.capabilities.map fun flags =>
      .dict (flags.map fun (name, enabled) => (name, .bool enabled))
  | .isActive => some (.boolean account.isActive)
  | _ => none

/-- Normalised, provider-agnostic transaction ready for upsert. -/
structure CanonicalTransactionData where
  providerKey : String
  externalTransactionId : String
  providerMetadata : Option Dict := none
  amount : Decimal
  currencyCode : String := "EUR"
  occurredAt : AwareDatetime
  bookedAt : Option AwareDatetime := none
  transactionType : String
  description : Option String := none
  quantity : Option Decimal := none
  unitPrice : Option Decimal := none
  feeAmount : Option Decimal := none
  feeCurrencyCode : Option String := none
  status : String := "pending"
  amountInBase : Option Decimal := none
  baseCurrencyCode : Option String := none
  fxRate : Option Decimal := none
  providerFingerprint : Option String := none
  providerMetadataContract : Option ProviderMetadata := none
  merchantName : Option String := none
  merchantId : Option String := none
  merchantCity : Option String := none
  merchantCountry : Option String := none
  counterpartyName : Option String := none
  counterpartyAccountReference : Option String := none
  merchantCategoryCode : Option String := none
  originalType : Option String := none
  originalStatus : Option String := none
  authorizationStatus : Option String := none
  settlementStatus : Option String := none
  sourceRecordHash : Option String := none
  cashflowBucket : Option String := none
  cashflowSuggestion : Option CategorySuggestion := none
  classificationSource : Option String := none
  classificationOverride : Option String := none
  grossAmount : Option Decimal := none
  grossCurrencyCode : Option String := none
  netAmount : Option Decimal := none
  netCurrencyCode : Option String := none
  taxAmount : Option Decimal := none
  taxCurrencyCode : Option String := none
  refundAmount : Option Decimal := none
  refundCurrencyCode : Option String := none
  sourceReferences : List SourceReference := []
  splits : List TransactionSplitData := []
  annotations : List TransactionAnnotationData := []

/-- `getattr(transaction, field, None)`.  A canonical transaction has no
`export_status` and no `security_id`. -/
def CanonicalTransactionData.getattr (transaction : CanonicalTransactionData) : Attributes
  | .providerMetadata => transaction.providerMetadata.map .dict
  | .amount => some (.decimal transaction.amount)
  | .currencyCode => some (.text transaction.currencyCode)
  | .occurredAt => some (.datetime transaction.occurredAt)
  | .bookedAt => transaction.bookedAt.map .datetime
  | .transactionType => some (.text transaction.transactionType)
  | .description => transaction.description.map .text
  | .quantity => transaction.quantity.map .decimal
  | .unitPrice => transaction.unitPrice.map .decimal
  | .feeAmount => transaction.feeAmount.map .decimal
  | .feeCurrencyCode => transaction.feeCurrencyCode.map .text
  | .status => some (.text transaction.status)
  | .amountInBase => transaction.amountInBase.map .decimal
  | .baseCurrencyCode => transaction.baseCurrencyCode.map .text
  | .fxRate => transaction.fxRate.map .decimal
  | .providerFingerprint => transaction.providerFingerprint.map .text
  | .providerMetadataContract => transaction.providerMetadataContract.map (.model ·.modelDump)
  | .merchantName => transaction.merchantName.map .text
  | .merchantId => transaction.merchantId.map .text
  | .merchantCity => transaction.merchantCity.map .text
  | .merchantCountry => transaction.merchantCountry.map .text
  | .counterpartyName => transaction.counterpartyName.map .text
  | .counterpartyAccountReference => transaction.counterpartyAccountReference.map .text
  | .merchantCategoryCode => transaction.merchantCategoryCode.map .text
  | .originalType => transaction.originalType.map .text
  | .originalStatus => transaction.originalStatus.map .text
  | .authorizationStatus => transaction.authorizationStatus.map .text
  | .settlementStatus => transaction.settlementStatus.map .text
  | .sourceRecordHash => transaction.sourceRecordHash.map .text
  | .cashflowBucket => transaction.cashflowBucket.map .text
  | .cashflowSuggestion => transaction.cashflowSuggestion.map (.model ·.modelDump)
  | .classificationSource => transaction.classificationSource.map .text
  | .classificationOverride => transaction.classificationOverride.map .text
  | .grossAmount => transaction.grossAmount.map .decimal
  | .grossCurrencyCode => transaction.grossCurrencyCode.map .text
  | .netAmount => transaction.netAmount.map .decimal
  | .netCurrencyCode => transaction.netCurrencyCode.map .text
  | .taxAmount => transaction.taxAmount.map .decimal
  | .taxCurrencyCode => transaction.taxCurrencyCode.map .text
  | .refundAmount => transaction.refundAmount.map .decimal
  | .refundCurrencyCode => transaction.refundCurrencyCode.map .text
  | _ => none

/-- Normalised, provider-agnostic holding snapshot ready for upsert. -/
structure CanonicalHoldingData where
  providerKey : String
  observedAt : AwareDatetime
  source : String := "provider_sync"
  quantity : Decimal
  costBasis : Option Decimal := none
  costBasisCurrency : Option String := none
  marketValue : Option Decimal := none
  currencyCode : String := "EUR"
  price : Option Decimal := none
  priceCurrency : Option String := none

/-- The dict of values that are written for a holding. -/
def CanonicalHoldingData.getattr (holding : CanonicalHoldingData) : Attributes
  | .quantity => some (.decimal holding.quantity)
  | .costBasis => holding.costBasis.map .decimal
  | .costBasisCurrency => holding.costBasisCurrency.map .text
  | .marketValue => holding.marketValue.map .decimal
  | .currencyCode => some (.text holding.currencyCode)
  | .price => holding.price.map .decimal
  | .priceCurrency => holding.priceCurrency.map .text
  | _ => none

/-- Normalised, provider-agnostic scheduled payment ready for upsert. -/
structure CanonicalScheduledPaymentData where
  providerKey : String
  externalScheduleId : String
  amount : Decimal
  currencyCode : String := "EUR"
  frequency : String
  interval : Option Int := none
  nextExecutionDate : Option AwareDatetime := none
  endDate : Option AwareDatetime := none
  maxExecutions : Option Int := none
  executionCount : Int := 0
  counterpartyName : Option String := none
  counterpartyIban : Option String := none
  description : Option String := none
  status : String := "active"

/-- `getattr(csp, field, None)` -/
def CanonicalScheduledPaymentData.getattr (csp : CanonicalScheduledPaymentData) : Attributes
  | .amount => some (.decimal csp.amount)
  | .currencyCode => some (.text csp.currencyCode)
  | .frequency => some (.text csp.frequency)
  | .interval => csp.interval.map .integer
  | .nextExecutionDate => csp.nextExecutionDate.map .datetime
  | .endDate => csp.endDate.map .datetime
  | .maxExecutions => csp.maxExecutions.map .integer
  | .executionCount => some (.integer csp.executionCount)
  | .counterpartyName => csp.counterpartyName.map .text
  | .counterpartyIban => csp.counterpartyIban.map .text
  | .description => csp.description.map .text
  | .status => some (.text csp.status)
  | _ => none

/-- Normalised, provider-agnostic card transaction ready for upsert. -/
structure CanonicalCardTransactionData where
  providerKey : String
  externalCardTransactionId : String
  amount : Decimal
  currencyCode : String := "EUR"
  merchantName : Option String := none
  merchantCity : Option String := none
  merchantCountry : Option String := none
  mcc : Option String := none
  cardId : Option String := none
  cardType : Option String := none
  cardLastFour : Option String := none
  occurredAt : AwareDatetime
  bookedAt : Option AwareDatetime := none
  authorizationType : String := "authorization"
  description : Option String := none
  status : String := "pending"
  providerMetadata : Option Dict := none
  providerMetadataContract : Option ProviderMetadata := none
  merchantId : Option String := none
  merchantCategoryCode : Option String := none
  originalStatus : Option String := none
  authorizationStatus : Option String := none
  settlementStatus : Option String := none
  sourceRecordHash : Option String := none
  refundAmount : Option Decimal := none
  refundCurrencyCode : Option String := none

/-- `getattr(cct, field, None)` -/
def CanonicalCardTransactionData.getattr (cct : CanonicalCardTransactionData) : Attributes
  | .amount => some (.decimal cct.amount)
  | .currencyCode => some (.text cct.currencyCode)
  | .merchantName => cct.merchantName.map .text
  | .merchantCity => cct.merchantCity.map .text
  | .merchantCountry => cct.merchantCountry.map .text
  | .mcc => cct.mcc.map .text
  | .cardId => cct.cardId.map .text
  | .cardType => cct.cardType.map .text
  | .cardLastFour => cct.cardLastFour.map .text
  | .occurredAt => some (.datetime cct.occurredAt)
  | .bookedAt => cct.bookedAt.map .datetime
  | .authorizationType => some (.text cct.authorizationType)
  | .description => cct.description.map .text
  | .status => some (.text cct.status)
  | .providerMetadata => cct.providerMetadata.map .dict
  | .providerMetadataContract => cct.providerMetadataContract.map (.model ·.modelDump)
  | .merchantId => cct.merchantId.map .text
  | .merchantCategoryCode => cct.merchantCategoryCode.map .text
  | .originalStatus => cct.originalStatus.map .text
  | .authorizationStatus => cct.authorizationStatus.map .text
  | .settlementStatus => cct.settlementStatus.map .text
  | .sourceRecordHash => cct.sourceRecordHash.map .text
  | .refundAmount => cct.refundAmount.map .decimal
  | .refundCurrencyCode => cct.refundCurrencyCode.map .text
  | _ => none

end FinanceSync.Persistence
