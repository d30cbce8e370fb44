import FinanceSync.Lib.Table
import FinanceSync.Persistence.Canonical

/-!
# Stored entities and their change detection

An entity is a row as a session sees it: its id, its natural key and the
attributes that a sync writes.  The per-row paths compare attribute by
attribute in Python; the bulk path compares in SQL, with `COALESCE` for the
values that a provider left out.
-/

namespace FinanceSync.Persistence

open Lib

/-- The natural key of accounts, transactions, scheduled payments and card
transactions. -/
structure ProviderKey where
  tenantId : Uuid
  providerKey : String
  connectionId : Option Uuid
  externalId : String
deriving DecidableEq

/-- The natural key of a holding. -/
structure SnapshotKey where
  tenantId : Uuid
  accountId : Uuid
  securityId : Uuid
  observedAt : Instant
  source : HoldingSource
deriving DecidableEq

/-- A row; `rest` is what the row has besides the attributes that syncs write. -/
structure Entity (Key Rest : Type) where
  id : Uuid
  key : Key
  attributes : Attributes
  rest : Rest

/-- The rows of one model class. -/
abbrev Entities (Key Rest : Type) := Table (Entity Key Rest) Entity.id

variable {Key Rest : Type}

/-- What a write did with a row. -/
inductive Outcome
  | created (id : Uuid)
  | updated (id : Uuid)
  | unchanged (id : Uuid)
deriving DecidableEq

/-- The ids of the rows that were created, in order. -/
def insertedIds (outcomes : List Outcome) : List Uuid :=
  outcomes.filterMap fun
    | .created id => some id
    | _ => none

/-- The ids of the rows that were updated, in order. -/
def updatedIds (outcomes : List Outcome) : List Uuid :=
  outcomes.filterMap fun
    | .updated id => some id
    | _ => none

/-- Why a unit of work is aborted. -/
inductive PersistError
  /-- A value that has no JSON form was flushed into a JSON column. -/
  | notSerializable
  /-- The rows of one statement do not name the same columns. -/
  | unevenValues
  /-- One statement would update a row that it already wrote. -/
  | cardinalityViolation
  /-- The unique constraint on `outbox_messages.idempotency_key`. -/
  | duplicateKey
deriving DecidableEq

/-! ## Queries without an order -/

/-- What `LIMIT 1` without `ORDER BY` promises: some row of the result, and
one if there are any. -/
structure LimitOne where
  pick : {Row : Type} → List Row → Option Row
  mem : ∀ {Row : Type} {rows : List Row} {row : Row}, pick rows = some row → row ∈ rows
  isSome : ∀ {Row : Type} {rows : List Row}, rows ≠ [] → (pick rows).isSome

namespace LimitOne

/-- The first row. -/
def first : LimitOne where
  pick := List.head?
  mem := List.mem_of_mem_head?
  isSome := by
    intro Row rows nonempty
    rwa [List.isSome_head?]

@[simp] theorem pick_nil (limitOne : LimitOne) {Row : Type} :
    limitOne.pick ([] : List Row) = none := by
  cases picked : limitOne.pick ([] : List Row) with
  | none => rfl
  | some row => exact absurd (limitOne.mem picked) List.not_mem_nil

theorem pick_eq_none_iff (limitOne : LimitOne) {Row : Type} {rows : List Row} :
    limitOne.pick rows = none ↔ rows = [] := by
  constructor
  · intro nothing
    by_contra nonempty
    have := limitOne.isSome nonempty
    rw [nothing] at this
    exact Bool.noConfusion this
  · rintro rfl
    exact limitOne.pick_nil

end LimitOne

/-- The filters of `get_by_external_id`: the connection is one only if it is
given. -/
def ProviderKey.isFoundBy (stored wanted : ProviderKey) : Bool :=
  stored.tenantId = wanted.tenantId && stored.providerKey = wanted.providerKey &&
    stored.externalId = wanted.externalId &&
    (wanted.connectionId.isNone || stored.connectionId = wanted.connectionId)

/-- `get_by_external_id` of the repositories. -/
def getByExternalId (limitOne : LimitOne) (entities : Entities ProviderKey Rest)
    (wanted : ProviderKey) : Option (Entity ProviderKey Rest) :=
  limitOne.pick (entities.rows.filter fun entity => entity.key.isFoundBy wanted)

/-- `get_by_snapshot` -/
def getBySnapshot (limitOne : LimitOne) (entities : Entities SnapshotKey Rest)
    (wanted : SnapshotKey) : Option (Entity SnapshotKey Rest) :=
  limitOne.pick (entities.rows.filter fun entity => entity.key = wanted)

theorem mem_of_getByExternalId {limitOne : LimitOne} {entities : Entities ProviderKey Rest}
    {wanted : ProviderKey} {entity : Entity ProviderKey Rest}
    (found : getByExternalId limitOne entities wanted = some entity) :
    entity ∈ entities.rows ∧ entity.key.isFoundBy wanted = true := by
  exact List.mem_filter.mp (limitOne.mem found)

theorem mem_of_getBySnapshot {limitOne : LimitOne} {entities : Entities SnapshotKey Rest}
    {wanted : SnapshotKey} {entity : Entity SnapshotKey Rest}
    (found : getBySnapshot limitOne entities wanted = some entity) :
    entity ∈ entities.rows ∧ entity.key = wanted := by
  have := List.mem_filter.mp (limitOne.mem found)
  exact ⟨this.1, of_decide_eq_true this.2⟩

/-! ## Change detection in Python -/

/-- The fields that are given and differ from the stored ones. -/
def changedFields (fields : List Field) (new existing : Attributes) : List Field :=
  fields.filter fun field => (new field).isSome && valuesDiffer (new field) (existing field)

/-- `setattr` of the given fields. -/
def setFields (fields : List Field) (new existing : Attributes) : Attributes :=
  fun field => if field ∈ fields then new field else existing field

/-- Write the changed fields to an existing row. -/
def refresh (entities : Entities Key Rest) (existing : Entity Key Rest) (changed : List Field)
    (new : Attributes) : Entities Key Rest × Outcome :=
  if changed = [] then (entities, .unchanged existing.id)
  else
    (entities.save { existing with attributes := setFields changed new existing.attributes },
      .updated existing.id)

/-- Add a row with a fresh id. -/
def create (entities : Entities Key Rest) (key : Key) (attributes : Attributes) (rest : Rest) :
    Entities Key Rest × Outcome :=
  (entities.insert ⟨entities.next, key, attributes, rest⟩ rfl, .created entities.next)

/-- Write the changed fields to the row that was found, or else add a row. -/
def persistEntity (entities : Entities Key Rest) (found : Option (Entity Key Rest))
    (changed : Attributes → List Field) (new : Attributes) (key : Key) (fresh : Attributes)
    (rest : Rest) : Entities Key Rest × Outcome :=
  match found with
  | some existing => refresh entities existing (changed existing.attributes) new
  | none => create entities key fresh rest

/-! ## Loading -/

def Entity.reload (entity : Entity Key Rest) : Entity Key Rest :=
  { entity with attributes := fun field => (entity.attributes field).map PyValue.reload }

/-- The rows as a session sees them that did not write them. -/
def reload (entities : Entities Key Rest) : Entities Key Rest :=
  entities.update Entity.reload fun _ => rfl

@[simp] theorem next_reload (entities : Entities Key Rest) :
    (reload entities).next = entities.next := rfl

end FinanceSync.Persistence
