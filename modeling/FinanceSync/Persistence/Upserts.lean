import FinanceSync.Lib.Fallible
import FinanceSync.Persistence.Entities

/-!
# Bulk upserts

`INSERT ... ON CONFLICT DO UPDATE` with several rows.  An incoming `NULL` keeps
the stored value, and a row that no update column would change is neither
written nor returned.  A statement may not write a row a second time.
-/

namespace FinanceSync.Persistence

open Lib

variable {Key Rest : Type}

/-- `COALESCE(excluded.column, model.column)` -/
def coalesce (incoming existing : Option PyValue) : Option PyValue :=
  incoming.or existing

/-- The `WHERE` clause of `DO UPDATE`: some update column would change. -/
def updateFires (updateColumns : List Field) (incoming existing : Attributes) : Bool :=
  updateColumns.any fun column =>
    isDistinct (coalesce (incoming column) (existing column)) (existing column)

/-- The `SET` clause of `DO UPDATE`. -/
def updateSet (updateColumns : List Field) (incoming existing : Attributes) : Attributes :=
  fun column =>
    if column ∈ updateColumns then coalesce (incoming column) (existing column)
    else existing column

/-- The clauses of a statement for one model class: the columns it updates, what
a new row starts with, and what an update does to that. -/
structure UpsertStatement (Rest : Type) where
  updateColumns : List Field
  fresh : Rest
  bump : Rest → Rest

variable [DecidableEq Key]

/-- The row with the natural key. -/
def findByKey (entities : Entities Key Rest) (key : Key) : Option (Entity Key Rest) :=
  entities.rows.find? fun entity => entity.key = key

/-- The stored row after `DO UPDATE`. -/
def UpsertStatement.doUpdate (statement : UpsertStatement Rest) (incoming : Attributes)
    (existing : Entity Key Rest) : Entity Key Rest :=
  { existing with
    attributes := updateSet statement.updateColumns incoming existing.attributes
    rest := statement.bump existing.rest }

/-- One row of the statement.  `written` are the ids of the rows that the
statement wrote before. -/
def upsertRow (statement : UpsertStatement Rest) (entities : Entities Key Rest)
    (written : List Uuid) (key : Key) (incoming : Attributes) :
    Except PersistError (Entities Key Rest × Outcome) :=
  match findByKey entities key with
  | none => .ok (create entities key incoming statement.fresh)
  | some existing =>
      if existing.id ∈ written then .error .cardinalityViolation
      else if updateFires statement.updateColumns incoming existing.attributes then
        .ok (entities.save (statement.doUpdate incoming existing), .updated existing.id)
      else .ok (entities, .unchanged existing.id)

/-- The ids that an outcome says were written. -/
def Outcome.written : Outcome → List Uuid
  | .created id => [id]
  | .updated id => [id]
  | .unchanged _ => []

/-- One row of the statement, with the ids that were written so far. -/
def upsertStep (statement : UpsertStatement Rest) (state : Entities Key Rest × List Uuid)
    (row : Key × Attributes) :
    Except PersistError ((Entities Key Rest × List Uuid) × Outcome) := do
  let (entities, outcome) ← upsertRow statement state.1 state.2 row.1 row.2
  return ((entities, outcome.written ++ state.2), outcome)

/-- The rows of the statement one after the other. -/
def upsertRows (statement : UpsertStatement Rest) (entities : Entities Key Rest)
    (rows : List (Key × Attributes)) : Except PersistError (Entities Key Rest × List Outcome) := do
  let ((entities, _), outcomes) ← collect (upsertStep statement) (entities, []) rows
  return (entities, outcomes)

/-! ## Rows by natural key -/

theorem mem_of_findByKey {entities : Entities Key Rest} {key : Key} {entity : Entity Key Rest}
    (found : findByKey entities key = some entity) :
    entity ∈ entities.rows ∧ entity.key = key :=
  ⟨List.mem_of_find?_eq_some found, by simpa using List.find?_some found⟩

theorem id_lt_of_findByKey {entities : Entities Key Rest} {key : Key} {entity : Entity Key Rest}
    (found : findByKey entities key = some entity) : entity.id < entities.next :=
  entities.below entity (mem_of_findByKey found).1

/-- A new row is found by its key where none was. -/
theorem findByKey_create (entities : Entities Key Rest) (key : Key) (attributes : Attributes)
    (rest : Rest) (other : Key) :
    findByKey (create entities key attributes rest).1 other =
      (findByKey entities other).or
        (if key = other then some ⟨entities.next, key, attributes, rest⟩ else none) := by
  rw [findByKey, create, Table.rows_insert, List.find?_append]
  by_cases same : key = other
  · simp [findByKey, same]
  · simp [findByKey, same]

/-- Saving a row under its key changes what is found by that row only. -/
theorem findByKey_save {entities : Entities Key Rest} {stored : Entity Key Rest}
    (row : Entity Key Rest) (isMem : stored ∈ entities.rows) (sameId : row.id = stored.id)
    (sameKey : row.key = stored.key) (key : Key) :
    findByKey (entities.save row) key =
      (findByKey entities key).map fun entity => if entity.id = row.id then row else entity := by
  have keys : ∀ entity ∈ entities.rows,
      (if entity.id = row.id then row else entity).key = entity.key := by
    intro entity entityMem
    split
    · next same =>
        rw [entities.eq_of_key_eq entityMem isMem (same.trans sameId), sameKey]
    · rfl
  rw [findByKey, Table.save, List.find?_map]
  congr 1
  refine List.find?_congr fun entity entityMem => ?_
  simp [keys entity entityMem]

/-! ## What one row of a statement does -/

variable {statement : UpsertStatement Rest} {entities entities' : Entities Key Rest}
variable {written : List Uuid} {key : Key} {incoming : Attributes} {outcome : Outcome}

/-- What a row of a statement that is admitted can do. -/
inductive UpsertedRow (statement : UpsertStatement Rest) (entities : Entities Key Rest)
    (written : List Uuid) (key : Key) (incoming : Attributes) :
    Entities Key Rest → Outcome → Prop
  | created (absent : findByKey entities key = none) :
      UpsertedRow statement entities written key incoming
        (create entities key incoming statement.fresh).1 (.created entities.next)
  | updated (existing : Entity Key Rest) (found : findByKey entities key = some existing)
      (notWritten : existing.id ∉ written)
      (fires : updateFires statement.updateColumns incoming existing.attributes = true) :
      UpsertedRow statement entities written key incoming
        (entities.save (statement.doUpdate incoming existing)) (.updated existing.id)
  | unchanged (existing : Entity Key Rest) (found : findByKey entities key = some existing)
      (notWritten : existing.id ∉ written)
      (quiet : updateFires statement.updateColumns incoming existing.attributes = false) :
      UpsertedRow statement entities written key incoming entities (.unchanged existing.id)

theorem upsertRow_cases
    (upserted : upsertRow statement entities written key incoming = .ok (entities', outcome)) :
    UpsertedRow statement entities written key incoming entities' outcome := by
  unfold upsertRow at upserted
  split at upserted
  · next absent =>
      cases upserted
      exact .created absent
  · next existing found =>
      split at upserted
      · cases upserted
      · next notWritten =>
          split at upserted
          · next fires =>
              cases upserted
              exact .updated existing found notWritten fires
          · next quiet =>
              cases upserted
              exact .unchanged existing found notWritten (by simpa using quiet)

theorem upsertRow_error {error : PersistError}
    (failed : upsertRow statement entities written key incoming = .error error) :
    error = .cardinalityViolation := by
  unfold upsertRow at failed
  split at failed
  · cases failed
  · split at failed
    · cases failed
      rfl
    · split at failed
      · cases failed
      · cases failed

/-- A row of the statement is refused only where it found a written row. -/
theorem upsertRow_isOk_iff :
    (∃ result, upsertRow statement entities written key incoming = .ok result) ↔
      ∀ existing, findByKey entities key = some existing → existing.id ∉ written := by
  unfold upsertRow
  split
  · next absent => simp [absent]
  · next existing found =>
      constructor
      · rintro ⟨result, upserted⟩ other foundOther
        rw [found] at foundOther
        cases foundOther
        split at upserted
        · cases upserted
        · next notWritten => exact notWritten
      · intro untouched
        rw [if_neg (untouched existing found)]
        split
        · exact ⟨_, rfl⟩
        · exact ⟨_, rfl⟩

/-- A row of the statement leaves what is found under other keys. -/
theorem UpsertedRow.findByKey_of_ne
    (upserted : UpsertedRow statement entities written key incoming entities' outcome)
    {other : Key} (otherKey : key ≠ other) :
    findByKey entities' other = findByKey entities other := by
  cases upserted with
  | created absent => rw [findByKey_create, if_neg otherKey, Option.or_none]
  | updated existing found notWritten fires =>
      obtain ⟨isMem, sameKey⟩ := mem_of_findByKey found
      rw [findByKey_save (statement.doUpdate incoming existing) isMem rfl rfl]
      cases foundOther : findByKey entities other with
      | none => rfl
      | some entity =>
          rw [Option.map_some, if_neg]
          intro sameId
          obtain ⟨entityMem, entityKey⟩ := mem_of_findByKey foundOther
          have same : entity = existing := entities.eq_of_key_eq entityMem isMem sameId
          apply otherKey
          rw [← sameKey, ← same, entityKey]
  | unchanged existing found notWritten quiet => rfl

/-- A row of the statement that would find its key and change nothing. -/
def Idle (statement : UpsertStatement Rest) (entities : Entities Key Rest)
    (row : Key × Attributes) : Prop :=
  ∃ existing, findByKey entities row.1 = some existing ∧
    updateFires statement.updateColumns row.2 existing.attributes = false

/-- Unless it is idle, a row of the statement writes the row that is found under
its key from then on. -/
theorem UpsertedRow.idle_or_written
    (upserted : UpsertedRow statement entities written key incoming entities' outcome) :
    (entities' = entities ∧ Idle statement entities (key, incoming) ∧ outcome.written = []) ∨
      (¬ Idle statement entities (key, incoming) ∧
        ∃ row, findByKey entities' key = some row ∧ row.id ∈ outcome.written) := by
  cases upserted with
  | created absent =>
      right
      constructor
      · rintro ⟨existing, found, -⟩
        rw [absent] at found
        cases found
      · rw [findByKey_create, absent, if_pos rfl, Option.none_or]
        exact ⟨_, rfl, List.mem_singleton_self _⟩
  | updated existing found notWritten fires =>
      right
      constructor
      · rintro ⟨other, foundOther, idle⟩
        rw [found] at foundOther
        cases foundOther
        rw [idle] at fires
        cases fires
      · rw [findByKey_save (statement.doUpdate incoming existing) (mem_of_findByKey found).1 rfl
          rfl, found, Option.map_some]
        rw [if_pos (by rfl)]
        exact ⟨_, rfl, List.mem_singleton_self _⟩
  | unchanged existing found notWritten quiet =>
      left
      exact ⟨rfl, ⟨existing, found, quiet⟩, rfl⟩

/-- The row that is written was not written before. -/
theorem UpsertedRow.written_fresh
    (upserted : UpsertedRow statement entities written key incoming entities' outcome)
    {other : Key} {row : Entity Key Rest} (otherKey : key ≠ other)
    (found : findByKey entities other = some row) : row.id ∉ outcome.written := by
  obtain ⟨isMem, rowKey⟩ := mem_of_findByKey found
  cases upserted with
  | created absent =>
      intro same
      have := entities.below row isMem
      rw [List.mem_singleton.mp same] at this
      exact Nat.lt_irrefl _ this
  | updated existing foundExisting notWritten fires =>
      intro same
      obtain ⟨existingMem, existingKey⟩ := mem_of_findByKey foundExisting
      have sameRow : row = existing :=
        entities.eq_of_key_eq isMem existingMem (List.mem_singleton.mp same)
      apply otherKey
      rw [← existingKey, ← sameRow, rowKey]
  | unchanged existing foundExisting notWritten quiet => exact List.not_mem_nil

/-! ## Whole statements -/

/-- The rows of a statement with a common key are idle but for the last one. -/
def WritesOnce (statement : UpsertStatement Rest) (entities : Entities Key Rest)
    (rows : List (Key × Attributes)) : Prop :=
  rows.Pairwise fun first second => first.1 = second.1 → Idle statement entities first

theorem upsertStep_ok {state next : Entities Key Rest × List Uuid} {row : Key × Attributes} :
    upsertStep statement state row = .ok (next, outcome) ↔
      upsertRow statement state.1 state.2 row.1 row.2 = .ok (next.1, outcome) ∧
        next.2 = outcome.written ++ state.2 := by
  rw [upsertStep, bind_eq_ok]
  constructor
  · rintro ⟨⟨entities', outcome'⟩, upserted, returned⟩
    cases returned
    exact ⟨upserted, rfl⟩
  · obtain ⟨entities', ids⟩ := next
    rintro ⟨upserted, sameIds⟩
    cases sameIds
    exact ⟨(entities', outcome), upserted, rfl⟩

theorem writesOnce_congr {rows : List (Key × Attributes)}
    (same : ∀ row ∈ rows, findByKey entities' row.1 = findByKey entities row.1)
    (once : WritesOnce statement entities rows) : WritesOnce statement entities' rows := by
  apply once.imp_of_mem
  intro first second firstMem _ idle sameKey
  obtain ⟨existing, found, quiet⟩ := idle sameKey
  exact ⟨existing, by rw [same first firstMem, found], quiet⟩

/-- If no later row finds what a row of the statement wrote, then they all find
what was there before. -/
theorem UpsertedRow.frame {rows : List (Key × Attributes)}
    (did : UpsertedRow statement entities written key incoming entities' outcome)
    (untouched : ∀ other ∈ rows, ∀ existing, findByKey entities' other.1 = some existing →
      existing.id ∉ outcome.written) :
    ∀ other ∈ rows, findByKey entities' other.1 = findByKey entities other.1 := by
  intro other otherMem
  rcases did.idle_or_written with ⟨same, -, -⟩ | ⟨-, own, ownFound, ownId⟩
  · rw [same]
  · apply did.findByKey_of_ne
    intro sameKey
    exact untouched other otherMem own (sameKey ▸ ownFound) ownId

/-- The rows of a statement that are still to come are admitted exactly if they
find no written row and write none twice. -/
theorem collect_upsertStep_isOk_iff (statement : UpsertStatement Rest)
    (rows : List (Key × Attributes)) :
    ∀ state : Entities Key Rest × List Uuid,
      (∃ result, collect (upsertStep statement) state rows = .ok result) ↔
        (∀ row ∈ rows, ∀ existing, findByKey state.1 row.1 = some existing →
          existing.id ∉ state.2) ∧
        WritesOnce statement state.1 rows := by
  induction rows with
  | nil => simp [WritesOnce]
  | cons row rows ih =>
      intro state
      rw [collect_cons_isOk_iff, List.forall_mem_cons]
      constructor
      · rintro ⟨next, outcome, stepped, restOk⟩
        obtain ⟨upserted, nextIds⟩ := upsertStep_ok.mp stepped
        obtain ⟨restUntouched, restOnce⟩ := (ih next).mp restOk
        simp only [nextIds, List.mem_append, not_or] at restUntouched
        have did := upsertRow_cases upserted
        have frame := did.frame fun other otherMem existing found =>
          (restUntouched other otherMem existing found).1
        refine ⟨⟨upsertRow_isOk_iff.mp ⟨_, upserted⟩, ?_⟩, List.pairwise_cons.mpr ⟨?_, ?_⟩⟩
        · intro other otherMem existing found
          rw [← frame other otherMem] at found
          exact (restUntouched other otherMem existing found).2
        · -- A later row with the key of the head would find the row just written.
          intro other otherMem sameKey
          rcases did.idle_or_written with ⟨-, idle, -⟩ | ⟨-, own, ownFound, ownId⟩
          · exact idle
          · exact absurd ownId (restUntouched other otherMem own (sameKey ▸ ownFound)).1
        · exact writesOnce_congr (fun other otherMem => (frame other otherMem).symm) restOnce
      · rintro ⟨⟨headUntouched, restUntouched⟩, once⟩
        obtain ⟨headOnce, restOnce⟩ := List.pairwise_cons.mp once
        obtain ⟨⟨entities', outcome⟩, upserted⟩ := upsertRow_isOk_iff.mpr headUntouched
        refine ⟨(entities', outcome.written ++ state.2), outcome,
          upsertStep_ok.mpr ⟨upserted, rfl⟩, (ih _).mpr ?_⟩
        have did := upsertRow_cases upserted
        rcases did.idle_or_written with ⟨same, -, nothing⟩ | ⟨notIdle, -⟩
        · subst same
          rw [nothing, List.nil_append]
          exact ⟨restUntouched, restOnce⟩
        · have others : ∀ other ∈ rows, row.1 ≠ other.1 :=
            fun other otherMem same => notIdle (headOnce other otherMem same)
          have frame : ∀ other ∈ rows,
              findByKey entities' other.1 = findByKey state.1 other.1 :=
            fun other otherMem => did.findByKey_of_ne (others other otherMem)
          refine ⟨?_, writesOnce_congr frame restOnce⟩
          intro other otherMem existing found isWritten
          rw [frame other otherMem] at found
          rcases List.mem_append.mp isWritten with now | before
          · exact did.written_fresh (others other otherMem) found now
          · exact restUntouched other otherMem existing found before

/-- The updated rows are pairwise different, and they are those that were stored
before and that some row of the statement changes. -/
theorem collect_updatedIds (rows : List (Key × Attributes)) :
    ∀ {state last : Entities Key Rest × List Uuid} {outcomes : List Outcome},
      collect (upsertStep statement) state rows = .ok (last, outcomes) →
        (updatedIds outcomes).Nodup ∧
        ∀ id, id ∈ updatedIds outcomes ↔
          ∃ row ∈ rows, ∃ existing, findByKey state.1 row.1 = some existing ∧
            updateFires statement.updateColumns row.2 existing.attributes = true ∧
            existing.id = id := by
  induction rows with
  | nil =>
      intro state last outcomes collected
      cases collected
      simp [updatedIds]
  | cons row rows ih =>
      intro state last outcomes collected
      obtain ⟨⟨entities', ids⟩, outcome, others, stepped, restCollected, rfl⟩ :=
        collect_cons_ok.mp collected
      obtain ⟨restNodup, restUpdated⟩ := ih restCollected
      obtain ⟨upserted, nextIds⟩ := upsertStep_ok.mp stepped
      dsimp only at nextIds
      have restUntouched := ((collect_upsertStep_isOk_iff statement rows _).mp ⟨_, restCollected⟩).1
      simp only [nextIds, List.mem_append, not_or] at restUntouched
      have did := upsertRow_cases upserted
      have frame := did.frame fun other otherMem existing found =>
        (restUntouched other otherMem existing found).1
      have restBefore : ∀ id, id ∈ updatedIds others ↔
          ∃ other ∈ rows, ∃ existing, findByKey state.1 other.1 = some existing ∧
            updateFires statement.updateColumns other.2 existing.attributes = true ∧
            existing.id = id := by
        intro id
        rw [restUpdated]
        constructor
        · rintro ⟨other, otherMem, existing, found, fires⟩
          exact ⟨other, otherMem, existing, by rw [← frame other otherMem, found], fires⟩
        · rintro ⟨other, otherMem, existing, found, fires⟩
          exact ⟨other, otherMem, existing, by rw [frame other otherMem, found], fires⟩
      simp only [List.exists_mem_cons_iff, ← restBefore]
      cases did with
      | created absent =>
          refine ⟨restNodup, fun id => ?_⟩
          simp [updatedIds, absent]
      | updated existing found notWritten fires =>
          refine ⟨List.nodup_cons.mpr ⟨?_, restNodup⟩, fun id => ?_⟩
          · intro again
            obtain ⟨other, otherMem, stored, foundStored, -, sameId⟩ := (restUpdated _).mp again
            apply (restUntouched other otherMem stored foundStored).1
            rw [sameId]
            exact List.mem_singleton_self _
          · constructor
            · intro isMem
              rcases List.mem_cons.mp isMem with rfl | later
              · exact .inl ⟨existing, found, fires, rfl⟩
              · exact .inr later
            · rintro (⟨stored, foundStored, -, rfl⟩ | later)
              · rw [found] at foundStored
                cases foundStored
                exact List.mem_cons_self
              · exact List.mem_cons_of_mem _ later
      | unchanged existing found notWritten quiet =>
          refine ⟨restNodup, fun id => ?_⟩
          simp [updatedIds, found, quiet]

/-- A statement is admitted exactly if it writes no row twice. -/
theorem upsertRows_isOk_iff {rows : List (Key × Attributes)} :
    (∃ result, upsertRows statement entities rows = .ok result) ↔
      WritesOnce statement entities rows := by
  have collected := collect_upsertStep_isOk_iff statement rows (entities, [])
  simp only [List.not_mem_nil, not_false_eq_true, implies_true, true_and] at collected
  rw [← collected]
  constructor
  · rintro ⟨result, upserted⟩
    obtain ⟨last, ok, -⟩ := bind_eq_ok.mp upserted
    exact ⟨last, ok⟩
  · rintro ⟨⟨⟨last, ids⟩, outcomes⟩, ok⟩
    exact ⟨(last, outcomes), bind_eq_ok.mpr ⟨_, ok, rfl⟩⟩

/-- The rows that a statement updates are pairwise different, and they are those
that some row of the statement changes. -/
theorem updatedIds_upsertRows {rows : List (Key × Attributes)} {outcomes : List Outcome}
    (upserted : upsertRows statement entities rows = .ok (entities', outcomes)) :
    (updatedIds outcomes).Nodup ∧
      ∀ id, id ∈ updatedIds outcomes ↔
        ∃ row ∈ rows, ∃ existing, findByKey entities row.1 = some existing ∧
          updateFires statement.updateColumns row.2 existing.attributes = true ∧
          existing.id = id := by
  obtain ⟨⟨last, collected⟩, ok, returned⟩ := bind_eq_ok.mp upserted
  cases returned
  exact collect_updatedIds rows ok

/-- A row of a statement that finds no written row does what it does alone. -/
theorem upsertRow_alone
    (untouched : ∀ existing, findByKey entities key = some existing → existing.id ∉ written) :
    upsertRow statement entities written key incoming =
      upsertRow statement entities [] key incoming := by
  unfold upsertRow
  split
  · rfl
  · next existing found =>
      rw [if_neg (untouched existing found), if_neg List.not_mem_nil]

/-- The rows of a statement one after the other, each on its own. -/
def upsertEach (statement : UpsertStatement Rest) (entities : Entities Key Rest)
    (row : Key × Attributes) : Except PersistError (Entities Key Rest × Outcome) :=
  upsertRow statement entities [] row.1 row.2

theorem collect_upsertStep_eq (rows : List (Key × Attributes)) :
    ∀ {entities : Entities Key Rest} {written : List Uuid},
      rows.Pairwise (fun first second => first.1 ≠ second.1) →
      (∀ row ∈ rows, ∀ existing, findByKey entities row.1 = some existing →
        existing.id ∉ written) →
      (collect (upsertStep statement) (entities, written) rows).map
          (fun (last, outcomes) => (last.1, outcomes)) =
        collect (upsertEach statement) entities rows := by
  induction rows with
  | nil => intro entities written _ _; rfl
  | cons row rows ih =>
      intro entities written distinct untouched
      obtain ⟨apart, distinctRest⟩ := List.pairwise_cons.mp distinct
      rw [List.forall_mem_cons] at untouched
      have alone : upsertEach statement entities row =
          upsertRow statement entities written row.1 row.2 := (upsertRow_alone untouched.1).symm
      cases upserted : upsertRow statement entities written row.1 row.2 with
      | error error =>
          have failed : upsertStep statement (entities, written) row = .error error :=
            bind_eq_error.mpr (.inl upserted)
          rw [collect, collect, failed, alone, upserted]
          rfl
      | ok result =>
          obtain ⟨entities', outcome⟩ := result
          have did := upsertRow_cases upserted
          have restUntouched : ∀ later ∈ rows, ∀ existing,
              findByKey entities' later.1 = some existing →
              existing.id ∉ outcome.written ++ written := by
            intro later laterMem existing found
            rw [did.findByKey_of_ne (apart later laterMem)] at found
            rw [List.mem_append, not_or]
            exact ⟨did.written_fresh (apart later laterMem) found,
              untouched.2 later laterMem existing found⟩
          have stepped : upsertStep statement (entities, written) row =
              .ok ((entities', outcome.written ++ written), outcome) :=
            upsertStep_ok.mpr ⟨upserted, rfl⟩
          rw [collect, collect, stepped, alone, upserted]
          dsimp only
          rw [← ih distinctRest restUntouched]
          cases collect (upsertStep statement) (entities', outcome.written ++ written) rows with
          | error error => rfl
          | ok collected => rfl

/-- A statement whose rows have different keys does what its rows do one after
the other. -/
theorem upsertRows_eq_collect {rows : List (Key × Attributes)}
    (distinct : rows.Pairwise fun first second => first.1 ≠ second.1) :
    upsertRows statement entities rows = collect (upsertEach statement) entities rows := by
  rw [← collect_upsertStep_eq rows distinct fun _ _ _ _ => List.not_mem_nil, upsertRows]
  cases collect (upsertStep statement) (entities, []) rows with
  | error error => rfl
  | ok collected => rfl

/-- A statement fails only by writing a row twice. -/
theorem upsertRows_error {rows : List (Key × Attributes)} {error : PersistError}
    (failed : upsertRows statement entities rows = .error error) :
    error = .cardinalityViolation := by
  rcases bind_eq_error.mp failed with failed | ⟨_, -, failed⟩
  · apply collect_error (fun error => error = .cardinalityViolation) ?_ rows failed
    intro state row error failed
    rcases bind_eq_error.mp failed with failed | ⟨_, -, failed⟩
    · exact upsertRow_error failed
    · cases failed
  · cases failed

end FinanceSync.Persistence
