import FinanceSync.Auth.ApiKeys

/-!
# What an API key gets

A key should get what its row grants it and no more.  The expiry of the row is not
looked at, two keys of one prefix shut each other out, and a guard by role lets
every key pass.
-/

namespace FinanceSync.Auth

open Lib

/-! ## Authentication -/

/-- The row is not past its expiry. -/
def ApiKey.Unexpired (row : ApiKey) (now : Instant) : Prop :=
  ∀ expiresAt ∈ row.expiresAt, now ≤ expiresAt

/-- No other active key has the prefix of the row. -/
def AloneInPrefix (keys : List ApiKey) (row : ApiKey) : Prop :=
  (keys.filter fun other => other.keyPrefix = row.keyPrefix && other.isActive) = [row]

theorem AloneInPrefix.isActive {keys : List ApiKey} {row : ApiKey}
    (alone : AloneInPrefix keys row) : row ∈ keys ∧ row.isActive := by
  have isMem : row ∈ keys.filter fun other =>
      other.keyPrefix = row.keyPrefix && other.isActive := by
    rw [alone]
    exact List.mem_singleton_self row
  rw [List.mem_filter, Bool.and_eq_true] at isMem
  exact ⟨isMem.1, isMem.2.2⟩

/-- Whom a request is authenticated as. -/
theorem getCurrentApiKey_eq_some_iff {keys : List ApiKey} {header : String} {row : ApiKey} :
    getCurrentApiKey keys (some header) = .ok (some row) ↔
      AloneInPrefix keys row ∧ row.rawKey = header := by
  simp only [getCurrentApiKey]
  constructor
  · intro authenticated
    split at authenticated
    · cases authenticated
    · next other found =>
        split at authenticated
        · next raw =>
            simp only [Except.ok.injEq, Option.some_inj] at authenticated
            rw [← authenticated]
            exact ⟨by rw [AloneInPrefix, ApiKey.keyPrefix, raw]; exact found, raw⟩
        · cases authenticated
    · cases authenticated
  · intro both
    have found := both.1
    rw [AloneInPrefix, ApiKey.keyPrefix, both.2] at found
    simp only [found, both.2, if_true]

/-- The rows that a request is authenticated as are those that it should be,
exactly if each active row of the raw key is past its expiry just where it shares
its prefix. -/
theorem authenticates_iff (keys : List ApiKey) (header : String) (now : Instant) :
    (∀ row ∈ keys, getCurrentApiKey keys (some header) = .ok (some row) ↔
        row.isActive ∧ row.Unexpired now ∧ row.rawKey = header) ↔
      ∀ row ∈ keys, row.isActive → row.rawKey = header →
        (row.Unexpired now ↔ AloneInPrefix keys row) := by
  constructor
  · intro exact row isMem active raw
    have asRow := exact row isMem
    rw [getCurrentApiKey_eq_some_iff] at asRow
    constructor
    · intro unexpired
      exact (asRow.mpr ⟨active, unexpired, raw⟩).1
    · intro alone
      exact (asRow.mp ⟨alone, raw⟩).2.1
  · intro condition row isMem
    rw [getCurrentApiKey_eq_some_iff]
    constructor
    · intro both
      have active := both.1.isActive.2
      exact ⟨active, (condition row isMem active both.2).mpr both.1, both.2⟩
    · intro all
      exact ⟨(condition row isMem all.1 all.2.2).mp all.2.1, all.2.2⟩

/-! ## Guards -/

/-- The permissions of the row. -/
def ApiKey.granted (row : ApiKey) : List String := (row.permissions.map splitWords).getD []

/-- A guard by permission admits the keys that hold the permission. -/
theorem requirePermission_apiKey_iff (row : ApiKey) (resource action : String) :
    requirePermission resource action (.apiKey row) = .ok (.apiKey row) ↔
      "*:*" ∈ row.granted ∨ resource ++ ":*" ∈ row.granted ∨
        resource ++ ":" ++ action ∈ row.granted := by
  have permitted : apiKeyHasPermission row.permissions resource action ↔
      "*:*" ∈ row.granted ∨ resource ++ ":*" ∈ row.granted ∨
        resource ++ ":" ++ action ∈ row.granted := by
    rw [ApiKey.granted]
    cases row.permissions with
    | none => simp [apiKeyHasPermission]
    | some permissions =>
        simp only [apiKeyHasPermission, List.any_eq_true, Bool.or_eq_true, decide_eq_true_eq,
          Option.map_some, Option.getD_some]
        constructor
        · intro held
          rcases held with ⟨permission, isMem, (all | exactly) | resource⟩
          · exact .inl (all ▸ isMem)
          · exact .inr (.inr (exactly ▸ isMem))
          · exact .inr (.inl (resource ▸ isMem))
        · intro held
          rcases held with all | resource | exactly
          · exact ⟨_, all, .inl (.inl rfl)⟩
          · exact ⟨_, resource, .inr rfl⟩
          · exact ⟨_, exactly, .inl (.inr rfl)⟩
  rw [← permitted]
  simp only [requirePermission]
  split
  · next held => simp [held]
  · next held => simp [held]

/-- A request with the header, at a guard by role. -/
def admitAdmin (keys : List ApiKey) (header : String) : Except RequestError AuthContext := do
  let apiKey ← getCurrentApiKey keys (some header)
  let auth ← getAuthContext none apiKey
  requireRole ["admin"] auth

/-- A guard by role lets in whatever key authenticates. -/
theorem admitAdmin_iff {keys : List ApiKey} {header : String} {auth : AuthContext} :
    admitAdmin keys header = .ok auth ↔
      ∃ row, auth = .apiKey row ∧ AloneInPrefix keys row ∧ row.rawKey = header := by
  simp only [← getCurrentApiKey_eq_some_iff, admitAdmin]
  cases getCurrentApiKey keys (some header) with
  | error error => simp [bind, Except.bind]
  | ok apiKey =>
      cases apiKey with
      | none => simp [bind, Except.bind, getAuthContext]
      | some row => simp [bind, Except.bind, getAuthContext, requireRole, eq_comm]

/-- A guard by role admits only keys with all permissions exactly if the rows that
the header authenticates have them. -/
theorem admitAdmin_granted_iff (keys : List ApiKey) (header : String) :
    (∀ row, admitAdmin keys header = .ok (.apiKey row) → "*:*" ∈ row.granted) ↔
      ∀ row ∈ keys, row.isActive → row.rawKey = header → AloneInPrefix keys row →
        "*:*" ∈ row.granted := by
  constructor
  · intro admitted row _ _ raw alone
    exact admitted row (admitAdmin_iff.mpr ⟨row, rfl, alone, raw⟩)
  · intro granted row admitted
    rcases admitAdmin_iff.mp admitted with ⟨same, context, alone, raw⟩
    rw [AuthContext.apiKey.injEq] at context
    rw [context]
    exact granted same alone.isActive.1 alone.isActive.2 raw alone

/-! ## Runs of requests -/

namespace Tables

/-- No key was revoked, and no consumer and no grant were created. -/
def Untouched (start tables : Tables) : Prop :=
  tables.apiKeys.map (fun row => (row.id, row.isActive)) =
      start.apiKeys.map (fun row => (row.id, row.isActive)) ∧
    tables.consumers = start.consumers ∧ tables.grants = start.grants

/-- The tenant has an active key with the identifier. -/
def hasActiveKey (tables : Tables) (tenantId keyId : Uuid) : Bool :=
  tables.apiKeys.any fun row => row.id = keyId && row.tenantId = tenantId && row.isActive

/-- The route is guarded by a permission, or refuses what the key asks for. -/
def routeLeavesAlone (tables : Tables) (row : ApiKey) : Route → Bool
  | .guarded _ _ => true
  | .deleteApiKey keyId => !tables.hasActiveKey row.tenantId keyId
  | .createConsumer body => (tables.consumerRefusal row.tenantId body).isSome
  | .createGrant body => (tables.grantRefusal row.tenantId body).isSome

/-- The request does not authenticate, or its route leaves the tables alone. -/
def leavesAlone (tables : Tables) (request : Request) : Bool :=
  match getCurrentApiKey tables.apiKeys request.xApiKey with
  | .ok (some row) => tables.routeLeavesAlone row request.route
  | _ => true

variable {start tables : Tables}

theorem touch_untouched (untouched : start.Untouched tables) (row : ApiKey) (now : Instant) :
    start.Untouched (tables.touch row now) := by
  apply And.intro _ untouched.2
  rw [← untouched.1, touch, List.map_map]
  apply List.map_congr_left
  intro other _
  simp only [Function.comp_apply]
  split
  · rfl
  · rfl

/-- What a use of a key leaves as it is. -/
theorem any_touch (row : ApiKey) (now : Instant) {condition : ApiKey → Bool}
    (same : ∀ other : ApiKey, condition { other with lastUsedAt := some now } = condition other) :
    (tables.touch row now).apiKeys.any condition = tables.apiKeys.any condition := by
  simp only [touch, List.any_map]
  congr 1
  funext other
  simp only [Function.comp_apply]
  split
  · exact same other
  · rfl

@[simp] theorem hasKey_touch (row : ApiKey) (now : Instant) (tenantId keyId : Uuid) :
    (tables.touch row now).hasKey tenantId keyId = tables.hasKey tenantId keyId :=
  any_touch row now fun _ => rfl

@[simp] theorem hasActiveKey_touch (row : ApiKey) (now : Instant) (tenantId keyId : Uuid) :
    (tables.touch row now).hasActiveKey tenantId keyId = tables.hasActiveKey tenantId keyId :=
  any_touch row now fun _ => rfl

@[simp] theorem consumerRefusal_touch (row : ApiKey) (now : Instant) (tenantId : Uuid)
    (body : ConsumerCreate) :
    (tables.touch row now).consumerRefusal tenantId body =
      tables.consumerRefusal tenantId body := by
  simp only [consumerRefusal, hasKey_touch]
  rfl

@[simp] theorem grantRefusal_touch (row : ApiKey) (now : Instant) (tenantId : Uuid)
    (body : GrantCreate) :
    (tables.touch row now).grantRefusal tenantId body = tables.grantRefusal tenantId body := rfl

/-- A key is revoked exactly if it was active. -/
theorem revoke_untouched_iff (untouched : start.Untouched tables) (tenantId keyId : Uuid) :
    start.Untouched (tables.revoke tenantId keyId) ↔ !tables.hasActiveKey tenantId keyId := by
  have others : start.Untouched (tables.revoke tenantId keyId) ↔
      (tables.revoke tenantId keyId).apiKeys.map (fun row => (row.id, row.isActive)) =
        tables.apiKeys.map (fun row => (row.id, row.isActive)) := by
    rw [Untouched, untouched.1]
    exact and_iff_left untouched.2
  rw [others, revoke, List.map_map, List.map_inj_left]
  simp only [Function.comp_apply, hasActiveKey, Bool.not_eq_true', List.any_eq_false]
  constructor
  · intro same row isMem active
    have unchanged := same row isMem
    simp only [Bool.and_eq_true] at active
    simp [active.1, active.2] at unchanged
  · intro inactive row isMem
    have notActive := inactive row isMem
    split
    · next own =>
        rw [own, Bool.true_and, Bool.not_eq_true] at notActive
        rw [notActive]
    · rfl

@[simp] theorem routeLeavesAlone_touch (user row : ApiKey) (now : Instant) (route : Route) :
    (tables.touch user now).routeLeavesAlone row route = tables.routeLeavesAlone row route := by
  cases route <;> simp [routeLeavesAlone]

/-- A route on tables where nothing was revoked or created yet. -/
theorem runRoute_untouched_iff {before : Tables} (beforeUntouched : start.Untouched before)
    (untouched : start.Untouched tables) (row : ApiKey) (route : Route) :
    start.Untouched (before.committed (tables.runRoute (.apiKey row) route)) ↔
      tables.routeLeavesAlone row route := by
  cases route with
  | guarded resource action =>
      apply iff_of_true _ rfl
      simp only [runRoute, bind, Except.bind, requirePermission]
      split
      · exact beforeUntouched
      · exact untouched
  | deleteApiKey keyId =>
      have admitted : tables.runRoute (.apiKey row) (.deleteApiKey keyId) =
          tables.deleteApiKey row.tenantId keyId := rfl
      rw [admitted, deleteApiKey, routeLeavesAlone]
      cases owned : tables.hasKey row.tenantId keyId with
      | true => exact revoke_untouched_iff untouched row.tenantId keyId
      | false =>
          apply iff_of_true beforeUntouched
          simp only [hasKey, List.any_eq_false] at owned
          simp only [hasActiveKey, Bool.not_eq_true', List.any_eq_false]
          intro other isMem active
          rw [Bool.and_eq_true] at active
          exact owned other isMem active.1
  | createConsumer body =>
      have admitted : tables.runRoute (.apiKey row) (.createConsumer body) =
          tables.createConsumer row.tenantId body := rfl
      rw [admitted, createConsumer, routeLeavesAlone]
      cases tables.consumerRefusal row.tenantId body with
      | some error => exact iff_of_true beforeUntouched rfl
      | none => simp [Untouched, committed, untouched.2.1]
  | createGrant body =>
      have admitted : tables.runRoute (.apiKey row) (.createGrant body) =
          tables.createGrant row.tenantId body := rfl
      rw [admitted, createGrant, routeLeavesAlone]
      cases tables.grantRefusal row.tenantId body with
      | some error => exact iff_of_true beforeUntouched rfl
      | none => simp [Untouched, committed, untouched.2.2]

theorem serve_untouched_iff (untouched : start.Untouched tables) (request : Request) :
    start.Untouched (tables.serve request) ↔ tables.leavesAlone request := by
  simp only [serve, handle, leavesAlone]
  cases getCurrentApiKey tables.apiKeys request.xApiKey with
  | error error => exact iff_of_true untouched rfl
  | ok apiKey =>
      cases apiKey with
      | none => exact iff_of_true untouched rfl
      | some row =>
          have touched := touch_untouched untouched row request.now
          have route := runRoute_untouched_iff untouched touched row request.route
          rwa [routeLeavesAlone_touch] at route

/-- In every state of a run of requests nothing was revoked or created, exactly if
each request fails to authenticate, goes to a route guarded by a permission, or is
refused by its route. -/
theorem run_untouched_iff (start : Tables) (requests : List Request) :
    (∀ before after, requests = before ++ after → start.Untouched (runAll serve start before)) ↔
      Along serve (fun tables request => tables.leavesAlone request) start requests := by
  have keeps : ∀ tables request, True → start.Untouched tables →
      (start.Untouched (serve tables request) ↔ leavesAlone tables request) :=
    fun _ request _ untouched => serve_untouched_iff untouched request
  exact reached_iff_kept (fun _ _ _ => trivial) keeps requests trivial ⟨rfl, rfl, rfl⟩

end Tables

/-- A key that may read transactions, and that expired at the instant 0. -/
def reader : ApiKey where
  id := 1
  tenantId := 1
  userId := 1
  name := "reader"
  rawKey := "fs_reader"
  permissions := some "transactions:read"
  expiresAt := some 0

end FinanceSync.Auth
