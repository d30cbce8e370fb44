import FinanceSync.Data.Values
import FinanceSync.Lib.Run

/-!
# API keys

A request with an `X-API-Key` header is authenticated by the prefix and the hash
of the key.  Routes are guarded by a permission, or by a role; of the latter there
are the administration of keys and of the datamarts.
-/

namespace FinanceSync.Auth

/-! ## Permissions -/

/-- `str.split()`: the words between runs of white space. -/
def splitWords (text : String) : List String :=
  ((text.toList.splitOnP isSpace).filter (· ≠ [])).map String.ofList

def rolePermissions : List (String × List String) :=
  [("admin", ["*:*"]),
    ("user",
      ["transactions:read", "transactions:write", "accounts:read", "accounts:write",
        "holdings:read", "balances:read", "securities:read", "securities:write", "sync:read",
        "sync:write", "webhooks:read", "webhooks:write", "webhooks:delete", "connectors:read",
        "connectors:write", "market-intelligence:read", "market-intelligence:write",
        "market-data:read", "enrichment:read"]),
    ("readonly",
      ["transactions:read", "accounts:read", "holdings:read", "balances:read",
        "securities:read", "sync:read", "webhooks:read", "market-intelligence:read",
        "market-data:read", "enrichment:read"]),
    ("viewer", ["transactions:read", "accounts:read", "balances:read"])]

def userHasPermission (role resource action : String) : Bool :=
  let permissions := (rolePermissions.lookup role).getD []
  "*:*" ∈ permissions || resource ++ ":" ++ action ∈ permissions ||
    resource ++ ":*" ∈ permissions

def apiKeyHasPermission (keyPermissions : Option String) (resource action : String) : Bool :=
  match keyPermissions with
  | none => false
  | some permissions =>
      (splitWords permissions).any fun permission =>
        permission = "*:*" || permission = resource ++ ":" ++ action ||
          permission = resource ++ ":*"

/-! ## Authentication -/

/-- A tenant-scoped API key.  Its hash is one of the raw key, which stands for it. -/
structure ApiKey where
  id : Uuid
  tenantId : Uuid
  userId : Uuid
  name : String
  rawKey : String
  permissions : Option String := none
  isActive : Bool := true
  lastUsedAt : Option Instant := none
  expiresAt : Option Instant := none
deriving DecidableEq

/-- The first eight characters of a raw key. -/
def prefixOf (rawKey : String) : String := String.ofList (rawKey.toList.take 8)

def ApiKey.keyPrefix (row : ApiKey) : String := prefixOf row.rawKey

structure User where
  id : Uuid
  tenantId : Uuid
  role : String
deriving DecidableEq

/-- How a request fails. -/
inductive RequestError
  | http (statusCode : Nat) (detail : String)
  /-- A query for one row found several. -/
  | multipleResultsFound
  /-- A constraint of the database is violated. -/
  | integrityError
deriving DecidableEq

def unauthorized (detail : String) : RequestError := .http 401 detail

def forbidden (detail : String) : RequestError := .http 403 detail

/-- `get_current_api_key`; the row that it returns was used at that instant. -/
def getCurrentApiKey (keys : List ApiKey) (xApiKey : Option String) :
    Except RequestError (Option ApiKey) :=
  match xApiKey with
  | none => .ok none
  | some header =>
      match keys.filter fun row => row.keyPrefix = prefixOf header && row.isActive with
      | [] => .error (unauthorized "Invalid API key")
      | [row] =>
          if row.rawKey = header then .ok (some row)
          else .error (unauthorized "Invalid API key")
      | _ => .error .multipleResultsFound

/-- A user or an API key. -/
inductive AuthContext
  | user (user : User)
  | apiKey (row : ApiKey)
deriving DecidableEq

def AuthContext.tenantId : AuthContext → Uuid
  | .user principal => principal.tenantId
  | .apiKey row => row.tenantId

def getAuthContext (user : Option User) (apiKey : Option ApiKey) :
    Except RequestError AuthContext :=
  match user, apiKey with
  | some user, _ => .ok (.user user)
  | none, some row => .ok (.apiKey row)
  | none, none => .error (unauthorized "No authentication provided")

/-! ## Guards -/

def requirePermission (resource action : String) (auth : AuthContext) :
    Except RequestError AuthContext :=
  let permitted := match auth with
    | .user user => userHasPermission user.role resource action
    | .apiKey row => apiKeyHasPermission row.permissions resource action
  if permitted then .ok auth
  else .error (forbidden ("Missing required permission: " ++ resource ++ ":" ++ action))

/-- `repr` of a tuple of names. -/
def reprRoles (roles : List String) : String :=
  "(" ++ ", ".intercalate (roles.map Json.quote) ++ (if roles.length = 1 then ",)" else ")")

def requireRole (allowedRoles : List String) (auth : AuthContext) :
    Except RequestError AuthContext :=
  match auth with
  | .user user =>
      if user.role ∈ allowedRoles then .ok auth
      else .error (forbidden ("Required one of roles " ++ reprRoles allowedRoles ++ ", got '" ++
        user.role ++ "'"))
  -- an API key has no role, and the check is skipped
  | .apiKey _ => .ok auth

/-! ## The routes of the administrator -/

structure Account where
  id : Uuid
  tenantId : Uuid
deriving DecidableEq

structure DataMart where
  id : Uuid
  tenantId : Uuid
  fields : List String
deriving DecidableEq

/-- A downstream tool, bound to at most one API key. -/
structure DataMartConsumer where
  id : Uuid
  tenantId : Uuid
  key : String
  displayName : String
  apiKeyId : Option Uuid
deriving DecidableEq

structure DataMartGrant where
  id : Uuid
  tenantId : Uuid
  consumerId : Uuid
  datamartId : Uuid
  householdScope : String
  allowedAccountIds : List Uuid
  allowedFields : List String
deriving DecidableEq

structure ConsumerCreate where
  key : String
  displayName : String
  apiKeyId : Option Uuid := none

structure GrantCreate where
  consumerId : Uuid
  datamartId : Uuid
  householdScope : String := "explicit"
  allowedAccountIds : List Uuid := []
  allowedFields : List String := []

structure Tables where
  apiKeys : List ApiKey
  accounts : List Account := []
  datamarts : List DataMart := []
  consumers : List DataMartConsumer := []
  grants : List DataMartGrant := []
  nextId : Uuid

namespace Tables

variable (tables : Tables)

/-- The key is one of the tenant's. -/
def hasKey (tenantId keyId : Uuid) : Bool :=
  tables.apiKeys.any fun row => row.id = keyId && row.tenantId = tenantId

/-- The key is no longer active. -/
def revoke (tenantId keyId : Uuid) : Tables :=
  { tables with
    apiKeys := tables.apiKeys.map fun row =>
      if row.id = keyId && row.tenantId = tenantId then { row with isActive := false } else row }

def deleteApiKey (tenantId keyId : Uuid) : Except RequestError Tables :=
  if tables.hasKey tenantId keyId then .ok (tables.revoke tenantId keyId)
  else .error (.http 404 "API key not found")

/-- Why a consumer is not created. -/
def consumerRefusal (tenantId : Uuid) (body : ConsumerCreate) : Option RequestError :=
  if tables.consumers.any fun consumer =>
      consumer.tenantId = tenantId && consumer.key = body.key then
    some (.http 409 "Consumer key already exists")
  else if body.apiKeyId.any fun keyId => !tables.hasKey tenantId keyId then
    some (.http 422 "API key does not belong to this tenant")
  else if body.apiKeyId.any fun keyId =>
      tables.consumers.any fun consumer => consumer.apiKeyId = some keyId then
    -- the key is bound to another consumer
    some .integrityError
  else none

def createConsumer (tenantId : Uuid) (body : ConsumerCreate) : Except RequestError Tables :=
  match tables.consumerRefusal tenantId body with
  | some error => .error error
  | none =>
      .ok { tables with
        consumers := tables.consumers ++
          [{ id := tables.nextId
             tenantId
             key := body.key
             displayName := body.displayName
             apiKeyId := body.apiKeyId }]
        nextId := tables.nextId + 1 }

/-- Why a grant is not created. -/
def grantRefusal (tenantId : Uuid) (body : GrantCreate) : Option RequestError :=
  match
    tables.consumers.find? fun consumer =>
      consumer.id = body.consumerId && consumer.tenantId = tenantId,
    tables.datamarts.find? fun mart => mart.id = body.datamartId && mart.tenantId = tenantId with
  | some consumer, some mart =>
      if tables.grants.any fun grant =>
          grant.consumerId = consumer.id && grant.datamartId = mart.id then
        some (.http 409 "Grant already exists")
      else if body.allowedFields.any fun field => field ∉ mart.fields then
        some (.http 422 "Grant fields must be a subset of datamart fields")
      else if body.allowedAccountIds ≠ [] ∧
          (tables.accounts.countP fun account =>
            account.tenantId = tenantId && account.id ∈ body.allowedAccountIds) ≠
            body.allowedAccountIds.length then
        some (.http 422 "An allowed account does not belong to this tenant")
      else none
  | _, _ => some (.http 404 "Consumer or datamart not found")

def createGrant (tenantId : Uuid) (body : GrantCreate) : Except RequestError Tables :=
  match tables.grantRefusal tenantId body with
  | some error => .error error
  | none =>
      .ok { tables with
        grants := tables.grants ++
          [{ id := tables.nextId
             tenantId
             consumerId := body.consumerId
             datamartId := body.datamartId
             householdScope := body.householdScope
             allowedAccountIds := body.allowedAccountIds
             allowedFields := body.allowedFields }]
        nextId := tables.nextId + 1 }

end Tables

/-! ## Requests -/

inductive Route
  /-- A route guarded by a permission, which leaves these tables alone. -/
  | guarded (resource action : String)
  | deleteApiKey (keyId : Uuid)
  | createConsumer (body : ConsumerCreate)
  | createGrant (body : GrantCreate)

/-- A request without a bearer token. -/
structure Request where
  xApiKey : Option String
  now : Instant
  route : Route

namespace Tables

/-- The key was used. -/
def touch (tables : Tables) (row : ApiKey) (now : Instant) : Tables :=
  { tables with
    apiKeys := tables.apiKeys.map fun other =>
      if other.id = row.id then { other with lastUsedAt := some now } else other }

def runRoute (tables : Tables) (auth : AuthContext) : Route → Except RequestError Tables
  | .guarded resource action => do
      let _ ← requirePermission resource action auth
      return tables
  | .deleteApiKey keyId => do
      let auth ← requireRole ["admin"] auth
      tables.deleteApiKey auth.tenantId keyId
  | .createConsumer body => do
      let auth ← requireRole ["admin"] auth
      tables.createConsumer auth.tenantId body
  | .createGrant body => do
      let auth ← requireRole ["admin"] auth
      tables.createGrant auth.tenantId body

def handle (tables : Tables) (request : Request) : Except RequestError Tables := do
  let apiKey ← getCurrentApiKey tables.apiKeys request.xApiKey
  let tables := match apiKey with
    | some row => tables.touch row request.now
    | none => tables
  let auth ← getAuthContext none apiKey
  tables.runRoute auth request.route

/-- The session commits what a request did, and rolls it back where it failed. -/
def committed (tables : Tables) : Except RequestError Tables → Tables
  | .ok after => after
  | .error _ => tables

def serve (tables : Tables) (request : Request) : Tables :=
  tables.committed (tables.handle request)

end Tables

end FinanceSync.Auth
