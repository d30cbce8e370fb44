import FinanceSync.Data.Values
import FinanceSync.Lib.Run
import Mathlib.Logic.Function.Basic

/-!
# Refresh tokens

A login issues a refresh token, and a refresh exchanges it for a new one: it reads
the row of the token, and later updates it by its identifier.  Each request is a
transaction that ends with a commit where its handler returns, and with a rollback
where it raises.
-/

namespace FinanceSync.Auth

abbrev Jti := Nat

/-- The payload of a signed token. -/
structure RefreshJwt where
  sub : Uuid
  tenantId : Uuid
  jti : Jti
  exp : Instant
  isRefresh : Bool := true
deriving DecidableEq

/-- One issued refresh token.  Its hash is that of the token, which stands for it. -/
structure RefreshToken where
  userId : Uuid
  tenantId : Uuid
  jti : Jti
  tokenHash : RefreshJwt
  expiresAt : Instant
  revokedAt : Option Instant := none
  replacedByJti : Option Jti := none
deriving DecidableEq

structure Owner where
  tenantId : Uuid
  isActive : Bool := true

/-- The rows of `refresh_tokens`, which are unique by `jti`. -/
abbrev TokenRows := Jti → Option RefreshToken

/-- The request fails with 401 and a text. -/
structure Unauthorized where
  detail : String
deriving DecidableEq

/-- A handler's session when the handler is done: its view of the rows, and the
exception where it raised one. -/
structure Handled where
  rows : TokenRows
  raised : Option Unauthorized

/-- `get_db`: commit what the handler wrote, or roll it back. -/
def getDb (before : TokenRows) (handled : Handled) : TokenRows :=
  match handled.raised with
  | none => handled.rows
  | some _ => before

/-- What a refresh finds out before it writes. -/
inductive Checked
  | refused (error : Unauthorized)
  /-- The row was revoked before: the token is presented again. -/
  | replayed (row : RefreshToken)
  | valid (row : RefreshToken) (user : Owner)

/-- The update in the branch for a token that is presented again. -/
def revokeAll (rows : TokenRows) (userId : Uuid) (now : Instant) : TokenRows := fun jti =>
  (rows jti).map fun row =>
    if row.userId = userId && row.revokedAt.isNone then { row with revokedAt := some now }
    else row

/-- An exchange between its checks and its commit. -/
structure Exchange where
  row : RefreshToken
  user : Owner
  now : Instant

structure AuthService where
  users : Uuid → Option Owner
  refreshTokens : TokenRows
  refreshing : Nat → Option Exchange
  nextJti : Jti
  /-- The exchanges that were answered so far: the old and the new token. -/
  exchanged : List (Jti × Jti)
  /-- The tokens that were live when a token of their user was presented again,
  and how often they had been exchanged. -/
  compromised : List (Jti × Nat)

namespace AuthService

def start (users : Uuid → Option Owner) : AuthService where
  users
  refreshTokens := fun _ => none
  refreshing := fun _ => none
  nextJti := 0
  exchanged := []
  compromised := []

variable (expireDays : Int) (service : AuthService)

/-- How often the token was exchanged. -/
def exchanges (jti : Jti) : Nat := service.exchanged.countP fun exchange => exchange.1 = jti

/-- The token and its row, as `create_refresh_token` and `_persist_refresh_token`
make them. -/
def issue (userId tenantId : Uuid) (now : Instant) : RefreshToken where
  userId
  tenantId
  jti := service.nextJti
  tokenHash :=
    { sub := userId
      tenantId
      jti := service.nextJti
      exp := now + Instant.days expireDays }
  expiresAt := now + Instant.days expireDays

/-- A login with the right password. -/
def login (userId : Uuid) (now : Instant) : AuthService :=
  match service.users userId with
  | some user =>
      if user.isActive then
        let row := issue expireDays service userId user.tenantId now
        { service with
          refreshTokens := Function.update service.refreshTokens row.jti (some row)
          nextJti := service.nextJti + 1 }
      else service
  | none => service

/-- The checks of `refresh`. -/
def check (token : RefreshJwt) (now : Instant) : Checked :=
  let invalid : Unauthorized := ⟨"Invalid or expired refresh token"⟩
  if token.exp ≤ now then .refused invalid
  else if !token.isRefresh then .refused ⟨"Token is not a refresh token"⟩
  else
    let found := (service.refreshTokens token.jti).filter fun row =>
      row.userId = token.sub && row.tenantId = token.tenantId
    match found with
    | none => .refused invalid
    | some row =>
        if row.revokedAt.isSome then .replayed row
        else if row.expiresAt ≤ now ∨ row.tokenHash ≠ token then .refused invalid
        else
          match service.users row.userId with
          | some user =>
              if user.isActive then .valid row user
              else .refused ⟨"User account is unavailable"⟩
          | none => .refused ⟨"User account is unavailable"⟩

/-- The tokens of the user that are live at the instant, of those issued so far. -/
def liveTokens (userId : Uuid) (now : Instant) : List Jti :=
  (List.range service.nextJti).filter fun jti =>
    (service.refreshTokens jti).any fun row =>
      row.userId = userId && row.revokedAt.isNone && now < row.expiresAt

/-- A session presents a token. -/
def present (session : Nat) (token : RefreshJwt) (now : Instant) : AuthService :=
  match service.refreshing session with
  | some _ => service
  | none =>
      match service.check token now with
      | .refused _ => service
      | .replayed row =>
          let handled : Handled :=
            { rows := revokeAll service.refreshTokens row.userId now
              raised := some ⟨"Invalid or expired refresh token"⟩ }
          { service with
            refreshTokens := getDb service.refreshTokens handled
            compromised := service.compromised ++
              (service.liveTokens row.userId now).map fun jti => (jti, service.exchanges jti) }
      | .valid row user =>
          { service with
            refreshing := Function.update service.refreshing session (some ⟨row, user, now⟩) }

/-- The rows that an exchange writes: the old one, by its identifier, and a new one. -/
def rotate (exchange : Exchange) : TokenRows :=
  let row := issue expireDays service exchange.row.userId exchange.user.tenantId exchange.now
  let revoked := Function.update service.refreshTokens exchange.row.jti
    ((service.refreshTokens exchange.row.jti).map fun old =>
      { old with
        revokedAt := some exchange.now
        replacedByJti := some row.jti })
  Function.update revoked row.jti (some row)

/-- A session writes its exchange and commits. -/
def finish (session : Nat) : AuthService :=
  match service.refreshing session with
  | some exchange =>
      let handled : Handled := { rows := service.rotate expireDays exchange, raised := none }
      { service with
        refreshTokens := getDb service.refreshTokens handled
        refreshing := Function.update service.refreshing session none
        nextJti := service.nextJti + 1
        exchanged := service.exchanged ++ [(exchange.row.jti, service.nextJti)] }
  | none => service

/-- A session goes away without a commit. -/
def disconnect (session : Nat) : AuthService :=
  { service with refreshing := Function.update service.refreshing session none }

inductive Step
  | login (userId : Uuid) (now : Instant)
  | present (session : Nat) (token : RefreshJwt) (now : Instant)
  | finish (session : Nat)
  | disconnect (session : Nat)

def step (expireDays : Int) (service : AuthService) : Step → AuthService
  | .login userId now => service.login expireDays userId now
  | .present session token now => service.present session token now
  | .finish session => service.finish expireDays session
  | .disconnect session => service.disconnect session

end AuthService

end FinanceSync.Auth
