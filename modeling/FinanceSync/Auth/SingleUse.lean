import FinanceSync.Auth.RefreshTokens

/-!
# Refresh tokens are used once

Each token should be exchanged once, and the tokens of a user be revoked when an
exchanged one is presented again.  Two exchanges of one token can pass the check
before either writes; and the revocations are rolled back with the request that
the exception ends.
-/

namespace FinanceSync.Auth

open Lib

namespace AuthService

variable {expireDays : Int} {service : AuthService}

/-- The row of the token is there, and revoked. -/
def isRevoked (service : AuthService) (jti : Jti) : Bool :=
  (service.refreshTokens jti).any (·.revokedAt.isSome)

/-- No token was exchanged twice. -/
def SingleUse (service : AuthService) : Prop := ∀ jti, service.exchanges jti ≤ 1

/-- The tokens that were live when a token of their user was presented again are
revoked, and were not exchanged since. -/
def ReplayPunished (service : AuthService) : Prop :=
  ∀ entry ∈ service.compromised,
    service.isRevoked entry.1 ∧ service.exchanges entry.1 = entry.2

/-- An exchange commits only while its token is not revoked, and a revoked token is
presented only when no token of its user is live. -/
def undisputed (service : AuthService) : Step → Bool
  | .finish session =>
      (service.refreshing session).all fun exchange => !service.isRevoked exchange.row.jti
  | .present session token now =>
      (service.refreshing session).isSome ||
        match service.check token now with
        | .replayed row => service.liveTokens row.userId now = []
        | _ => true
  | _ => true

/-! ## The invariant -/

structure Sound (service : AuthService) : Prop where
  fresh : ∀ jti, service.nextJti ≤ jti → service.refreshTokens jti = none
  keyed : ∀ jti row, service.refreshTokens jti = some row → row.jti = jti
  revoked_iff : ∀ jti, service.isRevoked jti ↔ 0 < service.exchanges jti
  underWay : ∀ session exchange, service.refreshing session = some exchange →
    exchange.row.jti < service.nextJti ∧
      (service.refreshTokens exchange.row.jti).isSome

theorem start_sound (users : Uuid → Option Owner) : (start users).Sound where
  fresh := fun _ _ => rfl
  keyed := by
    intro jti row stored
    cases stored
  revoked_iff := by
    intro jti
    simp [isRevoked, exchanges, start]
  underWay := by
    intro session exchange present
    cases present

theorem Sound.lt_of_stored (sound : service.Sound) {jti : Jti}
    (stored : (service.refreshTokens jti).isSome) : jti < service.nextJti := by
  by_contra notIssued
  simp [sound.fresh jti (Nat.not_lt.mp notIssued)] at stored

/-- A row that passes the checks is stored. -/
theorem stored_of_check {token : RefreshJwt} {now : Instant} {row : RefreshToken} {user : Owner}
    (valid : service.check token now = .valid row user) :
    service.refreshTokens token.jti = some row := by
  simp only [check] at valid
  split at valid
  · cases valid
  · split at valid
    · cases valid
    · split at valid
      · cases valid
      · next found =>
          have stored := (Option.filter_eq_some_iff.mp found).1
          split at valid
          · cases valid
          · split at valid
            · cases valid
            · split at valid
              · split at valid
                · rw [Checked.valid.injEq] at valid
                  rw [stored, valid.1]
                · cases valid
              · cases valid

/-! ## The steps -/

theorem Sound.insert (sound : service.Sound) {row : RefreshToken}
    (own : row.jti = service.nextJti) (live : row.revokedAt = none) :
    { service with
      refreshTokens := Function.update service.refreshTokens row.jti (some row)
      nextJti := service.nextJti + 1 }.Sound where
  fresh := by
    intro jti notIssued
    have other : jti ≠ row.jti := by rw [own]; exact (Nat.lt_of_succ_le notIssued).ne'
    simp [other, sound.fresh jti (Nat.le_of_succ_le notIssued)]
  keyed := by
    intro jti stored present
    by_cases new : jti = row.jti
    · simp only [new, Function.update_self, Option.some_inj] at present
      rw [new, present]
    · exact sound.keyed jti stored (by simpa [new] using present)
  revoked_iff := by
    intro jti
    apply Iff.trans _ (sound.revoked_iff jti)
    by_cases new : jti = row.jti
    · have absent := sound.fresh jti (by rw [new, own])
      simp [isRevoked, new, live, new ▸ absent]
    · simp [isRevoked, new]
  underWay := by
    intro session exchange present
    have before := sound.underWay session exchange present
    apply And.intro (Nat.lt_succ_of_lt before.1)
    have other : exchange.row.jti ≠ row.jti := by rw [own]; exact before.1.ne
    simpa [other] using before.2

theorem Sound.after_login (sound : service.Sound) (userId : Uuid) (now : Instant) :
    (service.login expireDays userId now).Sound := by
  simp only [login]
  split
  · split
    · exact sound.insert rfl rfl
    · exact sound
  · exact sound

theorem Sound.after_present (sound : service.Sound) (session : Nat) (token : RefreshJwt)
    (now : Instant) : (service.present session token now).Sound := by
  simp only [present]
  split
  · exact sound
  · split
    · exact sound
    · exact ⟨sound.fresh, sound.keyed, sound.revoked_iff, sound.underWay⟩
    · next row user valid =>
        have stored := stored_of_check valid
        have own := sound.keyed token.jti row stored
        refine ⟨sound.fresh, sound.keyed, sound.revoked_iff, ?_⟩
        intro other exchange underWay
        by_cases same : other = session
        · simp only [same, Function.update_self, Option.some_inj] at underWay
          rw [← underWay]
          have present : (service.refreshTokens row.jti).isSome := by rw [own, stored]; rfl
          exact ⟨sound.lt_of_stored present, present⟩
        · exact sound.underWay other exchange (by simpa [same] using underWay)

/-- An exchange revokes its token. -/
theorem finish_isRevoked {session : Nat} {exchange : Exchange} (sound : service.Sound)
    (present : service.refreshing session = some exchange) (jti : Jti) :
    (service.finish expireDays session).isRevoked jti ↔
      service.isRevoked jti ∨ jti = exchange.row.jti := by
  have underWay := sound.underWay session exchange present
  simp only [isRevoked, finish, present, getDb, rotate, issue]
  by_cases new : jti = service.nextJti
  · have absent := sound.fresh jti new.ge
    have ne : jti ≠ exchange.row.jti := by rw [new]; exact underWay.1.ne'
    rw [new] at absent ne ⊢
    simp [absent, ne]
  · by_cases own : jti = exchange.row.jti
    · rw [own] at new ⊢
      rcases Option.isSome_iff_exists.mp underWay.2 with ⟨row, stored⟩
      simp [new, stored]
    · simp [new, own]

theorem finish_exchanges {session : Nat} {exchange : Exchange}
    (present : service.refreshing session = some exchange) (jti : Jti) :
    (service.finish expireDays session).exchanges jti =
      service.exchanges jti + if jti = exchange.row.jti then 1 else 0 := by
  simp [exchanges, finish, present, List.countP_singleton, eq_comm]

theorem Sound.after_finish (sound : service.Sound) (session : Nat) :
    (service.finish expireDays session).Sound := by
  cases present : service.refreshing session with
  | none => simpa [finish, present] using sound
  | some exchange =>
      have underWay := sound.underWay session exchange present
      have next : (service.finish expireDays session).nextJti = service.nextJti + 1 := by
        simp [finish, present]
      constructor
      · intro jti notIssued
        rw [next] at notIssued
        have new : jti ≠ service.nextJti := (Nat.lt_of_succ_le notIssued).ne'
        have absent := sound.fresh jti (Nat.le_of_succ_le notIssued)
        by_cases own : jti = exchange.row.jti
        · rw [own] at new absent
          simp [absent] at underWay
        · simp [finish, present, getDb, rotate, issue, new, own, absent]
      · intro jti row stored
        simp only [finish, present, getDb, rotate, issue] at stored
        by_cases new : jti = service.nextJti
        · simp only [new, Function.update_self, Option.some_inj] at stored
          rw [← stored, new]
        · by_cases own : jti = exchange.row.jti
          · rw [Function.update_of_ne new, own, Function.update_self, Option.map_eq_some_iff]
              at stored
            rcases stored with ⟨before, row, rfl⟩
            rw [own]
            exact sound.keyed exchange.row.jti before row
          · exact sound.keyed jti row (by simpa [new, own] using stored)
      · intro jti
        rw [finish_isRevoked sound present, finish_exchanges present, sound.revoked_iff]
        split <;> simp [*]
      · intro other later laterUnderWay
        have before : service.refreshing other = some later := by
          by_cases same : other = session
          · simp [finish, present, same] at laterUnderWay
          · simpa [finish, present, same] using laterUnderWay
        have issued := sound.underWay other later before
        rw [next]
        apply And.intro (Nat.lt_succ_of_lt issued.1)
        have new : later.row.jti ≠ service.nextJti := issued.1.ne
        by_cases own : later.row.jti = exchange.row.jti
        · rw [own] at new
          simp [finish, present, getDb, rotate, issue, new, own, underWay.2]
        · simp [finish, present, getDb, rotate, issue, new, own, issued.2]

theorem step_sound (sound : service.Sound) (input : Step) :
    (step expireDays service input).Sound := by
  cases input with
  | login userId now => exact sound.after_login userId now
  | present session token now => exact sound.after_present session token now
  | finish session => exact sound.after_finish session
  | disconnect session =>
      refine ⟨sound.fresh, sound.keyed, sound.revoked_iff, ?_⟩
      intro other exchange underWay
      by_cases same : other = session
      · simp [step, disconnect, same] at underWay
      · exact sound.underWay other exchange (by simpa [step, disconnect, same] using underWay)

/-! ## Single use and replays -/

/-- No token was exchanged twice, and those compromised by a replay are revoked. -/
def Good (service : AuthService) : Prop := service.SingleUse ∧ service.ReplayPunished

/-- The exchanges say all about it. -/
theorem Sound.good_iff (sound : service.Sound) : service.Good ↔
    service.SingleUse ∧ ∀ entry ∈ service.compromised,
      0 < service.exchanges entry.1 ∧ service.exchanges entry.1 = entry.2 := by
  simp only [Good, ReplayPunished, sound.revoked_iff]

/-- A step without an exchange or a replay. -/
theorem Sound.good_congr (sound : service.Sound) {after : AuthService} (afterSound : after.Sound)
    (exchanged : after.exchanged = service.exchanged)
    (compromised : after.compromised = service.compromised) : after.Good ↔ service.Good := by
  simp only [sound.good_iff, afterSound.good_iff, SingleUse, exchanges, exchanged, compromised]

theorem login_history (userId : Uuid) (now : Instant) :
    (service.login expireDays userId now).exchanged = service.exchanged ∧
      (service.login expireDays userId now).compromised = service.compromised := by
  simp only [login]
  split
  · split
    · exact ⟨rfl, rfl⟩
    · exact ⟨rfl, rfl⟩
  · exact ⟨rfl, rfl⟩

theorem exchanges_of_live (sound : service.Sound) {userId : Uuid} {now : Instant} {jti : Jti}
    (live : jti ∈ service.liveTokens userId now) : service.exchanges jti = 0 := by
  have notRevoked : ¬ service.isRevoked jti := by
    simp only [liveTokens, List.mem_filter] at live
    cases stored : service.refreshTokens jti with
    | none => simp [isRevoked, stored]
    | some row =>
        simp only [stored, Option.any_some, Bool.and_eq_true, Option.isNone_iff_eq_none] at live
        simp [isRevoked, stored, live.2.1.2]
  rw [sound.revoked_iff] at notRevoked
  exact Nat.eq_zero_of_not_pos notRevoked

/-- A revoked token is presented. -/
theorem good_replayed_iff (sound : service.Sound) (good : service.Good) {session : Nat}
    {token : RefreshJwt} {now : Instant} {row : RefreshToken}
    (idle : service.refreshing session = none)
    (replayed : service.check token now = .replayed row) :
    (service.present session token now).Good ↔ service.liveTokens row.userId now = [] := by
  have after := sound.after_present session token now
  rw [after.good_iff]
  rw [sound.good_iff] at good
  simp only [present, idle, replayed, SingleUse, exchanges] at good ⊢
  constructor
  · intro punished
    rw [List.eq_nil_iff_forall_not_mem]
    intro jti live
    have entry := (punished.2 (jti, service.exchanges jti)
      (List.mem_append_right _ (List.mem_map_of_mem live))).1
    exact absurd (exchanges_of_live sound live) entry.ne'
  · intro none
    rw [none, List.map_nil, List.append_nil]
    exact good

/-- An exchange commits. -/
theorem good_finish_iff (sound : service.Sound) (good : service.Good) {session : Nat}
    {exchange : Exchange} (underWay : service.refreshing session = some exchange) :
    (service.finish expireDays session).Good ↔ service.isRevoked exchange.row.jti = false := by
  have after : (service.finish expireDays session).Sound := sound.after_finish session
  rw [after.good_iff, ← Bool.not_eq_true, sound.revoked_iff]
  rw [sound.good_iff] at good
  have compromised : (service.finish expireDays session).compromised = service.compromised := by
    simp [finish, underWay]
  simp only [SingleUse, compromised, finish_exchanges underWay]
  constructor
  · intro both exchanged
    have once := both.1 exchange.row.jti
    rw [if_pos rfl] at once
    omega
  · intro notExchanged
    constructor
    · intro jti
      split
      · next own =>
          rw [own]
          omega
      · exact good.1 jti
    · intro entry isMem
      have punished := good.2 entry isMem
      have other : entry.1 ≠ exchange.row.jti := by
        intro own
        rw [own] at punished
        exact notExchanged punished.1
      rw [if_neg other]
      exact punished

theorem step_good_iff (sound : service.Sound) (good : service.Good) (input : Step) :
    (step expireDays service input).Good ↔ service.undisputed input := by
  cases input with
  | login userId now =>
      apply iff_of_true _ rfl
      have after : (service.login expireDays userId now).Sound := sound.after_login userId now
      apply (sound.good_congr after _ _).mpr good
      · exact (login_history userId now).1
      · exact (login_history userId now).2
  | present session token now =>
      simp only [step, undisputed]
      cases idle : service.refreshing session with
      | some exchange =>
          apply iff_of_true _ rfl
          simpa [present, idle] using good
      | none =>
          have after := sound.after_present session token now
          cases checked : service.check token now with
          | refused error =>
              apply iff_of_true _ rfl
              simpa [present, idle, checked] using good
          | replayed row =>
              rw [good_replayed_iff sound good idle checked]
              simp
          | valid row user =>
              apply iff_of_true _ rfl
              apply (sound.good_congr after _ _).mpr good
              · simp [present, idle, checked]
              · simp [present, idle, checked]
  | finish session =>
      simp only [step, undisputed]
      cases underWay : service.refreshing session with
      | none =>
          apply iff_of_true _ rfl
          simpa [finish, underWay] using good
      | some exchange =>
          rw [good_finish_iff sound good underWay]
          simp
  | disconnect session =>
      apply iff_of_true _ rfl
      have after : (step expireDays service (.disconnect session)).Sound := step_sound sound _
      exact (sound.good_congr after rfl rfl).mpr good

/-- In every state of a run each token was exchanged at most once, and the tokens
that were live at a replay are revoked and not exchanged any more, exactly if every
exchange commits while its token is not revoked, and no replay finds a live token. -/
theorem refreshTokens_singleUse_iff (expireDays : Int) (users : Uuid → Option Owner)
    (steps : List Step) :
    (∀ before after, steps = before ++ after →
        (runAll (step expireDays) (start users) before).SingleUse ∧
          (runAll (step expireDays) (start users) before).ReplayPunished) ↔
      Along (step expireDays) (fun service input => service.undisputed input) (start users)
        steps := by
  have preserved : ∀ service input, Sound service → Sound (step expireDays service input) :=
    fun _ input sound => step_sound sound input
  have keeps : ∀ service input, Sound service → Good service →
      (Good (step expireDays service input) ↔ undisputed service input) :=
    fun _ input sound good => step_good_iff sound good input
  have empty : (start users).Good :=
    ⟨fun _ => Nat.zero_le 1, fun entry isMem => by cases isMem⟩
  exact reached_iff_kept preserved keeps steps (start_sound users) empty

/-- The token that the first login gives to user 1, for seven days. -/
def firstToken : RefreshJwt where
  sub := 1
  tenantId := 1
  jti := 0
  exp := 0 + Instant.days 7

/-- Two sessions exchange one token; and a replay leaves the tokens of its user
alive. -/
theorem token_exchanged_twice :
    (¬ ∀ expireDays users steps, (runAll (step expireDays) (start users) steps).SingleUse) ∧
      ¬ ∀ expireDays users steps,
        (runAll (step expireDays) (start users) steps).ReplayPunished := by
  constructor
  · intro singleUse
    have once := singleUse 7 (fun _ => some { tenantId := 1 })
      [.login 1 0, .present 1 firstToken 1, .present 2 firstToken 1, .finish 1, .finish 2] 0
    revert once
    decide +kernel
  · intro punished
    have revoked := (punished 7 (fun _ => some { tenantId := 1 })
      [.login 1 0, .present 1 firstToken 1, .finish 1, .present 1 firstToken 2] (1, 0)
      (by decide +kernel)).1
    revert revoked
    decide +kernel

end AuthService

end FinanceSync.Auth
