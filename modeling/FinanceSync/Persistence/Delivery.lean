import FinanceSync.Persistence.Outbox
import FinanceSync.Lib.Run
import Mathlib.Logic.Function.Basic

/-!
# Delivery of the outbox

Any number of publishers claim messages and hand them to the handlers.  A claim
expires by the clock while its publisher may still be at work, and the outcome
is written without a look at the claim.  What a handler does not succeed with is
`failed`, which no publisher claims again.
-/

namespace FinanceSync.Persistence

open Lib

/-! ## Messages that can be claimed -/

/-- From some instant on, every tick may claim the message. -/
def OutboxMessage.Eligible (message : OutboxMessage) : Prop :=
  ∃ since, ∀ now, since < now → message.claimable now

theorem OutboxMessage.eligible_of_pending {message : OutboxMessage}
    (pending : message.status = .pending) : message.Eligible := by
  refine ⟨0, ?_⟩
  intro now _
  simp [OutboxMessage.claimable, pending]

/-- A claim expires. -/
theorem OutboxMessage.eligible_claim (now : Instant) (message : OutboxMessage) :
    (message.claim now).Eligible := by
  refine ⟨now + claimTimeout, ?_⟩
  intro later expired
  have expired : now < later - claimTimeout := lt_sub_iff_add_lt.mpr expired
  simp [OutboxMessage.claimable, OutboxMessage.claim, expired]

/-- No tick claims a message that is sent or failed. -/
theorem OutboxMessage.not_claimable {message : OutboxMessage}
    (final : message.status = .sent ∨ message.status = .failed) (now : Instant) :
    message.claimable now = false := by
  rcases final with sent | failed
  · simp [OutboxMessage.claimable, sent]
  · simp [OutboxMessage.claimable, failed]

/-! ## Publishers over one outbox -/

structure Delivery where
  /-- The stored messages by id. -/
  outbox : Uuid → Option OutboxMessage
  /-- The messages of a tick that a publisher has not dispatched yet, as it has
  loaded them. -/
  claimed : Nat → List OutboxMessage
  /-- The id that the next message gets. -/
  nextMessage : Uuid

inductive DeliveryStep
  /-- A message is stored. -/
  | emit (draft : OutboxDraft)
  /-- A tick begins.  Which of the claimable messages it takes (the oldest, no
  more than the batch size, none that is locked) is left open. -/
  | claim (publisher : Nat) (now : Instant) (ids : List Uuid)
  /-- The handlers are through with the next message of the tick; `errors` are the
  tracebacks of those that failed. -/
  | dispatch (publisher : Nat) (now : Instant) (errors : List String)
  /-- The publisher dies, or the tick ends with an error of its own. -/
  | crash (publisher : Nat)

namespace Delivery

def start : Delivery where
  outbox := fun _ => none
  claimed := fun _ => []
  nextMessage := 0

/-- A publisher changes stored messages. -/
def update (delivery : Delivery) (step : PublisherStep) (publisher : Nat)
    (claimed : List OutboxMessage) : Delivery :=
  { delivery with
    outbox := fun id => (delivery.outbox id).map step.apply
    claimed := Function.update delivery.claimed publisher claimed }

/-- The messages that `_fetch_pending` returns. -/
def fetchPending (delivery : Delivery) (now : Instant) (ids : List Uuid) : List OutboxMessage :=
  ids.dedup.filterMap fun id =>
    ((delivery.outbox id).filter fun message => message.claimable now).map (OutboxMessage.claim now)

/-- One step; a step that a publisher is not in the position to take does
nothing. -/
def step (delivery : Delivery) : DeliveryStep → Delivery
  | .emit draft =>
      { delivery with
        outbox := Function.update delivery.outbox delivery.nextMessage
          (some { draft with id := delivery.nextMessage })
        nextMessage := delivery.nextMessage + 1 }
  | .claim publisher now ids =>
      match delivery.claimed publisher with
      | [] => delivery.update (.claim now ids) publisher (delivery.fetchPending now ids)
      | _ => delivery
  | .dispatch publisher now errors =>
      match delivery.claimed publisher with
      | message :: rest => delivery.update (.dispatch now message.id errors) publisher rest
      | [] => delivery
  | .crash publisher =>
      { delivery with claimed := Function.update delivery.claimed publisher [] }

/-- The message that the step writes an outcome for, and whether all handlers
succeeded. -/
def outcome (delivery : Delivery) : DeliveryStep → Option (Uuid × Bool)
  | .dispatch publisher _ errors =>
      (delivery.claimed publisher).head?.map fun message => (message.id, errors.isEmpty)
  | _ => none

/-- The publisher that writes an outcome still has the claim: the message is as
it was when the publisher claimed it. -/
def holdsClaim (delivery : Delivery) : DeliveryStep → Bool
  | .dispatch publisher _ _ =>
      (delivery.claimed publisher).head?.all fun message =>
        (delivery.outbox message.id).all fun stored =>
          stored.status = .processing ∧ stored.claimedAt = message.claimedAt
  | _ => true

/-! ## What holds in every reachable state -/

/-- The messages are stored under their ids. -/
def Keyed (delivery : Delivery) : Prop :=
  ∀ id message, delivery.outbox id = some message →
    message.id = id ∧ id < delivery.nextMessage

theorem update_keyed {delivery : Delivery} (keyed : delivery.Keyed) (step : PublisherStep)
    (publisher : Nat) (claimed : List OutboxMessage) :
    (delivery.update step publisher claimed).Keyed := by
  intro id message stored
  simp only [update, Option.map_eq_some_iff] at stored
  rcases stored with ⟨before, row, rfl⟩
  rw [PublisherStep.apply_id]
  exact keyed id before row

theorem step_keyed {delivery : Delivery} (keyed : delivery.Keyed) (input : DeliveryStep) :
    (delivery.step input).Keyed := by
  cases input with
  | emit draft =>
      intro id message stored
      by_cases new : id = delivery.nextMessage
      · simp only [step, new, Function.update_self, Option.some_inj] at stored
        simp [step, new, ← stored]
      · simp only [step, ne_eq, new, not_false_eq_true, Function.update_of_ne] at stored
        have before := keyed id message stored
        exact ⟨before.1, Nat.lt_succ_of_lt before.2⟩
  | claim publisher now ids =>
      simp only [step]
      split
      · exact update_keyed keyed _ _ _
      · exact keyed
  | dispatch publisher now errors =>
      simp only [step]
      split
      · exact update_keyed keyed _ _ _
      · exact keyed
  | crash publisher => exact keyed

/-- What a step can do to a stored message: nothing, a claim of one that can be
claimed, or an outcome. -/
theorem step_cases {delivery : Delivery} (keyed : delivery.Keyed) (input : DeliveryStep)
    {id : Uuid} {message : OutboxMessage} (stored : delivery.outbox id = some message) :
    ∃ later, (delivery.step input).outbox id = some later ∧
      (later = message ∨
        (∃ now, message.claimable now ∧ later = message.claim now) ∨
        ∃ publisher now errors, input = .dispatch publisher now errors ∧
          delivery.outcome input = some (id, errors.isEmpty) ∧
          later = message.dispatch now errors) := by
  have own := keyed id message stored
  cases input with
  | emit draft =>
      refine ⟨message, ?_, .inl rfl⟩
      have ne : id ≠ delivery.nextMessage := own.2.ne
      simp [step, ne, stored]
  | claim publisher now ids =>
      cases tick : delivery.claimed publisher with
      | nil =>
          refine ⟨(PublisherStep.claim now ids).apply message, by simp [step, tick, update, stored],
            ?_⟩
          rw [PublisherStep.apply]
          split
          · next claims => exact .inr (.inl ⟨now, claims.2, rfl⟩)
          · exact .inl rfl
      | cons first rest => exact ⟨message, by simp [step, tick, stored], .inl rfl⟩
  | dispatch publisher now errors =>
      cases tick : delivery.claimed publisher with
      | nil => exact ⟨message, by simp [step, tick, stored], .inl rfl⟩
      | cons first rest =>
          refine ⟨(PublisherStep.dispatch now first.id errors).apply message,
            by simp [step, tick, update, stored], ?_⟩
          rw [PublisherStep.apply]
          split
          · next same =>
              right
              right
              refine ⟨publisher, now, errors, rfl, ?_, rfl⟩
              simp [outcome, tick, ← same, own.1]
          · exact .inl rfl
  | crash publisher => exact ⟨message, stored, .inl rfl⟩

/-! ## What was sent stays sent -/

def SentKept (before after : Delivery) : Prop :=
  ∀ id message, before.outbox id = some message → message.status = .sent →
    ∃ later, after.outbox id = some later ∧ later.status = .sent

theorem step_sentKept {delivery : Delivery} (keyed : delivery.Keyed) (input : DeliveryStep)
    (holds : delivery.holdsClaim input) : SentKept delivery (delivery.step input) := by
  intro id message stored sent
  rcases step_cases keyed input stored with ⟨later, row, same | claims | writes⟩
  · exact ⟨later, row, by rw [same, sent]⟩
  · rcases claims with ⟨now, claimable, -⟩
    rw [OutboxMessage.not_claimable (.inl sent)] at claimable
    cases claimable
  · rcases writes with ⟨publisher, now, errors, rfl, outcome, -⟩
    simp only [Delivery.outcome, Option.map_eq_some_iff, Prod.mk.injEq] at outcome
    rcases outcome with ⟨first, head, sameId, -⟩
    have processing : message.status = .processing := by
      simp only [holdsClaim, head, sameId, stored, Option.all_some, decide_eq_true_eq] at holds
      exact holds.1
    rw [sent] at processing
    cases processing

/-! ## What no handler came back from stays eligible -/

/-- The step writes an outcome for the message. -/
def concludes (id : Uuid) (delivery : Delivery) (input : DeliveryStep) : Bool :=
  (delivery.outcome input).any fun outcome => outcome.1 = id

/-- The step writes an outcome for the message, with which all handlers have
succeeded. -/
def handles (id : Uuid) (delivery : Delivery) (input : DeliveryStep) : Bool :=
  delivery.outcome input = some (id, true)

theorem step_eligible {delivery : Delivery} (keyed : delivery.Keyed) (input : DeliveryStep)
    {id : Uuid} (notConcluded : ¬ concludes id delivery input)
    (eligible : ∀ message, delivery.outbox id = some message → message.Eligible) :
    ∀ message, (delivery.step input).outbox id = some message → message.Eligible := by
  intro message stored
  cases before : delivery.outbox id with
  | some earlier =>
      rcases step_cases keyed input before with ⟨later, row, same | claims | writes⟩
      · rw [row, Option.some_inj] at stored
        rw [← stored, same]
        exact eligible earlier before
      · rcases claims with ⟨now, -, claimed⟩
        rw [row, Option.some_inj] at stored
        rw [← stored, claimed]
        exact OutboxMessage.eligible_claim now earlier
      · rcases writes with ⟨_, _, _, _, outcome, _⟩
        simp [concludes, outcome] at notConcluded
  | none =>
      apply OutboxMessage.eligible_of_pending
      cases input with
      | emit draft =>
          by_cases new : id = delivery.nextMessage
          · simp only [step, new, Function.update_self, Option.some_inj] at stored
            rw [← stored]
          · simp [step, new, before] at stored
      | claim publisher now ids =>
          cases tick : delivery.claimed publisher <;>
            simp [step, tick, update, before] at stored
      | dispatch publisher now errors =>
          cases tick : delivery.claimed publisher <;>
            simp [step, tick, update, before] at stored
      | crash publisher => simp [step, before] at stored

theorem start_keyed : start.Keyed := by
  intro id message stored
  cases stored

/-- A message that is sent or failed is never claimed.  In a run in which each
publisher that writes an outcome still has its claim, what was sent stays sent;
and a message that no publisher wrote an outcome for is due, or its claim
expires. -/
theorem delivery_final_and_eligible :
    (∀ (message : OutboxMessage) now, message.status = .sent ∨ message.status = .failed →
      message.claimable now = false) ∧
    (∀ before after,
      Along step (fun delivery input => delivery.holdsClaim input) start (before ++ after) →
        SentKept (runAll step start before) (runAll step start (before ++ after))) ∧
    ∀ steps id, Along step (fun delivery input => ¬ concludes id delivery input) start steps →
      ∀ message, (runAll step start steps).outbox id = some message → message.Eligible := by
  refine ⟨fun message now final => OutboxMessage.not_claimable final now, ?_, ?_⟩
  · intro before after along
    have preserved : ∀ delivery input, Keyed delivery → holdsClaim delivery input →
        Keyed (step delivery input) := fun _ input keyed _ => step_keyed keyed input
    have related : ∀ delivery input, Keyed delivery → holdsClaim delivery input →
        SentKept delivery (step delivery input) :=
      fun _ input keyed holds => step_sentKept keyed input holds
    have unchanged : ∀ delivery, SentKept delivery delivery :=
      fun _ _ message stored sent => ⟨message, stored, sent⟩
    have chain : ∀ {first second third}, SentKept first second → SentKept second third →
        SentKept first third := by
      intro first second third early late id message stored sent
      rcases early id message stored sent with ⟨later, laterStored, laterSent⟩
      exact late id later laterStored laterSent
    have reached := reached_invariant preserved start_keyed along
    rw [runAll_append]
    exact runAll_relates unchanged chain preserved related after reached.1 reached.2
  · intro steps id along
    have preserved : ∀ delivery input,
        (Keyed delivery ∧ ∀ message, delivery.outbox id = some message → message.Eligible) →
        ¬ concludes id delivery input →
        Keyed (step delivery input) ∧
          ∀ message, (step delivery input).outbox id = some message → message.Eligible :=
      fun _ input holds notConcluded =>
        ⟨step_keyed holds.1 input, step_eligible holds.1 input notConcluded holds.2⟩
    have absent : ∀ message, start.outbox id = some message → message.Eligible :=
      fun _ stored => by cases stored
    exact (runAll_invariant preserved steps ⟨start_keyed, absent⟩ along).2

/-- The handlers succeed with a message in time. -/
def delivered : List DeliveryStep :=
  [.emit (outboxEntityCreated .account 1), .claim 0 10 [0], .dispatch 0 20 []]

theorem delivered_final :
    SentKept (runAll step start delivered)
        (runAll step start (delivered ++ [.claim 1 (10 ^ 12) [0], .dispatch 1 (10 ^ 12) []])) ∧
      ∀ message, (runAll step start (delivered.take 2)).outbox 0 = some message →
        message.Eligible :=
  ⟨delivery_final_and_eligible.2.1 delivered [.claim 1 (10 ^ 12) [0], .dispatch 1 (10 ^ 12) []]
      (by decide),
    delivery_final_and_eligible.2.2 (delivered.take 2) 0 (by decide)⟩

/-- A second publisher takes the message over and sends it, then the handlers of
the first one fail.  And a message whose handler failed is not claimed again. -/
theorem sent_message_fails :
    ¬ (∀ before after,
        SentKept (runAll step start before) (runAll step start (before ++ after))) ∧
      ¬ ∀ steps id, Along step (fun delivery input => ¬ handles id delivery input) start steps →
        ∀ message, (runAll step start steps).outbox id = some message → message.Eligible := by
  constructor
  · intro always
    have kept := always
      [.emit (outboxEntityCreated .account 1), .claim 0 0 [0], .claim 1 (2 * claimTimeout) [0],
        .dispatch 1 (2 * claimTimeout + 1) []]
      [.dispatch 0 (2 * claimTimeout + 2) ["Timeout"]] 0
    revert kept
    decide +kernel
  · intro always
    have eligible := always
      [.emit (outboxEntityCreated .account 1), .claim 0 0 [0], .dispatch 0 1 ["Timeout"]] 0
      (by decide +kernel)
      { outboxEntityCreated .account 1 with
        id := 0, status := .failed, errorMessage := some "Timeout" }
      (by decide +kernel)
    rcases eligible with ⟨since, claimable⟩
    have never := claimable (since + 1) (lt_add_one since)
    rw [OutboxMessage.not_claimable (.inr rfl)] at never
    cases never

end Delivery

end FinanceSync.Persistence
