import FinanceSync.Webhooks.DeliveryLog

/-!
# Which deliveries are accounted for

A row of the delivery log should be delivered, out of attempts, or due again at
an instant that the retry worker looks for.  An attempt that the rate limiter
stops leaves a row behind that is none of these.
-/

namespace FinanceSync.Webhooks

open Lib

/-! ## One row -/

/-- The row is delivered, has failed for good, or is selected again from the
instant of its next attempt on. -/
def WebhookDeliveryLog.Accounted (log : WebhookDeliveryLog) : Prop :=
  log.status = .delivered ∨ (log.attemptNumber = log.maxAttempts ∧ log.status = .failed) ∨
    ∃ due, log.nextRetryAt = some due ∧ ∀ now, due ≤ now → log.retryDue now

/-- An attempt after which the row is accounted for. -/
def Attempt.Passes (attempt : Attempt) (log : WebhookDeliveryLog) : Prop :=
  attempt.outcome.success ∨
    (attempt.outcome ≠ .rateLimited ∧ log.attemptNumber ≤ log.maxAttempts)

theorem accounted_congr {first second : WebhookDeliveryLog} (status : first.status = second.status)
    (attemptNumber : first.attemptNumber = second.attemptNumber)
    (maxAttempts : first.maxAttempts = second.maxAttempts)
    (nextRetryAt : first.nextRetryAt = second.nextRetryAt) :
    first.Accounted ↔ second.Accounted := by
  simp only [WebhookDeliveryLog.Accounted, WebhookDeliveryLog.retryDue, status, attemptNumber,
    maxAttempts, nextRetryAt]

theorem accounted_attemptDelivery_iff (settings : Settings) (attempt : Attempt)
    (log : WebhookDeliveryLog) :
    (attemptDelivery settings attempt log).Accounted ↔ attempt.Passes log := by
  rw [attemptDelivery, Attempt.Passes]
  cases success : attempt.outcome.success with
  | true => simp [WebhookDeliveryLog.Accounted]
  | false =>
      by_cases limited : attempt.outcome = .rateLimited
      · simp [WebhookDeliveryLog.Accounted, WebhookDeliveryLog.retryDue, limited]
        intro due _
        exact ⟨due, le_refl due⟩
      · rcases lt_trichotomy log.attemptNumber log.maxAttempts with more | last | beyond
        · simp [WebhookDeliveryLog.Accounted, WebhookDeliveryLog.retryDue, limited, more, more.le]
        · simp [WebhookDeliveryLog.Accounted, limited, last]
        · simp [WebhookDeliveryLog.Accounted, WebhookDeliveryLog.retryDue, limited, beyond.not_ge,
            beyond.ne', beyond.le.not_gt]
          intro due _
          exact ⟨due, le_refl due⟩

@[simp] theorem attemptDelivery_identity (settings : Settings) (attempt : Attempt)
    (log : WebhookDeliveryLog) :
    (attemptDelivery settings attempt log).id = log.id ∧
      (attemptDelivery settings attempt log).webhookId = log.webhookId ∧
      (attemptDelivery settings attempt log).maxAttempts = log.maxAttempts := by
  simp only [attemptDelivery]
  split
  · exact ⟨rfl, rfl, rfl⟩
  · split
    · exact ⟨rfl, rfl, rfl⟩
    · exact ⟨rfl, rfl, rfl⟩

/-- The stored row after an attempt. -/
theorem accounted_persist_iff (settings : Settings) (attempt : Attempt)
    {log stored : WebhookDeliveryLog} (maxAttempts : stored.maxAttempts = log.maxAttempts) :
    ((attemptDelivery settings attempt log).persist stored).Accounted ↔ attempt.Passes log := by
  rw [← accounted_attemptDelivery_iff settings]
  apply accounted_congr
  · rfl
  · rfl
  · rw [(attemptDelivery_identity settings attempt log).2.2, ← maxAttempts]
    rfl
  · rfl

/-! ## The invariant -/

namespace Service

variable {settings : Settings} {service : Service}

/-- The entry was loaded from a row that is still there. -/
def Known (service : Service) (entry : WebhookDeliveryLog) : Prop :=
  ∃ stored, service.logs entry.id = some stored ∧ stored.webhookId = entry.webhookId ∧
    stored.maxAttempts = entry.maxAttempts

structure Sound (service : Service) : Prop where
  keyed : ∀ id log, service.logs id = some log → log.id = id ∧ id < service.nextLog
  selected : ∀ worker, ∀ entry ∈ service.selected worker,
    service.Known entry ∧ entry.attemptNumber < entry.maxAttempts
  attempting : ∀ worker, ∀ entry ∈ service.attempting worker,
    service.Known entry ∧ entry.attemptNumber ≤ entry.maxAttempts

theorem start_sound : start.Sound where
  keyed := by intro id log stored; cases stored
  selected := by intro worker entry isMem; cases isMem
  attempting := by intro worker entry isMem; cases isMem

/-- Rows keep their webhook and their number of attempts. -/
def Keeps (before after : Service) : Prop :=
  ∀ id log, before.logs id = some log →
    ∃ later, after.logs id = some later ∧ later.webhookId = log.webhookId ∧
      later.maxAttempts = log.maxAttempts

theorem Known.keeps {next : Service} {entry : WebhookDeliveryLog} (known : service.Known entry)
    (keeps : Keeps service next) : next.Known entry := by
  rcases known with ⟨stored, row, webhookId, maxAttempts⟩
  rcases keeps entry.id stored row with ⟨later, laterRow, laterWebhook, laterMax⟩
  exact ⟨later, laterRow, laterWebhook.trans webhookId, laterMax.trans maxAttempts⟩

/-- Rows change, and the workers are where they were. -/
theorem Sound.of_logs {next : Service} (sound : service.Sound) (keeps : Keeps service next)
    (keyed : ∀ id log, next.logs id = some log → log.id = id ∧ id < next.nextLog)
    (sameSelected : next.selected = service.selected)
    (sameAttempting : next.attempting = service.attempting) : next.Sound where
  keyed := keyed
  selected := by
    intro worker entry isMem
    rw [sameSelected] at isMem
    have before := sound.selected worker entry isMem
    exact ⟨before.1.keeps keeps, before.2⟩
  attempting := by
    intro worker entry isMem
    rw [sameAttempting] at isMem
    have before := sound.attempting worker entry isMem
    exact ⟨before.1.keeps keeps, before.2⟩

theorem deliver_keeps (sound : service.Sound) (event : Event) (attempts : Uuid → Attempt)
    (webhook : Webhook) : Keeps service (deliver settings event attempts service webhook) := by
  intro id log stored
  have ne : id ≠ service.nextLog := (sound.keyed id log stored).2.ne
  exact ⟨log, by simp [deliver, ne, stored], rfl, rfl⟩

theorem deliver_sound (sound : service.Sound) (event : Event) (attempts : Uuid → Attempt)
    (webhook : Webhook) : (deliver settings event attempts service webhook).Sound := by
  apply sound.of_logs (deliver_keeps sound event attempts webhook) _ (by rfl) (by rfl)
  intro id log stored
  by_cases new : id = service.nextLog
  · simp only [deliver, new, Function.update_self, Option.some_inj] at stored
    rw [← stored]
    simp [deliver, newLog, new]
  · simp only [deliver, ne_eq, new, not_false_eq_true, Function.update_of_ne] at stored
    have before := sound.keyed id log stored
    exact ⟨before.1, Nat.lt_succ_of_lt before.2⟩

/-- A worker takes other entries, of rows that are there. -/
theorem Sound.setWorker (sound : service.Sound) (worker : Nat)
    {selected : List WebhookDeliveryLog} {attempting : Option WebhookDeliveryLog}
    (selectedSound : ∀ entry ∈ selected,
      service.Known entry ∧ entry.attemptNumber < entry.maxAttempts)
    (attemptingSound : ∀ entry ∈ attempting,
      service.Known entry ∧ entry.attemptNumber ≤ entry.maxAttempts) :
    (service.setWorker worker selected attempting).Sound where
  keyed := sound.keyed
  selected := by
    intro other entry isMem
    by_cases same : other = worker
    · exact selectedSound entry (by simpa [Service.setWorker, same] using isMem)
    · exact sound.selected other entry (by simpa [Service.setWorker, same] using isMem)
  attempting := by
    intro other entry isMem
    by_cases same : other = worker
    · exact attemptingSound entry (by simpa [Service.setWorker, same] using isMem)
    · exact sound.attempting other entry (by simpa [Service.setWorker, same] using isMem)

/-- A row changes, but not its identity. -/
theorem Sound.editLog (sound : service.Sound) (id : Uuid)
    {edit : WebhookDeliveryLog → WebhookDeliveryLog}
    (identity : ∀ log, (edit log).id = log.id ∧ (edit log).webhookId = log.webhookId ∧
      (edit log).maxAttempts = log.maxAttempts) :
    (service.editLog id edit).Sound := by
  apply sound.of_logs _ _ (by rfl) (by rfl)
  · intro other log stored
    by_cases same : other = id
    · rw [same] at stored
      exact ⟨edit log, by simp [Service.editLog, same, stored], (identity log).2⟩
    · exact ⟨log, by simp [Service.editLog, same, stored], rfl, rfl⟩
  · intro other log stored
    by_cases same : other = id
    · rw [same] at stored ⊢
      simp only [Service.editLog, Function.update_self, Option.map_eq_some_iff] at stored
      rcases stored with ⟨before, row, rfl⟩
      rw [(identity before).1]
      exact sound.keyed id before row
    · simp only [Service.editLog, ne_eq, same, not_false_eq_true, Function.update_of_ne] at stored
      exact sound.keyed other log stored

theorem step_sound (sound : service.Sound) (input : Step) :
    (step settings service input).Sound := by
  cases input with
  | handle event attempts =>
      simp only [step]
      apply List.foldlRecOn _ _ sound
      intro current currentSound webhook _
      exact deliver_sound currentSound event attempts webhook
  | select worker now ids =>
      simp only [step]
      split
      · apply sound.setWorker
        · intro entry isMem
          have found := List.mem_of_mem_take isMem
          rw [List.mem_filterMap] at found
          rcases found with ⟨id, -, taken⟩
          rw [Option.filter_eq_some_iff] at taken
          have own := (sound.keyed id entry taken.1).1
          have due := taken.2
          simp only [WebhookDeliveryLog.retryDue, Bool.and_eq_true, decide_eq_true_eq] at due
          exact ⟨⟨entry, by rw [own, taken.1], rfl, rfl⟩, due.2⟩
        · intro entry isMem
          cases isMem
      · exact sound
  | load worker =>
      simp only [step]
      split
      · next log rest tick _ =>
          have entries := sound.selected worker
          rw [tick] at entries
          have restSound := fun entry isMem =>
            entries entry (List.mem_cons_of_mem _ isMem)
          split
          · apply sound.setWorker worker restSound
            intro entry isMem
            rw [Option.mem_def, Option.map_eq_some_iff] at isMem
            rcases isMem with ⟨fresh, row, rfl⟩
            have head := entries log List.mem_cons_self
            rcases head.1 with ⟨stored, storedRow, webhookId, maxAttempts⟩
            rw [row, Option.some_inj] at storedRow
            have own := (sound.keyed log.id fresh row).1
            refine ⟨⟨fresh, by rw [← row, ← own], rfl, rfl⟩, ?_⟩
            rw [storedRow, maxAttempts]
            exact head.2
          · apply Sound.editLog
            · apply sound.setWorker worker restSound
              intro entry isMem
              cases isMem
            · exact fun _ => ⟨rfl, rfl, rfl⟩
      · exact sound
  | finish worker attempt =>
      simp only [step]
      split
      · apply Sound.editLog
        · apply sound.setWorker worker (sound.selected worker)
          intro entry isMem
          cases isMem
        · exact fun _ => ⟨rfl, rfl, rfl⟩
      · exact sound
  | crash worker =>
      apply sound.setWorker
      · intro entry isMem
        cases isMem
      · intro entry isMem
        cases isMem
  | configure webhooks => exact ⟨sound.keyed, sound.selected, sound.attempting⟩

/-! ## The rows of one webhook -/

/-- Every row of the webhook is accounted for. -/
def AllAccounted (webhookId : Uuid) (service : Service) : Prop :=
  ∀ id log, service.logs id = some log → log.webhookId = webhookId → log.Accounted

/-- A first attempt after which the row is accounted for. -/
def firstPasses (settings : Settings) (attempt : Attempt) : Bool :=
  attempt.outcome.success || (attempt.outcome ≠ .rateLimited && 1 ≤ settings.webhookMaxRetries)

/-- The rate limiter lets each attempt at the webhook through; and a first attempt
succeeds where there are no retries at all. -/
def attemptsPass (settings : Settings) (webhookId : Uuid) (service : Service) : Step → Bool
  | .handle event attempts =>
      (service.getActiveWebhooksForEvent event).all fun webhook =>
        webhook.id ≠ webhookId || firstPasses settings (attempts webhook.id)
  | .finish worker attempt =>
      (service.attempting worker).all fun log =>
        log.webhookId ≠ webhookId || attempt.outcome ≠ .rateLimited
  | _ => true

theorem allAccounted_deliver_iff (sound : service.Sound) (event : Event)
    (attempts : Uuid → Attempt) (webhook : Webhook) (webhookId : Uuid) :
    AllAccounted webhookId (deliver settings event attempts service webhook) ↔
      AllAccounted webhookId service ∧
        (webhook.id = webhookId → firstPasses settings (attempts webhook.id)) := by
  have fresh : ∀ id log, service.logs id = some log → id ≠ service.nextLog :=
    fun id log stored => (sound.keyed id log stored).2.ne
  have first : (deliver settings event attempts service webhook).logs service.nextLog =
      some (attemptDelivery settings (attempts webhook.id)
        (newLog settings service.nextLog event webhook)) := Function.update_self ..
  have passes : (attemptDelivery settings (attempts webhook.id)
        (newLog settings service.nextLog event webhook)).Accounted ↔
      firstPasses settings (attempts webhook.id) := by
    rw [accounted_attemptDelivery_iff, Attempt.Passes]
    simp [firstPasses, newLog]
  constructor
  · intro all
    constructor
    · intro id log stored isOwn
      apply all id log _ isOwn
      simp [deliver, fresh id log stored, stored]
    · intro isOwn
      rw [← passes]
      apply all service.nextLog _ first
      simp [newLog, isOwn]
  · intro both id log stored isOwn
    by_cases new : id = service.nextLog
    · rw [new, first, Option.some_inj] at stored
      rw [← stored, passes]
      apply both.2
      simpa [← stored, newLog] using isOwn
    · simp only [deliver, ne_eq, new, not_false_eq_true, Function.update_of_ne] at stored
      exact both.1 id log stored isOwn

theorem allAccounted_handle_iff (event : Event) (attempts : Uuid → Attempt) (webhookId : Uuid)
    (webhooks : List Webhook) :
    ∀ {service : Service}, service.Sound →
      (AllAccounted webhookId (webhooks.foldl (deliver settings event attempts) service) ↔
        AllAccounted webhookId service ∧
          ∀ webhook ∈ webhooks, webhook.id = webhookId →
            firstPasses settings (attempts webhook.id)) := by
  induction webhooks with
  | nil => intro service _; simp
  | cons webhook rest ih =>
      intro service sound
      rw [List.foldl_cons, ih (deliver_sound sound event attempts webhook),
        allAccounted_deliver_iff sound, List.forall_mem_cons, and_assoc]

/-- An edit of a row, where all rows were accounted for. -/
theorem allAccounted_editLog_iff {webhookId : Uuid} (all : AllAccounted webhookId service)
    (id : Uuid) {edit : WebhookDeliveryLog → WebhookDeliveryLog}
    (identity : ∀ log, (edit log).webhookId = log.webhookId) :
    AllAccounted webhookId (service.editLog id edit) ↔
      ∀ log, service.logs id = some log → log.webhookId = webhookId → (edit log).Accounted := by
  constructor
  · intro edited log stored isOwn
    apply edited id
    · simp [Service.editLog, stored]
    · rw [identity, isOwn]
  · intro own other log stored isOwn
    by_cases same : other = id
    · simp only [Service.editLog, same, Function.update_self, Option.map_eq_some_iff] at stored
      rcases stored with ⟨before, row, rfl⟩
      exact own before row (by rwa [identity] at isOwn)
    · simp only [Service.editLog, ne_eq, same, not_false_eq_true, Function.update_of_ne] at stored
      exact all other log stored isOwn

theorem step_allAccounted_iff (sound : service.Sound) {webhookId : Uuid}
    (all : AllAccounted webhookId service) (input : Step) :
    AllAccounted webhookId (step settings service input) ↔
      attemptsPass settings webhookId service input := by
  cases input with
  | handle event attempts =>
      rw [step, allAccounted_handle_iff event attempts webhookId _ sound]
      simp [attemptsPass, all, or_iff_not_imp_left]
  | select worker now ids =>
      simp only [step]
      split
      · exact iff_of_true all rfl
      · exact iff_of_true all rfl
  | load worker =>
      simp only [step]
      split
      · next log rest _ _ =>
          split
          · exact iff_of_true all rfl
          · apply iff_of_true _ rfl
            have unchanged : AllAccounted webhookId (service.setWorker worker rest none) := all
            apply (allAccounted_editLog_iff unchanged log.id (by exact fun _ => rfl)).mpr
            intro stored row isOwn
            exact all log.id stored row isOwn
      · exact iff_of_true all rfl
  | finish worker attempt =>
      simp only [step, attemptsPass]
      split
      · next log attempted =>
          have entry := sound.attempting worker log attempted
          rcases entry.1 with ⟨stored, row, webhookOf, maxAttempts⟩
          have unchanged :
              AllAccounted webhookId (service.setWorker worker (service.selected worker) none) :=
            all
          apply (allAccounted_editLog_iff unchanged log.id (by exact fun _ => rfl)).trans
          rw [attempted, Option.all_some]
          have passes : attempt.Passes log ↔ ¬ attempt.outcome = .rateLimited := by
            rw [Attempt.Passes]
            cases outcome : attempt.outcome <;> simp [entry.2, Outcome.success]
          simp only [ne_eq, decide_not, Bool.or_eq_true, Bool.not_eq_eq_eq_not, Bool.not_true,
            decide_eq_false_iff_not, ← webhookOf]
          constructor
          · intro edited
            rw [or_iff_not_imp_left, not_not]
            intro isOwn
            rw [← passes, ← accounted_persist_iff settings attempt maxAttempts]
            exact edited stored row isOwn
          · intro allowed other otherRow isOwn
            have same : stored = other := Option.some_inj.mp (row.symm.trans otherRow)
            rw [← same] at isOwn ⊢
            rw [accounted_persist_iff settings attempt maxAttempts, passes]
            exact allowed.resolve_left (not_not.mpr isOwn)
      · next idle =>
          rw [idle]
          exact iff_of_true all rfl
  | crash worker => exact iff_of_true all rfl
  | configure webhooks => exact iff_of_true all rfl

/-- In every state of a run, every row of a webhook is delivered, out of attempts
or due again, exactly if no attempt at the webhook is stopped by the rate limiter
and, without retries, the first attempts succeed. -/
theorem deliveries_accounted_iff (settings : Settings) (webhookId : Uuid) (steps : List Step) :
    (∀ before after, steps = before ++ after →
        AllAccounted webhookId (runAll (step settings) start before)) ↔
      Along (step settings) (fun service input => attemptsPass settings webhookId service input)
        start steps := by
  have preserved : ∀ service input, Sound service → Sound (step settings service input) :=
    fun _ input sound => step_sound sound input
  have keeps : ∀ service input, Sound service → AllAccounted webhookId service →
      (AllAccounted webhookId (step settings service input) ↔
        attemptsPass settings webhookId service input) :=
    fun _ input sound all => step_allAccounted_iff sound all input
  have empty : AllAccounted webhookId start := fun _ _ stored => by cases stored
  exact reached_iff_kept preserved keeps steps start_sound empty

/-- The rate limiter stops the first attempt at a webhook, which no retry worker
ever selects again. -/
theorem rateLimited_not_accounted :
    ¬ ∀ (settings : Settings) webhookId steps before after, steps = before ++ after →
      AllAccounted webhookId (runAll (step settings) start before) := by
  intro always
  have accounted := always {} 1
    [.configure [{ id := 1, tenantId := 1, events := ["sync.completed"] }],
      .handle ⟨"sync.completed", none, none⟩ fun _ => { outcome := .rateLimited }]
    _ [] (List.append_nil _).symm 0
  have stored := accounted _ rfl rfl
  rcases stored with delivered | last | due
  · cases delivered
  · cases last.2
  · rcases due with ⟨instant, given, -⟩
    cases given

end Service

end FinanceSync.Webhooks
