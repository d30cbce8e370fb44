import FinanceSync.Lib.Run

/-!
# The unit of work

An `async with UnitOfWork(session)` block commits when its body ends normally and
rolls back when it ends with an exception.  The flag that an explicit `commit()`
sets is never cleared, while the session opens a new transaction after it, so a
block that commits half-way does not commit what follows.
-/

namespace FinanceSync.Persistence.Uow

open Lib

/-- A database session: the writes that are durable, and those of the open transaction. -/
structure Session (Write : Type) where
  durable : List Write := []
  pending : List Write := []

namespace Session

variable {Write : Type}

def add (session : Session Write) (write : Write) : Session Write :=
  { session with pending := session.pending ++ [write] }

def commit (session : Session Write) : Session Write where
  durable := session.durable ++ session.pending

def rollback (session : Session Write) : Session Write :=
  { session with pending := [] }

end Session

/-- What the body of a block does with the unit of work. -/
inductive Operation (Write : Type)
  | write (write : Write)
  | commit
  | rollback
deriving DecidableEq

/-- How the body of a block ends. -/
inductive BlockEnd
  | normal
  | exception
deriving DecidableEq

structure UnitOfWork (Write : Type) where
  session : Session Write
  committed : Bool := false

namespace UnitOfWork

variable {Write : Type}

/-- Explicitly commit the current transaction. -/
def commit (uow : UnitOfWork Write) : UnitOfWork Write where
  session := uow.session.commit
  committed := true

/-- Roll back the current transaction. -/
def rollback (uow : UnitOfWork Write) : UnitOfWork Write :=
  { uow with session := uow.session.rollback }

def perform (uow : UnitOfWork Write) : Operation Write → UnitOfWork Write
  | .write write => { uow with session := uow.session.add write }
  | .commit => uow.commit
  | .rollback => uow.rollback

/-- `__aexit__` -/
def exit (uow : UnitOfWork Write) : BlockEnd → Session Write
  | .normal => if uow.committed then uow.session else uow.session.commit
  | .exception => uow.session.rollback

/-- The session after a block with the body, entered with a new session. -/
def block (body : List (Operation Write)) (ended : BlockEnd) : Session Write :=
  (runAll perform { session := {} } body).exit ended

end UnitOfWork

/-! ## Writes told apart by their position -/

section Numbered

variable {Write : Type}

def Operation.numbered (operation : Operation Write) (position : Nat) :
    Operation (Write × Nat) :=
  match operation with
  | .write written => .write (written, position)
  | .commit => .commit
  | .rollback => .rollback

/-- A body whose writes carry their positions. -/
def numbered : Nat → List (Operation Write) → List (Operation (Write × Nat))
  | _, [] => []
  | position, operation :: rest => operation.numbered position :: numbered (position + 1) rest

theorem numbered_append (before after : List (Operation Write)) :
    ∀ position, numbered position (before ++ after) =
      numbered position before ++ numbered (position + before.length) after := by
  induction before with
  | nil => intro position; rfl
  | cons operation before ih =>
      intro position
      rw [List.cons_append, numbered, ih, numbered, List.cons_append,
        List.length_cons, Nat.add_right_comm, Nat.add_assoc]

theorem commit_mem_numbered (body : List (Operation Write)) :
    ∀ position, .commit ∈ numbered position body ↔ .commit ∈ body := by
  induction body with
  | nil => intro position; simp [numbered]
  | cons operation rest ih =>
      intro position
      rw [numbered, List.mem_cons, List.mem_cons, ih]
      cases operation <;> simp [Operation.numbered]

theorem lt_of_mem_numbered (body : List (Operation Write)) {write : Write} {other : Nat} :
    ∀ {position}, .write (write, other) ∈ numbered position body →
      other < position + body.length := by
  induction body with
  | nil => intro position isMem; simp [numbered] at isMem
  | cons operation rest ih =>
      intro position isMem
      rw [numbered, List.mem_cons] at isMem
      rw [List.length_cons]
      rcases isMem with here | later
      · cases operation <;> simp [Operation.numbered] at here
        omega
      · have := ih later
        omega

theorem not_mem_numbered (body : List (Operation Write)) (write : Write) :
    ∀ {position other : Nat}, other < position →
      .write (write, other) ∉ numbered position body := by
  induction body with
  | nil => intro position other _; simp [numbered]
  | cons operation rest ih =>
      intro position other before isMem
      rw [numbered, List.mem_cons] at isMem
      rcases isMem with here | later
      · cases operation <;> simp [Operation.numbered] at here
        omega
      · exact ih (Nat.lt_succ_of_lt before) later

end Numbered

/-! ## What becomes of a write -/

section Fate

variable {Write : Type}

/-- The first operation that ends the open transaction. -/
def firstEnd : List (Operation Write) → Option (Operation Write)
  | [] => none
  | .write _ :: rest => firstEnd rest
  | .commit :: _ => some .commit
  | .rollback :: _ => some .rollback

/-- A pending write is durable after a body exactly if a commit is the first to
end its transaction, and still pending if none does. -/
theorem fate_of_write (body : List (Operation Write)) {write : Write} :
    ∀ uow : UnitOfWork Write, .write write ∉ body →
      (write ∈ (runAll UnitOfWork.perform uow body).session.durable ↔
        write ∈ uow.session.durable ∨
          write ∈ uow.session.pending ∧ firstEnd body = some .commit) ∧
      (write ∈ (runAll UnitOfWork.perform uow body).session.pending ↔
        write ∈ uow.session.pending ∧ firstEnd body = none) := by
  induction body with
  | nil => intro uow _; simp [firstEnd]
  | cons operation rest ih =>
      intro uow absent
      rw [List.mem_cons, not_or] at absent
      obtain ⟨durable, pending⟩ := ih (uow.perform operation) absent.2
      rw [runAll_cons, durable, pending]
      cases operation with
      | write other =>
          have ne : write ≠ other := fun same => absent.1 (congrArg Operation.write same)
          simp [UnitOfWork.perform, Session.add, firstEnd, ne]
      | commit => simp [UnitOfWork.perform, UnitOfWork.commit, Session.commit, firstEnd]
      | rollback => simp [UnitOfWork.perform, UnitOfWork.rollback, Session.rollback, firstEnd]

/-- Every write of the session after a body was there before or is one of the body. -/
theorem written_of_mem (body : List (Operation Write)) {write : Write} :
    ∀ {uow : UnitOfWork Write},
      write ∈ (runAll UnitOfWork.perform uow body).session.durable ∨
          write ∈ (runAll UnitOfWork.perform uow body).session.pending →
        (write ∈ uow.session.durable ∨ write ∈ uow.session.pending) ∨
          .write write ∈ body := by
  induction body with
  | nil => intro uow known; exact .inl known
  | cons operation rest ih =>
      intro uow known
      rcases ih known with before | later
      · cases operation with
        | write other =>
            simp only [UnitOfWork.perform, Session.add, List.mem_append,
              List.mem_singleton] at before
            rcases before with durable | pending | rfl
            · exact .inl (.inl durable)
            · exact .inl (.inr pending)
            · exact .inr List.mem_cons_self
        | commit =>
            simp only [UnitOfWork.perform, UnitOfWork.commit, Session.commit, List.mem_append,
              List.not_mem_nil, or_false] at before
            exact .inl before
        | rollback =>
            simp only [UnitOfWork.perform, UnitOfWork.rollback, Session.rollback,
              List.not_mem_nil, or_false] at before
            exact .inl (.inl before)
      · exact .inr (List.mem_cons_of_mem _ later)

theorem committed_runAll (body : List (Operation Write)) :
    ∀ uow : UnitOfWork Write, (runAll UnitOfWork.perform uow body).committed = true ↔
      uow.committed = true ∨ .commit ∈ body := by
  induction body with
  | nil => intro uow; simp
  | cons operation rest ih =>
      intro uow
      rw [runAll_cons, ih, List.mem_cons]
      cases operation <;> simp [UnitOfWork.perform, UnitOfWork.commit, UnitOfWork.rollback]

end Fate

/-! ## What a block promises -/

section Blocks

variable {Write : Type}

/-- Durable when the block with the body ended so: the write at a position of the body. -/
def DurableAfter (body : List (Operation Write)) (ended : BlockEnd) (write : Write)
    (position : Nat) : Prop :=
  (write, position) ∈ (UnitOfWork.block (numbered 0 body) ended).durable

/-- A block that ends normally makes every write after the last `rollback()`
durable, and one that ends with an exception no write after the last `commit()`. -/
def CommitsOnSuccess (body : List (Operation Write)) : Prop :=
  (∀ before write after, body = before ++ .write write :: after → .rollback ∉ after →
    DurableAfter body .normal write before.length) ∧
  (∀ before write after, body = before ++ .write write :: after → .commit ∉ after →
    ¬ DurableAfter body .exception write before.length)

/-- No write follows a `commit()` without a later `commit()` or `rollback()`. -/
def Settled (body : List (Operation Write)) : Prop :=
  ∀ before write after, body = before ++ .write write :: after → .commit ∈ before →
    .commit ∈ after ∨ .rollback ∈ after

theorem firstEnd_eq_none_iff (body : List (Operation Write)) :
    firstEnd body = none ↔ .commit ∉ body ∧ .rollback ∉ body := by
  induction body with
  | nil => simp [firstEnd]
  | cons operation rest ih => cases operation <;> simp [firstEnd, *]

theorem firstEnd_of_commit {body : List (Operation Write)} (isCommit : .commit ∈ body)
    (noRollback : .rollback ∉ body) : firstEnd body = some .commit := by
  induction body with
  | nil => exact absurd isCommit List.not_mem_nil
  | cons operation rest ih => cases operation <;> simp_all [firstEnd]

theorem commit_mem_of_firstEnd {body : List (Operation Write)}
    (ends : firstEnd body = some .commit) : .commit ∈ body := by
  induction body with
  | nil => simp [firstEnd] at ends
  | cons operation rest ih => cases operation <;> simp_all [firstEnd]

theorem firstEnd_numbered (body : List (Operation Write)) :
    ∀ position, (firstEnd (numbered position body) = none ↔ firstEnd body = none) ∧
      (firstEnd (numbered position body) = some .commit ↔ firstEnd body = some .commit) := by
  induction body with
  | nil => intro position; simp [numbered, firstEnd]
  | cons operation rest ih =>
      intro position
      cases operation with
      | write write => exact ih (position + 1)
      | commit => simp [numbered, Operation.numbered, firstEnd]
      | rollback => simp [numbered, Operation.numbered, firstEnd]

/-- What a block does with one of its writes: it is durable if a commit is the
first to end its transaction, and also if nothing ends it and the block ends
normally without any commit before it. -/
theorem durableAfter_iff (before : List (Operation Write)) (write : Write)
    (after : List (Operation Write)) :
    (DurableAfter (before ++ .write write :: after) .normal write before.length ↔
      firstEnd after = some .commit ∨ firstEnd after = none ∧ .commit ∉ before) ∧
    (DurableAfter (before ++ .write write :: after) .exception write before.length ↔
      firstEnd after = some .commit) := by
  let entered : UnitOfWork (Write × Nat) :=
    runAll UnitOfWork.perform { session := {} } (numbered 0 before)
  have fresh : ¬ ((write, before.length) ∈ entered.session.durable ∨
      (write, before.length) ∈ entered.session.pending) := by
    intro known
    rcases written_of_mem (numbered 0 before) known with nothing | early
    · simp at nothing
    · have := lt_of_mem_numbered before early
      omega
  rw [not_or] at fresh
  have split : numbered 0 (before ++ .write write :: after) =
      numbered 0 before ++
        .write (write, before.length) :: numbered (before.length + 1) after := by
    rw [numbered_append, Nat.zero_add]
    rfl
  have last : runAll UnitOfWork.perform { session := {} }
      (numbered 0 (before ++ .write write :: after)) =
      runAll UnitOfWork.perform (entered.perform (.write (write, before.length)))
        (numbered (before.length + 1) after) := by
    rw [split, runAll_append, runAll_cons]
  obtain ⟨durable, pending⟩ := fate_of_write (numbered (before.length + 1) after)
    (entered.perform (.write (write, before.length)))
    (not_mem_numbered after write (Nat.lt_succ_self _))
  have committed := committed_runAll (numbered 0 (before ++ .write write :: after))
    { session := {} }
  rw [commit_mem_numbered, last] at committed
  rw [(firstEnd_numbered after _).2] at durable
  rw [(firstEnd_numbered after _).1] at pending
  have notYet : (write, before.length) ∉
      (entered.perform (.write (write, before.length))).session.durable := fresh.1
  have isPending : (write, before.length) ∈
      (entered.perform (.write (write, before.length))).session.pending := by
    simp [UnitOfWork.perform, Session.add]
  simp only [notYet, isPending, false_or, true_and] at durable pending
  constructor
  · rw [DurableAfter, UnitOfWork.block, last, UnitOfWork.exit]
    split
    · next isCommitted =>
        have someCommit := committed.mp isCommitted
        simp only [Bool.false_eq_true, false_or, List.mem_append, List.mem_cons, reduceCtorEq,
          false_or] at someCommit
        rw [durable]
        refine ⟨.inl, ?_⟩
        rintro (commits | ⟨stays, noCommit⟩)
        · exact commits
        · exact absurd (someCommit.resolve_left noCommit) ((firstEnd_eq_none_iff after).mp stays).1
    · next notCommitted =>
        have noCommit : .commit ∉ before := by
          intro early
          exact notCommitted (committed.mpr (.inr (List.mem_append_left _ early)))
        rw [Session.commit, List.mem_append, durable, pending, and_iff_left noCommit]
  · rw [DurableAfter, UnitOfWork.block, last]
    exact durable

/-- A block commits on success exactly if no write is left after its last commit. -/
theorem commitsOnSuccess_iff (body : List (Operation Write)) :
    CommitsOnSuccess body ↔ Settled body := by
  constructor
  · intro commits before write after split early
    by_contra unsettled
    rw [not_or] at unsettled
    have durable := commits.1 before write after split unsettled.2
    rw [split, (durableAfter_iff before write after).1] at durable
    rcases durable with byCommit | ⟨-, noCommit⟩
    · exact unsettled.1 (commit_mem_of_firstEnd byCommit)
    · exact noCommit early
  · intro settled
    constructor
    · intro before write after split noRollback
      rw [split, (durableAfter_iff before write after).1]
      by_cases later : .commit ∈ after
      · exact .inl (firstEnd_of_commit later noRollback)
      · right
        refine ⟨(firstEnd_eq_none_iff after).mpr ⟨later, noRollback⟩, ?_⟩
        intro early
        exact (settled before write after split early).elim later noRollback
    · intro before write after split noCommit
      rw [split, (durableAfter_iff before write after).2]
      exact fun byCommit => noCommit (commit_mem_of_firstEnd byCommit)

end Blocks

/-- The second write follows an explicit commit and is lost. -/
theorem write_after_commit_lost :
    ¬ CommitsOnSuccess [Operation.write "first", .commit, .write "second"] := by
  intro commits
  have durable := commits.1 [.write "first", .commit] "second" [] rfl List.not_mem_nil
  exact absurd durable (by simp [DurableAfter, UnitOfWork.block, numbered, Operation.numbered,
    UnitOfWork.perform, UnitOfWork.commit, UnitOfWork.exit, Session.add, Session.commit])

end FinanceSync.Persistence.Uow
