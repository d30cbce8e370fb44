import FinanceSync.Lib.Markers
import FinanceSync.Wealthfolio.EasyBudgeting
import Mathlib.Data.Bool.AllAny
import Mathlib.Data.List.TakeWhile

/-!
# Comments of activities

The comment of an activity ends with the id of its transaction.  The incremental
cleanup reads the ids back from the comments in the destination and deletes the
activities of other ids, and those with the comments of Easy Budgeting.
-/

namespace FinanceSync.Wealthfolio

open Lib

/-! ## Reading an id back -/

/-- `[][0]` -/
inductive CommentError
  | indexError
deriving DecidableEq, Repr

/-- `tail.strip().split()[0]` -/
def firstWord (tail : List Char) : Except CommentError (List Char) :=
  let word := (strip tail).takeWhile fun char => !isSpace char
  if word = [] then .error .indexError else .ok word

/-- The text that the id is read from: what follows the last marker. -/
def markedTail (comment : List Char) : Option (List Char) :=
  (afterLast "| ID:".toList comment).or (afterLast "ID:".toList comment)

/-- The source id that `delete_activities_not_in` reads from a comment. -/
def parseSourceId (comment : List Char) : Except CommentError (List Char) :=
  match markedTail comment with
  | some tail => firstWord tail
  | none => .ok []

/-- An activity of the destination, as the cleanup sees it. -/
structure RemoteComment where
  id : String
  comment : String
  sourceRecordId : String
deriving DecidableEq

/-- The source id that `delete_activities_by_source_ids` reads. -/
def sourceIdOf (row : RemoteComment) : Except CommentError (List Char) :=
  match markedTail row.comment.toList with
  | some tail => firstWord tail
  | none => .ok (strip row.sourceRecordId.toList)

/-! ## The cleanup -/

/-- Delete the rows that are to be deleted, one after the other. -/
def deleteWhere (delete : RemoteComment → Except CommentError Bool) :
    List RemoteComment → Except CommentError (List RemoteComment)
  | [] => .ok []
  | row :: rows => do
      let deleted ← delete row
      let kept ← deleteWhere delete rows
      return if deleted then kept else row :: kept

/-- Delete managed activities whose source ID is listed. -/
def deleteActivitiesBySourceIds (sourceIds : List String) (rows : List RemoteComment) :
    Except CommentError (List RemoteComment) :=
  if sourceIds = [] then .ok rows
  else
    deleteWhere
      (fun row =>
        if row.id = "" then .ok false
        else (sourceIdOf row).map fun id => decide (String.ofList id ∈ sourceIds))
      rows

/-- Remove connector-owned activities identified by a comment prefix. -/
def deleteActivitiesByCommentPrefix (start : String) (rows : List RemoteComment) :
    List RemoteComment :=
  rows.filter fun row => !(start.toList.isPrefixOf row.comment.toList && row.id ≠ "")

/-- Remove destination activities not present in the source dataset. -/
def deleteActivitiesNotIn (externalTransactionIds preservedCommentPrefixes : List String)
    (rows : List RemoteComment) : Except CommentError (List RemoteComment) :=
  deleteWhere
    (fun row =>
      if preservedCommentPrefixes.any fun start => start.toList.isPrefixOf row.comment.toList then
        .ok false
      else
        (parseSourceId row.comment.toList).map fun id =>
          decide (String.ofList id ∉ externalTransactionIds ∧ row.id ≠ ""))
    rows

/-- The comments that Bunq writes for Easy Budgeting. -/
def easyBudgetingCommentPrefixes : List String :=
  ["Remainder of your ", "Automatic budget top up."]

/-- The cleanup of an account before an incremental push. -/
def incrementalCleanup (easyBudgetingIds allowedActivityIds preservedCommentPrefixes : List String)
    (rows : List RemoteComment) : Except CommentError (List RemoteComment) := do
  let rows ← deleteActivitiesBySourceIds easyBudgetingIds rows
  let rows := easyBudgetingCommentPrefixes.foldl
    (fun rows start => deleteActivitiesByCommentPrefix start rows) rows
  deleteActivitiesNotIn allowedActivityIds preservedCommentPrefixes rows

/-! ## Words -/

theorem strip_space_cons {char : Char} {chars : List Char} (space : isSpace char = true) :
    strip (char :: chars) = strip chars := by
  rw [strip, strip, List.dropWhile_cons_of_pos space]

theorem not_space_of_firstWord {tail word : List Char} (read : firstWord tail = .ok word) :
    ∀ char ∈ word, isSpace char = false := by
  simp only [firstWord] at read
  split at read
  · cases read
  · cases read
    intro char charMem
    simpa using List.mem_takeWhile_imp charMem

theorem not_space_of_parseSourceId {comment id : List Char}
    (read : parseSourceId comment = .ok id) : ∀ char ∈ id, isSpace char = false := by
  rw [parseSourceId] at read
  split at read
  · exact not_space_of_firstWord read
  · cases read
    simp

theorem length_strip_le (chars : List Char) : (strip chars).length ≤ chars.length := by
  rw [strip, List.length_reverse]
  calc _ ≤ (chars.dropWhile isSpace).reverse.length := (List.dropWhile_sublist _).length_le
    _ = (chars.dropWhile isSpace).length := List.length_reverse
    _ ≤ chars.length := (List.dropWhile_sublist _).length_le

theorem length_of_firstWord {tail word : List Char} (read : firstWord tail = .ok word) :
    word.length ≤ tail.length := by
  simp only [firstWord] at read
  split at read
  · cases read
  · cases read
    exact (List.takeWhile_sublist _).length_le.trans (length_strip_le tail)

/-- A word is read from itself. -/
theorem firstWord_self {word : List Char} (notSpace : ∀ char ∈ word, isSpace char = false)
    (nonempty : word ≠ []) : firstWord (' ' :: word) = .ok word := by
  have whole : word.takeWhile (fun char => !isSpace char) = word := by
    rw [List.takeWhile_eq_self_iff]
    intro char charMem
    simp [notSpace char charMem]
  simp only [firstWord]
  rw [strip_space_cons (by decide), Decimal.strip_of_not_space notSpace, whole, if_neg nonempty]

/-- The stripped text starts with the first character that is no blank. -/
theorem strip_eq_cons {chars : List Char} {first : Char} {rest : List Char}
    (starts : chars.dropWhile isSpace = first :: rest) (notSpace : isSpace first = false) :
    ∃ tail, strip chars = first :: tail := by
  rw [strip, starts]
  exact stripEnd_cons notSpace rest

/-- A word is read exactly if the text is not blank. -/
theorem firstWord_isOk_iff (tail : List Char) :
    (∃ word, firstWord tail = .ok word) ↔ ∃ char ∈ tail, isSpace char = false := by
  cases starts : tail.dropWhile isSpace with
  | nil =>
      have blank : ∀ char ∈ tail, isSpace char = true := List.dropWhile_eq_nil_iff.mp starts
      constructor
      · intro read
        cases read with
        | intro word read =>
            have nothing : strip tail = [] := by rw [strip, starts]; rfl
            simp [firstWord, nothing] at read
      · intro some
        obtain ⟨char, charMem, notSpace⟩ := some
        rw [blank char charMem] at notSpace
        cases notSpace
  | cons first rest =>
      have notSpace : isSpace first = false := by
        have head := List.head?_dropWhile_not isSpace tail
        rw [starts] at head
        simpa using head
      obtain ⟨others, stripped⟩ := strip_eq_cons starts notSpace
      constructor
      · intro read
        have firstMem : first ∈ tail.dropWhile isSpace := starts ▸ List.mem_cons_self
        exact ⟨first, (List.dropWhile_sublist _).mem firstMem, notSpace⟩
      · intro some
        simp [firstWord, stripped, notSpace]

/-- The parse of a comment succeeds unless only blanks follow its last marker. -/
theorem parseSourceId_isOk_iff (comment : List Char) :
    (∃ id, parseSourceId comment = .ok id) ↔
      ∀ tail ∈ markedTail comment, ∃ char ∈ tail, isSpace char = false := by
  rw [parseSourceId]
  cases markedTail comment with
  | none => simp
  | some tail => simpa using firstWord_isOk_iff tail

/-! ## The comment of a transaction -/

theorem buildComment_toList {txn : Transaction} (identified : txn.externalTransactionId ≠ "") :
    (buildComment txn).toList =
      if txn.description.getD "" = "" then
        "ID:".toList ++ ' ' :: txn.externalTransactionId.toList
      else
        (txn.description.getD "").toList ++
          (' ' :: ("| ID:".toList ++ ' ' :: txn.externalTransactionId.toList)) := by
  by_cases blank : txn.description.getD "" = ""
  · simp [buildComment, blank, identified]
  · simp [buildComment, blank, identified]

/-- No marker follows a blank in a text without blanks. -/
theorem afterLast_comment_of_not_space {chars : List Char}
    (notSpace : ∀ char ∈ chars, isSpace char = false) :
    afterLast "| ID:".toList chars = none := by
  rw [afterLast_eq_none_iff]
  intro occurs
  have space := notSpace ' ' (occurs.subset (by decide))
  cases space

/-- After a description the id, or what follows a marker in it, is read. -/
theorem markedTail_described (description id : List Char) :
    markedTail (description ++ ' ' :: ("| ID:".toList ++ ' ' :: id)) =
      some ((afterLast "| ID:".toList id).getD (' ' :: id)) := by
  have around : afterLast ('|' :: " ID:".toList)
      ((description ++ [' ']) ++ '|' :: (" ID:".toList ++ ' ' :: id)) =
      some ((afterLast ('|' :: " ID:".toList) (' ' :: id)).getD (' ' :: id)) :=
    afterLast_around (description ++ [' ']) (by decide)
  have inId : afterLast ('|' :: " ID:".toList) (' ' :: id) =
      afterLast ('|' :: " ID:".toList) id :=
    afterLast_append_of_not_mem [' '] (by decide)
  rw [inId, List.append_assoc] at around
  rw [markedTail]
  change (afterLast ('|' :: " ID:".toList)
    (description ++ ([' '] ++ '|' :: (" ID:".toList ++ ' ' :: id)))).or _ = _
  rw [around]
  rfl

/-- Without a description the id, or what follows a marker in it, is read. -/
theorem markedTail_bare (id : List Char) :
    markedTail ("ID:".toList ++ ' ' :: id) =
      (afterLast "| ID:".toList id).or (some ((afterLast "ID:".toList id).getD (' ' :: id))) := by
  have described : afterLast ('|' :: " ID:".toList) ("ID: ".toList ++ id) =
      afterLast ('|' :: " ID:".toList) id :=
    afterLast_append_of_not_mem "ID: ".toList (by decide)
  have around : afterLast ('I' :: "D:".toList) ([] ++ 'I' :: ("D:".toList ++ ' ' :: id)) =
      some ((afterLast ('I' :: "D:".toList) (' ' :: id)).getD (' ' :: id)) :=
    afterLast_around [] (by decide)
  have inId : afterLast ('I' :: "D:".toList) (' ' :: id) = afterLast ('I' :: "D:".toList) id :=
    afterLast_append_of_not_mem [' '] (by decide)
  rw [inId] at around
  rw [markedTail]
  change (afterLast ('|' :: " ID:".toList) ("ID: ".toList ++ id)).or
    (afterLast ('I' :: "D:".toList) ([] ++ 'I' :: ("D:".toList ++ ' ' :: id))) = _
  rw [described, around]
  rfl

/-- The id is read back exactly if it has no blanks and, where there is no
description before it, no marker. -/
theorem parseSourceId_buildComment_iff {txn : Transaction}
    (identified : txn.externalTransactionId ≠ "") :
    parseSourceId (buildComment txn).toList = .ok txn.externalTransactionId.toList ↔
      (∀ char ∈ txn.externalTransactionId.toList, isSpace char = false) ∧
        (txn.description.getD "" = "" →
          ¬"ID:".toList <:+: txn.externalTransactionId.toList) := by
  have nonempty : txn.externalTransactionId.toList ≠ [] := by simpa using identified
  rw [buildComment_toList identified]
  generalize txn.externalTransactionId.toList = chars at nonempty ⊢
  split
  · next blank =>
      simp only [blank, forall_const]
      constructor
      · intro read
        have notSpace := not_space_of_parseSourceId read
        rw [parseSourceId, markedTail_bare, afterLast_comment_of_not_space notSpace,
          Option.none_or] at read
        refine ⟨notSpace, fun occurs => ?_⟩
        cases found : afterLast "ID:".toList chars with
        | none => exact afterLast_eq_none_iff.mp found occurs
        | some tail =>
            rw [found, Option.getD_some] at read
            have shorter := length_of_afterLast found
            have atMost := length_of_firstWord read
            simp at shorter
            omega
      · intro plain
        rw [parseSourceId, markedTail_bare, afterLast_comment_of_not_space plain.1,
          afterLast_eq_none_iff.mpr plain.2]
        exact firstWord_self plain.1 nonempty
  · next described =>
      simp only [described, false_implies, and_true]
      constructor
      · exact not_space_of_parseSourceId
      · intro notSpace
        rw [parseSourceId, markedTail_described, afterLast_comment_of_not_space notSpace]
        exact firstWord_self notSpace nonempty

/-! ## What the cleanup keeps -/

/-- The comment is taken for one of Easy Budgeting exactly if the description,
with the blank after it, starts like one. -/
theorem prefix_buildComment_iff {txn : Transaction} (identified : txn.externalTransactionId ≠ "")
    {start : String} (isPrefix : start ∈ easyBudgetingCommentPrefixes) :
    start.toList <+: (buildComment txn).toList ↔
      start.toList <+: (txn.description.getD "").toList ++ [' '] := by
  have noBar : '|' ∉ start.toList ∧ ¬start.toList <+: [' '] ∧
      ∀ rest, ¬start.toList <+: 'I' :: rest := by
    simp only [easyBudgetingCommentPrefixes, List.mem_cons, List.not_mem_nil, or_false]
      at isPrefix
    cases isPrefix with
    | inl remainder => simp [remainder]
    | inr topUp => simp [topUp]
  rw [buildComment_toList identified]
  split
  · next blank =>
      rw [blank]
      exact iff_of_false (noBar.2.2 _) noBar.2.1
  · next described =>
      have bar : (txn.description.getD "").toList ++
          ' ' :: ("| ID:".toList ++ ' ' :: txn.externalTransactionId.toList) =
          ((txn.description.getD "").toList ++ [' ']) ++
            '|' :: (" ID: ".toList ++ txn.externalTransactionId.toList) := by simp
      rw [bar, prefix_append_cons_iff noBar.1]

theorem mem_deleteWhere {delete : RemoteComment → Except CommentError Bool}
    {rows kept : List RemoteComment} (cleaned : deleteWhere delete rows = .ok kept)
    {row : RemoteComment} (rowMem : row ∈ rows) (keeps : delete row = .ok false) : row ∈ kept := by
  induction rows generalizing kept with
  | nil => cases rowMem
  | cons first rows ih =>
      simp only [deleteWhere, bind_eq_ok] at cleaned
      obtain ⟨deleted, isDeleted, rest, cleanedRest, isKept⟩ := cleaned
      cases isKept
      cases rowMem with
      | head =>
          rw [keeps] at isDeleted
          cases isDeleted
          exact List.mem_cons_self
      | tail _ rowMem =>
          have inRest := ih cleanedRest rowMem
          split
          · exact inRest
          · exact List.mem_cons_of_mem _ inRest

/-- The comment of the transaction leads back to it and is not taken for one of
Easy Budgeting. -/
structure CommentSurvives (txn : Transaction) : Prop where
  parsed : parseSourceId (buildComment txn).toList = .ok txn.externalTransactionId.toList
  unmatched : ∀ start ∈ easyBudgetingCommentPrefixes,
    ¬start.toList <+: (buildComment txn).toList

/-- The id has no blanks, and no marker where it is the whole comment; the
description does not start like one of Easy Budgeting. -/
structure CommentSafe (txn : Transaction) : Prop where
  oneWord : ∀ char ∈ txn.externalTransactionId.toList, isSpace char = false
  unmarked : txn.description.getD "" = "" → ¬"ID:".toList <:+: txn.externalTransactionId.toList
  ordinary : ∀ start ∈ easyBudgetingCommentPrefixes,
    ¬start.toList <+: (txn.description.getD "").toList ++ [' ']

theorem commentSurvives_iff {txn : Transaction} (identified : txn.externalTransactionId ≠ "") :
    CommentSurvives txn ↔ CommentSafe txn := by
  constructor
  · intro survives
    have plain := (parseSourceId_buildComment_iff identified).mp survives.parsed
    exact
      { oneWord := plain.1
        unmarked := plain.2
        ordinary := fun start isPrefix matched =>
          survives.unmatched start isPrefix
            ((prefix_buildComment_iff identified isPrefix).mpr matched) }
  · intro safe
    exact
      { parsed := (parseSourceId_buildComment_iff identified).mpr ⟨safe.oneWord, safe.unmarked⟩
        unmatched := fun start isPrefix matched =>
          safe.ordinary start isPrefix ((prefix_buildComment_iff identified isPrefix).mp matched) }

section Cleanup

variable {txn : Transaction} {row : RemoteComment} {rows kept : List RemoteComment}

theorem sourceIdOf_of_parsed (identified : txn.externalTransactionId ≠ "")
    (parsed : parseSourceId row.comment.toList = .ok txn.externalTransactionId.toList) :
    sourceIdOf row = .ok txn.externalTransactionId.toList := by
  rw [parseSourceId] at parsed
  rw [sourceIdOf]
  split at parsed
  · exact parsed
  · apply absurd _ identified
    simpa using (Except.ok.inj parsed).symm

theorem deleteActivitiesBySourceIds_keeps {sourceIds : List String}
    (cleaned : deleteActivitiesBySourceIds sourceIds rows = .ok kept) (rowMem : row ∈ rows)
    (source : sourceIdOf row = .ok txn.externalTransactionId.toList)
    (other : txn.externalTransactionId ∉ sourceIds) : row ∈ kept := by
  rw [deleteActivitiesBySourceIds] at cleaned
  split at cleaned
  · cases cleaned
    exact rowMem
  · apply mem_deleteWhere cleaned rowMem
    split
    · rfl
    · rw [source]
      simp [Except.map, other]

theorem deleteActivitiesByCommentPrefix_keeps {start : String} (rowMem : row ∈ rows)
    (unmatched : ¬start.toList <+: row.comment.toList) :
    row ∈ deleteActivitiesByCommentPrefix start rows := by
  rw [deleteActivitiesByCommentPrefix, List.mem_filter]
  refine ⟨rowMem, ?_⟩
  have noMatch : start.toList.isPrefixOf row.comment.toList = false := by
    rw [← Bool.not_eq_true, List.isPrefixOf_iff_prefix]
    exact unmatched
  rw [noMatch]
  rfl

theorem deleteActivitiesNotIn_keeps {allowed preserved : List String}
    (cleaned : deleteActivitiesNotIn allowed preserved rows = .ok kept) (rowMem : row ∈ rows)
    (parsed : parseSourceId row.comment.toList = .ok txn.externalTransactionId.toList)
    (listed : txn.externalTransactionId ∈ allowed) : row ∈ kept := by
  apply mem_deleteWhere cleaned rowMem
  split
  · rfl
  · rw [parsed]
    simp [Except.map, listed]

/-- A cleanup that does not fail keeps the activity of a listed transaction whose
comment leads back to it. -/
theorem incrementalCleanup_keeps {easyBudgetingIds allowed preserved : List String}
    (cleaned : incrementalCleanup easyBudgetingIds allowed preserved rows = .ok kept)
    (rowMem : row ∈ rows) (identified : txn.externalTransactionId ≠ "")
    (comment : row.comment = buildComment txn) (survives : CommentSurvives txn)
    (listed : txn.externalTransactionId ∈ allowed)
    (other : txn.externalTransactionId ∉ easyBudgetingIds) : row ∈ kept := by
  simp only [incrementalCleanup, bind_eq_ok] at cleaned
  obtain ⟨first, bySource, notIn⟩ := cleaned
  have parsed := survives.parsed
  rw [← comment] at parsed
  have inFirst : row ∈ first :=
    deleteActivitiesBySourceIds_keeps bySource rowMem (sourceIdOf_of_parsed identified parsed) other
  have unmatched : ∀ start ∈ easyBudgetingCommentPrefixes,
      ¬start.toList <+: row.comment.toList := comment ▸ survives.unmatched
  apply deleteActivitiesNotIn_keeps notIn _ parsed listed
  apply deleteActivitiesByCommentPrefix_keeps _ (unmatched _ (by decide))
  exact deleteActivitiesByCommentPrefix_keeps inFirst (unmatched _ (by decide))

end Cleanup

/-- The activity of a transaction survives the cleanup exactly if its comment is
safe, and a comment is read exactly if its last marker is followed by a word. -/
theorem cleanup_keeps_iff (txn : Transaction) (identified : txn.externalTransactionId ≠ "") :
    (CommentSurvives txn ↔ CommentSafe txn) ∧
      (CommentSafe txn → ∀ easyBudgetingIds allowed preserved rows kept,
        incrementalCleanup easyBudgetingIds allowed preserved rows = .ok kept →
          txn.externalTransactionId ∈ allowed → txn.externalTransactionId ∉ easyBudgetingIds →
            ∀ row ∈ rows, row.comment = buildComment txn → row ∈ kept) ∧
      ∀ comment : String, (∃ id, parseSourceId comment.toList = .ok id) ↔
        ∀ tail ∈ markedTail comment.toList, ∃ char ∈ tail, isSpace char = false := by
  refine ⟨commentSurvives_iff identified, ?_, fun comment => parseSourceId_isOk_iff _⟩
  intro safe easyBudgetingIds allowed preserved rows kept cleaned listed other row rowMem comment
  exact incrementalCleanup_keeps cleaned rowMem identified comment
    ((commentSurvives_iff identified).mpr safe) listed other

/-- A payment whose provider has ids of two words. -/
def groceries : Transaction where
  id := "transaction-3"
  tenantId := "tenant-1"
  providerKey := "csv"
  externalTransactionId := "2024 0017"
  accountId := "account-1"
  amount := -25
  currencyCode := "EUR"
  occurredAt := 1704067200000000
  transactionType := .payment
  description := some "Groceries"
  status := .booked

theorem commentSurvives_of_one_word :
    CommentSurvives { groceries with externalTransactionId := "2024-0017" } := by
  apply (cleanup_keeps_iff { groceries with externalTransactionId := "2024-0017" }
    (by decide)).1.mpr
  exact
    { oneWord := List.all_iff_forall_prop.mp (by decide +kernel)
      unmarked := by simp [groceries]
      ordinary := by decide +kernel }

/-- The cleanup deletes an activity whose id has a blank, one whose description
starts like one of Easy Budgeting, and fails at a comment that ends with a marker. -/
theorem cleanup_deletes_live :
    groceries.exportStatus = "active" ∧ isBunqEasyBudgetingTransaction groceries = false ∧
      parseSourceId (buildComment groceries).toList = .ok "2024".toList ∧
      incrementalCleanup [] [groceries.externalTransactionId] []
        [⟨"activity-1", buildComment groceries, groceries.externalTransactionId⟩] = .ok [] ∧
      isBunqEasyBudgetingTransaction { groceries with
        providerKey := "bunq", description := some "Remainder of your order" } = false ∧
      "Remainder of your ".toList <+: (buildComment { groceries with
        providerKey := "bunq", description := some "Remainder of your order" }).toList ∧
      parseSourceId "Passport ID: ".toList = .error .indexError := by
  decide +kernel

end FinanceSync.Wealthfolio
