import FinanceSync.Data.DecimalText
import FinanceSync.Lib.Pairing
import FinanceSync.TaxLots.Transaction

/-!
# Pairs of transfer legs

Legs are grouped by a key that has the quantity as text, and the outbound and the
inbound legs of a group are paired in the order of their ids.  The pairs are always
sound.  The one pair that a class of legs has across accounts is found exactly where
both quantities are written alike and both legs come first on their sides.
-/

namespace FinanceSync.TaxLots

open Lib

/-! ## Legs -/

/-- What two legs of one transfer agree on.  The quantity takes part as a number. -/
structure LegClass where
  securityId : Uuid
  currencyCode : String
  date : Int
  quantity : ℚ
  reference : String
deriving DecidableEq

/-- The class of a transfer that can be paired. -/
def legClass (transaction : Transaction) : Option LegClass :=
  (transferKey transaction).map fun key =>
    { securityId := key.securityId
      currencyCode := key.currencyCode
      date := key.date
      quantity := transaction.absQuantity
      reference := key.reference }

def Outbound (transaction : Transaction) : Prop := transaction.amount.value < 0

instance (transaction : Transaction) : Decidable (Outbound transaction) :=
  inferInstanceAs (Decidable (_ < _))

def Inbound (transaction : Transaction) : Prop := 0 < transaction.amount.value

instance (transaction : Transaction) : Decidable (Inbound transaction) :=
  inferInstanceAs (Decidable (_ < _))

/-- The two legs of a transfer between accounts. -/
structure CrossLegs (source destination : Transaction) : Prop where
  outbound : Outbound source
  inbound : Inbound destination
  sameClass : legClass source = legClass destination
  isLeg : (legClass source).isSome
  accounts : source.accountId ≠ destination.accountId

/-! ## What the pairs should be -/

/-- A symmetric, irreflexive and injective map between the legs of transfers. -/
structure PairsLegs (transactions : List Transaction) (pairs : TransferPairs) : Prop where
  legs : ∀ {id other}, pairs.lookup id = some other →
    ∃ leg ∈ transactions, leg.id = id ∧ other ∈ transactions ∧
      (CrossLegs leg other ∨ CrossLegs other leg) ∧ pairs.lookup other.id = some leg
  irreflexive : ∀ {id other}, pairs.lookup id = some other → other.id ≠ id
  injective : ∀ {id otherId other}, pairs.lookup id = some other →
    pairs.lookup otherId = some other → id = otherId

/-- The only outbound and inbound legs of their class that are on different accounts. -/
structure OnlyPair (transactions : List Transaction) (source destination : Transaction) :
    Prop where
  sourceMem : source ∈ transactions
  destinationMem : destination ∈ transactions
  cross : CrossLegs source destination
  only : ∀ first ∈ transactions, ∀ second ∈ transactions, CrossLegs first second →
    legClass first = legClass source → first = source ∧ second = destination

/-- The one pair of a class is found. -/
def FindsOnlyPairs (transactions : List Transaction) (pairs : TransferPairs) : Prop :=
  ∀ source destination, OnlyPair transactions source destination →
    pairs.lookup source.id = some destination ∧ pairs.lookup destination.id = some source

/-! ## When they are -/

/-- Of the legs of the same text, none on its side has a smaller id. -/
structure FirstOfGroup (transactions : List Transaction) (source destination : Transaction) :
    Prop where
  sameText : transferKey source = transferKey destination
  source_le : ∀ row ∈ transactions, transferKey row = transferKey source → Outbound row →
    source.id ≤ row.id
  destination_le : ∀ row ∈ transactions, transferKey row = transferKey source → Inbound row →
    destination.id ≤ row.id

/-! ## Groups -/

variable {transactions : List Transaction}

/-- The transactions of a group, in the given order. -/
def groupOf (key : TransferKey) (transactions : List Transaction) : List Transaction :=
  transactions.filter fun row => transferKey row = some key

theorem mem_groupOf {key : TransferKey} {row : Transaction} :
    row ∈ groupOf key transactions ↔ row ∈ transactions ∧ transferKey row = some key := by
  rw [groupOf, List.mem_filter, decide_eq_true_eq]

theorem lookup_transferGroups (transactions : List Transaction) (key : TransferKey) :
    ((transferGroups transactions).lookup key).getD [] = groupOf key transactions := by
  induction transactions using List.reverseRecOn with
  | nil => rfl
  | append_singleton before transaction ih =>
      rw [groupOf, List.filter_append]
      rw [groupOf] at ih
      simp only [transferGroups, List.foldl_append, List.foldl_cons, List.foldl_nil]
      simp only [transferGroups] at ih
      cases hasKey : transferKey transaction with
      | none =>
          dsimp only
          rw [ih]
          simp [hasKey]
      | some newKey =>
          dsimp only
          by_cases same : key = newKey
          · subst same
            rw [AList.lookup_insert, Option.getD_some, ih]
            simp [hasKey]
          · rw [AList.lookup_insert_ne same, ih]
            simp [hasKey, Ne.symm same]

/-- The pairs of all groups. -/
def matched (transactions : List Transaction) : List (Transaction × Transaction) :=
  ((transferGroups transactions).entries.map Sigma.snd).flatMap matchedLegs

theorem pairSecurityTransferLegs_eq :
    pairSecurityTransferLegs transactions = partners Transaction.id (matched transactions) := rfl

/-- The outbound legs of a group, in the order of their ids. -/
def outboundOf (key : TransferKey) (transactions : List Transaction) : List Transaction :=
  (OrderBy.stable Transaction.id).sort
    ((groupOf key transactions).filter fun row => row.amount.value < 0)

/-- The inbound legs of a group, in the order of their ids. -/
def inboundOf (key : TransferKey) (transactions : List Transaction) : List Transaction :=
  (OrderBy.stable Transaction.id).sort
    ((groupOf key transactions).filter fun row => 0 < row.amount.value)

theorem mem_outboundOf {key : TransferKey} {row : Transaction} :
    row ∈ outboundOf key transactions ↔
      row ∈ transactions ∧ transferKey row = some key ∧ Outbound row := by
  rw [outboundOf, OrderBy.mem_sort, List.mem_filter, mem_groupOf, decide_eq_true_eq, and_assoc]
  rfl

theorem mem_inboundOf {key : TransferKey} {row : Transaction} :
    row ∈ inboundOf key transactions ↔
      row ∈ transactions ∧ transferKey row = some key ∧ Inbound row := by
  rw [inboundOf, OrderBy.mem_sort, List.mem_filter, mem_groupOf, decide_eq_true_eq, and_assoc]
  rfl

/-- A pair is formed in the group of some key. -/
theorem mem_matched {pair : Transaction × Transaction} :
    pair ∈ matched transactions ↔
      pair.1.accountId ≠ pair.2.accountId ∧
        ∃ key, pair ∈ (outboundOf key transactions).zip (inboundOf key transactions) := by
  have inGroup (key : TransferKey) : pair ∈ matchedLegs (groupOf key transactions) ↔
      pair ∈ (outboundOf key transactions).zip (inboundOf key transactions) ∧
        pair.1.accountId ≠ pair.2.accountId := by
    rw [matchedLegs, List.mem_filter, decide_eq_true_eq]
    rfl
  rw [matched, List.mem_flatMap]
  constructor
  · rintro ⟨rows, rowsMem, isMatched⟩
    obtain ⟨⟨key, rows⟩, isEntry, rfl⟩ := List.mem_map.mp rowsMem
    have isGroup := lookup_transferGroups transactions key
    rw [AList.mem_lookup_iff.mpr isEntry, Option.getD_some] at isGroup
    dsimp only at isMatched
    rw [isGroup] at isMatched
    exact ⟨((inGroup key).mp isMatched).2, key, ((inGroup key).mp isMatched).1⟩
  · rintro ⟨accounts, key, zipped⟩
    have isMatched := (inGroup key).mpr ⟨zipped, accounts⟩
    have isGroup := lookup_transferGroups transactions key
    cases found : (transferGroups transactions).lookup key with
    | none =>
        rw [found, Option.getD_none] at isGroup
        obtain ⟨stored, hasKey, -⟩ := mem_outboundOf.mp (List.of_mem_zip zipped).1
        have inRows := mem_groupOf.mpr ⟨stored, hasKey⟩
        rw [← isGroup] at inRows
        nomatch inRows
    | some rows =>
        rw [found, Option.getD_some] at isGroup
        exact ⟨rows, List.mem_map_of_mem (AList.mem_lookup_iff.mp found), isGroup ▸ isMatched⟩

/-! ## The pairs are sound -/

/-- Legs whose keys are the same are of the same class: the text of a quantity says
its number. -/
theorem legClass_of_key {first second : Transaction} {key : TransferKey}
    (firstKey : transferKey first = some key) (secondKey : transferKey second = some key) :
    legClass first = legClass second := by
  have quantity {leg : Transaction} (hasKey : transferKey leg = some key) :
      leg.absQuantity = (⟨key.quantityText.1, key.quantityText.2⟩ : Decimal).value := by
    unfold transferKey at hasKey
    split at hasKey
    · contradiction
    · split at hasKey
      · next quantity _ _ hasQuantity =>
          split at hasKey
          · contradiction
          · cases hasKey
            rw [Transaction.absQuantity, hasQuantity]
            exact (Decimal.value_abs quantity).symm
      · contradiction
  rw [legClass, legClass, firstKey, secondKey, Option.map_some, Option.map_some,
    quantity firstKey, quantity secondKey]

theorem transferKey_isSome_of_legClass {leg : Transaction} (isLeg : (legClass leg).isSome) :
    ∃ key, transferKey leg = some key := by
  rw [legClass, Option.isSome_map] at isLeg
  exact Option.isSome_iff_exists.mp isLeg

section Ids

variable (ids : (transactions.map Transaction.id).Nodup)

include ids

theorem eq_of_id {first second : Transaction} (firstMem : first ∈ transactions)
    (secondMem : second ∈ transactions) (same : first.id = second.id) : first = second :=
  List.inj_on_of_nodup_map ids firstMem secondMem same

theorem nodup_ids_groupOf (key : TransferKey) (side : Transaction → Bool) :
    (((groupOf key transactions).filter side).map Transaction.id).Nodup := by
  refine ids.sublist (List.Sublist.map _ ?_)
  exact List.filter_sublist.trans List.filter_sublist

theorem nodup_outboundOf (key : TransferKey) : (outboundOf key transactions).Nodup :=
  ((OrderBy.perm _ _).nodup_iff).mpr (nodup_ids_groupOf ids key _).of_map

theorem nodup_inboundOf (key : TransferKey) : (inboundOf key transactions).Nodup :=
  ((OrderBy.perm _ _).nodup_iff).mpr (nodup_ids_groupOf ids key _).of_map

omit ids in
/-- The legs of a pair are stored and cross accounts. -/
theorem cross_of_matched {pair : Transaction × Transaction}
    (isMatched : pair ∈ matched transactions) :
    pair.1 ∈ transactions ∧ pair.2 ∈ transactions ∧ CrossLegs pair.1 pair.2 := by
  obtain ⟨accounts, key, zipped⟩ := mem_matched.mp isMatched
  obtain ⟨sourceMem, sourceKey, outbound⟩ := mem_outboundOf.mp (List.of_mem_zip zipped).1
  obtain ⟨destinationMem, destinationKey, inbound⟩ := mem_inboundOf.mp (List.of_mem_zip zipped).2
  refine ⟨sourceMem, destinationMem, outbound, inbound,
    legClass_of_key sourceKey destinationKey, ?_, accounts⟩
  rw [legClass, sourceKey]
  rfl

/-- A leg is in one group, and there at one place of its side. -/
theorem apart_matched : Apart Transaction.id (matched transactions) where
  left pair pairMem other otherMem same := by
    obtain ⟨-, key, zipped⟩ := mem_matched.mp pairMem
    obtain ⟨-, otherKey, otherZipped⟩ := mem_matched.mp otherMem
    obtain ⟨stored, hasKey, -⟩ := mem_outboundOf.mp (List.of_mem_zip zipped).1
    obtain ⟨otherStored, otherHasKey, -⟩ := mem_outboundOf.mp (List.of_mem_zip otherZipped).1
    have sameLeg := eq_of_id ids stored otherStored same
    rw [sameLeg, otherHasKey, Option.some.injEq] at hasKey
    subst hasKey
    exact zip_left_unique (nodup_outboundOf ids _) zipped otherZipped sameLeg
  right pair pairMem other otherMem same := by
    obtain ⟨-, key, zipped⟩ := mem_matched.mp pairMem
    obtain ⟨-, otherKey, otherZipped⟩ := mem_matched.mp otherMem
    obtain ⟨stored, hasKey, -⟩ := mem_inboundOf.mp (List.of_mem_zip zipped).2
    obtain ⟨otherStored, otherHasKey, -⟩ := mem_inboundOf.mp (List.of_mem_zip otherZipped).2
    have sameLeg := eq_of_id ids stored otherStored same
    rw [sameLeg, otherHasKey, Option.some.injEq] at hasKey
    subst hasKey
    exact zip_right_unique (nodup_inboundOf ids _) zipped otherZipped sameLeg
  sides pair pairMem other otherMem same := by
    obtain ⟨stored, -, cross⟩ := cross_of_matched pairMem
    obtain ⟨-, otherStored, otherCross⟩ := cross_of_matched otherMem
    have sameLeg := eq_of_id ids stored otherStored same
    have outbound := cross.outbound
    rw [sameLeg] at outbound
    exact lt_asymm outbound otherCross.inbound

/-- The pairs are a symmetric, irreflexive and injective map between legs. -/
theorem pairsLegs : PairsLegs transactions (pairSecurityTransferLegs transactions) where
  legs {id other} paired := by
    rw [pairSecurityTransferLegs_eq] at paired ⊢
    obtain ⟨pair, isMatched, sides⟩ := (lookup_partners (apart_matched ids)).mp paired
    obtain ⟨sourceMem, destinationMem, cross⟩ := cross_of_matched isMatched
    rcases sides with ⟨isId, rfl⟩ | ⟨isId, rfl⟩
    · refine ⟨pair.1, sourceMem, isId, destinationMem, .inl cross, ?_⟩
      exact (lookup_partners (apart_matched ids)).mpr ⟨pair, isMatched, .inr ⟨rfl, rfl⟩⟩
    · refine ⟨pair.2, destinationMem, isId, sourceMem, .inr cross, ?_⟩
      exact (lookup_partners (apart_matched ids)).mpr ⟨pair, isMatched, .inl ⟨rfl, rfl⟩⟩
  irreflexive := partners_irreflexive (apart_matched ids)
  injective := partners_injective (apart_matched ids)

/-! ## Which single pairs are found -/

variable {source destination : Transaction}

/-- Where a class has one pair across accounts, one of its sides has one leg. -/
theorem OnlyPair.single (only : OnlyPair transactions source destination) {key : TransferKey}
    (sourceKey : transferKey source = some key) :
    (outboundOf key transactions).length ≤ 1 ∨ (inboundOf key transactions).length ≤ 1 := by
  have inClass {row : Transaction} (hasKey : transferKey row = some key) :
      legClass row = legClass source := legClass_of_key hasKey sourceKey
  have cross {first second : Transaction} (isOut : first ∈ outboundOf key transactions)
      (isIn : second ∈ inboundOf key transactions) (accounts : first.accountId ≠ second.accountId) :
      first = source ∧ second = destination := by
    obtain ⟨firstMem, firstKey, outbound⟩ := mem_outboundOf.mp isOut
    obtain ⟨secondMem, secondKey, inbound⟩ := mem_inboundOf.mp isIn
    refine only.only first firstMem second secondMem
      ⟨outbound, inbound, (inClass firstKey).trans (inClass secondKey).symm, ?_, accounts⟩
      (inClass firstKey)
    rw [inClass firstKey]
    exact only.cross.isLeg
  have withDestination {first : Transaction} (isOut : first ∈ outboundOf key transactions)
      (ne : first ≠ source) : first.accountId = destination.accountId := by
    by_contra accounts
    obtain ⟨firstMem, firstKey, outbound⟩ := mem_outboundOf.mp isOut
    refine ne (only.only first firstMem destination only.destinationMem
      ⟨outbound, only.cross.inbound, (inClass firstKey).trans only.cross.sameClass, ?_, accounts⟩
      (inClass firstKey)).1
    rw [inClass firstKey]
    exact only.cross.isLeg
  by_cases outSingle : ∀ row ∈ outboundOf key transactions, row = source
  · exact .inl (length_le_one_of_eq (nodup_outboundOf ids key) outSingle)
  · right
    push Not at outSingle
    obtain ⟨first, isOut, ne⟩ := outSingle
    suffices alone : ∀ second ∈ inboundOf key transactions, second = destination from
      length_le_one_of_eq (nodup_inboundOf ids key) alone
    intro second isIn
    by_contra differs
    -- The other outbound leg is on the account of the destination and the other
    -- inbound leg on the one of the source, so these two cross accounts as well.
    have atDestination := withDestination isOut ne
    have atSource : source.accountId = second.accountId := by
      by_contra accounts
      exact differs (cross (mem_outboundOf.mpr ⟨only.sourceMem, sourceKey, only.cross.outbound⟩)
        isIn accounts).2
    refine ne (cross isOut isIn ?_).1
    rw [atDestination, ← atSource]
    exact only.cross.accounts.symm

/-- The single pair of a class is formed exactly where it is first in its group. -/
theorem OnlyPair.matched_iff (only : OnlyPair transactions source destination) :
    (source, destination) ∈ matched transactions ↔
      FirstOfGroup transactions source destination := by
  obtain ⟨key, sourceKey⟩ := transferKey_isSome_of_legClass only.cross.isLeg
  have sourceOut : source ∈ outboundOf key transactions :=
    mem_outboundOf.mpr ⟨only.sourceMem, sourceKey, only.cross.outbound⟩
  have heads : (source, destination) ∈
        (outboundOf key transactions).zip (inboundOf key transactions) ↔
      (outboundOf key transactions).head? = some source ∧
        (inboundOf key transactions).head? = some destination :=
    mem_zip_iff_head? (only.single ids sourceKey)
  have sourceFirst : (outboundOf key transactions).head? = some source ↔
      ∀ row ∈ transactions, transferKey row = some key → Outbound row → source.id ≤ row.id := by
    rw [outboundOf, OrderBy.head?_sort_iff _ (nodup_ids_groupOf ids key _)
      ((OrderBy.mem_sort _).mp sourceOut)]
    constructor
    · intro least row stored hasKey outbound
      exact least row ((OrderBy.mem_sort _).mp (mem_outboundOf.mpr ⟨stored, hasKey, outbound⟩))
    · intro least row isMem
      obtain ⟨stored, hasKey, outbound⟩ := mem_outboundOf.mp ((OrderBy.mem_sort _).mpr isMem)
      exact least row stored hasKey outbound
  have destinationFirst (destinationKey : transferKey destination = some key) :
      (inboundOf key transactions).head? = some destination ↔
        ∀ row ∈ transactions, transferKey row = some key → Inbound row →
          destination.id ≤ row.id := by
    have destinationIn : destination ∈ inboundOf key transactions :=
      mem_inboundOf.mpr ⟨only.destinationMem, destinationKey, only.cross.inbound⟩
    rw [inboundOf, OrderBy.head?_sort_iff _ (nodup_ids_groupOf ids key _)
      ((OrderBy.mem_sort _).mp destinationIn)]
    constructor
    · intro least row stored hasKey inbound
      exact least row ((OrderBy.mem_sort _).mp (mem_inboundOf.mpr ⟨stored, hasKey, inbound⟩))
    · intro least row isMem
      obtain ⟨stored, hasKey, inbound⟩ := mem_inboundOf.mp ((OrderBy.mem_sort _).mpr isMem)
      exact least row stored hasKey inbound
  rw [mem_matched]
  constructor
  · rintro ⟨-, otherKey, zipped⟩
    obtain ⟨-, otherSourceKey, -⟩ := mem_outboundOf.mp (List.of_mem_zip zipped).1
    obtain ⟨-, destinationKey, -⟩ := mem_inboundOf.mp (List.of_mem_zip zipped).2
    have sameKey : otherKey = key := by
      rw [sourceKey, Option.some.injEq] at otherSourceKey
      exact otherSourceKey.symm
    subst sameKey
    obtain ⟨sourceHead, destinationHead⟩ := heads.mp zipped
    refine ⟨sourceKey.trans destinationKey.symm, ?_, ?_⟩
    · rw [sourceKey]
      exact sourceFirst.mp sourceHead
    · rw [sourceKey]
      exact (destinationFirst destinationKey).mp destinationHead
  · rintro ⟨sameText, sourceLeast, destinationLeast⟩
    rw [sourceKey] at sourceLeast destinationLeast
    have destinationKey := sameText.symm.trans sourceKey
    exact ⟨only.cross.accounts, key, heads.mpr
      ⟨sourceFirst.mpr sourceLeast, (destinationFirst destinationKey).mpr destinationLeast⟩⟩

end Ids

/-- The pairs are sound, and find the one pair that a class has across accounts,
exactly where every such pair is written alike and comes first in its group. -/
theorem pairSecurityTransferLegs_iff (transactions : List Transaction)
    (ids : (transactions.map Transaction.id).Nodup) :
    (PairsLegs transactions (pairSecurityTransferLegs transactions) ∧
      FindsOnlyPairs transactions (pairSecurityTransferLegs transactions)) ↔
      ∀ source destination, OnlyPair transactions source destination →
        FirstOfGroup transactions source destination := by
  constructor
  · rintro ⟨-, finds⟩ source destination only
    have paired := (finds source destination only).1
    rw [pairSecurityTransferLegs_eq, lookup_partners (apart_matched ids)] at paired
    obtain ⟨pair, isMatched, ⟨isId, rfl⟩ | ⟨isId, rfl⟩⟩ := paired
    · obtain ⟨stored, -⟩ := cross_of_matched isMatched
      have isSource := eq_of_id ids stored only.sourceMem isId
      rw [← isSource] at only ⊢
      exact (only.matched_iff ids).mp isMatched
    · -- The source of a pair has no inbound leg.
      obtain ⟨-, stored, cross⟩ := cross_of_matched isMatched
      have isSource := eq_of_id ids stored only.sourceMem isId
      have inbound := cross.inbound
      rw [isSource] at inbound
      exact absurd inbound (lt_asymm only.cross.outbound)
  · intro first
    refine ⟨pairsLegs ids, fun source destination only => ?_⟩
    have isMatched := (only.matched_iff ids).mpr (first source destination only)
    rw [pairSecurityTransferLegs_eq]
    exact ⟨(lookup_partners (apart_matched ids)).mpr ⟨_, isMatched, .inl ⟨rfl, rfl⟩⟩,
      (lookup_partners (apart_matched ids)).mpr ⟨_, isMatched, .inr ⟨rfl, rfl⟩⟩⟩

/-- A leg of the transfer `transfer-1` on 2026-01-02. -/
def transferLeg (id accountId : Uuid) (amount quantity : Decimal) : Transaction where
  id := id
  accountId := accountId
  securityId := some 1
  transactionType := .transfer
  amount := amount
  currencyCode := "EUR"
  quantity := some quantity
  occurredAt := 1767312000000000
  providerMetadataContract := some (.object [("transfer_id", .string "transfer-1")])

/-- Five units that go from one account to another. -/
def plainTransfer : List Transaction :=
  [transferLeg 1 1 (-500) 5, transferLeg 2 2 500 5]

theorem pairSecurityTransferLegs_plainTransfer :
    (PairsLegs plainTransfer (pairSecurityTransferLegs plainTransfer) ∧
      FindsOnlyPairs plainTransfer (pairSecurityTransferLegs plainTransfer)) ↔
      ∀ source destination, OnlyPair plainTransfer source destination →
        FirstOfGroup plainTransfer source destination :=
  pairSecurityTransferLegs_iff plainTransfer (by decide)

/-- The same transfer, with one of the quantities as `5.00`. -/
def rescaledTransfer : List Transaction :=
  [transferLeg 1 1 (-500) 5, transferLeg 2 2 500 ⟨500, -2⟩]

/-- Legs whose quantities are equal but not written alike are not paired. -/
theorem rescaled_transfer_unpaired :
    ¬(PairsLegs rescaledTransfer (pairSecurityTransferLegs rescaledTransfer) ∧
      FindsOnlyPairs rescaledTransfer (pairSecurityTransferLegs rescaledTransfer)) := by
  rintro ⟨-, finds⟩
  have only : OnlyPair rescaledTransfer (transferLeg 1 1 (-500) 5)
      (transferLeg 2 2 500 ⟨500, -2⟩) := by
    refine ⟨List.mem_cons_self, List.mem_cons_of_mem _ List.mem_cons_self,
      ⟨by decide +kernel, by decide +kernel, by decide +kernel, by decide +kernel,
        by decide⟩, ?_⟩
    intro first firstMem second secondMem cross _
    have noInbound : ¬Outbound (transferLeg 2 2 500 ⟨500, -2⟩) := by decide +kernel
    have noOutbound : ¬Inbound (transferLeg 1 1 (-500) 5) := by decide +kernel
    simp only [rescaledTransfer, List.mem_cons, List.not_mem_nil, or_false] at firstMem secondMem
    rcases firstMem with rfl | rfl
    · rcases secondMem with rfl | rfl
      · exact absurd cross.inbound noOutbound
      · exact ⟨rfl, rfl⟩
    · exact absurd cross.outbound noInbound
  have paired := congrArg Option.isSome (finds _ _ only).1
  have unpaired : ((pairSecurityTransferLegs rescaledTransfer).lookup
      (transferLeg 1 1 (-500) 5).id).isSome = false := by decide +kernel
  rw [unpaired] at paired
  cases paired

end FinanceSync.TaxLots
