import Mathlib.Algebra.BigOperators.Group.List.Basic
import Mathlib.Data.List.Nodup
import Mathlib.Data.List.Induction
import Mathlib.Tactic.Abel

/-!
# Totals by key

A dictionary that accumulates amounts by key, as the loop `totals[key] += amount`
and the query `GROUP BY key` do.  Whatever is asked about the totals by their
keys can be asked about the entries instead.
-/

namespace Lib

universe u v w

variable {Key : Type u} {M : Type v}

/-- The sum of the amounts whose keys meet a condition. -/
def sumWhere [AddCommMonoid M] (condition : Key → Prop) [DecidablePred condition]
    (entries : List (Key × M)) : M :=
  (entries.map fun entry => if condition entry.1 then entry.2 else 0).sum

/-- Add an amount to the total of a key; the total of a new key comes last. -/
def addTo [DecidableEq Key] [Add M] (key : Key) (amount : M) : List (Key × M) → List (Key × M)
  | [] => [(key, amount)]
  | (stored, total) :: rest =>
      if stored = key then (stored, total + amount) :: rest
      else (stored, total) :: addTo key amount rest

/-- The totals of the amounts by key, in the order in which the keys occur first. -/
def groupTotals [DecidableEq Key] [Add M] (entries : List (Key × M)) : List (Key × M) :=
  entries.foldl (fun totals entry => addTo entry.1 entry.2 totals) []

section SumWhere

variable [AddCommMonoid M] (condition : Key → Prop) [DecidablePred condition]

@[simp] theorem sumWhere_nil : sumWhere condition ([] : List (Key × M)) = 0 := rfl

@[simp] theorem sumWhere_cons (entry : Key × M) (rest : List (Key × M)) :
    sumWhere condition (entry :: rest) =
      (if condition entry.1 then entry.2 else 0) + sumWhere condition rest := rfl

@[simp] theorem sumWhere_append (entries rest : List (Key × M)) :
    sumWhere condition (entries ++ rest) =
      sumWhere condition entries + sumWhere condition rest := by
  simp [sumWhere]

/-- Entries of other keys do not count. -/
theorem sumWhere_eq_zero {entries : List (Key × M)}
    (others : ∀ entry ∈ entries, ¬ condition entry.1) : sumWhere condition entries = 0 := by
  induction entries with
  | nil => rfl
  | cons entry rest ih =>
      rw [sumWhere_cons, if_neg (others entry List.mem_cons_self), zero_add]
      exact ih fun other otherMem =>
        others other (List.mem_cons_of_mem _ otherMem)

end SumWhere

section Totals

variable [DecidableEq Key]

theorem mem_keys_addTo [Add M] {key stored : Key} {amount : M} (totals : List (Key × M)) :
    stored ∈ (addTo key amount totals).map Prod.fst ↔
      stored ∈ totals.map Prod.fst ∨ stored = key := by
  induction totals with
  | nil => simp [addTo]
  | cons entry rest ih =>
      by_cases here : entry.1 = key
      · simp only [addTo, here, if_true, List.map_cons, List.mem_cons]
        tauto
      · simp only [addTo, here, if_false, List.map_cons, List.mem_cons, ih]
        tauto

theorem nodup_keys_addTo [Add M] {key : Key} {amount : M} (totals : List (Key × M))
    (nodup : (totals.map Prod.fst).Nodup) :
    ((addTo key amount totals).map Prod.fst).Nodup := by
  induction totals with
  | nil => simp [addTo]
  | cons entry rest ih =>
      rw [List.map_cons, List.nodup_cons] at nodup
      by_cases here : entry.1 = key
      · simpa only [addTo, here, if_true, List.map_cons, List.nodup_cons] using here ▸ nodup
      · simp only [addTo, here, if_false, List.map_cons, List.nodup_cons, mem_keys_addTo]
        exact ⟨not_or.mpr ⟨nodup.1, not_false⟩, ih nodup.2⟩

theorem length_addTo_of_not_mem [Add M] {key : Key} {amount : M} {totals : List (Key × M)}
    (absent : key ∉ totals.map Prod.fst) :
    (addTo key amount totals).length = totals.length + 1 := by
  induction totals with
  | nil => rfl
  | cons entry rest ih =>
      rw [List.map_cons, List.mem_cons, not_or] at absent
      simp only [addTo, Ne.symm absent.1, if_false, List.length_cons,
        ih absent.2]

theorem groupTotals_append_singleton [Add M] (entries : List (Key × M)) (entry : Key × M) :
    groupTotals (entries ++ [entry]) = addTo entry.1 entry.2 (groupTotals entries) := by
  simp [groupTotals]

/-- Every key that occurs has a total. -/
theorem mem_keys_groupTotals [Add M] {key : Key} (entries : List (Key × M)) :
    key ∈ (groupTotals entries).map Prod.fst ↔ key ∈ entries.map Prod.fst := by
  induction entries using List.reverseRecOn with
  | nil => rfl
  | append_singleton before entry ih =>
      rw [groupTotals_append_singleton, mem_keys_addTo, ih]
      simp

/-- Every key has one total. -/
theorem nodup_keys_groupTotals [Add M] (entries : List (Key × M)) :
    ((groupTotals entries).map Prod.fst).Nodup := by
  induction entries using List.reverseRecOn with
  | nil => exact List.nodup_nil
  | append_singleton before entry ih =>
      rw [groupTotals_append_singleton]
      exact nodup_keys_addTo _ ih

variable [AddCommMonoid M]

theorem addTo_zero {key : Key} {totals : List (Key × M)}
    (present : key ∈ totals.map Prod.fst) : addTo key 0 totals = totals := by
  induction totals with
  | nil => simp at present
  | cons entry rest ih =>
      by_cases here : entry.1 = key
      · rw [addTo, if_pos here, add_zero]
      · have inRest : key ∈ rest.map Prod.fst := by
          rw [List.map_cons, List.mem_cons] at present
          exact present.resolve_left (Ne.symm here)
        simp only [addTo, here, if_false, ih inRest]

theorem sumWhere_addTo (condition : Key → Prop) [DecidablePred condition] (key : Key)
    (amount : M) (totals : List (Key × M)) :
    sumWhere condition (addTo key amount totals) =
      sumWhere condition totals + if condition key then amount else 0 := by
  induction totals with
  | nil => simp [addTo]
  | cons entry rest ih =>
      by_cases here : entry.1 = key
      · simp only [addTo, here, if_true, sumWhere_cons]
        split
        · abel
        · simp
      · simp only [addTo, here, if_false, sumWhere_cons, ih]
        abel

/-- Totals of keys that meet a condition add up to the amounts of such keys. -/
theorem sumWhere_groupTotals (condition : Key → Prop) [DecidablePred condition]
    (entries : List (Key × M)) :
    sumWhere condition (groupTotals entries) = sumWhere condition entries := by
  induction entries using List.reverseRecOn with
  | nil => rfl
  | append_singleton before entry ih =>
      rw [groupTotals_append_singleton, sumWhere_addTo, ih]
      simp

theorem sum_groupTotals (entries : List (Key × M)) :
    ((groupTotals entries).map Prod.snd).sum = (entries.map Prod.snd).sum := by
  have all := sumWhere_groupTotals (fun _ : Key => True) entries
  simpa only [sumWhere, if_true] using all

/-- Of a list without repeated keys only one entry has a given key. -/
theorem sumWhere_of_nodup {entries : List (Key × M)} (nodup : (entries.map Prod.fst).Nodup)
    {entry : Key × M} (isMem : entry ∈ entries) :
    sumWhere (· = entry.1) entries = entry.2 := by
  induction entries with
  | nil => simp at isMem
  | cons first rest ih =>
      rw [List.map_cons, List.nodup_cons] at nodup
      rcases List.mem_cons.mp isMem with rfl | inRest
      · rw [sumWhere_cons, if_pos rfl, sumWhere_eq_zero, add_zero]
        intro other otherMem same
        exact nodup.1 (same ▸ List.mem_map_of_mem otherMem)
      · have ne : first.1 ≠ entry.1 := fun same =>
          nodup.1 (same ▸ List.mem_map_of_mem inRest)
        rw [sumWhere_cons, if_neg ne, zero_add, ih nodup.2 inRest]

/-- The entry of a key is the sum of the amounts with that key. -/
theorem mem_groupTotals {entry : Key × M} (entries : List (Key × M)) :
    entry ∈ groupTotals entries ↔
      entry.1 ∈ entries.map Prod.fst ∧ entry.2 = sumWhere (· = entry.1) entries := by
  have nodup := nodup_keys_groupTotals entries
  constructor
  · intro isMem
    refine ⟨(mem_keys_groupTotals entries).mp (List.mem_map_of_mem isMem), ?_⟩
    rw [← sumWhere_groupTotals, sumWhere_of_nodup nodup isMem]
  · intro occurs
    obtain ⟨stored, storedMem, sameKey⟩ :=
      List.mem_map.mp ((mem_keys_groupTotals entries).mpr occurs.1)
    have total := sumWhere_of_nodup nodup storedMem
    rw [sumWhere_groupTotals, sameKey, ← occurs.2] at total
    have same : entry = stored := Prod.ext sameKey.symm total
    rw [same]
    exact storedMem

/-- The order of the entries does not matter for the totals. -/
theorem groupTotals_perm {entries others : List (Key × M)} (same : entries.Perm others) :
    (groupTotals entries).Perm (groupTotals others) := by
  rw [List.perm_ext_iff_of_nodup (nodup_keys_groupTotals entries).of_map
    (nodup_keys_groupTotals others).of_map]
  intro entry
  rw [mem_groupTotals, mem_groupTotals, (same.map Prod.fst).mem_iff, sumWhere, sumWhere,
    (same.map _).sum_eq]

end Totals

section Additive

variable [DecidableEq Key] {N : Type w} [Add M] [Add N]

theorem map_addTo {measure : M → N}
    (additive : ∀ first second, measure (first + second) = measure first + measure second)
    (key : Key) (amount : M) (totals : List (Key × M)) :
    (addTo key amount totals).map (fun entry => (entry.1, measure entry.2)) =
      addTo key (measure amount) (totals.map fun entry => (entry.1, measure entry.2)) := by
  induction totals with
  | nil => rfl
  | cons entry rest ih =>
      by_cases here : entry.1 = key
      · simp only [addTo, here, if_true, List.map_cons, additive]
      · simp only [addTo, here, if_false, List.map_cons, ih]

/-- An additive measure of the totals is the total of the measures. -/
theorem map_groupTotals {measure : M → N}
    (additive : ∀ first second, measure (first + second) = measure first + measure second)
    (entries : List (Key × M)) :
    (groupTotals entries).map (fun entry => (entry.1, measure entry.2)) =
      groupTotals (entries.map fun entry => (entry.1, measure entry.2)) := by
  induction entries using List.reverseRecOn with
  | nil => rfl
  | append_singleton before entry ih =>
      rw [groupTotals_append_singleton, map_addTo additive, ih, List.map_append,
        List.map_cons, List.map_nil, groupTotals_append_singleton]

end Additive

/-- What a sum takes from its first summand, a total takes from the first entry of its key. -/
theorem first_groupTotals [DecidableEq Key] [Add M] {Kept : Type w} {kept : M → Kept}
    (keeps : ∀ first second, kept (first + second) = kept first) (entries : List (Key × M)) :
    ∀ total ∈ groupTotals entries, ∃ first,
      entries.find? (fun entry => entry.1 = total.1) = some first ∧
        kept total.2 = kept first.2 := by
  induction entries using List.reverseRecOn with
  | nil => intro total isMem; exact absurd isMem List.not_mem_nil
  | append_singleton before entry ih =>
      have added : ∀ totals : List (Key × M), (totals.map Prod.fst).Nodup →
          ∀ total ∈ addTo entry.1 entry.2 totals,
            (∃ old ∈ totals, old.1 = total.1 ∧ kept total.2 = kept old.2) ∨
              total = entry ∧ entry.1 ∉ totals.map Prod.fst := by
        intro totals
        induction totals with
        | nil =>
            intro _ total isMem
            exact .inr ⟨List.mem_singleton.mp isMem, List.not_mem_nil⟩
        | cons stored rest restHypothesis =>
            intro nodup total isMem
            rw [List.map_cons, List.nodup_cons] at nodup
            by_cases here : stored.1 = entry.1
            · simp only [addTo, here, if_true, List.mem_cons] at isMem
              rcases isMem with rfl | later
              · exact .inl ⟨stored, List.mem_cons_self, here, keeps _ _⟩
              · exact .inl ⟨total, List.mem_cons_of_mem _ later, rfl, rfl⟩
            · simp only [addTo, here, if_false, List.mem_cons] at isMem
              rcases isMem with rfl | later
              · exact .inl ⟨_, List.mem_cons_self, rfl, rfl⟩
              · rcases restHypothesis nodup.2 total later with ⟨old, oldMem, facts⟩ | isNew
                · exact .inl ⟨old, List.mem_cons_of_mem _ oldMem, facts⟩
                · refine .inr ⟨isNew.1, ?_⟩
                  rw [List.map_cons, List.mem_cons, not_or]
                  exact ⟨Ne.symm here, isNew.2⟩
      intro total isMem
      rw [groupTotals_append_singleton] at isMem
      rw [List.find?_append]
      rcases added _ (nodup_keys_groupTotals before) total isMem with
        ⟨old, oldMem, sameKey, sameKept⟩ | ⟨rfl, isNew⟩
      · obtain ⟨first, found, firstKept⟩ := ih old oldMem
        rw [sameKey] at found
        exact ⟨first, by rw [found]; rfl, sameKept.trans firstKept⟩
      · have absent : before.find? (fun other => decide (other.1 = total.1)) = none := by
          rw [List.find?_eq_none]
          intro other otherMem same
          rw [mem_keys_groupTotals] at isNew
          exact isNew (of_decide_eq_true same ▸ List.mem_map_of_mem otherMem)
        exact ⟨total, by rw [absent]; simp, rfl⟩

/-! ## Groups -/

section Groups

variable {Row : Type u} {Key : Type v} [DecidableEq Key]

theorem nodup_eraseDups (keys : List Key) : keys.eraseDups.Nodup := by
  induction isLength : keys.length using Nat.strong_induction_on generalizing keys with
  | _ count ih =>
      cases keys with
      | nil => exact List.nodup_nil
      | cons first rest =>
          rw [List.eraseDups_cons, List.nodup_cons, List.mem_eraseDups]
          refine ⟨by simp, ih _ ?_ _ rfl⟩
          rw [← isLength, List.length_cons]
          exact Nat.lt_succ_of_le (List.length_filter_le _ _)

/-- The groups of the rows by their keys, in the order in which the keys occur first. -/
def groupsOf (key : Row → Key) (rows : List Row) : List (Key × List Row) :=
  (rows.map key).eraseDups.map fun wanted => (wanted, rows.filter fun row => key row = wanted)

/-- A group is what the rows of its key are. -/
theorem mem_groupsOf {key : Row → Key} {rows : List Row} {group : Key × List Row} :
    group ∈ groupsOf key rows ↔
      group.1 ∈ rows.map key ∧ group.2 = rows.filter fun row => key row = group.1 := by
  rw [groupsOf, List.mem_map]
  constructor
  · rintro ⟨wanted, isMem, rfl⟩
    exact ⟨List.mem_eraseDups.mp isMem, rfl⟩
  · intro ⟨isMem, isGroup⟩
    exact ⟨group.1, List.mem_eraseDups.mpr isMem, Prod.ext rfl isGroup.symm⟩

/-- A group has rows. -/
theorem ne_nil_of_mem_groupsOf {key : Row → Key} {rows : List Row} {group : Key × List Row}
    (isMem : group ∈ groupsOf key rows) : group.2 ≠ [] := by
  obtain ⟨occurs, isGroup⟩ := mem_groupsOf.mp isMem
  obtain ⟨row, rowMem, isKey⟩ := List.mem_map.mp occurs
  rw [isGroup]
  exact List.ne_nil_of_mem (List.mem_filter.mpr ⟨rowMem, decide_eq_true isKey⟩)

/-- The groups of rows with one key are all rows. -/
theorem flatMap_filter_perm (key : Row → Key) (rows : List Row) :
    ((rows.map key).eraseDups.flatMap fun wanted =>
      rows.filter fun row => key row = wanted).Perm rows := by
  induction isLength : rows.length using Nat.strong_induction_on generalizing rows with
  | _ count ih =>
      cases rows with
      | nil => simp
      | cons first rest =>
          -- The rows with other keys are fewer, and their groups are the same there.
          have others : ((rest.map key).filter fun wanted => !wanted == key first) =
              (rest.filter fun row => key row ≠ key first).map key := by
            rw [List.filter_map]
            apply congrArg
            apply List.filter_congr
            intro row isMem
            by_cases same : key row = key first
            · simp [same]
            · simp [same]
          have shorter : (rest.filter fun row => key row ≠ key first).length < count := by
            rw [← isLength, List.length_cons]
            exact Nat.lt_succ_of_le (List.length_filter_le _ _)
          have same : (((rest.filter fun row => key row ≠ key first).map key).eraseDups.flatMap
              fun wanted => (first :: rest).filter fun row => key row = wanted) =
              ((rest.filter fun row => key row ≠ key first).map key).eraseDups.flatMap fun wanted =>
                (rest.filter fun row => key row ≠ key first).filter fun row =>
                  key row = wanted := by
            apply List.flatMap_congr
            intro wanted isMem
            obtain ⟨row, rowMem, rfl⟩ := List.mem_map.mp (List.mem_eraseDups.mp isMem)
            have differs : key row ≠ key first := by
              simpa using (List.mem_filter.mp rowMem).2
            rw [List.filter_cons_of_neg (by simpa using fun again => differs again.symm),
              List.filter_filter]
            apply List.filter_congr
            intro other otherMem
            by_cases here : key other = key row
            · simp [here, differs]
            · simp [here]
          have rebuilt := List.filter_append_perm (fun row => decide (key row = key first))
            (first :: rest)
          have rest' : (first :: rest).filter (fun row => !decide (key row = key first)) =
              rest.filter fun row => key row ≠ key first := by
            simp
          rw [rest'] at rebuilt
          rw [List.map_cons, List.eraseDups_cons, others, List.flatMap_cons, same]
          exact ((ih _ shorter _ rfl).append_left _).trans rebuilt

theorem flatMap_groupsOf (key : Row → Key) (rows : List Row) :
    ((groupsOf key rows).flatMap Prod.snd).Perm rows := by
  rw [groupsOf, List.flatMap_map]
  exact flatMap_filter_perm key rows

section Sums

variable {M : Type w} [AddCommMonoid M]

/-- The sums of the groups add up to the sum of all rows. -/
theorem sum_groupsOf (key : Row → Key) (measure : Row → M) (rows : List Row) :
    ((groupsOf key rows).map fun group => (group.2.map measure).sum).sum =
      (rows.map measure).sum := by
  rw [← ((flatMap_groupsOf key rows).map measure).sum_eq, List.map_flatMap, List.flatMap_def,
    List.sum_flatten, List.map_map]
  rfl

theorem sumWhere_map (key : Row → Key) (measure : Row → M) (wanted : Key) (rows : List Row) :
    sumWhere (· = wanted) (rows.map fun row => (key row, measure row)) =
      ((rows.filter fun row => key row = wanted).map measure).sum := by
  induction rows with
  | nil => rfl
  | cons row rows ih =>
      rw [List.map_cons, sumWhere_cons, ih, List.filter_cons]
      by_cases same : key row = wanted
      · simp [same]
      · simp [same]

/-- The sums of the groups are the totals by key. -/
theorem groupsOf_perm_groupTotals (key : Row → Key) (measure : Row → M) (rows : List Row) :
    ((groupsOf key rows).map fun group => (group.1, (group.2.map measure).sum)).Perm
      (groupTotals (rows.map fun row => (key row, measure row))) := by
  have sameKeys : ((groupsOf key rows).map fun group =>
      (group.1, (group.2.map measure).sum)).map Prod.fst = (rows.map key).eraseDups := by
    rw [groupsOf, List.map_map, List.map_map]
    exact List.map_id _
  have nodup : ((groupsOf key rows).map fun group =>
      (group.1, (group.2.map measure).sum)).Nodup := by
    apply List.Nodup.of_map Prod.fst
    rw [sameKeys]
    exact nodup_eraseDups _
  rw [List.perm_ext_iff_of_nodup nodup (nodup_keys_groupTotals _).of_map]
  intro total
  rw [mem_groupTotals, List.map_map, sumWhere_map, List.mem_map]
  constructor
  · rintro ⟨group, groupMem, rfl⟩
    obtain ⟨occurs, isGroup⟩ := mem_groupsOf.mp groupMem
    exact ⟨occurs, by rw [isGroup]⟩
  · rintro ⟨occurs, isTotal⟩
    exact ⟨(total.1, rows.filter fun row => key row = total.1), mem_groupsOf.mpr ⟨occurs, rfl⟩,
      Prod.ext rfl isTotal.symm⟩

end Sums

end Groups

end Lib
