import FinanceSync.Identity.Resolver
import Mathlib.Data.List.Forall2

/-!
# Activities between check and import

`push_activities` imports what the check endpoint answers, merged with the given rows by
position, and gives each row without an asset one that is found by a code or created.  The
rows are zipped with an answer of any length, what the answer says stands where a given row is
blank, and nothing looks again at an asset that is already there.
-/

namespace FinanceSync.Wealthfolio

open FinanceSync.Visibility (truthy)

/-! ## Rows -/

/-- A row of an import.  A key that it lacks is `None`. -/
abbrev ActivityRow := String → Json

/-- `value in (None, "")` -/
def isBlank : Json → Bool
  | .null => true
  | .string text => text = ""
  | _ => false

def provenanceKeys : List String :=
  ["sourceSystem", "sourceRecordId", "sourceGroupId", "idempotencyKey", "importRunId"]

/-- The answer for a row with the missing source fields merged back. -/
def mergeRow (original resolved : ActivityRow) : ActivityRow := fun key =>
  let own := if key ∈ provenanceKeys ∧ isBlank (original key) = false then original key
    else resolved key
  if isBlank own ∧ isBlank (original key) = false then original key else own

/-- The rows after the check; an answer that is no list leaves them as they are. -/
def hydrate (activities : List ActivityRow) : Option (List ActivityRow) → List ActivityRow
  | none => activities
  | some checked => List.zipWith mergeRow activities checked

/-- `activity.get("activityType") in activity_types` -/
def hasType (types : List String) (activity : ActivityRow) : Bool :=
  match activity "activityType" with
  | .string text => text ∈ types
  | _ => false

def assetActivityTypes : List String := ["BUY", "SELL", "DIVIDEND", "CAPITAL_GAIN", "REINVEST"]

def assetlessTypes : List String :=
  ["DEPOSIT", "WITHDRAWAL", "CREDIT", "TAX", "FEE", "INTEREST", "TRANSFER_IN", "TRANSFER_OUT"]

/-- The ISIN and the symbol of a row, where it has them. -/
def candidates (activity : ActivityRow) : List Json :=
  [activity "isin", activity "symbol"].filter truthy

/-! ## Assets -/

/-- An asset of Wealthfolio. -/
structure WfAsset where
  id : Json
  displayCode : Json := .null
  instrumentSymbol : Json := .null
  symbol : Json := .null
  isin : Json := .null

/-- The codes of an asset. -/
def WfAsset.codes (asset : WfAsset) : List Json :=
  [asset.displayCode, asset.instrumentSymbol, asset.symbol, asset.isin].filter truthy

/-- What `create_asset` is asked for. -/
structure AssetRequest where
  symbol : String
  currency : String
  name : Json
  instrumentType : String
  isin : Json
  exchangeMic : Json
  providerId : Json
  providerSymbol : Json

/-- Wealthfolio: its assets, whether it lists them, and its answer to a creation, with the
assets that it has by then. -/
structure AssetService where
  assets : List WfAsset
  lists : Bool := true
  create : List WfAsset → AssetRequest → Option WfAsset

/-- The assets that are there, and the index of their codes. -/
structure AssetIndex where
  known : List WfAsset
  byCode : String → Option WfAsset

section Codes

variable (upper : String → String)

/-- `str(value).strip().upper()` -/
def codeText (value : Json) : String := upper (Identity.stripped value.str)

namespace AssetIndex

/-- `by_code.setdefault(code, asset)` -/
def setDefault (index : AssetIndex) (asset : WfAsset) (value : Json) : AssetIndex where
  known := index.known
  byCode code :=
    if code = codeText upper value ∧ index.byCode code = none then some asset
    else index.byCode code

/-- Each code of an asset that is not taken is that of the asset. -/
def indexCodes (index : AssetIndex) (asset : WfAsset) : AssetIndex :=
  asset.codes.foldl (fun index value => index.setDefault upper asset value) index

/-- The assets that have an id, by their codes. -/
def ofAssets (assets : List WfAsset) : AssetIndex :=
  (assets.filter fun asset => truthy asset.id).foldl (indexCodes upper)
    { known := assets, byCode := fun _ => none }

/-- A created asset is known, and found by its codes. -/
def addCreated (index : AssetIndex) (asset : WfAsset) : AssetIndex :=
  indexCodes upper { index with known := index.known ++ [asset] } asset

end AssetIndex

/-- `first or second or …`, as text -/
def firstValue (values : List Json) (default : String) : String :=
  match values.find? truthy with
  | some value => value.str
  | none => default

/-- The creation that a row asks for, under a symbol. -/
def assetRequest (activity : ActivityRow) (symbol : String) : AssetRequest :=
  let requestedType := upper (firstValue [activity "instrumentType"] "EQUITY")
  { symbol
    currency := firstValue [activity "quoteCcy", activity "currency"] "EUR"
    name := activity "symbolName"
    instrumentType :=
      if requestedType ∈ ["EQUITY", "CRYPTO", "FX", "OPTION", "METAL", "BOND"] then requestedType
      else "EQUITY"
    isin := activity "isin"
    exchangeMic := activity "exchangeMic"
    providerId := activity "providerId"
    providerSymbol := activity "providerSymbol" }

/-- `resolved["assetId"] = asset["id"]` -/
def setAsset (activity : ActivityRow) (asset : WfAsset) : ActivityRow := fun key =>
  if key = "assetId" then asset.id else activity key

/-- The loop leaves a row alone that has an asset or moves cash. -/
def isSettled (activity : ActivityRow) : Bool :=
  truthy (activity "assetId") || hasType assetlessTypes activity

variable (service : AssetService)

/-- The asset that the loop finds or creates for a row, and the index after it.  Only the first
code of the row is looked up; `none` where a creation fails. -/
def findAsset (index : AssetIndex) (activity : ActivityRow) :
    Option (Option WfAsset × AssetIndex) :=
  match (candidates activity).head? with
  | none => some (none, index)
  | some candidate =>
      match index.byCode (codeText upper candidate) with
      | some asset => some (some asset, index)
      | none =>
          if codeText upper candidate = "" then some (none, index)
          else
            let request := assetRequest upper activity (codeText upper candidate)
            (service.create index.known request).map fun asset =>
              (some asset, index.addCreated upper asset)

/-- One turn of the loop over the rows. -/
def resolveAsset (index : AssetIndex) (activity : ActivityRow) :
    Option (ActivityRow × AssetIndex) :=
  if isSettled activity then some (activity, index)
  else
    (findAsset upper service index activity).map fun found =>
      (found.1.elim activity (setAsset activity), found.2)

/-- A row that is imported, with the assets that Wealthfolio has when it is resolved. -/
structure SentRow where
  row : ActivityRow
  known : List WfAsset

def resolveAssets : AssetIndex → List ActivityRow → Option (List SentRow)
  | _, [] => some []
  | index, activity :: activities =>
      match resolveAsset upper service index activity with
      | none => none
      | some (row, next) =>
          (resolveAssets next activities).map fun sent => ⟨row, next.known⟩ :: sent

/-- An asset activity has no asset. -/
def lacksAsset (activities : List ActivityRow) : Bool :=
  activities.any fun activity =>
    hasType assetActivityTypes activity && !truthy (activity "assetId")

/-- `push_activities`: the rows that are imported, `none` where it raises before that. -/
def pushActivities (activities : List ActivityRow) (checked : Option (List ActivityRow)) :
    Option (List SentRow) :=
  let rows := hydrate activities checked
  if lacksAsset rows then
    if service.lists then
      resolveAssets upper service (AssetIndex.ofAssets upper service.assets) rows
    else none
  else some (rows.map fun row => ⟨row, service.assets⟩)

/-! ## What an import keeps -/

/-- The field is the same, or blank in both. -/
def SameField (first second : Json) : Prop :=
  first = second ∨ isBlank first = true ∧ isBlank second = true

/-- The asset has a code of the row. -/
def WfAsset.Matches (asset : WfAsset) (activity : ActivityRow) : Prop :=
  ∃ value ∈ asset.codes, ∃ candidate ∈ candidates activity,
    codeText upper value = codeText upper candidate

/-- The id is that of a known asset which has a code of the row. -/
def IsAssetOf (known : List WfAsset) (id : Json) (activity : ActivityRow) : Prop :=
  truthy id = true ∧ ∃ asset ∈ known, asset.id = id ∧ asset.Matches upper activity

/-- A row with a code whose activity is about an asset. -/
def BearsAsset (activity : ActivityRow) : Prop :=
  hasType assetActivityTypes activity = true ∧ candidates activity ≠ []

/-- The imported row for a given one: its provenance and its fields, and an asset. -/
structure KeptRow (original : ActivityRow) (sent : SentRow) : Prop where
  provenance : ∀ key ∈ provenanceKeys, SameField (sent.row key) (original key)
  fields : ∀ key, isBlank (original key) = false → isBlank (sent.row key) = false
  asset : BearsAsset sent.row → IsAssetOf upper sent.known (sent.row "assetId") sent.row

/-! ## When it does -/

/-- The answer has a row for each given one, and says nothing where provenance is blank. -/
def AnswersEach (activities : List ActivityRow) : Option (List ActivityRow) → Prop
  | none => True
  | some checked => activities.length ≤ checked.length ∧
      ∀ pair ∈ activities.zip checked, ∀ key ∈ provenanceKeys,
        isBlank (pair.1 key) = true → isBlank (pair.2 key) = true

/-- An asset id is not given up for a blank one. -/
def KeepsId (original : ActivityRow) (asset : WfAsset) : Prop :=
  isBlank (original "assetId") = false → isBlank asset.id = false

/-- A row that has an asset has the right one.  For another the first code is looked up, where
it finds an asset with an id, or one with the code is created. -/
def FindsAsset (index : AssetIndex) (original activity : ActivityRow) : Prop :=
  if isSettled activity then
    BearsAsset activity → IsAssetOf upper index.known (activity "assetId") activity
  else
    match (candidates activity).head? with
    | none => True
    | some candidate =>
        match index.byCode (codeText upper candidate) with
        | some asset => (BearsAsset activity → truthy asset.id = true) ∧ KeepsId original asset
        | none =>
            if codeText upper candidate = "" then ¬ BearsAsset activity
            else
              ∀ asset ∈ service.create index.known
                  (assetRequest upper activity (codeText upper candidate)),
                (BearsAsset activity →
                    IsAssetOf upper (index.known ++ [asset]) asset.id activity) ∧
                  KeepsId original asset

/-- The creations that the loop asks for are answered. -/
def Answered : AssetIndex → List ActivityRow → Prop
  | _, [] => True
  | index, activity :: activities =>
      ∃ next ∈ resolveAsset upper service index activity, Answered next.2 activities

/-- Every row finds its asset. -/
def FindsAssets : AssetIndex → List (ActivityRow × ActivityRow) → Prop
  | _, [] => True
  | index, (original, activity) :: rest =>
      FindsAsset upper service index original activity ∧
        ∀ next ∈ resolveAsset upper service index activity, FindsAssets next.2 rest

/-! ## Merging -/

variable {upper : String → String} {service : AssetService} {index : AssetIndex}
  {original resolved activity : ActivityRow} {asset : WfAsset} {key : String}

/-- A field that the given row has is in the merged one. -/
theorem mergeRow_not_blank (given : isBlank (original key) = false) :
    isBlank (mergeRow original resolved key) = false := by
  unfold mergeRow
  generalize (if key ∈ provenanceKeys ∧ isBlank (original key) = false then original key
    else resolved key) = own
  cases ownBlank : isBlank own with
  | true => simp [ownBlank, given]
  | false => simp [ownBlank]

theorem mergeRow_provenance_iff (isProvenance : key ∈ provenanceKeys) :
    SameField (mergeRow original resolved key) (original key) ↔
      (isBlank (original key) = true → isBlank (resolved key) = true) := by
  cases given : isBlank (original key) with
  | false =>
      apply iff_of_true _ Bool.noConfusion
      left
      simp [mergeRow, isProvenance, given]
  | true =>
      have answered : mergeRow original resolved key = resolved key := by
        simp [mergeRow, given]
      rw [answered, SameField, given]
      constructor
      · rintro (same | both) _
        · rw [same, given]
        · exact both.1
      · intro blank
        exact .inr ⟨blank rfl, rfl⟩

/-! ## The index -/

/-- What the index finds is known and has the code. -/
def AssetIndex.Sound (upper : String → String) (index : AssetIndex) : Prop :=
  ∀ code asset, index.byCode code = some asset →
    asset ∈ index.known ∧ ∃ value ∈ asset.codes, codeText upper value = code

namespace AssetIndex

theorem sound_setDefault (sound : index.Sound upper) (isKnown : asset ∈ index.known) {value : Json}
    (isCode : value ∈ asset.codes) : (index.setDefault upper asset value).Sound upper := by
  intro code found lookup
  simp only [setDefault] at lookup
  split at lookup
  · next new =>
      obtain rfl : asset = found := Option.some_inj.mp lookup
      exact ⟨isKnown, value, isCode, new.1.symm⟩
  · exact sound code found lookup

theorem known_foldl_setDefault (values : List Json) :
    ∀ index : AssetIndex, (values.foldl (fun index value => index.setDefault upper asset value)
      index).known = index.known := by
  induction values with
  | nil => intro index; rfl
  | cons value values ih => intro index; exact ih _

@[simp] theorem known_indexCodes : (indexCodes upper index asset).known = index.known :=
  known_foldl_setDefault _ index

theorem sound_foldl_setDefault (values : List Json)
    (areCodes : ∀ value ∈ values, value ∈ asset.codes) :
    ∀ {index : AssetIndex}, index.Sound upper → asset ∈ index.known →
      (values.foldl (fun index value => index.setDefault upper asset value) index).Sound upper := by
  induction values with
  | nil => intro index sound _; exact sound
  | cons value values ih =>
      intro index sound isKnown
      rw [List.forall_mem_cons] at areCodes
      exact ih areCodes.2 (sound_setDefault sound isKnown areCodes.1) isKnown

theorem sound_indexCodes (sound : index.Sound upper) (isKnown : asset ∈ index.known) :
    (indexCodes upper index asset).Sound upper :=
  sound_foldl_setDefault _ (fun _ member => member) sound isKnown

theorem sound_foldl_indexCodes (listed : List WfAsset) :
    ∀ {index : AssetIndex}, listed ⊆ index.known → index.Sound upper →
      (listed.foldl (indexCodes upper) index).Sound upper := by
  induction listed with
  | nil => intro index _ sound; exact sound
  | cons first listed ih =>
      intro index isKnown sound
      rw [List.cons_subset] at isKnown
      apply ih
      · rw [known_indexCodes]
        exact isKnown.2
      · exact sound_indexCodes sound isKnown.1

theorem sound_ofAssets (assets : List WfAsset) : (ofAssets upper assets).Sound upper := by
  apply sound_foldl_indexCodes
  · exact List.filter_subset_self _
  · intro code asset found
    cases found

theorem sound_addCreated (sound : index.Sound upper) :
    (index.addCreated upper asset).Sound upper := by
  apply sound_indexCodes
  · intro code found lookup
    obtain ⟨isKnown, isCode⟩ := sound code found lookup
    exact ⟨List.mem_append_left _ isKnown, isCode⟩
  · exact List.mem_append_right _ (List.mem_singleton_self _)

@[simp] theorem known_addCreated : (index.addCreated upper asset).known = index.known ++ [asset] :=
  known_indexCodes

end AssetIndex

/-! ## One turn of the loop -/

theorem setAsset_of_ne (other : key ≠ "assetId") : setAsset activity asset key = activity key :=
  if_neg other

@[simp] theorem setAsset_assetId : setAsset activity asset "assetId" = asset.id := if_pos rfl

@[simp] theorem candidates_setAsset :
    candidates (setAsset activity asset) = candidates activity := by
  rw [candidates, setAsset_of_ne (by decide), setAsset_of_ne (by decide), candidates]

@[simp] theorem bearsAsset_setAsset :
    BearsAsset (setAsset activity asset) ↔ BearsAsset activity := by
  rw [BearsAsset, candidates_setAsset, hasType, setAsset_of_ne (by decide), BearsAsset, hasType]

@[simp] theorem isAssetOf_setAsset {known : List WfAsset} {id : Json} :
    IsAssetOf upper known id (setAsset activity asset) ↔ IsAssetOf upper known id activity := by
  simp only [IsAssetOf, WfAsset.Matches, candidates_setAsset]

theorem keptRow_iff {known : List WfAsset} :
    KeptRow upper original ⟨activity, known⟩ ↔
      (∀ key ∈ provenanceKeys, SameField (activity key) (original key)) ∧
        (∀ key, isBlank (original key) = false → isBlank (activity key) = false) ∧
          (BearsAsset activity → IsAssetOf upper known (activity "assetId") activity) :=
  ⟨fun kept => ⟨kept.provenance, kept.fields, kept.asset⟩,
    fun kept => ⟨kept.1, kept.2.1, kept.2.2⟩⟩

/-- The asset of a row that got one. -/
theorem keptRow_setAsset_iff {known : List WfAsset}
    (fields : ∀ key, isBlank (original key) = false → isBlank (activity key) = false) :
    KeptRow upper original ⟨setAsset activity asset, known⟩ ↔
      (∀ key ∈ provenanceKeys, SameField (activity key) (original key)) ∧
        (BearsAsset activity → IsAssetOf upper known asset.id activity) ∧
          KeepsId original asset := by
  have sameProvenance : ∀ key ∈ provenanceKeys, setAsset activity asset key = activity key := by
    intro key isProvenance
    apply setAsset_of_ne
    rintro rfl
    exact absurd isProvenance (by decide)
  have provenance : (∀ key ∈ provenanceKeys,
      SameField (setAsset activity asset key) (original key)) ↔
        ∀ key ∈ provenanceKeys, SameField (activity key) (original key) := by
    apply forall₂_congr
    intro key isProvenance
    rw [sameProvenance key isProvenance]
  have keeps : (∀ key, isBlank (original key) = false →
      isBlank (setAsset activity asset key) = false) ↔ KeepsId original asset := by
    constructor
    · intro kept given
      have keptId := kept "assetId" given
      rwa [setAsset_assetId] at keptId
    · intro keepsId key given
      by_cases isAssetId : key = "assetId"
      · rw [isAssetId, setAsset_assetId]
        exact keepsId (isAssetId ▸ given)
      · rw [setAsset_of_ne isAssetId]
        exact fields key given
  rw [keptRow_iff, provenance, keeps, bearsAsset_setAsset, isAssetOf_setAsset, setAsset_assetId]
  exact and_congr_right fun _ => and_comm

/-- A row that the loop leaves as it is. -/
theorem keptRow_same_iff {known : List WfAsset}
    (fields : ∀ key, isBlank (original key) = false → isBlank (activity key) = false) :
    KeptRow upper original ⟨activity, known⟩ ↔
      (∀ key ∈ provenanceKeys, SameField (activity key) (original key)) ∧
        (BearsAsset activity → IsAssetOf upper known (activity "assetId") activity) := by
  rw [keptRow_iff, and_iff_right fields]

/-- What a turn of the loop keeps. -/
theorem keptRow_resolveAsset_iff {sent : ActivityRow} {next : AssetIndex}
    (sound : index.Sound upper)
    (fields : ∀ key, isBlank (original key) = false → isBlank (activity key) = false)
    (resolves : resolveAsset upper service index activity = some (sent, next)) :
    (KeptRow upper original ⟨sent, next.known⟩ ↔
        (∀ key ∈ provenanceKeys, SameField (activity key) (original key)) ∧
          FindsAsset upper service index original activity) ∧
      next.Sound upper := by
  rw [resolveAsset] at resolves
  rw [FindsAsset]
  cases settled : isSettled activity with
  | true =>
      rw [if_pos settled, Option.some_inj, Prod.mk.injEq] at resolves
      obtain ⟨rfl, rfl⟩ := resolves
      rw [if_pos rfl]
      exact ⟨keptRow_same_iff fields, sound⟩
  | false =>
      rw [if_neg (Bool.not_eq_true _ ▸ settled)] at resolves
      obtain ⟨found, finds, result⟩ := Option.map_eq_some_iff.mp resolves
      obtain ⟨rfl, rfl⟩ := Prod.mk.inj result
      rw [if_neg Bool.false_ne_true]
      unfold findAsset at finds
      cases code : (candidates activity).head? with
      | none =>
          simp only [code, Option.some_inj] at finds ⊢
          obtain rfl := finds
          have bears : ¬ BearsAsset activity :=
            fun bears => bears.2 (List.head?_eq_none_iff.mp code)
          refine ⟨?_, sound⟩
          rw [Option.elim_none, keptRow_same_iff fields]
          simp [bears]
      | some candidate =>
          simp only [code] at finds ⊢
          cases lookup : index.byCode (codeText upper candidate) with
          | some asset =>
              simp only [lookup, Option.some_inj] at finds ⊢
              obtain rfl := finds
              obtain ⟨isKnown, value, isCode, sameCode⟩ := sound _ _ lookup
              have isAsset : IsAssetOf upper index.known asset.id activity ↔
                  truthy asset.id = true :=
                and_iff_left ⟨asset, isKnown, rfl, value, isCode, candidate,
                  List.mem_of_head? code, sameCode⟩
              refine ⟨?_, sound⟩
              rw [Option.elim_some, keptRow_setAsset_iff fields, isAsset]
          | none =>
              simp only [lookup] at finds ⊢
              by_cases empty : codeText upper candidate = ""
              · rw [if_pos empty, Option.some_inj] at finds
                obtain rfl := finds
                rw [if_pos empty, Option.elim_none, keptRow_same_iff fields]
                refine ⟨?_, sound⟩
                have noAsset : truthy (activity "assetId") = false := by
                  rw [isSettled, Bool.or_eq_false_iff] at settled
                  exact settled.1
                simp [IsAssetOf, noAsset]
              · rw [if_neg empty] at finds
                obtain ⟨asset, creates, rfl⟩ := Option.map_eq_some_iff.mp finds
                rw [if_neg empty, Option.elim_some, keptRow_setAsset_iff fields, creates,
                  AssetIndex.known_addCreated]
                refine ⟨?_, AssetIndex.sound_addCreated sound⟩
                simp

/-! ## The loop -/

theorem answered_iff (activities : List ActivityRow) :
    ∀ index, Answered upper service index activities ↔
      ∃ sent, resolveAssets upper service index activities = some sent := by
  induction activities with
  | nil => intro index; exact iff_of_true trivial ⟨[], rfl⟩
  | cons activity activities ih =>
      intro index
      rw [Answered, resolveAssets]
      cases resolves : resolveAsset upper service index activity with
      | none => simp
      | some next =>
          simp only [Option.mem_def, Option.some_inj, exists_eq_left', ih,
            Option.map_eq_some_iff]
          constructor
          · rintro ⟨sent, answered⟩
            exact ⟨_, sent, answered, rfl⟩
          · rintro ⟨_, sent, answered, -⟩
            exact ⟨sent, answered⟩

/-- The loop keeps the rows exactly if their provenance is kept and each finds its asset. -/
theorem forall_keptRow_resolveAssets_iff (pairs : List (ActivityRow × ActivityRow))
    (fields : ∀ pair ∈ pairs, ∀ key, isBlank (pair.1 key) = false → isBlank (pair.2 key) = false) :
    ∀ {index : AssetIndex} {sent : List SentRow}, index.Sound upper →
      resolveAssets upper service index (pairs.map Prod.snd) = some sent →
      (List.Forall₂ (KeptRow upper) (pairs.map Prod.fst) sent ↔
        (∀ pair ∈ pairs, ∀ key ∈ provenanceKeys, SameField (pair.2 key) (pair.1 key)) ∧
          FindsAssets upper service index pairs) := by
  induction pairs with
  | nil =>
      intro index sent _ resolves
      obtain rfl := Option.some_inj.mp resolves
      simp [FindsAssets]
  | cons pair pairs ih =>
      intro index sent sound resolves
      rw [List.forall_mem_cons] at fields
      rw [List.map_cons, resolveAssets] at resolves
      cases first : resolveAsset upper service index pair.2 with
      | none => rw [first] at resolves; cases resolves
      | some next =>
          rw [first] at resolves
          obtain ⟨rest, later, rfl⟩ := Option.map_eq_some_iff.mp resolves
          obtain ⟨keeps, nextSound⟩ := keptRow_resolveAsset_iff sound fields.1 first
          rw [List.map_cons, List.forall₂_cons, keeps,
            ih fields.2 nextSound later, List.forall_mem_cons, FindsAssets]
          simp only [first, Option.mem_def, Option.some_inj, forall_eq']
          tauto

/-- The number of imported rows is that of the rows after the check. -/
theorem length_resolveAssets (activities : List ActivityRow) :
    ∀ {index : AssetIndex} {sent : List SentRow},
      resolveAssets upper service index activities = some sent →
        sent.length = activities.length := by
  induction activities with
  | nil =>
      intro index sent resolves
      obtain rfl := Option.some_inj.mp resolves
      rfl
  | cons activity activities ih =>
      intro index sent resolves
      rw [resolveAssets] at resolves
      cases first : resolveAsset upper service index activity with
      | none => rw [first] at resolves; cases resolves
      | some next =>
          rw [first] at resolves
          obtain ⟨rest, later, rfl⟩ := Option.map_eq_some_iff.mp resolves
          rw [List.length_cons, List.length_cons, ih later]

/-! ## The push -/

variable {activities : List ActivityRow} {checked : Option (List ActivityRow)}

/-- Each given row with its own after the check. -/
def hydratedPairs (activities : List ActivityRow) (checked : Option (List ActivityRow)) :
    List (ActivityRow × ActivityRow) :=
  activities.zip (hydrate activities checked)

theorem hydratedPairs_some (checked : List ActivityRow) :
    hydratedPairs activities (some checked) =
      (activities.zip checked).map fun pair => (pair.1, mergeRow pair.1 pair.2) := by
  induction activities generalizing checked with
  | nil => rfl
  | cons activity activities ih =>
      cases checked with
      | nil => rfl
      | cons answer checked =>
          exact congrArg ((activity, mergeRow activity answer) :: ·) (ih checked)

theorem hydratedPairs_none :
    hydratedPairs activities none = activities.map fun row => (row, row) := by
  induction activities with
  | nil => rfl
  | cons activity activities ih =>
      exact congrArg ((activity, activity) :: ·) ih

theorem fields_hydratedPairs : ∀ pair ∈ hydratedPairs activities checked,
    ∀ key, isBlank (pair.1 key) = false → isBlank (pair.2 key) = false := by
  intro pair member key given
  cases checked with
  | none =>
      rw [hydratedPairs_none] at member
      obtain ⟨row, -, rfl⟩ := List.mem_map.mp member
      exact given
  | some checked =>
      rw [hydratedPairs_some] at member
      obtain ⟨row, -, rfl⟩ := List.mem_map.mp member
      exact mergeRow_not_blank given

/-- Each row is answered, with nothing for blank provenance, exactly if there are as many rows
after the check and their provenance is that of the given ones. -/
theorem answersEach_iff : AnswersEach activities checked ↔
    (hydrate activities checked).length = activities.length ∧
      ∀ pair ∈ hydratedPairs activities checked, ∀ key ∈ provenanceKeys,
        SameField (pair.2 key) (pair.1 key) := by
  cases checked with
  | none =>
      rw [hydratedPairs_none, List.forall_mem_map]
      exact iff_of_true trivial ⟨rfl, fun _ _ _ _ => .inl rfl⟩
  | some checked =>
      rw [hydratedPairs_some, List.forall_mem_map, hydrate, List.length_zipWith,
        min_eq_left_iff, AnswersEach]
      apply and_congr_right'
      apply forall₂_congr
      intro pair _
      apply forall₂_congr
      intro key isProvenance
      exact (mergeRow_provenance_iff isProvenance).symm

theorem length_hydrate_le : (hydrate activities checked).length ≤ activities.length := by
  cases checked with
  | none => exact le_rfl
  | some checked => exact List.length_zipWith.trans_le (min_le_left _ _)

theorem map_snd_hydratedPairs :
    (hydratedPairs activities checked).map Prod.snd = hydrate activities checked :=
  List.map_snd_zip length_hydrate_le

/-- Rows that are as many as those after the check stand for all given rows if none was lost. -/
theorem forall₂_activities_iff {kept : ActivityRow → SentRow → Prop} {sent : List SentRow}
    (sameLength : sent.length = (hydrate activities checked).length) :
    List.Forall₂ kept activities sent ↔
      (hydrate activities checked).length = activities.length ∧
        List.Forall₂ kept ((hydratedPairs activities checked).map Prod.fst) sent := by
  by_cases all : (hydrate activities checked).length = activities.length
  · have given : (hydratedPairs activities checked).map Prod.fst = activities :=
      List.map_fst_zip all.ge
    rw [given, and_iff_right all]
  · apply iff_of_false
    · intro every
      exact all (sameLength ▸ every.length_eq.symm)
    · intro every
      exact all every.1

/-- Rows that are imported as they are after the check. -/
theorem forall_keptRow_unresolved_iff {known : List WfAsset} :
    List.Forall₂ (KeptRow upper) ((hydratedPairs activities checked).map Prod.fst)
        ((hydrate activities checked).map fun row => ⟨row, known⟩) ↔
      (∀ pair ∈ hydratedPairs activities checked, ∀ key ∈ provenanceKeys,
          SameField (pair.2 key) (pair.1 key)) ∧
        ∀ row ∈ hydrate activities checked, BearsAsset row →
          IsAssetOf upper known (row "assetId") row := by
  rw [← map_snd_hydratedPairs, List.map_map, List.forall₂_map_left_iff,
    List.forall₂_map_right_iff, List.forall₂_same, List.forall_mem_map, ← forall₂_and]
  apply forall₂_congr
  intro pair member
  exact keptRow_same_iff (fields_hydratedPairs pair member)

variable (upper service activities checked)

/-- The assets that the rows of a push have. -/
def FindsAll : Prop :=
  if lacksAsset (hydrate activities checked) then
    FindsAssets upper service (AssetIndex.ofAssets upper service.assets)
      (hydratedPairs activities checked)
  else
    ∀ row ∈ hydrate activities checked, BearsAsset row →
      IsAssetOf upper service.assets (row "assetId") row

/-- The assets are listed and created where they are asked for. -/
def AnswersAssets : Prop :=
  lacksAsset (hydrate activities checked) = true →
    service.lists = true ∧
      Answered upper service (AssetIndex.ofAssets upper service.assets) (hydrate activities checked)

/-- A push imports one row for each given activity, with its provenance, its fields and its
asset, exactly if the check answers for each and says nothing where provenance is blank, and
each row has its asset or finds one by its first code; or else nothing is imported, where
Wealthfolio does not answer. -/
theorem push_activities_iff :
    (∀ sent ∈ pushActivities upper service activities checked,
        List.Forall₂ (KeptRow upper) activities sent) ↔
      (AnswersAssets upper service activities checked →
        AnswersEach activities checked ∧ FindsAll upper service activities checked) := by
  cases lacks : lacksAsset (hydrate activities checked) with
  | false =>
      have answered : AnswersAssets upper service activities checked := by
        intro needed
        rw [lacks] at needed
        cases needed
      have pushed : pushActivities upper service activities checked =
          some ((hydrate activities checked).map fun row => ⟨row, service.assets⟩) := by
        simp [pushActivities, lacks]
      simp only [pushed, Option.mem_def, Option.some_inj, forall_eq']
      rw [forall₂_activities_iff (List.length_map _), forall_keptRow_unresolved_iff, ← and_assoc,
        ← answersEach_iff, FindsAll, if_neg (by simp [lacks]), imp_iff_right answered]
  | true =>
      cases lists : service.lists with
      | false => simp [pushActivities, AnswersAssets, lacks, lists]
      | true =>
          have pushed : pushActivities upper service activities checked =
              resolveAssets upper service (AssetIndex.ofAssets upper service.assets)
                (hydrate activities checked) := by
            simp [pushActivities, lacks, lists]
          have answered : AnswersAssets upper service activities checked ↔
              ∃ sent, resolveAssets upper service (AssetIndex.ofAssets upper service.assets)
                (hydrate activities checked) = some sent := by
            simp [AnswersAssets, lacks, lists, answered_iff]
          rw [pushed, answered]
          cases resolves : resolveAssets upper service (AssetIndex.ofAssets upper service.assets)
              (hydrate activities checked) with
          | none => simp
          | some sent =>
              have kept := forall_keptRow_resolveAssets_iff (hydratedPairs activities checked)
                fields_hydratedPairs (AssetIndex.sound_ofAssets service.assets)
                (map_snd_hydratedPairs ▸ resolves)
              simp only [Option.mem_def, Option.some_inj, forall_eq']
              rw [forall₂_activities_iff (length_resolveAssets _ resolves), kept,
                ← and_assoc, ← answersEach_iff, FindsAll, if_pos lacks,
                imp_iff_right ⟨sent, rfl⟩]

end Codes

/-- A check that answers with no row for a deposit loses it. -/
theorem unanswered_deposit_lost :
    ¬ ∀ (upper : String → String) (service : AssetService) (activities : List ActivityRow)
      (checked : Option (List ActivityRow)),
      ∀ sent ∈ pushActivities upper service activities checked,
        List.Forall₂ (KeptRow upper) activities sent := by
  intro keeps
  have service : AssetService := { assets := [], create := fun _ _ => none }
  have deposit : ActivityRow := fun key =>
    if key = "activityType" then .string "DEPOSIT" else .null
  have every := keeps id service [deposit] (some []) [] rfl
  cases every

/-! ## One asset for each code -/

section Repeats

variable {upper : String → String} {service : AssetService} {index next : AssetIndex}
  {asset found : WfAsset} {activity row : ActivityRow} {code : String}

/-- Assets that are created for a code have it among their own. -/
def AnswersSymbols (upper : String → String) (service : AssetService) : Prop :=
  ∀ known request asset value, service.create known request = some asset →
    request.symbol = codeText upper value →
      ∃ own ∈ asset.codes, codeText upper own = request.symbol

/-- A row that the loop looks up under a code. -/
def LookedUpAs (upper : String → String) (code : String) (activity : ActivityRow) : Prop :=
  isSettled activity = false ∧
    (candidates activity).head?.map (codeText upper) = some code

/-- The codes under which the loop asks for new assets. -/
def creations (upper : String → String) (service : AssetService) :
    AssetIndex → List ActivityRow → List String
  | _, [] => []
  | index, activity :: activities =>
      let asked :=
        if isSettled activity then none
        else ((candidates activity).head?.map (codeText upper)).filter fun code =>
          code ≠ "" ∧ index.byCode code = none
      match resolveAsset upper service index activity with
      | none => asked.toList
      | some (_, next) => asked.toList ++ creations upper service next activities

namespace AssetIndex

theorem byCode_setDefault (known : index.byCode code = some found) (asset : WfAsset)
    (value : Json) : (index.setDefault upper asset value).byCode code = some found := by
  have taken : ¬ (code = codeText upper value ∧ index.byCode code = none) := by
    rintro ⟨-, free⟩
    rw [known] at free
    cases free
  exact (if_neg taken).trans known

theorem byCode_foldl_setDefault (asset : WfAsset) (values : List Json) :
    ∀ {index : AssetIndex}, index.byCode code = some found →
      (values.foldl (fun index value => index.setDefault upper asset value) index).byCode code =
        some found := by
  induction values with
  | nil => exact fun known => known
  | cons value rest ih =>
      exact fun known => ih (byCode_setDefault known asset value)

/-- A code that an asset has is that of an asset from then on. -/
theorem byCode_indexed (asset : WfAsset) (values : List Json) :
    ∀ {index : AssetIndex}, index.byCode code = none →
      (∃ value ∈ values, codeText upper value = code) →
        (values.foldl (fun index value => index.setDefault upper asset value) index).byCode
          code = some asset := by
  induction values with
  | nil =>
      rintro index - ⟨value, member, -⟩
      cases member
  | cons value rest ih =>
      rintro index free ⟨wanted, member, isCode⟩
      rw [List.foldl_cons]
      by_cases here : codeText upper value = code
      · apply byCode_foldl_setDefault
        exact if_pos ⟨here.symm, free⟩
      · apply ih
        · exact (if_neg fun both => here both.1.symm).trans free
        · rcases List.mem_cons.mp member with isFirst | isLater
          · exact absurd (isFirst ▸ isCode) here
          · exact ⟨wanted, isLater, isCode⟩

end AssetIndex

/-- The codes that are known stay those of their assets. -/
theorem byCode_resolveAsset
    (resolved : resolveAsset upper service index activity = some (row, next))
    (known : index.byCode code = some found) : next.byCode code = some found := by
  rw [resolveAsset] at resolved
  split at resolved
  · obtain ⟨-, rfl⟩ := Prod.mk.inj (Option.some_inj.mp resolved)
    exact known
  · obtain ⟨⟨_, last⟩, lookup, isLast⟩ := Option.map_eq_some_iff.mp resolved
    obtain ⟨-, rfl⟩ := Prod.mk.inj isLast
    rw [findAsset] at lookup
    split at lookup
    · obtain ⟨-, rfl⟩ := Prod.mk.inj (Option.some_inj.mp lookup)
      exact known
    · split at lookup
      · obtain ⟨-, rfl⟩ := Prod.mk.inj (Option.some_inj.mp lookup)
        exact known
      · split at lookup
        · obtain ⟨-, rfl⟩ := Prod.mk.inj (Option.some_inj.mp lookup)
          exact known
        · obtain ⟨created, -, isCreated⟩ := Option.map_eq_some_iff.mp lookup
          obtain ⟨-, rfl⟩ := Prod.mk.inj isCreated
          exact AssetIndex.byCode_foldl_setDefault created _ known

/-- A row gets the asset that its code has from then on. -/
theorem resolveAsset_lookedUp (answers : AnswersSymbols upper service)
    (resolved : resolveAsset upper service index activity = some (row, next))
    (lookedUp : LookedUpAs upper code activity) (nonblank : code ≠ "") :
    ∃ asset, next.byCode code = some asset ∧ row = setAsset activity asset := by
  obtain ⟨unsettled, isFirst⟩ := lookedUp
  obtain ⟨candidate, isHead, isCode⟩ := Option.map_eq_some_iff.mp isFirst
  simp only [resolveAsset, findAsset, unsettled, isHead, isCode, Bool.false_eq_true, if_false,
    nonblank] at resolved
  cases lookup : index.byCode code with
  | some asset =>
      simp only [lookup, Option.map_some, Option.elim_some, Option.some_inj,
        Prod.mk.injEq] at resolved
      obtain ⟨rfl, rfl⟩ := resolved
      exact ⟨asset, lookup, rfl⟩
  | none =>
      simp only [lookup] at resolved
      obtain ⟨⟨_, last⟩, isCreated, isLast⟩ := Option.map_eq_some_iff.mp resolved
      obtain ⟨created, answered, isFound⟩ := Option.map_eq_some_iff.mp isCreated
      obtain ⟨rfl, rfl⟩ := Prod.mk.inj isFound
      obtain ⟨rfl, rfl⟩ := Prod.mk.inj isLast
      refine ⟨created, ?_, rfl⟩
      have isAnswer := answers _ _ _ candidate answered isCode.symm
      exact AssetIndex.byCode_indexed created _ lookup isAnswer

/-- All rows that are looked up under a code get one asset, which is the known one if there is
one. -/
theorem rows_of_code (answers : AnswersSymbols upper service) (nonblank : code ≠ "")
    (activities : List ActivityRow) :
    ∀ {index : AssetIndex} {sent : List SentRow},
      resolveAssets upper service index activities = some sent →
        ∃ asset, (∀ found, index.byCode code = some found → asset = found) ∧
          ∀ pair ∈ activities.zip sent, LookedUpAs upper code pair.1 →
            pair.2.row = setAsset pair.1 asset := by
  induction activities with
  | nil =>
      intro index sent _
      refine ⟨(index.byCode code).getD { id := .null }, ?_, ?_⟩
      · intro found known
        rw [known, Option.getD_some]
      · intro pair member
        rw [List.zip_nil_left] at member
        cases member
  | cons activity rest ih =>
      intro index sent resolved
      rw [resolveAssets] at resolved
      split at resolved
      · cases resolved
      · next row next isRow =>
          obtain ⟨others, isOthers, rfl⟩ := Option.map_eq_some_iff.mp resolved
          obtain ⟨asset, isKnown, all⟩ := ih isOthers
          refine ⟨asset, fun found known => isKnown found (byCode_resolveAsset isRow known), ?_⟩
          intro pair member lookedUp
          rw [List.zip_cons_cons, List.mem_cons] at member
          rcases member with rfl | later
          · obtain ⟨own, known, isSet⟩ := resolveAsset_lookedUp answers isRow lookedUp nonblank
            rw [isKnown own known]
            exact isSet
          · exact all pair later lookedUp

/-- No asset is asked for under a code that is known. -/
theorem not_mem_creations_of_known (activities : List ActivityRow) :
    ∀ {index : AssetIndex}, index.byCode code = some asset →
      code ∉ creations upper service index activities := by
  induction activities with
  | nil => exact fun _ => List.not_mem_nil
  | cons activity rest ih =>
      intro index known
      have notAsked : code ∉ (if isSettled activity then none
          else ((candidates activity).head?.map (codeText upper)).filter fun code =>
            code ≠ "" ∧ index.byCode code = none).toList := by
        rw [Option.mem_toList]
        split
        · exact nofun
        · intro asked
          have free := (Option.mem_filter_iff.mp asked).2
          simp [known] at free
      simp only [creations]
      split
      · exact notAsked
      · next row next isRow =>
          rw [List.mem_append, not_or]
          exact ⟨notAsked, ih (byCode_resolveAsset isRow known)⟩

/-- No asset is asked for twice. -/
theorem nodup_creations (answers : AnswersSymbols upper service)
    (activities : List ActivityRow) :
    ∀ index : AssetIndex, (creations upper service index activities).Nodup := by
  induction activities with
  | nil => exact fun _ => List.nodup_nil
  | cons activity rest ih =>
      intro index
      have single : ∀ asked : Option String, asked.toList.Nodup := by
        intro asked
        cases asked with
        | none => exact List.nodup_nil
        | some code => exact List.nodup_singleton code
      simp only [creations]
      split
      · exact single _
      · next row next isRow =>
          rw [List.nodup_append']
          refine ⟨single _, ih next, ?_⟩
          intro code asked later
          rw [Option.mem_toList] at asked
          split at asked
          · cases asked
          · next unsettled =>
              obtain ⟨isCode, free⟩ := Option.mem_filter_iff.mp asked
              have nonblank : code ≠ "" := by
                rintro rfl
                simp at free
              have lookedUp : LookedUpAs upper code activity :=
                ⟨Bool.eq_false_iff.mpr unsettled, isCode⟩
              obtain ⟨asset, known, -⟩ := resolveAsset_lookedUp answers isRow lookedUp nonblank
              exact not_mem_creations_of_known rest known later

/-- Where created assets have the symbols that they are asked for, the rows of one code get one
asset, whether it is found or created, and a push asks for no asset twice. -/
theorem push_one_asset_per_code (upper : String → String) (service : AssetService)
    (answers : AnswersSymbols upper service) (activities : List ActivityRow)
    (checked : Option (List ActivityRow)) (lacks : lacksAsset (hydrate activities checked) = true)
    (sent : List SentRow)
    (pushed : pushActivities upper service activities checked = some sent) :
    (∀ code, code ≠ "" → ∃ asset, ∀ pair ∈ (hydrate activities checked).zip sent,
        LookedUpAs upper code pair.1 → pair.2.row = setAsset pair.1 asset) ∧
      (creations upper service (AssetIndex.ofAssets upper service.assets)
        (hydrate activities checked)).Nodup := by
  simp only [pushActivities, lacks, if_true] at pushed
  split at pushed
  · refine ⟨?_, nodup_creations answers _ _⟩
    intro code nonblank
    obtain ⟨asset, -, all⟩ := rows_of_code answers nonblank _ pushed
    exact ⟨asset, all⟩
  · cases pushed

/-- A purchase of one ISIN. -/
def boughtAgain : ActivityRow := fun key =>
  if key = "activityType" then .string "BUY" else if key = "isin" then .string "NL01" else .null

/-- A service without assets that creates the one of that ISIN. -/
def creatingOne : AssetService where
  assets := []
  create := fun _ request =>
    if request.symbol = "NL01" then some { id := .string "a", isin := .string "NL01" } else none

theorem answersSymbols_creatingOne : AnswersSymbols id creatingOne := by
  intro known request asset value created _
  simp only [creatingOne] at created
  split at created
  · next same =>
      obtain rfl := Option.some_inj.mp created
      rw [same]
      refine ⟨.string "NL01", ?_, by decide +kernel⟩
      exact List.mem_filter.mpr ⟨by simp, by decide +kernel⟩
  · cases created

/-- Two purchases of a new ISIN get the asset that the first one asks for. -/
theorem two_purchases_one_asset :
    (∀ code, code ≠ "" → ∃ asset, ∀ pair ∈ (hydrate [boughtAgain, boughtAgain] none).zip
        ((pushActivities id creatingOne [boughtAgain, boughtAgain] none).getD []),
        LookedUpAs id code pair.1 → pair.2.row = setAsset pair.1 asset) ∧
      (creations id creatingOne (AssetIndex.ofAssets id [])
        (hydrate [boughtAgain, boughtAgain] none)).Nodup := by
  have isSome : (pushActivities id creatingOne [boughtAgain, boughtAgain] none).isSome = true := by
    decide +kernel
  exact push_one_asset_per_code id creatingOne answersSymbols_creatingOne
    [boughtAgain, boughtAgain] none (by decide +kernel) _ (Option.eq_some_of_isSome isSome)

end Repeats

end FinanceSync.Wealthfolio
