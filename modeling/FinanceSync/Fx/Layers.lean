import FinanceSync.Fx.FxService

/-!
# What the layers find

The stored rates have inverses that keep to their range, so that no layer of a
lookup raises; and a lookup puts into the cache only what the layers find anyway.
-/

namespace FinanceSync.Fx

open Lib

/-- The observations are of one origin, and one rate is the rounded inverse of the
other. -/
def FxRateObservation.Reciprocal (first second : FxRateObservation) : Prop :=
  first.timestamp = second.timestamp ∧ first.source = second.source ∧
    (inverseRate first.rate = .ok second.rate ∨ inverseRate second.rate = .ok first.rate)

/-! ## Rates that have an inverse -/

/-- The rates that the column holds, and their inverses. -/
def InRange (rate : ℚ) : Prop := (10 : ℚ) ^ (-12 : Int) ≤ rate ∧ rate ≤ (10 : ℚ) ^ (12 : Int)

theorem InRange.positive {rate : ℚ} (inRange : InRange rate) : 0 < rate :=
  (zpow_pos (by norm_num) (-12)).trans_le inRange.1

/-- The range in units of the last decimal. -/
theorem inRange_units {units : ℚ} (least : 1 ≤ units) (most : units ≤ 10 ^ 24) :
    InRange (units / 10 ^ 12) := by
  have lower : (10 : ℚ) ^ (-12 : Int) = 1 / 10 ^ 12 := by norm_num
  have upper : (10 : ℚ) ^ (12 : Int) = 10 ^ 24 / 10 ^ 12 := by norm_num
  rw [InRange, lower, upper]
  constructor
  · exact div_le_div_of_nonneg_right least (by norm_num)
  · exact div_le_div_of_nonneg_right most (by norm_num)

theorem FxRate.inRange (row : FxRate) : InRange row.rate :=
  inRange_units (by exact_mod_cast row.positive) (by exact_mod_cast row.fits.le)

theorem round12_inRange {number : ℚ} (inRange : InRange number) :
    ∃ rounded, round12 number = .ok rounded ∧ InRange rounded := by
  have least : ((1 : Int) : ℚ) ≤ number * 10 ^ 12 := by
    have scaled := mul_le_mul_of_nonneg_right inRange.1 (by norm_num : (0 : ℚ) ≤ 10 ^ 12)
    norm_num at scaled ⊢
    exact scaled
  have most : number * 10 ^ 12 ≤ ((10 ^ 24 : Int) : ℚ) := by
    have scaled := mul_le_mul_of_nonneg_right inRange.2 (by norm_num : (0 : ℚ) ≤ 10 ^ 12)
    norm_num at scaled ⊢
    exact scaled
  have lower := le_roundHalfEven least
  have upper := roundHalfEven_le most
  have fits : ¬ 10 ^ contextDigits ≤ (roundHalfEven (number * 10 ^ 12)).natAbs := by
    rw [contextDigits]
    omega
  refine ⟨_, by simp only [round12, fits, if_false]; rfl, ?_⟩
  exact inRange_units (by exact_mod_cast lower) (by exact_mod_cast upper)

/-- A rate in the range has an inverse, in the range. -/
theorem inverseRate_inRange {rate : ℚ} (inRange : InRange rate) :
    ∃ inverse, inverseRate rate = .ok inverse ∧ InRange inverse := by
  have positive := inRange.positive
  have low : (10 : ℚ) ^ (-12 : Int) ≤ 1 / rate := by
    have bound := one_div_le_one_div_of_le positive inRange.2
    simpa using bound
  have high : 1 / rate ≤ (10 : ℚ) ^ (12 : Int) := by
    have bound := one_div_le_one_div_of_le (by norm_num) inRange.1
    simpa using bound
  rw [inverseRate, if_neg positive.ne']
  apply round12_inRange
  constructor
  · exact zpow_le_roundDigits (by decide) low
  · exact roundDigits_le_zpow (by decide) (by positivity) high

theorem FxRateObservation.inverse_eq {observation : FxRateObservation} {rate : ℚ}
    (inverted : inverseRate observation.rate = .ok rate) :
    observation.inverse = .ok
      { observation with
        baseCurrency := observation.quoteCurrency
        quoteCurrency := observation.baseCurrency
        rate } := by
  rw [inverse, inverted]
  rfl

/-- The inverse of an observation is reciprocal to it. -/
theorem FxRateObservation.inverse_inRange {observation : FxRateObservation}
    (inRange : InRange observation.rate) :
    ∃ inverse, observation.inverse = .ok inverse ∧ InRange inverse.rate ∧
      inverse.baseCurrency = observation.quoteCurrency ∧
      inverse.quoteCurrency = observation.baseCurrency ∧ observation.Reciprocal inverse := by
  rcases inverseRate_inRange inRange with ⟨rate, inverted, rateInRange⟩
  exact ⟨_, inverse_eq inverted, rateInRange, rfl, rfl, rfl, rfl, .inl inverted⟩

theorem FxRateObservation.Reciprocal.symm {first second : FxRateObservation}
    (reciprocal : first.Reciprocal second) : second.Reciprocal first :=
  ⟨reciprocal.1.symm, reciprocal.2.1.symm, reciprocal.2.2.symm⟩

theorem fallbackRates_inRange {entry : Pair × ℚ} (isMem : entry ∈ fallbackRates) :
    InRange entry.2 := by
  simp only [fallbackRates, List.mem_cons, List.not_mem_nil, or_false] at isMem
  rcases isMem with h | h | h | h | h | h | h | h | h | h | h | h | h | h <;>
    rw [h] <;> norm_num [InRange]

/-! ## What the layers find -/

namespace FxService

variable {settings : Settings} {service : FxService} {clock : Clock} {base quote : String}
  {atTimestamp : Option Instant}

/-- The observation of the pair in the order of the request: the cached one, else
the stored one. -/
def direct (settings : Settings) (service : FxService) (clock : Clock) (base quote : String)
    (atTimestamp : Option Instant) : Option FxRateObservation :=
  (if atTimestamp.isNone then service.cached clock base quote else none).or
    (service.lookupLocalRate settings clock base quote atTimestamp)

/-- The last layer. -/
def fallback (clock : Clock) (base quote : String) (atTimestamp : Option Instant) :
    Option FxRateObservation :=
  if atTimestamp.isNone then getFallbackRate clock base quote else none

/-- The observation that all layers together give for a pair. -/
def found (settings : Settings) (service : FxService) (clock : Clock) (base quote : String)
    (atTimestamp : Option Instant) : Except DecimalError (Option FxRateObservation) :=
  match service.direct settings clock base quote atTimestamp with
  | some observation => .ok (some observation)
  | none =>
      match service.lookupLocalRate settings clock quote base atTimestamp with
      | some opposite => opposite.inverse.map some
      | none => .ok (fallback clock base quote atTimestamp)

/-- The rates in the cache are in the range. -/
def Sound (service : FxService) : Prop :=
  ∀ pair entry, service.memoryCache pair = some entry → InRange entry.observation.rate

theorem lookupLocalRate_stored {observation : FxRateObservation}
    (stored : service.lookupLocalRate settings clock base quote atTimestamp = some observation) :
    observation.baseCurrency = base ∧ observation.quoteCurrency = quote ∧
      InRange observation.rate := by
  simp only [lookupLocalRate] at stored
  split at stored
  · next row first =>
      have selected := List.mem_of_mem_head? (Option.mem_def.mpr first)
      rw [OrderBy.mem_sort, List.mem_filter] at selected
      simp only [Bool.and_eq_true, decide_eq_true_eq] at selected
      split at stored
      · cases stored
      · rw [Option.some_inj] at stored
        rw [← stored]
        exact ⟨selected.2.1.1, selected.2.1.2, row.inRange⟩
  · cases stored

theorem fallback_inRange {observation : FxRateObservation}
    (given : fallback clock base quote atTimestamp = some observation) :
    InRange observation.rate := by
  simp only [fallback, getFallbackRate, Option.ite_none_right_eq_some, Option.map_eq_some_iff]
    at given
  rcases given.2 with ⟨rate, entry, rfl⟩
  rcases List.lookup_eq_some_iff.mp entry with ⟨before, after, split, _⟩
  exact fallbackRates_inRange (by rw [split]; exact List.mem_append_right _ List.mem_cons_self)

theorem Sound.direct_inRange (sound : service.Sound) {observation : FxRateObservation}
    (given : service.direct settings clock base quote atTimestamp = some observation) :
    InRange observation.rate := by
  rw [direct, Option.or_eq_some_iff] at given
  rcases given with hit | stored
  · rw [Option.ite_none_right_eq_some] at hit
    simp only [cached] at hit
    split at hit
    · next entry present =>
        rw [Option.ite_none_left_eq_some, Option.some_inj] at hit
        rw [← hit.2.2]
        exact sound _ entry present
    · cases hit.2
  · exact (lookupLocalRate_stored stored.2).2.2

/-- No layer raises, and what they find is in the range. -/
theorem Sound.found_ok (sound : service.Sound) (settings : Settings) (clock : Clock)
    (base quote : String) (atTimestamp : Option Instant) :
    ∃ answer, service.found settings clock base quote atTimestamp = .ok answer ∧
      ∀ observation ∈ answer, InRange observation.rate := by
  rw [found]
  cases own : service.direct settings clock base quote atTimestamp with
  | some observation =>
      refine ⟨some observation, rfl, ?_⟩
      intro other same
      rw [Option.mem_some_iff] at same
      rw [← same]
      exact sound.direct_inRange own
  | none =>
      cases reverse : service.lookupLocalRate settings clock quote base atTimestamp with
      | some opposite =>
          have range := (lookupLocalRate_stored reverse).2.2
          rcases FxRateObservation.inverse_inRange range with ⟨inverse, inverted, inRange, _⟩
          refine ⟨some inverse, by simp [inverted, Except.map], ?_⟩
          intro other same
          rw [Option.mem_some_iff] at same
          rwa [← same]
      | none => exact ⟨_, rfl, fun _ given => fallback_inRange given⟩

/-! ## What a call does -/

@[simp] theorem dropExpired_rows (clock : Clock) (base quote : String) :
    (service.dropExpired clock base quote).rows = service.rows := by
  simp only [dropExpired]
  split
  · split
    · rfl
    · rfl
  · rfl

theorem lookupLocalRate_congr {other : FxService} (rows : other.rows = service.rows) :
    other.lookupLocalRate settings clock base quote atTimestamp =
      service.lookupLocalRate settings clock base quote atTimestamp := by
  simp only [lookupLocalRate, rows]

/-- The result of a call is what the layers find for the canonical pair, in the
order of the request. -/
theorem getRate_result {baseCurrency quoteCurrency : String}
    (ne : baseCurrency ≠ quoteCurrency) :
    (getRate settings service clock baseCurrency quoteCurrency atTimestamp).result =
      (service.found settings clock (canonicalisePair baseCurrency quoteCurrency).base
        (canonicalisePair baseCurrency quoteCurrency).quote atTimestamp).bind fun
          | some observation => (canonicalisePair baseCurrency quoteCurrency).orient observation
          | none => .ok none := by
  generalize pair : canonicalisePair baseCurrency quoteCurrency = canonical
  have looked : ∀ base quote,
      (if atTimestamp.isNone then service.dropExpired clock canonical.base canonical.quote
        else service).lookupLocalRate settings clock base quote atTimestamp =
      service.lookupLocalRate settings clock base quote atTimestamp := by
    intro base quote
    apply lookupLocalRate_congr
    split
    · exact dropExpired_rows clock _ _
    · rfl
  simp only [getRate, ne, if_false, pair, looked, found, direct]
  cases hit : (if atTimestamp.isNone then service.cached clock canonical.base canonical.quote
    else none) with
  | some observation => rfl
  | none =>
      rw [Option.none_or]
      cases service.lookupLocalRate settings clock canonical.base canonical.quote atTimestamp with
      | some stored => rfl
      | none =>
          cases service.lookupLocalRate settings clock canonical.quote canonical.base
            atTimestamp with
          | some opposite =>
              cases inverted : opposite.inverse with
              | error error => simp [inverted, Except.map, Except.bind]
              | ok result => simp [inverted, Except.map, Except.bind]
          | none =>
              simp only [fallback]
              split
              · cases getFallbackRate clock canonical.base canonical.quote with
                | some observation => rfl
                | none => rfl
              · rfl

/-- The stored rates are the same, and what is new in the cache is what the layers
find anyway. -/
structure Keeps (settings : Settings) (clock : Clock) (service after : FxService) : Prop where
  rows : after.rows = service.rows
  cached : ∀ base quote, after.cached clock base quote = service.cached clock base quote ∨
    (service.cached clock base quote = none ∧
      ∃ observation, service.found settings clock base quote none = .ok (some observation) ∧
        after.cached clock base quote = some observation)

theorem Keeps.found {after : FxService} (keeps : Keeps settings clock service after)
    (base quote : String) (atTimestamp : Option Instant) :
    after.found settings clock base quote atTimestamp =
      service.found settings clock base quote atTimestamp := by
  have looked : ∀ base quote, after.lookupLocalRate settings clock base quote atTimestamp =
      service.lookupLocalRate settings clock base quote atTimestamp :=
    fun _ _ => lookupLocalRate_congr keeps.rows
  cases atTimestamp with
  | some instant => simp only [FxService.found, direct, looked, Option.isNone_some]; rfl
  | none =>
      rcases keeps.cached base quote with same | new
      · simp only [FxService.found, direct, looked, same]
      · rcases new.2 with ⟨observation, isFound, hit⟩
        rw [isFound]
        simp [FxService.found, direct, hit]

theorem cached_dropExpired (first second base quote : String) :
    (service.dropExpired clock first second).cached clock base quote =
      service.cached clock base quote := by
  simp only [dropExpired]
  split
  · next entry present =>
      split
      · next expired =>
          by_cases own : (base, quote) = (first, second)
          · simp [cached, own, present, expired]
          · simp [cached, own]
      · rfl
  · rfl

theorem keeps_dropExpired (first second : String) :
    Keeps settings clock service (service.dropExpired clock first second) :=
  ⟨dropExpired_rows clock first second, fun base quote =>
    .inl (cached_dropExpired first second base quote)⟩

/-- An observation that the layers find for the current rate is put into the cache. -/
theorem keeps_setMemoryCache {observation : FxRateObservation}
    (missed : service.cached clock observation.baseCurrency observation.quoteCurrency = none)
    (isFound : service.found settings clock observation.baseCurrency observation.quoteCurrency
      none = .ok (some observation)) (first second : String) :
    Keeps settings clock service
      ((service.dropExpired clock first second).setMemoryCache settings clock observation) where
  rows := dropExpired_rows clock first second
  cached := by
    intro base quote
    by_cases own : (base, quote) = (observation.baseCurrency, observation.quoteCurrency)
    · rw [Prod.mk.injEq] at own
      rw [own.1, own.2, missed]
      by_cases negative : settings.fxRateCacheTtlSeconds < 0
      · left
        simp [cached, setMemoryCache, negative]
      · right
        have lasting : 0 ≤ settings.fxRateCacheTtlSeconds := Int.not_lt.mp negative
        exact ⟨rfl, observation, isFound, by simp [cached, setMemoryCache, lasting]⟩
    · left
      apply Eq.trans _ (cached_dropExpired first second base quote)
      simp [cached, setMemoryCache, own]

/-- A historical lookup leaves the service. -/
theorem getRate_historical (baseCurrency quoteCurrency : String) (instant : Instant) :
    (getRate settings service clock baseCurrency quoteCurrency (some instant)).service =
      service := by
  simp only [getRate, Option.isNone_some, Bool.false_eq_true, if_false]
  split
  · rfl
  · split
    · rfl
    · split
      · split
        · rfl
        · rfl
      · rfl

/-- A call drops at most an expired entry, and puts at most what the layers find
into the cache. -/
theorem getRate_service (baseCurrency quoteCurrency : String) :
    let after := (getRate settings service clock baseCurrency quoteCurrency atTimestamp).service
    after = service ∨ ∃ first second, after = service.dropExpired clock first second ∨
      ∃ observation,
        service.cached clock observation.baseCurrency observation.quoteCurrency = none ∧
        service.found settings clock observation.baseCurrency observation.quoteCurrency none =
          .ok (some observation) ∧
        after = (service.dropExpired clock first second).setMemoryCache settings clock
          observation := by
  by_cases same : baseCurrency = quoteCurrency
  · left
    simp only [getRate, same, if_true]
  generalize pair : canonicalisePair baseCurrency quoteCurrency = canonical
  cases atTimestamp with
  | some instant => exact .inl (getRate_historical baseCurrency quoteCurrency instant)
  | none =>
      right
      refine ⟨canonical.base, canonical.quote, ?_⟩
      have looked : ∀ base quote,
          (service.dropExpired clock canonical.base canonical.quote).lookupLocalRate settings
            clock base quote none = service.lookupLocalRate settings clock base quote none :=
        fun _ _ => lookupLocalRate_congr (dropExpired_rows clock _ _)
      simp only [getRate, same, if_false, pair, Option.isNone_none, if_true, looked]
      cases hit : service.cached clock canonical.base canonical.quote with
      | some observation => exact .inl rfl
      | none =>
          cases own : service.lookupLocalRate settings clock canonical.base canonical.quote
            none with
          | some stored =>
              have columns := lookupLocalRate_stored own
              right
              refine ⟨stored, ?_, ?_, rfl⟩
              · rw [columns.1, columns.2.1, hit]
              · rw [columns.1, columns.2.1]
                simp [found, direct, hit, own]
          | none =>
              cases reverse : service.lookupLocalRate settings clock canonical.quote
                canonical.base none with
              | some opposite =>
                  have columns := lookupLocalRate_stored reverse
                  rcases FxRateObservation.inverse_inRange columns.2.2 with
                    ⟨inverse, inverted, _, base, quote, _⟩
                  right
                  refine ⟨inverse, ?_, ?_, by simp only [inverted]⟩
                  · rw [base, quote, columns.1, columns.2.1, hit]
                  · rw [base, quote, columns.1, columns.2.1]
                    simp [found, direct, hit, own, reverse, inverted, Except.map]
              | none =>
                  left
                  simp only
                  split
                  · rfl
                  · rfl

theorem getRate_keeps (baseCurrency quoteCurrency : String) :
    Keeps settings clock service
      (getRate settings service clock baseCurrency quoteCurrency atTimestamp).service := by
  rcases getRate_service baseCurrency quoteCurrency with same | ⟨first, second, dropped | set⟩
  · rw [same]
    exact ⟨rfl, fun _ _ => .inl rfl⟩
  · rw [dropped]
    exact keeps_dropExpired first second
  · rcases set with ⟨observation, missed, isFound, set⟩
    rw [set]
    exact keeps_setMemoryCache missed isFound first second

/-! ## Reachable services -/

theorem start_sound (rows : List FxRate) : (start rows).Sound := by
  intro pair entry present
  cases present

theorem Sound.dropExpired (sound : service.Sound) (first second : String) :
    (service.dropExpired clock first second).Sound := by
  simp only [FxService.dropExpired]
  split
  · split
    · intro pair entry present
      by_cases own : pair = (first, second)
      · simp [own] at present
      · exact sound pair entry (by simpa [own] using present)
    · exact sound
  · exact sound

theorem serve_sound (sound : service.Sound) (input : Input) :
    (serve settings service input).Sound := by
  cases input with
  | store rows => exact sound
  | getRate clock baseCurrency quoteCurrency atTimestamp =>
      simp only [serve]
      rcases getRate_service baseCurrency quoteCurrency with same | ⟨first, second, dropped | set⟩
      · rw [same]
        exact sound
      · rw [dropped]
        exact sound.dropExpired first second
      · rcases set with ⟨observation, _, isFound, set⟩
        rcases sound.found_ok settings clock observation.baseCurrency observation.quoteCurrency
          none with ⟨answer, ok, inRange⟩
        rw [isFound, Except.ok.injEq] at ok
        rw [set]
        intro pair entry present
        by_cases own : pair = (observation.baseCurrency, observation.quoteCurrency)
        · simp only [setMemoryCache, own, Function.update_self, Option.some_inj] at present
          rw [← present]
          exact inRange observation (by rw [← ok, Option.mem_some_iff])
        · exact sound.dropExpired first second pair entry
            (by simpa [setMemoryCache, own] using present)

theorem runAll_sound (settings : Settings) (rows : List FxRate) (inputs : List Input) :
    (runAll (serve settings) (start rows) inputs).Sound := by
  have preserved : ∀ service input, Sound service → True → Sound (serve settings service input) :=
    fun _ input sound _ => serve_sound sound input
  have anything : Along (serve settings) (fun _ _ => True) (start rows) inputs :=
    along_of_forall inputs fun _ _ => trivial
  exact runAll_invariant preserved inputs (start_sound rows) anything

end FxService

end FinanceSync.Fx
