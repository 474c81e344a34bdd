import AbrChin.Lib.WorkingTime
import AbrChin.Parchin.Operations

/-!
# The business clock is exact

The working week is a calendar of which the windows begin and end on whole minutes, so that
`addParchinBusinessMinutes` is the end of work that is done in quanta of a minute.  The loop spends
the minutes of a day at once: as many as fit into what is left of its window.

The clock is exact on days that `Date.UTC` and the class `Date` can tell.  In Tehran's years 0 to 99
the hours of a day are taken in the 20th century instead, so that the response of a request of the
year 50 is due in 1950.
-/

namespace AbrChin.Parchin

open Js Lib Pricing

/-! ## The working week -/

/-- The day of an instant in Tehran. -/
def tehranDay (x : ℤ) : ℤ := utcDay (x + tehranOffsetMs)

/-- An hour of a day in Tehran. -/
def atHour (day hour : ℤ) : ℤ := day * msPerDay + hour * 3600000 - tehranOffsetMs

/-- The instant is in the window of its day. -/
def Working (x : ℤ) : Prop := ∃ window ∈ workWindow (some (weekday (tehranDay x))),
  atHour (tehranDay x) window.start ≤ x ∧ x < atHour (tehranDay x) window.stop

/-- The instant is in the window of its day, or at its end. -/
def InWindow (x : ℤ) : Prop := ∃ window ∈ workWindow (some (weekday (tehranDay x))),
  atHour (tehranDay x) window.start ≤ x ∧ x ≤ atHour (tehranDay x) window.stop

/-- The hour that the window of a day ends. -/
def closing (day : ℤ) : ℤ := if weekday day = 4 then 14 else 18

theorem workWindow_eq (day : ℤ) : workWindow (some (weekday day)) =
    if weekday day = 5 then none else some ⟨9, closing day⟩ := by
  unfold workWindow closing
  simp only [Option.some.injEq]
  split_ifs with hfriday hthursday
  · rfl
  · rfl
  · rfl

variable {x : ℤ}

theorem working_iff : Working x ↔ weekday (tehranDay x) ≠ 5 ∧
    atHour (tehranDay x) 9 ≤ x ∧ x < atHour (tehranDay x) (closing (tehranDay x)) := by
  rw [Working, workWindow_eq]
  by_cases hfriday : weekday (tehranDay x) = 5
  · simp [hfriday]
  · simp [hfriday]

theorem inWindow_iff : InWindow x ↔ weekday (tehranDay x) ≠ 5 ∧
    atHour (tehranDay x) 9 ≤ x ∧ x ≤ atHour (tehranDay x) (closing (tehranDay x)) := by
  rw [InWindow, workWindow_eq]
  by_cases hfriday : weekday (tehranDay x) = 5
  · simp [hfriday]
  · simp [hfriday]

instance : DecidablePred Working := fun _ => decidable_of_iff _ working_iff.symm

theorem closing_mem (day : ℤ) : 14 ≤ closing day ∧ closing day ≤ 18 := by
  unfold closing
  split_ifs
  · decide
  · decide

variable {day : ℤ}

theorem tehranDay_atHour {hour : ℤ} (hfrom : 0 ≤ hour) (hto : hour < 24) :
    tehranDay (atHour day hour) = day := by
  unfold tehranDay utcDay atHour msPerDay
  omega

theorem tehranDay_eq (hfrom : atHour day 0 ≤ x) (hto : x < atHour (day + 1) 0) :
    tehranDay x = day := by
  unfold atHour msPerDay at hfrom hto
  unfold tehranDay utcDay msPerDay
  omega

theorem atHour_le (x : ℤ) : atHour (tehranDay x) 0 ≤ x ∧ x < atHour (tehranDay x + 1) 0 := by
  unfold tehranDay atHour utcDay msPerDay
  omega

theorem tehranDay_mono : Monotone tehranDay := by
  intro x y hle
  unfold tehranDay utcDay msPerDay
  omega

variable {length : ℤ}

/-- A time fits when it ends before the window does. -/
theorem fits_iff (hpos : 0 < length) :
    Lib.Fits Working length x ↔ weekday (tehranDay x) ≠ 5 ∧ atHour (tehranDay x) 9 ≤ x ∧
      x + length ≤ atHour (tehranDay x) (closing (tehranDay x)) := by
  have hclosing := closing_mem (tehranDay x)
  constructor
  · intro h
    obtain ⟨hday, hopen, hclose⟩ := working_iff.1 (h x le_rfl (by omega))
    refine ⟨hday, hopen, not_lt.1 fun hlt => ?_⟩
    -- the instant at which the window ends is not working
    have hend := working_iff.1 (h _ hclose.le hlt)
    rw [tehranDay_atHour (by omega) (by omega)] at hend
    exact lt_irrefl _ hend.2.2
  · rintro ⟨hday, hopen, hclose⟩ y hfrom hto
    have hsame : tehranDay y = tehranDay x := by
      refine tehranDay_eq ((atHour_le x).1.trans hfrom) ?_
      have := hto.trans_le hclose
      unfold atHour msPerDay at this ⊢
      omega
    rw [working_iff, hsame]
    exact ⟨hday, hopen.trans hfrom, hto.trans_le hclose⟩

/-- The next working day after a day. -/
def nextDay (day : ℤ) : ℤ := if weekday (day + 1) = 5 then day + 2 else day + 1

/-- The first instant from which on a time fits. -/
def openFor (length x : ℤ) : ℤ :=
  if weekday (tehranDay x) ≠ 5 ∧ x + length ≤ atHour (tehranDay x) (closing (tehranDay x)) then
    max x (atHour (tehranDay x) 9)
  else atHour (nextDay (tehranDay x)) 9

theorem weekday_nextDay (day : ℤ) : weekday (nextDay day) ≠ 5 := by
  unfold nextDay
  split_ifs with hfriday
  · unfold weekday at hfriday ⊢
    omega
  · exact hfriday

/-- No working day lies between a day and the next one. -/
theorem nextDay_le {other : ℤ} (hlt : day < other) (hother : weekday other ≠ 5) :
    nextDay day ≤ other := by
  unfold nextDay
  split_ifs with hfriday
  · have hne : day + 1 ≠ other := by
      rintro rfl
      exact hother hfriday
    omega
  · omega

theorem lt_nextDay (day : ℤ) : day < nextDay day := by
  unfold nextDay
  split_ifs
  · omega
  · omega

theorem atHour_mono {other : ℤ} (hle : day ≤ other) (hour : ℤ) :
    atHour day hour ≤ atHour other hour := by
  unfold atHour msPerDay
  omega

theorem openFor_isLeast (hpos : 0 < length) (hle : length ≤ 5 * 3600000) (x : ℤ) :
    IsLeast {y | x ≤ y ∧ Lib.Fits Working length y} (openFor length x) := by
  have hclosing := closing_mem (tehranDay x)
  have hx := atHour_le x
  unfold openFor
  by_cases hroom : weekday (tehranDay x) ≠ 5 ∧
      x + length ≤ atHour (tehranDay x) (closing (tehranDay x))
  · rw [if_pos hroom]
    have hsame : tehranDay (max x (atHour (tehranDay x) 9)) = tehranDay x := by
      refine tehranDay_eq (hx.1.trans (le_max_left _ _)) (max_lt hx.2 ?_)
      unfold atHour msPerDay
      omega
    constructor
    · refine ⟨le_max_left _ _, (fits_iff hpos).2 ?_⟩
      rw [hsame]
      refine ⟨hroom.1, le_max_right _ _, ?_⟩
      rw [max_add]
      refine max_le hroom.2 ?_
      unfold atHour
      omega
    · rintro y ⟨hxy, hy⟩
      obtain ⟨-, hopen, -⟩ := (fits_iff hpos).1 hy
      exact max_le hxy ((atHour_mono (tehranDay_mono hxy) 9).trans hopen)
  · rw [if_neg hroom]
    have hnext := closing_mem (nextDay (tehranDay x))
    constructor
    · refine ⟨?_, (fits_iff hpos).2 ?_⟩
      · have hlt := lt_nextDay (tehranDay x)
        have hle := atHour_mono (Int.add_one_le_iff.2 hlt) 0
        unfold atHour at hx hle ⊢
        omega
      · rw [tehranDay_atHour (by decide) (by decide)]
        refine ⟨weekday_nextDay _, le_rfl, ?_⟩
        unfold atHour
        omega
    · rintro y ⟨hxy, hy⟩
      obtain ⟨hday, hopen, hclose⟩ := (fits_iff hpos).1 hy
      refine (atHour_mono (nextDay_le (lt_of_le_of_ne (tehranDay_mono hxy) ?_) hday) 9).trans hopen
      -- on the same day it would have fitted
      intro hsame
      rw [← hsame] at hday hclose
      exact hroom ⟨hday, by omega⟩

/-- The next working instant. -/
def nextOpen (x : ℤ) : ℤ := openFor 1 x

/-- The next instant from which on a minute can be worked. -/
def nextFit (x : ℤ) : ℤ := openFor 60000 x

theorem fits_one : Lib.Fits Working 1 x ↔ Working x :=
  ⟨fun h => h x le_rfl (by omega), fun h y hfrom hto => by
    rw [show y = x by omega]
    exact h⟩

/-- The windows begin and end on whole minutes. -/
theorem working_of_minute {y : ℤ} (h : x / 60000 = y / 60000) (hx : Working x) : Working y := by
  obtain ⟨hday, hopen, hclose⟩ := working_iff.1 hx
  have hsame : tehranDay y = tehranDay x := by
    unfold tehranDay utcDay msPerDay tehranOffsetMs
    omega
  rw [working_iff, hsame]
  unfold atHour msPerDay tehranOffsetMs at hopen hclose ⊢
  refine ⟨hday, ?_, ?_⟩
  · omega
  · omega

theorem calendar : Calendar Working 60000 nextOpen nextFit where
  pos := by decide
  cells := working_of_minute
  next_isLeast x := by
    have hleast := openFor_isLeast Int.one_pos (by decide) x
    simp only [fits_one] at hleast
    exact hleast
  fit_isLeast := openFor_isLeast (by decide) (by decide)

/-! ## Dates that can be told -/

/-- A day that the class `Date` has in full, of a year that `Date.UTC` does not read as one of the
20th century. -/
structure Told (day : ℤ) : Prop where
  from_le : -100000000 ≤ day
  lt_to : day < 100000000
  year : ¬ (0 ≤ monthOfDay day / 12 ∧ monthOfDay day / 12 ≤ 99)

theorem newDate_some {time : ℤ} (hfrom : -maxTime ≤ time) (hto : time ≤ maxTime) :
    newDate (some time) = some time :=
  timeClip_eq hfrom hto

/-- The time of the day of a date is left out of its local parts. -/
theorem exists_parts_of_told (h : Told (tehranDay x)) : ∃ parts : LocalParts,
    toTehranParts (some x) = some parts ∧ parts.day = weekday (tehranDay x) ∧
      ∀ hour, dateUTCOf parts.year parts.month parts.date hour 0 0 0 =
        timeClip (tehranDay x * msPerDay + hour * 3600000) := by
  have hvalid : newDate (some (x + tehranOffsetMs)) = some (x + tehranOffsetMs) := by
    have hfrom := h.from_le
    have hto := h.lt_to
    unfold tehranDay utcDay msPerDay at hfrom hto
    refine newDate_some ?_ ?_
    · unfold maxTime
      omega
    · unfold maxTime
      omega
  rw [toTehranParts, Option.map_some, hvalid, Option.map_some]
  exact ⟨_, rfl, rfl, dateUTCOf_parts h.year⟩

theorem day_toTehranParts (h : Told (tehranDay x)) :
    (toTehranParts (some x)).map (·.day) = some (weekday (tehranDay x)) := by
  obtain ⟨parts, hparts, hday, -⟩ := exists_parts_of_told h
  rw [hparts, Option.map_some, hday]

theorem atLocalHour_eq {hour : ℤ} (h : Told (tehranDay x)) (hfrom : 9 ≤ hour) (hto : hour ≤ 18) :
    atLocalHour (toTehranParts (some x)) hour = some (atHour (tehranDay x) hour) := by
  obtain ⟨parts, hparts, -, hutc⟩ := exists_parts_of_told h
  have hfirst := h.from_le
  have hlast := h.lt_to
  have hfromUtc : dateUTCOf parts.year parts.month parts.date hour 0 0 0 =
      some (tehranDay x * msPerDay + hour * 3600000) := by
    rw [hutc, timeClip_eq]
    · unfold maxTime msPerDay
      omega
    · unfold maxTime msPerDay
      omega
  rw [hparts, atLocalHour, Option.bind_some, fromTehranParts, hfromUtc, Option.map_some]
  refine newDate_some ?_ ?_
  · unfold maxTime msPerDay tehranOffsetMs
    omega
  · unfold maxTime msPerDay tehranOffsetMs
    omega

theorem nextLocalDay_eq (h : Told (tehranDay x)) :
    newDate ((toTehranParts (some x)).bind fun parts =>
      (dateUTCOf parts.year parts.month parts.date 0 0 0 0).map (· + dayMs - tehranOffsetMs)) =
    some (atHour (tehranDay x + 1) 0) := by
  obtain ⟨parts, hparts, -, hutc⟩ := exists_parts_of_told h
  have hfirst := h.from_le
  have hlast := h.lt_to
  have hday : tehranDay x * msPerDay + 0 * 3600000 + dayMs - tehranOffsetMs =
      atHour (tehranDay x + 1) 0 := by
    unfold atHour dayMs msPerDay
    omega
  rw [hparts, Option.bind_some, hutc, timeClip_eq, Option.map_some, hday]
  · refine newDate_some ?_ ?_
    · unfold maxTime atHour msPerDay tehranOffsetMs
      omega
    · unfold maxTime atHour msPerDay tehranOffsetMs
      omega
  · unfold maxTime msPerDay
    omega
  · unfold maxTime msPerDay
    omega

theorem newDate_of_told {y : ℤ} (h : Told day) (hfrom : atHour day 9 ≤ y)
    (hto : y < atHour (day + 1) 0) : newDate (some y) = some y := by
  have hfirst := h.from_le
  have hlast := h.lt_to
  unfold atHour msPerDay tehranOffsetMs at hfrom hto
  refine newDate_some ?_ ?_
  · unfold maxTime
    omega
  · unfold maxTime
    omega

/-! ## The next opening -/

/-- One attempt: the window of the day, or the next day. -/
theorem nextWorkingOpenFrom_succ (h : Told (tehranDay x)) (attempts : ℕ) :
    nextWorkingOpenFrom (attempts + 1) (some x) =
      if weekday (tehranDay x) ≠ 5 ∧ x < atHour (tehranDay x) (closing (tehranDay x)) then
        .ok (some (max x (atHour (tehranDay x) 9)))
      else nextWorkingOpenFrom attempts
        (atLocalHour (toTehranParts (some (atHour (tehranDay x + 1) 0))) 9) := by
  have hclosing := closing_mem (tehranDay x)
  have hopens : atLocalHour (toTehranParts (some x)) 9 = some (atHour (tehranDay x) 9) :=
    atLocalHour_eq h le_rfl (by decide)
  have hclose : atLocalHour (toTehranParts (some x)) (closing (tehranDay x)) =
      some (atHour (tehranDay x) (closing (tehranDay x))) :=
    atLocalHour_eq h (by omega) hclosing.2
  have hbefore : atHour (tehranDay x) 9 < atHour (tehranDay x) (closing (tehranDay x)) := by
    unfold atHour
    omega
  rw [nextWorkingOpenFrom]
  simp only [day_toTehranParts h, workWindow_eq, nextLocalDay_eq h]
  by_cases hfriday : weekday (tehranDay x) = 5
  · rw [if_pos hfriday, if_neg fun hroom => hroom.1 hfriday]
    rfl
  · rw [if_neg hfriday]
    simp only [Option.bind_some, hopens, hclose, lessThan, decide_eq_true_eq]
    by_cases hearly : x < atHour (tehranDay x) 9
    · rw [if_pos hearly, if_pos ⟨hfriday, hearly.trans hbefore⟩, max_eq_right hearly.le]
    · rw [if_neg hearly]
      by_cases hopen : x < atHour (tehranDay x) (closing (tehranDay x))
      · rw [if_pos hopen, if_pos ⟨hfriday, hopen⟩, max_eq_left (not_lt.1 hearly)]
      · rw [if_neg hopen, if_neg fun hroom => hopen hroom.2]

/-- The days from one instant to another can be told. -/
def ToldBetween (x y : ℤ) : Prop := ∀ day, tehranDay x ≤ day → day ≤ tehranDay y → Told day

theorem ToldBetween.mono {y x' y' : ℤ} (h : ToldBetween x y) (hx : x ≤ x') (hy : y' ≤ y) :
    ToldBetween x' y' :=
  fun day hfrom hto => h day ((tehranDay_mono hx).trans hfrom) (hto.trans (tehranDay_mono hy))

/-- The opening of a working day that can be told. -/
theorem nextWorkingOpenFrom_opening (h : Told day) (hday : weekday day ≠ 5) (attempts : ℕ) :
    nextWorkingOpenFrom (attempts + 1) (some (atHour day 9)) = .ok (some (atHour day 9)) := by
  have hsame : tehranDay (atHour day 9) = day := tehranDay_atHour (by decide) (by decide)
  have hclosing := closing_mem day
  rw [nextWorkingOpenFrom_succ (by rw [hsame]; exact h), hsame, if_pos, max_self]
  refine ⟨hday, ?_⟩
  unfold atHour
  omega

/-- **Three attempts find the next opening.** -/
theorem nextWorkingOpen_eq (h : ToldBetween x (nextOpen x)) :
    nextWorkingOpen (some x) = .ok (some (nextOpen x)) := by
  have hnext : nextOpen x =
      if weekday (tehranDay x) ≠ 5 ∧ x < atHour (tehranDay x) (closing (tehranDay x)) then
        max x (atHour (tehranDay x) 9)
      else atHour (nextDay (tehranDay x)) 9 := by
    unfold nextOpen openFor
    simp only [Int.add_one_le_iff]
  have hfirst : Told (tehranDay x) :=
    h _ le_rfl (tehranDay_mono (calendar.le_next x))
  rw [nextWorkingOpen, nextWorkingOpenFrom_succ hfirst]
  by_cases hroom : weekday (tehranDay x) ≠ 5 ∧
      x < atHour (tehranDay x) (closing (tehranDay x))
  · rw [if_pos hroom] at hnext ⊢
    rw [hnext]
  · rw [if_neg hroom] at hnext ⊢
    have hday : tehranDay (nextOpen x) = nextDay (tehranDay x) := by
      rw [hnext]
      exact tehranDay_atHour (by decide) (by decide)
    have hlt := lt_nextDay (tehranDay x)
    have htold {day : ℤ} (hfrom : tehranDay x ≤ day) (hto : day ≤ nextDay (tehranDay x)) :
        Told day :=
      h day hfrom (hto.trans_eq hday.symm)
    have hmidnight : tehranDay (atHour (tehranDay x + 1) 0) = tehranDay x + 1 :=
      tehranDay_atHour le_rfl (by decide)
    have hsecond : Told (tehranDay x + 1) := htold (by omega) (by omega)
    rw [atLocalHour_eq (by rw [hmidnight]; exact hsecond) le_rfl (by decide), hmidnight]
    by_cases hfriday : weekday (tehranDay x + 1) = 5
    · -- Friday is left out
      have hsaturday : nextDay (tehranDay x) = tehranDay x + 2 := if_pos hfriday
      have hsame : tehranDay (atHour (tehranDay x + 1) 9) = tehranDay x + 1 :=
        tehranDay_atHour (by decide) (by decide)
      have hnextday : tehranDay (atHour (tehranDay x + 1 + 1) 0) = tehranDay x + 2 := by
        rw [tehranDay_atHour le_rfl (by decide)]
        omega
      have hthird : Told (tehranDay x + 2) := htold (by omega) (by omega)
      have hopen : weekday (tehranDay x + 2) ≠ 5 := by
        rw [← hsaturday]
        exact weekday_nextDay _
      rw [nextWorkingOpenFrom_succ (by rw [hsame]; exact hsecond), hsame,
        if_neg fun hroom => hroom.1 hfriday,
        atLocalHour_eq (by rw [hnextday]; exact hthird) le_rfl (by decide), hnextday,
        nextWorkingOpenFrom_opening hthird hopen, hnext, hsaturday]
    · have hnextday : nextDay (tehranDay x) = tehranDay x + 1 := if_neg hfriday
      rw [nextWorkingOpenFrom_opening hsecond hfriday, hnext, hnextday]

/-! ## Spending the minutes -/

/-- The end of a minute of work. -/
abbrev workMinute : ℤ → ℤ := work 60000 nextFit

/-- Minutes that fit into the window are spent at once. -/
theorem iterate_workMinute (hx : Working x) (k : ℕ)
    (hroom : x + k * 60000 ≤ atHour (tehranDay x) (closing (tehranDay x))) :
    workMinute^[k] x = x + k * 60000 := by
  induction k with
  | zero => simp
  | succ k ih =>
      push_cast at hroom ⊢
      obtain ⟨hday, hopen, -⟩ := working_iff.1 hx
      rw [Function.iterate_succ_apply', ih (by omega)]
      have hsame : tehranDay (x + k * 60000) = tehranDay x := by
        have hclosing := closing_mem (tehranDay x)
        refine tehranDay_eq ?_ ?_
        · have := (atHour_le x).1
          omega
        · unfold atHour msPerDay at hroom ⊢
          omega
      have hfits : Lib.Fits Working 60000 (x + k * 60000) := by
        rw [fits_iff (by decide), hsame]
        refine ⟨hday, ?_, ?_⟩
        · omega
        · omega
      rw [workMinute, work, nextFit, openFor, hsame, if_pos ⟨hday, by omega⟩,
        max_eq_left (by omega)]
      ring

/-- A minute that does not fit is worked on the next day. -/
theorem workMinute_of_full {y : ℤ} (hsame : tehranDay y = tehranDay x)
    (hfull : atHour (tehranDay x) (closing (tehranDay x)) < y + 60000) :
    workMinute y = workMinute (atHour (nextDay (tehranDay x)) 9) := by
  have hopening : Lib.Fits Working 60000 (atHour (nextDay (tehranDay x)) 9) := by
    have hclosing := closing_mem (nextDay (tehranDay x))
    rw [fits_iff (by decide), tehranDay_atHour (by decide) (by decide)]
    refine ⟨weekday_nextDay _, le_rfl, ?_⟩
    unfold atHour
    omega
  have hwait : nextFit y = atHour (nextDay (tehranDay x)) 9 := by
    rw [nextFit, openFor, hsame, if_neg]
    exact fun hroom => absurd hfull (not_lt.2 hroom.2)
  rw [workMinute, work, work, hwait, calendar.fit_of_fits hopening]

/-- **The loop works the minutes.** -/
theorem spendMinutes_eq (fuel : ℕ) (hx : Working x) (k : ℕ) (hfuel : k + 1 < fuel ∨
      k < fuel ∧ x + 60000 ≤ atHour (tehranDay x) (closing (tehranDay x)))
    (htold : ToldBetween x (workMinute^[k] x)) :
    spendMinutes fuel (some x) (some k) = some (.ok (some (workMinute^[k] x))) := by
  induction fuel generalizing x k with
  | zero => omega
  | succ fuel ih =>
      rw [spendMinutes]
      by_cases hzero : k = 0
      · subst hzero
        rfl
      · have hpos : (!lessThan (some 0) (some (k : ℤ))) = false := by
          simp only [lessThan, Bool.not_eq_false', decide_eq_true_eq]
          omega
        rw [hpos, if_neg Bool.false_ne_true]
        obtain ⟨hday, hopen, hclose⟩ := working_iff.1 hx
        have hclosing := closing_mem (tehranDay x)
        have hle : x ≤ workMinute^[k] x := (calendar.ended_iterate x k).1
        have hfirst : Told (tehranDay x) := htold _ le_rfl (tehranDay_mono hle)
        have hend : atLocalHour (toTehranParts (some x)) (closing (tehranDay x)) =
            some (atHour (tehranDay x) (closing (tehranDay x))) :=
          atLocalHour_eq hfirst (by omega) hclosing.2
        simp only [day_toTehranParts hfirst, workWindow_eq, if_neg hday, hend, Option.bind_some,
          Option.map_some]
        set close := atHour (tehranDay x) (closing (tehranDay x)) with hcloseEq
        obtain ⟨available, havailable⟩ : ∃ available : ℕ, (available : ℤ) = (close - x) / 60000 :=
          ⟨((close - x) / 60000).toNat, by omega⟩
        rw [max_eq_right (by omega), ← havailable]
        have hlate : close + 60000 ≤ atHour (tehranDay x) 19 := by
          rw [hcloseEq]
          unfold atHour
          omega
        have hnight : atHour (tehranDay x) 19 < atHour (tehranDay x + 1) 0 := by
          unfold atHour msPerDay
          omega
        by_cases hroom : (k : ℤ) ≤ available
        · rw [if_pos hroom, iterate_workMinute hx k (by omega)]
          rw [newDate_of_told hfirst (by omega)]
          exact (le_trans (by omega) hlate).trans_lt hnight
        · rw [if_neg hroom]
          have hsum : k = k - available + available := by omega
          have hpart : workMinute^[available] x = x + available * 60000 :=
            iterate_workMinute hx available (by omega)
          have hsame : tehranDay (x + available * 60000) = tehranDay x := by
            refine tehranDay_eq ?_ ((le_trans (by omega) hlate).trans_lt hnight)
            have := (atHour_le x).1
            omega
          -- what is left is worked from the next opening on
          have hrest : workMinute^[k] x =
              workMinute^[k - available] (atHour (nextDay (tehranDay x)) 9) := by
            obtain ⟨rest, hsucc⟩ : ∃ rest, k - available = rest + 1 := ⟨k - available - 1, by omega⟩
            rw [hsum, Nat.add_sub_cancel, Function.iterate_add_apply, hpart, hsucc,
              Function.iterate_succ_apply, Function.iterate_succ_apply,
              workMinute_of_full hsame (by omega)]
          have hafter : tehranDay (close + 60000) = tehranDay x :=
            tehranDay_eq (by have := (atHour_le x).1; omega) (hlate.trans_lt hnight)
          have hnext : nextOpen (close + 60000) = atHour (nextDay (tehranDay x)) 9 := by
            rw [nextOpen, openFor, hafter, if_neg]
            exact fun hroom => absurd hroom.2 (by omega)
          have hopening : Working (atHour (nextDay (tehranDay x)) 9) := by
            rw [← hnext]
            exact calendar.working_next _
          have hreach : atHour (nextDay (tehranDay x)) 9 ≤ workMinute^[k] x := by
            rw [hrest]
            exact (calendar.ended_iterate _ _).1
          have hbetween : ToldBetween (close + 60000) (nextOpen (close + 60000)) := by
            rw [hnext]
            exact htold.mono (by omega) hreach
          rw [newDate_of_told hfirst (by omega) (hlate.trans_lt hnight),
            nextWorkingOpen_eq hbetween, hnext, hrest]
          have hcast : ((k - available : ℕ) : ℤ) = k - available := by omega
          simp only
          rw [← hcast]
          refine ih hopening (k - available) (.inr ⟨by omega, ?_⟩) ?_
          · have hclosing := closing_mem (nextDay (tehranDay x))
            rw [tehranDay_atHour (by decide) (by decide)]
            unfold atHour
            omega
          rw [← hrest]
          refine htold.mono ?_ le_rfl
          rw [← hnext]
          exact (show x ≤ close + 60000 by omega).trans (calendar.le_next _)

/-! ## The clock -/

/-- The instant that is `minutes` of work after another one. -/
abbrev minutesAfter (x : ℤ) (minutes : ℕ) : ℤ := after 60000 nextOpen nextFit x minutes

theorem nextOpen_le_minutesAfter (x : ℤ) (minutes : ℕ) : nextOpen x ≤ minutesAfter x minutes :=
  calendar.after_mono_right x (Nat.zero_le minutes)

/-- The call returns a date, with any fuel from some amount on. -/
def Returns (createdAt : ℤ) (minutes : ℕ) (result : ℤ) : Prop :=
  ∃ enough, ∀ fuel, enough ≤ fuel →
    addParchinBusinessMinutes fuel (some createdAt) minutes = some (.ok (some result))

theorem Returns.unique {createdAt result result' : ℤ} {minutes : ℕ}
    (h : Returns createdAt minutes result) (h' : Returns createdAt minutes result') :
    result = result' := by
  obtain ⟨enough, h⟩ := h
  obtain ⟨enough', h'⟩ := h'
  have heq := (h _ (le_max_left enough enough')).symm.trans (h' _ (le_max_right _ _))
  simpa using heq

variable {minutes : ℕ}

/-- **The code's clock is that of the working week.** -/
theorem addParchinBusinessMinutes_eq {fuel : ℕ} (hfuel : minutes + 2 ≤ fuel)
    (htold : ToldBetween x (minutesAfter x minutes)) :
    addParchinBusinessMinutes fuel (some x) minutes =
      some (.ok (some (minutesAfter x minutes))) := by
  have hopen : nextWorkingOpen (some x) = .ok (some (nextOpen x)) :=
    nextWorkingOpen_eq (htold.mono le_rfl (nextOpen_le_minutesAfter x minutes))
  rw [addParchinBusinessMinutes, hopen]
  simp only
  rw [max_eq_right (Int.natCast_nonneg _)]
  by_cases hzero : minutes = 0
  · subst hzero
    obtain ⟨fuel, rfl⟩ := Nat.exists_eq_add_of_le' hfuel
    rfl
  · have hafter : minutesAfter x minutes = workMinute^[minutes] (nextOpen x) :=
      calendar.after_eq_iterate x (Nat.pos_of_ne_zero hzero)
    rw [hafter] at htold ⊢
    exact spendMinutes_eq fuel (calendar.working_next x) minutes (.inl hfuel)
      (htold.mono (calendar.le_next x) le_rfl)

theorem returns_minutesAfter (htold : ToldBetween x (minutesAfter x minutes)) :
    Returns x minutes (minutesAfter x minutes) :=
  ⟨minutes + 2, fun _ hfuel => addParchinBusinessMinutes_eq hfuel htold⟩

/-- The end of work is in a window, or at its end. -/
theorem inWindow_minutesAfter (x : ℤ) (minutes : ℕ) : InWindow (minutesAfter x minutes) := by
  cases minutes with
  | zero =>
      obtain ⟨hday, hopen, hclose⟩ := working_iff.1 (calendar.working_next x)
      exact inWindow_iff.2 ⟨hday, hopen, hclose.le⟩
  | succ minutes =>
      rw [minutesAfter, after, Function.iterate_succ_apply']
      generalize (work 60000 nextFit)^[minutes] x = y
      obtain ⟨hday, hopen, hclose⟩ := (fits_iff (by decide)).1 (calendar.fits_fit y)
      have hclosing := closing_mem (tehranDay (nextFit y))
      have hsame : tehranDay (nextFit y + 60000) = tehranDay (nextFit y) := by
        refine tehranDay_eq ?_ ?_
        · have := (atHour_le (nextFit y)).1
          omega
        · unfold atHour msPerDay at hclose ⊢
          omega
      rw [work, inWindow_iff, hsame]
      exact ⟨hday, by omega, hclose⟩

/-- The dates up to the end of a window, which leaves time for the minutes, can be told. -/
def Covered (createdAt : ℤ) (minutes : ℕ) : Prop :=
  ∃ day, weekday day ≠ 5 ∧ createdAt < atHour day (closing day) ∧
    ToldBetween createdAt (atHour day (closing day)) ∧
    minutes * 60000 ≤ worked Working createdAt (atHour day (closing day))

/-- The work ends before the window does. -/
theorem minutesAfter_le (hday : weekday day ≠ 5) (hx : x < atHour day (closing day))
    (hroom : minutes * 60000 ≤ worked Working x (atHour day (closing day))) :
    minutesAfter x minutes ≤ atHour day (closing day) := by
  have hclosing := closing_mem day
  cases minutes with
  | zero =>
      clear hroom
      have hlast : tehranDay (atHour day (closing day) - 1) = day := by
        refine tehranDay_eq ?_ ?_
        · unfold atHour
          omega
        · unfold atHour msPerDay
          omega
      have hworking : Working (atHour day (closing day) - 1) := by
        rw [working_iff, hlast]
        refine ⟨hday, ?_, by omega⟩
        unfold atHour
        omega
      have hle := calendar.next_le (show x ≤ atHour day (closing day) - 1 by omega) hworking
      rw [minutesAfter, after]
      omega
  | succ minutes =>
      by_contra hnot
      have hbound := (calendar.worked_after x (minutes + 1)).2
      rw [minutesAfter] at hnot
      rw [after, Function.iterate_succ_apply'] at hbound hnot
      generalize (work 60000 nextFit)^[minutes] x = y at hbound hnot
      obtain ⟨hday', hopen, hclose⟩ := (fits_iff (by decide)).1 (calendar.fits_fit y)
      rw [work] at hnot
      -- the last minute does not begin before the window ends
      have hlate : atHour day (closing day) ≤ nextFit y := by
        by_contra hearly
        have hle : tehranDay (nextFit y) ≤ day := by
          have := tehranDay_mono (not_le.1 hearly).le
          rwa [tehranDay_atHour (by omega) (by omega)] at this
        have hclosing' := closing_mem (tehranDay (nextFit y))
        rcases eq_or_lt_of_le hle with hsame | hlt
        · rw [hsame] at hclose
          exact hnot hclose
        · unfold atHour msPerDay at hclose hnot
          omega
      have hquantum : (worked Working (nextFit y) (nextFit y + 60000) : ℤ) = 60000 :=
        calendar.worked_quantum y
      have hwhole : worked Working x (nextFit y) + worked Working (nextFit y) (nextFit y + 60000) =
          worked Working x (nextFit y + 60000) :=
        worked_add (hx.le.trans hlate) (by omega)
      have hbefore : worked Working x (atHour day (closing day)) ≤ worked Working x (nextFit y) :=
        worked_mono hx.le hlate
      rw [work] at hbound
      push_cast at hbound
      omega

theorem Covered.told (h : Covered x minutes) : ToldBetween x (minutesAfter x minutes) := by
  obtain ⟨day, hday, hx, htold, hroom⟩ := h
  exact htold.mono le_rfl (minutesAfter_le hday hx hroom)

theorem Covered.returns {result : ℤ} (h : Covered x minutes) :
    Returns x minutes result ↔ result = minutesAfter x minutes := by
  constructor
  · exact fun hreturns => hreturns.unique (returns_minutesAfter h.told)
  · rintro rfl
    exact returns_minutesAfter h.told

/-- **The service-level clock is exact** on dates that can be told.

The call returns an instant of a working window, or its end, after as many minutes of working time,
and less than one more.  A later call, or one for more minutes, returns no earlier instant; and
minutes may be added in two parts. -/
theorem parchin_clock_exact :
    (∀ createdAt minutes, Covered createdAt minutes → ∃ result,
      Returns createdAt minutes result ∧ createdAt ≤ result ∧ InWindow result ∧
      minutes * 60000 ≤ worked Working createdAt result ∧
      worked Working createdAt result < (minutes + 1) * 60000) ∧
    (∀ createdAt createdAt' minutes minutes' result result', Covered createdAt minutes →
      Covered createdAt' minutes' → createdAt ≤ createdAt' → minutes ≤ minutes' →
      Returns createdAt minutes result → Returns createdAt' minutes' result' →
      result ≤ result') ∧
    ∀ createdAt first second between result, 1 ≤ first → 1 ≤ second →
      Covered createdAt (first + second) → Returns createdAt first between →
      (Returns between second result ↔ Returns createdAt (first + second) result) := by
  refine ⟨fun createdAt minutes h => ⟨minutesAfter createdAt minutes, ?_⟩, ?_, ?_⟩
  · have hworked := calendar.worked_after createdAt minutes
    refine ⟨returns_minutesAfter h.told, calendar.le_after createdAt minutes,
      inWindow_minutesAfter createdAt minutes, ?_, ?_⟩
    · exact_mod_cast hworked.1
    · exact_mod_cast hworked.2
  · intro x x' minutes minutes' result result' h h' hx hminutes hresult hresult'
    rw [h.returns.1 hresult, h'.returns.1 hresult']
    calc minutesAfter x minutes
        ≤ minutesAfter x minutes' := calendar.after_mono_right x hminutes
      _ ≤ minutesAfter x' minutes' := calendar.after_mono_left minutes' hx
  · intro x first second between result hfirst hsecond h hbetween
    have hsum : minutesAfter (minutesAfter x first) second = minutesAfter x (first + second) :=
      Calendar.after_after hfirst hsecond
    have hmid : ToldBetween x (minutesAfter x first) :=
      h.told.mono le_rfl (calendar.after_mono_right x (Nat.le_add_right _ _))
    obtain rfl := hbetween.unique (returns_minutesAfter hmid)
    have htold : ToldBetween (minutesAfter x first)
        (minutesAfter (minutesAfter x first) second) := by
      rw [hsum]
      exact h.told.mono (calendar.le_after x first) le_rfl
    rw [h.returns, ← hsum]
    constructor
    · exact fun hresult => hresult.unique (returns_minutesAfter htold)
    · rintro rfl
      exact returns_minutesAfter htold

/-- A Saturday in 2026, at nine. -/
def sampleSaturday : ℤ := 1791610200000

theorem covered_sampleSaturday (hminutes : minutes ≤ 540) : Covered sampleSaturday minutes := by
  have hsame : tehranDay (atHour 20736 (closing 20736)) = 20736 := by decide +kernel
  have hworked : (worked Working sampleSaturday (atHour 20736 (closing 20736)) : ℤ) =
      atHour 20736 (closing 20736) - sampleSaturday := by
    refine worked_of_working (by decide +kernel) fun x hfrom hto => ?_
    have hday : tehranDay x = 20736 :=
      tehranDay_eq (le_trans (by decide +kernel) hfrom) (hto.trans (by decide +kernel))
    rw [working_iff, hday]
    exact ⟨by decide +kernel, le_trans (by decide +kernel) hfrom, hto⟩
  refine ⟨20736, by decide +kernel, by decide +kernel, fun day hfrom hto => ?_, ?_⟩
  · rw [hsame] at hto
    have hstart : tehranDay sampleSaturday = 20736 := by decide +kernel
    obtain rfl : day = 20736 := by omega
    exact ⟨by decide, by decide, by decide +kernel⟩
  · have hlength : atHour 20736 (closing 20736) - sampleSaturday = 540 * 60000 := by
      decide +kernel
    omega

theorem parchin_clock_exact_sample : ∃ result, Returns sampleSaturday 540 result ∧
    540 * 60000 ≤ worked Working sampleSaturday result ∧
    worked Working sampleSaturday result < 541 * 60000 ∧
    ∀ between, Returns sampleSaturday 240 between →
      between ≤ result ∧ Returns between 300 result := by
  obtain ⟨hexact, hmono, hparts⟩ := parchin_clock_exact
  obtain ⟨result, hreturns, -, -, hfrom, hto⟩ :=
    hexact sampleSaturday 540 (covered_sampleSaturday le_rfl)
  refine ⟨result, hreturns, hfrom, hto, fun between hbetween => ⟨?_, ?_⟩⟩
  · exact hmono sampleSaturday sampleSaturday 240 540 between result
      (covered_sampleSaturday (by decide)) (covered_sampleSaturday le_rfl) le_rfl (by decide)
      hbetween hreturns
  · exact (hparts sampleSaturday 240 300 between result (by decide) (by decide)
      (covered_sampleSaturday le_rfl) hbetween).2 hreturns

/-- A Monday of the year 50, about noon: its next opening is in 1950. -/
theorem parchin_clock_early_year : ¬ ∀ (createdAt : ℤ) (minutes : ℕ),
    newDate (some createdAt) = some createdAt → ∃ result,
      Returns createdAt minutes result ∧ createdAt ≤ result ∧ InWindow result ∧
      minutes * 60000 ≤ worked Working createdAt result ∧
      worked Working createdAt result < (minutes + 1) * 60000 := by
  intro h
  obtain ⟨result, ⟨enough, hreturns⟩, -, -, -, hto⟩ :=
    h (-60573971200000) 0 (by decide +kernel)
  have hopen : nextWorkingOpen (some (-60573971200000)) = .ok (some (-615839400000)) := by
    decide +kernel
  have hresult := hreturns (enough + 1) (Nat.le_succ _)
  rw [addParchinBusinessMinutes, hopen] at hresult
  obtain rfl : -615839400000 = result := by
    simpa [spendMinutes, lessThan] using hresult
  -- the first minute after noon is worked
  have hfits : Lib.Fits Working 60000 (-60573971200000) :=
    (fits_iff (by decide)).2 (by decide +kernel)
  have hminute : (worked Working (-60573971200000) (-60573971200000 + 60000) : ℤ) =
      -60573971200000 + 60000 - -60573971200000 :=
    worked_of_working (by decide) hfits
  have hle : worked Working (-60573971200000) (-60573971200000 + 60000) ≤
      worked Working (-60573971200000) (-615839400000) :=
    worked_mono (by decide) (by decide)
  omega

end AbrChin.Parchin
