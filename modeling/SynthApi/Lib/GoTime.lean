import SynthApi.Lib.Go

/-!
# Dates of Go's `time`

`Location.date` is `time.Date` and `Location.addDate` is `Time.AddDate`, on Unix seconds and with the overflows of 64 bits. Days
are counted from the first of March of a year far in the past, so that a year ends with its leap day; `splitDays` and
`dateToAbsDays` convert between a day and its date.

Without the overflows `addDate` goes on by whole months of the calendar (`addDate_months`), each of 28 days or more
(`monthStart_add`).
-/

namespace Lib.Go

/-! ## Days and months -/

def absoluteYears : Int := 292277022400

/-- The seconds from the first day of the count to the year 1970. -/
def unixToAbsolute : Int := 9223372028741760000

structure CivilDate where
  year : Int
  month : Int
  day : Int
  deriving DecidableEq, Repr

/-- The date of a day: centuries, then years, then months, from March on. -/
def splitDays (days : Int) : CivilDate :=
  let d := 4 * days + 3
  let cd := 4 * (d % 146097 / 4) + 3
  let z := 5 * (cd % 1461 / 4) + 461
  let janFeb := if 13 ≤ z / 153 then 1 else 0
  ⟨d / 146097 * 100 + cd / 1461 - absoluteYears + janFeb, z / 153 - 12 * janFeb, z % 153 / 5 + 1⟩

def dateToAbsDays (date : CivilDate) : Int :=
  let janFeb := if date.month < 3 then 1 else 0
  let y := (date.year - janFeb + absoluteYears) % 2 ^ 64
  let ayday := (153 * (date.month + 12 * janFeb) - 457) / 5
  (146097 * (y / 100) % 2 ^ 64 / 4 + 1461 * (y % 100) / 4 + ayday + date.day - 1) % 2 ^ 64

/-- The first day of a year that begins with March. -/
def yearStart (y : Int) : Int := 146097 * (y / 100) / 4 + 1461 * (y % 100) / 4

/-- The first day of a month, counted from the first March. -/
def monthStart (k : Int) : Int := yearStart (k / 12) + (153 * (k % 12 + 3) - 457) / 5

def CivilDate.monthIndex (date : CivilDate) : Int := 12 * (date.year + absoluteYears) + date.month - 3

theorem yearStart_succ (y : Int) : yearStart y + 365 ≤ yearStart (y + 1) := by
  unfold yearStart
  by_cases h : y % 100 = 99
  · have hdiv : (y + 1) / 100 = y / 100 + 1 := by omega
    have hmod : (y + 1) % 100 = 0 := by omega
    rw [hdiv, hmod, h]
    omega
  · have hdiv : (y + 1) / 100 = y / 100 := by omega
    have hmod : (y + 1) % 100 = y % 100 + 1 := by omega
    rw [hdiv, hmod]
    omega

theorem monthStart_succ (k : Int) : monthStart k + 28 ≤ monthStart (k + 1) := by
  unfold monthStart
  by_cases h : k % 12 = 11
  · have hdiv : (k + 1) / 12 = k / 12 + 1 := by omega
    have hmod : (k + 1) % 12 = 0 := by omega
    have hyear := yearStart_succ (k / 12)
    rw [hdiv, hmod, h]
    omega
  · have hdiv : (k + 1) / 12 = k / 12 := by omega
    have hmod : (k + 1) % 12 = k % 12 + 1 := by omega
    rw [hdiv, hmod]
    omega

/-- **A month has 28 days or more.** -/
theorem monthStart_add (k : Int) {n : Int} (hn : 0 ≤ n) : monthStart k + 28 * n ≤ monthStart (k + n) := by
  induction n, hn using Int.leInduction with
  | base => simp
  | succ n _ ih =>
    have hstep := monthStart_succ (k + n)
    rw [← add_assoc]
    omega

/-- The days are cut into centuries, years and months by the same step. -/
theorem splitDays_eq (days : Int) : ∃ c cd y yd : Int,
    146097 * c / 4 + cd = days ∧ (0 ≤ days → 0 ≤ c) ∧ 1461 * y / 4 + yd = cd ∧ (0 ≤ y ∧ y < 100) ∧ (0 ≤ yd ∧ yd ≤ 365) ∧
    (splitDays days).monthIndex = 12 * (c * 100 + y) + ((5 * yd + 461) / 153 - 3) ∧
    (1 ≤ (splitDays days).month ∧ (splitDays days).month ≤ 12) ∧ (splitDays days).day = (5 * yd + 461) % 153 / 5 + 1 := by
  refine ⟨(4 * days + 3) / 146097, (4 * days + 3) % 146097 / 4, (4 * ((4 * days + 3) % 146097 / 4) + 3) / 1461,
    (4 * ((4 * days + 3) % 146097 / 4) + 3) % 1461 / 4, ?_, ?_, ?_, ?_, ?_, ?_, ?_, rfl⟩
  · omega
  · omega
  · omega
  · omega
  · omega
  · simp only [splitDays, CivilDate.monthIndex]
    split_ifs <;> ring
  · simp only [splitDays]
    split_ifs <;> omega

theorem splitDays_bounds {days : Int} (h : 0 ≤ days) : 0 ≤ (splitDays days).monthIndex ∧ 1 ≤ (splitDays days).month ∧
    (splitDays days).month ≤ 12 ∧ 1 ≤ (splitDays days).day ∧ (splitDays days).day ≤ 31 := by
  obtain ⟨c, cd, y, yd, -, hc, -, hy, hyd, hindex, hmonth, hday⟩ := splitDays_eq days
  have := hc h
  omega

/-- **The date of a day is on that day.** -/
theorem monthStart_splitDays (days : Int) :
    monthStart (splitDays days).monthIndex + (splitDays days).day - 1 = days := by
  obtain ⟨c, cd, y, yd, hcentury, -, hyear, hy, hyd, hindex, -, hday⟩ := splitDays_eq days
  have hmonth : (153 * ((5 * yd + 461) / 153) - 457) / 5 + (5 * yd + 461) % 153 / 5 = yd := by omega
  rw [hindex, hday, monthStart, yearStart]
  have hdiv : (12 * (c * 100 + y) + ((5 * yd + 461) / 153 - 3)) / 12 = c * 100 + y := by omega
  have hmod : (12 * (c * 100 + y) + ((5 * yd + 461) / 153 - 3)) % 12 = (5 * yd + 461) / 153 - 3 := by omega
  have hcenturies : (c * 100 + y) / 100 = c ∧ (c * 100 + y) % 100 = y := by omega
  rw [hdiv, hmod, hcenturies.1, hcenturies.2, sub_add_cancel]
  omega

theorem dateToAbsDays_eq {date : CivilDate} (hmonth : 1 ≤ date.month ∧ date.month ≤ 12)
    (hday : 1 ≤ date.day ∧ date.day ≤ 31) (hlow : 0 ≤ date.monthIndex) (hhigh : monthStart date.monthIndex < 2 ^ 62) :
    dateToAbsDays date = monthStart date.monthIndex + date.day - 1 := by
  obtain ⟨year, month, day⟩ := date
  simp only [CivilDate.monthIndex] at *
  have hindex : ∃ y, year - (if month < 3 then 1 else 0) + absoluteYears = y ∧
      (12 * (year + absoluteYears) + month - 3) / 12 = y ∧
      (12 * (year + absoluteYears) + month - 3) % 12 + 3 = month + 12 * (if month < 3 then 1 else 0) := by
    split_ifs <;> exact ⟨_, rfl, by omega, by omega⟩
  obtain ⟨y, hy, hdiv, hmod⟩ := hindex
  have hayday : 0 ≤ (153 * (month + 12 * if month < 3 then 1 else 0) - 457) / 5 ∧
      (153 * (month + 12 * if month < 3 then 1 else 0) - 457) / 5 ≤ 337 := by
    split_ifs <;> omega
  have hpos : 0 ≤ y := by omega
  simp only [dateToAbsDays, monthStart, yearStart, hy, hdiv, hmod] at *
  generalize (153 * (month + 12 * if month < 3 then 1 else 0) - 457) / 5 = ayday at *
  have hcentury : 0 ≤ 146097 * (y / 100) / 4 := by omega
  have hcyear : 0 ≤ 1461 * (y % 100) / 4 := by omega
  have hyear : y % 2 ^ 64 = y := by omega
  rw [hyear, Int.emod_eq_of_lt (a := 146097 * (y / 100)) (by omega) (by omega), Int.emod_eq_of_lt (by omega) (by omega)]

/-! ## Times -/

/-- A period in which a time zone has one offset. -/
structure Zone where
  offset : Int
  start : Int
  stop : Int

structure Location where
  lookup : Int → Zone
  /-- No offset is more than a week. -/
  offset_le : ∀ t, |(lookup t).offset| ≤ 604800

namespace Location

def utc : Location := ⟨fun _ => ⟨0, -2 ^ 63, 2 ^ 63 - 1⟩, fun _ => by decide⟩

variable (loc : Location)

def absSeconds (t : Int) : Int := (t + (loc.lookup t).offset + unixToAbsolute) % 2 ^ 64

/-- `t.Date` -/
def civil (t : Int) : CivilDate := splitDays (loc.absSeconds t / 86400)

/-- `t.Weekday`: the first day of the count was a Wednesday. -/
def weekday (t : Int) : Int := (loc.absSeconds t / 86400 + 3) % 7

/-- `time.Date`, with the seconds of the day. -/
def date (date : CivilDate) (sec : Int) : Int :=
  let m := date.month - 1
  let unix := wrap64 (dateToAbsDays ⟨wrap64 (date.year + m / 12), m % 12 + 1, date.day⟩ * 86400 + sec - unixToAbsolute)
  let zone := loc.lookup unix
  let utc := wrap64 (unix - zone.offset)
  -- the offset that was found may not hold at the time it leads to
  let zone := if zone.offset ≠ 0 ∧ (utc < zone.start ∨ zone.stop ≤ utc) then loc.lookup utc else zone
  wrap64 (unix - zone.offset)

def addDate (t years months days : Int) : Int :=
  let date := loc.civil t
  loc.date ⟨wrap64 (date.year + years), wrap64 (date.month + months), wrap64 (date.day + days)⟩ (loc.absSeconds t % 86400)

/-- The time on the clock of the zone `n` months after `t`, on the calendar and without bounds. -/
def monthsLater (t n : Int) : Int :=
  t + (loc.lookup t).offset +
    (monthStart ((loc.civil t).monthIndex + n) - monthStart (loc.civil t).monthIndex) * 86400

variable {loc} {t years months sec : Int} {d : CivilDate}

/-- **A date is read on the calendar** if its seconds fit into 64 bits. -/
theorem date_eq (hyear : |d.year| ≤ 2 ^ 62) (hmonth : 1 ≤ d.month ∧ d.month ≤ 2 ^ 62) (hday : 1 ≤ d.day ∧ d.day ≤ 31)
    (hindex : 0 ≤ d.monthIndex) (hsec : 0 ≤ sec ∧ sec < 86400)
    (hlow : -2 ^ 63 + 604800 ≤ (monthStart d.monthIndex + d.day - 1) * 86400 + sec - unixToAbsolute)
    (hhigh : (monthStart d.monthIndex + d.day - 1) * 86400 + sec - unixToAbsolute + 604800 < 2 ^ 63) :
    ∃ t', loc.date d sec =
      (monthStart d.monthIndex + d.day - 1) * 86400 + sec - unixToAbsolute - (loc.lookup t').offset := by
  rw [abs_le] at hyear
  have hwrap : ∀ {x : Int}, -2 ^ 63 ≤ x → x < 2 ^ 63 → wrap64 x = x := fun h₁ h₂ => wrap64_of_mem ⟨h₁, h₂⟩
  have hnorm : (⟨d.year + (d.month - 1) / 12, (d.month - 1) % 12 + 1, d.day⟩ : CivilDate).monthIndex = d.monthIndex := by
    simp only [CivilDate.monthIndex]
    omega
  have hdays := @dateToAbsDays_eq ⟨d.year + (d.month - 1) / 12, (d.month - 1) % 12 + 1, d.day⟩
    (by dsimp only; omega) hday (by rwa [hnorm]) (by rw [hnorm]; unfold unixToAbsolute at *; omega)
  simp only [date]
  rw [hwrap (x := d.year + _) (by omega) (by omega), hdays, hnorm]
  generalize (monthStart d.monthIndex + d.day - 1) * 86400 + sec - unixToAbsolute = unix at *
  rw [hwrap (x := unix) (by omega) (by omega)]
  have hoffset : ∀ t, wrap64 (unix - (loc.lookup t).offset) = unix - (loc.lookup t).offset := by
    intro t
    have := abs_le.1 (loc.offset_le t)
    exact hwrap (by omega) (by omega)
  split_ifs
  · exact ⟨_, hoffset _⟩
  · exact ⟨_, hoffset _⟩

/-- **Without overflow `AddDate` adds months of the calendar.** -/
theorem addDate_months (ht : |t| ≤ 2 ^ 62) (hyears : 0 ≤ years) (hmonths : 0 ≤ months)
    (hend : loc.monthsLater t (12 * years + months) + 604800 < 2 ^ 63) :
    ∃ t', loc.addDate t years months 0 = loc.monthsLater t (12 * years + months) - (loc.lookup t').offset := by
  have hoffset := abs_le.1 (loc.offset_le t)
  rw [abs_le] at ht
  have habs : loc.absSeconds t = t + (loc.lookup t).offset + unixToAbsolute := by
    unfold absSeconds unixToAbsolute
    omega
  have hdate : monthStart (loc.civil t).monthIndex + (loc.civil t).day - 1 = loc.absSeconds t / 86400 :=
    monthStart_splitDays _
  have hbounds : 0 ≤ (loc.civil t).monthIndex ∧ 1 ≤ (loc.civil t).month ∧ (loc.civil t).month ≤ 12 ∧
      1 ≤ (loc.civil t).day ∧ (loc.civil t).day ≤ 31 :=
    splitDays_bounds (by rw [habs]; unfold unixToAbsolute; omega)
  have hfirst := monthStart_add 0 hbounds.1
  have hlater := monthStart_add (loc.civil t).monthIndex (n := 12 * years + months) (by omega)
  rw [zero_add, show monthStart 0 = 0 by decide] at hfirst
  have hindex : (⟨(loc.civil t).year + years, (loc.civil t).month + months, (loc.civil t).day⟩ : CivilDate).monthIndex =
      (loc.civil t).monthIndex + (12 * years + months) := by
    simp only [CivilDate.monthIndex]
    ring
  have hunix : (monthStart ((loc.civil t).monthIndex + (12 * years + months)) + (loc.civil t).day - 1) * 86400 +
      loc.absSeconds t % 86400 - unixToAbsolute = loc.monthsLater t (12 * years + months) := by
    unfold monthsLater
    omega
  have hyear : (loc.civil t).year = ((loc.civil t).monthIndex + 3 - (loc.civil t).month) / 12 - absoluteYears := by
    unfold CivilDate.monthIndex
    omega
  have hbound : 12 * years + months ≤ 2 ^ 60 ∧ (loc.civil t).monthIndex ≤ 2 ^ 60 := by
    unfold unixToAbsolute at *
    omega
  unfold absoluteYears at hyear
  have hadd : loc.addDate t years months 0 =
      loc.date ⟨(loc.civil t).year + years, (loc.civil t).month + months, (loc.civil t).day⟩ (loc.absSeconds t % 86400) := by
    simp only [addDate]
    rw [wrap64_of_mem, wrap64_of_mem, wrap64_of_mem, add_zero] <;> unfold InInt64 <;> omega
  obtain ⟨t', ht'⟩ := @date_eq loc (loc.absSeconds t % 86400)
    ⟨(loc.civil t).year + years, (loc.civil t).month + months, (loc.civil t).day⟩
    (abs_le.2 (by dsimp only; omega)) (by dsimp only; omega) hbounds.2.2.2 (by rw [hindex]; omega) (by omega)
    (by rw [hindex, hunix]; unfold monthsLater; omega) (by rw [hindex, hunix]; omega)
  rw [hindex, hunix] at ht'
  exact ⟨t', hadd.trans ht'⟩

/-- **Then it leads to a later time**: a month is longer than the offsets of the zone differ. -/
theorem lt_addDate (ht : |t| ≤ 2 ^ 62) (hyears : 0 ≤ years) (hmonths : 0 ≤ months) (hpos : 0 < 12 * years + months)
    (hend : loc.monthsLater t (12 * years + months) + 604800 < 2 ^ 63) : t < loc.addDate t years months 0 := by
  obtain ⟨t', ht'⟩ := addDate_months ht hyears hmonths hend
  have hlater := monthStart_add (loc.civil t).monthIndex (n := 12 * years + months) (by omega)
  have hoffset := abs_le.1 (loc.offset_le t)
  have hoffset' := abs_le.1 (loc.offset_le t')
  rw [ht', monthsLater]
  omega

end Location

end Lib.Go
