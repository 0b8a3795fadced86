import CloudOps.Ticketing.BusinessWindows

-- Business minutes, against counting the minutes of the wall clock one by one.
namespace CloudOps.Ticketing.Sla

open CloudOps.WallClock CloudOps.WorkingTime

variable (offsetAt : String → Int → Int) (hours : BusinessHours)

-- A minute of a working day within the window.
def isWorkingMinute (parts : ZonedParts) : Prop :=
  isWorkingDay hours parts.weekday ∧ (hours.startMinute : Int) ≤ parts.hour * 60 + parts.minute ∧
    parts.hour * 60 + parts.minute < hours.endMinute

instance (parts : ZonedParts) : Decidable (isWorkingMinute hours parts) :=
  inferInstanceAs (Decidable (_ ∧ _ ∧ _))

-- The minutes that start so many minutes after the anchor.
abbrev worksAt (anchor : Int) (tick : Nat) : Prop :=
  isWorkingMinute hours (zonedParts offsetAt (anchor + tick * 60000) hours.timezone)

-- The working minutes in [anchor, instant).
def workingMinutes (anchor instant : Int) : Nat :=
  Nat.count (worksAt offsetAt hours anchor) ((instant - anchor) / 60000).toNat

-- The same of a minute shown by the wall clock.
def isOpen (shown : Int) : Prop :=
  isWorkingDay hours (weekday (shown / 1440)) ∧ (hours.startMinute : Int) ≤ shown % 1440 ∧
    shown % 1440 < hours.endMinute

instance : DecidablePred (isOpen hours) := fun _ => inferInstanceAs (Decidable (_ ∧ _ ∧ _))

-- The minutes the clock shows from one of them on.
abbrev opensFrom (shown : Int) (tick : Nat) : Prop := isOpen hours (shown + tick)

-- The working minutes on the clock's face from one minute up to another.
def clockMinutes (shown later : Int) : Nat := Nat.count (opensFrom hours shown) (later - shown).toNat

-- From a date on, times of the day are converted by the offset of the clock alone, and each
-- 24 hours from noon it shows the next date.
structure DatesInTurn (first : Int) : Prop where
  converts : ∀ date minutesIntoDay, first ≤ date → 0 ≤ minutesIntoDay →
    zonedTimeToUtc offsetAt date minutesIntoDay hours.timezone =
      instantOf (offsetAt hours.timezone) (date * 1440 + minutesIntoDay)
  next : ∀ cursor : ZonedParts, first ≤ cursor.date → ∀ days : Nat, days ≤ 7 →
    (daysLater offsetAt hours cursor days).date = cursor.date + days

-- The last of so many working minutes from the first one on is over when the clock comes to show
-- this one.
structure OverAt (first minutes shown : Int) : Prop where
  later : first < shown
  opened : isOpen hours (shown - 1)
  counted : (clockMinutes hours first shown : Int) = minutes

-- The call returns the instant of the minute at which they are over, from the anchor's on.
structure EndsAt (anchor minutes shown : Int) : Prop extends
    OverAt hours (wallMinute (offsetAt hours.timezone) anchor) minutes shown where
  returns : Returns offsetAt hours anchor minutes (instantOf (offsetAt hours.timezone) shown)

variable {offsetAt hours}

theorem minuteOfDay_eq (instant : Int) (timezone : String) :
    (zonedParts offsetAt instant timezone).hour * 60 + (zonedParts offsetAt instant timezone).minute =
      wallMinute (offsetAt timezone) instant % 1440 := by
  simp only [zonedParts]
  omega

theorem isWorkingMinute_zonedParts (instant : Int) :
    isWorkingMinute hours (zonedParts offsetAt instant hours.timezone) ↔
      isOpen hours (wallMinute (offsetAt hours.timezone) instant) := by
  simp only [isWorkingMinute, isOpen, minuteOfDay_eq]
  rfl

theorem isOpen_of_window {date shown : Int} (hend : hours.endMinute ≤ 1440)
    (hwork : isWorkingDay hours (weekday date)) (hstart : date * 1440 + hours.startMinute ≤ shown)
    (hlt : shown < date * 1440 + hours.endMinute) : isOpen hours shown := by
  have hdate : shown / 1440 = date := by omega
  have hminute : shown % 1440 = shown - date * 1440 := by omega
  refine ⟨by rwa [hdate], by omega, by omega⟩

-- Nothing is open before a working day's window, back to a date's minute from which on that
-- date is closed, when no working day lies between.
theorem not_isOpen_between {date date' shown : Int}
    (hnone : ∀ between, date < between → between < date' → ¬ isWorkingDay hours (weekday between))
    (hclosed : ¬ isWorkingDay hours (weekday date) ∨ date * 1440 + hours.endMinute ≤ shown)
    (hdate : date * 1440 ≤ shown) (hstart : shown < date' * 1440 + hours.startMinute) :
    ¬ isOpen hours shown := by
  rintro ⟨hwork, hfrom, huntil⟩
  have hle : date ≤ shown / 1440 := by omega
  obtain hsame | hlater := hle.eq_or_lt
  · rw [← hsame] at hwork
    have hend := hclosed.resolve_left (not_not.mpr hwork)
    omega
  · exact hnone _ hlater (by omega) hwork

theorem count_closed (shown : Int) {first last : Nat} (hle : first ≤ last)
    (hclosed : ∀ minute, shown + first ≤ minute → minute < shown + last → ¬ isOpen hours minute) :
    Nat.count (opensFrom hours shown) last = Nat.count (opensFrom hours shown) first :=
  count_of_closed hle fun _ _ _ => hclosed _ (by omega) (by omega)

theorem count_open (shown : Int) {first last : Nat} (hle : first ≤ last)
    (hopen : ∀ minute, shown + first ≤ minute → minute < shown + last → isOpen hours minute) :
    Nat.count (opensFrom hours shown) last = Nat.count (opensFrom hours shown) first + (last - first) :=
  count_of_open hle fun _ _ _ => hopen _ (by omega) (by omega)

section InTurn

variable {first : Int} (hturn : DatesInTurn offsetAt hours first)
include hturn

theorem daysLater_weekday {cursor : ZonedParts} (hdate : first ≤ cursor.date) {days : Nat} (hle : days ≤ 7) :
    (daysLater offsetAt hours cursor days).weekday = weekday (cursor.date + days) := by
  rw [← hturn.next cursor hdate days hle]
  rfl

-- Within seven days there is a working day.
theorem exists_workingDay (hvalid : ValidHours hours) {cursor : ZonedParts} (hdate : first ≤ cursor.date) :
    ∃ days, days ≤ 6 ∧ isWorkingDay hours (daysLater offsetAt hours cursor (days + 1)).weekday := by
  obtain ⟨day, hday⟩ := List.exists_mem_of_ne_nil _ hvalid.days_ne
  have hlt := hvalid.days_lt day hday
  refine ⟨((day - (cursor.date + 5)) % 7).toNat, by omega, ?_⟩
  rw [daysLater_weekday hturn hdate (by omega)]
  have hweekday : weekday (cursor.date + (((day - (cursor.date + 5)) % 7).toNat + 1 : Nat)) = day := by
    simp only [weekday]
    omega
  rw [hweekday]
  simpa [isWorkingDay] using hday

theorem exists_nextWorkingDay (hvalid : ValidHours hours) {cursor : ZonedParts} (hdate : first ≤ cursor.date) :
    ∃ cursor', NextWorkingDay offsetAt hours cursor cursor' := by
  have hsome := (exists_workingDay hturn hvalid hdate).imp fun _ h => h.2
  exact ⟨_, Nat.find hsome, rfl, Nat.find_spec hsome, fun earlier => Nat.find_min hsome⟩

theorem NextWorkingDay.dates (hvalid : ValidHours hours) {cursor cursor' : ZonedParts} (hdate : first ≤ cursor.date)
    (h : NextWorkingDay offsetAt hours cursor cursor') :
    cursor.date < cursor'.date ∧ isWorkingDay hours (weekday cursor'.date) ∧
      ∀ date, cursor.date < date → date < cursor'.date → ¬ isWorkingDay hours (weekday date) := by
  obtain ⟨days, rfl, hwork, hbefore⟩ := h
  obtain ⟨some, hsome, hworks⟩ := exists_workingDay hturn hvalid hdate
  have hweek : days ≤ some := by
    by_contra hlt
    exact hbefore some (by omega) hworks
  rw [daysLater_weekday hturn hdate (by omega)] at hwork
  rw [hturn.next cursor hdate _ (by omega)]
  refine ⟨by omega, hwork, fun date hafter hless => ?_⟩
  have hearlier := hbefore (date - cursor.date - 1).toNat (by omega)
  rw [daysLater_weekday hturn hdate (by omega)] at hearlier
  rwa [show cursor.date + ((date - cursor.date - 1).toNat + 1 : Nat) = date by omega] at hearlier

variable {anchor : Int} (hvalid : ValidHours hours)
  (hanchor : first ≤ (zonedParts offsetAt anchor hours.timezone).date)
include hvalid hanchor

theorem exists_firstWindow : ∃ window, FirstWindow offsetAt hours anchor window := by
  by_cases htoday : Today hours (zonedParts offsetAt anchor hours.timezone)
  · exact ⟨⟨_, _⟩, Or.inl ⟨htoday, rfl, rfl⟩⟩
  · obtain ⟨cursor', hnext⟩ := exists_nextWorkingDay hturn hvalid hanchor
    exact ⟨⟨cursor', _⟩, Or.inr ⟨htoday, hnext, rfl⟩⟩

-- Up to the first window nothing is counted.
theorem FirstWindow.counted {window : Window} (h : FirstWindow offsetAt hours anchor window) :
    first ≤ window.cursor.date ∧ (hours.startMinute : Int) ≤ window.opensAt ∧
      isWorkingDay hours (weekday window.cursor.date) ∧
      ∃ tick : Nat, window.minuteAt 0 = wallMinute (offsetAt hours.timezone) anchor + tick ∧
        Nat.count (opensFrom hours (wallMinute (offsetAt hours.timezone) anchor)) tick = 0 := by
  have hend := hvalid.end_le
  have hminute : (zonedParts offsetAt anchor hours.timezone).hour * 60 +
      (zonedParts offsetAt anchor hours.timezone).minute =
        wallMinute (offsetAt hours.timezone) anchor % 1440 := minuteOfDay_eq anchor hours.timezone
  have hdate : (zonedParts offsetAt anchor hours.timezone).date =
    wallMinute (offsetAt hours.timezone) anchor / 1440 := rfl
  obtain ⟨⟨hwork, hbefore⟩, hcursor, hopensAt⟩ | ⟨hover, hnext, hopensAt⟩ := h
  · rw [hminute] at hbefore hopensAt
    rw [hcursor]
    rw [Window.minuteAt, hcursor, hdate, hopensAt]
    refine ⟨hdate ▸ hanchor, by omega, hwork, (max (hours.startMinute : Int)
      (wallMinute (offsetAt hours.timezone) anchor % 1440) -
        wallMinute (offsetAt hours.timezone) anchor % 1440).toNat, by omega, ?_⟩
    rw [count_closed _ (Nat.zero_le _), Nat.count_zero]
    -- the day before is over, and there is none in between
    intro shown hge hlt
    have hnone : ∀ between, wallMinute (offsetAt hours.timezone) anchor / 1440 - 1 < between →
        between < wallMinute (offsetAt hours.timezone) anchor / 1440 →
          ¬ isWorkingDay hours (weekday between) := fun between _ _ => by omega
    exact not_isOpen_between hnone (Or.inr (by omega)) (by omega) (by omega)
  · obtain ⟨hlater, hwork, hnone⟩ := NextWorkingDay.dates hturn hvalid hanchor hnext
    rw [hdate] at hlater hnone hanchor
    refine ⟨by omega, by omega, hwork, (window.minuteAt 0 - wallMinute (offsetAt hours.timezone) anchor).toNat,
      by simp only [Window.minuteAt]; omega, ?_⟩
    rw [count_closed _ (Nat.zero_le _), Nat.count_zero]
    intro shown hge hlt
    simp only [Window.minuteAt] at hlt
    refine not_isOpen_between hnone ?_ (by omega) (by omega)
    rw [Today, not_and_or, hminute, not_lt] at hover
    obtain hidle | hlate := hover
    · exact Or.inl hidle
    · exact Or.inr (by omega)

-- A window begins when the minutes before it have been counted, and it lies on a working day.
theorem Opens.counted {before : Int} {window : Window} (hopens : Opens offsetAt hours anchor before window) :
    first ≤ window.cursor.date ∧ (hours.startMinute : Int) ≤ window.opensAt ∧
      isWorkingDay hours (weekday window.cursor.date) ∧
      ∃ tick : Nat, window.minuteAt 0 = wallMinute (offsetAt hours.timezone) anchor + tick ∧
        (Nat.count (opensFrom hours (wallMinute (offsetAt hours.timezone) anchor)) tick : Int) = before := by
  have hend := hvalid.end_le
  induction hopens with
  | start hfirst =>
      obtain ⟨hdate, hstart, hwork, tick, htick, hcount⟩ := FirstWindow.counted hturn hvalid hanchor hfirst
      exact ⟨hdate, hstart, hwork, tick, htick, by omega⟩
  | @next before window window' hopens hnext ih =>
      obtain ⟨hdate, hstart, hwork, tick, htick, hcount⟩ := ih
      have hlength := Opens.length_pos hvalid hopens
      obtain ⟨hlater, hwork', hnone⟩ := NextWorkingDay.dates hturn hvalid hdate hnext.1
      have hopensAt := hnext.2
      simp only [Window.minuteAt, Window.length] at htick hlength ⊢
      -- open to the end of this window, closed from there to the next
      obtain ⟨closing, hclosing⟩ : ∃ closing : Nat, window.cursor.date * 1440 + hours.endMinute =
          wallMinute (offsetAt hours.timezone) anchor + closing :=
        ⟨(window.cursor.date * 1440 + hours.endMinute -
          wallMinute (offsetAt hours.timezone) anchor).toNat, by omega⟩
      obtain ⟨opening, hopening⟩ : ∃ opening : Nat, window'.cursor.date * 1440 + window'.opensAt =
          wallMinute (offsetAt hours.timezone) anchor + opening :=
        ⟨(window'.cursor.date * 1440 + window'.opensAt -
          wallMinute (offsetAt hours.timezone) anchor).toNat, by omega⟩
      have hbeforeClosing : tick ≤ closing := by omega
      have hbeforeOpening : closing ≤ opening := by omega
      have hin := count_open (wallMinute (offsetAt hours.timezone) anchor) hbeforeClosing
        fun shown hge hlt => isOpen_of_window hend hwork (by omega) (by omega)
      have hout := count_closed (wallMinute (offsetAt hours.timezone) anchor) hbeforeOpening
        fun shown hge hlt => not_isOpen_between hnone (Or.inr (by omega)) (by omega) (by omega)
      exact ⟨by omega, by omega, hwork', opening, by omega, by omega⟩

-- The minute a window's count ends with is open, and it is the one that completes the count.
theorem EndsIn.endsAt {amount into : Int} {window : Window} (hpos : 1 ≤ amount)
    (hends : EndsIn offsetAt hours anchor amount window into) :
    EndsAt offsetAt hours anchor amount (window.minuteAt into) := by
  have hreturns := returns_of_endsIn hvalid hpos hends
  obtain ⟨hopens, hinto, hle⟩ := hends
  obtain ⟨hdate, hstart, hwork, tick, htick, hcount⟩ := Opens.counted hturn hvalid hanchor hopens
  have hend := hvalid.end_le
  have hdue : window.dueAt offsetAt hours into = instantOf (offsetAt hours.timezone) (window.minuteAt into) := by
    rw [Window.dueAt, hturn.converts _ _ hdate (by omega), ← Int.add_assoc]
    rfl
  simp only [Window.minuteAt, Window.length] at htick hle hdue ⊢
  have hopen : ∀ shown, wallMinute (offsetAt hours.timezone) anchor + tick ≤ shown →
      shown < wallMinute (offsetAt hours.timezone) anchor + (tick + into.toNat : Nat) →
      isOpen hours shown := fun shown hge hlt =>
    isOpen_of_window hend hwork (by omega) (by omega)
  have hcounted := count_open _ (Nat.le_add_right tick into.toNat) hopen
  refine ⟨⟨by omega, hopen _ (by omega) (by omega), ?_⟩, hdue ▸ hreturns⟩
  have hticks : (window.cursor.date * 1440 + window.opensAt + into -
      wallMinute (offsetAt hours.timezone) anchor).toNat = tick + into.toNat := by omega
  rw [clockMinutes, hticks]
  omega

-- Every number of minutes is over at some minute of the clock.
theorem exists_endsAt {minutes : Int} (hpos : 1 ≤ minutes) : ∃ shown, EndsAt offsetAt hours anchor minutes shown := by
  have hnext : ∀ before window, Opens offsetAt hours anchor before window →
      ∃ window', NextWindow offsetAt hours window window' := by
    intro before window hopens
    obtain ⟨hdate, -⟩ := Opens.counted hturn hvalid hanchor hopens
    obtain ⟨cursor', hnext⟩ := exists_nextWorkingDay hturn hvalid hdate
    exact ⟨⟨cursor', _⟩, hnext, rfl⟩
  obtain ⟨window, into, hends⟩ :=
    exists_endsIn_of_next hvalid (exists_firstWindow hturn hvalid hanchor) hnext hpos
  exact ⟨_, hends.endsAt hturn hvalid hanchor hpos⟩

end InTurn

theorem OverAt.ticks {first minutes shown : Int} (h : OverAt hours first minutes shown) :
    ∃ last : Nat, shown = first + (last + 1 : Nat) ∧ opensFrom hours first last ∧
      (Nat.count (opensFrom hours first) (last + 1) : Int) = minutes := by
  have hlater := h.later
  obtain ⟨last, rfl⟩ : ∃ last : Nat, shown = first + (last + 1 : Nat) := ⟨(shown - 1 - first).toNat, by omega⟩
  refine ⟨last, rfl, ?_, ?_⟩
  · have hopened := h.opened
    rwa [show first + (last + 1 : Nat) - 1 = first + last by omega] at hopened
  · have hcounted := h.counted
    rwa [clockMinutes, show (first + (last + 1 : Nat) - first).toNat = last + 1 by omega] at hcounted

-- As many minutes are not counted on the clock before it shows the one they are over at.
theorem OverAt.le {first minutes shown other : Int} (h : OverAt hours first minutes shown)
    (hother : minutes ≤ clockMinutes hours first other) : shown ≤ other := by
  obtain ⟨last, rfl, hopen, hcount⟩ := h.ticks
  by_contra hlt
  have hle : (other - first).toNat ≤ last := by omega
  have hmono := Nat.count_monotone (opensFrom hours first) hle
  have hstep := Nat.count_succ_eq_succ_count hopen
  rw [clockMinutes] at hother
  omega

theorem OverAt.unique {first minutes shown other : Int} (h : OverAt hours first minutes shown)
    (hother : OverAt hours first minutes other) : shown = other :=
  le_antisymm (h.le hother.counted.ge) (hother.le h.counted.ge)

section FixedOffset

variable {c : Int} (hfix : ∀ instant, offsetAt hours.timezone instant = c)
include hfix

-- A clock that is never put forward or back shows the dates in turn, from one on which its
-- midnight taken for UTC is in the year 100 too.
theorem datesInTurn_fixed {first : Int} (hfirst : yearHundred ≤ first)
    (hshown : yearHundred * 1440 ≤ first * 1440 + c / 60000) : DatesInTurn offsetAt hours first := by
  have hconverts : ∀ date minutesIntoDay, first ≤ date → 0 ≤ minutesIntoDay →
      zonedTimeToUtc offsetAt date minutesIntoDay hours.timezone =
        instantOf (offsetAt hours.timezone) (date * 1440 + minutesIntoDay) := by
    intro date minutesIntoDay hdate hminutes
    have hwhole : (date * 1440 + minutesIntoDay) * 60000 % 60000 = 0 := by omega
    refine zonedTimeToUtc_eq offsetAt (by omega) ?_ ?_
    · rw [wallMinute_fixed hfix hwhole]
      omega
    · rw [measuredOffset_fixed hfix hwhole, wallMinute_fixed hfix (by omega)]
      omega
  refine ⟨hconverts, fun cursor hdate days _ => ?_⟩
  have hnoon := wallMinute_instantOf_add_fixed hfix (cursor.date * 1440 + 12 * 60) (days * 1440)
  simp only [daysLater, hconverts _ _ hdate (by decide : (0 : Int) ≤ 12 * 60), zonedParts, DAY_MS]
  rw [show (days : Int) * (24 * 60 * 60 * 1000) = days * 1440 * 60000 by omega, hnoon]
  omega

theorem worksAt_iff {anchor : Int} (hwhole : anchor % 60000 = 0) (tick : Nat) : worksAt offsetAt hours anchor tick ↔
    opensFrom hours (wallMinute (offsetAt hours.timezone) anchor) tick := by
  unfold worksAt
  rw [isWorkingMinute_zonedParts, wallMinute_add_fixed hfix hwhole, wallMinute_fixed hfix hwhole,
    Int.add_right_comm]

theorem count_worksAt {anchor : Int} (hwhole : anchor % 60000 = 0) (ticks : Nat) :
    Nat.count (worksAt offsetAt hours anchor) ticks =
      Nat.count (opensFrom hours (wallMinute (offsetAt hours.timezone) anchor)) ticks := by
  induction ticks with
  | zero => rfl
  | succ ticks ih => rw [Nat.count_succ, Nat.count_succ, ih, if_congr (worksAt_iff hfix hwhole ticks) rfl rfl]

end FixedOffset

-- With a fixed offset the call ends, at the first instant by which the minutes have passed:
-- at the end of a working minute, so a deadline that uses up a day is that day's closing time.
theorem addBusinessMinutes_isLeast {c : Int} (hfix : ∀ instant, offsetAt hours.timezone instant = c)
    (hvalid : ValidHours hours) {anchor : Int} (hwhole : anchor % 60000 = 0)
    (hyear : yearHundred ≤ (zonedParts offsetAt anchor hours.timezone).date)
    (hshown : yearHundred * 1440 ≤ (zonedParts offsetAt anchor hours.timezone).date * 1440 + c / 60000)
    {minutesToAdd : Int} (hpos : 1 ≤ minutesToAdd) :
    ∃ due, Returns offsetAt hours anchor minutesToAdd due ∧
      IsLeast {instant | anchor ≤ instant ∧
        (workingMinutes offsetAt hours anchor instant : Int) = minutesToAdd} due ∧
      isWorkingMinute hours (zonedParts offsetAt (due - 60000) hours.timezone) := by
  have hturn := datesInTurn_fixed hfix hyear hshown
  obtain ⟨shown, hends⟩ := exists_endsAt hturn hvalid le_rfl hpos
  obtain ⟨last, rfl, hopen, hcount⟩ := hends.ticks
  have hworks := (worksAt_iff hfix hwhole last).mpr hopen
  rw [← count_worksAt hfix hwhole] at hcount
  have hreturns := hends.returns
  rw [instantOf_wallMinute_add_fixed hfix hwhole] at hreturns
  refine ⟨_, hreturns, ⟨⟨?_, ?_⟩, ?_⟩, ?_⟩
  · omega
  · rw [workingMinutes, show ((anchor + (last + 1 : Nat) * 60000 - anchor) / 60000).toNat = last + 1 by omega]
    exact hcount
  · rintro instant ⟨-, hinstant⟩
    have hleast := (isLeast_count hworks).2
      (show ((instant - anchor) / 60000).toNat ∈ _ from Int.ofNat.inj (hinstant.trans hcount.symm))
    omega
  · rw [show anchor + (last + 1 : Nat) * 60000 - 60000 = anchor + last * 60000 by omega]
    exact hworks

-- A weekday morning in Kolkata, half an hour before opening.
theorem kolkata_isLeast : ∃ due,
    Returns (fun _ _ => 19800000) ⟨540, 1020, [1, 2, 3, 4, 5], "Asia/Kolkata"⟩ 1784084400000 60 due ∧
      IsLeast {instant | 1784084400000 ≤ instant ∧ (workingMinutes (fun _ _ => 19800000)
        ⟨540, 1020, [1, 2, 3, 4, 5], "Asia/Kolkata"⟩ 1784084400000 instant : Int) = 60} due ∧
      isWorkingMinute ⟨540, 1020, [1, 2, 3, 4, 5], "Asia/Kolkata"⟩
        (zonedParts (fun _ _ => 19800000) (due - 60000) "Asia/Kolkata") :=
  addBusinessMinutes_isLeast (fun _ => rfl) ⟨by decide, by decide, by decide, by decide⟩ (by decide) (by decide)
    (by decide) (by decide)

-- A Monday in the year 50: an hour from ten o'clock ends in 1950.
theorem year_fifty_not_isLeast :
    ¬ ∀ (offsetAt : String → Int → Int) (hours : BusinessHours) (c : Int),
      (∀ instant, offsetAt hours.timezone instant = c) → ValidHours hours →
      ∀ anchor, anchor % 60000 = 0 → ∀ minutesToAdd, 1 ≤ minutesToAdd →
        ∃ due, Returns offsetAt hours anchor minutesToAdd due ∧
          IsLeast {instant | anchor ≤ instant ∧
            (workingMinutes offsetAt hours anchor instant : Int) = minutesToAdd} due := by
  intro hclaim
  obtain ⟨due, hdue, -, hleast⟩ := hclaim (fun _ _ => 0) ⟨540, 1020, [1, 2, 3, 4, 5], "UTC"⟩ 0 (fun _ => rfl)
    ⟨by decide, by decide, by decide, by decide⟩ (-60589087200000) (by decide) 60 (by decide)
  have hreturns : Returns (fun _ _ => 0) ⟨540, 1020, [1, 2, 3, 4, 5], "UTC"⟩ (-60589087200000) 60
      (-630939600000) := ⟨1, by decide +kernel⟩
  obtain rfl := hdue.unique _ _ hreturns
  have hhour := hleast (show (-60589083600000 : Int) ∈ _ from ⟨by decide, by decide +kernel⟩)
  omega

end CloudOps.Ticketing.Sla
