import CloudOps.Ticketing.BusinessHours

-- What business hours are: working days one after another, each with the window in which the
-- clock of a deadline runs. `addBusinessMinutes` finds the window its minutes end in.
namespace CloudOps.Ticketing.Sla

open CloudOps.WallClock CloudOps.WorkingTime

variable (offsetAt : String → Int → Int) (hours : BusinessHours)

-- What the settings accept, with a window and a working day.
structure ValidHours : Prop where
  start_lt : hours.startMinute < hours.endMinute
  end_le : hours.endMinute ≤ 1440
  days_ne : hours.days ≠ []
  days_lt : ∀ day ∈ hours.days, day < 7

-- A working day, as the date shown on it, and the minute from which it counts.
structure Window where
  cursor : ZonedParts
  opensAt : Int

def Window.length (window : Window) : Int := hours.endMinute - window.opensAt

-- The dates at steps of 24 hours from noon.
def daysLater (cursor : ZonedParts) (days : Nat) : ZonedParts :=
  zonedParts offsetAt (zonedTimeToUtc offsetAt cursor.date (12 * 60) hours.timezone + days * DAY_MS)
    hours.timezone

def NextWorkingDay (cursor cursor' : ZonedParts) : Prop :=
  ∃ days, cursor' = daysLater offsetAt hours cursor (days + 1) ∧ isWorkingDay hours cursor'.weekday ∧
    ∀ earlier < days, ¬ isWorkingDay hours (daysLater offsetAt hours cursor (earlier + 1)).weekday

-- A working day not yet over when the anchor falls on it.
def Today (cursor : ZonedParts) : Prop :=
  isWorkingDay hours cursor.weekday ∧ cursor.hour * 60 + cursor.minute < hours.endMinute

def FirstWindow (anchor : Int) (window : Window) : Prop :=
  let cursor := zonedParts offsetAt anchor hours.timezone
  (Today hours cursor ∧ window.cursor = cursor ∧
    window.opensAt = max (hours.startMinute : Int) (cursor.hour * 60 + cursor.minute)) ∨
  ¬ Today hours cursor ∧ NextWorkingDay offsetAt hours cursor window.cursor ∧
    window.opensAt = hours.startMinute

def NextWindow (window window' : Window) : Prop :=
  NextWorkingDay offsetAt hours window.cursor window'.cursor ∧ window'.opensAt = hours.startMinute

-- The windows from an anchor on, each with the business minutes before it.
abbrev Opens (anchor : Int) : Int → Window → Prop :=
  Reached (Window.length hours) (FirstWindow offsetAt hours anchor) (NextWindow offsetAt hours)

-- The window in which a number of business minutes after the anchor is over, and the minutes
-- of it that belong to them.
abbrev EndsIn (anchor : Int) : Int → Window → Int → Prop :=
  Falls (Window.length hours) (FirstWindow offsetAt hours anchor) (NextWindow offsetAt hours)

-- The minute of the wall clock so far into a window.
def Window.minuteAt (window : Window) (into : Int) : Int :=
  window.cursor.date * 1440 + window.opensAt + into

def Window.dueAt (window : Window) (into : Int) : Int :=
  zonedTimeToUtc offsetAt window.cursor.date (window.opensAt + into) hours.timezone

-- The loop, from a window with so many minutes left.
def Consumes (window : Window) (remaining due : Int) : Prop :=
  ∃ fuel, consume offsetAt hours fuel window.cursor window.opensAt remaining = some due

variable {offsetAt hours}

theorem skipToWorkingDay_iff {probe : Int} {cursor : ZonedParts} :
    (∃ fuel, skipToWorkingDay offsetAt hours fuel probe = some cursor) ↔
      ∃ days : Nat, cursor = zonedParts offsetAt (probe + (days + 1 : Nat) * DAY_MS) hours.timezone ∧
        isWorkingDay hours cursor.weekday ∧ ∀ earlier < days, ¬ isWorkingDay hours
          (zonedParts offsetAt (probe + (earlier + 1 : Nat) * DAY_MS) hours.timezone).weekday := by
  have hprobe : ∀ (probe : Int) (days : Nat),
      probe + DAY_MS + (days + 1 : Nat) * DAY_MS = probe + (days + 1 + 1 : Nat) * DAY_MS := by
    intro probe days
    simp only [DAY_MS]
    omega
  constructor
  · rintro ⟨fuel, h⟩
    induction fuel generalizing probe with
    | zero => simp [skipToWorkingDay] at h
    | succ fuel ih =>
        simp only [skipToWorkingDay] at h
        split_ifs at h with hwork
        · obtain rfl := Option.some.inj h
          exact ⟨0, by simp, hwork, fun earlier hlt => absurd hlt (by omega)⟩
        · obtain ⟨days, hcursor, hworking, hbefore⟩ := ih h
          refine ⟨days + 1, by rw [hcursor, hprobe], hworking, fun earlier hlt => ?_⟩
          cases earlier with
          | zero => simpa using hwork
          | succ earlier => simpa only [hprobe] using hbefore earlier (by omega)
  · rintro ⟨days, hcursor, hworking, hbefore⟩
    induction days generalizing probe with
    | zero =>
        subst hcursor
        refine ⟨1, ?_⟩
        simp only [skipToWorkingDay]
        rw [if_pos (by simpa using hworking)]
        simp
    | succ days ih =>
        have hskip := hbefore 0 (by omega)
        obtain ⟨fuel, h⟩ := @ih (probe + DAY_MS) (by rw [hcursor, hprobe]) fun earlier hlt => by
          rw [hprobe]
          exact hbefore (earlier + 1) (by omega)
        refine ⟨fuel + 1, ?_⟩
        simp only [skipToWorkingDay]
        rw [if_neg (by simpa using hskip)]
        exact h

theorem advanceToNextWorkingDayStart_iff {cursor cursor' : ZonedParts} :
    (∃ fuel, advanceToNextWorkingDayStart offsetAt hours fuel cursor = some cursor') ↔
      NextWorkingDay offsetAt hours cursor cursor' :=
  skipToWorkingDay_iff

theorem consumes_of_le {window : Window} {remaining : Int} (hle : remaining ≤ window.length hours)
    {due : Int} : Consumes offsetAt hours window remaining due ↔
      due = window.dueAt offsetAt hours remaining := by
  simp only [Window.length] at hle
  constructor
  · rintro ⟨fuel, h⟩
    cases fuel with
    | zero => simp [consume] at h
    | succ fuel =>
        simp only [consume, if_pos hle] at h
        exact (Option.some.inj h).symm
  · rintro rfl
    exact ⟨1, by simp only [consume, if_pos hle, Window.dueAt]⟩

theorem consumes_of_lt {window : Window} {remaining : Int} (hlt : window.length hours < remaining)
    {due : Int} : Consumes offsetAt hours window remaining due ↔
      ∃ window', NextWindow offsetAt hours window window' ∧
        Consumes offsetAt hours window' (remaining - window.length hours) due := by
  have hover : ¬ remaining ≤ hours.endMinute - window.opensAt := by
    simp only [Window.length] at hlt
    omega
  constructor
  · rintro ⟨fuel, h⟩
    cases fuel with
    | zero => simp [consume] at h
    | succ fuel =>
        simp only [consume, if_neg hover] at h
        obtain ⟨cursor', hadvance, hrest⟩ := Option.bind_eq_some_iff.mp h
        exact ⟨⟨cursor', hours.startMinute⟩,
          ⟨advanceToNextWorkingDayStart_iff.mp ⟨fuel, hadvance⟩, rfl⟩, fuel, hrest⟩
  · rintro ⟨window', ⟨hnext, hopens⟩, fuel, hrest⟩
    obtain ⟨skips, hadvance⟩ := advanceToNextWorkingDayStart_iff.mpr hnext
    rw [hopens] at hrest
    refine ⟨max skips fuel + 1, ?_⟩
    simp only [consume, if_neg hover]
    rw [advanceToNextWorkingDayStart_mono hadvance (Nat.le_max_left skips fuel)]
    exact consume_mono hrest (Nat.le_max_right skips fuel)

-- The call places the loop at the first window.
theorem returns_iff_first (hvalid : ValidHours hours) {anchor minutesToAdd due : Int}
    (hpos : 1 ≤ minutesToAdd) : Returns offsetAt hours anchor minutesToAdd due ↔
      ∃ window, FirstWindow offsetAt hours anchor window ∧
        Consumes offsetAt hours window minutesToAdd due := by
  have hlt := hvalid.start_lt
  have hflat : ¬ ((hours.endMinute : Int) - hours.startMinute ≤ 0 ∨ hours.days = [] ∨ minutesToAdd ≤ 0) := by
    have hdays := hvalid.days_ne
    grind
  by_cases htoday : Today hours (zonedParts offsetAt anchor hours.timezone)
  · have hopen : ¬ ((!isWorkingDay hours (zonedParts offsetAt anchor hours.timezone).weekday ||
        decide ((zonedParts offsetAt anchor hours.timezone).hour * 60 +
          (zonedParts offsetAt anchor hours.timezone).minute ≥ hours.endMinute)) = true) := by
      obtain ⟨hwork, hminute⟩ := htoday
      simp only [hwork, Bool.not_true, Bool.false_or, decide_eq_true_eq]
      omega
    constructor
    · rintro ⟨fuel, h⟩
      simp only [addBusinessMinutes, if_neg hflat, if_neg hopen] at h
      refine ⟨⟨zonedParts offsetAt anchor hours.timezone, _⟩, Or.inl ⟨htoday, rfl, rfl⟩, fuel, ?_⟩
      split_ifs at h with hbefore
      · rwa [max_eq_left (by omega)]
      · rwa [max_eq_right (by omega)]
    · rintro ⟨window, hfirst, fuel, h⟩
      obtain ⟨-, hcursor, hopens⟩ | ⟨hnot, -⟩ := hfirst
      · refine ⟨fuel, ?_⟩
        simp only [addBusinessMinutes, if_neg hflat, if_neg hopen]
        rw [hcursor, hopens] at h
        split_ifs with hbefore
        · rwa [max_eq_left (by omega)] at h
        · rwa [max_eq_right (by omega)] at h
      · exact absurd htoday hnot
  · have hover : (!isWorkingDay hours (zonedParts offsetAt anchor hours.timezone).weekday ||
        decide ((zonedParts offsetAt anchor hours.timezone).hour * 60 +
          (zonedParts offsetAt anchor hours.timezone).minute ≥ hours.endMinute)) = true := by
      simp only [Today, not_and_or, not_lt] at htoday
      simpa using htoday
    constructor
    · rintro ⟨fuel, h⟩
      simp only [addBusinessMinutes, if_neg hflat, if_pos hover] at h
      obtain ⟨cursor', hadvance, hrest⟩ := Option.bind_eq_some_iff.mp h
      exact ⟨⟨cursor', hours.startMinute⟩,
        Or.inr ⟨htoday, advanceToNextWorkingDayStart_iff.mp ⟨fuel, hadvance⟩, rfl⟩, fuel, hrest⟩
    · rintro ⟨window, hfirst, fuel, h⟩
      obtain ⟨hnot, -⟩ | ⟨-, hnext, hopens⟩ := hfirst
      · exact absurd hnot htoday
      · obtain ⟨skips, hadvance⟩ := advanceToNextWorkingDayStart_iff.mpr hnext
        rw [hopens] at h
        refine ⟨max skips fuel, ?_⟩
        simp only [addBusinessMinutes, if_neg hflat, if_pos hover]
        rw [advanceToNextWorkingDayStart_mono hadvance (Nat.le_max_left skips fuel)]
        exact consume_mono h (Nat.le_max_right skips fuel)

-- Whatever the loop returns is a minute of a window it came through.
theorem falls_of_consume {anchor before remaining due : Int} {window : Window} {fuel : Nat}
    (hopens : Opens offsetAt hours anchor before window) (hpos : 0 < remaining)
    (h : consume offsetAt hours fuel window.cursor window.opensAt remaining = some due) :
    ∃ window into, EndsIn offsetAt hours anchor (before + remaining) window into ∧
      due = window.dueAt offsetAt hours into := by
  induction fuel generalizing before remaining window with
  | zero => simp [consume] at h
  | succ fuel ih =>
      by_cases hfits : remaining ≤ hours.endMinute - window.opensAt
      · simp only [consume, if_pos hfits] at h
        refine ⟨window, remaining, ⟨?_, hpos, hfits⟩, (Option.some.inj h).symm⟩
        rwa [Int.add_sub_cancel]
      · simp only [consume, if_neg hfits] at h
        obtain ⟨cursor', hadvance, hrest⟩ := Option.bind_eq_some_iff.mp h
        have hnext : NextWindow offsetAt hours window ⟨cursor', hours.startMinute⟩ :=
          ⟨advanceToNextWorkingDayStart_iff.mp ⟨fuel, hadvance⟩, rfl⟩
        obtain ⟨last, into, hends, hdue⟩ := ih (.next hopens hnext) (by omega) hrest
        refine ⟨last, into, ?_, hdue⟩
        rwa [show before + window.length hours + (remaining - (hours.endMinute - window.opensAt)) =
          before + remaining by simp only [Window.length]; omega] at hends

theorem FirstWindow.length_pos (hvalid : ValidHours hours) {anchor : Int} {window : Window}
    (h : FirstWindow offsetAt hours anchor window) : 0 < window.length hours := by
  have hlt := hvalid.start_lt
  simp only [Window.length]
  obtain ⟨⟨-, hminute⟩, -, hopensAt⟩ | ⟨-, -, hopensAt⟩ := h
  · omega
  · omega

theorem NextWindow.length_pos (hvalid : ValidHours hours) {window window' : Window}
    (h : NextWindow offsetAt hours window window') : 0 < window'.length hours := by
  have hlt := hvalid.start_lt
  have hopens := h.2
  simp only [Window.length]
  omega

theorem Opens.length_pos (hvalid : ValidHours hours) {anchor before : Int} {window : Window}
    (hopens : Opens offsetAt hours anchor before window) : 0 < window.length hours := by
  cases hopens with
  | start hfirst => exact hfirst.length_pos hvalid
  | next _ hnext => exact hnext.length_pos hvalid

-- From any window reached the loop goes on as it would have from the first one.
theorem consumes_first (hvalid : ValidHours hours) {anchor before remaining due : Int} {window : Window}
    (hopens : Opens offsetAt hours anchor before window) (hpos : 0 < remaining)
    (h : Consumes offsetAt hours window remaining due) :
    ∃ first, FirstWindow offsetAt hours anchor first ∧
      Consumes offsetAt hours first (before + remaining) due := by
  induction hopens generalizing remaining with
  | start hfirst => exact ⟨_, hfirst, by rwa [Int.zero_add]⟩
  | @next before window window' hopens hnext ih =>
      have hlength := Opens.length_pos hvalid hopens
      have hthrough : Consumes offsetAt hours window (window.length hours + remaining) due := by
        rw [consumes_of_lt (by omega)]
        refine ⟨window', hnext, ?_⟩
        rwa [show window.length hours + remaining - window.length hours = remaining by omega]
      obtain ⟨first, hfirst, hconsumes⟩ := ih (by omega) hthrough
      exact ⟨first, hfirst, by rwa [Int.add_assoc]⟩

theorem returns_iff (hvalid : ValidHours hours) {anchor minutesToAdd due : Int}
    (hpos : 1 ≤ minutesToAdd) : Returns offsetAt hours anchor minutesToAdd due ↔
      ∃ window into, EndsIn offsetAt hours anchor minutesToAdd window into ∧
        due = window.dueAt offsetAt hours into := by
  rw [returns_iff_first hvalid hpos]
  constructor
  · rintro ⟨window, hfirst, fuel, h⟩
    simpa using falls_of_consume (.start hfirst) (by omega) h
  · rintro ⟨window, into, ⟨hopens, hinto, hle⟩, hdue⟩
    simpa using consumes_first hvalid hopens hinto ((consumes_of_le hle).mpr hdue)

theorem returns_of_endsIn (hvalid : ValidHours hours) {anchor minutesToAdd into : Int} {window : Window}
    (hpos : 1 ≤ minutesToAdd) (hends : EndsIn offsetAt hours anchor minutesToAdd window into) :
    Returns offsetAt hours anchor minutesToAdd (window.dueAt offsetAt hours into) :=
  (returns_iff hvalid hpos).mpr ⟨window, into, hends, rfl⟩

-- Where a first window comes and always a next one, all numbers of minutes end.
theorem exists_endsIn_of_next (hvalid : ValidHours hours) {anchor : Int}
    (hfirst : ∃ window, FirstWindow offsetAt hours anchor window)
    (hnext : ∀ before window, Opens offsetAt hours anchor before window →
      ∃ window', NextWindow offsetAt hours window window') {minutes : Int} (hpos : 1 ≤ minutes) :
    ∃ window into, EndsIn offsetAt hours anchor minutes window into := by
  have hfalls := exists_falls (hfirst.imp fun window h => ⟨h, h.length_pos hvalid⟩)
    (fun before window hopens => (hnext before window hopens).imp fun window' h => ⟨h, h.length_pos hvalid⟩)
    (minutes - 1).toNat
  rwa [show ((minutes - 1).toNat : Int) + 1 = minutes by omega] at hfalls

end CloudOps.Ticketing.Sla
