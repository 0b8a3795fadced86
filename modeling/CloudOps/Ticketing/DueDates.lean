import CloudOps.Ticketing.BusinessMinutes
import CloudOps.Ticketing.LocalMinutes
import CloudOps.Ticketing.TicketsService

-- Deadlines in business hours against real time, in time zones whose offset changes.
namespace CloudOps.Ticketing.Sla

open CloudOps.WallClock CloudOps.WorkingTime CloudOps.StepFunctions

variable (offsetAt : String → Int → Int) (hours : BusinessHours)

-- The call ends with a deadline that is at least the minutes away.
def NeverEarly (anchor minutes : Int) : Prop :=
  ∃ due, Returns offsetAt hours anchor minutes due ∧ anchor + minutes * 60000 ≤ due

-- The fewer minutes do not end after the more, and the due dates of a policy with these targets
-- come in their order.
def DueDatesOrdered (anchor fewer more : Int) : Prop :=
  (∃ due due', Returns offsetAt hours anchor fewer due ∧ Returns offsetAt hours anchor more due' ∧ due ≤ due') ∧
  ∀ policy : SlaTargets, policy.firstResponseTargetMinutes = fewer → policy.resolutionTargetMinutes = more →
    ∃ fuel firstResponseDueAt resolutionDueAt,
      calculateDueDates offsetAt fuel anchor (some policy) (some hours) =
        some (some firstResponseDueAt, some resolutionDueAt) ∧ firstResponseDueAt ≤ resolutionDueAt

-- So many working minutes, from the one the clock shows at the anchor, are over at another.
abbrev Over (anchor : Int) : Int → Int → Prop := OverAt hours (wallMinute (offsetAt hours.timezone) anchor)

-- The zone's clock is settled from the anchor's date on, and where the one time and the other are
-- over at minutes that are near, it is put forward or back once at most around them.
structure Settled (bound anchor fewer more : Int) : Prop where
  zone : SettledFrom offsetAt hours.timezone bound (zonedParts offsetAt anchor hours.timezone).date
  once : ∀ shown later, Over offsetAt hours anchor fewer shown → Over offsetAt hours anchor more later →
    later - shown ≤ 2 * bound → OnceBetween (offsetAt hours.timezone) bound shown later

-- At no whole minute before the time has passed has the clock counted off as many working minutes.
def InPace (anchor minutes : Int) : Prop :=
  ∀ instant, instant % 60000 = 0 → instant < anchor + minutes * 60000 →
    (clockMinutes hours (wallMinute (offsetAt hours.timezone) anchor)
      (wallMinute (offsetAt hours.timezone) instant) : Int) < minutes

-- And the minute at which they are over is not one the clock is put forward over.
structure InStep (bound anchor minutes : Int) : Prop extends
    Settled offsetAt hours bound anchor minutes minutes where
  shown : ∀ shown, Over offsetAt hours anchor minutes shown →
    ∃ instant, instant % 60000 = 0 ∧ wallMinute (offsetAt hours.timezone) instant = shown
  pace : InPace offsetAt hours anchor minutes

variable {offsetAt hours}

theorem datesInTurn_settled {bound first : Int} (h : SettledFrom offsetAt hours.timezone bound first) :
    DatesInTurn offsetAt hours first where
  converts _ _ := h.zonedTimeToUtc_eq
  next cursor hdate days hdays := by
    have hnoon : zonedTimeToUtc offsetAt cursor.date (12 * 60) hours.timezone = _ :=
      (h.zonedTimeToUtc_eq hdate (by decide)).trans (instantOf_eq _)
    obtain ⟨hwithin, hday, hcalm, -⟩ := h
    simp only [daysLater, hnoon, zonedParts]
    have hbound := wholeOffset_bounded hwithin ((cursor.date * 1440 + 12 * 60) * 60000)
    generalize hguess : (cursor.date * 1440 + 12 * 60) * 60000 -
      wholeOffset (offsetAt hours.timezone) ((cursor.date * 1440 + 12 * 60) * 60000) = guess
    have hsettled := wholeOffset_bounded hwithin guess
    generalize hlater : (cursor.date * 1440 + 12 * 60) * 60000 -
      wholeOffset (offsetAt hours.timezone) guess + days * DAY_MS = later
    have hwhole : later % 60000 = 0 := by
      simp only [wholeOffset, DAY_MS] at hlater
      omega
    have hshown : wallMinute (offsetAt hours.timezone) later * 60000 = _ := wallMinute_whole hwhole
    simp only [DAY_MS] at hcalm hlater
    have hweek := hcalm.wholeOffset_near (show _ ≤ guess by omega) (show _ ≤ later by omega)
      (by simp only [HOUR_MS]; omega) (by simp only [HOUR_MS]; omega)
    simp only [HOUR_MS] at hweek
    omega

theorem Settled.once_self {bound anchor minutes shown : Int} (h : Settled offsetAt hours bound anchor minutes minutes)
    (hover : Over offsetAt hours anchor minutes shown) :
    OnceBetween (offsetAt hours.timezone) bound shown shown := by
  have hbound := (abs_nonneg _).trans (h.zone.within 0)
  exact h.once _ _ hover hover (by omega)

-- At a deadline the clock shows the minute it is the end of, where it shows that minute at all.
theorem InStep.neverEarly (hvalid : ValidHours hours) {bound anchor minutes : Int} (hpos : 1 ≤ minutes)
    (h : InStep offsetAt hours bound anchor minutes) : NeverEarly offsetAt hours anchor minutes := by
  obtain ⟨shown, hends⟩ := exists_endsAt (datesInTurn_settled h.zone) hvalid le_rfl hpos
  have hshown := (wallMinute_instantOf_iff h.zone.within (h.once_self hends.toOverAt)).mpr
    (h.shown shown hends.toOverAt)
  refine ⟨_, hends.returns, ?_⟩
  by_contra hearly
  have hcounted := h.pace _ (instantOf_whole shown) (not_le.mp hearly)
  rw [hshown, hends.counted] at hcounted
  omega

-- Where that minute comes once, the time cannot be counted off before the deadline.
theorem Settled.inPace (hvalid : ValidHours hours) {bound anchor minutes : Int} (hpos : 1 ≤ minutes)
    (h : Settled offsetAt hours bound anchor minutes minutes)
    (hunique : ∀ shown, Over offsetAt hours anchor minutes shown →
      ∃! instant, instant % 60000 = 0 ∧ wallMinute (offsetAt hours.timezone) instant = shown)
    (hearly : NeverEarly offsetAt hours anchor minutes) : InPace offsetAt hours anchor minutes := by
  intro instant hwhole hlt
  obtain ⟨shown, hends⟩ := exists_endsAt (datesInTurn_settled h.zone) hvalid le_rfl hpos
  obtain ⟨due, hdue, hle⟩ := hearly
  obtain rfl := hdue.unique _ _ hends.returns
  have honce := h.once_self hends.toOverAt
  have hone := hunique shown hends.toOverAt
  have hshown := (wallMinute_instantOf_iff h.zone.within honce).mpr hone.exists
  have hbefore := wallMinute_lt_of_unique h.zone.within honce
    (fun instant other hinstant hminute hother hsame => hone.unique ⟨hinstant, hminute⟩ ⟨hother, hsame⟩)
    (instantOf_whole shown) hshown hwhole (by omega)
  by_contra hcounted
  have := hends.le (not_lt.mp hcounted)
  omega

-- Under a fixed offset a deadline is early when the anchor is past the minute the clock shows
-- for it and all the minutes from there on are working ones.
theorem neverEarly_fixed_iff {c : Int} (hfix : ∀ instant, offsetAt hours.timezone instant = c)
    (hvalid : ValidHours hours) {anchor minutes : Int} (hpos : 1 ≤ minutes)
    (hyear : yearHundred ≤ (zonedParts offsetAt anchor hours.timezone).date)
    (hshown : yearHundred * 1440 ≤ (zonedParts offsetAt anchor hours.timezone).date * 1440 + c / 60000) :
    NeverEarly offsetAt hours anchor minutes ↔
      anchor % 60000 = 0 ∨ 60000 ≤ anchor % 60000 + c % 60000 ∨
        ∃ tick : Nat, tick < minutes ∧
          ¬ opensFrom hours (wallMinute (offsetAt hours.timezone) anchor) tick := by
  obtain ⟨shown, hends⟩ := exists_endsAt (datesInTurn_fixed hfix hyear hshown) hvalid le_rfl hpos
  obtain ⟨last, rfl, hopen, hcount⟩ := hends.ticks
  have hdue : instantOf (offsetAt hours.timezone)
      (wallMinute (offsetAt hours.timezone) anchor + (last + 1 : Nat)) =
        ((anchor + c) / 60000 + (last + 1 : Nat) - c / 60000) * 60000 := by
    rw [instantOf_fixed hfix, wallMinute, hfix]
  have hle : Nat.count (opensFrom hours (wallMinute (offsetAt hours.timezone) anchor)) (last + 1) ≤ last + 1 :=
    Nat.count_le _
  have hall : ((last + 1 : Nat) : Int) = minutes ↔
      ∀ tick : Nat, tick < minutes → opensFrom hours (wallMinute (offsetAt hours.timezone) anchor) tick := by
    rw [← hcount, Int.natCast_inj, eq_comm, count_eq_iff hopen]
    simp only [Int.ofNat_lt]
  have hclosed : (∃ tick : Nat, tick < minutes ∧
      ¬ opensFrom hours (wallMinute (offsetAt hours.timezone) anchor) tick) ↔ ((last + 1 : Nat) : Int) ≠ minutes := by
    rw [ne_eq, hall]
    simp only [not_forall, exists_prop]
  have hearly : NeverEarly offsetAt hours anchor minutes ↔
      anchor + minutes * 60000 ≤ ((anchor + c) / 60000 + (last + 1 : Nat) - c / 60000) * 60000 := by
    rw [← hdue]
    constructor
    · rintro ⟨due, hdue', hearly⟩
      rwa [← hdue'.unique _ _ hends.returns]
    · exact fun hearly => ⟨_, hends.returns, hearly⟩
  rw [hearly, hclosed]
  omega

-- New York on the night of 2026-03-08, when the clocks went from two to three.
def springForward (_ : String) (instant : Int) : Int :=
  if instant < 1772953200000 then -5 * 3600000 else -4 * 3600000

theorem changesAt_springForward {timezone : String} {instant : Int} (h : ChangesAt (springForward timezone) instant) :
    instant = 1772953200000 := by
  unfold ChangesAt springForward at h
  split_ifs at h <;> omega

theorem springForward_timeZone (timezone : String) : TimeZone (springForward timezone) where
  bounded instant := by
    unfold springForward
    split <;> decide
  shift instant := by
    unfold springForward
    split <;> split <;> decide
  spaced point later hpoint hlater hlt := by
    have := changesAt_springForward hpoint
    have := changesAt_springForward hlater
    omega

def newYorkOffice : BusinessHours := ⟨540, 1020, [1, 2, 3, 4, 5], "America/New_York"⟩

-- From that midnight on the office's hours end after the change.
theorem after_springForward {minutes shown : Int}
    (h : Over springForward newYorkOffice 1772946000000 minutes shown) : 29548800 + 540 < shown := by
  have hmidnight : wallMinute (springForward "America/New_York") 1772946000000 = 29548800 := by decide
  obtain ⟨hlater, ⟨-, hopen, -⟩, -⟩ := h
  simp only [newYorkOffice, hmidnight] at hlater hopen
  omega

theorem springForward_once {minutes shown : Int}
    (h : Over springForward newYorkOffice 1772946000000 minutes shown) :
    ∃! instant, instant % 60000 = 0 ∧ wallMinute (springForward newYorkOffice.timezone) instant = shown := by
  have hafter := after_springForward h
  refine ⟨shown * 60000 + 4 * 3600000, ⟨by omega, ?_⟩, ?_⟩
  · rw [wallMinute, springForward, if_neg (by omega)]
    omega
  · rintro instant ⟨hwhole, hshown⟩
    rw [wallMinute, springForward] at hshown
    split_ifs at hshown <;> omega

theorem springForward_settled (fewer more : Int) :
    Settled springForward newYorkOffice 840 1772946000000 fewer more :=
  ⟨.of_timeZone (springForward_timeZone _) (by decide), fun _ _ _ _ => (springForward_timeZone _).onceBetween⟩

-- Both targets of a policy are counted from the same anchor.
theorem calculateDueDates_businessHours {policy : SlaTargets} (honly : policy.businessHoursOnly = true)
    {createdAt due due' : Int}
    (hfirst : Returns offsetAt hours createdAt policy.firstResponseTargetMinutes due)
    (hresolution : Returns offsetAt hours createdAt policy.resolutionTargetMinutes due') :
    ∃ fuel, calculateDueDates offsetAt fuel createdAt (some policy) (some hours) =
      some (some due, some due') := by
  obtain ⟨fuel, hfirst⟩ := hfirst
  obtain ⟨fuel', hresolution⟩ := hresolution
  refine ⟨max fuel fuel', ?_⟩
  simp only [calculateDueDates, Option.filter, honly, if_true]
  rw [addBusinessMinutes_mono hfirst (Nat.le_max_left fuel fuel'),
    addBusinessMinutes_mono hresolution (Nat.le_max_right fuel fuel')]
  rfl

-- The environment of the ticketing services computes what the calls return.
theorem calculateDueDates_env (env : Environment) {createdAt : Nat} {slaPolicy : Option SlaTargets}
    {businessHours : Option BusinessHours}
    (hreturns : ∀ hours, businessHours = some hours → ∀ minutes : Nat,
      Returns offsetAt hours createdAt minutes (env.addBusinessMinutes createdAt minutes hours)) :
    ∃ fuel, calculateDueDates offsetAt fuel createdAt slaPolicy businessHours =
      some ((Ticketing.calculateDueDates env createdAt slaPolicy businessHours).firstResponseDueAt.map
          fun due => (due : Int),
        (Ticketing.calculateDueDates env createdAt slaPolicy businessHours).resolutionDueAt.map
          fun due => (due : Int)) := by
  cases slaPolicy with
  | none => exact ⟨0, rfl⟩
  | some policy =>
      cases businessHours with
      | none => exact ⟨0, by simp [calculateDueDates, Ticketing.calculateDueDates]⟩
      | some hours =>
          cases honly : policy.businessHoursOnly with
          | true =>
              obtain ⟨fuel, hdates⟩ := calculateDueDates_businessHours honly
                (hreturns hours rfl policy.firstResponseTargetMinutes)
                (hreturns hours rfl policy.resolutionTargetMinutes)
              refine ⟨fuel, hdates.trans ?_⟩
              simp [Ticketing.calculateDueDates, Option.filter, honly]
          | false =>
              refine ⟨0, ?_⟩
              simp [calculateDueDates, Ticketing.calculateDueDates, Option.filter, honly]

end CloudOps.Ticketing.Sla
