import CloudOps.Runs
import CloudOps.Ticketing.Ticket
import Mathlib.Algebra.Order.Group.Int

namespace CloudOps.Monitoring

open CloudOps.Ticketing (Uuid TicketPriority)

inductive LogLevel where
  | debug
  | info
  | warn
  | error
  | critical
  deriving DecidableEq

namespace LogLevel

def text : LogLevel → String
  | debug => "debug"
  | info => "info"
  | warn => "warn"
  | error => "error"
  | critical => "critical"

def all : List LogLevel := [debug, info, warn, error, critical]

def rank : LogLevel → Nat
  | debug => 0
  | info => 1
  | warn => 2
  | error => 3
  | critical => 4

def levelAtLeast (level min : LogLevel) : Bool := min.rank ≤ level.rank

-- TICKET_PRIORITY_BY_LEVEL
def ticketPriority : LogLevel → TicketPriority
  | critical => .urgent
  | error => .high
  | warn => .medium
  | info => .low
  | debug => .low

end LogLevel

structure IngestLogEntryDto where
  ts : Option Int
  level : Option LogLevel
  message : String

-- A row of log_entries; times are in microseconds, as the database has them.
structure LogEntry where
  id : Uuid
  logSourceId : Uuid
  ts : Int
  level : LogLevel
  message : String
  deriving DecidableEq

structure LogAlertRule where
  name : String
  logSourceId : Uuid
  matchQuery : Option String
  levelAtLeast : String
  windowSeconds : Int
  threshold : Int
  isEnabled : Bool

-- isLogLevel(rule.level_at_least) ? rule.level_at_least : 'error'
def LogAlertRule.minLevel (rule : LogAlertRule) : LogLevel :=
  (LogLevel.all.find? fun level => level.text = rule.levelAtLeast).getD .error

def LogAlertRule.window (rule : LogAlertRule) : Int := rule.windowSeconds * 1000000

-- The body of the call that opens a ticket.
structure FromAlertRequest where
  subject : String
  description : String
  priority : TicketPriority
  deriving DecidableEq

def LogAlertRule.request (rule : LogAlertRule) (count : Nat) : FromAlertRequest where
  subject := s!"[Logs] {rule.name}: {count} matching entries in the last {rule.windowSeconds}s"
  description :=
    s!"Log alert rule \"{rule.name}\" crossed its threshold: {count} entries at level >= {rule.minLevel.text}" ++
      ((rule.matchQuery.filter (· ≠ "")).elim "" fun query => s!" matching \"{query}\"") ++
      s!" in the trailing {rule.windowSeconds}s (threshold {rule.threshold})."
  priority := rule.minLevel.ticketPriority

-- Where the pass stands with the rule: its three transactions, and the call after them.
-- `since` is now() of the transaction that counts.
inductive SweepPhase where
  | idle
  | due
  | counting (since : Int)
  | exceeded (counted : List LogEntry)
  | fired (count : Nat)
  deriving DecidableEq

-- A firing: the last_fired_at it stamps, and the entries counted towards it.
structure Firing where
  firedAt : Int
  counted : List LogEntry
  deriving DecidableEq

structure LogWorld where
  clock : Int
  entries : List LogEntry
  lastFiredAt : Option Int
  phase : SweepPhase
  firings : List Firing
  requests : List FromAlertRequest

def LogWorld.start (clock : Int) : LogWorld where
  clock := clock
  entries := []
  lastFiredAt := none
  phase := .idle
  firings := []
  requests := []

-- What happens beside the passes: time, and the commit of a batch whose transaction
-- began at an instant before.
inductive LogEvent where
  | tick (microseconds : Nat)
  | ingest (logSourceId : Uuid) (startedAt : Int) (batch : List IngestLogEntryDto)

inductive SweepEvent where
  | log (event : LogEvent)
  | select
  | beginCount
  | readCount
  | stamp
  | openTicket (returned : Bool)
  | abandon

-- The rows LogIngestionService.ingest inserts. Their ids are fresh.
def ingestRows (nextId : Nat) (logSourceId : Uuid) (startedAt : Int) (batch : List IngestLogEntryDto) :
    List LogEntry :=
  batch.mapIdx fun i entry =>
    { id := nextId + i
      logSourceId := logSourceId
      ts := entry.ts.getD startedAt
      level := entry.level.getD .info
      message := entry.message }

-- A batch commits only what is not after the clock.
def LogWorld.occur (world : LogWorld) : LogEvent → LogWorld
  | .tick microseconds => { world with clock := world.clock + microseconds }
  | .ingest logSourceId startedAt batch =>
      let rows := ingestRows world.entries.length logSourceId startedAt batch
      if startedAt ≤ world.clock ∧ ∀ row ∈ rows, row.ts ≤ world.clock then
        { world with entries := world.entries ++ rows }
      else world

-- to_tsvector('english', message) @@ plainto_tsquery('english', query)
variable (textMatches : String → String → Bool) (rule : LogAlertRule)

def LogWorld.isDue (world : LogWorld) : Bool :=
  rule.isEnabled && world.lastFiredAt.all fun firedAt => firedAt < world.clock - rule.window

-- The entries evaluateRule counts.
def isCounted (since : Int) (entry : LogEntry) : Bool :=
  entry.logSourceId = rule.logSourceId && since - rule.window ≤ entry.ts &&
    entry.level.levelAtLeast rule.minLevel &&
    (rule.matchQuery.filter (· ≠ "")).all fun query => textMatches query entry.message

def LogWorld.matching (world : LogWorld) (since : Int) : List LogEntry :=
  world.entries.filter (isCounted textMatches rule since)

-- One pass at a time: an event that is not the pass's next leaves all as it is. A failure
-- or a restart abandons the pass.
def LogWorld.step (world : LogWorld) : SweepEvent → LogWorld
  | .log event => world.occur event
  | .select =>
      match world.phase with
      | .idle => if world.isDue rule then { world with phase := .due } else world
      | _ => world
  | .beginCount =>
      match world.phase with
      | .due => { world with phase := .counting world.clock }
      | _ => world
  | .readCount =>
      match world.phase with
      | .counting since =>
          let counted := world.matching textMatches rule since
          if counted.length < rule.threshold then { world with phase := .idle }
          else { world with phase := .exceeded counted }
      | _ => world
  | .stamp =>
      match world.phase with
      | .exceeded counted =>
          { world with
            lastFiredAt := some world.clock
            phase := .fired counted.length
            firings := world.firings ++ [⟨world.clock, counted⟩] }
      | _ => world
  | .openTicket returned =>
      match world.phase with
      | .fired count =>
          { world with
            phase := .idle
            requests := if returned then world.requests ++ [rule.request count] else world.requests }
      | _ => world
  | .abandon => { world with phase := .idle }

def LogWorld.occurAll (world : LogWorld) (events : List LogEvent) : LogWorld := events.foldl LogWorld.occur world

-- A pass up to its stamp, with what happens between its transactions.
def passEvents (first second third : List LogEvent) : List SweepEvent :=
  .select :: (first.map .log ++ .beginCount :: (second.map .log ++ .readCount :: (third.map .log ++ [.stamp])))

-- Two firings, one after the other.
structure Apart (first second : Firing) : Prop where
  later : first.firedAt + rule.window < second.firedAt
  disjoint : first.counted.Disjoint second.counted

-- Every firing so far has been before the instant, by the window.
def LogWorld.QuietBefore (world : LogWorld) (instant : Int) : Prop :=
  ∀ firing ∈ world.firings, firing.firedAt + rule.window < instant

-- What the pass knows at each point of it.
def LogWorld.PhaseSound (world : LogWorld) : Prop :=
  match world.phase with
  | .due => world.QuietBefore rule world.clock
  | .counting since => world.QuietBefore rule since ∧ since ≤ world.clock
  | .exceeded counted => world.QuietBefore rule world.clock ∧
      ∀ entry ∈ counted, entry.ts ≤ world.clock ∧ ∀ firing ∈ world.firings, firing.firedAt < entry.ts
  | _ => True

structure LogWorld.Sound (world : LogWorld) : Prop where
  committed : ∀ entry ∈ world.entries, entry.ts ≤ world.clock
  counted : ∀ firing ∈ world.firings, ∀ entry ∈ firing.counted, entry.ts ≤ firing.firedAt
  past : ∀ firing ∈ world.firings, firing.firedAt ≤ world.clock
  stamped : ∀ firing ∈ world.firings, ∃ firedAt, world.lastFiredAt = some firedAt ∧ firing.firedAt ≤ firedAt
  apart : world.firings.Pairwise (Apart rule)
  phase : world.PhaseSound rule

variable {textMatches rule} {world : LogWorld}

theorem sound_start (rule : LogAlertRule) (clock : Int) : (LogWorld.start clock).Sound rule where
  committed := fun _ h => absurd h List.not_mem_nil
  counted := fun _ h => absurd h List.not_mem_nil
  past := fun _ h => absurd h List.not_mem_nil
  stamped := fun _ h => absurd h List.not_mem_nil
  apart := List.Pairwise.nil
  phase := trivial

-- Time and commits change nothing that a pass knows.
theorem LogWorld.PhaseSound.later {other : LogWorld} (h : world.PhaseSound rule) (hphase : other.phase = world.phase)
    (hfirings : other.firings = world.firings) (hclock : world.clock ≤ other.clock) : other.PhaseSound rule := by
  unfold LogWorld.PhaseSound LogWorld.QuietBefore at *
  rw [hphase, hfirings]
  cases hat : world.phase with
  | idle | fired => trivial
  | due =>
      rw [hat] at h
      exact fun firing hfiring => (h firing hfiring).trans_le hclock
  | counting since =>
      rw [hat] at h
      exact ⟨h.1, h.2.trans hclock⟩
  | exceeded counted =>
      rw [hat] at h
      exact ⟨fun firing hfiring => (h.1 firing hfiring).trans_le hclock,
        fun entry hentry => ⟨(h.2 entry hentry).1.trans hclock, (h.2 entry hentry).2⟩⟩

theorem sound_occur (h : world.Sound rule) (event : LogEvent) : (world.occur event).Sound rule := by
  cases event with
  | tick microseconds =>
      have hclock : world.clock ≤ world.clock + microseconds := by omega
      exact
        { committed := fun entry hentry => (h.committed entry hentry).trans hclock
          counted := h.counted
          past := fun firing hfiring => (h.past firing hfiring).trans hclock
          stamped := h.stamped
          apart := h.apart
          phase := h.phase.later rfl rfl hclock }
  | ingest logSourceId startedAt batch =>
      unfold LogWorld.occur
      dsimp only
      split
      · rename_i hcommits
        refine { h with committed := ?_, phase := h.phase.later rfl rfl le_rfl }
        intro entry hentry
        rcases List.mem_append.mp hentry with hold | hnew
        · exact h.committed entry hold
        · exact hcommits.2 entry hnew
      · exact h

-- A rule is due once its window has passed since it last fired.
theorem quietBefore_of_isDue (h : world.Sound rule) (hdue : world.isDue rule = true) :
    world.QuietBefore rule world.clock := by
  intro firing hfiring
  obtain ⟨firedAt, hlast, hle⟩ := h.stamped firing hfiring
  rw [LogWorld.isDue, Bool.and_eq_true, hlast] at hdue
  have hquiet : firedAt < world.clock - rule.window := by simpa using hdue.2
  omega

-- What is counted has come after every firing before.
theorem counted_of_matching (textMatches : String → String → Bool) (h : world.Sound rule) {since : Int}
    (hquiet : world.QuietBefore rule since) : ∀ entry ∈ world.matching textMatches rule since,
      entry.ts ≤ world.clock ∧ ∀ firing ∈ world.firings, firing.firedAt < entry.ts := by
  intro entry hentry
  obtain ⟨hcommitted, hcounted⟩ := List.mem_filter.mp hentry
  refine ⟨h.committed entry hcommitted, fun firing hfiring => ?_⟩
  have hbefore := hquiet firing hfiring
  simp only [isCounted, Bool.and_eq_true, decide_eq_true_eq] at hcounted
  omega

theorem LogWorld.Sound.toPhase (h : world.Sound rule) {phase : SweepPhase}
    (hphase : LogWorld.PhaseSound rule { world with phase := phase }) :
    LogWorld.Sound rule { world with phase := phase } :=
  { h with phase := hphase }

theorem sound_fire {counted : List LogEntry} (h : world.Sound rule) (hphase : world.phase = .exceeded counted) :
    LogWorld.Sound rule
      { world with
        lastFiredAt := some world.clock
        phase := .fired counted.length
        firings := world.firings ++ [⟨world.clock, counted⟩] } := by
  have hsound := h.phase
  rw [LogWorld.PhaseSound, hphase] at hsound
  obtain ⟨hquiet, hentries⟩ := hsound
  constructor
  · exact h.committed
  · intro firing hfiring entry hentry
    rcases List.mem_append.mp hfiring with hold | hnew
    · exact h.counted firing hold entry hentry
    · obtain rfl := List.mem_singleton.mp hnew
      exact (hentries entry hentry).1
  · intro firing hfiring
    rcases List.mem_append.mp hfiring with hold | hnew
    · exact h.past firing hold
    · obtain rfl := List.mem_singleton.mp hnew
      exact le_rfl
  · intro firing hfiring
    refine ⟨world.clock, rfl, ?_⟩
    rcases List.mem_append.mp hfiring with hold | hnew
    · exact h.past firing hold
    · obtain rfl := List.mem_singleton.mp hnew
      exact le_rfl
  · refine List.pairwise_append.mpr ⟨h.apart, List.pairwise_singleton _ _, ?_⟩
    intro firing hfiring new hnew
    obtain rfl := List.mem_singleton.mp hnew
    refine ⟨hquiet firing hfiring, fun entry hold hcounted => ?_⟩
    have hbefore := h.counted firing hfiring entry hold
    have hafter := (hentries entry hcounted).2 firing hfiring
    omega
  · trivial

theorem sound_step (h : world.Sound rule) (event : SweepEvent) : (world.step textMatches rule event).Sound rule := by
  have hidle : LogWorld.Sound rule { world with phase := .idle } := h.toPhase trivial
  cases event with
  | log event => exact sound_occur h event
  | abandon => exact hidle
  | select =>
      cases hphase : world.phase with
      | idle =>
          simp only [LogWorld.step, hphase]
          split
          · rename_i hdue
            have hquiet := quietBefore_of_isDue h hdue
            exact h.toPhase hquiet
          · exact h
      | due | counting | exceeded | fired =>
          simp only [LogWorld.step, hphase]
          exact h
  | beginCount =>
      cases hphase : world.phase with
      | due =>
          have hquiet := h.phase
          rw [LogWorld.PhaseSound, hphase] at hquiet
          simp only [LogWorld.step, hphase]
          exact h.toPhase ⟨hquiet, le_rfl⟩
      | idle | counting | exceeded | fired =>
          simp only [LogWorld.step, hphase]
          exact h
  | readCount =>
      cases hphase : world.phase with
      | counting since =>
          have hsound := h.phase
          rw [LogWorld.PhaseSound, hphase] at hsound
          obtain ⟨hquiet, hsince⟩ := hsound
          simp only [LogWorld.step, hphase]
          split
          · exact hidle
          · have hentries := counted_of_matching textMatches h hquiet
            exact h.toPhase ⟨fun firing hfiring => (hquiet firing hfiring).trans_le hsince, hentries⟩
      | idle | due | exceeded | fired =>
          simp only [LogWorld.step, hphase]
          exact h
  | stamp =>
      cases hphase : world.phase with
      | exceeded counted =>
          simp only [LogWorld.step, hphase]
          exact sound_fire h hphase
      | idle | due | counting | fired =>
          simp only [LogWorld.step, hphase]
          exact h
  | openTicket returned =>
      cases hphase : world.phase with
      | fired count =>
          simp only [LogWorld.step, hphase]
          exact { h with phase := trivial }
      | idle | due | counting | exceeded =>
          simp only [LogWorld.step, hphase]
          exact h

theorem occur_withPhase (world : LogWorld) (phase : SweepPhase) (event : LogEvent) :
    LogWorld.occur { world with phase := phase } event = { world.occur event with phase := phase } := by
  cases event with
  | tick microseconds => rfl
  | ingest logSourceId startedAt batch =>
      simp only [LogWorld.occur]
      split <;> rfl

-- What happens beside a pass leaves it where it stands.
theorem run_logs (world : LogWorld) (phase : SweepPhase) (events : List LogEvent) :
    Runs.run (LogWorld.step textMatches rule) { world with phase := phase } (events.map .log) =
      { world.occurAll events with phase := phase } := by
  induction events generalizing world with
  | nil => rfl
  | cons event rest ih =>
      rw [List.map_cons, Runs.run_cons]
      change Runs.run _ (LogWorld.occur { world with phase := phase } event) _ = _
      rw [occur_withPhase, ih]
      rfl

theorem firings_occurAll (world : LogWorld) (events : List LogEvent) :
    (world.occurAll events).firings = world.firings := by
  induction events generalizing world with
  | nil => rfl
  | cons event rest ih =>
      have hevent : (world.occur event).firings = world.firings := by
        cases event with
        | tick microseconds => rfl
        | ingest logSourceId startedAt batch =>
            simp only [LogWorld.occur]
            split <;> rfl
      exact (ih (world.occur event)).trans hevent

theorem occurAll_append (world : LogWorld) (first second : List LogEvent) :
    world.occurAll (first ++ second) = (world.occurAll first).occurAll second :=
  List.foldl_append

theorem due_pass_fires (hidle : world.phase = .idle) (hdue : world.isDue rule = true)
    (first second third : List LogEvent)
    (hcount : rule.threshold ≤
      ((world.occurAll (first ++ second)).matching textMatches rule (world.occurAll first).clock).length) :
    (Runs.run (LogWorld.step textMatches rule) world (passEvents first second third)).firings =
      world.firings ++ [⟨(world.occurAll (first ++ second ++ third)).clock,
        (world.occurAll (first ++ second)).matching textMatches rule (world.occurAll first).clock⟩] := by
  have hselect : world.step textMatches rule .select = { world with phase := .due } := by
    simp only [LogWorld.step, hidle, hdue, if_true]
  rw [passEvents, Runs.run_cons, hselect, Runs.run_append, run_logs, Runs.run_cons]
  change (Runs.run (LogWorld.step textMatches rule)
    { world.occurAll first with phase := .counting (world.occurAll first).clock } _).firings = _
  rw [Runs.run_append, run_logs, Runs.run_cons, ← occurAll_append]
  have hread : LogWorld.step textMatches rule
      { world.occurAll (first ++ second) with phase := .counting (world.occurAll first).clock } .readCount =
      { world.occurAll (first ++ second) with
        phase := .exceeded
          ((world.occurAll (first ++ second)).matching textMatches rule (world.occurAll first).clock) } :=
    if_neg (Int.not_lt.mpr hcount)
  rw [hread, Runs.run_append, run_logs, ← occurAll_append]
  exact congrArg (· ++ [_]) (firings_occurAll world _)

-- Any two firings are apart, and a due pass fires whose count reaches the threshold.
theorem firings_rate_limited (textMatches : String → String → Bool) (rule : LogAlertRule) (clock : Int)
    (events : List SweepEvent) :
    Runs.Always (LogWorld.step textMatches rule) (fun world => world.firings.Pairwise (Apart rule))
      (.start clock) events ∧
    ∀ first second third : List LogEvent,
      let world := Runs.run (LogWorld.step textMatches rule) (.start clock) events
      world.phase = .idle → world.isDue rule = true →
      rule.threshold ≤
        ((world.occurAll (first ++ second)).matching textMatches rule (world.occurAll first).clock).length →
      ∃ firing, (Runs.run (LogWorld.step textMatches rule) world (passEvents first second third)).firings =
        world.firings ++ [firing] := by
  constructor
  · have hsound : Runs.Always (LogWorld.step textMatches rule) (LogWorld.Sound rule) (.start clock) events :=
      Runs.always_of_step _ (sound_start rule clock) (fun _ event h => sound_step h event) events
    exact hsound.mono fun _ h => h.apart
  · intro first second third world hidle hdue hcount
    exact ⟨_, due_pass_fires hidle hdue first second third hcount⟩

-- Two errors within five minutes.
def twoErrors : LogAlertRule where
  name := "Login failures"
  logSourceId := 1
  matchQuery := some "login"
  levelAtLeast := "error"
  windowSeconds := 300
  threshold := 2
  isEnabled := true

def loginFailed : IngestLogEntryDto := ⟨none, some .error, "login failed"⟩

-- It has fired once, a little more than five minutes ago, and fires for two new errors.
theorem twoErrors_fires_again :
    ∃ firing, (Runs.run (LogWorld.step (fun _ _ => true) twoErrors)
        (Runs.run (LogWorld.step (fun _ _ => true) twoErrors) (.start 0)
          (.log (.ingest 1 0 [loginFailed, loginFailed]) :: passEvents [] [.tick 5] [.tick 5] ++
            [.openTicket true, .log (.tick 300000001)]))
        (passEvents [.ingest 1 300000011 [loginFailed]] [.ingest 1 300000011 [loginFailed]] [])).firings =
      (Runs.run (LogWorld.step (fun _ _ => true) twoErrors) (.start 0)
          (.log (.ingest 1 0 [loginFailed, loginFailed]) :: passEvents [] [.tick 5] [.tick 5] ++
            [.openTicket true, .log (.tick 300000001)])).firings ++ [firing] :=
  (firings_rate_limited (fun _ _ => true) twoErrors 0 _).2 _ _ _ (by decide) (by decide) (by decide)

end CloudOps.Monitoring
