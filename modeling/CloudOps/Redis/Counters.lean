import CloudOps.Redis.Requests

namespace CloudOps.Redis

open CloudOps.ReadCommitted (Table)

variable {ε α β C : Type}

def Prog.next? : Prog ε α → Option Command
  | .call command _ => some command
  | _ => none

-- The key whose EXPIRE is the next command of the request.
def Prog.expiring : Prog ε α → Option String
  | .call (.expire key _) _ => some key
  | _ => none

-- The key an INCR has answered 1 for.
def Command.firstCount : (command : Command) → Except String command.Reply → Option String
  | .incr key, .ok 1 => some key
  | _, _ => none

-- The server deletes the key, or sets the time it expires at.
def Command.Bounds (command : Command) (key : String) : Prop :=
  match command with
  | .expire other _ | .del other | .setEx other _ _ => other = key
  | .incr _ | .ttl _ | .get _ => False

-- A request that counts: right after the first count of a key, and then only, it sets
-- the time the key expires at.
def Prog.SetsWindow : Prog ε α → Prop
  | .ret _ | .throw _ => True
  | .clock next => ∀ now, (next now).SetsWindow ∧ (next now).expiring = none
  | .call command next => ∀ reply,
      (next reply).SetsWindow ∧ (next reply).expiring = command.firstCount reply

theorem Command.firstCount_incr (key : String) (count : Nat) :
    (Command.incr key).firstCount (.ok count) = if count = 1 then some key else none := by
  by_cases h : count = 1
  · subst h
    rfl
  · rw [if_neg h]
    unfold Command.firstCount
    split
    · rename_i hreply
      exact absurd (Except.ok.inj hreply) h
    · rfl

@[simp] theorem Command.firstCount_error (command : Command) (message : String) :
    command.firstCount (.error message) = none := by
  cases command <;> rfl

-- What follows a request that counts may go on without an EXPIRE.
theorem Prog.SetsWindow.bind {prog : Prog ε α} (h : prog.SetsWindow) {after : α → Prog ε β}
    (hafter : ∀ value, (after value).SetsWindow ∧ (after value).expiring = none) :
    (prog >>= after).SetsWindow ∧ (prog >>= after).expiring = prog.expiring := by
  induction prog with
  | ret value => exact hafter value
  | throw error => exact ⟨trivial, rfl⟩
  | clock next ih =>
      refine ⟨fun now => ?_, rfl⟩
      obtain ⟨hsets, hexpiring⟩ := ih now (h now).1
      exact ⟨hsets, hexpiring.trans (h now).2⟩
  | call command next ih =>
      refine ⟨fun reply => ?_, by cases command <;> rfl⟩
      obtain ⟨hsets, hexpiring⟩ := ih reply (h reply).1
      exact ⟨hsets, hexpiring.trans (h reply).2⟩

theorem Prog.SetsWindow.map {prog : Prog ε α} (h : prog.SetsWindow) (f : α → β) :
    (f <$> prog).SetsWindow ∧ (f <$> prog).expiring = prog.expiring :=
  h.bind fun _ => ⟨trivial, rfl⟩

theorem Prog.SetsWindow.tryCatch {prog : Prog ε α} (h : prog.SetsWindow) {handle : Failure ε → Prog ε α}
    (hhandle : ∀ error, (handle error).SetsWindow ∧ (handle error).expiring = none) :
    (prog.tryCatch handle).SetsWindow ∧ (prog.tryCatch handle).expiring = prog.expiring := by
  induction prog with
  | ret value => exact ⟨trivial, rfl⟩
  | throw error => exact hhandle error
  | clock next ih =>
      refine ⟨fun now => ?_, rfl⟩
      obtain ⟨hsets, hexpiring⟩ := ih now (h now).1
      exact ⟨hsets, hexpiring.trans (h now).2⟩
  | call command next ih =>
      refine ⟨fun reply => ?_, by cases command <;> rfl⟩
      obtain ⟨hsets, hexpiring⟩ := ih reply (h reply).1
      exact ⟨hsets, hexpiring.trans (h reply).2⟩

-- A command other than INCR, by itself.
theorem Prog.setsWindow_run {command : Command} (h : ∀ reply, command.firstCount reply = none) :
    (Prog.run command : Prog ε command.Reply).SetsWindow := by
  intro reply
  cases reply with
  | error message => exact ⟨trivial, (h _).symm⟩
  | ok value => exact ⟨trivial, (h _).symm⟩

theorem Prog.setsWindow_countInWindow (key : String) (window : Nat) :
    (Prog.countInWindow key window : Prog ε Nat).SetsWindow := by
  intro reply
  cases reply with
  | error message => exact ⟨trivial, rfl⟩
  | ok count =>
      rw [Command.firstCount_incr]
      simp only [Prog.bind]
      split
      · refine ⟨fun reply => ?_, rfl⟩
        cases reply with
        | error message => exact ⟨trivial, rfl⟩
        | ok set => exact ⟨trivial, rfl⟩
      · exact ⟨trivial, rfl⟩

-- The key stands and no time has been set for it to expire at.
def Unbounded (store : Store) (key : String) : Prop :=
  ∃ entry, store.lookup key = some entry ∧ entry.expiresAt = none

-- A count has started from one.
def Store.Counted (store : Store) : Prop :=
  ∀ key entry, store.lookup key = some entry → entry.expiresAt = none → 1 ≤ entry.value

namespace Db

def next? (db : Db ε α) (id : Nat) : Option Command := (db.requests.lookup id).bind Prog.next?

def expiring (db : Db ε α) (id : Nat) : Option String := (db.requests.lookup id).bind Prog.expiring

def Awaited (db : Db ε α) (key : String) : Prop :=
  ∃ id prog, db.requests.lookup id = some prog ∧ prog.expiring = some key

def AwaitedBesides (db : Db ε α) (id : Nat) (key : String) : Prop :=
  ∃ other prog, other ≠ id ∧ db.requests.lookup other = some prog ∧ prog.expiring = some key

-- A key without a time to expire at, which no request is about to set.
def Stranded (db : Db ε α) (key : String) : Prop := Unbounded db.store key ∧ ¬ db.Awaited key

-- The step gives up the only EXPIRE the key has left: the command is refused, its
-- process dies, or the INCR that made the key has lost its answer.
def Strands (db : Db ε α) (event : Event C) (key : String) : Prop :=
  match event with
  | .exec id (.lost _) =>
      db.next? id = some (.incr key) ∧ db.store.get? db.now key = none ∧ ¬ db.Awaited key
  | .exec id (.refused _) | .crash id =>
      db.expiring id = some key ∧ Unbounded db.store key ∧ ¬ db.AwaitedBesides id key
  | .exec _ .answered | .start .. | .tick _ => False

def Frees (db : Db ε α) (event : Event C) (key : String) : Prop :=
  match event with
  | .exec id .answered | .exec id (.lost _) => ∃ command, db.next? id = some command ∧ command.Bounds key
  | .exec _ (.refused _) | .start .. | .crash _ | .tick _ => False

-- With no request in flight, every key has a time to live.
def AllExpire (db : Db ε α) : Prop :=
  db.quiet → ∀ key entry, db.store.lookup key = some entry → entry.expiresAt.isSome

-- Each key that a step strands is freed before the last request in flight is through.
def StrandedFreed (body : C → Prog ε α) (start : Db ε α) (events : List (Event C)) : Prop :=
  ∀ first event middle rest key, events = first ++ event :: (middle ++ rest) →
    (Runs.run (step body) start first).Strands event key →
    (Runs.run (step body) start (first ++ event :: middle)).quiet →
    ¬ Runs.AllSteps (step body) (fun db event => ¬ db.Frees event key)
      (Runs.run (step body) start (first ++ [event])) middle

structure Counting (db : Db ε α) : Prop where
  requests : ∀ id prog, db.requests.lookup id = some prog → prog.SetsWindow
  counts : db.store.Counted

end Db

theorem Unbounded.get? {store : Store} {key : String} (h : Unbounded store key) (now : Nat) :
    ∃ entry, store.get? now key = some entry ∧ entry.expiresAt = none := by
  obtain ⟨entry, hentry, hnone⟩ := h
  refine ⟨entry, ?_, hnone⟩
  rw [Store.get?, hentry]
  simp [Entry.live, hnone]

theorem Store.lookup_of_get? {store : Store} {now : Nat} {key : String} {entry : Entry}
    (h : store.get? now key = some entry) : store.lookup key = some entry :=
  (Option.filter_eq_some_iff.mp h).1

theorem unbounded_insert {store : Store} {key other : String} {entry : Entry} :
    Unbounded (store.insert other entry) key ↔
      if key = other then entry.expiresAt = none else Unbounded store key := by
  unfold Unbounded
  rw [Table.lookup_insert_eq]
  split
  · simp
  · rfl

theorem unbounded_erase {store : Store} {key other : String} :
    Unbounded (store.erase other) key ↔ key ≠ other ∧ Unbounded store key := by
  unfold Unbounded
  by_cases h : key = other
  · subst h
    simp
  · simp [h, AList.lookup_erase_ne h]

theorem Store.Counted.insert {store : Store} (h : store.Counted) {key : String} {entry : Entry}
    (hentry : entry.expiresAt = none → 1 ≤ entry.value) : Store.Counted (store.insert key entry) := by
  intro other found hfound hnone
  rw [Table.lookup_insert_eq] at hfound
  split at hfound
  · obtain rfl := Option.some.inj hfound
    exact hentry hnone
  · exact h other found hfound hnone

theorem Store.Counted.apply {store : Store} (h : store.Counted) (now : Nat) (command : Command) :
    Store.Counted (command.apply now store).2 := by
  cases command with
  | incr key =>
      simp only [Command.apply]
      split
      · exact h.insert fun _ => Nat.le_refl 1
      · exact h.insert fun _ => Nat.le_add_left 1 _
  | expire key seconds =>
      simp only [Command.apply]
      split
      · exact h
      · exact h.insert fun hnone => absurd hnone (Option.some_ne_none _)
  | ttl key =>
      simp only [Command.apply]
      split
      · exact h
      · exact h
  | del key =>
      intro other found hfound
      refine h other found ?_
      by_cases hsame : other = key
      · subst hsame
        simp [Command.apply] at hfound
      · exact (AList.lookup_erase_ne hsame).symm.trans hfound
  | get key => exact h
  | setEx key value seconds => exact h.insert fun hnone => absurd hnone (Option.some_ne_none _)

theorem Command.bounds_of_expiring {command : Command} (next : Except String command.Reply → Prog ε α)
    (key : String) (h : (Prog.call command next).expiring = some key) : command.Bounds key := by
  cases command with
  | expire other seconds => exact Option.some.inj h
  | incr | ttl | del | get | setEx => cases h

section Apply

variable (now : Nat) (store : Store) (key : String)

theorem unbounded_incr (counter : String) :
    Unbounded ((Command.incr counter).apply now store).2 key ↔
      Unbounded store key ∨ counter = key ∧ store.get? now key = none := by
  by_cases hkey : counter = key
  · subst hkey
    cases hget : store.get? now counter with
    | none => simp [Command.apply, hget, unbounded_insert]
    | some entry =>
        have hlookup := Store.lookup_of_get? hget
        simp [Command.apply, hget, Unbounded, hlookup]
  · have hne : key ≠ counter := Ne.symm hkey
    cases hget : store.get? now counter with
    | none => simp [Command.apply, hget, unbounded_insert, hne, hkey]
    | some entry => simp [Command.apply, hget, unbounded_insert, hne, hkey]

theorem unbounded_expire (counter : String) (seconds : Nat) :
    Unbounded ((Command.expire counter seconds).apply now store).2 key ↔
      Unbounded store key ∧ counter ≠ key := by
  cases hget : store.get? now counter with
  | none =>
      simp only [Command.apply, hget]
      constructor
      · intro h
        refine ⟨h, ?_⟩
        rintro rfl
        obtain ⟨entry, hentry, -⟩ := h.get? now
        simp [hget] at hentry
      · exact fun h => h.1
  | some entry =>
      simp only [Command.apply, hget, unbounded_insert]
      by_cases hkey : key = counter
      · simp [hkey]
      · simp [hkey, Ne.symm hkey]

-- What a command leaves of a key without a time to expire at.
theorem unbounded_apply (command : Command) :
    Unbounded (command.apply now store).2 key ↔
      (Unbounded store key ∧ ¬ command.Bounds key) ∨
        command = .incr key ∧ store.get? now key = none := by
  cases command with
  | incr counter => simp [unbounded_incr, Command.Bounds]
  | expire counter seconds => simp [unbounded_expire, Command.Bounds]
  | ttl counter =>
      simp only [Command.apply, Command.Bounds]
      cases store.get? now counter <;> simp
  | del counter => simp [Command.apply, unbounded_erase, Command.Bounds, and_comm, eq_comm]
  | get counter => simp [Command.apply, Command.Bounds]
  | setEx counter value seconds =>
      by_cases hkey : counter = key
      · simp [Command.apply, unbounded_insert, Command.Bounds, hkey]
      · simp [Command.apply, unbounded_insert, Command.Bounds, hkey, Ne.symm hkey]

variable {now store key}

theorem firstCount_of_new (h : store.get? now key = none) :
    (Command.incr key).firstCount (.ok ((Command.incr key).apply now store).1) = some key := by
  simp only [Command.apply, h]
  rfl

theorem eq_incr_of_firstCount {command : Command} {reply : Except String command.Reply}
    (h : command.firstCount reply = some key) : command = .incr key := by
  unfold Command.firstCount at h
  split at h
  · exact congrArg Command.incr (Option.some.inj h)
  · cases h

-- No key that stands unbounded is counted for the first time.
theorem not_unbounded_of_firstCount (hcounted : store.Counted) {command : Command}
    (h : command.firstCount (.ok (command.apply now store).1) = some key) : ¬ Unbounded store key := by
  intro hunbounded
  obtain ⟨entry, hget, hnone⟩ := hunbounded.get? now
  have hpos := hcounted key entry (Store.lookup_of_get? hget) hnone
  obtain rfl := eq_incr_of_firstCount h
  simp only [Command.apply, hget, Command.firstCount] at h
  split at h
  · rename_i hreply
    have hone : entry.value + 1 = 1 := by simpa using hreply
    omega
  · cases h

end Apply

namespace Db

variable {db : Db ε α} {id : Nat} {key : String}

theorem awaited_iff (id : Nat) : db.Awaited key ↔
    db.expiring id = some key ∨ db.AwaitedBesides id key := by
  constructor
  · rintro ⟨other, prog, hlookup, hexpiring⟩
    by_cases hsame : other = id
    · subst hsame
      exact .inl (by rw [expiring, hlookup]; exact hexpiring)
    · exact .inr ⟨other, prog, hsame, hlookup, hexpiring⟩
  · rintro (hown | ⟨other, prog, -, hlookup, hexpiring⟩)
    · obtain ⟨prog, hlookup, hexpiring⟩ := Option.bind_eq_some_iff.mp hown
      exact ⟨id, prog, hlookup, hexpiring⟩
    · exact ⟨other, prog, hlookup, hexpiring⟩

theorem stranded_of_lookup {prog : Prog ε α} (h : db.requests.lookup id = some prog) :
    db.Stranded key ↔
      Unbounded db.store key ∧ prog.expiring ≠ some key ∧ ¬ db.AwaitedBesides id key := by
  rw [Stranded, awaited_iff id, expiring, h]
  simp [not_or]

-- The requests apart from one are as they were once it is put back or taken out.
theorem awaitedBesides_congr {other : Db ε α}
    (h : ∀ request, request ≠ id → other.requests.lookup request = db.requests.lookup request) :
    other.AwaitedBesides id key ↔ db.AwaitedBesides id key := by
  constructor
  · rintro ⟨request, prog, hne, hlookup, hexpiring⟩
    exact ⟨request, prog, hne, (h request hne) ▸ hlookup, hexpiring⟩
  · rintro ⟨request, prog, hne, hlookup, hexpiring⟩
    exact ⟨request, prog, hne, (h request hne).trans hlookup, hexpiring⟩

theorem settle_stranded {store : Store} {prog : Prog ε α} :
    (db.settle id store prog).Stranded key ↔
      Unbounded store key ∧ prog.expiring ≠ some key ∧ ¬ db.AwaitedBesides id key := by
  have hstore : (db.settle id store prog).store = store := by cases prog <;> rfl
  have hown : (db.settle id store prog).expiring id = prog.expiring := by
    cases prog <;> simp [settle, expiring, Prog.expiring]
  have hothers : (db.settle id store prog).AwaitedBesides id key ↔ db.AwaitedBesides id key := by
    refine awaitedBesides_congr fun request hne => ?_
    cases prog <;> simp [settle, hne]
  rw [Stranded, awaited_iff id, hstore, hown, hothers, not_or]

theorem Counting.settle (h : db.Counting) {store : Store} {prog : Prog ε α} (hprog : prog.SetsWindow)
    (hcounts : store.Counted) :
    (db.settle id store prog).Counting := by
  refine ⟨fun request found hfound => ?_, ?_⟩
  · by_cases hsame : request = id
    · subst hsame
      cases prog with
      | ret | throw => simp [Db.settle] at hfound
      | clock | call =>
          obtain rfl := Option.some.inj ((AList.lookup_insert _).symm.trans hfound)
          exact hprog
    · refine h.requests request found ?_
      cases prog <;> simpa [Db.settle, hsame] using hfound
  · have hstore : (db.settle id store prog).store = store := by cases prog <;> rfl
    rw [hstore]
    exact hcounts

variable {body : C → Prog ε α}

theorem Counting.step (h : db.Counting) (hbody : ∀ call, (body call).SetsWindow) (event : Event C) :
    (db.step body event).Counting := by
  cases event with
  | start id call =>
      simp only [Db.step]
      split
      · exact h
      · exact h.settle (hbody call) h.counts
  | exec id delivery =>
      simp only [Db.step]
      cases hlookup : db.requests.lookup id with
      | none => exact h
      | some prog =>
          have hprog := h.requests id prog hlookup
          cases prog with
          | ret | throw => exact h
          | clock next => exact h.settle (hprog _).1 h.counts
          | call command next =>
              cases delivery with
              | answered => exact h.settle (hprog _).1 (h.counts.apply _ _)
              | refused message => exact h.settle (hprog _).1 h.counts
              | lost message => exact h.settle (hprog _).1 (h.counts.apply _ _)
  | crash id =>
      refine ⟨fun request found hfound => h.requests request found ?_, h.counts⟩
      by_cases hsame : request = id
      · subst hsame
        simp [Db.step] at hfound
      · exact (AList.lookup_erase_ne hsame).symm.trans hfound
  | tick elapsed => exact ⟨h.requests, h.counts⟩

section Execute

variable {command : Command} {next : Except String command.Reply → Prog ε α}
  (hlookup : db.requests.lookup id = some (.call command next))
include hlookup

theorem next?_of_lookup : db.next? id = some command := by
  rw [next?, hlookup]
  rfl

theorem expiring_of_lookup : db.expiring id = (Prog.call command next).expiring := by
  rw [expiring, hlookup]
  rfl

theorem stranded_answered (h : db.Counting) :
    (db.execute id .answered (.call command next)).Stranded key ↔
      db.Stranded key ∧ ¬ command.Bounds key := by
  have hnext := (h.requests id _ hlookup (.ok (command.apply db.now db.store).1)).2
  have hbounds := Command.bounds_of_expiring next key
  rw [execute, settle_stranded, hnext, stranded_of_lookup hlookup, unbounded_apply]
  constructor
  · rintro ⟨hkeeps | ⟨rfl, hnew⟩, hfirst, hothers⟩
    · exact ⟨⟨hkeeps.1, fun hown => hkeeps.2 (hbounds hown), hothers⟩, hkeeps.2⟩
    · exact absurd (firstCount_of_new hnew) hfirst
  · rintro ⟨⟨hunbounded, -, hothers⟩, hkeeps⟩
    exact ⟨.inl ⟨hunbounded, hkeeps⟩, fun hfirst => not_unbounded_of_firstCount h.counts hfirst hunbounded,
      hothers⟩

theorem stranded_refused (h : db.Counting) (message : String) :
    (db.execute id (.refused message) (.call command next)).Stranded key ↔
      (db.expiring id = some key ∧ Unbounded db.store key ∧ ¬ db.AwaitedBesides id key) ∨
        db.Stranded key := by
  have hnext := (h.requests id _ hlookup (.error message)).2
  have hnone := command.firstCount_error message
  rw [execute, settle_stranded, hnext, hnone, stranded_of_lookup hlookup, expiring_of_lookup hlookup]
  by_cases hown : (Prog.call command next).expiring = some key
  · simp [hown]
  · simp [hown]

theorem stranded_lost (h : db.Counting) (message : String) :
    (db.execute id (.lost message) (.call command next)).Stranded key ↔
      (command = .incr key ∧ db.store.get? db.now key = none ∧ ¬ db.Awaited key) ∨
        db.Stranded key ∧ ¬ command.Bounds key := by
  have hnext := (h.requests id _ hlookup (.error message)).2
  have hnone := command.firstCount_error message
  have hbounds := Command.bounds_of_expiring next key
  have hawaited : db.Awaited key ↔
      (Prog.call command next).expiring = some key ∨ db.AwaitedBesides id key := by
    rw [awaited_iff id, expiring_of_lookup hlookup]
  rw [execute, settle_stranded, hnext, hnone, stranded_of_lookup hlookup, unbounded_apply, hawaited]
  constructor
  · rintro ⟨hkeeps | ⟨rfl, hnew⟩, -, hothers⟩
    · exact .inr ⟨⟨hkeeps.1, fun hown => hkeeps.2 (hbounds hown), hothers⟩, hkeeps.2⟩
    · refine .inl ⟨rfl, hnew, ?_⟩
      rintro (hown | hother)
      · cases hown
      · exact hothers hother
  · rintro (⟨rfl, hnew, hnobody⟩ | ⟨⟨hunbounded, -, hothers⟩, hkeeps⟩)
    · exact ⟨.inr ⟨rfl, hnew⟩, nofun, fun hother => hnobody (.inr hother)⟩
    · exact ⟨.inl ⟨hunbounded, hkeeps⟩, nofun, hothers⟩

end Execute

-- Which keys are stranded, step by step.
theorem step_stranded (h : db.Counting) (hbody : ∀ call, (body call).expiring = none) (event : Event C) :
    (db.step body event).Stranded key ↔
      db.Strands event key ∨ db.Stranded key ∧ ¬ db.Frees event key := by
  cases event with
  | start id call =>
      simp only [Db.step, Strands, Frees, false_or, not_false_eq_true, and_true]
      split
      · rfl
      · rename_i hfree
        rw [settle_stranded, hbody, Stranded, awaited_iff id, expiring,
          AList.lookup_eq_none.mpr hfree]
        simp
  | exec id delivery =>
      simp only [Db.step]
      cases hlookup : db.requests.lookup id with
      | none =>
          have hnext : db.next? id = none := by rw [next?, hlookup]; rfl
          have hexpiring : db.expiring id = none := by rw [expiring, hlookup]; rfl
          cases delivery <;> simp [Strands, Frees, hnext, hexpiring]
      | some prog =>
          have hprog := h.requests id prog hlookup
          cases prog with
          | ret | throw =>
              have hnext : db.next? id = none := by rw [next?, hlookup]; rfl
              have hexpiring : db.expiring id = none := by rw [expiring, hlookup]; rfl
              cases delivery <;> simp [Strands, Frees, hnext, hexpiring, execute]
          | clock next =>
              have hnext : db.next? id = none := by rw [next?, hlookup]; rfl
              have hexpiring : db.expiring id = none := by rw [expiring, hlookup]; rfl
              have hsame : (db.execute id delivery (.clock next)).Stranded key ↔ db.Stranded key := by
                rw [execute, settle_stranded, (hprog _).2, stranded_of_lookup hlookup]
                rfl
              cases delivery <;> simp [Strands, Frees, hnext, hexpiring, hsame]
          | call command next =>
              have hnext := next?_of_lookup hlookup
              cases delivery with
              | answered =>
                  simp [stranded_answered hlookup h, Strands, Frees, hnext]
              | refused message =>
                  simp [stranded_refused hlookup h message, Strands, Frees]
              | lost message =>
                  simp [stranded_lost hlookup h message, Strands, Frees, hnext]
  | crash id =>
      have hothers : (db.step body (.crash id)).AwaitedBesides id key ↔ db.AwaitedBesides id key :=
        awaitedBesides_congr fun request hne => AList.lookup_erase_ne hne
      have hown : (db.step body (.crash id)).expiring id = none := by
        simp [expiring, Db.step]
      have hstore : (db.step body (.crash id)).store = db.store := rfl
      rw [Stranded, Stranded, awaited_iff id, awaited_iff id, hown, hothers, hstore]
      simp only [Strands, Frees]
      by_cases hexpiring : db.expiring id = some key
      · simp [hexpiring]
      · simp [hexpiring]
  | tick elapsed => simp [Db.step, Strands, Frees, Stranded, Awaited]

theorem not_stranded_start (now : Nat) : ¬ (Db.start now : Db ε α).Stranded key := by
  rintro ⟨⟨entry, hentry, -⟩, -⟩
  simp [Db.start] at hentry

theorem counting_start (now : Nat) : (Db.start now : Db ε α).Counting := by
  refine ⟨?_, ?_⟩
  · intro id prog hlookup
    simp [Db.start] at hlookup
  · intro key entry hentry
    simp [Db.start] at hentry

theorem allExpire_iff : db.AllExpire ↔ (db.quiet → ∀ key, ¬ db.Stranded key) := by
  refine forall_congr' fun hquiet => forall_congr' fun key => ?_
  have hnobody : ¬ db.Awaited key := by
    rintro ⟨id, prog, hlookup, -⟩
    have hmem := AList.mem_keys.mp (Table.mem_of_lookup hlookup)
    rw [List.isEmpty_iff.mp hquiet] at hmem
    cases hmem
  simp only [Stranded, hnobody, not_false_eq_true, and_true, Unbounded, not_exists, not_and]
  refine forall_congr' fun entry => forall_congr' fun _ => ?_
  cases entry.expiresAt <;> simp

-- Once the windows have passed, the key is gone.
theorem AllExpire.released (h : db.AllExpire) (hquiet : db.quiet) (key : String) :
    ∃ time, ∀ now, time ≤ now → db.store.get? now key = none := by
  cases hlookup : db.store.lookup key with
  | none => exact ⟨0, fun now _ => by rw [Store.get?, hlookup, Option.filter_none]⟩
  | some entry =>
      obtain ⟨time, htime⟩ := Option.isSome_iff_exists.mp (h hquiet key entry hlookup)
      refine ⟨time, fun now hnow => ?_⟩
      rw [Store.get?, hlookup, Option.filter_some, if_neg]
      simp only [Entry.live, htime, Option.all_some, decide_eq_true_eq]
      omega

theorem allExpire_always_iff (hbody : ∀ call, (body call).SetsWindow ∧ (body call).expiring = none)
    (now : Nat) (events : List (Event C)) :
    Runs.Always (step body) AllExpire (start now) events ↔ StrandedFreed body (start now) events := by
  have hlatched : ∀ key events, (Runs.run (step body) (start now) events).Stranded key ↔
      ∃ first event middle, events = first ++ event :: middle ∧
        (Runs.run (step body) (start now) first).Strands event key ∧
        Runs.AllSteps (step body) (fun db event => ¬ db.Frees event key)
          (Runs.run (step body) (start now) (first ++ [event])) middle := by
    intro key events
    have hkeep : ∀ (db : Db ε α) (event : Event C), db.Counting → (db.step body event).Counting :=
      fun _ event h => h.step (fun call => (hbody call).1) event
    have hstep : ∀ (db : Db ε α) (event : Event C), db.Counting → ((db.step body event).Stranded key ↔
        db.Strands event key ∨ db.Stranded key ∧ ¬ db.Frees event key) :=
      fun _ event h => step_stranded h (fun call => (hbody call).2) event
    exact Runs.latched_iff (fun db => db.Stranded key) events (counting_start now) hkeep hstep
      (not_stranded_start now)
  rw [Runs.always_iff_reached]
  constructor
  · intro h first event middle rest key hevents hstrands hquiet hkept
    have hall := h (first ++ event :: middle) rest (by simp [hevents])
    exact allExpire_iff.mp hall hquiet key ((hlatched key _).mpr ⟨first, event, middle, rfl, hstrands, hkept⟩)
  · intro h done rest hevents
    refine allExpire_iff.mpr fun hquiet key hstranded => ?_
    obtain ⟨first, event, middle, rfl, hstrands, hkept⟩ := (hlatched key _).mp hstranded
    exact h first event middle rest key (by simp [hevents]) hstrands hquiet hkept

end Db

end CloudOps.Redis
