import CloudOps.Monitoring.AlertSystem

namespace CloudOps.Monitoring

open CloudOps.ReadCommitted

variable {rely : AlertWorld → AlertWorld → Prop} {inv : AlertWorld → Prop}

@[simp] theorem changesOnly_empty (call : AlertCall) (now : Nat) (world : AlertWorld) :
    ChangesOnly call now world ∅ := by
  intro id row h
  simp at h

theorem changesOnly_singleton {call : AlertCall} {now id : Nat} {world : AlertWorld} {row : Alert}
    (h : AlertChange now call id (world.committed.lookup id) row) :
    ChangesOnly call now world ((∅ : Table Nat Alert).insert id row) := by
  intro other new hl
  rw [Table.lookup_insert_eq] at hl
  split at hl
  · rename_i he
    obtain rfl := Option.some.inj hl
    exact he ▸ h
  · simp at hl

-- The rule for a transaction that ends with one UPDATE.
theorem wp_update_changes {α : Type} {call : AlertCall} {now id : Nat} {set : Alert → Alert}
    (value : Option Alert → α) {world : AlertWorld}
    (h : ∀ row, AlertChange now call id (some row) (set row)) :
    (Prog.write id (Option.map set) fun result => .ret (value result) : AlertProg α).wp rely inv
      (fun world writes _ => ChangesOnly call now world writes) ∅ world := by
  refine Prog.wp_write_ret _ (fun _ _ => changesOnly_empty _ _ _) ?_
  intro world row _ hrow
  obtain ⟨old, ho, rfl⟩ := Option.map_eq_some_iff.mp hrow
  exact changesOnly_singleton (ho ▸ h old)

theorem applyToDatabase_changes (texts : ReasonTexts) (reads : EvaluationReads)
    (monitor : EvaluatedMonitor) (result : CheckResult) (now : Nat) (world : AlertWorld) :
    (applyToDatabase texts reads monitor result now).wp rely inv
      (fun world writes _ => ChangesOnly (.evaluate reads monitor result) now world writes)
      ∅ world := by
  have hret : ∀ outcome world, (Prog.ret outcome : AlertProg EvaluationOutcome).wp rely inv
      (fun world writes _ => ChangesOnly (.evaluate reads monitor result) now world writes)
      ∅ world := fun _ _ => Prog.wp_ret fun _ _ => changesOnly_empty _ _ _
  unfold applyToDatabase
  split
  · exact hret _ _
  rename_i rule _
  split
  · trivial
  rename_i metric _
  rw [Prog.query_bind]
  intro after _ rows _
  dsimp only
  cases rule.isBad result metric with
  | false =>
      cases rows.head? with
      | none => exact hret _ _
      | some row =>
          dsimp only
          split
          · exact wp_update_changes _ fun row => .resolvedByCheck ..
          · exact hret _ _
  | true =>
      cases rows.head? with
      | some row => exact wp_update_changes _ fun row => .repeated ..
      | none =>
          dsimp only
          split
          · exact hret _ _
          split
          · exact hret _ _
          refine Prog.wp_insert_ret _ _ (fun _ => rfl) rfl ?_ ?_
          · exact fun world id _ hn => changesOnly_singleton (hn ▸ .opened ..)
          · exact fun _ _ => changesOnly_empty _ _ _

-- Both requests read the alert first, and go on with the first row found.
theorem findAlert_wp {α : Type} {id : Nat} {next : Alert → AlertProg α} {world : AlertWorld}
    {post : AlertWorld → Table Nat Alert → α → Prop}
    (h : ∀ alert after, (next alert).wp rely inv post ∅ after) :
    (findAlert id >>= next).wp rely inv post ∅ world := by
  intro after _ rows _
  cases rows with
  | nil => trivial
  | cons row rest => exact h row.2 after

theorem transition_changes {call : AlertCall} (id now : Nat) (opts : Transition) (world : AlertWorld)
    (h : ∀ row, AlertChange now call id (some row) { opts.stamp now row with status := opts.status }) :
    (transition id opts now).wp rely inv
      (fun world writes _ => ChangesOnly call now world writes) ∅ world := by
  refine findAlert_wp fun alert after => ?_
  split
  · trivial
  · exact wp_update_changes (fun result => result) h

theorem linkTicket_changes (id ticketId : Nat) (ticketExists : Bool) (now : Nat) (world : AlertWorld) :
    (linkTicket id ticketId ticketExists).wp rely inv
      (fun world writes _ => ChangesOnly (.linkTicket id ticketId ticketExists) now world writes)
      ∅ world := by
  refine findAlert_wp fun alert after => ?_
  split
  · trivial
  split
  · trivial
  · exact wp_update_changes (fun result => result) fun row => .linked ..

theorem linkTicketOnCreate_changes (alertId ticketId now : Nat) (world : AlertWorld) :
    (linkTicketOnCreate alertId ticketId).wp rely inv
      (fun world writes _ => ChangesOnly (.linkTicketOnCreate alertId ticketId) now world writes)
      ∅ world := by
  unfold linkTicketOnCreate
  rw [Prog.updateWhere_bind]
  refine Prog.wp_write_ret _ (fun _ _ => changesOnly_empty _ _ _) ?_
  intro world row _ hrow
  obtain ⟨old, ho, rfl⟩ := Option.map_eq_some_iff.mp hrow
  obtain ⟨ho, hnone⟩ := Option.filter_eq_some_iff.mp ho
  exact changesOnly_singleton (ho ▸ .linkedOnCreate _ _ old (Option.isNone_iff_eq_none.mp hnone))

-- The rows a transaction has written are locked, so what it may do to them stays
-- what it may do, whatever the others commit.
theorem ChangesOnly.stable {call : AlertCall} {now : Nat} {before after : AlertWorld}
    {writes : Table Nat Alert} (h : ChangesOnly call now before writes)
    (hi : Interferes rely inv writes before after) : ChangesOnly call now after writes := by
  intro id row hw
  rw [hi.2.2 id (Table.mem_of_lookup hw)]
  exact h id row hw

theorem AlertChange.escalate_again {catalog : EscalationCatalog} {now id : Nat} {old : Option Alert}
    {row : Alert} (h : AlertChange now (.sweep catalog) id old row) (index : Nat) :
    AlertChange now (.sweep catalog) id old { row with lastEscalatedStep := index } := by
  cases h
  exact .escalated ..

-- The rule for one due alert: it is left alone, before or after the clock is read, or
-- its row is advanced to the step that is due.
theorem wp_escalateDue_cons {catalog : EscalationCatalog}
    {post : AlertWorld → Table Nat Alert → List PendingEscalation → Prop} {id : Nat} {alert : Alert}
    {rest : List (Nat × Alert)} {actions : List PendingEscalation} {writes : Table Nat Alert}
    {world : AlertWorld} (hstay : (escalateDue catalog rest actions).wp rely inv post writes world)
    (hskip : ∀ read, Interferes rely inv writes world read →
      (escalateDue catalog rest actions).wp rely inv post writes read)
    (hdue : ∀ read after monitorName steps nextStep, ∀ number : Nat, Interferes rely inv writes world read →
      Interferes rely inv writes read after → catalog.join alert = some (monitorName, steps) →
      steps[number]? = some nextStep → alert.openedAt + nextStep.delayMinutes * 60000 ≤ read.clock →
      let next := escalateDue catalog rest (actions ++
        [{ alertId := id, monitorName := monitorName, severity := alert.severity,
           reasonText := alert.reasonText, step := nextStep, stepNumber := number }])
      ((writes ∪ after.committed).lookup id = none → next.wp rely inv post writes after) ∧
      ∀ current, (writes ∪ after.committed).lookup id = some current →
        next.wp rely inv post (writes.insert id { current with lastEscalatedStep := number }) after) :
    (escalateDue catalog ((id, alert) :: rest) actions).wp rely inv post writes world := by
  unfold escalateDue
  cases hjoin : catalog.join alert with
  | none => exact hstay
  | some policy =>
      obtain ⟨monitorName, steps⟩ := policy
      dsimp only
      split
      · exact hstay
      split
      · trivial
      obtain ⟨number, hnumber⟩ := Int.eq_ofNat_of_zero_le
        (show 0 ≤ alert.lastEscalatedStep + 1 by omega)
      rw [hnumber, Int.toNat_natCast]
      cases hstep : steps[number]? with
      | none => trivial
      | some nextStep =>
          refine Prog.wp_clock fun read hread => ?_
          split
          · exact hskip read hread
          rename_i hnow
          rw [Prog.update_bind]
          intro after hafter
          obtain ⟨hgone, hadvance⟩ :=
            hdue read after monitorName steps nextStep number hread hafter hjoin hstep (Nat.not_lt.mp hnow)
          constructor
          · intro hnone
            exact hgone (Option.map_eq_none_iff.mp hnone)
          · intro new hnew
            obtain ⟨current, hcurrent, rfl⟩ := Option.map_eq_some_iff.mp hnew
            exact hadvance current hcurrent

theorem escalateDue_changes (catalog : EscalationCatalog) (now : Nat) (due : List (Nat × Alert)) :
    ∀ (actions : List PendingEscalation) (writes : Table Nat Alert) (world : AlertWorld),
      ChangesOnly (.sweep catalog) now world writes →
      (escalateDue catalog due actions).wp rely inv
        (fun world writes _ => ChangesOnly (.sweep catalog) now world writes) writes world := by
  induction due with
  | nil =>
      intro actions writes world hchanges after hi
      exact hchanges.stable hi
  | cons row rest ih =>
      obtain ⟨id, alert⟩ := row
      intro actions writes world hchanges
      refine wp_escalateDue_cons (ih _ _ _ hchanges) (fun read hread => ih _ _ _ (hchanges.stable hread)) ?_
      intro read after monitorName steps nextStep number hread hafter _ _ _
      have hbefore := (hchanges.stable hread).stable hafter
      refine ⟨fun _ => ih _ _ _ hbefore, fun current hcurrent => ih _ _ _ ?_⟩
      intro other written hwritten
      rw [Table.lookup_insert_eq] at hwritten
      split at hwritten
      · rename_i hsame
        obtain rfl := Option.some.inj hwritten
        subst hsame
        rcases Table.lookup_union_cases hcurrent with hown | ⟨-, hbase⟩
        · exact (hbefore other current hown).escalate_again number
        · rw [hbase]
          exact .escalated ..
      · exact hbefore other written hwritten

-- What every transaction on the alerts table commits, with nothing assumed of the
-- others.
theorem alertService_changes (texts : ReasonTexts) (call : AlertCall) (now : Nat) (world : AlertWorld) :
    ((alertService texts).body call now).wp rely inv
      (fun world writes _ => ChangesOnly call now world writes) ∅ world := by
  cases call with
  | evaluate reads monitor result => exact (applyToDatabase_changes texts reads monitor result _ world).map
  | linkTicketOnCreate alertId ticketId => exact (linkTicketOnCreate_changes alertId ticketId _ world).map
  | acknowledge id => exact (transition_changes id _ _ world fun row => .acknowledged ..).map
  | resolve id => exact (transition_changes id _ _ world fun row => .resolvedByHand ..).map
  | linkTicket id ticketId ticketExists =>
      exact (linkTicket_changes id ticketId ticketExists _ world).map
  | sweep catalog =>
      refine Prog.wp.map ?_
      unfold sweepTenant
      rw [Prog.query_bind]
      intro after _ rows _
      exact escalateDue_changes catalog now rows [] ∅ after (changesOnly_empty _ _ _)

section Sweep

variable {catalog : EscalationCatalog} {begunOn : Table Nat Alert}

-- What a pass has done stays done while others run: it holds its rows locked.
theorem Escalates.later {before after : AlertWorld} {writes : Table Nat Alert}
    {action : PendingEscalation} {alert : Alert} {steps : List EscalationStep}
    (h : Escalates catalog begunOn before writes action alert steps)
    (hlater : Later before after)
    (hlocked : ∀ id ∈ writes, after.committed.lookup id = before.committed.lookup id) :
    Escalates catalog begunOn after writes action alert steps where
  committed := (hlocked _ (Table.mem_of_lookup h.written)).trans h.committed
  written := h.written
  policy := h.policy
  step := h.step
  due := Nat.le_trans h.due hlater.clock
  unresolved := h.unresolved

theorem SweepDone.later {before after : AlertWorld} {writes : Table Nat Alert}
    {actions : List PendingEscalation} (h : SweepDone catalog begunOn before writes actions)
    (hlater : Later before after)
    (hlocked : ∀ id ∈ writes, after.committed.lookup id = before.committed.lookup id) :
    SweepDone catalog begunOn after writes actions where
  nodup := h.nodup
  each action ha := by
    obtain ⟨alert, steps, he⟩ := h.each action ha
    exact ⟨alert, steps, he.later hlater hlocked⟩
  covered := h.covered

theorem SweepDone.nil (world : AlertWorld) : SweepDone catalog begunOn world ∅ [] where
  nodup := List.nodup_nil
  each := by simp
  covered := by simp

theorem SweepDone.add {world : AlertWorld} {writes : Table Nat Alert}
    {actions : List PendingEscalation} (h : SweepDone catalog begunOn world writes actions)
    (action : PendingEscalation) (alert : Alert) (steps : List EscalationStep)
    (hnew : action.alertId ∉ actions.map PendingEscalation.alertId)
    (haction : Escalates catalog begunOn world (writes.insert action.alertId
      { alert with lastEscalatedStep := action.stepNumber }) action alert steps) :
    SweepDone catalog begunOn world (writes.insert action.alertId
      { alert with lastEscalatedStep := action.stepNumber }) (actions ++ [action]) where
  nodup := by
    rw [List.map_append, List.map_singleton, ← List.concat_eq_append]
    exact h.nodup.concat hnew
  each other ho := by
    rcases List.mem_append.mp ho with ho | ho
    · obtain ⟨old, oldSteps, he⟩ := h.each other ho
      refine ⟨old, oldSteps, { he with written := ?_ }⟩
      rw [AList.lookup_insert_ne, he.written]
      intro heq
      exact hnew (heq ▸ List.mem_map_of_mem ho)
    · obtain rfl := List.mem_singleton.mp ho
      exact ⟨alert, steps, haction⟩
  covered id hid := by
    rcases (AList.mem_insert _).mp hid with rfl | hid
    · exact ⟨action, by simp, rfl⟩
    · obtain ⟨other, ho, he⟩ := h.covered id hid
      exact ⟨other, by simp [ho], he⟩

-- A row the pass has read: the version read differs from the committed one only in
-- what other transactions change, and it was not resolved when the pass began.
structure Readable (begunOn : Table Nat Alert) (world : AlertWorld) (id : Nat) (alert : Alert) : Prop where
  row : ∃ current, world.committed.lookup id = some current ∧ current.identity = alert.identity
  unresolved : ∀ old, begunOn.lookup id = some old → old.status ≠ .resolved

theorem Readable.later {before after : AlertWorld} {id : Nat} {alert : Alert}
    (h : Readable begunOn before id alert) (hlater : Later before after) :
    Readable begunOn after id alert where
  row := by
    obtain ⟨current, hc, hi⟩ := h.row
    obtain ⟨new, hn, hnew, -⟩ := hlater.rows id current hc
    exact ⟨new, hn, hnew.trans hi⟩
  unresolved := h.unresolved

variable {rely : AlertWorld → AlertWorld → Prop} {inv : AlertWorld → Prop}

-- The loop over the due alerts: each one read is left alone or escalated once.
theorem escalateDue_done (hrely : ∀ before after, rely before after → Later before after) :
    ∀ (due : List (Nat × Alert)) (actions : List PendingEscalation) (writes : Table Nat Alert)
      (world : AlertWorld),
      (due.map Prod.fst).Nodup →
      (∀ row ∈ due, row.1 ∉ actions.map PendingEscalation.alertId) →
      (∀ row ∈ due, Readable begunOn world row.1 row.2) →
      SweepDone catalog begunOn world writes actions →
      (escalateDue catalog due actions).wp rely inv (SweepDone catalog begunOn) writes world := by
  intro due
  induction due with
  | nil =>
      intro actions writes world _ _ _ hdone after ha
      exact hdone.later (hrely _ _ ha.1) ha.2.2
  | cons row rest ih =>
      obtain ⟨id, alert⟩ := row
      intro actions writes world hnodup hnew hread hdone
      simp only [List.map_cons, List.nodup_cons] at hnodup
      have hnewRest := fun other ho => hnew other (List.mem_cons_of_mem _ ho)
      have hid : id ∉ actions.map PendingEscalation.alertId := hnew (id, alert) (by simp)
      have hidWrites : id ∉ writes := by
        intro hw
        obtain ⟨action, ha, he⟩ := hdone.covered id hw
        exact hid (he ▸ List.mem_map_of_mem ha)
      -- an alert passed over leaves everything as it was for the rest
      have hskip : ∀ after, Interferes rely inv writes world after →
          (escalateDue catalog rest actions).wp rely inv (SweepDone catalog begunOn) writes after :=
        fun after ha => ih actions writes after hnodup.2 hnewRest
          (fun other ho => (hread other (List.mem_cons_of_mem _ ho)).later (hrely _ _ ha.1))
          (hdone.later (hrely _ _ ha.1) ha.2.2)
      have hstay := ih actions writes world hnodup.2 hnewRest
        (fun other ho => hread other (List.mem_cons_of_mem _ ho)) hdone
      refine wp_escalateDue_cons hstay hskip ?_
      intro now after monitorName steps nextStep number hnow hafter hjoin hstep hdue
      have hlater := (hrely _ _ hnow.1).trans (hrely _ _ hafter.1)
      have hlocked : ∀ id ∈ writes, after.committed.lookup id = world.committed.lookup id :=
        fun id hid => (hafter.2.2 id hid).trans (hnow.2.2 id hid)
      have hreadable := (hread (id, alert) (by simp)).later hlater
      obtain ⟨current, hc, hsame⟩ := hreadable.row
      rw [Table.lookup_union_of_notMem hidWrites, hc]
      refine ⟨fun hnone => (Option.some_ne_none _ hnone).elim, fun found hfound => ?_⟩
      obtain rfl := Option.some.inj hfound
      have hopened : current.openedAt = alert.openedAt := by
        simp only [Alert.identity, Prod.mk.injEq] at hsame
        exact hsame.2.2.2.2
      have hclock := (hrely _ _ hafter.1).clock
      refine ih _ _ after hnodup.2 ?_ ?_ ((hdone.later hlater hlocked).add
        { alertId := id
          monitorName := monitorName
          severity := alert.severity
          reasonText := alert.reasonText
          step := nextStep
          stepNumber := number } current steps hid ?_)
      · intro other ho
        rw [List.map_append, List.mem_append, not_or]
        refine ⟨hnewRest other ho, ?_⟩
        rw [List.map_singleton, List.mem_singleton]
        rintro rfl
        exact hnodup.1 (List.mem_map_of_mem ho)
      · exact fun other ho => (hread other (List.mem_cons_of_mem _ ho)).later hlater
      · exact {
          committed := hc
          written := AList.lookup_insert _
          policy := (catalog.join_congr hsame).trans hjoin
          step := hstep
          due := by
            dsimp only
            omega
          unresolved := hreadable.unresolved }

theorem sweepTenant_done (hrely : ∀ before after, rely before after → Later before after)
    (world : AlertWorld) :
    (sweepTenant catalog).wp rely inv (SweepDone catalog world.committed) ∅ world := by
  unfold sweepTenant
  rw [Prog.query_bind]
  intro after hafter rows hrows
  rw [AList.empty_union] at hrows
  have hmem : ∀ row ∈ rows, after.committed.lookup row.1 = some row.2 ∧ row.2.isActive := by
    intro row hr
    obtain ⟨hr, hactive⟩ := List.mem_filter.mp (hrows.mem_iff.mp hr)
    simp only [Bool.and_eq_true] at hactive
    exact ⟨Table.mem_rows.mp hr, hactive.1⟩
  refine escalateDue_done hrely rows [] ∅ after ?_ (by simp) ?_ (SweepDone.nil after)
  · refine (hrows.map Prod.fst).nodup_iff.mpr ?_
    exact after.committed.nodup_rows_ids.sublist (List.filter_sublist.map Prod.fst)
  · intro row hr
    obtain ⟨hc, hactive⟩ := hmem row hr
    refine ⟨⟨row.2, hc, rfl⟩, fun old ho hresolved => ?_⟩
    obtain ⟨new, hn, -, hstays⟩ := (hrely _ _ hafter.1).rows row.1 old ho
    obtain rfl := Option.some.inj (hc.symm.trans hn)
    exact (Alert.isActive_iff _).mp hactive (hstays hresolved)

theorem SweepDone.changes {world : AlertWorld} {writes : Table Nat Alert}
    {actions : List PendingEscalation} (h : SweepDone catalog begunOn world writes actions)
    (now : Nat) : ChangesOnly (.sweep catalog) now world writes := by
  intro id row hrow
  obtain ⟨action, ha, rfl⟩ := h.covered id (Table.mem_of_lookup hrow)
  obtain ⟨alert, steps, he⟩ := h.each action ha
  obtain rfl := Option.some.inj (hrow.symm.trans he.written)
  rw [he.committed]
  exact .escalated ..

-- The one specification of every transaction on the alerts table, whatever the
-- others do to it within `Later`.
theorem alertService_done (hrely : ∀ before after, rely before after → Later before after)
    (texts : ReasonTexts) (call : AlertCall) (world : AlertWorld) :
    ((alertService texts).body call world.clock).wp rely inv
      (CallDone call world.committed world.clock) ∅ world := by
  have hdone : ∀ {α : Type} {prog : AlertProg α} {reply : α → AlertReply},
      (∀ catalog, call ≠ .sweep catalog) → (∀ value, (reply value).actions = []) →
      prog.wp rely inv (fun after writes _ => ChangesOnly call world.clock after writes) ∅ world →
      (prog.map reply).wp rely inv (CallDone call world.committed world.clock) ∅ world :=
    fun hcall hreply hwp => Prog.wp.map (hwp.mono fun _ _ _ _ hchanges =>
      ⟨hchanges, fun catalog hc => absurd hc (hcall catalog), fun _ => hreply _⟩)
  cases call with
  | evaluate reads monitor result =>
      exact hdone (by simp) (fun _ => rfl) (applyToDatabase_changes texts reads monitor result _ world)
  | linkTicketOnCreate alertId ticketId =>
      exact hdone (by simp) (fun _ => rfl) (linkTicketOnCreate_changes alertId ticketId _ world)
  | acknowledge id =>
      exact hdone (by simp) (fun _ => rfl) (transition_changes id _ _ world fun row => .acknowledged ..)
  | resolve id =>
      exact hdone (by simp) (fun _ => rfl) (transition_changes id _ _ world fun row => .resolvedByHand ..)
  | linkTicket id ticketId ticketExists =>
      exact hdone (by simp) (fun _ => rfl) (linkTicket_changes id ticketId ticketExists _ world)
  | sweep catalog =>
      refine Prog.wp.map ((sweepTenant_done hrely world).mono fun after writes actions _ h => ?_)
      refine ⟨h.changes _, fun other ho => ?_, fun hc => absurd rfl (hc catalog)⟩
      obtain rfl := AlertCall.sweep.inj ho
      exact h

end Sweep

end CloudOps.Monitoring
