import RoxabiFactory.CliSessionHistory

/-!
# Sessions that outlive their CLI subprocesses

The session that is due for a pool is known by its entry, or is in the table,
or has been taken by a spawn in progress.  Every step that keeps the sessions
keeps this, so every spawn resumes the session that is due.
-/

namespace RoxabiFactory

namespace CliPool

section DropEntry

variable {state : State} {poolId other : String} {preserve : Bool}

theorem dropEntry_table_of_ne (different : other ≠ poolId) :
    (state.dropEntry poolId preserve).resumeSessionIds.lookup other =
      state.resumeSessionIds.lookup other := by
  unfold State.dropEntry
  dsimp only
  split
  · split
    · exact OrderedDict.lookup_assign_ne different
    · rfl
  · exact AList.lookup_erase_ne different

theorem dropEntry_table_of_entry {process : Nat} {sessionId : Json}
    (found : state.entries.lookup poolId = some process)
    (known : (state.processes process).sessionId = some sessionId) :
    (state.dropEntry poolId true).resumeSessionIds.lookup poolId =
      some sessionId := by
  unfold State.dropEntry
  rw [found, Option.bind_some, known]
  exact OrderedDict.lookup_assign

theorem dropEntry_table_of_none (unknown : ∀ process, state.entries.lookup poolId = some process →
      (state.processes process).sessionId = none) :
    (state.dropEntry poolId true).resumeSessionIds =
      state.resumeSessionIds := by
  unfold State.dropEntry
  cases found : state.entries.lookup poolId with
  | none => rfl
  | some process =>
    rw [Option.bind_some, unknown process found]
    rfl

end DropEntry

theorem Tracked.reported_discards_self (tracked : Tracked) (poolId : String) :
    (tracked.record (.discards poolId)).reported poolId = none :=
  Function.update_self ..

theorem Tracked.reported_discards_of_ne {tracked : Tracked}
    {poolId other : String} (different : other ≠ poolId) :
    (tracked.record (.discards poolId)).reported other = tracked.reported other :=
  Function.update_of_ne different ..

namespace Continued

variable {tracked : Tracked} {after : State} {task process : Nat}
variable {point : Task} {call : TurnCall} {settings : Settings}
variable {next : AfterKill} {outcome : Outcome} {poolId : String}

theorem same (continued : Continued tracked) (same : SameSessions tracked.state after) :
    Continued { tracked with state := after } where
  carries pool sessionId due := by
    unfold Tracked.Carries
    dsimp only
    rw [same.entries, same.table]
    rcases continued.carries pool sessionId due with
      ⟨process, found, known⟩ | stored | ⟨task, process, spawns, pool, resumes⟩
    · refine .inl ⟨process, found, ?_⟩
      rw [same.sessionId, same.resumedFrom]
      exact known
    · exact .inr (.inl stored)
    · refine .inr (.inr ⟨task, process, ?_⟩)
      rw [same.spawning, same.poolId, same.resumedFrom]
      exact ⟨spawns, pool, resumes⟩
  entry pool process sessionId := by
    dsimp only
    rw [same.entries, same.sessionId]
    exact continued.entry pool process sessionId
  fresh task process := by
    dsimp only
    rw [same.spawning, same.sessionId]
    exact continued.fresh task process
  spawns := continued.spawns

theorem discard (continued : Continued tracked) (poolId : String) :
    Continued (tracked.record (.discards poolId)) where
  carries pool sessionId due := by
    by_cases same : pool = poolId
    · rw [same, Tracked.reported_discards_self] at due
      cases due
    · rw [Tracked.reported_discards_of_ne same] at due
      exact continued.carries pool sessionId due
  entry pool process sessionId found known saved dueId due := by
    by_cases same : pool = poolId
    · rw [same, Tracked.reported_discards_self] at due
      cases due
    · rw [Tracked.reported_discards_of_ne same] at due
      exact continued.entry pool process sessionId found known saved dueId due
  fresh := continued.fresh
  spawns := continued.spawns

theorem dropEntry (continued : Continued tracked) {preserve : Bool}
    (keeps : (tracked.reported poolId).isSome = true →
      (preserve = true → tracked.entrySaved poolId = true) ∧
      (preserve = false → tracked.entryEmpty poolId = true ∧
        tracked.state.resumeSessionIds.lookup poolId = none)) :
    Continued { tracked with state := tracked.state.dropEntry poolId preserve } where
  carries pool sessionId due := by
    by_cases same : pool = poolId
    · subst same
      obtain ⟨saved, empty⟩ := keeps (by rw [due]; rfl)
      cases preserve with
      | true =>
        have saved := saved rfl
        rcases continued.carries pool sessionId due with
          ⟨process, found, known⟩ | stored | spawning
        · simp only [Tracked.entrySaved, found, Option.all_some,
            Bool.and_eq_true, Bool.not_eq_true', Bool.or_eq_true] at saved
          rcases known with unsaved | recorded | ⟨fresh, resumed⟩
          · rw [unsaved] at saved
            cases saved.1
          · exact .inr (.inl (dropEntry_table_of_entry found recorded))
          · rw [fresh, resumed] at saved
            simp at saved
        · refine .inr (.inl ?_)
          cases found : tracked.state.entries.lookup pool with
          | none =>
            rw [dropEntry_table_of_none (by simp [found])]
            exact stored
          | some process =>
            cases recorded : (tracked.state.processes process).sessionId with
            | none =>
              rw [dropEntry_table_of_none (by simp [found, recorded])]
              exact stored
            | some other =>
              simp only [Tracked.entrySaved, found, Option.all_some,
                Bool.and_eq_true, Bool.not_eq_true'] at saved
              rw [continued.entry pool process other found recorded saved.1 sessionId due]
              exact dropEntry_table_of_entry found recorded
        · exact .inr (.inr spawning)
      | false =>
        obtain ⟨empty, noStored⟩ := empty rfl
        rcases continued.carries pool sessionId due with
          ⟨process, found, known⟩ | stored | spawning
        · simp only [Tracked.entryEmpty, found, Option.all_some,
            Bool.and_eq_true, Bool.not_eq_true',
            Option.isNone_iff_eq_none] at empty
          obtain ⟨⟨saved, unknown⟩, unresumed⟩ := empty
          simp [saved, unknown, unresumed] at known
        · rw [noStored] at stored
          cases stored
        · exact .inr (.inr spawning)
    · rcases continued.carries pool sessionId due with
        ⟨process, found, known⟩ | stored | spawning
      · exact .inl ⟨process, (AList.lookup_erase_ne same).trans found, known⟩
      · exact .inr (.inl ((dropEntry_table_of_ne same).trans stored))
      · exact .inr (.inr spawning)
  entry pool process sessionId found := continued.entry pool process sessionId
      (OrderedDict.lookup_eq_of_lookup_erase found)
  fresh := continued.fresh
  spawns := continued.spawns

theorem kill (continued : Continued tracked) {preserve : Bool}
    (free : (tracked.state.tasks task).spawning = none)
    (keeps : (tracked.reported poolId).isSome = true →
      (preserve = true → tracked.entrySaved poolId = true) ∧
      (preserve = false → tracked.entryEmpty poolId = true ∧
        tracked.state.resumeSessionIds.lookup poolId = none)) :
    Continued
      { tracked with
        state := tracked.state.kill task poolId preserve next } := by
  have dropped : Continued { tracked with state := tracked.state.dropEntry poolId preserve } :=
    continued.dropEntry keeps
  refine dropped.same ?_
  have moved : ∀ point : Task, point.spawning = none →
      SameSessions (tracked.state.dropEntry poolId preserve)
        ((tracked.state.dropEntry poolId preserve).setTask task point) :=
    fun point spawning => SameSessions.move free spawning
  unfold State.kill
  split
  · exact moved _ rfl
  · split
    · exact (moved _ rfl).trans ⟨rfl, rfl, fun _ => rfl, fun _ => rfl, fun _ => rfl, fun _ => rfl⟩
    · exact moved _ rfl

theorem stored_of_sessionsKept (continued : Continued tracked) (wf : WellFormed tracked.state)
    (reached : tracked.state.tasks task = .spawn call)
    (kept : SessionsKept settings tracked (.resume task outcome))
    {sessionId : Json} (due : tracked.reported call.poolId = some sessionId) :
    tracked.state.resumeSessionIds.lookup call.poolId = some sessionId ∧
      State.commandBuilds (tracked.state.newProcess call) = true := by
  simp only [SessionsKept, reached] at kept
  obtain ⟨empty, others, builds⟩ := kept (by rw [due]; rfl)
  refine ⟨?_, builds⟩
  rcases continued.carries call.poolId sessionId due with
    ⟨process, found, known⟩ | stored | ⟨other, process, spawns, pool, resumes⟩
  · simp only [Tracked.entryEmpty, found, Option.all_some, Bool.and_eq_true,
      Bool.not_eq_true', Option.isNone_iff_eq_none] at empty
    obtain ⟨⟨saved, unknown⟩, unresumed⟩ := empty
    simp [saved, unknown, unresumed] at known
  · exact stored
  · have active : other < tracked.state.started := wf.lt_started fun gone => by
      rw [gone] at spawns
      cases spawns
    have allowed := others other active
    rw [spawns, Option.all_some, resumes, pool] at allowed
    simp at allowed

theorem spawn (continued : Continued tracked) (wf : WellFormed tracked.state)
    (reached : tracked.state.tasks task = .spawn call)
    (kept : SessionsKept settings tracked (.resume task outcome)) :
    Continued
      { tracked.record (tracked.state.sessionEvent settings (.resume task outcome)) with
        state := tracked.state.spawn task call } := by
  have stored : ∀ sessionId, tracked.reported call.poolId = some sessionId →
      tracked.state.resumeSessionIds.lookup call.poolId = some sessionId ∧
        State.commandBuilds (tracked.state.newProcess call) = true :=
    fun _ due => continued.stored_of_sessionsKept wf reached kept due
  have known : ∀ {other process}, (tracked.state.tasks other).spawning = some process →
        process ≠ tracked.state.spawned :=
    fun spawns =>
      Nat.ne_of_lt (wf.mentioned _ _ (Task.mentions_of_spawning spawns))
  have registered : ∀ {pool process}, tracked.state.entries.lookup pool = some process →
        process ≠ tracked.state.spawned :=
    fun found => Nat.ne_of_lt (wf.entry _ _ found).1
  have idle : ∀ {other process},
      (tracked.state.tasks other).spawning = some process → other ≠ task := by
    rintro other process spawns rfl
    rw [reached] at spawns
    cases spawns
  have grown : Continued { tracked with state := tracked.state.spawn task call } :=
    { carries := fun pool sessionId due => by
        by_cases same : pool = call.poolId
        · subst same
          obtain ⟨resumed, builds⟩ := stored sessionId due
          refine .inr (.inr ⟨task, tracked.state.spawned, ?_⟩)
          rw [spawn_tasks_self, if_pos builds, spawn_processes_new]
          exact ⟨rfl, rfl, resumed⟩
        · rcases continued.carries pool sessionId due with
            ⟨process, found, known⟩ | stored | ⟨other, process, spawns, other'⟩
          · refine .inl ⟨process, found, ?_⟩
            rw [spawn_processes_of_ne (registered found)]
            exact known
          · exact .inr (.inl ((AList.lookup_erase_ne same).trans stored))
          · refine .inr (.inr ⟨other, process, ?_⟩)
            rw [spawn_tasks_of_ne (idle spawns), spawn_processes_of_ne (known spawns)]
            exact ⟨spawns, other'⟩
      entry := fun pool process sessionId found => by
        dsimp only
        rw [spawn_processes_of_ne (registered found)]
        exact continued.entry pool process sessionId found
      fresh := fun other process spawns => by
        dsimp only at spawns ⊢
        by_cases same : other = task
        · rw [same, spawn_tasks_self] at spawns
          split at spawns
          · obtain rfl := Option.some.inj spawns
            rw [spawn_processes_new]
            rfl
          · cases spawns
        · rw [spawn_tasks_of_ne same] at spawns
          rw [spawn_processes_of_ne (known spawns)]
          exact continued.fresh other process spawns
      spawns := continued.spawns }
  simp only [State.sessionEvent, reached]
  split
  · refine ⟨grown.carries, grown.entry, grown.fresh, ?_⟩
    intro spawn member sessionId due
    rcases List.mem_append.mp member with earlier | new
    · exact continued.spawns spawn earlier sessionId due
    · obtain rfl := List.mem_singleton.mp new
      exact (stored sessionId due).1
  · exact grown

/-- A spawn ends when its process is registered, or when it has taken no
session that is due. -/
theorem release (continued : Continued tracked) (settled : ∀ process sessionId,
      (tracked.state.tasks task).spawning = some process →
        (tracked.state.processes process).resumedFrom = some sessionId →
          tracked.reported (tracked.state.processes process).poolId = some sessionId →
            tracked.state.Registered process)
    (spawning : point.spawning = none) :
    Continued { tracked with state := tracked.state.setTask task point } where
  carries pool sessionId due := by
    rcases continued.carries pool sessionId due with
      known | stored | ⟨other, process, spawns, rfl, resumes⟩
    · exact .inl known
    · exact .inr (.inl stored)
    · by_cases same : other = task
      · subst same
        have registered := settled process sessionId spawns resumes due
        exact .inl ⟨process, registered, .inr (.inr
          ⟨continued.fresh other process spawns, resumes⟩)⟩
      · refine .inr (.inr ⟨other, process, ?_, rfl, resumes⟩)
        dsimp only
        rw [State.setTask_tasks_of_ne same]
        exact spawns
  entry := continued.entry
  fresh other process spawns := by
    dsimp only at spawns
    by_cases same : other = task
    · rw [same, State.setTask_tasks_self, spawning] at spawns
      cases spawns
    · rw [State.setTask_tasks_of_ne same] at spawns
      exact continued.fresh other process spawns
  spawns := continued.spawns

theorem abandon (continued : Continued tracked)
    (idle : tracked.spawnIdle task = true) (spawning : point.spawning = none) :
    Continued { tracked with state := tracked.state.setTask task point } := by
  refine continued.release (fun process sessionId spawns resumes due => ?_) spawning
  rw [Tracked.spawnIdle, spawns, Option.all_some] at idle
  simp [resumes, due] at idle

/-- A process that is still being spawned takes the place of an entry that
knows of no session. -/
theorem assign (continued : Continued tracked)
    (unknown : (tracked.state.processes process).sessionId = none)
    (empty : (tracked.reported (tracked.state.processes process).poolId).isSome = true →
      tracked.entryEmpty (tracked.state.processes process).poolId = true) :
    Continued
      { tracked with
        state := { tracked.state with
          entries := tracked.state.entries.assign
            (tracked.state.processes process).poolId process } } where
  carries pool sessionId due := by
    rcases continued.carries pool sessionId due with
      ⟨other, found, known⟩ | elsewhere
    · by_cases same : pool = (tracked.state.processes process).poolId
      · subst same
        have empty := empty (by rw [due]; rfl)
        simp only [Tracked.entryEmpty, found, Option.all_some, Bool.and_eq_true, Bool.not_eq_true',
          Option.isNone_iff_eq_none] at empty
        obtain ⟨⟨saved, unknown⟩, unresumed⟩ := empty
        simp [saved, unknown, unresumed] at known
      · exact .inl ⟨other, (OrderedDict.lookup_assign_ne same).trans found, known⟩
    · exact .inr elsewhere
  entry pool other sessionId found recorded := by
    by_cases same : pool = (tracked.state.processes process).poolId
    · subst same
      dsimp only at found
      rw [OrderedDict.lookup_assign, Option.some.injEq] at found
      subst found
      rw [unknown] at recorded
      cases recorded
    · dsimp only at found
      rw [OrderedDict.lookup_assign_ne same] at found
      exact continued.entry pool other sessionId found recorded
  fresh := continued.fresh
  spawns := continued.spawns

theorem probeAlive (continued : Continued tracked)
    (reached : tracked.state.tasks task = .spawnProbe call process)
    (empty : (tracked.reported (tracked.state.processes process).poolId).isSome = true →
      tracked.entryEmpty (tracked.state.processes process).poolId = true) :
    Continued
      { tracked with
        state := (tracked.state.setTask task (.acquire call process)).register process } := by
  have spawns : (tracked.state.tasks task).spawning = some process := by
    rw [reached]
    rfl
  have enrolled := continued.assign (continued.fresh task process spawns) empty
  have moved : Continued
      { tracked with
        state := State.setTask { tracked.state with
          entries := tracked.state.entries.assign
            (tracked.state.processes process).poolId process } task (.acquire call process) } := by
    refine enrolled.release (fun other sessionId launches _ _ => ?_) rfl
    rw [spawns] at launches
    obtain rfl := Option.some.inj launches
    exact OrderedDict.lookup_assign
  have touched : SameSessions _ (State.modify (State.setTask { tracked.state with
      entries := tracked.state.entries.assign
        (tracked.state.processes process).poolId process } task
          (.acquire call process)) process fun entry =>
            { entry with lastActivity := tracked.state.clock }) :=
    SameSessions.modify rfl rfl rfl
  exact moved.same touched

/-- `resume_direct` sets the session of a pool for which none is due. -/
theorem storeResume (continued : Continued tracked) {sessionId : Json}
    (free : (tracked.state.tasks task).spawning = none)
    (undue : tracked.reported poolId = none) :
    Continued
      { tracked with
        state := { tracked.state with
          resumeSessionIds := tracked.state.resumeSessionIds.assign poolId
            sessionId }.setTask task .done } := by
  have stored : Continued
      { tracked with
        state := { tracked.state with
          resumeSessionIds := tracked.state.resumeSessionIds.assign poolId sessionId } } :=
    { carries := fun pool other due => by
        have different : pool ≠ poolId := by
          rintro rfl
          rw [undue] at due
          cases due
        rcases continued.carries pool other due with known | stored | spawning
        · exact .inl known
        · exact .inr (.inl ((OrderedDict.lookup_assign_ne different).trans stored))
        · exact .inr (.inr spawning)
      entry := continued.entry
      fresh := continued.fresh
      spawns := continued.spawns }
  exact stored.same (SameSessions.move free rfl)

theorem carries_updateSessionId {sessionId due : Json} {unsaved : Nat → Bool}
    {reported : String → Option Json}
    (carries : tracked.Carries poolId due)
    (other : ∀ registered, tracked.state.entries.lookup poolId =
      some registered → registered ≠ process)
    (same : ∀ registered, registered ≠ process → unsaved registered = tracked.unsaved registered) :
    ({ tracked with
      state := tracked.state.updateSessionId process sessionId
      unsaved := unsaved
      reported := reported } : Tracked).Carries poolId due := by
  rcases carries with
    ⟨registered, found, known⟩ | stored | ⟨task, spawned, spawns, pool, resumes⟩
  · refine .inl ⟨registered, found, ?_⟩
    dsimp only
    rw [same registered (other registered found), State.updateSessionId,
      State.modify_processes_of_ne (other registered found)]
    exact known
  · exact .inr (.inl stored)
  · refine .inr (.inr ⟨task, spawned, spawns, ?_⟩)
    dsimp only
    by_cases isProcess : spawned = process
    · subst isProcess
      rw [State.updateSessionId, State.modify_processes_self]
      exact ⟨pool, resumes⟩
    · rw [State.updateSessionId, State.modify_processes_of_ne isProcess]
      exact ⟨pool, resumes⟩

/-- A session id is read from the registered process of the pool, or is the
one that is due. -/
theorem reports (continued : Continued tracked) (wf : WellFormed tracked.state) {report : Report}
    (truthy : report.sessionId.truthy = true)
    (settled : ∀ task, (tracked.state.tasks task).spawning ≠ some report.process)
    (current : tracked.state.Registered report.process ∨
      tracked.reported (tracked.state.processes report.process).poolId = some report.sessionId)
    {sessionId : Json}
    (recorded : report.saved = true → sessionId = report.sessionId) :
    Continued
      { tracked.record (.reports report) with
        state := tracked.state.updateSessionId report.process sessionId } := by
  have unsavedOther : ∀ other, other ≠ report.process →
      (tracked.record (.reports report)).unsaved other = tracked.unsaved other :=
    fun other different => Function.update_of_ne different ..
  have unsavedSelf : (tracked.record (.reports report)).unsaved report.process =
        !report.saved :=
    Function.update_self ..
  have reportedSelf : (tracked.record (.reports report)).reported
      (tracked.state.processes report.process).poolId = some report.sessionId :=
    Function.update_self ..
  have reportedOther : ∀ pool, pool ≠ (tracked.state.processes report.process).poolId →
        (tracked.record (.reports report)).reported pool = tracked.reported pool :=
    fun pool different => Function.update_of_ne different ..
  have poolOf : ∀ {pool other}, tracked.state.entries.lookup pool =
      some other → (tracked.state.processes other).poolId = pool :=
    fun found => (wf.entry _ _ found).2
  exact
    { carries := fun pool due isDue => by
        dsimp only at isDue
        by_cases same : pool = (tracked.state.processes report.process).poolId
        · subst same
          rw [reportedSelf] at isDue
          obtain rfl := Option.some.inj isDue
          by_cases registered : tracked.state.Registered report.process
          · refine .inl ⟨report.process, registered, ?_⟩
            dsimp only
            rw [unsavedSelf, State.updateSessionId, State.modify_processes_self]
            cases saved : report.saved with
            | false => exact .inl rfl
            | true =>
              rw [recorded saved]
              exact .inr (.inl (if_pos truthy))
          · have before := continued.carries _ _ (current.resolve_left registered)
            refine carries_updateSessionId before (fun other found => ?_) unsavedOther
            rintro rfl
            exact registered found
        · rw [reportedOther pool same] at isDue
          refine carries_updateSessionId (continued.carries pool due isDue)
            (fun other found => ?_) unsavedOther
          rintro rfl
          exact same (poolOf found).symm
      entry := fun pool other known found has saved due isDue => by
        dsimp only at found has saved isDue
        by_cases isProcess : other = report.process
        · subst isProcess
          rw [← poolOf found, reportedSelf] at isDue
          rw [unsavedSelf] at saved
          have isSaved : report.saved = true := by simpa using saved
          rw [State.updateSessionId, State.modify_processes_self,
            recorded isSaved, if_pos truthy] at has
          exact Option.some.inj (isDue.symm.trans has)
        · rw [State.updateSessionId, State.modify_processes_of_ne isProcess] at has
          rw [unsavedOther other isProcess] at saved
          refine continued.entry pool other known found has saved due ?_
          by_cases same : pool = (tracked.state.processes report.process).poolId
          · subst same
            rw [reportedSelf] at isDue
            rw [← isDue]
            refine current.resolve_left fun registered => isProcess ?_
            exact Option.some.inj (found.symm.trans registered)
          · rw [← reportedOther pool same]
            exact isDue
      fresh := fun task spawned spawns => by
        dsimp only at spawns ⊢
        have different : spawned ≠ report.process := by
          rintro rfl
          exact settled task spawns
        rw [State.updateSessionId, State.modify_processes_of_ne different]
        exact continued.fresh task spawned spawns
      spawns := continued.spawns }

theorem updateSessionId (continued : Continued tracked)
    (settled : ∀ task, (tracked.state.tasks task).spawning ≠ some process)
    {sessionId : Json}
    (repeats : tracked.state.Registered process → sessionId.truthy = true →
      (tracked.state.processes process).sessionId = some sessionId)
    (wf : WellFormed tracked.state) :
    Continued
      { tracked with
        state := tracked.state.updateSessionId process sessionId } := by
  by_cases registered : tracked.state.Registered process
  · refine continued.same (SameSessions.modify rfl ?_ rfl)
    by_cases truthy : sessionId.truthy = true
    · dsimp only
      rw [if_pos truthy, repeats registered truthy]
    · exact if_neg truthy
  · have other : ∀ {pool registered'}, tracked.state.entries.lookup pool = some registered' →
          registered' ≠ process := by
      rintro pool registered' found rfl
      refine registered ?_
      rw [State.Registered, (wf.entry _ _ found).2]
      exact found
    exact
      { carries := fun pool due isDue =>
          carries_updateSessionId (continued.carries pool due isDue)
            (fun _ found => other found) fun _ _ => rfl
        entry := fun pool third known found => by
          dsimp only at found ⊢
          rw [State.updateSessionId, State.modify_processes_of_ne (other found)]
          exact continued.entry pool third known found
        fresh := fun task spawned spawns => by
          dsimp only at spawns ⊢
          have different : spawned ≠ process := by
            rintro rfl
            exact settled task spawns
          rw [State.updateSessionId, State.modify_processes_of_ne different]
          exact continued.fresh task spawned spawns
        spawns := continued.spawns }

theorem settled_of_mentions {state : State} (wf : WellFormed state)
    (mentions : (state.tasks task).Mentions process)
    (free : (state.tasks task).spawning = none) (other : Nat) :
    (state.tasks other).spawning ≠ some process := by
  by_cases same : other = task
  · rw [same, free]
    nofun
  · exact (wf.usable_of_mentions mentions).2 other same

/-- A turn reads a line, and the entry gets the session that the line
reports, or the one that the turn already has. -/
theorem readsLine (continued : Continued tracked) (wf : WellFormed tracked.state)
    (settled : ∀ other, (tracked.state.tasks other).spawning ≠ some process)
    (current : tracked.readsCurrent settings task) {sessionId : Json}
    (saved : ∀ report, tracked.state.report settings task = some report →
      report.process = process ∧ report.sessionId.truthy = true ∧
        (report.saved = true → sessionId = report.sessionId))
    (repeats : tracked.state.report settings task = none →
      tracked.state.Registered process → sessionId.truthy = true →
        (tracked.state.processes process).sessionId = some sessionId) :
    Continued
      { tracked.record (.ofReport (tracked.state.report settings task)) with
        state := tracked.state.updateSessionId process sessionId } := by
  unfold Tracked.readsCurrent at current
  cases reports : tracked.state.report settings task with
  | none => exact continued.updateSessionId settled (repeats reports) wf
  | some report =>
    obtain ⟨rfl, truthy, recorded⟩ := saved report reports
    rw [reports] at current
    exact continued.reports wf truthy settled current recorded

theorem resumeReading (continued : Continued tracked)
    (wf : WellFormed tracked.state) {reading : BlockingReader}
    (reached : tracked.state.tasks task = .reading call process reading)
    (kept : SessionsKept settings tracked (.resume task outcome))
    (stepTo : tracked.state.resumeReading settings task call process reading outcome = some after) :
    Continued
      { tracked.record (tracked.state.sessionEvent settings
          (.resume task outcome)) with state := after } := by
  have free : (tracked.state.tasks task).spawning = none := by
    rw [reached]
    rfl
  have mentions : (tracked.state.tasks task).Mentions process := by
    rw [reached]
    exact .inl rfl
  have settled := settled_of_mentions wf mentions free
  by_cases isLine : outcome = .line
  · subst isLine
    obtain ⟨output, head, rfl⟩ := Option.map_eq_some_iff.mp stepTo
    have same : SameSessions (tracked.state.updateSessionId process
          (reading.reader.reportedSession output.line))
        (((tracked.state.setTask task (reading.next call process
          output)).popLine process).updateSessionId process
            (reading.reader.reportedSession output.line)) := by
      refine SameSessions.updateSessionId ?_ process _
      refine (SameSessions.move free ?_).trans (SameSessions.modify rfl rfl rfl)
      unfold BlockingReader.next
      split <;> rfl
    have current : tracked.readsCurrent settings task := by
      simpa only [SessionsKept, reached] using kept
    have event : tracked.state.sessionEvent settings (.resume task .line) =
        .ofReport (tracked.state.report settings task) := by
      simp only [State.sessionEvent, reached]
    have reports : tracked.state.report settings task =
        reading.report process output.line := by
      simp only [State.report, reached, head, Option.bind_some]
    suffices learned : Continued
        { tracked.record (tracked.state.sessionEvent settings (.resume task .line)) with
          state := tracked.state.updateSessionId process
            (reading.reader.reportedSession output.line) } from
      learned.same same
    rw [event]
    refine continued.readsLine wf settled current (fun report found => ?_) fun silent _ truthy => ?_
    · rw [reports, BlockingReader.report] at found
      split at found
      · rename_i truthy
        obtain rfl := Option.some.inj found
        exact ⟨rfl, truthy, fun _ => rfl⟩
      · split at found
        · split at found
          · rename_i new
            obtain rfl := Option.some.inj found
            exact ⟨rfl, new.1, by rintro ⟨⟩⟩
          · cases found
        · cases found
    · rw [reports, BlockingReader.report] at silent
      rw [if_pos truthy] at silent
      cases silent
  · have event : tracked.state.sessionEvent settings (.resume task outcome) =
        .nothing := by
      cases outcome with
      | line => exact absurd rfl isLine
      | _ => simp only [State.sessionEvent, reached]
    rw [event]
    exact continued.same (SameSessions.resumeReading free isLine stepTo)

theorem resumeStreaming (continued : Continued tracked)
    (wf : WellFormed tracked.state) {reading : StreamReader}
    (reached : tracked.state.tasks task = .streaming process reading)
    (kept : SessionsKept settings tracked (.resume task outcome))
    (stepTo : tracked.state.resumeStreaming settings task process reading outcome = some after) :
    Continued
      { tracked.record (tracked.state.sessionEvent settings
          (.resume task outcome)) with state := after } := by
  have free : (tracked.state.tasks task).spawning = none := by
    rw [reached]
    rfl
  have mentions : (tracked.state.tasks task).Mentions process := by
    rw [reached]
    exact .inl rfl
  have settled := settled_of_mentions wf mentions free
  by_cases isLine : outcome = .line
  · subst isLine
    obtain ⟨output, head, rfl⟩ := Option.map_eq_some_iff.mp stepTo
    have same : SameSessions (tracked.state.updateSessionId process
          ((reading.read settings.tools output.line).sessionId.getD .null))
        ((((tracked.state.setTask task (reading.next settings.tools process
          output)).popLine process).updateSessionId process
            ((reading.read settings.tools output.line).sessionId.getD
              .null)).deliver task (reading.sources ++ [output.turn])
                ((reading.read settings.tools output.line).events.map .event)) := by
      refine (SameSessions.updateSessionId ?_ process _).trans (SameSessions.deliver _ _ _)
      refine (SameSessions.move free ?_).trans (SameSessions.modify rfl rfl rfl)
      unfold StreamReader.next
      split
      · rfl
      · split <;> rfl
    have current : tracked.readsCurrent settings task := by
      simpa only [SessionsKept, reached] using kept
    have event : tracked.state.sessionEvent settings (.resume task .line) =
        .ofReport (tracked.state.report settings task) := by
      simp only [State.sessionEvent, reached]
    have reports : tracked.state.report settings task =
        reading.report settings.tools process output.line := by
      simp only [State.report, reached, head, Option.bind_some]
    suffices learned : Continued
        { tracked.record (tracked.state.sessionEvent settings (.resume task .line)) with
          state := tracked.state.updateSessionId process
            ((reading.read settings.tools output.line).sessionId.getD .null) } from
      learned.same same
    rw [event]
    refine continued.readsLine wf settled current
      (fun report found => ?_) fun silent registered truthy => ?_
    · rw [reports, StreamReader.report] at found
      obtain ⟨sessionId, read, known⟩ := Option.bind_eq_some_iff.mp found
      split at known
      · rename_i new
        obtain rfl := Option.some.inj known
        refine ⟨rfl, new.1, fun _ => ?_⟩
        rw [read]
        rfl
      · cases known
    · unfold Tracked.readsCurrent at current
      rw [silent] at current
      simp only [reached] at current
      rw [reports, StreamReader.report] at silent
      cases read : (reading.read settings.tools output.line).sessionId with
      | none =>
        rw [read] at truthy
        cases truthy
      | some sessionId =>
        rw [read, Option.getD_some] at truthy
        rw [read, Option.bind_some] at silent
        have repeated : reading.parser.sessionId = some sessionId := by
          by_contra new
          rw [if_pos ⟨truthy, fun same => new same.symm⟩] at silent
          cases silent
        exact current registered sessionId repeated
  · have event : tracked.state.sessionEvent settings (.resume task outcome) =
        .nothing := by
      cases outcome with
      | line => exact absurd rfl isLine
      | _ => simp only [State.sessionEvent, reached]
    rw [event]
    exact continued.same (SameSessions.resumeStreaming free isLine stepTo)

theorem afterKill (continued : Continued tracked)
    (reached : tracked.state.tasks task = .killed next) :
    Continued
      { tracked.record (tracked.state.sessionEvent settings (.resume task outcome)) with
        state := tracked.state.afterKill settings task next } := by
  have free : (tracked.state.tasks task).spawning = none := by
    rw [reached]
    rfl
  by_cases stores : ∃ poolId sessionId, next = .storeResume poolId sessionId
  · obtain ⟨poolId, sessionId, rfl⟩ := stores
    simp only [State.sessionEvent, reached]
    exact (continued.discard poolId).storeResume free (tracked.reported_discards_self poolId)
  · have quiet : (tracked.state.tasks task).staysQuiet = true := by
      rw [reached]
      cases next with
      | storeResume poolId sessionId => exact absurd ⟨_, _, rfl⟩ stores
      | _ => rfl
    rw [sessionEvent_of_staysQuiet quiet]
    exact continued.same (SameSessions.afterKill free
      fun poolId sessionId same => stores ⟨poolId, sessionId, same⟩)

theorem quiet (continued : Continued tracked) {before : Task}
    (reached : tracked.state.tasks task = before)
    (stays : before.staysQuiet = true)
    (same : SameSessions tracked.state after) :
    Continued
      { tracked.record (tracked.state.sessionEvent settings
          (.resume task outcome)) with state := after } := by
  subst reached
  rw [sessionEvent_of_staysQuiet stays]
  exact continued.same same

theorem ends {before : Task} (reached : tracked.state.tasks task = before)
    (stays : before.staysQuiet = true)
    (ended : Continued { tracked with state := after }) :
    Continued
      { tracked.record (tracked.state.sessionEvent settings
          (.resume task outcome)) with state := after } := by
  subst reached
  rw [sessionEvent_of_staysQuiet stays]
  exact ended

/-- Every step of a task that keeps the sessions. -/
theorem resumes (continued : Continued tracked) (wf : WellFormed tracked.state)
    (kept : SessionsKept settings tracked (.resume task outcome))
    (step : tracked.state.Resumes settings task outcome after) :
    Continued
      { tracked.record (tracked.state.sessionEvent settings
          (.resume task outcome)) with state := after } := by
  have moves : ∀ {before point : Task}, tracked.state.tasks task = before →
      point.spawning = before.spawning →
        SameSessions tracked.state (tracked.state.setTask task point) :=
    fun reached spawning => SameSessions.setTask (reached ▸ spawning)
  have free : ∀ {before : Task}, tracked.state.tasks task = before → before.spawning = none →
        (tracked.state.tasks task).spawning = none :=
    fun reached none => reached ▸ none
  cases step with
  | attempt reached =>
    exact continued.quiet reached rfl (SameSessions.attempt (free reached rfl))
  | spawn reached => exact continued.spawn wf reached kept
  | @execReady call process reached =>
    have moved : SameSessions tracked.state
        (tracked.state.setTask task (.spawnProbe call process)) :=
      moves reached rfl
    exact continued.quiet reached rfl (moved.trans (SameSessions.modify rfl rfl rfl))
  | @execFailed call process reached fails =>
    have idle : tracked.spawnIdle task = true := by
      cases outcome with
      | ready => exact absurd rfl fails
      | _ => simpa only [SessionsKept, reached] using kept
    exact ends reached rfl ((continued.abandon idle rfl).same (SameSessions.modify rfl rfl rfl))
  | @stderrRead call process reached =>
    have idle : tracked.spawnIdle task = true := by
      simpa only [SessionsKept, reached] using kept
    exact ends reached rfl ((continued.abandon idle rfl).same (SameSessions.modify rfl rfl rfl))
  | probeExited reached _ =>
    exact continued.quiet reached rfl (moves reached rfl)
  | probeAlive reached expired =>
    subst expired
    simp only [SessionsKept, reached] at kept
    exact ends reached rfl (continued.probeAlive reached kept)
  | enter reached _ =>
    rcases reached with reached | reached
    · exact continued.quiet reached rfl (SameSessions.enter (free reached rfl))
    · exact continued.quiet reached rfl (SameSessions.enter (free reached rfl))
  | wait reached => exact continued.quiet reached rfl (moves reached rfl)
  | writing reached stepTo =>
    exact continued.quiet reached rfl (SameSessions.resumeWriting (free reached rfl) stepTo)
  | reading reached stepTo =>
    exact continued.resumeReading wf reached kept stepTo
  | terminated reached => exact continued.quiet reached rfl (moves reached rfl)
  | finishRead reached =>
    exact continued.quiet reached rfl (SameSessions.finishRead (free reached rfl))
  | @notStale _ _ live reached =>
    refine continued.quiet reached rfl (moves reached ?_)
    cases live <;> rfl
  | stale reached _ => exact continued.quiet reached rfl (moves reached rfl)
  | streaming reached stepTo =>
    exact continued.resumeStreaming wf reached kept stepTo
  | @kill poolId preserve next reached =>
    simp only [SessionsKept, reached] at kept
    simp only [State.sessionEvent, reached]
    split
    · refine (continued.discard poolId).kill (free reached rfl) ?_
      rw [tracked.reported_discards_self]
      rintro ⟨⟩
    · rename_i keeps
      exact continued.kill (free reached rfl) (kept (Bool.not_eq_true _ ▸ keeps))
  | killWait reached _ => exact continued.quiet reached rfl (moves reached rfl)
  | @unlink _ next reached =>
    have moved : SameSessions tracked.state (tracked.state.setTask task (.killed next)) :=
      moves reached rfl
    exact continued.quiet reached rfl (moved.trans (SameSessions.modify rfl rfl rfl))
  | killed reached => exact continued.afterKill reached
  | @sweeping rest reached =>
    refine continued.quiet reached rfl ?_
    unfold State.sweepNext
    split
    · exact moves reached rfl
    · exact moves reached rfl
  | onReap reached => exact continued.quiet reached rfl (moves reached rfl)
  | @stopping rest reached =>
    refine continued.quiet reached rfl ?_
    unfold State.stopNext
    split
    · exact moves reached rfl
    · exact moves reached rfl

theorem start (continued : Continued tracked) (wf : WellFormed tracked.state)
    (spawning : point.spawning = none) :
    Continued { tracked with state := tracked.state.start point } := by
  have free : (tracked.state.tasks tracked.state.started).spawning = none := by
    rw [wf.idle tracked.state.started (Nat.le_refl _)]
    rfl
  have moved : SameSessions tracked.state (tracked.state.setTask tracked.state.started point) :=
    SameSessions.move free spawning
  exact continued.same (moved.trans
    ⟨rfl, rfl, fun _ => rfl, fun _ => rfl, fun _ => rfl, fun _ => rfl⟩)

theorem cancel (continued : Continued tracked) (idle : tracked.spawnIdle task = true) :
    Continued { tracked with state := tracked.state.cancel task } := by
  unfold State.cancel
  dsimp only
  split
  · exact continued.abandon idle rfl
  · split
    · exact (continued.abandon idle rfl).same SameSessions.unlock
    · exact continued.abandon idle rfl

theorem stop (continued : Continued tracked) (wf : WellFormed tracked.state)
    (kept : SessionsKept settings tracked .stop) :
    Continued { tracked with state := tracked.state.stop } := by
  unfold State.stop
  dsimp only
  split
  · exact continued.start wf rfl
  · rename_i reaper known
    have cancelled : Continued { tracked with state := tracked.state.cancel reaper } := by
      refine continued.cancel ?_
      simpa [SessionsKept, known] using kept
    split
    · exact cancelled
    · exact cancelled.start (wf.cancel reaper) rfl

theorem syncEvictEntry (continued : Continued tracked) {preserve : Bool}
    (keeps : (tracked.reported poolId).isSome = true →
      (preserve = true → tracked.entrySaved poolId = true) ∧
      (preserve = false → tracked.entryEmpty poolId = true ∧
        tracked.state.resumeSessionIds.lookup poolId = none)) :
    Continued
      { tracked with
        state := tracked.state.syncEvictEntry poolId preserve } := by
  unfold State.syncEvictEntry
  split
  · exact continued.same ⟨rfl, rfl, fun _ => rfl, fun _ => rfl, fun _ => rfl, fun _ => rfl⟩
  · exact continued.dropEntry keeps

theorem perform (continued : Continued tracked) (wf : WellFormed tracked.state) {action : Action}
    (kept : SessionsKept settings tracked action)
    (stepTo : perform settings tracked.state action = some after) :
    Continued
      { tracked.record (tracked.state.sessionEvent settings action) with
        state := after } := by
  cases action with
  | send call | reset poolId | switchCwd poolId cwd =>
    obtain rfl := Option.some.inj stepTo
    exact continued.start wf rfl
  | resumeDirect poolId sessionId =>
    obtain rfl := Option.some.inj stepTo
    unfold State.resumeDirect
    dsimp only
    split
    · exact continued.start wf rfl
    · exact continued.start wf rfl
  | syncEvict poolId preserve =>
    obtain rfl := Option.some.inj stepTo
    cases preserve with
    | true =>
      exact continued.syncEvictEntry fun due => ⟨fun _ => kept rfl due, nofun⟩
    | false =>
      refine (continued.discard poolId).syncEvictEntry ?_
      rw [tracked.reported_discards_self]
      nofun
  | sweep =>
    unfold CliPool.perform at stepTo
    dsimp only at stepTo
    split at stepTo
    · obtain rfl := Option.some.inj stepTo
      have started : Continued
          { tracked with
            state := tracked.state.start (.sweeping (tracked.state.chosen settings)) } :=
        continued.start wf rfl
      exact started.same ⟨rfl, rfl, fun _ => rfl, fun _ => rfl, fun _ => rfl, fun _ => rfl⟩
    · cases stepTo
  | drainCheck =>
    obtain rfl := Option.some.inj stepTo
    unfold State.drainCheck
    split
    · exact continued.same ⟨rfl, rfl, fun _ => rfl, fun _ => rfl, fun _ => rfl, fun _ => rfl⟩
    · exact continued
  | stop =>
    obtain rfl := Option.some.inj stepTo
    exact continued.stop wf kept
  | resume task outcome =>
    exact continued.resumes wf kept (State.resume_resumes stepTo)
  | cancel task =>
    obtain rfl := Option.some.inj stepTo
    exact continued.cancel kept
  | aclose task =>
    unfold CliPool.perform at stepTo
    dsimp only at stepTo
    split at stepTo
    · rename_i process reading reached
      have free : (tracked.state.tasks task).spawning = none := by
        rw [reached]
        rfl
      obtain rfl := Option.some.inj stepTo
      exact continued.same (SameSessions.cleanup free (SameSessions.move free rfl))
    · cases stepTo
  | exit process =>
    unfold CliPool.perform at stepTo
    dsimp only at stepTo
    split at stepTo
    · obtain rfl := Option.some.inj stepTo
      exact continued.same (SameSessions.modify rfl rfl rfl)
    · cases stepTo
  | closeStdout process =>
    obtain rfl := Option.some.inj stepTo
    exact continued.same (SameSessions.modify rfl rfl rfl)
  | emit process line =>
    unfold CliPool.perform State.emit at stepTo
    dsimp only at stepTo
    split at stepTo
    · split at stepTo
      · obtain rfl := Option.some.inj stepTo
        exact continued.same (SameSessions.modify rfl rfl rfl)
      · cases stepTo
    · cases stepTo
  | clock now =>
    obtain rfl := Option.some.inj stepTo
    exact continued.same ⟨rfl, rfl, fun _ => rfl, fun _ => rfl, fun _ => rfl, fun _ => rfl⟩

theorem step (continued : Continued tracked) (wf : WellFormed tracked.state)
    {action : Action} {next : Tracked}
    (kept : SessionsKept settings tracked action)
    (stepTo : tracked.step settings action = some next) : Continued next := by
  obtain ⟨after, stepsTo, rfl⟩ := Option.map_eq_some_iff.mp stepTo
  obtain ⟨performed, performs, rfl⟩ := step_eq_some stepsTo
  exact (continued.perform wf kept performs).same
    ⟨rfl, rfl, fun _ => rfl, fun _ => rfl, fun _ => rfl, fun _ => rfl⟩

end Continued

theorem wellFormed_of_tracked {settings : Settings}
    {admissible : Tracked → Action → Prop} (tracked : Tracked)
    (reached : (trackedSystem settings).ReachableWithin admissible tracked) :
    WellFormed tracked.state := by
  have start : ∀ tracked, (trackedSystem settings).initial tracked →
      WellFormed tracked.state := by
    intro tracked initially
    rw [show tracked = { state := { clock := tracked.state.clock } } from
      initially]
    exact .initially
  refine reached.invariant start fun _ _ _ wf _ stepTo => ?_
  obtain ⟨after, stepsTo, rfl⟩ := Option.map_eq_some_iff.mp stepTo
  exact wellFormed_step wf stepsTo

/-- In every run that keeps the sessions, a process that is spawned while a
session of its pool is due resumes it. -/
theorem sessionsContinued_of_reachable {settings : Settings} {tracked : Tracked}
    (reached : (trackedSystem settings).ReachableWithin (SessionsKept settings) tracked) :
    ∀ spawn ∈ tracked.spawns, ∀ sessionId,
      spawn.due = some sessionId → spawn.resumed = some sessionId := by
  have start : ∀ tracked, (trackedSystem settings).initial tracked →
      Continued tracked := by
    intro tracked initially
    rw [show tracked = { state := { clock := tracked.state.clock } } from
      initially]
    exact
      { carries := nofun
        entry := nofun
        fresh := nofun
        spawns := List.forall_mem_nil _ }
  have continued : Continued tracked := reached.invariant_of_invariant wellFormed_of_tracked start
      fun _ _ _ wf continued kept stepTo => continued.step wf kept stepTo
  exact continued.spawns

/-- A turn on the pool `"p"` that gets the session `"s"` with its result,
before its process exits. -/
def turnOnSession : List Action :=
  spawnAndWrite { streaming := false, poolId := "p" } 0 ++
    [.emit 0 (.json (.obj [(.text "type", .ofString "result"),
        (.text "session_id", .ofString "s")])),
      .resume 0 .line, .resume 0 .ready, .exit 0]

/-- The reaper notices the death of the process before the next turn. -/
theorem sessionsContinued_of_reaped_process : ∃ tracked, (trackedSystem .ascii).ReachableWithin
        (SessionsKept .ascii) tracked ∧
      tracked.spawns.map SessionSpawn.due = [none, some (.ofString "s")] ∧
      ∀ spawn ∈ tracked.spawns, ∀ sessionId,
        spawn.due = some sessionId → spawn.resumed = some sessionId := by
  have found : ∃ tracked, (trackedSystem .ascii).ReachableWithin (SessionsKept .ascii) tracked ∧
      tracked.spawns.map SessionSpawn.due = [none, some (.ofString "s")] :=
    TransitionSystem.exists_reachableWithin_of_checkedRun { state := {} } rfl (turnOnSession ++
        [.sweep, .resume 1 .ready, .resume 1 .ready, .resume 1 .ready,
          .resume 1 .ready, .resume 1 .ready,
          .send { streaming := true, poolId := "p" },
          .resume 2 .ready, .resume 2 .ready])
      (by decide)
  obtain ⟨tracked, reached, due⟩ := found
  exact ⟨tracked, reached, due, sessionsContinued_of_reachable reached⟩

/-- The next turn notices the death of the process itself. -/
theorem exists_session_lost : ∃ tracked, (trackedSystem .ascii).Reachable tracked ∧
      tracked.spawns.map (fun spawn => (spawn.due, spawn.resumed)) =
        [(none, none), (some (.ofString "s"), none)] :=
  TransitionSystem.exists_reachable_of_run { state := {} } rfl (turnOnSession ++
      [.send { streaming := true, poolId := "p" }, .resume 1 .ready, .resume 1 .ready])
    (by decide)

end CliPool

end RoxabiFactory
