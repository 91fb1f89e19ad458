import Orchestrator.Server
import Orchestrator.Flags

/-!
# One run after another

The three flags are reset by `init_context` and nowhere else.  A run cannot be joined before
`all_jobs_arrived` is set, so only the first accepted start of a server finds it unset.

* `Arriving` — what holds while `all_jobs_arrived` is unset.
* `first_start_is_fresh` — an accepted start finds the shared state of a first run exactly when it
  is the first command the server handles.
* `second_start_is_not_fresh` — after one completed run the flags are still set.
-/

namespace Orchestrator

open Pthread Server

variable {setup : Setup} {s s' : Sys} {a : SysAction}

/-! ## The end of the arrivals -/

/-- The stop handler has not come to its cancellations. -/
def StopPc.beforeFlags : StopPc → Bool
  | .idle | .lockState | .setFlags => true
  | _ => false

/-- The main thread has joined the receiver. -/
def MainPc.joinedReceiver : MainPc → Bool
  | .startJoins | .checkJoin | .joinPrinter | .countJoin | .joinRefiller | .checkAutoscalingEnd
  | .cancelAutoscaler | .joinAutoscaler | .cancelStopper | .joinStopper | .emitEnd
  | .emitStatistics | .exit => true
  | _ => false

/-- A thread has not ended and nobody has asked it to. -/
structure Undisturbed (s : Sys) (u : Tid) : Prop where
  status : (s.ctl u).status = .absent ∨ (s.ctl u).status = .running
  pending : (s.ctl u).cancelPending = false

lemma Undisturbed.step {u : Tid} (h : Undisturbed s u) (hs : step (program setup) s a = some s')
    (hwait : ∀ c m q, s.instr (program setup) u ≠ .wait c m q)
    (hexit : s.instr (program setup) u ≠ .exit)
    (hcancel : ∀ t, (s.instr (program setup) t).cancels s.data ≠ some u) : Undisturbed s' u := by
  have hmust : (s.ctl u).mustCancel = false := by rw [Thread.mustCancel, h.pending, Bool.and_false]
  have hst : ∀ st : Status Mutex Cond, (s.ctl u).status = st → st = .absent ∨ st = .running :=
    fun st hst => hst ▸ h.status
  cases thread_step hs u with
  | same ctl => exact ⟨by rw [ctl]; exact h.status, by rw [ctl]; exact h.pending⟩
  | exec ex =>
      refine ⟨.inr ?_, ?_⟩
      · rcases (s.instr (program setup) u).statusAfter_cases with hr | ⟨c, m, q, hi, _⟩
        · rw [ex.status, hr]
        · exact absurd hi (hwait c m q)
      · rw [ex.pending, h.pending]
        simpa using hcancel u
  | created t _ _ hc => exact ⟨by rw [hc.fresh]; exact .inr rfl, by rw [hc.fresh]⟩
  | asked t _ hc _ => exact absurd hc (hcancel t)
  | woken c m hw _ => have := hst _ hw; simp at this
  | resume m hw _ => have := hst _ hw; simp at this
  | exit _ hi _ => exact absurd hi hexit
  | die m hw _ => have := hst _ hw; simp at this
  | killed must _ _ _ => rw [hmust] at must; cases must
  | caught m must _ _ => rw [hmust] at must; cases must

/-- What holds while `all_jobs_arrived` is unset: nobody has come to a statement behind one that
sets it. -/
structure Arriving (s : Sys) : Prop where
  receiver : Undisturbed s .receiver
  receiverPc : s.receiverPc.announced = false
  stopPc : s.stopPc.beforeFlags = true
  main : Undisturbed s .main
  mainPc : s.mainPc.joinedReceiver = false

/-- The stop handler comes to its cancellations when it sets the flags. -/
lemma beforeFlags_of_goes {d d' : Data} {q q' : StopPc} (h : (stopCode setup q).Goes d d' q')
    (hq : q.beforeFlags = true) (hq' : q'.beforeFlags = false) : d'.allJobsArrived = true := by
  cases q with
  | setFlags => rw [h.1]
  | idle | lockState => rw [h.2] at hq'; cases hq'
  | _ => cases hq

/-- The main thread comes past the receiver only by joining it. -/
lemma joinedReceiver_of_goes {d d' : Data} {q q' : MainPc} (h : (mainCode setup q).Goes d d' q')
    (hq : q.joinedReceiver = false) (hq' : q'.joinedReceiver = true) : q = .joinReceiver := by
  cases q with
  | exit => exact h.elim
  | joinReceiver => rfl
  | createReceiver | createRefiller | createPrinter | createStopper =>
      rcases h.2 with rfl | rfl <;> cases hq'
  | createAutoscaler =>
      rcases h.2 with rfl | rfl
      · split at hq' <;> cases hq'
      · cases hq'
  | nextPrinter | checkSlot =>
      obtain ⟨_, rfl⟩ := h
      simp only at hq'
      split at hq' <;> cases hq'
  | checkAutoscaling =>
      obtain ⟨_, rfl⟩ := h
      simp only at hq'
      split at hq' <;> (try split at hq') <;> cases hq'
  | startJoins | checkJoin | joinPrinter | countJoin | joinRefiller | checkAutoscalingEnd
  | cancelAutoscaler | joinAutoscaler | cancelStopper | joinStopper | emitEnd
  | emitStatistics => cases hq
  | _ => rw [h.2] at hq'; cases hq'

/-- The receiver and the main thread wait on no condition variable. -/
lemma no_wait {u : Tid} (hu : u = .receiver ∨ u = .main) (c : Cond) (m : Mutex) (q : Pc u) :
    s.instr (program setup) u ≠ .wait c m q := by
  intro hi
  rcases waits_cases hi with ⟨i, h, _⟩ | ⟨h, _⟩ <;> rcases hu with rfl | rfl <;> cases h

/-- **Until `all_jobs_arrived` is set, the receiver goes on and is not joined.** -/
theorem Arriving.step (h : Arriving s) (hs : step (program setup) s a = some s') :
    s'.data.allJobsArrived = true ∨ Arriving s' := by
  by_cases harr : s'.data.allJobsArrived = true
  · exact .inl harr
  have hreceiver : Undisturbed s' .receiver := by
    refine h.receiver.step hs (no_wait (.inl rfl)) (fun hi => ?_) fun t ht => ?_
    · change receiverCode setup s.receiverPc = .exit at hi
      have := h.receiverPc
      generalize s.receiverPc = q at *
      cases q <;> first | (cases hi; done) | cases this
    · rcases cancels_cases ht with ⟨_, hu | hu⟩ | ⟨_, ⟨hq, _⟩ | ⟨_, hu⟩⟩ | ⟨_, _, _, hu, _⟩ |
        ⟨_, _, _, hu⟩ <;> try cases hu
      have := h.stopPc
      rw [hq] at this
      cases this
  have hmain : Undisturbed s' .main := by
    refine h.main.step hs (no_wait (.inr rfl)) (fun hi => ?_) fun t ht => ?_
    · change mainCode setup s.mainPc = .exit at hi
      have := h.mainPc
      generalize s.mainPc = q at *
      cases q <;> first | (cases hi; done) | cases this
    · rcases cancels_cases ht with ⟨_, hu | hu⟩ | ⟨_, ⟨_, hu⟩ | ⟨_, hu⟩⟩ | ⟨_, _, _, hu, _⟩ |
        ⟨_, _, _, hu⟩ <;> cases hu
  refine .inr ⟨hreceiver, ?_, ?_, hmain, ?_⟩
  · by_contra hq
    rw [Bool.not_eq_false] at hq
    rcases place_cases hs .receiver with hpl | ⟨_, ex⟩ | ⟨_, _, hc⟩
    · rw [Sys.receiverPc, hpl.1] at hq
      exact absurd hq (by rw [h.receiverPc]; decide)
    · exact harr (announced_of_goes ex.goes h.receiverPc hq)
    · rw [Sys.receiverPc, hc.fresh] at hq
      cases hq
  · by_contra hq
    rw [Bool.not_eq_true] at hq
    rcases place_cases hs .stopper with hpl | ⟨_, ex⟩ | ⟨_, _, hc⟩
    · rw [Sys.stopPc, hpl.1] at hq
      exact absurd hq (by rw [h.stopPc]; decide)
    · exact harr (beforeFlags_of_goes ex.goes h.stopPc hq)
    · rw [Sys.stopPc, hc.fresh] at hq
      cases hq
  · by_contra hq
    rw [Bool.not_eq_false] at hq
    rcases place_cases hs .main with hpl | ⟨rfl, ex⟩ | ⟨_, _, hc⟩
    · rw [Sys.mainPc, hpl.1] at hq
      exact absurd hq (by rw [h.mainPc]; decide)
    · -- the receiver has not ended, so the main thread cannot have joined it
      have hjoin : s.mainPc = .joinReceiver := joinedReceiver_of_goes ex.goes h.mainPc hq
      have hended : (s.ctl .receiver).status = .ended :=
        ended_of_join hs ex.running (by change mainCode setup s.mainPc = _; rw [hjoin]; rfl) rfl
      rcases h.receiver.status with hst | hst <;> rw [hst] at hended <;> cases hended
    · rw [Sys.mainPc, hc.fresh] at hq
      cases hq

/-- A first stop command is on the way to the flags: the event loop handles it and there is no run
yet. -/
structure StopOnWay (s : Sys) : Prop where
  handling : s.stopPc ≠ .idle
  noRun : (s.ctl .main).status = .absent

/-- The event loop goes on with the command. -/
lemma StopOnWay.step (h : StopOnWay s) (harr : Arriving s)
    (hs : step (program setup) s a = some s') : StopOnWay s' := by
  have hcreator : ∀ t u, Executes (program setup) s s' t → Created (program setup) s s' t u →
      (∀ i, u ≠ .printer i) → False := fun t u ex hc hu => by
    rcases spawns_cases hc.spawned with ⟨rfl, _⟩ | ⟨_, i, hi⟩
    · have := h.noRun
      rw [ex.running] at this
      cases this
    · exact hu i hi
  refine ⟨?_, ?_⟩
  · rcases place_cases hs .stopper with hpl | ⟨_, ex⟩ | ⟨t, ex, hc⟩
    · rw [Sys.stopPc, hpl.1]; exact h.handling
    · have goes : (stopCode setup s.stopPc).Goes s.data s'.data s'.stopPc := ex.goes
      have hq := h.handling
      have hq' := harr.stopPc
      generalize s.stopPc = q at *
      cases q with
      | idle => exact absurd rfl hq
      | lockState | setFlags => rw [goes.2]; nofun
      | _ => cases hq'
    · exact (hcreator t _ ex hc nofun).elim
  · rcases absent_step hs h.noRun with ⟨hst, _⟩ | ⟨t, ex, hc⟩
    · exact hst
    · exact (hcreator t _ ex hc nofun).elim

/-! ## Histories -/

/-- The shared state is as `init_context` leaves it. -/
structure Pristine (d : Data) : Prop where
  terminateNow : d.gTerminateNow = false
  arrived : d.allJobsArrived = false
  served : d.allJobsServed = false
  jobQueue : d.jobQueue.list = []
  refillQueue : d.paperRefillQueue = []
  stats : d.stats = .zero

/-- The run that starts is a first run with the same parameters. -/
def AsFirstRun (srv : Server) : Prop :=
  ∃ c r k, srv.sys = { freshState srv.setup with
    data := { freshData srv.setup with clock := c, rand := r, createOk := k } }

/-- Before the first command only the environment moves. -/
def Untouched (params : SimulationParameters) (srv : Server) : Prop :=
  srv.params = params ∧ srv.isRunning = false ∧
    ∃ c r k, srv.sys = { (initContext params).sys with
      data := { (initContext params).sys.data with clock := c, rand := r, createOk := k } }

/-- What holds after any history: before the first command nothing has happened, and after it
`all_jobs_arrived` is set, or the first run or a first stop command is still on the way to it. -/
structure HistoryInv (params : SimulationParameters) (srv : Server) : Prop where
  untouched : srv.handled = [] → Untouched params srv
  used : srv.handled ≠ [] → srv.sys.data.allJobsArrived = true ∨
    (Arriving srv.sys ∧ (srv.isRunning = true ∨ StopOnWay srv.sys))
  cleared : srv.cleared = true → srv.sys.data.allJobsArrived = true

variable {params : SimulationParameters} {srv srv' : Server}

/-- Until a command arrives only the environment moves. -/
lemma Untouched.step {act : ServerAction} (h : Untouched params srv)
    (hs : srv.step act = some srv') (hnone : srv'.handled = []) : Untouched params srv' := by
  obtain ⟨hparams, hrunning, c, r, k, hsys⟩ := h
  cases act with
  | start config =>
      simp only [Server.step] at hs
      split at hs
      · split at hs <;> cases hs <;> simp at hnone
      · cases hs
  | clearStats =>
      simp only [Server.step, hrunning] at hs
      simp at hs
  | finish =>
      simp only [Server.step, hrunning] at hs
      simp at hs
  | run a =>
      obtain ⟨sys, hstep, rfl⟩ := Option.map_eq_some_iff.mp hs
      refine ⟨hparams, hrunning, ?_⟩
      have hstop : isStopCommand srv.sys a = false := by
        by_contra hstop
        simp [hstop] at hnone
      rw [hsys] at hstep hstop
      cases a with
      | run t =>
          cases t with
          | stopper => cases hstop
          | _ => cases hstep
      | accept t => cases t <;> cases hstep
      | spurious t => cases t <;> cases hstep
      | env e => cases e <;> cases hstep <;> exact ⟨_, _, _, rfl⟩

/-- The start of the first run leaves nobody behind a statement that sets `all_jobs_arrived`. -/
lemma Untouched.arriving (h : Untouched params srv) (config : StartConfig) :
    Arriving (startRunner (applyConfig config srv.params) srv.sys) := by
  obtain ⟨-, -, c, r, k, hsys⟩ := h
  rw [hsys]
  exact ⟨⟨.inl rfl, rfl⟩, rfl, rfl, ⟨.inr rfl, rfl⟩, rfl⟩

/-- A step of a run's threads keeps the invariant. -/
lemma HistoryInv.run (h : HistoryInv params srv) (hs : srv.step (.run a) = some srv')
    (hused : srv'.handled ≠ []) : srv'.sys.data.allJobsArrived = true ∨
      (Arriving srv'.sys ∧ (srv'.isRunning = true ∨ StopOnWay srv'.sys)) := by
  obtain ⟨sys, hstep, rfl⟩ := Option.map_eq_some_iff.mp hs
  by_cases hnone : srv.handled = []
  · -- the first command arrives, and it is a stop command
    obtain ⟨-, -, c, r, k, hsys⟩ := h.untouched hnone
    have hstop : isStopCommand srv.sys a = true := by
      by_contra hstop
      simp [hnone, hstop] at hused
    have harr : Arriving srv.sys := by
      rw [hsys]
      exact ⟨⟨.inl rfl, rfl⟩, rfl, rfl, ⟨.inl rfl, rfl⟩, rfl⟩
    obtain rfl : a = .run .stopper := by
      rw [isStopCommand, Bool.and_eq_true, decide_eq_true_eq] at hstop
      exact hstop.1
    refine (harr.step hstep).imp_right fun harr' => ⟨harr', .inr ?_⟩
    rw [hsys] at hstep
    cases hstep
    exact ⟨nofun, rfl⟩
  · rcases h.used hnone with hflag | ⟨harr, hrun⟩
    · exact .inl ((flags_mono hstep).2.1 hflag)
    · exact (harr.step hstep).imp_right fun harr' =>
        ⟨harr', hrun.imp_right fun hway => hway.step harr hstep⟩

/-- The history only grows. -/
lemma handled_grows {act : ServerAction} (hs : srv.step act = some srv') :
    ∃ new, srv'.handled = srv.handled ++ new := by
  cases act with
  | run a =>
      obtain ⟨sys, _, rfl⟩ := Option.map_eq_some_iff.mp hs
      exact ⟨_, rfl⟩
  | start config =>
      simp only [Server.step] at hs
      split at hs
      · split at hs <;> cases hs <;> exact ⟨_, rfl⟩
      · cases hs
  | clearStats =>
      simp only [Server.step] at hs
      split at hs <;> cases hs
      exact ⟨[], (List.append_nil _).symm⟩
  | finish =>
      simp only [Server.step] at hs
      split at hs <;> cases hs
      exact ⟨_, rfl⟩

/-- An accepted start finds the flag set, or is the first command. -/
lemma HistoryInv.accepts (h : HistoryInv params srv) (hidle : srv.sys.stopPc = .idle)
    (hrun : srv.isRunning = false) : srv.handled = [] ∨ srv.sys.data.allJobsArrived = true := by
  by_cases hnone : srv.handled = []
  · exact .inl hnone
  · rcases h.used hnone with hflag | ⟨_, hrun' | hway⟩
    · exact .inr hflag
    · rw [hrun] at hrun'; cases hrun'
    · exact absurd hidle hway.handling

/-- A start command keeps the invariant. -/
lemma HistoryInv.start {config : StartConfig} (h : HistoryInv params srv)
    (hs : srv.step (.start config) = some srv') :
    (srv'.sys.data.allJobsArrived = true ∨
      (Arriving srv'.sys ∧ (srv'.isRunning = true ∨ StopOnWay srv'.sys))) ∧
      (srv'.cleared = true → srv'.sys.data.allJobsArrived = true) := by
  simp only [Server.step] at hs
  split at hs
  case isFalse => cases hs
  case isTrue hidle =>
    split at hs
    · next hrun =>
      cases hs
      refine ⟨h.used fun hnone => ?_, h.cleared⟩
      rw [(h.untouched hnone).2.1] at hrun
      cases hrun
    · next hrun =>
      cases hs
      rw [Bool.not_eq_true] at hrun
      refine ⟨?_, nofun⟩
      rcases h.accepts hidle hrun with hnone | hflag
      · exact .inr ⟨(h.untouched hnone).arriving config, .inl rfl⟩
      · exact .inl hflag

/-- **What any history leaves behind.** -/
theorem historyInv (h : ServerReach params srv) : HistoryInv params srv := by
  induction h with
  | refl => exact ⟨fun _ => ⟨rfl, rfl, 0, 0, true, rfl⟩, fun hne => absurd rfl hne, nofun⟩
  | @tail srv srv' _ hs ih =>
      obtain ⟨act, hs⟩ := hs
      have huntouched : srv'.handled = [] → Untouched params srv' := fun hnone => by
        obtain ⟨new, hnew⟩ := handled_grows hs
        rw [hnew] at hnone
        exact (ih.untouched (List.append_eq_nil_iff.mp hnone).1).step hs (hnew.trans hnone)
      cases act with
      | run a =>
          refine ⟨huntouched, ih.run hs, fun hcl => ?_⟩
          obtain ⟨sys, hstep, rfl⟩ := Option.map_eq_some_iff.mp hs
          exact (flags_mono hstep).2.1 (ih.cleared hcl)
      | start config =>
          obtain ⟨hused, hcl⟩ := ih.start hs
          exact ⟨huntouched, fun _ => hused, hcl⟩
      | clearStats =>
          simp only [Server.step] at hs
          split at hs
          · next hend =>
            cases hs
            have hflag : srv.sys.data.allJobsArrived = true := by
              by_cases hnone : srv.handled = []
              · rw [(ih.untouched hnone).2.1] at hend
                cases hend.2.1
              · refine (ih.used hnone).resolve_right fun ⟨harr, _⟩ => ?_
                rcases harr.main.status with hst | hst <;> rw [hst] at hend <;> cases hend.1
            exact ⟨huntouched, fun _ => .inl hflag, fun _ => hflag⟩
          · cases hs
      | finish =>
          simp only [Server.step] at hs
          split at hs
          · next hcl =>
            cases hs
            exact ⟨huntouched, fun _ => .inl (ih.cleared hcl.2), ih.cleared⟩
          · cases hs

/-- **Only the first run starts fresh.**  An accepted start finds the flags, the queues and the
statistics as in a first run, and the run is a first run with its parameters, exactly when the start
is the first command the server handles. -/
theorem first_start_is_fresh {config : StartConfig} (h : ServerReach params srv)
    (hrun : srv.isRunning = false) (hs : srv.step (.start config) = some srv') :
    (Pristine srv'.sys.data ↔ srv.handled = []) ∧ (AsFirstRun srv' ↔ srv.handled = []) := by
  obtain ⟨hidle, hsrv'⟩ : srv.sys.stopPc = .idle ∧ srv' =
      { sys := startRunner (applyConfig config srv.params) srv.sys
        params := applyConfig config srv.params
        isRunning := true, cleared := false, handled := srv.handled ++ [.start] } := by
    simp only [Server.step, hrun] at hs
    split at hs
    · next hidle => exact ⟨hidle, (Option.some.inj hs).symm⟩
    · cases hs
  subst hsrv'
  have hused : Pristine (startRunner (applyConfig config srv.params) srv.sys).data →
      srv.handled = [] := fun hp => by
    refine ((historyInv h).accepts hidle hrun).resolve_right fun hflag => ?_
    have := hp.arrived
    change srv.sys.data.allJobsArrived = false at this
    rw [hflag] at this
    cases this
  have hfirst : srv.handled = [] → AsFirstRun
      { sys := startRunner (applyConfig config srv.params) srv.sys
        params := applyConfig config srv.params
        isRunning := true, cleared := false, handled := srv.handled ++ [.start] } := fun hnone => by
    obtain ⟨-, -, c, r, k, hsys⟩ := (historyInv h).untouched hnone
    refine ⟨c, r, k, ?_⟩
    rw [hsys]
    show (⟨_, _, _⟩ : Sys) = ⟨_, _, _⟩
    congr 1
    funext t
    cases t <;> rfl
  have hpristine : ∀ srv' : Server, AsFirstRun srv' → Pristine srv'.sys.data := by
    rintro srv' ⟨c, r, k, hsys⟩
    rw [hsys]
    exact ⟨rfl, rfl, rfl, rfl, rfl, rfl⟩
  exact ⟨⟨hused, fun hnone => hpristine _ (hfirst hnone)⟩,
    ⟨fun hf => hused (hpristine _ hf), hfirst⟩⟩

/-- A single job for a single printer. -/
def oneJob : StartConfig where
  jobCount := some (.num 1)
  consumerCount := some (.num 1)
  autoScaling := some false

/-- The first start of a server. -/
theorem first_start_is_fresh_at_once :
    ∃ srv', (initContext simulationDefaultParamsHighLoad).step (.start oneJob) = some srv' ∧
      Pristine srv'.sys.data ∧ AsFirstRun srv' := by
  have hreach : ServerReach simulationDefaultParamsHighLoad
      (initContext simulationDefaultParamsHighLoad) := .refl
  have hstart : ∃ srv', (initContext simulationDefaultParamsHighLoad).step (.start oneJob) =
      some srv' := ⟨_, rfl⟩
  obtain ⟨srv', hs⟩ := hstart
  obtain ⟨hp, hf⟩ := first_start_is_fresh hreach rfl hs
  exact ⟨srv', hs, hp.mpr rfl, hf.mpr rfl⟩

/-- The first run is over: the job was printed and every thread joined. -/
def firstRun : List ServerAction :=
  .start oneJob :: serverRuns .main 13 ++ serverRuns .receiver 28 ++ serverRuns (.printer 0) 32 ++
    serverRuns .refiller 8 ++ serverRuns .main 19 ++ [.clearStats, .finish]

/-- **The second run does not start fresh.**  After one completed run the flags are still set, and
in the second run the only printer ends before a job has arrived. -/
theorem second_start_is_not_fresh :
    (∃ srv, ServerReach simulationDefaultParamsHighLoad srv ∧
      srv.handled = [.start, .completed] ∧ srv.isRunning = false ∧
      ∃ srv', srv.step (.start oneJob) = some srv' ∧
        srv'.sys.data.allJobsArrived = true ∧ srv'.sys.data.allJobsServed = true) ∧
    ∃ srv, ServerReach simulationDefaultParamsHighLoad srv ∧
      srv.handled = [.start, .completed, .start] ∧
      (srv.sys.ctl (.printer 0)).status = .ended ∧ srv.sys.receiverPc = .start ∧
      srv.sys.data.stats.totalJobsArrived = 0 := by
  refine ⟨?_, exists_server_run _
    (firstRun ++ .start oneJob :: serverRuns .main 13 ++ serverRuns (.printer 0) 13)
    (fun srv => srv.handled = [.start, .completed, .start] ∧
      (srv.sys.ctl (.printer 0)).status = .ended ∧ srv.sys.receiverPc = .start ∧
      srv.sys.data.stats.totalJobsArrived = 0) (by decide +kernel)⟩
  obtain ⟨srv, hr, hhandled, hrun, hnext⟩ := exists_server_run simulationDefaultParamsHighLoad
    firstRun (fun srv => srv.handled = [.start, .completed] ∧ srv.isRunning = false ∧
      (srv.step (.start oneJob)).any (fun srv' => srv'.sys.data.allJobsArrived &&
        srv'.sys.data.allJobsServed) = true) (by decide +kernel)
  obtain ⟨srv', hs, hflags⟩ := (Option.any_eq_true _ _).mp hnext
  exact ⟨srv, hr, hhandled, hrun, srv', hs, Bool.and_eq_true_iff.mp hflags⟩

end Orchestrator
