import Orchestrator.Restarts
import Orchestrator.StartCommand
import Orchestrator.Pthread.Alone

/-!
# WebSocket frames

The part of `fn` in `server.c` that handles a WebSocket message, as a function of the server and the
frame.  The handler runs in the event loop, one frame after the other.

* `handleMessage` — what a frame does to the server, and the reply.
* `stop_is_request`, `start_is_step` — the two commands are those of the stop handler's code and of
  the server's steps.
* `inapplicable_harmless` — which of the frames that should change nothing do change nothing.
-/

namespace Orchestrator

open Pthread StartConfig

/-! ## Frames and replies -/

/-- A frame, as the handler's JSON accessors see it: `$.command` as the C string that
`mg_json_get_str` returns, or its null pointer, and what there is under `$.config`. -/
structure Frame where
  command : Option String
  config : StartConfig := {}

/-- What the handler sends back at once. -/
inductive Reply where
  | status (running : Bool)
  | unknownCommand
  deriving DecidableEq, Repr

/-- The text of a reply. -/
def Reply.text : Reply → String
  | .status true => "\x7b\"status\":\"running\"\x7d"
  | .status false => "\x7b\"status\":\"idle\"\x7d"
  | .unknownCommand => "\x7b\"error\":\"unknown command\"\x7d"

/-- How the handling of a frame ends.  Comparing a null pointer with a command has no defined
result, and cancelling the thread id 0 has none: the C library reads through it. -/
inductive Outcome where
  | handled (srv : Server) (reply : Option Reply)
  | nullCommand
  | cancelledNobody

/-! ## The commands -/

/-- `empty_queue_if_terminating`. -/
def emptyQueueIfTerminating (mode : LogMode) (d : Data) : Data :=
  (emptyQueueRound mode)^[timedQueueLength d.jobQueue] d

/-- What `request_stop_simulation` does to memory. -/
def requestStopData (mode : LogMode) (d : Data) : Data :=
  emptyQueueIfTerminating mode
    (Data.emit mode .simulationStopped { d with gTerminateNow := true, allJobsArrived := true })

/-- `request_stop_simulation`, where the two ids it cancels are those of threads: the flags and the
queue, the two cancellations and the three broadcasts. -/
def requestStopSimulation (s : Sys) : Sys where
  data := requestStopData .server s.data
  ctl t :=
    wake .refillSupplierCv <| wake .refillNeededCv <| wake .jobQueueNotEmptyCv <|
      if t = .receiver ∨ t = .refiller then { s.ctl t with cancelPending := true } else s.ctl t
  owner := s.owner

/-- The start command: the config overrides, then `start_simulation_async`. -/
def startSimulation (srv : Server) (config : StartConfig) : Server :=
  let params := applyConfig config srv.params
  if srv.isRunning then { srv with params := params, handled := srv.handled ++ [.start] }
  else
    { sys := startRunner params srv.sys
      params := params
      isRunning := true
      cleared := false
      handled := srv.handled ++ [.start] }

/-- `job_receiver_thread` and `paper_refill_thread` of the context are the ids of threads, of this
run or of an earlier one.  Before the first run has created them they are 0, from `memset`. -/
def Server.HasThreadIds (srv : Server) : Prop :=
  .completed ∈ srv.handled ∨
    ((srv.sys.ctl .receiver).status ≠ .absent ∧ (srv.sys.ctl .refiller).status ≠ .absent)

instance (srv : Server) : Decidable srv.HasThreadIds :=
  inferInstanceAs (Decidable (_ ∨ _))

/-- The `MG_EV_WS_MSG` branch of `fn`. -/
def handleMessage (srv : Server) (frame : Frame) : Outcome :=
  match frame.command with
  | none => .nullCommand
  | some command =>
      if command = "start" then .handled (startSimulation srv frame.config) none
      else if command = "stop" then
        if srv.HasThreadIds then
          .handled { srv with
            sys := requestStopSimulation srv.sys
            handled := srv.handled ++ [.stop] } none
        else .cancelledNobody
      else if command = "status" then .handled srv (some (.status srv.isRunning))
      else .handled srv (some .unknownCommand)

/-- A stop frame. -/
lemma handleMessage_stop (srv : Server) :
    handleMessage srv { command := some "stop" } =
      if srv.HasThreadIds then
        .handled { srv with
          sys := requestStopSimulation srv.sys
          handled := srv.handled ++ [.stop] } none
      else .cancelledNobody := rfl

/-! ## The commands in the server's steps -/

/-- **A start frame is a start command of the server**, which the event loop takes when it is back
from the last one. -/
theorem start_is_step (srv : Server) (config : StartConfig)
    (hidle : (srv.sys.ctl .stopper).pc = StopPc.idle) :
    srv.step (.start config) = some (startSimulation srv config) := by
  simp only [Server.step, hidle, startSimulation, if_true]
  split <;> rfl

/-- A round of the drain takes the front job. -/
lemma emptyQueueRound_list (mode : LogMode) (d : Data) :
    (emptyQueueRound mode d).jobQueue.list = d.jobQueue.list.tail := by
  unfold emptyQueueRound timedQueueDequeueFront
  cases hlist : d.jobQueue.list with
  | nil => simp [hlist]
  | cons job rest => simp [Data.modifyStats]

/-- With nothing in the queue, a round does nothing. -/
lemma emptyQueueRound_nil (mode : LogMode) {d : Data} (h : d.jobQueue.list = []) :
    emptyQueueRound mode d = d := by
  simp [emptyQueueRound, timedQueueDequeueFront, h]

variable {setup : Setup}

/-- The drain of the stop handler empties the queue. -/
lemma alone_drain (d : Data) :
    Alone (stopCode setup) (.drain, d) (.notifyPrinters, emptyQueueIfTerminating setup.mode d) := by
  have hdrain : ∀ (n : ℕ) (d : Data), d.jobQueue.list.length = n →
      Alone (stopCode setup) (.drain, d)
        (.notifyPrinters, (emptyQueueRound setup.mode)^[n] d) := by
    intro n
    induction n with
    | zero =>
        intro d hn
        have hnil := List.eq_nil_of_length_eq_zero hn
        have hround := emptyQueueRound_nil setup.mode hnil
        have hgo : (stopCode setup .drain).Goes d d .notifyPrinters := by
          refine And.intro hround.symm ?_
          rw [hround]
          exact (if_pos (List.isEmpty_iff.mpr hnil)).symm
        exact .head hgo .refl
    | succ n ih =>
        intro d hn
        have hlen : (emptyQueueRound setup.mode d).jobQueue.list.length = n := by
          rw [emptyQueueRound_list, List.length_tail, hn]
          rfl
        rw [Function.iterate_succ_apply]
        by_cases hempty : timedQueueIsEmpty (emptyQueueRound setup.mode d).jobQueue = true
        · have hzero : n = 0 := by
            rw [← hlen, List.isEmpty_iff.mp hempty]
            rfl
          subst hzero
          exact .head (And.intro rfl (if_pos hempty).symm) .refl
        · exact .head (And.intro rfl (if_neg hempty).symm) (ih _ hlen)
  exact hdrain _ d rfl

/-- **The stop handler's code computes the request.** -/
theorem stop_is_request (d : Data) :
    Alone (stopCode setup) (.idle, d) (.done, requestStopData setup.mode d) :=
  .head (And.intro rfl rfl) <| .head (And.intro rfl rfl) <| .head (And.intro rfl rfl) <|
    .head (And.intro rfl rfl) <| .head (And.intro rfl rfl) <| .head (And.intro rfl rfl) <|
    .head (And.intro rfl rfl) <| .head (And.intro rfl rfl) <| .head (And.intro rfl rfl) <|
    .head (And.intro rfl rfl) <| (alone_drain _).trans <| .head (And.intro rfl rfl) <|
    .head (And.intro rfl rfl) <| .head (And.intro rfl rfl) <| .head (And.intro rfl rfl) <|
    .head (And.intro rfl rfl) <| .head (And.intro rfl rfl) <| .head (And.intro rfl rfl) .refl

/-! ## Frames that should change nothing -/

/-- The frame starts a run, or stops one. -/
def Frame.Applies (frame : Frame) (srv : Server) : Prop :=
  (frame.command = some "start" ∧ srv.isRunning = false) ∨
    (frame.command = some "stop" ∧ srv.isRunning = true)

/-- The frame has a known command. -/
def Frame.Known (frame : Frame) : Prop :=
  frame.command = some "start" ∨ frame.command = some "stop" ∨ frame.command = some "status"

/-- The parameters, the flags, the queues, the statistics and `is_running` are as they were. -/
structure Unchanged (srv srv' : Server) : Prop where
  params : srv'.params = srv.params
  gTerminateNow : srv'.sys.data.gTerminateNow = srv.sys.data.gTerminateNow
  allJobsArrived : srv'.sys.data.allJobsArrived = srv.sys.data.allJobsArrived
  jobQueue : srv'.sys.data.jobQueue = srv.sys.data.jobQueue
  paperRefillQueue : srv'.sys.data.paperRefillQueue = srv.sys.data.paperRefillQueue
  stats : srv'.sys.data.stats = srv.sys.data.stats
  isRunning : srv'.isRunning = srv.isRunning

/-- The frame changes nothing, and is answered with the error if it has no known command. -/
def Harmless (srv : Server) (frame : Frame) : Prop :=
  ∃ srv' reply, handleMessage srv frame = .handled srv' reply ∧ Unchanged srv srv' ∧
    (¬frame.Known → reply = some .unknownCommand)

/-- Every value of the config is the one in force. -/
structure NothingNew (config : StartConfig) (p : SimulationParameters) : Prop where
  jobCount : ∀ x ∈ config.jobCount, x.toInt = p.numJobs
  printRate : ∀ x ∈ config.printRate, x = p.printingRate
  consumerCount : ∀ x ∈ config.consumerCount, x.toInt = p.consumerCount
  refillRate : ∀ x ∈ config.refillRate, x = p.refillRate
  paperCapacity : ∀ x ∈ config.paperCapacity, x.toInt = p.printerPaperCapacity
  jobArrivalTime : ∀ x ∈ config.jobArrivalTime, Double.ofInt x.toInt = p.jobArrivalTimeUs
  maxQueue : ∀ x ∈ config.maxQueue, x.toInt = p.queueCapacity
  minPapers : ∀ x ∈ config.minPapers, x.toInt = p.papersRequiredLowerBound
  maxPapers : ∀ x ∈ config.maxPapers, x.toInt = p.papersRequiredUpperBound
  autoScaling : ∀ b ∈ config.autoScaling, (if b then 1 else 0) = p.autoScaling

/-- A request to stop finds nothing to do: the flags are set, the queue is empty, and the duration
is already the one it would record. -/
structure StoppedAlready (d : Data) : Prop where
  gTerminateNow : d.gTerminateNow = true
  allJobsArrived : d.allJobsArrived = true
  jobQueue : d.jobQueue.list = []
  duration : d.stats.simulationDurationUs = d.clock - d.referenceTimeUs

/-- The condition under which a frame that does not apply changes nothing. -/
def Frame.SafeFor (frame : Frame) (srv : Server) : Prop :=
  match frame.command with
  | none => False
  | some command =>
      (command = "start" → frame.config.applies = true → NothingNew frame.config srv.params) ∧
        (command = "stop" → srv.HasThreadIds ∧ StoppedAlready srv.sys.data)

/-- A value that may have been given and equals the one in force leaves it. -/
lemma getD_map_eq {α β : Type} {value : Option α} {f : α → β} {b : β} :
    (value.map f).getD b = b ↔ ∀ x ∈ value, f x = b := by
  cases value with
  | none => simp
  | some x => simp

/-- **Overrides change nothing exactly when they say nothing new.** -/
lemma override_eq_self (config : StartConfig) (p : SimulationParameters) :
    config.override p = p ↔ NothingNew config p := by
  have hplain : ∀ (value : Option Double) (y : Double), value.getD y = y ↔ ∀ x ∈ value, x = y := by
    intro value y
    cases value with
    | none => simp
    | some x => simp
  have hprint := hplain config.printRate
  have hrefill := hplain config.refillRate
  cases p
  simp only [override, SimulationParameters.mk.injEq, getD_map_eq, hprint, hrefill, and_true]
  constructor
  · rintro ⟨harr, hlo, hup, hqueue, hprint, hcap, hrefill, hjobs, hcons, hauto⟩
    exact ⟨hjobs, hprint, hcons, hrefill, hcap, harr, hqueue, hlo, hup, hauto⟩
  · rintro ⟨hjobs, hprint, hcons, hrefill, hcap, harr, hqueue, hlo, hup, hauto⟩
    exact ⟨harr, hlo, hup, hqueue, hprint, hcap, hrefill, hjobs, hcons, hauto⟩

/-- A start command during a run changes nothing exactly when its overrides say nothing new. -/
lemma startSimulation_unchanged {srv : Server} {config : StartConfig}
    (hrun : srv.isRunning = true) :
    Unchanged srv (startSimulation srv config) ↔
      (config.applies = true → NothingNew config srv.params) := by
  have hparams : applyConfig config srv.params = srv.params ↔
      (config.applies = true → NothingNew config srv.params) := by
    rw [applyConfig_eq, ← override_eq_self]
    by_cases happ : config.applies = true
    · simp [happ]
    · simp [happ]
  have hstart : startSimulation srv config =
      { srv with
        params := applyConfig config srv.params
        handled := srv.handled ++ [.start] } := by
    simp only [startSimulation, hrun, if_true]
  rw [hstart, ← hparams]
  constructor
  · intro h; exact h.params
  · intro h; exact ⟨h, rfl, rfl, rfl, rfl, rfl, rfl⟩

/-- A drain that leaves the queue as it was found it empty. -/
lemma emptyQueueIfTerminating_nil {mode : LogMode} {d : Data}
    (h : (emptyQueueIfTerminating mode d).jobQueue.list = d.jobQueue.list) :
    d.jobQueue.list = [] := by
  have hempty : ∀ (n : ℕ) (d : Data), d.jobQueue.list.length = n →
      ((emptyQueueRound mode)^[n] d).jobQueue.list = [] := by
    intro n
    induction n with
    | zero => intro d hn; exact List.eq_nil_of_length_eq_zero hn
    | succ n ih =>
        intro d hn
        rw [Function.iterate_succ_apply]
        exact ih _ (by rw [emptyQueueRound_list, List.length_tail, hn]; rfl)
  rw [← h]
  exact hempty _ d rfl

/-- Setting flags that are set changes nothing. -/
lemma Data.setFlags_self {d : Data} (hterm : d.gTerminateNow = true)
    (harr : d.allJobsArrived = true) :
    ({ d with gTerminateNow := true, allJobsArrived := true } : Data) = d := by
  cases d
  simp only at hterm harr
  subst hterm harr
  rfl

/-- A request to stop changes nothing exactly when there is nothing to do. -/
lemma requestStop_unchanged {srv : Server} {handled : List Handled} :
    Unchanged srv { srv with sys := requestStopSimulation srv.sys, handled := handled } ↔
      StoppedAlready srv.sys.data := by
  let d := srv.sys.data
  let d₁ := Data.emit .server .simulationStopped
    { d with gTerminateNow := true, allJobsArrived := true }
  have hdata : requestStopData .server d = emptyQueueIfTerminating .server d₁ := rfl
  have hlist : d₁.jobQueue.list = d.jobQueue.list := Data.emit_jobQueue_list _ _ _
  constructor
  · intro h
    have hqueue : (emptyQueueIfTerminating .server d₁).jobQueue = d.jobQueue := h.jobQueue
    have hkept : (emptyQueueIfTerminating .server d₁).jobQueue.list = d₁.jobQueue.list := by
      rw [hqueue, hlist]
    have hnil : d₁.jobQueue.list = [] := emptyQueueIfTerminating_nil hkept
    have hsame : emptyQueueIfTerminating .server d₁ = d₁ := by
      rw [emptyQueueIfTerminating, timedQueueLength, hnil]
      rfl
    have hnow : d₁.gTerminateNow = d.gTerminateNow ∧ d₁.allJobsArrived = d.allJobsArrived ∧
        d₁.stats = d.stats := by
      rw [← hsame]
      exact ⟨h.gTerminateNow, h.allJobsArrived, h.stats⟩
    obtain ⟨hterm, harr, hstats⟩ := hnow
    refine ⟨hterm.symm, harr.symm, hlist ▸ hnil, ?_⟩
    show d.stats.simulationDurationUs = _
    rw [← hstats]
    rfl
  · intro h
    have hd : ({ d with gTerminateNow := true, allJobsArrived := true } : Data) = d :=
      Data.setFlags_self h.gTerminateNow h.allJobsArrived
    have hd₁ : d₁ = d.emit .server .simulationStopped := by
      show Data.emit .server .simulationStopped _ = _
      rw [hd]
    have hsame : emptyQueueIfTerminating .server d₁ = d₁ := by
      rw [emptyQueueIfTerminating, timedQueueLength, hlist, h.jobQueue]
      rfl
    have hstats : d₁.stats = d.stats := by
      rw [hd₁]
      show { d.stats with simulationDurationUs := d.clock - d.referenceTimeUs } = d.stats
      have hduration : d.stats.simulationDurationUs = d.clock - d.referenceTimeUs := h.duration
      rw [← hduration]
    have hfinal : (requestStopSimulation srv.sys).data = d₁ := hdata.trans hsame
    exact
      { params := rfl
        gTerminateNow := by simp only [hfinal]; rw [hd₁]; rfl
        allJobsArrived := by simp only [hfinal]; rw [hd₁]; rfl
        jobQueue := by simp only [hfinal]; rw [hd₁]; rfl
        paperRefillQueue := by simp only [hfinal]; rw [hd₁]; rfl
        stats := by simp only [hfinal]; exact hstats
        isRunning := rfl }

/-- **Which frames change nothing.**  A start frame during a run, a stop frame while none is
running, a status frame and a frame without a known command leave the server as it was, the last
with the error reply, exactly when: the start frame has no positive job count or names only values
that are in force; the stop frame comes when threads have been created before, and finds the flags
set, the queue empty and the duration recorded; the frame has a command field. -/
theorem inapplicable_harmless {srv : Server} {frame : Frame} (h : ¬frame.Applies srv) :
    Harmless srv frame ↔ frame.SafeFor srv := by
  unfold Harmless Frame.SafeFor handleMessage
  cases hcommand : frame.command with
  | none => simp
  | some command =>
      simp only
      by_cases hstart : command = "start"
      · subst hstart
        have hrun : srv.isRunning = true := by
          by_contra hidle
          exact h (.inl ⟨hcommand, by simpa using hidle⟩)
        have hknown : frame.Known := .inl hcommand
        rw [if_pos rfl]
        simp [startSimulation_unchanged hrun, hknown]
      · rw [if_neg hstart]
        by_cases hstop : command = "stop"
        · subst hstop
          have hknown : frame.Known := .inr (.inl hcommand)
          rw [if_pos rfl]
          by_cases hids : srv.HasThreadIds
          · simp [requestStop_unchanged, hknown, hids]
          · simp [hids]
        · rw [if_neg hstop]
          have hsame : Unchanged srv srv := ⟨rfl, rfl, rfl, rfl, rfl, rfl, rfl⟩
          by_cases hstatus : command = "status"
          · subst hstatus
            have hknown : frame.Known := .inr (.inr hcommand)
            rw [if_pos rfl]
            simp [hknown, hsame]
          · rw [if_neg hstatus]
            simp [hstart, hstop, hsame]

/-- A status frame during a run. -/
theorem inapplicable_harmless_status :
    Harmless (startSimulation (initContext simulationDefaultParamsHighLoad) fiveJobs)
      { command := some "status" } := by
  have hnot : ¬Frame.Applies { command := some "status" }
      (startSimulation (initContext simulationDefaultParamsHighLoad) fiveJobs) := by
    simp [Frame.Applies]
  exact (inapplicable_harmless hnot).mpr ⟨by simp, by simp⟩

/-- **Frames that should change nothing do change something.**  A start frame during a run changes
its parameters; a stop frame after a run has been completed sets the flag that ends the next one; a
stop frame before any run cancels the thread id 0; a frame without a command field has no defined
result. -/
theorem inapplicable_harmful :
    (let srv := startSimulation (initContext simulationDefaultParamsHighLoad) fiveJobs
      let frame : Frame := { command := some "start", config := crossedBounds }
      ¬frame.Applies srv ∧ ¬Harmless srv frame) ∧
    (∃ srv, ServerReach simulationDefaultParamsHighLoad srv ∧
      srv.handled = [.start, .completed] ∧ srv.isRunning = false ∧
      let frame : Frame := { command := some "stop" }
      ¬frame.Applies srv ∧ ¬Harmless srv frame) ∧
    (let srv := initContext simulationDefaultParamsHighLoad
      let frame : Frame := { command := some "stop" }
      ¬frame.Applies srv ∧ ¬Harmless srv frame) ∧
    (let srv := initContext simulationDefaultParamsHighLoad
      let frame : Frame := { command := none }
      ¬frame.Applies srv ∧ ¬Harmless srv frame) := by
  refine ⟨⟨?_, ?_⟩, ?_, ⟨?_, ?_⟩, ?_, ?_⟩
  · simp [Frame.Applies, startSimulation, initContext]
  · rintro ⟨srv', reply, hhandled, hunchanged, -⟩
    obtain ⟨rfl, -⟩ := Outcome.handled.inj hhandled
    have hlower := congrArg SimulationParameters.papersRequiredLowerBound hunchanged.params
    revert hlower
    decide +kernel
  · obtain ⟨srv, hr, hhandled, hidle, hterm⟩ := exists_server_run simulationDefaultParamsHighLoad
      firstRun (fun srv => srv.handled = [.start, .completed] ∧ srv.isRunning = false ∧
        srv.sys.data.gTerminateNow = false) (by decide +kernel)
    have hids : srv.HasThreadIds := .inl (by rw [hhandled]; decide)
    refine ⟨srv, hr, hhandled, hidle, by simp [Frame.Applies, hidle], ?_⟩
    rintro ⟨srv', reply, hmessage, hunchanged, -⟩
    rw [handleMessage_stop, if_pos hids] at hmessage
    obtain ⟨rfl, -⟩ := Outcome.handled.inj hmessage
    have hset := (requestStop_unchanged.mp hunchanged).gTerminateNow
    rw [hterm] at hset
    cases hset
  · simp [Frame.Applies, initContext]
  · rintro ⟨srv', reply, hmessage, -⟩
    have hids : ¬(initContext simulationDefaultParamsHighLoad).HasThreadIds := by decide
    rw [handleMessage_stop, if_neg hids] at hmessage
    cases hmessage
  · simp [Frame.Applies]
  · rintro ⟨srv', reply, hhandled, -⟩
    cases hhandled

end Orchestrator
