import Orchestrator.Memory

/-!
# The two back ends agree

`console_handler.c` and `websocket_handler.c` update the statistics in two sets of handlers that
were written by hand, each with static reference times of its own, and each leaves other entries of
its table `NULL`.

* `LogMemory` — what the handlers of both files can reach, and `LogMemory.emit`, a log call.
* `handlers_agree` — the two handlers of an event, a missing one included, do the same.
* `backends_agree` — so do the two back ends over any sequence of events, if their reference times
  are equal.
* `backends_differ` — they do not if the reference times are different.
-/

namespace Orchestrator

/-- The two definitions of the per-printer part of a departure compute the same. -/
lemma departureOfPrinter_agree (job : Job) (printer : Printer) (serviceDuration : Int)
    (stats : SimulationStatistics) :
    logDepartureOfPrinter job printer serviceDuration stats =
      publishDepartureOfPrinter job printer serviceDuration stats := by
  unfold logDepartureOfPrinter publishDepartureOfPrinter
  cases slotOfIndex ((printer.id : Int) - 1) with
  | none => rfl
  | some idx => rfl

/-- **The two handlers of an event do the same.**  An entry that is `NULL` in one table only
publishes or prints in the other. -/
theorem handlers_agree (e : Event) (now : ULong) (h : HandlerState) :
    (consoleOps e).getD outputOnly now h = (websocketOps e).getD outputOnly now h := by
  cases e with
  | systemDeparture job printer =>
      show logSystemDeparture now h = publishSystemDeparture now h
      simp only [logSystemDeparture, publishSystemDeparture, departureOfPrinter_agree]
  | _ => rfl

/-- **No handler writes to the job or the printer of its call**, or to the contents of the queue. -/
theorem handler_keeps (mode : LogMode) (e : Event) (now : ULong) (h : HandlerState) :
    let h' := (Data.logger mode e).getD outputOnly now h
    h'.job = h.job ∧ h'.printer = h.printer ∧ h'.jobQueue.list = h.jobQueue.list := by
  cases mode <;> cases e <;> exact ⟨rfl, rfl, rfl⟩

namespace Data

/-- A log call does the same in both modes. -/
lemma emit_mode (mode mode' : LogMode) (e : Event) (d : Data) : d.emit mode e = d.emit mode' e := by
  have hagree : ∀ mode h, ((logger mode e).getD outputOnly) d.clock h =
      ((consoleOps e).getD outputOnly) d.clock h := by
    intro mode h
    cases mode with
    | terminal => rfl
    | server => exact (handlers_agree e _ _).symm
  simp only [emit, hagree mode, hagree mode']

/-- A sequence of `emit_*` calls, each with what `get_time_in_us` returns during it. -/
def emitAll (mode : LogMode) (calls : List (ULong × Event)) (d : Data) : Data :=
  calls.foldl (fun d call => { d with clock := call.1 }.emit mode call.2) d

@[simp] lemma emitAll_nil (mode : LogMode) (d : Data) : d.emitAll mode [] = d := rfl

@[simp] lemma emitAll_cons (mode : LogMode) (call : ULong × Event)
    (calls : List (ULong × Event)) (d : Data) :
    d.emitAll mode (call :: calls) =
      ({ d with clock := call.1 }.emit mode call.2).emitAll mode calls := rfl

end Data

/-! ## Both files at once -/

/-- The static variables of a handler file. -/
structure FileStatics where
  referenceTimeUs : ULong
  referenceEndTimeUs : ULong

/-- What the handlers of both files can reach, besides what the arguments of one call point to. -/
structure LogMemory where
  stats : SimulationStatistics
  jobQueue : TimedQueue
  console : FileStatics
  websocket : FileStatics

namespace LogMemory

/-- The static variables of the file whose handlers the mode registers. -/
def statics (m : LogMemory) : LogMode → FileStatics
  | .terminal => m.console
  | .server => m.websocket

/-- Write to the static variables of that file. -/
def setStatics (m : LogMemory) (mode : LogMode) (statics : FileStatics) : LogMemory :=
  match mode with
  | .terminal => { m with console := statics }
  | .server => { m with websocket := statics }

/-- A log call: the memory it leaves, and the job and the printer that its arguments point to. -/
def emit (mode : LogMode) (now : ULong) (e : Event) (m : LogMemory) : LogMemory × Job × Printer :=
  let h := ((Data.logger mode e).getD outputOnly) now
    ⟨m.stats, m.jobQueue, e.job, e.printer, (m.statics mode).referenceTimeUs,
      (m.statics mode).referenceEndTimeUs⟩
  ({ m with stats := h.stats, jobQueue := h.jobQueue }.setStatics mode
    ⟨h.referenceTimeUs, h.referenceEndTimeUs⟩, h.job, h.printer)

/-- A sequence of log calls, each with what `get_time_in_us` returns during it: the memory at the
end, and the job and the printer each call leaves. -/
def emitAll (mode : LogMode) : List (ULong × Event) → LogMemory → LogMemory × List (Job × Printer)
  | [], m => (m, [])
  | (now, e) :: calls, m =>
      let after := m.emit mode now e
      let rest := emitAll mode calls after.1
      (rest.1, after.2 :: rest.2)

end LogMemory

/-- The memory of the handlers in a run in this mode, with any static variables in the other
file. -/
def Data.logMemory (d : Data) (mode : LogMode) (other : FileStatics) : LogMemory :=
  { stats := d.stats, jobQueue := d.jobQueue, console := other, websocket := other :
    LogMemory }.setStatics mode ⟨d.referenceTimeUs, d.referenceEndTimeUs⟩

/-- **A log call of a run is one of these**, in the mode of the run. -/
theorem Data.emit_logMemory (mode : LogMode) (e : Event) (d : Data) (other : FileStatics) :
    ((d.logMemory mode other).emit mode d.clock e).1 = (d.emit mode e).logMemory mode other := by
  cases mode <;> rfl

/-- Two memories are the same for the console handlers in one and the WebSocket handlers in the
other, but for the time at which a run ended. -/
structure LogMemory.Alike (m m' : LogMemory) : Prop where
  stats : m'.stats = m.stats
  jobQueue : m'.jobQueue = m.jobQueue
  referenceTimeUs : m'.websocket.referenceTimeUs = m.console.referenceTimeUs

/-- A handler does not read the end time of its file. -/
lemma handler_ignores_end (mode : LogMode) (e : Event) (now endTimeUs : ULong) (h : HandlerState) :
    let h₁ := (Data.logger mode e).getD outputOnly now h
    let h₂ := (Data.logger mode e).getD outputOnly now { h with referenceEndTimeUs := endTimeUs }
    h₂.stats = h₁.stats ∧ h₂.jobQueue = h₁.jobQueue ∧ h₂.referenceTimeUs = h₁.referenceTimeUs := by
  cases mode <;> cases e <;> exact ⟨rfl, rfl, rfl⟩

/-- One log call keeps two memories alike. -/
lemma LogMemory.Alike.emit {m m' : LogMemory} (halike : m.Alike m') (now : ULong) (e : Event) :
    (m.emit .terminal now e).1.Alike (m'.emit .server now e).1 := by
  let h : HandlerState := ⟨m.stats, m.jobQueue, e.job, e.printer, m.console.referenceTimeUs,
    m.console.referenceEndTimeUs⟩
  have hends := handler_ignores_end .server e now m'.websocket.referenceEndTimeUs h
  have hsame : (Data.logger .server e).getD outputOnly now h =
      (Data.logger .terminal e).getD outputOnly now h := (handlers_agree e now h).symm
  rw [hsame] at hends
  obtain ⟨hstats, hqueue, hreference⟩ := hends
  have hserver : (⟨m'.stats, m'.jobQueue, e.job, e.printer, m'.websocket.referenceTimeUs,
      m'.websocket.referenceEndTimeUs⟩ : HandlerState) =
        { h with referenceEndTimeUs := m'.websocket.referenceEndTimeUs } := by
    rw [halike.stats, halike.jobQueue, halike.referenceTimeUs]
  rw [← hserver] at hstats hqueue hreference
  exact ⟨hstats, hqueue, hreference⟩

/-- So does a sequence of them. -/
lemma LogMemory.Alike.emitAll (calls : List (ULong × Event)) {m m' : LogMemory}
    (halike : m.Alike m') :
    (m.emitAll .terminal calls).1.Alike (m'.emitAll .server calls).1 := by
  induction calls generalizing m m' with
  | nil => exact halike
  | cons call calls ih => exact ih (halike.emit call.1 call.2)

/-- A sequence of log calls leaves the contents of the queue, and every job and printer that one of
them was given, as they were. -/
lemma LogMemory.emitAll_keeps (mode : LogMode) (calls : List (ULong × Event)) (m : LogMemory) :
    (m.emitAll mode calls).1.jobQueue.list = m.jobQueue.list ∧
      (m.emitAll mode calls).2 = calls.map fun call => (call.2.job, call.2.printer) := by
  induction calls generalizing m with
  | nil => exact ⟨rfl, rfl⟩
  | cons call calls ih =>
      obtain ⟨now, e⟩ := call
      obtain ⟨hqueue, harguments⟩ := ih (m.emit mode now e).1
      obtain ⟨hjob, hprinter, hlist⟩ := handler_keeps mode e now
        ⟨m.stats, m.jobQueue, e.job, e.printer, (m.statics mode).referenceTimeUs,
          (m.statics mode).referenceEndTimeUs⟩
      have hfirst : (m.emit mode now e).1.jobQueue.list = m.jobQueue.list := by
        cases mode <;> exact hlist
      refine ⟨hqueue.trans hfirst, ?_⟩
      show (m.emit mode now e).2 :: (LogMemory.emitAll mode calls (m.emit mode now e).1).2 = _
      rw [harguments, List.map_cons]
      exact congrArg (· :: _) (Prod.ext hjob hprinter)

/-- **The two back ends compute the same statistics.**  Over any sequence of log events at any clock
readings, from the same statistics and queue and from equal reference times of the two files, the
console and the WebSocket handlers leave the same statistics and the same
`last_interaction_time_us`, and neither changes a job, a printer or the contents of the queue. -/
theorem backends_agree (calls : List (ULong × Event)) (m : LogMemory)
    (hreference : m.console.referenceTimeUs = m.websocket.referenceTimeUs) :
    (m.emitAll .terminal calls).1.stats = (m.emitAll .server calls).1.stats ∧
      (m.emitAll .terminal calls).1.jobQueue.lastInteractionTimeUs =
        (m.emitAll .server calls).1.jobQueue.lastInteractionTimeUs ∧
      ∀ mode, (m.emitAll mode calls).1.jobQueue.list = m.jobQueue.list ∧
        (m.emitAll mode calls).2 = calls.map fun call => (call.2.job, call.2.printer) := by
  have halike : m.Alike m := ⟨rfl, rfl, hreference.symm⟩
  obtain ⟨hstats, hqueue, -⟩ := halike.emitAll calls
  exact ⟨hstats.symm, by rw [hqueue], fun mode => m.emitAll_keeps mode calls⟩

/-- The memory before the first log call of the process. -/
def LogMemory.fresh : LogMemory where
  stats := .zero
  jobQueue := { list := [], lastInteractionTimeUs := 0 }
  console := ⟨0, 0⟩
  websocket := ⟨0, 0⟩

/-- A run of one job from its start to its end, whose simulation takes 9 microseconds. -/
def oneJobLogged : List (ULong × Event) :=
  [(5, .simulationStart), (6, .systemArrival (initJob 1 1 3) 5),
    (7, .queueArrival (initJob 1 1 3) 0), (9, .queueDeparture (initJob 1 1 3) 0),
    (14, .simulationEnd)]

/-- The memory of a new process, and the log of one job. -/
theorem backends_agree_one_job :
    LogMemory.fresh.console.referenceTimeUs = LogMemory.fresh.websocket.referenceTimeUs ∧
    (LogMemory.fresh.emitAll .terminal oneJobLogged).1.stats =
        (LogMemory.fresh.emitAll .server oneJobLogged).1.stats ∧
      (LogMemory.fresh.emitAll .server oneJobLogged).1.stats.simulationDurationUs = 9 ∧
      (LogMemory.fresh.emitAll .server oneJobLogged).1.stats.totalJobsArrived = 1 :=
  ⟨rfl, (backends_agree oneJobLogged .fresh rfl).1, rfl, rfl⟩

/-- **The two back ends differ from different reference times.**  After a simulation that the
WebSocket handlers have seen start, the console handlers take the duration from another time. -/
theorem backends_differ :
    let m := (LogMemory.fresh.emit .server 5 .simulationStart).1
    let calls : List (ULong × Event) := [(14, .simulationStopped)]
    (m.emitAll .terminal calls).1.stats ≠ (m.emitAll .server calls).1.stats := by
  intro m calls heq
  have hduration := congrArg SimulationStatistics.simulationDurationUs heq
  revert hduration
  decide

end Orchestrator
