import Orchestrator.Threads.Autoscaling

/-!
# The main thread of a run

`main` of `cli.c` and `simulation_runner` of `server.c`, from the first log call, when the argument
structs and the pool are initialised, to the report of the statistics.  They start and join the
same threads in the same order.  The command line program also starts the signal catching thread,
and cancels it and the autoscaler before it joins them.

Only the creation of a printer checks its result in the source; the other threads are taken to be
created.
-/

namespace Orchestrator

inductive MainPc where
  | emitParameters
  | emitStart
  | createReceiver
  | createRefiller
  | startPrinters
  | nextPrinter
  | checkSlot
  | createPrinter
  | markStarted
  | emitIdle
  | countPrinter
  | checkAutoscaling
  | createAutoscaler
  | createStopper
  -- join
  | joinReceiver
  | startJoins
  | checkJoin
  | joinPrinter
  | countJoin
  | joinRefiller
  | checkAutoscalingEnd
  | cancelAutoscaler
  | joinAutoscaler
  | cancelStopper
  | joinStopper
  -- final logging
  | emitEnd
  | emitStatistics
  | exit
  deriving DecidableEq, Repr

abbrev MainInstr := Pthread.Instr Tid MainPc Mutex Cond PrinterThreadArgs Data

namespace Main

/-- `pool->printers[i].active`, for the loop counter of `printer_pool_join_all`. -/
def isSlotActive (d : Data) : Bool :=
  match slotOfIndex d.mainI with
  | some i => (d.pool.printers i).active
  | none => false

end Main

open Main in
/-- The code of the main thread. -/
def mainCode (setup : Setup) : MainPc → MainInstr
  | .emitParameters =>
      .call (logMutex setup.mode) (fun d => d.emit setup.mode (.simulationParameters setup.params))
        fun _ => .emitStart
  | .emitStart =>
      .call (logMutex setup.mode) (fun d => d.emit setup.mode .simulationStart)
        fun _ => .createReceiver
  | .createReceiver =>
      .create (fun _ => some .receiver) sharedPrinterArgs (fun _ => true) .createRefiller
        .createRefiller
  | .createRefiller =>
      .create (fun _ => some .refiller) sharedPrinterArgs (fun _ => true) .startPrinters
        .startPrinters
  | .startPrinters => .act (fun d => { d with mainI := 1 }) fun _ => .nextPrinter
  | .nextPrinter =>
      .act id fun d =>
        if d.mainI ≤ setup.params.consumerCount then .checkSlot else .checkAutoscaling
  | .checkSlot =>
      .act id fun d => if canStartPrinter d.pool d.mainI then .createPrinter else .countPrinter
  | .createPrinter =>
      .create (fun d => (slotOfIndex (d.mainI - 1)).map .printer) sharedPrinterArgs Data.createOk
        .markStarted .countPrinter
  | .markStarted =>
      .act (fun d => { d with pool := Orchestrator.markStarted d.pool d.mainI }) fun _ => .emitIdle
  | .emitIdle =>
      .call (logMutex setup.mode) (fun d => emitStarted setup.mode d.mainI d)
        fun _ => .countPrinter
  | .countPrinter => .act (fun d => { d with mainI := d.mainI + 1 }) fun _ => .nextPrinter
  | .checkAutoscaling =>
      .act id fun _ =>
        if setup.params.autoScaling ≠ 0 then .createAutoscaler
        else match setup.mode with
          | .terminal => .createStopper
          | .server => .joinReceiver
  | .createAutoscaler =>
      .create (fun _ => some .autoscaler) sharedPrinterArgs (fun _ => true)
        (match setup.mode with
          | .terminal => .createStopper
          | .server => .joinReceiver)
        .joinReceiver
  | .createStopper =>
      .create (fun _ => some .stopper) sharedPrinterArgs (fun _ => true) .joinReceiver .joinReceiver
  | .joinReceiver => .join (fun _ => some .receiver) .startJoins
  | .startJoins => .act (fun d => { d with mainI := 0 }) fun _ => .checkJoin
  | .checkJoin =>
      .act id fun d =>
        if d.mainI < maxPrinters then
          if isSlotActive d then .joinPrinter else .countJoin
        else .joinRefiller
  | .joinPrinter => .join (fun d => (slotOfIndex d.mainI).map .printer) .countJoin
  | .countJoin => .act (fun d => { d with mainI := d.mainI + 1 }) fun _ => .checkJoin
  | .joinRefiller => .join (fun _ => some .refiller) .checkAutoscalingEnd
  | .checkAutoscalingEnd =>
      .act id fun _ =>
        match setup.mode with
        | .terminal => if setup.params.autoScaling ≠ 0 then .cancelAutoscaler else .cancelStopper
        | .server => if setup.params.autoScaling ≠ 0 then .joinAutoscaler else .emitEnd
  | .cancelAutoscaler => .cancel (fun _ => some .autoscaler) .joinAutoscaler
  | .joinAutoscaler =>
      .join (fun _ => some .autoscaler)
        (match setup.mode with
          | .terminal => .cancelStopper
          | .server => .emitEnd)
  | .cancelStopper => .cancel (fun _ => some .stopper) .joinStopper
  | .joinStopper => .join (fun _ => some .stopper) .emitEnd
  | .emitEnd =>
      .call (logMutex setup.mode) (fun d => d.emit setup.mode .simulationEnd)
        fun _ => .emitStatistics
  | .emitStatistics =>
      .call (logMutex setup.mode) (fun d => d.emit setup.mode .statistics) fun _ => .exit
  | .exit => .exit

end Orchestrator
