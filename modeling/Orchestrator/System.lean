import Orchestrator.Threads.Printer
import Orchestrator.Threads.JobReceiver
import Orchestrator.Threads.PaperRefiller
import Orchestrator.Threads.SignalCatcher
import Orchestrator.Threads.Main

/-!
# The system of one run

The six kinds of threads put together, and the state a run starts in.
-/

namespace Orchestrator

/-- The program counters of each thread. -/
abbrev Pc : Tid → Type
  | .main => MainPc
  | .stopper => StopPc
  | .receiver => ReceiverPc
  | .refiller => RefillerPc
  | .autoscaler => AutoscalerPc
  | .printer _ => PrinterPc

/-- Where each thread starts. -/
def entry : (t : Tid) → Pc t
  | .main => MainPc.emitParameters
  | .stopper => StopPc.idle
  | .receiver => ReceiverPc.start
  | .refiller => RefillerPc.start
  | .autoscaler => AutoscalerPc.lockState
  | .printer _ => PrinterPc.lockState

/-- The code of each thread. -/
def code (setup : Setup) : (t : Tid) → PrinterThreadArgs → Pc t →
    Pthread.Instr Tid (Pc t) Mutex Cond PrinterThreadArgs Data
  | .main, _ => mainCode setup
  | .stopper, _ => stopCode setup
  | .receiver, _ => receiverCode setup
  | .refiller, _ => refillerCode setup
  | .autoscaler, _ => autoscalerCode setup
  | .printer i, args => printerCode setup i args

/-- The program run with a given setup. -/
def program (setup : Setup) : Pthread.Program Tid Pc Mutex Cond PrinterThreadArgs Data Env where
  entry := entry
  code := code setup
  env := Env.apply

abbrev Sys := Pthread.State Tid Pc Mutex Cond PrinterThreadArgs Data

abbrev SysAction := Pthread.Action Tid Env

/-- The memory of a freshly initialised context, with the pool as `printer_pool_init` leaves it. -/
def freshData (setup : Setup) : Data where
  clock := 0
  rand := 0
  createOk := true
  gTerminateNow := false
  allJobsArrived := false
  allJobsServed := false
  jobQueue := { list := [], lastInteractionTimeUs := 0 }
  paperRefillQueue := []
  stats := .zero
  pool := printerPoolInit setup.params.consumerCount setup.params.printerPaperCapacity
  referenceTimeUs := 0
  referenceEndTimeUs := 0
  receiver := {}
  refiller := {}
  printer _ := {}
  autoscaler := {}
  mainI := 1
  emitted := []
  dequeued := []

/-- A run is about to start: its main thread is at the first statement, the server's event loop is
there already, and no other thread exists. -/
def freshState (setup : Setup) : Sys where
  data := freshData setup
  ctl
    | .main => ⟨MainPc.emitParameters, sharedPrinterArgs, .running, true, false⟩
    | .stopper =>
        ⟨StopPc.idle, sharedPrinterArgs,
          match setup.mode with
          | .terminal => .absent
          | .server => .running, true, false⟩
    | .receiver => ⟨ReceiverPc.start, sharedPrinterArgs, .absent, true, false⟩
    | .refiller => ⟨RefillerPc.start, sharedPrinterArgs, .absent, true, false⟩
    | .autoscaler => ⟨AutoscalerPc.lockState, sharedPrinterArgs, .absent, true, false⟩
    | .printer _ => ⟨PrinterPc.lockState, sharedPrinterArgs, .absent, true, false⟩
  owner _ := .free

/-- A run of the server with the default parameters. -/
def defaultServer : Setup := ⟨.server, simulationDefaultParamsHighLoad⟩

/-- A run of the command line program with the default parameters. -/
def defaultCli : Setup := ⟨.terminal, simulationDefaultParamsHighLoad⟩

end Orchestrator
