import Orchestrator.Memory

/-!
# The job receiver

`job_receiver_thread_func` of `job_receiver.c`.  Cancellation is disabled except around the sleep
between two arrivals.
-/

namespace Orchestrator

inductive ReceiverPc where
  | start
  | readStart
  | nextJob
  | enableCancel
  | sleep
  | disableCancel
  | lockState
  | readTerminate
  | abort
  | stampArrival
  | lockStatsArrival
  | emitArrival
  | unlockStatsArrival
  | lockQueue
  | checkCapacity
  -- the queue is full
  | dropUnlockQueue
  | lockStatsDrop
  | emitDrop
  | unlockStatsDrop
  -- there is room
  | stampQueueArrival
  | enqueue
  | lockStatsQueue
  | emitQueueArrival
  | unlockStatsQueue
  | notifyPrinters
  | unlockQueue
  -- no more jobs
  | endLockState
  | endSetArrived
  | endLockQueue
  | endNotifyPrinters
  | endUnlockQueue
  | exit
  deriving DecidableEq, Repr

abbrev ReceiverInstr := Pthread.Instr Tid ReceiverPc Mutex Cond PrinterThreadArgs Data

namespace Receiver

/-- The inter-arrival time of every job: `(int)params->job_arrival_time_us`. -/
def interArrivalTimeUs (params : SimulationParameters) : Int := params.jobArrivalTimeUs.toInt

/-- `previous_job_arrival_time_us = stats->simulation_start_time_us`, before the loop. -/
def readStart (d : Data) : Data :=
  d.modifyReceiver fun r => { r with previousJobArrivalTimeUs := d.stats.simulationStartTimeUs }

/-- Draw the papers of the next job and initialise it, if there is a next job. -/
def createJob (params : SimulationParameters) (d : Data) : Data :=
  if (d.receiver.jobId : Int) < params.numJobs then
    d.modifyReceiver fun r =>
      { r with
        job := initJob (r.jobId + 1) (interArrivalTimeUs params)
          (randomBetween d.rand params.papersRequiredLowerBound params.papersRequiredUpperBound) }
  else d

def stampArrival (d : Data) : Data :=
  d.modifyReceiver fun r => { r with job := { r.job with systemArrivalTimeUs := d.clock } }

/-- The arrival of the job in the system. -/
def reportArrival (mode : LogMode) (d : Data) : Data :=
  (d.emit mode (.systemArrival d.receiver.job d.receiver.previousJobArrivalTimeUs)).emit mode
    (.statsUpdate (timedQueueLength d.jobQueue))

/-- `queue_length = timed_queue_length(job_queue)`. -/
def readQueueLength (d : Data) : Data :=
  d.modifyReceiver fun r => { r with queueLength := timedQueueLength d.jobQueue }

/-- `params->queue_capacity != -1 && queue_length >= params->queue_capacity`. -/
def isQueueFull (params : SimulationParameters) (d : Data) : Bool :=
  params.queueCapacity != -1 && decide (params.queueCapacity ≤ d.receiver.queueLength)

/-- The end of an iteration that dropped its job. -/
def finishDropped (d : Data) : Data :=
  d.modifyReceiver fun r =>
    { r with previousJobArrivalTimeUs := r.job.systemArrivalTimeUs, jobId := r.jobId + 1 }

/-- The queue arrival time of the job, and the time stamp of the queue before it. -/
def stampQueueArrival (d : Data) : Data :=
  d.modifyReceiver fun r =>
    { r with
      job := { r.job with queueArrivalTimeUs := d.clock }
      queueLastInteractionTimeUs := d.jobQueue.lastInteractionTimeUs }

def enqueueJob (d : Data) : Data :=
  { d with jobQueue := timedQueueEnqueue d.jobQueue d.clock d.receiver.job }

/-- The peak length, from the length before the job, and the arrival of the job in the queue. -/
def reportQueueArrival (mode : LogMode) (d : Data) : Data :=
  let d := d.modifyStats fun st =>
    { st with
      maxJobQueueLength :=
        if d.receiver.queueLength > st.maxJobQueueLength then d.receiver.queueLength
        else st.maxJobQueueLength }
  ((d.emit mode (.queueArrival d.receiver.job d.receiver.queueLastInteractionTimeUs)).emit mode
    (.jobUpdate d.receiver.job)).emit mode (.statsUpdate (timedQueueLength d.jobQueue))

/-- `previous_job_arrival_time_us = job->system_arrival_time_us`. -/
def keepArrivalTime (d : Data) : Data :=
  d.modifyReceiver fun r => { r with previousJobArrivalTimeUs := r.job.systemArrivalTimeUs }

end Receiver

open Receiver in
/-- `job_receiver_thread_func`. -/
def receiverCode (setup : Setup) : ReceiverPc → ReceiverInstr
  | .start => .setCancelState false .readStart
  | .readStart => .act readStart fun _ => .nextJob
  | .nextJob =>
      .act (createJob setup.params) fun d =>
        if (d.receiver.jobId : Int) < setup.params.numJobs then .enableCancel else .endLockState
  | .enableCancel => .setCancelState true .sleep
  | .sleep => .sleep .disableCancel
  | .disableCancel => .setCancelState false .lockState
  | .lockState => .lock .simulationStateMutex .readTerminate
  | .readTerminate =>
      .unlock .simulationStateMutex
        (fun d => d.modifyReceiver fun r => { r with terminateNow := d.gTerminateNow })
        fun d => if d.receiver.terminateNow then .abort else .stampArrival
  | .abort =>
      -- written without `simulation_state_mutex`
      .act (fun d => { d with allJobsArrived := true }) fun _ => .endLockState
  | .stampArrival => .act stampArrival fun _ => .lockStatsArrival
  | .lockStatsArrival => .lock .statsMutex .emitArrival
  | .emitArrival =>
      .call (logMutex setup.mode) (reportArrival setup.mode) fun _ => .unlockStatsArrival
  | .unlockStatsArrival => .unlock .statsMutex id fun _ => .lockQueue
  | .lockQueue => .lock .jobQueueMutex .checkCapacity
  | .checkCapacity =>
      .act readQueueLength fun d =>
        if isQueueFull setup.params d then .dropUnlockQueue else .stampQueueArrival
  | .dropUnlockQueue => .unlock .jobQueueMutex id fun _ => .lockStatsDrop
  | .lockStatsDrop => .lock .statsMutex .emitDrop
  | .emitDrop =>
      .call (logMutex setup.mode)
        (fun d => d.emit setup.mode
          (.droppedJob d.receiver.job d.receiver.previousJobArrivalTimeUs))
        fun _ => .unlockStatsDrop
  | .unlockStatsDrop => .unlock .statsMutex finishDropped fun _ => .nextJob
  | .stampQueueArrival => .act stampQueueArrival fun _ => .enqueue
  | .enqueue => .act enqueueJob fun _ => .lockStatsQueue
  | .lockStatsQueue => .lock .statsMutex .emitQueueArrival
  | .emitQueueArrival =>
      .call (logMutex setup.mode) (reportQueueArrival setup.mode) fun _ => .unlockStatsQueue
  | .unlockStatsQueue => .unlock .statsMutex keepArrivalTime fun _ => .notifyPrinters
  | .notifyPrinters => .broadcast .jobQueueNotEmptyCv .unlockQueue
  | .unlockQueue =>
      .unlock .jobQueueMutex (fun d => d.modifyReceiver fun r => { r with jobId := r.jobId + 1 })
        fun _ => .nextJob
  | .endLockState => .lock .simulationStateMutex .endSetArrived
  | .endSetArrived =>
      .unlock .simulationStateMutex (fun d => { d with allJobsArrived := true })
        fun _ => .endLockQueue
  | .endLockQueue => .lock .jobQueueMutex .endNotifyPrinters
  | .endNotifyPrinters => .broadcast .jobQueueNotEmptyCv .endUnlockQueue
  | .endUnlockQueue => .unlock .jobQueueMutex id fun _ => .exit
  | .exit => .exit

end Orchestrator
