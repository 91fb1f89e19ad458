import Orchestrator.System

/-!
# The server around the runs

`server.c`: the context, the `start` command with its config, and the end of `simulation_runner`.
The stop command is the stop handler of the run.  It and the start command run in the event loop, so
the loop is back at `idle` when either begins.

* `Server.step` — one step: of a run's threads, of the event loop, or of the runner's last
  statements.
* `handled` — a history variable: the commands and run completions since `init_context`.

A thread id stays in the context when the thread is gone.  A cancellation sent to it then is taken
to have no effect.  So is one sent before the first run has created its threads, when the ids are 0
and the process would crash: the steps allow more than the source there.
-/

namespace Orchestrator

/-! ## The config of a start command -/

/-- What `mg_json_get_num` and `mg_json_get_bool` find under `$.config`. -/
structure StartConfig where
  jobCount : Option Double := none
  printRate : Option Double := none
  consumerCount : Option Double := none
  refillRate : Option Double := none
  paperCapacity : Option Double := none
  jobArrivalTime : Option Double := none
  maxQueue : Option Double := none
  minPapers : Option Double := none
  maxPapers : Option Double := none
  autoScaling : Option Bool := none

/-- The config overrides, which apply when there is a positive job count. -/
def applyConfig (config : StartConfig) (p : SimulationParameters) : SimulationParameters :=
  let numJobs := config.jobCount.getD (.num 0)
  if (Double.num 0).lt numJobs then
    { p with
      numJobs := numJobs.toInt
      printingRate := config.printRate.getD p.printingRate
      consumerCount := (config.consumerCount.map Double.toInt).getD p.consumerCount
      refillRate := config.refillRate.getD p.refillRate
      printerPaperCapacity := (config.paperCapacity.map Double.toInt).getD p.printerPaperCapacity
      jobArrivalTimeUs :=
        (config.jobArrivalTime.map fun x => Double.ofInt x.toInt).getD p.jobArrivalTimeUs
      queueCapacity := (config.maxQueue.map Double.toInt).getD p.queueCapacity
      papersRequiredLowerBound :=
        (config.minPapers.map Double.toInt).getD p.papersRequiredLowerBound
      papersRequiredUpperBound :=
        (config.maxPapers.map Double.toInt).getD p.papersRequiredUpperBound
      autoScaling := (config.autoScaling.map fun b => if b then 1 else 0).getD p.autoScaling }
  else p

/-! ## The context -/

/-- What the server has handled. -/
inductive Handled where
  | start
  | stop
  | completed
  deriving DecidableEq, Repr

/-- `simulation_context_t`, with the threads and the globals of the process. -/
structure Server where
  sys : Sys
  params : SimulationParameters
  isRunning : Bool
  /-- the runner has cleared the statistics after its run -/
  cleared : Bool
  handled : List Handled

/-- The setup of the server's runs. -/
abbrev Server.setup (srv : Server) : Setup := ⟨.server, srv.params⟩

/-- `init_context`, then the command line: no thread but the event loop. -/
def initContext (params : SimulationParameters) : Server where
  sys :=
    let fresh := freshState ⟨.server, params⟩
    { fresh with
      -- `memset(ctx, 0, sizeof(*ctx))`
      data := { fresh.data with pool := printerPoolInit 0 0 }
      ctl
        | .main => { fresh.ctl .main with status := .absent }
        | t => fresh.ctl t }
  params := params
  isRunning := false
  cleared := false
  handled := []

/-- `pthread_create` of the runner, which initialises its locals and the pool.  The shared state and
whatever thread is left of an earlier run stay. -/
def startRunner (params : SimulationParameters) (s : Sys) : Sys where
  data :=
    { s.data with
      pool := printerPoolInit params.consumerCount params.printerPaperCapacity
      receiver := {}
      refiller := {}
      printer := fun _ => {}
      autoscaler := {}
      mainI := 1 }
  ctl t := if (s.ctl t).status.alive then s.ctl t else (freshState ⟨.server, params⟩).ctl t
  owner := s.owner

inductive ServerAction where
  /-- a step of a thread; one of the event loop at `idle` receives a stop command -/
  | run (a : SysAction)
  /-- the event loop receives a start command -/
  | start (config : StartConfig)
  /-- `ctx->stats = (simulation_statistics_t){0}` -/
  | clearStats
  /-- `ctx->is_running = 0` -/
  | finish

namespace Server

/-- The stop command arrives. -/
def isStopCommand (s : Sys) (a : SysAction) : Bool :=
  decide (a = .run .stopper) && decide (((s.ctl .stopper).pc : StopPc) = .idle)

/-- One step of the server; `none` if it is not enabled. -/
def step (srv : Server) : ServerAction → Option Server
  | .run a =>
      (Pthread.step (program srv.setup) srv.sys a).map fun sys =>
        { srv with
          sys := sys
          handled := srv.handled ++ if isStopCommand srv.sys a then [.stop] else [] }
  | .start config =>
      if ((srv.sys.ctl .stopper).pc : StopPc) = .idle then
        let params := applyConfig config srv.params
        -- `start_simulation_async`
        if srv.isRunning then some { srv with params := params, handled := srv.handled ++ [.start] }
        else some
          { sys := startRunner params srv.sys
            params := params
            isRunning := true
            cleared := false
            handled := srv.handled ++ [.start] }
      else none
  | .clearStats =>
      if (srv.sys.ctl .main).status = .ended ∧ srv.isRunning = true ∧ srv.cleared = false then
        some { srv with
          sys := { srv.sys with data := srv.sys.data.modifyStats fun _ => .zero }
          cleared := true }
      else none
  | .finish =>
      if srv.isRunning = true ∧ srv.cleared = true then
        some { srv with isRunning := false, handled := srv.handled ++ [.completed] }
      else none

/-- A list of steps; `none` if one of them is not enabled. -/
def run (srv : Server) (as : List ServerAction) : Option Server :=
  as.foldlM step srv

end Server

/-- The server comes to this state. -/
def ServerReach (params : SimulationParameters) : Server → Prop :=
  Relation.ReflTransGen (fun srv srv' => ∃ a, srv.step a = some srv') (initContext params)

lemma serverReach_of_run {params : SimulationParameters} {srv srv' : Server}
    {as : List ServerAction} (h : ServerReach params srv) (hrun : srv.run as = some srv') :
    ServerReach params srv' := by
  induction as generalizing srv with
  | nil =>
      obtain rfl : srv = srv' := by simpa [Server.run] using hrun
      exact h
  | cons a as ih =>
      obtain ⟨srv₁, hs, hrest⟩ : ∃ srv₁, srv.step a = some srv₁ ∧ srv₁.run as = some srv' := by
        simpa [Server.run, Option.bind_eq_some_iff] using hrun
      exact ih (h.tail ⟨a, hs⟩) hrest

/-- Thread `t` runs `n` times. -/
def serverRuns (t : Tid) (n : ℕ) : List ServerAction := List.replicate n (.run (.run t))

/-- A property that the server is computed to have after a list of steps is one of a reachable
server. -/
lemma exists_server_run (params : SimulationParameters) (as : List ServerAction)
    (test : Server → Prop) [DecidablePred test]
    (h : ((initContext params).run as).any (fun srv => decide (test srv)) = true) :
    ∃ srv, ServerReach params srv ∧ test srv := by
  obtain ⟨srv, hrun, htest⟩ := (Option.any_eq_true _ _).mp h
  exact ⟨srv, serverReach_of_run .refl hrun, of_decide_eq_true htest⟩

end Orchestrator
