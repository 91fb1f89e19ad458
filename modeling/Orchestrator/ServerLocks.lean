import Orchestrator.Server
import Orchestrator.Pthread.LockOrder

/-!
# The mutexes of the server

The event loop of `server.c` takes `g_ws_mutex` when a client connects or goes, and
`g_server_state_mutex` when it applies a config, starts a run or answers a status command; the
runner takes the second one at its end.  `Server.step` has these sections as single steps.  Here
they are taken apart, on top of the same state.

* `LoopPc` — where the event loop stands in such a section.
* `LockedServer.step` — one step, and `LockedServer.owner`, `LockedServer.requests` — who owns and
  who asks for which mutex.
-/

namespace Orchestrator

open Pthread

/-- Where the event loop stands.  Between two callbacks, and in a stop command, it is `idle` here:
the stop handler has counters of its own. -/
inductive LoopPc where
  | idle
  -- `MG_EV_WS_OPEN`
  | openLock (id : ULong)
  | openSet (id : ULong)
  -- `MG_EV_CLOSE`
  | closeLock (id : ULong)
  | closeClear (id : ULong)
  -- the start command
  | configLock (config : StartConfig)
  | configApply (config : StartConfig)
  | startLock
  | startTest
  -- the status command
  | statusLock
  | statusRead

namespace LoopPc

def isIdle : LoopPc → Bool
  | .idle => true
  | _ => false

/-- The mutex the event loop has to take next. -/
def requests : LoopPc → Option Mutex
  | .openLock _ | .closeLock _ => some .wsMutex
  | .configLock _ | .startLock | .statusLock => some .serverStateMutex
  | _ => none

/-- The mutex the event loop is inside. -/
def held : LoopPc → Option Mutex
  | .openSet _ | .closeClear _ => some .wsMutex
  | .configApply _ | .startTest | .statusRead => some .serverStateMutex
  | _ => none

lemma held_of_isIdle {q : LoopPc} (h : q.isIdle = true) : q.held = none := by
  cases q <;> first | rfl | cases h

lemma held_of_requests {q : LoopPc} {m : Mutex} (h : q.requests = some m) : q.held = none := by
  cases q <;> first | rfl | cases h

end LoopPc

/-- The server, with the two mutexes of the process and the connection id. -/
structure LockedServer where
  srv : Server
  loop : LoopPc
  connId : ULong
  wsOwner : Owner Tid
  serverStateOwner : Owner Tid

/-- What arrives at the event loop, stop commands apart. -/
inductive LoopEvent where
  | opened (id : ULong)
  | closed (id : ULong)
  | start (config : StartConfig)
  | status

/-- The first statement of `fn` for an event. -/
def LoopEvent.entry : LoopEvent → LoopPc
  | .opened id => .openLock id
  | .closed id => .closeLock id
  | .start config =>
      if (Double.num 0).lt (config.jobCount.getD (.num 0)) then .configLock config else .startLock
  | .status => .statusLock

inductive LockedAction where
  /-- a step of a thread, the stop command among them -/
  | run (a : SysAction)
  | event (e : LoopEvent)
  /-- the event loop goes on in a callback -/
  | loop
  | clearStats
  /-- the runner takes `g_server_state_mutex` at its end -/
  | finishLock
  | finish

/-- The thread that takes a step. -/
def actor : SysAction → Option Tid
  | .run t => some t
  | .accept t => some t
  | .spurious t => some t
  | .env _ => none

namespace LockedServer

def initial (params : SimulationParameters) : LockedServer where
  srv := initContext params
  loop := .idle
  connId := 0
  wsOwner := .free
  serverStateOwner := .free

/-- The runner is at its last statements. -/
def runnerAtEnd (ls : LockedServer) : Bool := ls.srv.isRunning && ls.srv.cleared

/-- A log call needs `g_ws_mutex`. -/
def needsWs (ls : LockedServer) : SysAction → Bool
  | .run t => decide (ls.srv.sys.requests (program ls.srv.setup) t = some .wsMutex)
  | _ => false

/-- The event loop is in one place at a time, and nobody logs while it is inside `g_ws_mutex`. -/
def allows (ls : LockedServer) (a : SysAction) : Bool :=
  (ls.loop.isIdle || decide (actor a ≠ some .stopper)) &&
    (decide (ls.wsOwner = .free) || !ls.needsWs a)

/-- The event loop goes on in a callback. -/
def stepLoop (ls : LockedServer) : LoopPc → Option LockedServer
  | .idle => none
  | .openLock id =>
      if ls.wsOwner = .free then some { ls with loop := .openSet id, wsOwner := .held .stopper }
      else none
  | .openSet id => some { ls with loop := .idle, connId := id, wsOwner := .free }
  | .closeLock id =>
      if ls.wsOwner = .free then some { ls with loop := .closeClear id, wsOwner := .held .stopper }
      else none
  | .closeClear id =>
      some { ls with
        loop := .idle
        connId := if ls.connId = id then 0 else ls.connId
        wsOwner := .free }
  | .configLock config =>
      if ls.serverStateOwner = .free then
        some { ls with loop := .configApply config, serverStateOwner := .held .stopper }
      else none
  | .configApply config =>
      some { ls with
        srv := { ls.srv with params := applyConfig config ls.srv.params }
        loop := .startLock
        serverStateOwner := .free }
  | .startLock =>
      if ls.serverStateOwner = .free then
        some { ls with loop := .startTest, serverStateOwner := .held .stopper }
      else none
  | .startTest =>
      -- `start_simulation_async`; the config is applied already
      (ls.srv.step (.start {})).map fun srv =>
        { ls with srv := srv, loop := .idle, serverStateOwner := .free }
  | .statusLock =>
      if ls.serverStateOwner = .free then
        some { ls with loop := .statusRead, serverStateOwner := .held .stopper }
      else none
  | .statusRead => some { ls with loop := .idle, serverStateOwner := .free }

/-- One step of the server; `none` if it is not enabled. -/
def step (ls : LockedServer) : LockedAction → Option LockedServer
  | .run a =>
      if ls.allows a then (ls.srv.step (.run a)).map fun srv => { ls with srv := srv } else none
  | .event e =>
      if ls.loop.isIdle && decide (((ls.srv.sys.ctl .stopper).pc : StopPc) = .idle) then
        some { ls with loop := e.entry }
      else none
  | .loop => ls.stepLoop ls.loop
  | .clearStats => (ls.srv.step .clearStats).map fun srv => { ls with srv := srv }
  | .finishLock =>
      if ls.runnerAtEnd && decide (ls.serverStateOwner = .free) then
        some { ls with serverStateOwner := .held .main }
      else none
  | .finish =>
      if ls.serverStateOwner = .held .main then
        (ls.srv.step .finish).map fun srv => { ls with srv := srv, serverStateOwner := .free }
      else none

/-- Who owns a mutex. -/
def owner (ls : LockedServer) : Mutex → Owner Tid
  | .wsMutex => ls.wsOwner
  | .serverStateMutex => ls.serverStateOwner
  | m => ls.srv.sys.owner m

/-- The mutex a thread has to take before it can go on. -/
def requests (ls : LockedServer) : Tid → Option Mutex
  | .stopper =>
      if ls.loop.isIdle then ls.srv.sys.requests (program ls.srv.setup) .stopper
      else ls.loop.requests
  | .main =>
      if ls.runnerAtEnd then
        if ls.serverStateOwner = .held .main then none else some .serverStateMutex
      else ls.srv.sys.requests (program ls.srv.setup) .main
  | t => ls.srv.sys.requests (program ls.srv.setup) t

end LockedServer

/-- The server, with its mutexes, comes to this state. -/
def LockedReach (params : SimulationParameters) : LockedServer → Prop :=
  Relation.ReflTransGen (fun ls ls' => ∃ a, ls.step a = some ls') (LockedServer.initial params)

/-- Applying a config and starting the run without one is the start command. -/
lemma start_in_two (srv : Server) (config : StartConfig) :
    { srv with params := applyConfig config srv.params }.step (.start {}) =
      srv.step (.start config) := by
  have hnone : ∀ p, applyConfig {} p = p := fun p => rfl
  simp only [Server.step, hnone]

end Orchestrator
