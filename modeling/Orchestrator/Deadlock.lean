import Orchestrator.ServerLocks
import Orchestrator.Steps

/-!
# No mutex deadlock

The mutexes are taken in one order, `pool_mutex` first and `g_server_state_mutex` last, by all
threads of a run and by the event loop.

* `ranked` — every instruction of the six threads keeps to the order, also where a printer's two
  queue mutexes are one.
* `LockedServer.Inv` — what the event loop and the runner own; kept by every step of the server.
* `no_mutex_deadlock` — the result, for runs from a fresh state and for the server.
-/

namespace Orchestrator

open Pthread

variable {setup : Setup} {s : Sys}

/-! ## The order -/

/-- The place of each mutex in the order. -/
def Mutex.rank : Mutex → ℕ
  | .poolMutex => 0
  | .jobQueueMutex => 1
  | .paperRefillQueueMutex => 2
  | .statsMutex => 3
  | .simulationStateMutex => 4
  | .wsMutex => 5
  | .serverStateMutex => 6

lemma Mutex.rank_injective : Function.Injective Mutex.rank := by
  intro m m' h
  cases m <;> cases m' <;> first | rfl | cases h

lemma logMutex_eq_ws {mode : LogMode} {m : Mutex} (h : logMutex mode = some m) :
    m = .wsMutex := by
  cases mode <;> cases h
  rfl

/-! ## The threads of a run -/

/-- The mutex a log call or a lock asks for is above the one mutex held, or above all of them. -/
lemma printer_requests {i : Slot} {args : PrinterThreadArgs} {q : PrinterPc} {m : Mutex}
    (hargs : IsThreadArgs args) (h : (printerCode setup i args q).requests = some m) :
    ∀ m' ∈ printerHeld args q, m'.rank < m.rank := by
  intro m' hm'
  rcases hargs with rfl | rfl <;> cases q <;>
    simp only [printerCode, Instr.requests, printerHeld, reduceCtorEq, List.not_mem_nil,
      List.mem_singleton] at h hm'
  all_goals
    subst hm'
    first
      | (obtain rfl := logMutex_eq_ws h; decide)
      | (obtain rfl := Option.some.inj h; decide)

lemma receiver_requests {q : ReceiverPc} {m : Mutex}
    (h : (receiverCode setup q).requests = some m) :
    ∀ m' ∈ receiverHeld q, m'.rank < m.rank := by
  intro m' hm'
  cases q <;> simp only [receiverCode, Instr.requests, receiverHeld, reduceCtorEq,
    List.not_mem_nil, List.mem_cons, or_false] at h hm'
  all_goals
    first
      | obtain rfl := logMutex_eq_ws h
      | obtain rfl := Option.some.inj h
    rcases hm' with rfl | rfl <;> decide

lemma refiller_requests {q : RefillerPc} {m : Mutex}
    (h : (refillerCode setup q).requests = some m) :
    ∀ m' ∈ refillerHeld q, m'.rank < m.rank := by
  intro m' hm'
  cases q <;> simp only [refillerCode, Instr.requests, refillerHeld, reduceCtorEq,
    List.not_mem_nil, List.mem_singleton] at h hm'
  all_goals
    subst hm'
    first
      | (obtain rfl := logMutex_eq_ws h; decide)
      | (obtain rfl := Option.some.inj h; decide)

lemma stop_requests {q : StopPc} {m : Mutex} (h : (stopCode setup q).requests = some m) :
    ∀ m' ∈ stopHeld q, m'.rank < m.rank := by
  intro m' hm'
  cases q <;> simp only [stopCode, Instr.requests, stopHeld, reduceCtorEq,
    List.not_mem_nil, List.mem_cons, or_false] at h hm'
  all_goals
    first
      | obtain rfl := logMutex_eq_ws h
      | obtain rfl := Option.some.inj h
    rcases hm' with rfl | rfl <;> decide

lemma autoscaler_requests {q : AutoscalerPc} {m : Mutex}
    (h : (autoscalerCode setup q).requests = some m) :
    ∀ m' ∈ autoscalerHeld q, m'.rank < m.rank := by
  intro m' hm'
  cases q <;> simp only [autoscalerCode, Instr.requests, autoscalerHeld, reduceCtorEq,
    List.not_mem_nil, List.mem_singleton] at h hm'
  all_goals
    subst hm'
    first
      | (obtain rfl := logMutex_eq_ws h; decide)
      | (obtain rfl := Option.some.inj h; decide)

/-- **The threads of a run keep to the order.** -/
theorem ranked (setup : Setup) : (lockDiscipline setup).Ranked Mutex.rank where
  requests t args q hargs m h := by
    cases t with
    | main => intro m' hm'; cases hm'
    | stopper => exact stop_requests h
    | receiver => exact receiver_requests h
    | refiller => exact refiller_requests h
    | autoscaler => exact autoscaler_requests h
    | printer i => exact printer_requests hargs h
  waits t args q _ c m next h := by
    intro m' hm' hne
    have hheld : heldBy t args q = [m] := (wait_held h).1
    rw [show (lockDiscipline setup).held t args q = [m] from hheld, List.mem_singleton] at hm'
    exact absurd hm' hne

/-- In every state of a run the mutexes are taken in order. -/
lemma run_ordered {ok : Sys → SysAction → Prop}
    (h : Reach (program setup) ok (freshState setup) s) :
    Ordered Mutex.rank s.owner (s.requests (program setup)) :=
  (ranked setup).ordered (lockInv h) (waitPlace (mutex_fresh setup) h)

/-! ## The server -/

variable {params : SimulationParameters} {ls ls' : LockedServer} {srv srv' : Server}

/-- Where a thread waits does not depend on the parameters of the run. -/
lemma wait_params {mode : LogMode} {params params' : SimulationParameters} {t : Tid}
    {args : PrinterThreadArgs} {q next : Pc t} {c : Cond} {m : Mutex}
    (h : code ⟨mode, params⟩ t args q = .wait c m next) :
    code ⟨mode, params'⟩ t args q = .wait c m next := by
  rcases waiter_cases h with ⟨i, rfl⟩ | rfl
  · cases q <;> cases h <;> rfl
  · cases q <;> cases h
    rfl

/-- The mutexes of the threads of a run are as the discipline says, and its waiting threads are
behind their waits. -/
structure Disciplined (srv : Server) : Prop where
  lock : (lockDiscipline srv.setup).Inv srv.sys
  place : WaitPlace (program srv.setup) srv.sys

namespace Disciplined

lemma ordered (h : Disciplined srv) :
    Ordered Mutex.rank srv.sys.owner (srv.sys.requests (program srv.setup)) :=
  (ranked srv.setup).ordered h.lock h.place

/-- The discipline does not depend on the parameters. -/
lemma setParams (h : Disciplined srv) (params : SimulationParameters) :
    Disciplined { srv with params := params } where
  lock := ⟨h.lock.args, h.lock.owner, h.lock.waits⟩
  place u m hm := by
    obtain ⟨c, q, hq⟩ := h.place u m hm
    exact ⟨c, q, wait_params hq⟩

lemma initContext (params : SimulationParameters) : Disciplined (initContext params) where
  lock := Discipline.inv_init _ (fun t => .inl (by cases t <;> rfl)) (fun _ => rfl)
    (fun t => by cases t <;> rfl) (fun t => by cases t <;> rfl)
  place u m hm := by
    have hnone : ((Orchestrator.initContext params).sys.ctl u).status.mutex = none := by
      cases u <;> rfl
    rw [hnone] at hm
    cases hm

/-- A thread that the start command replaces was not alive, and holds nothing where it is put. -/
lemma startRunner_ctl (setup : Setup) (params : SimulationParameters) (s : Sys) (u : Tid) :
    (startRunner params s).ctl u = s.ctl u ∨
      ((s.ctl u).status.alive = false ∧ IsThreadArgs ((startRunner params s).ctl u).arg ∧
        (lockDiscipline setup).heldAt (startRunner params s) u = [] ∧
        ((startRunner params s).ctl u).status.mutex = none) := by
  by_cases ha : (s.ctl u).status.alive = true
  · exact .inl (if_pos ha)
  · have hnew : (startRunner params s).ctl u = (freshState ⟨.server, params⟩).ctl u := if_neg ha
    refine .inr ⟨by simpa using ha, ?_, ?_, ?_⟩
    · rw [hnew]; exact .inl (by cases u <;> rfl)
    · rw [Discipline.heldAt, hnew]; cases u <;> rfl
    · rw [hnew]; exact mutex_fresh _ u

lemma startRunner (h : Disciplined srv) (isRunning cleared : Bool) (handled : List Handled) :
    Disciplined
      ⟨startRunner srv.params srv.sys, srv.params, isRunning, cleared, handled⟩ where
  lock := h.lock.replace rfl (startRunner_ctl srv.setup srv.params srv.sys)
  place u m hm := by
    rcases startRunner_ctl srv.setup srv.params srv.sys u with hsame | ⟨_, _, _, hnone⟩
    · change ((Orchestrator.startRunner srv.params srv.sys).ctl u).status.mutex = some m at hm
      rw [hsame] at hm
      obtain ⟨c, q, hq⟩ := h.place u m hm
      refine ⟨c, q, ?_⟩
      show (program srv.setup).code u
        ((Orchestrator.startRunner srv.params srv.sys).ctl u).arg q = .wait c m
        ((Orchestrator.startRunner srv.params srv.sys).ctl u).pc
      rw [hsame]
      exact hq
    · exact absurd (hnone.symm.trans hm) (by simp)

/-- **Every step of the server keeps the discipline.** -/
lemma step {a : ServerAction} (h : Disciplined srv) (hs : srv.step a = some srv') :
    Disciplined srv' := by
  cases a with
  | run a =>
      obtain ⟨sys, hsys, rfl⟩ := Option.map_eq_some_iff.mp hs
      exact ⟨h.lock.step hsys, h.place.step hsys⟩
  | start config =>
      simp only [Server.step] at hs
      split at hs
      · split at hs
        · cases hs
          exact ⟨(h.setParams _).lock, (h.setParams _).place⟩
        · cases hs
          exact (h.setParams (applyConfig config srv.params)).startRunner true false _
      · cases hs
  | clearStats =>
      simp only [Server.step] at hs
      split at hs
      · cases hs
        exact ⟨⟨h.lock.args, h.lock.owner, h.lock.waits⟩, h.place⟩
      · cases hs
  | finish =>
      simp only [Server.step] at hs
      split at hs
      · cases hs
        exact ⟨h.lock, h.place⟩
      · cases hs

end Disciplined

/-- What the event loop and the runner own, besides the mutexes of the threads. -/
structure LockedServer.Inv (ls : LockedServer) : Prop where
  run : Disciplined ls.srv
  idle : ls.loop.isIdle = false → ls.srv.sys.stopPc = .idle
  ws : ∀ t, ls.wsOwner = .held t → t = .stopper ∧ ls.loop.held = some .wsMutex
  serverState : ∀ t, ls.serverStateOwner = .held t →
    (t = .stopper ∧ ls.loop.held = some .serverStateMutex) ∨
      (t = .main ∧ ls.runnerAtEnd = true)

namespace LockedServer

/-- A step of another thread leaves the event loop between two frames. -/
lemma stopPc_of_step {a : SysAction} {s s' : Sys} (h : Pthread.step (program setup) s a = some s')
    (ha : actor a ≠ some .stopper) (hidle : s.stopPc = .idle) : s'.stopPc = .idle := by
  rcases place_cases h .stopper with hpl | ⟨hrun, _⟩ | ⟨t, _, hc⟩
  · exact hpl.1.trans hidle
  · rw [hrun] at ha
    exact absurd rfl ha
  · show (s'.ctl .stopper).pc = StopPc.idle
    rw [hc.fresh]
    rfl

/-- The event loop takes a mutex, and then owns it. -/
lemma Inv.acquire (h : ls.Inv) {loop loop' : LoopPc} (hloop : ls.loop = loop)
    (hidle : loop.isIdle = false) (hheld : loop.held = none) :
    (ls.wsOwner = .free → loop'.held = some .wsMutex →
      ({ ls with loop := loop', wsOwner := .held .stopper } : LockedServer).Inv) ∧
    (ls.serverStateOwner = .free → loop'.held = some .serverStateMutex →
      ({ ls with loop := loop', serverStateOwner := .held .stopper } : LockedServer).Inv) := by
  subst hloop
  have hpc : ls.srv.sys.stopPc = .idle := h.idle hidle
  refine ⟨fun hfree hnew => ⟨h.run, fun _ => hpc, fun t ht => ?_, fun t ht => ?_⟩,
    fun hfree hnew => ⟨h.run, fun _ => hpc, fun t ht => ?_, fun t ht => ?_⟩⟩
  · exact ⟨(Owner.held.inj ht).symm, hnew⟩
  · rcases h.serverState t ht with ⟨_, hin⟩ | hmain
    · rw [hheld] at hin; cases hin
    · exact .inr hmain
  · obtain ⟨_, hin⟩ := h.ws t ht
    rw [hheld] at hin; cases hin
  · exact .inl ⟨(Owner.held.inj ht).symm, hnew⟩

/-- The event loop gives up `g_ws_mutex`. -/
lemma Inv.releaseWs (h : ls.Inv) (hin : ls.loop.held = some .wsMutex) (connId : ULong) :
    ({ ls with loop := .idle, connId := connId, wsOwner := .free } : LockedServer).Inv := by
  refine ⟨h.run, fun hidle => (by cases hidle), fun t ht => (by cases ht), fun t ht => ?_⟩
  rcases h.serverState t ht with ⟨_, hin'⟩ | hmain
  · rw [hin] at hin'; cases hin'
  · exact .inr hmain

/-- The event loop gives up `g_server_state_mutex`, perhaps with another state of the server. -/
lemma Inv.releaseState (h : ls.Inv) (hin : ls.loop.held = some .serverStateMutex)
    (hrun : Disciplined srv) {loop : LoopPc}
    (hidle : loop.isIdle = false → srv.sys.stopPc = .idle) :
    ({ ls with srv := srv, loop := loop, serverStateOwner := .free } : LockedServer).Inv := by
  refine ⟨hrun, hidle, fun t ht => ?_, fun t ht => by cases ht⟩
  obtain ⟨_, hin'⟩ := h.ws t ht
  rw [hin] at hin'
  cases hin'

lemma Inv.stepLoop (h : ls.Inv) (hs : ls.stepLoop ls.loop = some ls') : ls'.Inv := by
  have hpc : ls.loop.isIdle = false → ls.srv.sys.stopPc = .idle := h.idle
  cases hloop : ls.loop with
  | idle => rw [hloop] at hs; cases hs
  | openLock id | closeLock id =>
      rw [hloop] at hs
      simp only [LockedServer.stepLoop] at hs
      split at hs
      · next hfree =>
        cases hs
        exact (h.acquire hloop rfl rfl).1 hfree rfl
      · cases hs
  | configLock config =>
      rw [hloop] at hs
      simp only [LockedServer.stepLoop] at hs
      split at hs
      · next hfree =>
        cases hs
        exact (h.acquire hloop rfl rfl).2 hfree rfl
      · cases hs
  | startLock | statusLock =>
      rw [hloop] at hs
      simp only [LockedServer.stepLoop] at hs
      split at hs
      · next hfree =>
        cases hs
        exact (h.acquire hloop rfl rfl).2 hfree rfl
      · cases hs
  | openSet id | closeClear id =>
      rw [hloop] at hs
      cases hs
      exact h.releaseWs (by rw [hloop]; rfl) _
  | configApply config =>
      rw [hloop] at hs hpc
      cases hs
      exact h.releaseState (by rw [hloop]; rfl)
        (h.run.setParams (applyConfig config ls.srv.params)) (fun _ => hpc rfl)
  | startTest =>
      rw [hloop] at hs
      obtain ⟨srv, hsrv, rfl⟩ := Option.map_eq_some_iff.mp hs
      exact h.releaseState (by rw [hloop]; rfl) (h.run.step hsrv) (fun hc => by cases hc)
  | statusRead =>
      rw [hloop] at hs
      cases hs
      exact h.releaseState (by rw [hloop]; rfl) h.run (fun hc => by cases hc)

/-- **Every step of the server keeps the invariant.** -/
lemma Inv.step {a : LockedAction} (h : ls.Inv) (hs : ls.step a = some ls') : ls'.Inv := by
  cases a with
  | run a =>
      simp only [LockedServer.step] at hs
      split at hs
      · next hallow =>
        obtain ⟨srv, hsrv, rfl⟩ := Option.map_eq_some_iff.mp hs
        have hrun : Disciplined srv := h.run.step hsrv
        obtain ⟨sys, hsys, rfl⟩ := Option.map_eq_some_iff.mp hsrv
        refine ⟨hrun, fun hidle => ?_, h.ws, h.serverState⟩
        have hactor : actor a ≠ some .stopper := by
          simp only [allows, Bool.and_eq_true, Bool.or_eq_true, decide_eq_true_eq] at hallow
          exact hallow.1.resolve_left (by rw [hidle]; decide)
        exact stopPc_of_step hsys hactor (h.idle hidle)
      · cases hs
  | event e =>
      simp only [LockedServer.step] at hs
      split at hs
      · next hidle =>
        rw [Bool.and_eq_true, decide_eq_true_eq] at hidle
        have hnone : ls.loop.held = none := LoopPc.held_of_isIdle hidle.1
        cases hs
        refine ⟨h.run, fun _ => hidle.2, fun t ht => ?_, fun t ht => ?_⟩
        · obtain ⟨_, hin⟩ := h.ws t ht
          rw [hnone] at hin; cases hin
        · rcases h.serverState t ht with ⟨_, hin⟩ | hmain
          · rw [hnone] at hin; cases hin
          · exact .inr hmain
      · cases hs
  | loop => exact h.stepLoop hs
  | clearStats =>
      obtain ⟨srv, hsrv, rfl⟩ := Option.map_eq_some_iff.mp hs
      have hrun : Disciplined srv := h.run.step hsrv
      simp only [Server.step] at hsrv
      split at hsrv
      · next hend =>
        cases hsrv
        refine ⟨hrun, h.idle, h.ws, fun t ht => (h.serverState t ht).imp_right fun hmain => ?_⟩
        exact ⟨hmain.1, by simp [runnerAtEnd, hend.2.1]⟩
      · cases hsrv
  | finishLock =>
      simp only [LockedServer.step] at hs
      split at hs
      · next hend =>
        rw [Bool.and_eq_true] at hend
        cases hs
        exact ⟨h.run, h.idle, h.ws, fun t ht => .inr ⟨(Owner.held.inj ht).symm, hend.1⟩⟩
      · cases hs
  | finish =>
      simp only [LockedServer.step] at hs
      split at hs
      · obtain ⟨srv, hsrv, rfl⟩ := Option.map_eq_some_iff.mp hs
        have hrun : Disciplined srv := h.run.step hsrv
        simp only [Server.step] at hsrv
        split at hsrv
        · cases hsrv
          exact ⟨hrun, h.idle, h.ws, fun t ht => by cases ht⟩
        · cases hsrv
      · cases hs

theorem inv (h : LockedReach params ls) : ls.Inv := by
  induction h with
  | refl =>
      refine ⟨.initContext params, fun _ => rfl, fun t ht => ?_, fun t ht => ?_⟩
      · cases ht
      · cases ht
  | tail _ hs ih =>
      obtain ⟨a, hs⟩ := hs
      exact ih.step hs

/-! ### The order -/

/-- Neither the event loop in one of its own sections nor the runner at its end owns a mutex of the
threads. -/
lemma Inv.not_owner (h : ls.Inv) {t : Tid}
    (ht : t = .main ∨ (t = .stopper ∧ ls.loop.isIdle = false)) (m : Mutex) :
    ls.srv.sys.owner m ≠ .held t := by
  refine h.run.lock.not_owner ?_
  rcases ht with rfl | ⟨rfl, hidle⟩
  · rfl
  · have hpc : (ls.srv.sys.ctl .stopper).pc = StopPc.idle := h.idle hidle
    show stopHeld (ls.srv.sys.ctl .stopper).pc = []
    rw [hpc]
    rfl

/-- The event loop in one of its own sections: what it owns it is inside of, so it asks for
nothing. -/
lemma Inv.loop_free (h : ls.Inv) (hidle : ls.loop.isIdle = false) {m m' : Mutex}
    (hm : ls.loop.requests = some m) : ls.owner m' ≠ .held .stopper := by
  intro ho
  have hnone : ls.loop.held = none := LoopPc.held_of_requests hm
  have hsys : ls.srv.sys.owner m' ≠ .held .stopper := h.not_owner (.inr ⟨rfl, hidle⟩) m'
  cases m' with
  | wsMutex =>
      obtain ⟨_, hin⟩ := h.ws _ ho
      rw [hnone] at hin; cases hin
  | serverStateMutex =>
      rcases h.serverState _ ho with ⟨_, hin⟩ | ⟨hmain, _⟩
      · rw [hnone] at hin; cases hin
      · cases hmain
  | _ => exact hsys ho

/-- A thread in the code of a run owns only mutexes of the run. -/
lemma Inv.run_owner (h : ls.Inv) {t : Tid} (hmain : t = .main → ls.runnerAtEnd = false)
    (hloop : t = .stopper → ls.loop.isIdle = true) {m : Mutex} (ho : ls.owner m = .held t) :
    ls.srv.sys.owner m = .held t := by
  cases m with
  | wsMutex =>
      obtain ⟨ht, hin⟩ := h.ws _ ho
      rw [LoopPc.held_of_isIdle (hloop ht)] at hin
      cases hin
  | serverStateMutex =>
      rcases h.serverState _ ho with ⟨ht, hin⟩ | ⟨ht, hend⟩
      · rw [LoopPc.held_of_isIdle (hloop ht)] at hin
        cases hin
      · rw [hmain ht] at hend
        cases hend
  | _ => exact ho

/-- **The server keeps to the order.** -/
lemma Inv.ordered (h : ls.Inv) : Ordered Mutex.rank ls.owner ls.requests := by
  intro t m hm m' ho
  have hrun : ls.srv.sys.requests (program ls.srv.setup) t = some m →
      (t = .main → ls.runnerAtEnd = false) → (t = .stopper → ls.loop.isIdle = true) →
      m'.rank < m.rank :=
    fun hreq hmain hloop => h.run.ordered t m hreq m' (h.run_owner hmain hloop ho)
  cases t with
  | stopper =>
      simp only [requests] at hm
      split at hm
      · next hidle => exact hrun hm (fun hc => by cases hc) (fun _ => hidle)
      · next hidle => exact absurd ho (h.loop_free (by simpa using hidle) hm)
  | main =>
      simp only [requests] at hm
      split at hm
      · next hend =>
        split at hm
        · cases hm
        · next hfree =>
          obtain rfl := Option.some.inj hm
          cases m' with
          | wsMutex => decide
          | serverStateMutex => exact absurd ho hfree
          | _ => decide
      · next hend => exact hrun hm (fun _ => by simpa using hend) (fun hc => by cases hc)
  | _ => exact hrun hm (fun hc => by cases hc) (fun hc => by cases hc)

end LockedServer

/-! ## The result -/

/-- **No mutex deadlock.**  In every state of a run, and in every state of the server over any
number of runs, whoever asks for a mutex owns only mutexes strictly before it in the order, and no
circle of threads waits for each other's mutexes. -/
theorem no_mutex_deadlock :
    Function.Injective Mutex.rank ∧
    (∀ (setup : Setup) (s : Sys), Reach (program setup) anyChoice (freshState setup) s →
      Ordered Mutex.rank s.owner (s.requests (program setup)) ∧
      ∀ t, ¬Relation.TransGen (WaitsFor s.owner (s.requests (program setup))) t t) ∧
    (∀ (params : SimulationParameters) (ls : LockedServer), LockedReach params ls →
      Ordered Mutex.rank ls.owner ls.requests ∧
      ∀ t, ¬Relation.TransGen (WaitsFor ls.owner ls.requests) t t) := by
  refine ⟨Mutex.rank_injective, fun setup s hr => ?_, fun params ls hr => ?_⟩
  · have hord := run_ordered hr
    exact ⟨hord, hord.no_deadlock⟩
  · have hord := (LockedServer.inv hr).ordered
    exact ⟨hord, hord.no_deadlock⟩

end Orchestrator
