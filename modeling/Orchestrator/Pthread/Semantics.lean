import Mathlib.Logic.Function.Basic

/-!
# Threads, mutexes, condition variables and deferred cancellation

A small operational semantics for programs written against POSIX threads.  Nothing here knows
which program is run: thread names `T`, their program counters `Pc t`, mutexes `M`, condition
variables `C`, the argument `A` a thread is created with and the shared memory `D` are all
parameters.

* `Instr` — what a thread does next.  Code that touches memory is an `act`, and every call that
  synchronises is an instruction of its own, so a step never spans two of them.
* `Program` — one control flow graph for each thread.
* `step` — one step of the whole system: a thread runs, a thread acts on a cancellation request,
  a condition wait returns spuriously, or the environment moves.

Cancellation is deferred.  `pthread_cancel` only sets `cancelPending`; the thread acts on it at a
cancellation point, and only while its cancellation is enabled.  A thread cancelled inside
`pthread_cond_wait` takes the mutex of the wait again before it ends, and since no cleanup handler
is installed it never gives it back: the mutex then belongs to `Owner.ended`.
-/

namespace Pthread

/-- Who owns a mutex.  A mutex whose owner has terminated stays locked for ever. -/
inductive Owner (T : Type) where
  | free
  | held (t : T)
  | ended (t : T)
  deriving DecidableEq, Repr

/-- Where a thread stands.  `waiting` is a blocked `pthread_cond_wait`; `woken` has been signalled
and must take its mutex again; `cancelled` has acted on a cancellation inside the wait and takes
the mutex again before it ends. -/
inductive Status (M C : Type) where
  | absent
  | running
  | waiting (c : C) (m : M)
  | woken (m : M)
  | cancelled (m : M)
  | ended
  deriving DecidableEq, Repr

/-- The thread was created and has not terminated. -/
def Status.alive {M C : Type} : Status M C → Bool
  | .absent => false
  | .ended => false
  | _ => true

/-- The control state of one thread. -/
structure Thread (P M C A : Type) where
  pc : P
  arg : A
  status : Status M C
  cancelEnabled : Bool
  cancelPending : Bool

/-- One instruction.  The successor of an instruction that changes memory is chosen from the
memory it leaves. -/
inductive Instr (T P M C A D : Type) where
  /-- plain code -/
  | act (f : D → D) (next : D → P)
  /-- a library call that takes and releases the leaf mutex `m` inside and is a cancellation
  point -/
  | call (m : Option M) (f : D → D) (next : D → P)
  | lock (m : M) (next : P)
  /-- the end of a locked section: `f`, then `pthread_mutex_unlock` -/
  | unlock (m : M) (f : D → D) (next : D → P)
  | wait (c : C) (m : M) (next : P)
  | broadcast (c : C) (next : P)
  /-- a blocking call that returns at an arbitrary later time -/
  | sleep (next : P)
  | setCancelState (enabled : Bool) (next : P)
  | cancel (t : D → Option T) (next : P)
  | create (t : D → Option T) (arg : A) (ok : D → Bool) (next fail : P)
  | join (t : D → Option T) (next : P)
  | exit

/-- The program: the entry point and the control flow graph of each thread, and what the
environment does to memory. -/
structure Program (T : Type) (Pc : T → Type) (M C A D E : Type) where
  entry : (t : T) → Pc t
  code : (t : T) → A → Pc t → Instr T (Pc t) M C A D
  env : E → D → D

/-- A state of the whole system. -/
structure State (T : Type) (Pc : T → Type) (M C A D : Type) where
  data : D
  ctl : (t : T) → Thread (Pc t) M C A
  owner : M → Owner T

/-- What the scheduler picks next. -/
inductive Action (T E : Type) where
  | run (t : T)
  | accept (t : T)
  | spurious (t : T)
  | env (e : E)
  deriving DecidableEq

variable {T : Type} {Pc : T → Type} {M C A D E : Type} [DecidableEq T] [DecidableEq M]
  [DecidableEq C]

namespace State

/-- Replace the control state of one thread. -/
def setCtl (s : State T Pc M C A D) (t : T) (th : Thread (Pc t) M C A) : State T Pc M C A D :=
  { s with ctl := Function.update s.ctl t th }

/-- Replace the owner of one mutex. -/
def setOwner (s : State T Pc M C A D) (m : M) (o : Owner T) : State T Pc M C A D :=
  { s with owner := Function.update s.owner m o }

/-- Thread `t` proceeds to `pc` with memory `d`. -/
def goto (s : State T Pc M C A D) (t : T) (d : D) (pc : Pc t) : State T Pc M C A D :=
  { s with data := d, ctl := Function.update s.ctl t { s.ctl t with pc := pc } }

def setStatus (s : State T Pc M C A D) (t : T) (st : Status M C) : State T Pc M C A D :=
  s.setCtl t { s.ctl t with status := st }

/-- Thread `t` terminates.  What it still owns is never given back. -/
def finish (s : State T Pc M C A D) (t : T) : State T Pc M C A D :=
  { s.setStatus t .ended with
    owner := fun m => if s.owner m = .held t then .ended t else s.owner m }

end State

/-- The effect of a broadcast on `c` on one thread. -/
def wake {P : Type} (c : C) (th : Thread P M C A) : Thread P M C A :=
  match th.status with
  | .waiting c' m => if c' = c then { th with status := .woken m } else th
  | _ => th

/-- A pending cancellation that the thread has to act on at the next cancellation point. -/
def Thread.mustCancel {P : Type} (th : Thread P M C A) : Bool :=
  th.cancelEnabled && th.cancelPending

/-- The instructions at which a running thread may act on a cancellation. -/
def Instr.isCancelPoint {P : Type} : Instr T P M C A D → Bool
  | .call _ _ _ => true
  | .sleep _ => true
  | .join _ _ => true
  | _ => false

/-- Thread `t` executes one instruction; `none` while it is blocked. -/
def exec (p : Program T Pc M C A D E) (s : State T Pc M C A D) (t : T) :
    Instr T (Pc t) M C A D → Option (State T Pc M C A D)
  | .act f next => some (s.goto t (f s.data) (next (f s.data)))
  | .call m f next =>
      match m with
      | none => some (s.goto t (f s.data) (next (f s.data)))
      | some m =>
          if s.owner m = .free then some (s.goto t (f s.data) (next (f s.data))) else none
  | .lock m next =>
      if s.owner m = .free then some ((s.goto t s.data next).setOwner m (.held t)) else none
  | .unlock m f next =>
      if s.owner m = .held t then
        some ((s.goto t (f s.data) (next (f s.data))).setOwner m .free)
      else none
  | .wait c m next =>
      if s.owner m = .held t then
        some (((s.goto t s.data next).setStatus t (.waiting c m)).setOwner m .free)
      else none
  | .broadcast c next =>
      let s' := s.goto t s.data next
      some { s' with ctl := fun u => wake c (s'.ctl u) }
  | .sleep next => if (s.ctl t).mustCancel then none else some (s.goto t s.data next)
  | .setCancelState b next =>
      some ((s.goto t s.data next).setCtl t { s.ctl t with pc := next, cancelEnabled := b })
  | .cancel u next =>
      match u s.data with
      | none => some (s.goto t s.data next)
      | some u =>
          let s' := s.goto t s.data next
          some (s'.setCtl u { s'.ctl u with cancelPending := true })
  | .create u arg ok next fail =>
      match u s.data with
      | none => some (s.goto t s.data fail)
      | some u =>
          if (s.ctl u).status.alive then none
          else if ok s.data then
            some ((s.goto t s.data next).setCtl u ⟨p.entry u, arg, .running, true, false⟩)
          else some (s.goto t s.data fail)
  | .join u next =>
      if (s.ctl t).mustCancel then none
      else match u s.data with
        | none => some (s.goto t s.data next)
        | some u => if (s.ctl u).status = .ended then some (s.goto t s.data next) else none
  | .exit => some (s.finish t)

/-- One step of the system; `none` if the scheduler's choice is not enabled. -/
def step (p : Program T Pc M C A D E) (s : State T Pc M C A D) :
    Action T E → Option (State T Pc M C A D)
  | .run t =>
      match (s.ctl t).status with
      | .running => exec p s t (p.code t (s.ctl t).arg (s.ctl t).pc)
      | .woken m =>
          if s.owner m = .free then some ((s.setStatus t .running).setOwner m (.held t)) else none
      | .cancelled m =>
          if s.owner m = .free then some ((s.setOwner m (.held t)).finish t) else none
      | _ => none
  | .accept t =>
      if (s.ctl t).mustCancel then
        match (s.ctl t).status with
        | .running =>
            if (p.code t (s.ctl t).arg (s.ctl t).pc).isCancelPoint then some (s.finish t) else none
        | .waiting _ m => some (s.setStatus t (.cancelled m))
        | .woken m => some (s.setStatus t (.cancelled m))
        | _ => none
      else none
  | .spurious t =>
      match (s.ctl t).status with
      | .waiting _ m => some (s.setStatus t (.woken m))
      | _ => none
  | .env e => some { s with data := p.env e s.data }

end Pthread
