import Orchestrator.QueueLedger

/-!
# The queue a client sees

A client that follows the log adds a job to its list when the job arrives in the queue and takes it
off when it departs from there or is removed.

* `Data.replay` — the list such a client comes to.
* `mirrorMonitor` — inside the critical sections of the queue, the list is at most one job behind.
* `queue_replayed` — outside of them it is the job queue, record by record, in every run.
-/

namespace Orchestrator

open Pthread

/-- What a log event does to the client's list. -/
def Event.replayOn (waiting : List Job) : Event → List Job
  | .queueArrival job _ => waiting ++ [job]
  | .queueDeparture job _ | .removedJob job => waiting.eraseP fun other => other.id == job.id
  | _ => waiting

/-- The client's list, after the log so far. -/
def Data.replay (d : Data) : List Job := d.emitted.foldr (fun e waiting => e.replayOn waiting) []

/-- The event changes the client's list. -/
def Event.changesList : Event → Bool
  | .queueArrival _ _ | .queueDeparture _ _ | .removedJob _ => true
  | _ => false

lemma emit_replay (mode : LogMode) (e : Event) (d : Data) :
    (d.emit mode e).replay = e.replayOn d.replay := rfl

lemma emit_replay_of_silent (mode : LogMode) {e : Event} (d : Data) (h : e.changesList = false) :
    (d.emit mode e).replay = d.replay := by
  rw [emit_replay]
  cases e <;> first | rfl | cases h

/-- A job that departs from the front comes off the front. -/
lemma replayOn_departure {job other : Job} (rest : List Job) (last : ULong)
    (h : other.id = job.id) : (Event.queueDeparture job last).replayOn (other :: rest) = rest := by
  simp [Event.replayOn, h]

lemma replayOn_removal {job other : Job} (rest : List Job) (h : other.id = job.id) :
    (Event.removedJob job).replayOn (other :: rest) = rest := by
  simp [Event.replayOn, h]

/-! ## The client's list and the queue -/

/-- The job queue and the client's list. -/
structure Mirror where
  queue : List Job
  client : List Job

/-- They, in memory. -/
def Data.mirror (d : Data) : Mirror := ⟨d.jobQueue.list, d.replay⟩

/-- The client's list is the job queue. -/
def Mirror.Exact (v : Mirror) : Prop := v.client = v.queue

/-- The client has not heard of the job that joined last. -/
def Mirror.Joining (job : Job) (v : Mirror) : Prop := v.client ++ [job] = v.queue

/-- The client has not heard that the first job has left. -/
def Mirror.Leaving (job : Job) (v : Mirror) : Prop := v.client = job :: v.queue

/-- The client's list is at most one job off. -/
def Mirror.Close (v : Mirror) : Prop := v.Exact ∨ ∃ job, v.Joining job ∨ v.Leaving job

variable {setup : Setup} {d d' : Data}

lemma emit_mirror_of_silent (mode : LogMode) {e : Event} (d : Data) (h : e.changesList = false) :
    (d.emit mode e).mirror = d.mirror := by
  rw [Data.mirror, emit_replay_of_silent _ _ h, Data.emit_jobQueue_list]
  rfl

lemma emit_exact {mode : LogMode} {e : Event} (h : e.replayOn d.replay = d.jobQueue.list) :
    (d.emit mode e).mirror.Exact := by
  rw [Mirror.Exact, Data.mirror, Data.emit_jobQueue_list]
  exact h

/-- Apart from taking a job and reporting it, a printer leaves the two lists alone. -/
lemma printer_mirror {i : Slot} {args : PrinterThreadArgs} {q q' : PrinterPc}
    (h : (printerCode setup i args q).Goes d d' q') (hdequeue : q ≠ .dequeue)
    (hemit : q ≠ .emitQueueDeparture) : d'.mirror = d.mirror := by
  cases q with
  | exit => exact h.elim
  | dequeue => exact absurd rfl hdequeue
  | emitQueueDeparture => exact absurd rfl hemit
  | emitPaperEmpty =>
      rw [h.1, emit_mirror_of_silent _ _ rfl, emit_mirror_of_silent _ _ rfl]
      rfl
  | emitArrival => rw [h.1, Printer.arriveAtPrinter, emit_mirror_of_silent _ _ rfl]; rfl
  | emitDeparture =>
      rw [h.1, Printer.departSystem, emit_mirror_of_silent _ _ rfl]
      rfl
  | emitRefilled | emitBusy | emitIdle | emitStats => rw [h.1]; exact emit_mirror_of_silent _ _ rfl
  | recordEmptyTime =>
      rw [h.1, Printer.recordEmptyTime]
      split <;> rfl
  | _ => obtain ⟨rfl, _⟩ := h; rfl

/-- Apart from putting a job into the queue and reporting it, so does the receiver. -/
lemma receiver_mirror {q q' : ReceiverPc} (h : (receiverCode setup q).Goes d d' q')
    (henqueue : q ≠ .enqueue) (hemit : q ≠ .emitQueueArrival) : d'.mirror = d.mirror := by
  cases q with
  | exit => exact h.elim
  | enqueue => exact absurd rfl henqueue
  | emitQueueArrival => exact absurd rfl hemit
  | nextJob =>
      rw [h.1, Receiver.createJob]
      split <;> rfl
  | emitArrival =>
      rw [h.1, Receiver.reportArrival, emit_mirror_of_silent _ _ rfl, emit_mirror_of_silent _ _ rfl]
  | emitDrop => rw [h.1]; exact emit_mirror_of_silent _ _ rfl
  | _ => obtain ⟨rfl, _⟩ := h; rfl

lemma RefillEffect.mirror (h : RefillEffect setup.mode d d') : d'.mirror = d.mirror := by
  cases h with
  | noted _ _ data | filled _ _ data => rw [data]; rfl
  | reported _ e data he =>
      rw [data]
      cases e <;> first | exact emit_mirror_of_silent _ _ rfl | cases he

lemma refiller_mirror {q q' : RefillerPc} (h : (refillerCode setup q).Goes d d' q') :
    d'.mirror = d.mirror := by
  by_cases hq : q = .recordRefill
  · subst hq
    rw [h.1]
    rfl
  · exact (refiller_refills h hq).mirror

lemma ScalingEffect.mirror (h : ScalingEffect setup.mode d d') : d'.mirror = d.mirror := by
  cases h with
  | scaled _ _ _ data _ => rw [data]; rfl
  | reported _ e data he =>
      rw [data]
      cases e <;> first | exact emit_mirror_of_silent _ _ rfl | cases he

lemma main_mirror {q q' : MainPc} (h : (mainCode setup q).Goes d d' q') : d'.mirror = d.mirror := by
  cases q with
  | emitParameters | emitStart | emitEnd | emitStatistics =>
      rw [h.1]; exact emit_mirror_of_silent _ _ rfl
  | _ => exact (main_scales h rfl).mirror

/-- The stop handler removes the first job from both lists at once. -/
lemma drain_mirror {job : Job} {rest : List Job} (mode : LogMode) (hexact : d.mirror.Exact)
    (hqueue : d.jobQueue.list = job :: rest) : (emptyQueueRound mode d).mirror.Exact := by
  have hclient : d.replay = job :: rest := hexact.trans hqueue
  have hrest : (emptyQueueRound mode d).jobQueue.list = rest :=
    congrArg JobView.queue (emptyQueueRound_jobs_cons mode hqueue)
  have hreplay : (emptyQueueRound mode d).replay =
      (Event.removedJob { job with queueDepartureTimeUs := d.clock }).replayOn d.replay := by
    simp only [emptyQueueRound, timedQueueDequeueFront, hqueue]
    rfl
  show (emptyQueueRound mode d).replay = (emptyQueueRound mode d).jobQueue.list
  rw [hrest, hreplay, hclient]
  exact replayOn_removal rest rfl

lemma stop_mirror {q q' : StopPc} (h : (stopCode setup q).Goes d d' q') :
    d'.mirror = d.mirror ∨
      (q = .drain ∧ d' = emptyQueueRound setup.mode d ∧ d.jobQueue.list ≠ []) := by
  cases q with
  | drain =>
      cases hqueue : d.jobQueue.list with
      | nil => left; rw [h.1, emptyQueueRound_jobs_nil _ hqueue]
      | cons job rest => exact .inr ⟨rfl, h.1, by simp⟩
  | setFlags => left; rw [h.1]; rfl
  | emitStopped => left; rw [h.1]; exact emit_mirror_of_silent _ _ rfl
  | _ => left; rw [stop_quiet h rfl]

/-! ## Inside the critical sections -/

/-- What a thread knows where it owns the mutex of the queue. -/
def mirrorInside : (t : Tid) → Pc t → Data → Prop
  | .receiver, q => fun d => match q with
    | .lockStatsQueue | .emitQueueArrival => d.mirror.Joining d.receiver.job
    | _ => d.mirror.Exact
  | .printer i, q => fun d => match q with
    | .checkPaper | .dequeue => d.mirror.Exact ∧ d.jobQueue.list ≠ []
    | .emitQueueDeparture => d.mirror.Leaving (d.printer i).job
    | _ => d.mirror.Exact
  | _, _ => fun d => d.mirror.Exact

/-- It is about the two lists and the thread's own variables. -/
lemma mirrorInside.congr {t : Tid} {q : Pc t} (h : mirrorInside t q d)
    (hv : d'.mirror = d.mirror) (hrec : t = .receiver → d'.receiver = d.receiver)
    (hprn : ∀ i, t = .printer i → d'.printer i = d.printer i) : mirrorInside t q d' := by
  have hlist : d'.jobQueue.list = d.jobQueue.list := congrArg Mirror.queue hv
  cases t with
  | receiver => simpa only [mirrorInside, hv, hrec rfl] using h
  | printer i => simpa only [mirrorInside, hv, hprn i rfl, hlist] using h
  | _ => simpa only [mirrorInside, hv] using h

lemma mirrorInside.close {t : Tid} {q : Pc t} (h : mirrorInside t q d) : d.mirror.Close := by
  cases t with
  | receiver =>
      cases q with
      | lockStatsQueue | emitQueueArrival => exact .inr ⟨_, .inl h⟩
      | _ => exact .inl h
  | printer i =>
      cases q with
      | checkPaper | dequeue => exact .inl h.1
      | emitQueueDeparture => exact .inr ⟨_, .inr h⟩
      | _ => exact .inl h
  | _ => exact .inl h

lemma receiver_mirrored {q q' : ReceiverPc} (h : (receiverCode setup q).Goes d d' q')
    (hin : mirrorInside .receiver q d) : mirrorInside .receiver q' d' := by
  cases q with
  | exit => exact h.elim
  | enqueue =>
      obtain ⟨rfl, rfl⟩ := h
      have hexact : d.replay = d.jobQueue.list := hin
      show d.replay ++ [d.receiver.job] = d.jobQueue.list ++ [d.receiver.job]
      rw [hexact]
  | lockStatsQueue => obtain ⟨rfl, rfl⟩ := h; exact hin
  | emitQueueArrival =>
      obtain ⟨rfl, rfl⟩ := h
      show (Receiver.reportQueueArrival setup.mode d).mirror.Exact
      rw [Receiver.reportQueueArrival, emit_mirror_of_silent _ _ rfl, emit_mirror_of_silent _ _ rfl]
      exact emit_exact hin
  | nextJob | readTerminate | checkCapacity =>
      have hv := receiver_mirror h (by simp) (by simp)
      obtain ⟨_, rfl⟩ := h
      have hexact : d'.mirror.Exact := by rw [hv]; exact hin
      simp only
      split <;> exact hexact
  | _ =>
      have hv := receiver_mirror h (by simp) (by simp)
      obtain ⟨_, rfl⟩ := h
      show d'.mirror.Exact
      rw [hv]
      exact hin

lemma printer_mirrored {i : Slot} {args : PrinterThreadArgs} {q q' : PrinterPc}
    (h : (printerCode setup i args q).Goes d d' q') (hin : mirrorInside (.printer i) q d) :
    mirrorInside (.printer i) q' d' := by
  cases q with
  | exit => exact h.elim
  | dequeue =>
      obtain ⟨rfl, rfl⟩ := h
      obtain ⟨hexact, hne⟩ := hin
      obtain ⟨job, rest, hqueue⟩ := List.exists_cons_of_ne_nil hne
      obtain ⟨hjobs, hjob⟩ := takeJob_jobs i hqueue
      have hrest : (Printer.takeJob i d).jobQueue.list = rest := congrArg JobView.queue hjobs
      show d.replay = ((Printer.takeJob i d).printer i).job :: (Printer.takeJob i d).jobQueue.list
      rw [hjob, hrest, ← hqueue]
      exact hexact
  | emitQueueDeparture =>
      obtain ⟨rfl, rfl⟩ := h
      have hclient : d.replay = (d.printer i).job :: d.jobQueue.list := hin
      show (Printer.leaveQueue setup.mode i d).mirror.Exact
      rw [Printer.leaveQueue, emit_mirror_of_silent _ _ rfl, emit_mirror_of_silent _ _ rfl]
      refine emit_exact ((congrArg (Event.replayOn · _) hclient).trans ?_)
      exact replayOn_departure _ _ (by simp)
  | checkQueue =>
      obtain ⟨rfl, rfl⟩ := h
      simp only
      split
      · exact hin
      · split
        · exact hin
        · next hne => exact ⟨hin, fun hnil => hne (by simp_all [timedQueueIsEmpty])⟩
  | checkPaper =>
      obtain ⟨rfl, rfl⟩ := h
      simp only
      split
      · exact hin.1
      · exact hin
  | checkRefilled | readTerminateInWait | checkDone =>
      obtain ⟨rfl, rfl⟩ := h
      simp only
      split <;> exact hin
  | _ =>
      have hv := printer_mirror h (by simp) (by simp)
      obtain ⟨_, rfl⟩ := h
      show d'.mirror.Exact
      rw [hv]
      exact hin

/-- **Every instruction keeps what its thread knows.** -/
lemma mirrored {t : Tid} {arg : PrinterThreadArgs} {q q' : Pc t}
    (h : ((program setup).code t arg q).Goes d d' q') (hin : mirrorInside t q d) :
    mirrorInside t q' d' := by
  cases t with
  | receiver => exact receiver_mirrored h hin
  | printer i => exact printer_mirrored h hin
  | stopper =>
      rcases stop_mirror h with hv | ⟨_, rfl, hne⟩
      · show d'.mirror.Exact
        rw [hv]
        exact hin
      · obtain ⟨job, rest, hqueue⟩ := List.exists_cons_of_ne_nil hne
        exact drain_mirror _ hin hqueue
  | main => show d'.mirror.Exact; rw [main_mirror h]; exact hin
  | refiller => show d'.mirror.Exact; rw [refiller_mirror h]; exact hin
  | autoscaler => show d'.mirror.Exact; rw [(autoscaler_scales h).mirror]; exact hin

/-- Outside the critical sections, nobody touches the two lists. -/
lemma mirror_outside {t : Tid} {arg : PrinterThreadArgs} {q q' : Pc t} (harg : IsThreadArgs arg)
    (hm : Mutex.jobQueueMutex ∉ heldBy t arg q) (h : ((program setup).code t arg q).Goes d d' q') :
    d'.mirror = d.mirror := by
  have hqueue := jobQueueMutex_of_args harg
  cases t with
  | receiver =>
      change Mutex.jobQueueMutex ∉ receiverHeld q at hm
      exact receiver_mirror h (fun hq => hm (by rw [hq]; simp [receiverHeld]))
        fun hq => hm (by rw [hq]; simp [receiverHeld])
  | printer i =>
      change Mutex.jobQueueMutex ∉ printerHeld arg q at hm
      exact printer_mirror h (fun hq => hm (by rw [hq]; simp [printerHeld, hqueue]))
        fun hq => hm (by rw [hq]; simp [printerHeld, hqueue])
  | stopper =>
      change Mutex.jobQueueMutex ∉ stopHeld q at hm
      refine (stop_mirror h).resolve_right fun hdrains => hm ?_
      rw [hdrains.1]
      simp [stopHeld]
  | main => exact main_mirror h
  | refiller => exact refiller_mirror h
  | autoscaler => exact (autoscaler_scales h).mirror

/-- Who has just come to own the mutex knows that the lists are the same. -/
lemma mirrored_of_enters {t : Tid} {arg : PrinterThreadArgs} {q next : Pc t}
    (hcode : (program setup).code t arg q = .lock .jobQueueMutex next ∨
      ∃ c, (program setup).code t arg q = .wait c .jobQueueMutex next)
    (hs : d.mirror.Exact) : mirrorInside t next d := by
  cases t with
  | receiver =>
      rcases hcode with hcode | ⟨c, hcode⟩ <;> change receiverCode setup q = _ at hcode <;>
        cases q <;> cases hcode <;> exact hs
  | printer i =>
      generalize Mutex.jobQueueMutex = m at hcode
      rcases hcode with hcode | ⟨c, hcode⟩ <;> change printerCode setup i arg q = _ at hcode <;>
        cases q <;> cases hcode <;> exact hs
  | _ => exact hs

/-- Who gives the mutex away leaves them the same. -/
lemma exact_of_leaves {t : Tid} {arg : PrinterThreadArgs} {c : Cond} {f : Data → Data}
    {q r : Pc t} {g : Data → Pc t}
    (hcode : (program setup).code t arg q = .wait c .jobQueueMutex r ∨
      (program setup).code t arg q = .unlock .jobQueueMutex f g)
    (hin : mirrorInside t q d) : d.mirror.Exact := by
  cases t with
  | receiver =>
      rcases hcode with hcode | hcode <;> change receiverCode setup q = _ at hcode <;>
        cases q <;> cases hcode <;> exact hin
  | printer i =>
      generalize Mutex.jobQueueMutex = m at hcode
      rcases hcode with hcode | hcode <;> change printerCode setup i arg q = _ at hcode <;>
        cases q <;> cases hcode <;> exact hin
  | _ => exact hin

/-- No list changes where the mutex is released. -/
lemma mirror_of_unlocks {t : Tid} {arg : PrinterThreadArgs} {f : Data → Data} {q : Pc t}
    {go : Data → Pc t} (hcode : (program setup).code t arg q = .unlock .jobQueueMutex f go)
    (d : Data) : (f d).mirror = d.mirror := by
  have h := goes_of_unlocks hcode d
  cases t with
  | receiver =>
      exact receiver_mirror h (by rintro rfl; cases hcode) (by rintro rfl; cases hcode)
  | printer i =>
      exact printer_mirror h (by rintro rfl; cases hcode) (by rintro rfl; cases hcode)
  | stopper => exact (stop_mirror h).resolve_right (by rintro ⟨rfl, _⟩; cases hcode)
  | main => exact main_mirror h
  | refiller => exact refiller_mirror h
  | autoscaler => exact (autoscaler_scales h).mirror

variable (setup)

/-- **The monitor of the two lists.** -/
def mirrorMonitor : Monitor (lockDiscipline setup) .jobQueueMutex where
  free d := d.mirror.Exact
  inside t _ q := mirrorInside t q
  always d := d.mirror.Close
  lock t arg q next d _ hcode hfree := mirrored_of_enters (.inl hcode) hfree
  resume t arg q c next d _ hcode hfree := mirrored_of_enters (.inr ⟨c, hcode⟩) hfree
  wait t arg q c next d _ hcode hin :=
    exact_of_leaves (f := id) (g := fun _ => next) (.inl hcode) hin
  unlock t arg q f next d _ hcode hin := by
    rw [mirror_of_unlocks hcode d]
    exact exact_of_leaves (c := .jobQueueNotEmptyCv) (r := q) (.inr hcode) hin
  stays t arg q d d' q' _ _ _ h hin := mirrored h hin
  frame t arg q d d' q' harg hm h := by
    have hv := mirror_outside harg hm h
    refine ⟨fun hf => ?_, fun ha => ?_, fun u hu arg' r hin => ?_⟩
    · rw [hv]; exact hf
    · rw [hv]; exact ha
    · obtain ⟨hrec, hprn⟩ := other_locals h hu
      exact mirrorInside.congr hin hv hrec hprn
  env e d := by
    have hv : (e.apply d).mirror = d.mirror := by cases e <;> rfl
    obtain ⟨hrec, hprn⟩ := env_locals e d
    refine ⟨fun hf => ?_, fun ha => ?_, fun u arg r hin => ?_⟩
    · show (e.apply d).mirror.Exact; rw [hv]; exact hf
    · show (e.apply d).mirror.Close; rw [hv]; exact ha
    · exact mirrorInside.congr hin hv (fun _ => hrec) fun i _ => congrFun hprn i
  free_always d hfree := .inl hfree
  inside_always t arg q d hin := mirrorInside.close hin

variable {setup} {s : Sys}

/-- **A client that follows the log shows the job queue.**  In every run, with any number of
printers, any scaling and any stop, its list is the queue, record by record and in order, while
nobody has the mutex of the queue; otherwise it is at most one job off. -/
theorem queue_replayed (h : Reach (program setup) anyChoice (freshState setup) s) :
    (s.owner .jobQueueMutex = .free → s.data.replay = s.data.jobQueue.list) ∧
      (s.data.replay = s.data.jobQueue.list ∨ ∃ job, s.data.replay ++ [job] = s.data.jobQueue.list ∨
        s.data.replay = job :: s.data.jobQueue.list) := by
  have hlocks : (lockDiscipline setup).Inv (freshState setup) :=
    lockInv (.refl : Reach (program setup) anyChoice (freshState setup) _)
  have hinv : (mirrorMonitor setup).Inv s :=
    (mirrorMonitor setup).inv_of_reach hlocks (mutex_fresh setup)
      ⟨fun _ => rfl, fun t ht => (by cases ht), .inl rfl⟩ h
  exact ⟨hinv.free, hinv.always⟩

/-- Three jobs have arrived in the queue, a printer has taken one, and nobody is in a critical
section. -/
theorem queue_replayed_two_waiting :
    ∃ s : Sys, Reach (program defaultServer) anyChoice (freshState defaultServer) s ∧
      s.data.jobQueue.list.map Job.id = [2, 3] ∧ s.data.replay = s.data.jobQueue.list := by
  obtain ⟨s, hs, hlist, hfree⟩ := exists_run defaultServer anyChoice
    (runs Tid.main 20 ++ runs Tid.receiver 23 ++ runs (Tid.printer 0) 11 ++ runs Tid.receiver 40)
    (fun s => s.data.jobQueue.list.map Job.id = [2, 3] ∧ s.owner .jobQueueMutex = .free)
    (by decide +kernel)
  exact ⟨s, hs, hlist, (queue_replayed hs).1 hfree⟩

end Orchestrator
