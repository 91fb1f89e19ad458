import Orchestrator.QueueLedger
import Orchestrator.QueueDiscipline
import Orchestrator.Conservation
import Mathlib.Data.UInt

/-!
# The area under the queue length

What `area_num_in_job_queue_us` and `total_queue_wait_time_us` add up to in a run without removals.

* `Visited` — a job that is printed or was served is in the books with its two times.
* `served_once` — no job is served twice.
* `queue_area` — the two statistics agree whenever all jobs taken from the empty queue were served,
  and the area is the integral of the queue length.
-/

namespace Orchestrator

open Pthread Queueing

variable {setup : Setup} {s s' : Sys} {a : SysAction} {ok : Sys → SysAction → Prop} {d d' : Data}

/-! ## Jobs that left the queue -/

/-- The printer has reported that its job left the queue, and not that it left the system. -/
def PrinterPc.prints (q : PrinterPc) : Bool := q.holdsJob && q != .emitQueueDeparture

/-- Where the jobs in the books went. -/
structure Visited (s : Sys) : Prop where
  printed : ∀ i, (s.printerPc i).prints = true →
    (s.data.printer i).job.visit ∈ s.data.queueView.books.past
  departed : ∀ job ∈ s.data.queueView.departed, job.visit ∈ s.data.queueView.books.past
  total : s.data.queueView.totalWait = (s.data.queueView.departed.map fun job =>
    job.queueDepartureTimeUs - job.queueArrivalTimeUs).sum

/-- A printer's job keeps its times from the report on. -/
lemma printer_visit {i : Slot} {args : PrinterThreadArgs} {q q' : PrinterPc}
    (h : (printerCode setup i args q).Goes d d' q') (hq' : q'.prints = true) :
    q = .emitQueueDeparture ∨
      (q.prints = true ∧ (d'.printer i).job.visit = (d.printer i).job.visit) := by
  cases q with
  | emitQueueDeparture => exact .inl rfl
  | exit => exact h.elim
  | checkQueue | checkPaper | checkRefilled | readTerminateInWait | checkDone =>
      obtain ⟨_, rfl⟩ := h
      simp only at hq'
      split at hq' <;> (try split at hq') <;> cases hq'
  | emitArrival =>
      obtain ⟨rfl, _⟩ := h
      exact .inr ⟨rfl, by simp [Printer.arriveAtPrinter, Job.visit]⟩
  | markIdle =>
      obtain ⟨rfl, _⟩ := h
      exact .inr ⟨rfl, by simp [Printer.markIdle, Job.visit]⟩
  | unlockQueue | markBusy | emitBusy | service | usePaper | emitIdle | lockStats =>
      obtain ⟨rfl, _⟩ := h
      exact .inr ⟨rfl, rfl⟩
  | _ => obtain ⟨_, rfl⟩ := h; cases hq'

/-- A step that touches neither the jobs that left nor the printers' variables. -/
lemma Visited.of_quiet (ih : Visited s)
    (hpast : s'.data.queueView.books.past = s.data.queueView.books.past)
    (hdeparted : s'.data.queueView.departed = s.data.queueView.departed)
    (htotal : s'.data.queueView.totalWait = s.data.queueView.totalWait)
    (hprn : s'.data.printer = s.data.printer)
    (hplace : ∀ i, (s'.printerPc i).prints = true → s'.printerPc i = s.printerPc i) :
    Visited s' := by
  refine ⟨fun i hi => ?_, ?_, ?_⟩
  · rw [hpast, hprn]
    exact ih.printed i (hplace i hi ▸ hi)
  · rw [hpast, hdeparted]; exact ih.departed
  · rw [hdeparted, htotal]; exact ih.total

/-- A printer that has been started during the step prints nothing. -/
lemma place_of_prints {t : Tid} (ex : Executes (program setup) s s' t) (ht : ∀ i, t ≠ .printer i)
    (i : Slot) (hi : (s'.printerPc i).prints = true) : s'.printerPc i = s.printerPc i := by
  rcases ex.other_place (ht i).symm with hpl | hc
  · exact hpl.1
  · rw [created_printer hc] at hi
    cases hi

lemma Visited.printer_step {i : Slot} (ih : Visited s)
    (goes : (printerCode setup i (s.printerArgs i) (s.printerPc i)).Goes s.data s'.data
      (s'.printerPc i))
    (others : OthersStay s s' (.printer i)) : Visited s' := by
  obtain ⟨_, _, hprn, _⟩ := printer_locals goes
  have hothers : ∀ j, j ≠ i → (s'.printerPc j).prints = true →
      (s'.data.printer j).job.visit ∈ s.data.queueView.books.past := fun j hj hp => by
    rw [hprn j hj]
    have hpc : s'.printerPc j = s.printerPc j := (others (.printer j) (by simpa using hj)).1
    exact ih.printed j (hpc ▸ hp)
  by_cases hq : s.printerPc i = .emitQueueDeparture
  · -- the report itself enters the job in the books
    rw [hq] at goes
    have hd : s'.data = Printer.leaveQueue setup.mode i s.data := goes.1
    have hview := leaveQueue_queueView setup.mode i s.data
    rw [← hd] at hview
    have hpast : s'.data.queueView.books.past =
        s.data.queueView.books.past ++ [(s'.data.printer i).job.visit] := by
      rw [hview, hd]
      simp [Ledger.depart, Printer.leaveQueue, Job.visit]
    refine ⟨fun j hp => ?_, fun job hjob => ?_, ?_⟩
    · rw [hpast, List.mem_append]
      by_cases hj : j = i
      · subst hj; exact .inr (List.mem_singleton.mpr rfl)
      · exact .inl (hothers j hj hp)
    · rw [hview] at hjob
      rw [hpast, List.mem_append]
      exact .inl (ih.departed job hjob)
    · rw [hview]; exact ih.total
  · have hself : (s'.printerPc i).prints = true →
        (s'.data.printer i).job.visit ∈ s.data.queueView.books.past := fun hp => by
      rcases printer_visit goes hp with hq' | ⟨hpr, hvisit⟩
      · exact absurd hq' hq
      · rw [hvisit]; exact ih.printed i hpr
    have hprinted : ∀ j, (s'.printerPc j).prints = true →
        (s'.data.printer j).job.visit ∈ s.data.queueView.books.past := fun j hp => by
      by_cases hj : j = i
      · subst hj; exact hself hp
      · exact hothers j hj hp
    rcases printer_queueView goes with hv | ⟨_, hd, _⟩ | ⟨hq', _⟩ | ⟨hq', hd, _⟩
    · rw [← hv] at hprinted
      exact ⟨hprinted, by rw [hv]; exact ih.departed, by rw [hv]; exact ih.total⟩
    · have hbooks : s'.data.queueView.books = s.data.queueView.books := by rw [hd]; rfl
      rw [← hbooks] at hprinted
      refine ⟨hprinted, ?_, ?_⟩ <;> rw [hd]
      · exact ih.departed
      · exact ih.total
    · exact absurd hq' hq
    · have hview := departSystem_queueView setup.mode i s.data
      rw [← hd] at hview
      refine ⟨?_, fun job hjob => ?_, ?_⟩
      · rw [hview]; exact hprinted
      · rw [hview] at hjob ⊢
        rcases List.mem_cons.mp hjob with rfl | hjob
        · exact ih.printed i (by rw [hq']; rfl)
        · exact ih.departed job hjob
      · rw [hview, List.map_cons, List.sum_cons, ← ih.total, UInt64.add_comm]

lemma Visited.step (ih : Visited s) (hs : step (program setup) s a = some s') : Visited s' := by
  have hstay : ∀ {t : Tid}, OthersStay s s' t → (∀ i, t ≠ .printer i) →
      ∀ i, (s'.printerPc i).prints = true → s'.printerPc i = s.printerPc i :=
    fun ho ht i _ => (ho (.printer i) (ht i).symm).1
  cases sys_move hs with
  | quiet data places =>
      obtain ⟨c, r, k, data⟩ := data
      refine ih.of_quiet ?_ ?_ ?_ ?_ fun i _ => (places (.printer i)).1 <;> rw [data] <;> rfl
  | main ex goes =>
      have hv := main_queueView goes
      exact ih.of_quiet (by rw [hv]) (by rw [hv]) (by rw [hv]) (main_locals goes).2.2.1
        (place_of_prints ex (by simp))
  | autoscaler ex goes =>
      have hv := autoscaler_queueView goes
      exact ih.of_quiet (by rw [hv]) (by rw [hv]) (by rw [hv]) (autoscaler_locals goes).2.2
        (place_of_prints ex (by simp))
  | refiller _ goes others =>
      have hv := refiller_queueView goes
      exact ih.of_quiet (by rw [hv]) (by rw [hv]) (by rw [hv]) (refiller_locals goes).2.1
        (hstay others (by simp))
  | stopper _ goes others =>
      have hprn := (stop_locals goes).2.2.1
      rcases stop_queueView goes with hv | ⟨_, hd⟩
      · exact ih.of_quiet (by rw [hv]) (by rw [hv]) (by rw [hv]) hprn (hstay others (by simp))
      · cases hqueue : s.data.jobQueue.list with
        | nil =>
            rw [emptyQueueRound_jobs_nil _ hqueue] at hd
            exact ih.of_quiet (by rw [hd]) (by rw [hd]) (by rw [hd]) hprn (hstay others (by simp))
        | cons job rest =>
            have hv := emptyQueueRound_queueView setup.mode hqueue
            rw [← hd] at hv
            exact ih.of_quiet (by rw [hv]) (by rw [hv]) (by rw [hv]) hprn (hstay others (by simp))
  | receiver _ goes others =>
      have hprn := (receiver_locals goes).2.1
      rcases receiver_queueView goes with hv | ⟨_, hd, _⟩ | ⟨_, hd, _⟩
      · exact ih.of_quiet (by rw [hv]) (by rw [hv]) (by rw [hv]) hprn (hstay others (by simp))
      · have hv := enqueueJob_queueView s.data
        rw [← hd] at hv
        exact ih.of_quiet (by rw [hv]) (by rw [hv]) (by rw [hv]) hprn (hstay others (by simp))
      · have hv := reportQueueArrival_queueView setup.mode s.data
        rw [← hd] at hv
        exact ih.of_quiet (by rw [hv]; rfl) (by rw [hv]) (by rw [hv]) hprn
          (hstay others (by simp))
  | printer i _ goes others => exact ih.printer_step goes others

/-- **The jobs that were served are in the books**, and their waiting times are counted. -/
theorem visited (h : Reach (program setup) ok (freshState setup) s) : Visited s :=
  h.invariant (I := Visited)
    ⟨fun i hi => (by cases hi), fun job hjob => (by cases hjob), rfl⟩ fun _ ih _ hs => ih.step hs

/-! ## Jobs served -/

/-- **The station loses jobs but never doubles them.** -/
theorem station_accounted (h : Reach (program setup) ok (freshState setup) s) :
    (station s).Accounted := by
  refine h.invariant (I := fun s => (station s).Accounted) ⟨?_, List.Pairwise.nil⟩
    fun {s s' a} hr ih _ hs => ?_
  · simp [station, freshState, freshData, Data.jobs, Station.census, Station.busy, pendingJob,
      inHand, ReceiverPc.holdsJob, PrinterPc.holdsJob]
  · rcases station_step hr hs with he | hstep | ⟨t, i, _, _, he⟩
    · rw [he]; exact ih
    · exact hstep.accounted ih
    · rw [he]; exact ih.lose i

/-- The jobs whose departure from the system is recorded, latest first. -/
def Data.servedJobs (d : Data) : List Job := d.emitted.filterMap Event.departed

lemma servedJobs_ids (d : Data) : d.servedJobs.map Job.id = d.jobs.served := by
  rw [Data.servedJobs, Data.jobs, List.map_filterMap]
  congr 1
  funext e
  cases e <;> rfl

/-- **No job is served twice.** -/
theorem served_once (h : Reach (program setup) ok (freshState setup) s) :
    (s.data.servedJobs.map Job.id).Nodup := by
  rw [servedJobs_ids]
  exact (station_accounted h).nodup_served

/-- `queue_departure_time_us - queue_arrival_time_us`. -/
def Job.queueWaitUs (job : Job) : ℕ :=
  job.queueDepartureTimeUs.toNat - job.queueArrivalTimeUs.toNat

/-- Sums of waiting times, modulo `2 ^ 64`. -/
lemma sum_queueWaitUs {jobs : List Job}
    (h : ∀ job ∈ jobs, job.queueArrivalTimeUs.toNat ≤ job.queueDepartureTimeUs.toNat) :
    (jobs.map fun job => job.queueDepartureTimeUs - job.queueArrivalTimeUs).sum =
      UInt64.ofNat (jobs.map Job.queueWaitUs).sum := by
  induction jobs with
  | nil => rfl
  | cons job rest ih =>
      have hrest := ih fun j hj => h j (List.mem_cons_of_mem _ hj)
      have hjob : job.queueDepartureTimeUs - job.queueArrivalTimeUs =
          UInt64.ofNat job.queueWaitUs := by
        rw [Job.queueWaitUs, UInt64.ofNat_sub (h job List.mem_cons_self), UInt64.ofNat_toNat,
          UInt64.ofNat_toNat]
      rw [List.map_cons, List.sum_cons, List.map_cons, List.sum_cons, UInt64.ofNat_add, hjob, hrest]

/-! ## When all were served -/

/-- The empty queue, with a recorded departure for every job that was taken from it. -/
structure AllServed (d : Data) : Prop where
  empty : d.jobQueue.list = []
  served : ∀ job ∈ d.dequeued, job.id ∈ d.servedJobs.map Job.id

/-- The jobs taken from the queue have different ids. -/
lemma taken_ids (h : Reach (program setup) ok (freshState setup) s) :
    ((s.data.dequeued.map Job.key).map Prod.fst).Nodup := by
  have htaken : (s.data.dequeued.map Job.id).Nodup :=
    (station_ordered h).parts.1.imp fun hlt => hlt.ne
  rw [List.map_map]
  exact htaken

/-- A job that was served is among those that left. -/
lemma left_of_served (h : Reach (program setup) ok (freshState setup) s) {k : ℕ}
    (hk : k ∈ s.data.servedJobs.map Job.id) : k ∈ s.data.queueView.books.left.map Prod.fst := by
  obtain ⟨job, hjob, rfl⟩ := List.mem_map.mp hk
  have hvisit := (visited h).departed job hjob
  refine List.mem_map.mpr ⟨(job.id, job.queueArrivalTimeUs.toNat), ?_, rfl⟩
  exact List.mem_map.mpr ⟨job.visit, hvisit, rfl⟩

/-- Then all that joined have left, and are those that were served. -/
lemma past_perm (h : Reach (program setup) ok (freshState setup) s) (hkept : Kept s.data.queueView)
    (hall : AllServed s.data) :
    s.data.queueView.books.present = [] ∧
      (s.data.servedJobs.map Job.visit).Perm s.data.queueView.books.past := by
  obtain ⟨rest, hrest⟩ := hkept.entered
  have hempty : s.data.queueView.list = [] := hall.empty
  rw [hempty, List.append_nil] at hrest
  have hserved : ∀ v ∈ s.data.queueView.books.entered ++ rest,
      v.1 ∈ s.data.servedJobs.map Job.id := fun v hv => by
    rw [hrest] at hv
    obtain ⟨job, hjob, rfl⟩ := List.mem_map.mp hv
    exact hall.served job hjob
  have hids : ((s.data.queueView.books.entered ++ rest).map Prod.fst).Nodup := by
    rw [hrest]
    exact taken_ids h
  rw [Ledger.entered, List.append_assoc] at hids hserved
  rw [List.map_append] at hids
  -- whoever is not among those who left was not taken from the queue
  have hnone : s.data.queueView.books.present ++ rest = [] := by
    refine List.eq_nil_iff_forall_not_mem.mpr fun v hv => ?_
    have hleft := left_of_served h (hserved v (List.mem_append_right _ hv))
    exact (List.nodup_append.mp hids).2.2 v.1 hleft v.1 (List.mem_map_of_mem hv) rfl
  refine ⟨(List.append_eq_nil_iff.mp hnone).1, ?_⟩
  have hsub : s.data.servedJobs.map Job.visit ⊆ s.data.queueView.books.past := fun v hv => by
    obtain ⟨job, hjob, rfl⟩ := List.mem_map.mp hv
    exact (visited h).departed job hjob
  have hnodup : (s.data.servedJobs.map Job.visit).Nodup := by
    have hfst : ((s.data.servedJobs.map Job.visit).map Prod.fst).Nodup := by
      rw [List.map_map]
      exact served_once h
    exact hfst.of_map
  have hlen : s.data.queueView.books.left.length ≤ s.data.servedJobs.length := by
    have hleft : s.data.queueView.books.left.map Prod.fst ⊆ s.data.servedJobs.map Job.id :=
      fun k hk => by
        obtain ⟨v, hv, rfl⟩ := List.mem_map.mp hk
        exact hserved v (List.mem_append_left _ hv)
    simpa using ((List.nodup_append.mp hids).1.subperm hleft).length_le
  refine (hnodup.subperm hsub).perm_of_length_le ?_
  simpa [Ledger.left] using hlen

/-! ## The queue length -/

/-- The jobs that left the queue for a printer, latest first. -/
def Data.printedJobs (d : Data) : List Job := d.emitted.filterMap fun e =>
  match e with
  | .queueDeparture job _ => some job
  | _ => none

/-- How many jobs were in the queue at time `t`: those that joined it by then and left it later, or
are still there. -/
def Data.queueLengthAt (d : Data) (t : ℕ) : ℕ :=
  d.printedJobs.countP (fun job =>
      decide (job.queueArrivalTimeUs.toNat ≤ t) && decide (t < job.queueDepartureTimeUs.toNat)) +
    d.jobQueue.list.countP fun job => decide (job.queueArrivalTimeUs.toNat ≤ t)

/-- The time of the first event of the queue, which is an arrival. -/
def Data.firstQueueEventUs (d : Data) : ℕ :=
  ((d.emitted.filterMap Event.joined).getLast?.map Prod.snd).getD
    d.jobQueue.lastInteractionTimeUs.toNat

lemma books_past (es : List Event) :
    (books es).past = ((es.filterMap fun e =>
      match e with
      | .queueDeparture job _ => some job
      | _ => none).map Job.visit).reverse := by
  induction es with
  | nil => rfl
  | cons e es ih =>
      cases e with
      | queueDeparture job last => simp [books, Ledger.depart, ih, Job.visit]
      | queueArrival job last => simp [books, Ledger.arrive, ih]
      | _ => simpa [books] using ih

lemma lengthAt_books (hsync : Synced d.queueView) (t : ℕ) :
    d.queueView.books.lengthAt t = d.queueLengthAt t := by
  have hpast : d.queueView.books.past = (d.printedJobs.map Job.visit).reverse :=
    books_past d.emitted
  rw [Ledger.lengthAt, hpast, ← hsync.list, List.countP_reverse, List.countP_map, List.countP_map]
  rfl

lemma first_books (hsync : Synced d.queueView) : d.queueView.books.first = d.firstQueueEventUs := by
  rw [Ledger.first, hsync.joined, ← hsync.last, Data.firstQueueEventUs]
  show ((d.emitted.filterMap Event.joined).reverse.head?.map Prod.snd).getD _ = _
  rw [List.head?_reverse]
  rfl

/-! ## The two statistics -/

/-- What the statistics say about the queue. -/
structure AreaLaws (s : Sys) : Prop where
  /-- no job was served before it joined the queue -/
  times : ∀ job ∈ s.data.servedJobs, job.queueArrivalTimeUs ≤ job.queueDepartureTimeUs
  /-- the total waiting time is that of the jobs served -/
  waits : s.data.stats.totalQueueWaitTimeUs =
    UInt64.ofNat (s.data.servedJobs.map Job.queueWaitUs).sum
  /-- and so is the area when all jobs were served -/
  area : AllServed s.data → s.data.stats.areaNumInJobQueueUs =
    UInt64.ofNat (s.data.servedJobs.map Job.queueWaitUs).sum
  /-- between critical sections the area is the integral of the queue length -/
  integral : s.owner .jobQueueMutex = .free → s.data.stats.areaNumInJobQueueUs =
    UInt64.ofNat (∑ t ∈ Finset.Ico s.data.firstQueueEventUs
      s.data.jobQueue.lastInteractionTimeUs.toNat, s.data.queueLengthAt t)

/-- **Area and waiting times.**  In every run without removals, the area under the queue length is
the integral it is meant to be, and when every job taken from the empty queue was served, it is the
total waiting time. -/
theorem queue_area (h : Reach (program setup) ok (freshState setup) s)
    (hremoved : s.data.stats.totalJobsRemoved = 0) : AreaLaws s := by
  have hnone : ¬ s.data.queueView.removed ≠ [] := by
    have hcount := (counted h).removed
    rw [show s.data.jobs.totalRemoved = 0 from hremoved] at hcount
    exact not_not.mpr (List.length_eq_zero_iff.mp hcount.symm)
  have hkept : Kept s.data.queueView := (queue_books h).always.resolve_left hnone
  have htimes : ∀ job ∈ s.data.servedJobs,
      job.queueArrivalTimeUs.toNat ≤ job.queueDepartureTimeUs.toNat := fun job hjob =>
    (hkept.built.past_le _ ((visited h).departed job hjob)).1
  refine ⟨fun job hjob => UInt64.le_iff_toNat_le.mpr (htimes job hjob), ?_, fun hall => ?_,
    fun hfree => ?_⟩
  · exact (visited h).total.trans (sum_queueWaitUs htimes)
  · obtain ⟨hpresent, hperm⟩ := past_perm h hkept hall
    have hwaits := (hperm.map fun v => v.2.2 - v.2.1).sum_eq
    rw [List.map_map] at hwaits
    have harea : s.data.stats.areaNumInJobQueueUs = UInt64.ofNat s.data.queueView.books.area :=
      hkept.area
    rw [harea, hkept.built.area_eq_waits, hpresent, ← hwaits]
    rfl
  · have hsync : Synced s.data.queueView := ((queue_books h).free hfree).resolve_left hnone
    have harea : s.data.stats.areaNumInJobQueueUs = UInt64.ofNat s.data.queueView.books.area :=
      hkept.area
    rw [harea, hkept.built.area_eq_sum, first_books hsync, ← hsync.last]
    simp only [lengthAt_books hsync]
    rfl

/-- Three jobs that waited 7, 9 and 8 microseconds, two of them at the same time, and were served by
two printers. -/
theorem queue_area_of_three_jobs :
    ∃ s : Sys, Reach (program defaultServer) anyChoice (freshState defaultServer) s ∧
      AllServed s.data ∧ s.owner .jobQueueMutex = .free ∧
      s.data.servedJobs.map Job.queueWaitUs = [8, 9, 7] ∧
      s.data.stats.areaNumInJobQueueUs = 24 ∧ AreaLaws s := by
  obtain ⟨s, hs, hremoved, hempty, hserved, hfree, hwaits, harea⟩ := exists_run defaultServer
    anyChoice
    (runs Tid.main 20 ++ [Action.env (Env.tick 3)] ++ runs Tid.receiver 23 ++
      [Action.env (Env.tick 5)] ++ runs Tid.receiver 20 ++ [Action.env (Env.tick 7)] ++
      runs Tid.receiver 18 ++ [Action.env (Env.tick 10)] ++ runs (Tid.printer 0) 21 ++
      [Action.env (Env.tick 14)] ++ runs (Tid.printer 1) 21 ++ [Action.env (Env.tick 15)] ++
      runs (Tid.printer 0) 21)
    (fun s => s.data.stats.totalJobsRemoved = 0 ∧ s.data.jobQueue.list = [] ∧
      (∀ job ∈ s.data.dequeued, job.id ∈ s.data.servedJobs.map Job.id) ∧
      s.owner .jobQueueMutex = .free ∧ s.data.servedJobs.map Job.queueWaitUs = [8, 9, 7] ∧
      s.data.stats.areaNumInJobQueueUs = 24)
    (by decide +kernel)
  exact ⟨s, hs, ⟨hempty, hserved⟩, hfree, hwaits, harea, queue_area hs hremoved⟩

end Orchestrator
