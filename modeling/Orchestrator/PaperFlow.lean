import Orchestrator.JobFlow
import Orchestrator.Papers
import Orchestrator.Preprocessing
import Orchestrator.Stock.Depot

/-!
# The flow of paper

The orchestrator, seen as a depot: the pool slots are the stores, a printer that has found enough
paper for a job has been promised it, and the refiller is the supplier.

* `NeedsInRange` — every job needs a number of papers between the two bounds of the parameters.
* `Supplied` — what the refiller knows about the request it works on.
* `depot_step` — every step of the threads is a move of the depot or leaves it alone.
-/

namespace Orchestrator

open Pthread Stock

variable {setup : Setup} {s s' : Sys} {a : SysAction} {ok : Sys → SysAction → Prop}

/-! ## What the jobs need -/

/-- The job needs at least the lower and at most the upper bound. -/
def Job.NeedsBetween (params : SimulationParameters) (job : Job) : Prop :=
  params.papersRequiredLowerBound ≤ job.papersRequired ∧
    job.papersRequired ≤ params.papersRequiredUpperBound

lemma randomBetween_bounds (rand : ℕ) {lower upper : Int} (h : lower ≤ upper) :
    lower ≤ randomBetween rand lower upper ∧ randomBetween rand lower upper ≤ upper := by
  have hpos : 0 < upper - lower + 1 := by omega
  have hnonneg : 0 ≤ (rand : Int).tmod (upper - lower + 1) :=
    Int.tmod_nonneg _ (Int.natCast_nonneg rand)
  have hlt : (rand : Int).tmod (upper - lower + 1) < upper - lower + 1 :=
    Int.tmod_lt_of_pos _ hpos
  simp only [randomBetween]
  omega

/-- The receiver's job and the jobs in the queue are within the bounds. -/
structure NeedsInRange (params : SimulationParameters) (s : Sys) : Prop where
  receiver : s.receiverPc.hasJob = true → s.data.receiver.job.NeedsBetween params
  queue : ∀ job ∈ s.data.jobs.queue, job.NeedsBetween params

/-- The receiver's own step keeps its job within the bounds. -/
lemma receiver_needs {d d' : Data} {q q' : ReceiverPc}
    (hbounds : setup.params.papersRequiredLowerBound ≤ setup.params.papersRequiredUpperBound)
    (h : (receiverCode setup q).Goes d d' q')
    (hjob : q.hasJob = true → d.receiver.job.NeedsBetween setup.params) :
    q'.hasJob = true → d'.receiver.job.NeedsBetween setup.params := by
  cases q with
  | exit => exact h.elim
  | nextJob =>
      obtain ⟨rfl, rfl⟩ := h
      rw [Receiver.createJob]
      split
      · intro _
        exact randomBetween_bounds _ hbounds
      · next hlast => simp [hlast, ReceiverPc.hasJob, ReceiverPc.holdsJob]
  | readTerminate | checkCapacity =>
      obtain ⟨rfl, rfl⟩ := h
      intro _
      exact hjob rfl
  | _ =>
      obtain ⟨rfl, rfl⟩ := h
      intro hq
      first
        | exact hjob rfl
        | cases hq

lemma NeedsInRange.step
    (hbounds : setup.params.papersRequiredLowerBound ≤ setup.params.papersRequiredUpperBound)
    (ih : NeedsInRange setup.params s) (h : Reach (program setup) ok (freshState setup) s)
    (hs : step (program setup) s a = some s') : NeedsInRange setup.params s' := by
  refine ⟨?_, fun job hjob => ?_⟩
  · by_cases hex : Executes (program setup) s s' .receiver
    · have goes : (receiverCode setup s.receiverPc).Goes s.data s'.data s'.receiverPc := hex.goes
      exact receiver_needs hbounds goes ih.receiver
    · rcases place_step hs hex with hpl | ⟨t, ex, hc⟩
      · rw [Sys.receiverPc, hpl.1, receiver_unchanged hs hex]
        exact ih.receiver
      · have hpc : s'.receiverPc = .start := by rw [Sys.receiverPc, hc.fresh]; rfl
        rw [hpc]
        intro hq
        cases hq
  · rcases queue_grows h hs hjob with hold | ⟨_, hq, rfl⟩
    · exact ih.queue job hold
    · exact ih.receiver (by rw [hq]; rfl)

/-- **Every job needs a number of papers within the bounds.** -/
theorem needsInRange
    (hbounds : setup.params.papersRequiredLowerBound ≤ setup.params.papersRequiredUpperBound)
    (h : Reach (program setup) ok (freshState setup) s) : NeedsInRange setup.params s := by
  refine h.invariant (I := NeedsInRange setup.params) ?_ fun {s s' a} hr ih _ hs => ?_
  · exact ⟨fun hq => (by cases hq), fun _ hj => (by cases hj)⟩
  · exact ih.step hbounds hr hs

/-! ## What the refiller works on -/

/-- The refiller has computed what a printer needs and has not brought it. -/
def RefillerPc.brings : RefillerPc → Bool
  | .emitStart | .enableCancel | .sleep | .disableCancel | .emitEnd | .addPaper => true
  | _ => false

/-- The refiller has taken a request and has neither refused it nor brought the paper. -/
def RefillerPc.hasRequest : RefillerPc → Bool
  | .unlockRefill | .computeNeed => true
  | q => q.brings

/-- The refiller finds a request where it takes one, knows whose it is, and brings something. -/
structure Supplied (s : Sys) : Prop where
  request : s.refillerPc = .popRequest → s.data.paperRefillQueue ≠ []
  printer : s.refillerPc.hasRequest = true → s.data.refiller.printer.isSome
  positive : s.refillerPc.brings = true → 0 < s.data.refiller.papersNeeded

/-- The refiller's own step. -/
lemma refiller_supplied {d d' : Data} {q q' : RefillerPc} (h : (refillerCode setup q).Goes d d' q')
    (hreq : q = .popRequest → d.paperRefillQueue ≠ [])
    (hprn : q.hasRequest = true → d.refiller.printer.isSome)
    (hpos : q.brings = true → 0 < d.refiller.papersNeeded) :
    (q' = .popRequest → d'.paperRefillQueue ≠ []) ∧
      (q'.hasRequest = true → d'.refiller.printer.isSome) ∧
        (q'.brings = true → 0 < d'.refiller.papersNeeded) := by
  cases q with
  | exit => exact h.elim
  | checkFlags =>
      obtain ⟨rfl, rfl⟩ := h
      simp only
      split <;> simp [RefillerPc.hasRequest, RefillerPc.brings]
  | checkRequests =>
      obtain ⟨rfl, rfl⟩ := h
      simp only
      split
      · simp [RefillerPc.hasRequest, RefillerPc.brings]
      · next hne =>
        exact ⟨fun _ hnil => hne (by simp [hnil]), fun hq => (by cases hq), fun hq => (by cases hq)⟩
  | popRequest =>
      obtain ⟨rfl, rfl⟩ := h
      refine ⟨fun hq => (by cases hq), fun _ => ?_, fun hq => (by cases hq)⟩
      obtain ⟨i, rest, hcons⟩ := List.exists_cons_of_ne_nil (hreq rfl)
      simp [Refiller.popRequest, hcons, Data.modifyRefiller]
  | computeNeed =>
      obtain ⟨rfl, rfl⟩ := h
      obtain ⟨i, hi⟩ := Option.isSome_iff_exists.mp (hprn rfl)
      have hi' : (Refiller.computeNeed d).refiller.printer = some i := by
        simp [Refiller.computeNeed, hi, Data.modifyRefiller]
      simp only
      split
      · exact ⟨fun hq => (by cases hq), fun hq => (by cases hq), fun hq => (by cases hq)⟩
      · next hneed =>
        exact ⟨fun hq => (by cases hq), fun _ => by rw [hi']; rfl, fun _ => not_le.mp hneed⟩
  | emitStart =>
      obtain ⟨rfl, rfl⟩ := h
      have hloc := Refiller.reportStart_refiller setup d
      exact ⟨fun hq => (by cases hq), fun _ => hloc ▸ hprn rfl, fun _ => hloc ▸ hpos rfl⟩
  | emitEnd =>
      obtain ⟨rfl, rfl⟩ := h
      have hloc := Refiller.reportEnd_refiller setup.mode d
      exact ⟨fun hq => (by cases hq), fun _ => by rw [hloc]; exact hprn rfl,
        fun _ => by rw [hloc]; exact hpos rfl⟩
  | enableCancel | sleep | disableCancel =>
      obtain ⟨rfl, rfl⟩ := h
      exact ⟨fun hq => (by cases hq), fun _ => hprn rfl, fun _ => hpos rfl⟩
  | unlockRefill =>
      obtain ⟨rfl, rfl⟩ := h
      exact ⟨fun hq => (by cases hq), fun _ => hprn rfl, fun hq => (by cases hq)⟩
  | _ =>
      obtain ⟨_, rfl⟩ := h
      exact ⟨fun hq => (by cases hq), fun hq => (by cases hq), fun hq => (by cases hq)⟩

/-- Only the refiller takes requests out of the queue. -/
lemma requests_grow (hs : step (program setup) s a = some s')
    (hex : ¬Executes (program setup) s s' .refiller) :
    s'.data.paperRefillQueue = s.data.paperRefillQueue ∨
      ∃ i, Executes (program setup) s s' (.printer i) ∧ s.printerPc i = .appendRequest ∧
        s'.data.paperRefillQueue = s.data.paperRefillQueue ++ [i] := by
  cases paper_step hs with
  | same papers => exact .inl (congrArg PaperView.requests papers)
  | request i ex pc papers => exact .inr ⟨i, ex, pc, congrArg PaperView.requests papers⟩
  | use i ex pc data =>
      left
      rw [data]
      rfl
  | pop ex _ _ => exact absurd ex hex
  | add ex _ _ => exact absurd ex hex
  | book ex _ _ => exact absurd ex hex

lemma Supplied.step (ih : Supplied s) (h : Reach (program setup) ok (freshState setup) s)
    (hs : step (program setup) s a = some s') : Supplied s' := by
  rcases refiller_cases h hs with ⟨hex, hpc, hloc⟩ | ⟨_, goes⟩
  · refine ⟨fun hq => ?_, ?_, ?_⟩
    · have hne := ih.request (hpc ▸ hq)
      rcases requests_grow hs hex with hr | ⟨i, _, _, hr⟩
      · rwa [hr]
      · rw [hr]; simp
    · rw [hpc, hloc]; exact ih.printer
    · rw [hpc, hloc]; exact ih.positive
  · obtain ⟨hreq, hprn, hpos⟩ := refiller_supplied goes ih.request ih.printer ih.positive
    exact ⟨hreq, hprn, hpos⟩

/-- **The refiller knows what it works on.** -/
theorem supplied (h : Reach (program setup) ok (freshState setup) s) : Supplied s :=
  h.invariant (I := Supplied)
    ⟨fun hq => (by cases hq), fun hq => (by cases hq), fun hq => (by cases hq)⟩
    fun hr ih _ hs => ih.step hr hs

/-! ## The capacity of the slots -/

/-- No instruction changes the capacity of a printer. -/
lemma capacity_step (hs : step (program setup) s a = some s') :
    s'.data.papers.capacity = s.data.papers.capacity := by
  cases paper_step hs with
  | same papers => rw [papers]
  | request i _ _ papers => rw [papers]
  | use i _ _ data => rw [data, usePaper_papers]
  | pop _ _ data => rw [data, popRequest_papers]
  | add _ _ data =>
      rw [data]
      cases hi : s.data.refiller.printer with
      | none => rw [Refiller.addPaper, hi]
      | some i => rw [addPaper_papers hi]
  | book _ _ data => rw [data, recordRefill_papers]

/-- **Every printer has the capacity of the parameters.** -/
theorem capacity_eq (h : Reach (program setup) ok (freshState setup) s) (i : Slot) :
    (s.data.slot i).capacity = setup.params.printerPaperCapacity := by
  refine h.invariant (I := fun s => (s.data.slot i).capacity = setup.params.printerPaperCapacity)
    rfl fun {s s' a} _ ih _ hs => ?_
  exact (congrFun (capacity_step hs) i).trans ih

/-! ## The depot -/

/-- The printer has found enough paper for its job, has taken the job and has not used the paper. -/
def PrinterPc.needsPaper : PrinterPc → Bool
  | .emitQueueDeparture | .unlockQueue | .emitArrival | .markBusy | .emitBusy | .service
  | .usePaper => true
  | _ => false

/-- The paper printer `i` counts on, when it is at `q`. -/
def promise (i : Slot) (q : PrinterPc) (d : Data) : Option Int :=
  if q = .dequeue then some (d.printer i).jobToDequeue.papersRequired
  else if q.needsPaper then some (d.printer i).job.papersRequired
  else none

/-- The paper the refiller is about to bring, when it is at `q`, and where. -/
def delivery (q : RefillerPc) (d : Data) : Option (Slot × Int) :=
  if q.brings then d.refiller.printer.map (·, d.refiller.papersNeeded) else none

/-- The paper the refiller has added to a printer and not yet recorded, when it is at `q`. -/
def unrecorded (q : RefillerPc) (d : Data) : Int :=
  if q = .lockStats ∨ q = .recordRefill then d.refiller.papersNeeded else 0

/-- Where the paper of a state is. -/
def depot (s : Sys) : Depot Slot where
  level := s.data.papers.level
  used := s.data.papers.used
  promised i := promise i (s.printerPc i) s.data
  underWay := delivery s.refillerPc s.data
  unbooked := unrecorded s.refillerPc s.data
  booked := s.data.papers.refilled

lemma depot_eq
    (hpapers : s'.data.papers = { s.data.papers with requests := s'.data.papers.requests })
    (hprom : ∀ i, promise i (s'.printerPc i) s'.data = promise i (s.printerPc i) s.data)
    (hway : delivery s'.refillerPc s'.data = delivery s.refillerPc s.data)
    (hunb : unrecorded s'.refillerPc s'.data = unrecorded s.refillerPc s.data) :
    depot s' = depot s := by
  simp only [depot, hprom, hway, hunb]
  rw [hpapers]

lemma promise_congr {i : Slot} (hpl : (s.ctl (.printer i)).SamePlace (s'.ctl (.printer i)))
    (hl : s'.data.printer i = s.data.printer i) :
    promise i (s'.printerPc i) s'.data = promise i (s.printerPc i) s.data := by
  rw [promise, promise, Sys.printerPc, Sys.printerPc, hpl.1, hl]

lemma delivery_congr (hpc : s'.refillerPc = s.refillerPc)
    (hl : s'.data.refiller = s.data.refiller) :
    delivery s'.refillerPc s'.data = delivery s.refillerPc s.data ∧
      unrecorded s'.refillerPc s'.data = unrecorded s.refillerPc s.data := by
  rw [delivery, delivery, unrecorded, unrecorded, hpc, hl]
  exact ⟨rfl, rfl⟩

/-- What a printer does to the paper it counts on. -/
lemma printer_promise {i : Slot} {args : PrinterThreadArgs} {d d' : Data} {q q' : PrinterPc}
    (h : (printerCode setup i args q).Goes d d' q') :
    (q ≠ .usePaper ∧ promise i q' d' = promise i q d) ∨
      (q = .checkPaper ∧ q' = .dequeue ∧ d' = Printer.lookAtFront i d ∧ lacksPaper d' i = false) ∨
      (q = .dequeue ∧ q' = .emitQueueDeparture ∧ d' = Printer.takeJob i d) ∨
      (q = .usePaper ∧ q' = .markIdle ∧ d' = Printer.usePaper i d) := by
  cases q with
  | exit => exact h.elim
  | dequeue => exact .inr (.inr (.inl ⟨rfl, h.2, h.1⟩))
  | usePaper => exact .inr (.inr (.inr ⟨rfl, h.2, h.1⟩))
  | checkPaper =>
      obtain ⟨rfl, rfl⟩ := h
      simp only
      split
      · exact .inl ⟨by decide, rfl⟩
      · next hlack => exact .inr (.inl (by simpa using hlack))
  | checkQueue | checkRefilled | readTerminateInWait | checkDone =>
      refine .inl ⟨by decide, ?_⟩
      obtain ⟨rfl, rfl⟩ := h
      simp only
      split <;> (try split) <;> rfl
  | emitQueueDeparture =>
      refine .inl ⟨by decide, ?_⟩
      obtain ⟨rfl, rfl⟩ := h
      simp [promise, PrinterPc.needsPaper, Printer.leaveQueue]
  | emitArrival =>
      refine .inl ⟨by decide, ?_⟩
      obtain ⟨rfl, rfl⟩ := h
      simp [promise, PrinterPc.needsPaper, Printer.arriveAtPrinter]
  | _ => obtain ⟨rfl, rfl⟩ := h; exact .inl ⟨by decide, rfl⟩

/-- What the refiller does to what it brings. -/
lemma refiller_delivery {d d' : Data} {q q' : RefillerPc}
    (h : (refillerCode setup q).Goes d d' q') :
    (q ≠ .addPaper ∧ q ≠ .recordRefill ∧ delivery q' d' = delivery q d ∧
        unrecorded q' d' = unrecorded q d) ∨
      (q = .computeNeed ∧ q' = .emitStart ∧ d' = Refiller.computeNeed d) ∨
      (q = .addPaper ∧ q' = .lockStats ∧ d' = Refiller.addPaper d) ∨
      (q = .recordRefill ∧ q' = .emitStats ∧ d' = Refiller.recordRefill d) := by
  cases q with
  | exit => exact h.elim
  | addPaper => exact .inr (.inr (.inl ⟨rfl, h.2, h.1⟩))
  | recordRefill => exact .inr (.inr (.inr ⟨rfl, h.2, h.1⟩))
  | computeNeed =>
      obtain ⟨rfl, rfl⟩ := h
      simp only
      split
      · exact .inl ⟨by decide, by decide, rfl, rfl⟩
      · exact .inr (.inl (by simp))
  | checkFlags | checkRequests =>
      refine .inl ⟨by decide, by decide, ?_⟩
      obtain ⟨rfl, rfl⟩ := h
      simp only
      split <;> exact ⟨rfl, rfl⟩
  | emitStart =>
      refine .inl ⟨by decide, by decide, ?_⟩
      obtain ⟨rfl, rfl⟩ := h
      simp [delivery, unrecorded, RefillerPc.brings, Refiller.reportStart_refiller]
  | emitEnd =>
      refine .inl ⟨by decide, by decide, ?_⟩
      obtain ⟨rfl, rfl⟩ := h
      simp [delivery, unrecorded, RefillerPc.brings, Refiller.reportEnd_refiller]
  | _ => obtain ⟨rfl, rfl⟩ := h; exact .inl ⟨by decide, by decide, rfl, rfl⟩

/-! ## The refinement -/

/-- A step of a thread that keeps its hands off the paper. -/
lemma depot_of_papers_eq {t : Tid} (h : Reach (program setup) ok (freshState setup) s)
    (ex : Executes (program setup) s s' t) (hr : t ≠ .refiller) (hp : ∀ i, t ≠ .printer i)
    (hpapers : s'.data.papers = s.data.papers) (href : s'.data.refiller = s.data.refiller)
    (hprn : s'.data.printer = s.data.printer) :
    depot s' = depot s ∨ ∃ i, depot s' =
      { depot s with promised := Function.update (depot s).promised i none } := by
  have hpl := stays h ex hr.symm (by simp)
  obtain ⟨hway, hunb⟩ := delivery_congr (by rw [Sys.refillerPc, hpl.1]) href
  have hprom : ∀ i, promise i (s'.printerPc i) s'.data = promise i (s.printerPc i) s.data ∨
      Created (program setup) s s' t (.printer i) := fun i =>
    (ex.other_place (hp i).symm).imp_left fun hpl => promise_congr hpl (by rw [hprn])
  rcases created_one (x := none) hprom fun i hc => by rw [created_printer hc]; rfl with
    hfun | ⟨i, hc, hfun⟩
  · exact .inl (depot_eq (by rw [hpapers]) (congrFun hfun) hway hunb)
  · refine .inr ⟨i, ?_⟩
    simp only [depot, hpapers, hway, hunb, hfun]

/-- What a printer's step is to the depot. -/
lemma printer_depot {i : Slot} (h : Reach (program setup) ok (freshState setup) s)
    (hlower : 0 ≤ setup.params.papersRequiredLowerBound)
    (hbounds : setup.params.papersRequiredLowerBound ≤ setup.params.papersRequiredUpperBound)
    (hrun : (s.ctl (.printer i)).status = .running)
    (goes : (printerCode setup i (s.printerArgs i) (s.printerPc i)).Goes s.data s'.data
      (s'.printerPc i))
    (others : OthersStay s s' (.printer i)) :
    depot s' = depot s ∨ Depot.Step setup.params.printerPaperCapacity (depot s) (depot s') := by
  obtain ⟨_, href, hprn, _⟩ := printer_locals goes
  obtain ⟨hway, hunb⟩ :=
    delivery_congr (by rw [Sys.refillerPc, (others .refiller (by simp)).1]) href
  have hother : ∀ j, j ≠ i →
      promise j (s'.printerPc j) s'.data = promise j (s.printerPc j) s.data := fun j hj =>
    promise_congr (others _ (by simpa using hj)) (hprn j hj)
  have hupd : ∀ x, promise i (s'.printerPc i) s'.data = x →
      (fun j => promise j (s'.printerPc j) s'.data) =
        Function.update (fun j => promise j (s.printerPc j) s.data) i x := fun x hx => by
    funext j
    by_cases hj : j = i
    · subst hj; simpa using hx
    · rw [Function.update_of_ne hj]; exact hother j hj
  have hfront := frontKept h i
  rcases printer_promise goes with ⟨hq, hp⟩ | ⟨hq, hq', hd, hlack⟩ | ⟨hq, hq', hd⟩ | ⟨hq, hq', hd⟩
  · have hsame := hupd _ hp
    rw [Function.update_eq_self] at hsame
    exact .inl (depot_eq (printer_counts goes hq) (congrFun hsame) hway hunb)
  · right
    have hne := hfront.checkPaper (by rw [hrun]; rfl) hq
    obtain ⟨job, rest, hcons⟩ := List.exists_cons_of_ne_nil hne
    have hjob : (s'.data.printer i).jobToDequeue = job := by
      have hcons' : s.data.jobQueue.list = job :: rest := hcons
      rw [hd, Printer.lookAtFront, Data.modifyLocals_printer_self]
      simp [timedQueueFirst, hcons']
    have hneed := (needsInRange hbounds h).queue job (by rw [hcons]; exact List.mem_cons_self)
    have hx := hupd (some job.papersRequired) (by rw [hq', ← hjob]; rfl)
    have hpap : s'.data.papers = s.data.papers := by rw [hd]; rfl
    have henough : job.papersRequired ≤ (depot s).level i := by
      rw [lacksPaper, decide_eq_false_iff_not, not_lt, hjob, hd] at hlack
      exact hlack
    convert Depot.Step.promise (s := depot s) i job.papersRequired
      (hlower.trans hneed.1) henough using 1
    simp only [depot, hpap, hx, hway, hunb]
  · have hhead := hfront.dequeue (by rw [hrun]; rfl) hq
    obtain ⟨rest, hqueue⟩ := List.head?_eq_some_iff.mp hhead
    have hx := hupd (promise i (s.printerPc i) s.data) (by
      simp [hq, hq', hd, promise, PrinterPc.needsPaper, (takeJob_jobs i hqueue).2])
    rw [Function.update_eq_self] at hx
    exact .inl (depot_eq (by rw [hd]; rfl) (congrFun hx) hway hunb)
  · right
    have hx := hupd none (by rw [hq']; rfl)
    have hnow : (depot s).promised i = some (s.data.printer i).job.papersRequired := by
      simp [depot, promise, hq, PrinterPc.needsPaper]
    convert (Depot.Step.take i _ hnow :
      Depot.Step setup.params.printerPaperCapacity (depot s) _) using 1
    have hpap := congrArg Data.papers hd
    simp only [depot, hpap, usePaper_papers, hx, hway, hunb]

/-- What the refiller's step is to the depot. -/
lemma refiller_depot (h : Reach (program setup) ok (freshState setup) s)
    (goes : (refillerCode setup s.refillerPc).Goes s.data s'.data s'.refillerPc)
    (others : OthersStay s s' .refiller) :
    depot s' = depot s ∨ Depot.Step setup.params.printerPaperCapacity (depot s) (depot s') := by
  have hprn := (refiller_locals goes).2.1
  have hprom : ∀ i, promise i (s'.printerPc i) s'.data = promise i (s.printerPc i) s.data :=
    fun i => promise_congr (others _ (by simp)) (by rw [hprn])
  have hsup := supplied h
  rcases refiller_delivery goes with ⟨hq, hq₂, hway, hunb⟩ | ⟨hq, hq', hd⟩ | ⟨hq, hq', hd⟩ |
    ⟨hq, hq', hd⟩
  · exact .inl (depot_eq (refiller_counts goes hq hq₂) hprom hway hunb)
  · right
    obtain ⟨i, hi⟩ := Option.isSome_iff_exists.mp (hsup.printer (by rw [hq]; rfl))
    have hpap : s'.data.papers = s.data.papers := by rw [hd, Refiller.computeNeed, hi]; rfl
    have hamount : s'.data.refiller.papersNeeded =
        setup.params.printerPaperCapacity - (depot s).level i := by
      rw [hd, ← capacity_eq h i]
      simp [Refiller.computeNeed, hi, Data.modifyRefiller, depot, Data.papers]
    have hi' : s'.data.refiller.printer = some i := by
      rw [hd, Refiller.computeNeed, hi]; exact hi
    have hway : delivery s'.refillerPc s'.data =
        some (i, setup.params.printerPaperCapacity - (depot s).level i) := by
      simp [hq', delivery, RefillerPc.brings, hi', hamount]
    have hunb : unrecorded s'.refillerPc s'.data = unrecorded s.refillerPc s.data := by
      rw [hq, hq']; rfl
    convert Depot.Step.order (s := depot s) i using 1
    simp only [depot, hpap, hprom, hunb]
    rw [hway]
    rfl
  · right
    obtain ⟨i, hi⟩ := Option.isSome_iff_exists.mp (hsup.printer (by rw [hq]; rfl))
    have hway : (depot s).underWay = some (i, s.data.refiller.papersNeeded) := by
      simp [depot, delivery, hq, RefillerPc.brings, hi]
    have hidle : (depot s).unbooked = 0 := by simp [depot, unrecorded, hq]
    have hpos := hsup.positive (by rw [hq]; rfl)
    convert (Depot.Step.bring i _ hway hpos.le hidle :
      Depot.Step setup.params.printerPaperCapacity (depot s) _) using 1
    have hpap := congrArg Data.papers hd
    have hloc : s'.data.refiller = s.data.refiller := by rw [hd, Refiller.addPaper, hi]; rfl
    have hway' : delivery s'.refillerPc s'.data = none := by rw [hq']; rfl
    have hunb' : unrecorded s'.refillerPc s'.data = s.data.refiller.papersNeeded := by
      rw [hq', unrecorded, if_pos (.inl rfl), hloc]
    simp only [depot, hpap, addPaper_papers hi, hprom, hway', hunb']
  · right
    have hnow : (depot s).unbooked = s.data.refiller.papersNeeded := by
      simp [depot, unrecorded, hq]
    have hway : delivery s'.refillerPc s'.data = delivery s.refillerPc s.data := by
      rw [hq, hq']; rfl
    have hunb : unrecorded s'.refillerPc s'.data = 0 := by rw [hq']; rfl
    convert (Depot.Step.book :
      Depot.Step setup.params.printerPaperCapacity (depot s) _) using 1
    have hpap := congrArg Data.papers hd
    rw [hnow]
    simp only [depot, hpap, recordRefill_papers, hprom, hway, hunb]

/-- **The threads refine the depot.** -/
theorem depot_step (hlower : 0 ≤ setup.params.papersRequiredLowerBound)
    (hbounds : setup.params.papersRequiredLowerBound ≤ setup.params.papersRequiredUpperBound)
    (h : Reach (program setup) ok (freshState setup) s)
    (hs : step (program setup) s a = some s') :
    depot s' = depot s ∨ Depot.Step setup.params.printerPaperCapacity (depot s) (depot s') := by
  have hquiet : (depot s' = depot s ∨ ∃ i, depot s' =
      { depot s with promised := Function.update (depot s).promised i none }) →
      depot s' = depot s ∨
        Depot.Step setup.params.printerPaperCapacity (depot s) (depot s') := by
    rintro (he | ⟨i, he⟩)
    · exact .inl he
    · exact .inr (he ▸ .forget i)
  cases sys_move hs with
  | quiet data places =>
      obtain ⟨c, r, k, data⟩ := data
      have hpl : s'.refillerPc = s.refillerPc := by rw [Sys.refillerPc, (places .refiller).1]
      obtain ⟨hway, hunb⟩ := delivery_congr hpl (by rw [data])
      exact .inl (depot_eq (by rw [data]; rfl)
        (fun i => promise_congr (places _) (by rw [data])) hway hunb)
  | main ex goes =>
      obtain ⟨_, href, hprn, _⟩ := main_locals goes
      exact hquiet (depot_of_papers_eq h ex (by simp) (by simp) (main_papers goes) href hprn)
  | stopper ex goes _ =>
      obtain ⟨_, href, hprn, _⟩ := stop_locals goes
      exact hquiet (depot_of_papers_eq h ex (by simp) (by simp) (stop_papers goes) href hprn)
  | receiver ex goes _ =>
      obtain ⟨href, hprn, _⟩ := receiver_locals goes
      exact hquiet (depot_of_papers_eq h ex (by simp) (by simp) (receiver_papers goes) href hprn)
  | autoscaler ex goes =>
      obtain ⟨_, href, hprn⟩ := autoscaler_locals goes
      exact hquiet (depot_of_papers_eq h ex (by simp) (by simp) (autoscaler_papers goes) href hprn)
  | refiller _ goes others => exact refiller_depot h goes others
  | printer i ex goes others => exact printer_depot h hlower hbounds ex.running goes others

/-! ## Conservation of paper -/

/-- **The depot laws hold of every run.** -/
theorem depot_laws (hparams : InRange setup.params)
    (h : Reach (program setup) ok (freshState setup) s) :
    (depot s).Bounded setup.params.printerPaperCapacity ∧
      (depot s).Balanced setup.params.printerPaperCapacity := by
  have hcap := hparams.capacity
  have hlower := hparams.lower
  have hupper := hparams.upper
  refine h.invariant (I := fun s => (depot s).Bounded setup.params.printerPaperCapacity ∧
    (depot s).Balanced setup.params.printerPaperCapacity) ⟨⟨fun i => ?_, ?_, ?_⟩, ?_⟩
    fun {s s' a} hr ih _ hs => ?_
  · show 0 ≤ setup.params.printerPaperCapacity ∧
      setup.params.printerPaperCapacity ≤ setup.params.printerPaperCapacity
    omega
  · intro i n hn; cases hn
  · intro i n hn; cases hn
  · show ∑ _ : Slot, (setup.params.printerPaperCapacity + 0) =
      Fintype.card Slot * setup.params.printerPaperCapacity + 0 + 0
    simp
  · rcases depot_step (by omega) (by omega) hr hs with he | hstep
    · rw [he]; exact ih
    · exact ⟨hstep.bounded ih.1, hstep.balanced ih.2⟩

/-- **Paper is bounded and conserved.**  With accepted parameters, in every reachable state every
printer has between no paper and its capacity, and what the pool holds and has used is what it
started with, what was recorded as refilled and what the refiller has added without recording it. -/
theorem paper_conserved (hparams : Accepted setup.params)
    (h : Reach (program setup) ok (freshState setup) s) :
    (∀ i, 0 ≤ (s.data.slot i).currentPaperCount ∧
        (s.data.slot i).currentPaperCount ≤ (s.data.slot i).capacity ∧
        (s.data.slot i).capacity = setup.params.printerPaperCapacity) ∧
      ∑ i, ((s.data.slot i).currentPaperCount + (s.data.slot i).totalPapersUsed) =
        maxPrinters * setup.params.printerPaperCapacity + s.data.stats.papersRefilled +
          unrecorded s.refillerPc s.data := by
  obtain ⟨hbounded, hbalanced⟩ := depot_laws (accepted_inRange hparams) h
  refine ⟨fun i => ?_, ?_⟩
  · obtain ⟨hlow, hhigh⟩ := hbounded.level i
    have hcap := capacity_eq h i
    exact ⟨hlow, hhigh.trans hcap.ge, hcap⟩
  · have hcard : Fintype.card Slot = maxPrinters := Fintype.card_fin _
    rw [Depot.Balanced, hcard] at hbalanced
    exact hbalanced

/-- A printer has used up its paper and the refiller has filled it again, but has not recorded the
refill. -/
theorem paper_conserved_while_refilling :
    ∃ s : Sys, Reach (program defaultServer) anyChoice (freshState defaultServer) s ∧
      ((s.data.slot 0).totalPapersUsed = 90 ∧ s.data.stats.papersRefilled = 0) ∧
      ∑ i, ((s.data.slot i).currentPaperCount + (s.data.slot i).totalPapersUsed) =
        maxPrinters * 90 + 0 + 90 := by
  obtain ⟨s, hs, ⟨hused, hrefilled⟩, hadded⟩ := exists_run defaultServer anyChoice
    ([Action.env (Env.rand 20)] ++ runs Tid.main 20 ++ runs Tid.receiver 78 ++
      runs (Tid.printer 0) 84 ++ runs Tid.refiller 15)
    (fun s => ((s.data.slot 0).totalPapersUsed = 90 ∧ s.data.stats.papersRefilled = 0) ∧
      unrecorded s.refillerPc s.data = 90) (by decide +kernel)
  have hsum := (paper_conserved accepted_default hs).2
  rw [hrefilled, hadded] at hsum
  exact ⟨s, hs, ⟨hused, hrefilled⟩, hsum⟩

end Orchestrator
