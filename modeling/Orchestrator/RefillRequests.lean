import Orchestrator.Endings
import Orchestrator.PaperFlow
import Orchestrator.Pool
import Orchestrator.Stock.Desk

/-!
# Requests for paper

The orchestrator, seen as a desk: the printers are the owners of their paper, the paper refill queue
holds their requests, and the refiller is the clerk.

* `Unscaled` — nobody scales, and every job fits into a printer.
* `desk_step` — then every step of the threads is a move of the desk or leaves it alone.
* `desk_sound` — so a printer that lacks paper for its job has exactly one request.
-/

namespace Orchestrator

open Pthread Stock

variable {setup : Setup} {s s' : Sys} {a : SysAction} {ok : Sys → SysAction → Prop}

/-! ## Runs without scaling -/

/-- Nobody scales, and every job that joins the queue needs at most what a printer can hold. -/
structure Unscaled (setup : Setup) (s : Sys) (a : SysAction) : Prop where
  noScaling : NoScaling s a
  fits : a = .run .receiver → s.receiverPc = .enqueue →
    s.data.receiver.job.papersRequired ≤ setup.params.printerPaperCapacity

instance (s : Sys) (a : SysAction) : Decidable (Unscaled setup s a) :=
  decidable_of_iff (NoScaling s a ∧ (a = .run .receiver → s.receiverPc = .enqueue →
      s.data.receiver.job.papersRequired ≤ setup.params.printerPaperCapacity))
    ⟨fun ⟨h, h'⟩ => ⟨h, h'⟩, fun ⟨h, h'⟩ => ⟨h, h'⟩⟩

/-- **Every job in the queue fits into a printer.** -/
theorem queue_fits (h : Reach (program setup) (Unscaled setup) (freshState setup) s) :
    ∀ job ∈ s.data.jobs.queue, job.papersRequired ≤ setup.params.printerPaperCapacity := by
  refine h.invariant (I := fun s : Sys => ∀ job ∈ s.data.jobs.queue,
    job.papersRequired ≤ setup.params.printerPaperCapacity) (fun _ hj => by cases hj)
    fun {s s' a} hr ih hok hs job hjob => ?_
  rcases queue_grows hr hs hjob with hold | ⟨ex, hq, rfl⟩
  · exact ih job hold
  · exact hok.fits (run_of_join hs ex hq) hq

/-! ## The desk -/

/-- Where a printer stands with its paper, when it is at `q`. -/
def PrinterPc.phase : PrinterPc → Phase
  | .noPaperUnlockQueue | .lockRefill | .emitPaperEmpty | .appendRequest => .asking
  | .notifyRefiller | .checkRefilled | .waitPaper | .lockStateInWait | .readTerminateInWait =>
      .asked
  | .exitUnlockQueue | .abortUnlockRefill | .exitLockState | .exitSetServed | .exitLockRefill
  | .exitNotifyRefiller | .exitNotifyPrinters | .exitUnlockRefill | .exitCancelRefiller
  | .exit => .leaving
  | _ => .content

/-- The request the refiller works on, when it is at `q`. -/
def order (q : RefillerPc) (d : Data) : Option (Slot × Option Int) :=
  if q.hasRequest then
    d.refiller.printer.map (·, if q.brings then some d.refiller.papersNeeded else none)
  else none

/-- Who has asked for paper in a state. -/
def desk (s : Sys) : Desk Slot where
  phase i := (s.printerPc i).phase
  need i := (s.data.printer i).jobToDequeue.papersRequired
  level := s.data.papers.level
  queue := s.data.paperRefillQueue
  order := order s.refillerPc s.data

lemma short_iff (i : Slot) : (desk s).Short i ↔ lacksPaper s.data i = true := by
  rw [lacksPaper, decide_eq_true_iff]
  exact Iff.rfl

lemma order_congr (hpc : s'.refillerPc = s.refillerPc)
    (hl : s'.data.refiller = s.data.refiller) :
    order s'.refillerPc s'.data = order s.refillerPc s.data := by
  rw [order, order, hpc, hl]

/-! ## Printers -/

/-- What an instruction of printer `i` does to its request. -/
inductive AskMove (i : Slot) (d d' : Data) (q q' : PrinterPc) : Prop where
  | stay (phase : q'.phase = q.phase)
      (need : (d'.printer i).jobToDequeue = (d.printer i).jobToDequeue)
      (papers : d'.papers = d.papers)
  | spend (content : q.phase = .content) (phase : q'.phase = .content)
      (requests : d'.paperRefillQueue = d.paperRefillQueue)
      (level : ∀ j, j ≠ i → d'.papers.level j = d.papers.level j)
  | miss (pc : q = .checkPaper) (phase : q'.phase = .asking) (lacks : lacksPaper d' i = true)
      (data : d' = Printer.lookAtFront i d)
  | ask (asking : q.phase = .asking) (phase : q'.phase = .asked)
      (need : (d'.printer i).jobToDequeue = (d.printer i).jobToDequeue)
      (papers : d'.papers = { d.papers with requests := d.papers.requests ++ [i] })
  | satisfied (asked : q.phase = .asked) (phase : q'.phase = .content)
      (enough : lacksPaper d i = false) (data : d' = d)
  | giveUp (out : q.phase ≠ .asking) (phase : q'.phase = .leaving)
      (need : (d'.printer i).jobToDequeue = (d.printer i).jobToDequeue)
      (papers : d'.papers = d.papers)

/-- While it does not lack paper, a printer changes only its own paper. -/
lemma content_papers {i : Slot} {args : PrinterThreadArgs} {d d' : Data} {q q' : PrinterPc}
    (h : (printerCode setup i args q).Goes d d' q') (hq : q.phase = .content) :
    d'.paperRefillQueue = d.paperRefillQueue ∧
      ∀ j, j ≠ i → d'.papers.level j = d.papers.level j := by
  rcases printer_papers h with hp | ⟨rfl, _⟩ | ⟨_, _, hd⟩
  · exact ⟨congrArg PaperView.requests hp, fun j _ => congrFun (congrArg PaperView.level hp) j⟩
  · cases hq
  · rw [hd]
    refine ⟨rfl, fun j hj => ?_⟩
    rw [usePaper_papers]
    exact Function.update_of_ne hj _ _

/-- **What a printer does to its request.** -/
theorem printer_asks {i : Slot} {args : PrinterThreadArgs} {d d' : Data} {q q' : PrinterPc}
    (h : (printerCode setup i args q).Goes d d' q') : AskMove i d d' q q' := by
  have hcontent : q.phase = .content → q'.phase = .content → AskMove i d d' q q' := fun hq hq' =>
    .spend hq hq' (content_papers h hq).1 (content_papers h hq).2
  cases q with
  | exit => exact h.elim
  | checkQueue =>
      obtain ⟨rfl, rfl⟩ := h
      simp only [id] at hcontent ⊢
      split
      · exact .giveUp (by decide) rfl rfl rfl
      · split <;> exact .stay rfl rfl rfl
  | checkDone =>
      obtain ⟨rfl, rfl⟩ := h
      simp only [id] at hcontent ⊢
      split
      · exact .giveUp (by decide) rfl rfl rfl
      · exact .stay rfl rfl rfl
  | checkPaper =>
      obtain ⟨rfl, rfl⟩ := h
      simp only at hcontent ⊢
      split
      · next hlacks => exact .miss rfl rfl hlacks rfl
      · next hlacks =>
        rw [if_neg hlacks] at hcontent
        exact hcontent rfl rfl
  | emitPaperEmpty =>
      obtain ⟨rfl, rfl⟩ := h
      refine .stay rfl (by simp [Data.modifyLocals]) ?_
      simp only [Data.emit_papers]
      rfl
  | appendRequest => obtain ⟨rfl, rfl⟩ := h; exact .ask rfl rfl rfl rfl
  | checkRefilled =>
      obtain ⟨rfl, rfl⟩ := h
      simp only [id]
      split
      · exact .stay rfl rfl rfl
      · next henough => exact .satisfied rfl rfl (by simpa using henough) rfl
  | readTerminateInWait =>
      obtain ⟨rfl, rfl⟩ := h
      simp only
      split
      · exact .giveUp (by decide) rfl (by simp [Data.modifyLocals]) rfl
      · exact .stay rfl (by simp [Data.modifyLocals]) rfl
  | noPaperUnlockQueue | lockRefill | notifyRefiller | waitPaper | lockStateInWait
  | exitUnlockQueue | abortUnlockRefill | exitLockState | exitSetServed | exitLockRefill
  | exitNotifyRefiller | exitNotifyPrinters | exitUnlockRefill | exitCancelRefiller =>
      obtain ⟨rfl, rfl⟩ := h
      exact .stay rfl rfl rfl
  | _ =>
      refine hcontent rfl ?_
      rw [h.2]
      rfl

/-! ## The refiller -/

/-- What an instruction of the refiller does to the request it works on. -/
inductive OrderMove (d d' : Data) (q q' : RefillerPc) : Prop where
  | stay (order : order q' d' = order q d) (requests : d'.paperRefillQueue = d.paperRefillQueue)
      (level : d'.papers.level = d.papers.level)
  | take (idle : order q d = none) (pc : q = .popRequest) (pc' : q' = .unlockRefill)
      (data : d' = Refiller.popRequest d)
  | measure (i : Slot) (before : order q d = some (i, none))
      (after : order q' d' = some (i, some ((d.slot i).capacity - (d.slot i).currentPaperCount)))
      (papers : d'.papers = d.papers)
  | refuse (i : Slot) (before : order q d = some (i, none)) (after : order q' d' = none)
      (full : (d.slot i).capacity ≤ (d.slot i).currentPaperCount) (papers : d'.papers = d.papers)
  | bring (i : Slot) (before : order q d = some (i, some d.refiller.papersNeeded))
      (after : order q' d' = none)
      (papers : d'.papers = { d.papers with
        level := Function.update d.papers.level i
          (d.papers.level i + d.refiller.papersNeeded) })

/-- **What the refiller does to the requests.** -/
theorem refiller_orders {d d' : Data} {q q' : RefillerPc}
    (h : (refillerCode setup q).Goes d d' q')
    (hprn : q.hasRequest = true → d.refiller.printer.isSome) : OrderMove d d' q q' := by
  have hstay : q ≠ .popRequest → q ≠ .addPaper → order q' d' = order q d → OrderMove d d' q q' :=
    fun hpop hadd horder => by
      rcases refiller_papers h with hp | ⟨hq, _⟩ | ⟨hq, _⟩ | ⟨_, _, hd⟩
      · exact .stay horder (congrArg PaperView.requests hp) (congrArg PaperView.level hp)
      · exact absurd hq hpop
      · exact absurd hq hadd
      · exact .stay horder (by rw [hd]; rfl) (by rw [hd, recordRefill_papers])
  cases q with
  | exit => exact h.elim
  | popRequest => exact .take rfl rfl h.2 h.1
  | computeNeed =>
      obtain ⟨rfl, rfl⟩ := h
      obtain ⟨i, hi⟩ := Option.isSome_iff_exists.mp (hprn rfl)
      have hd : Refiller.computeNeed d = d.modifyRefiller fun r =>
          { r with papersNeeded := (d.slot i).capacity - (d.slot i).currentPaperCount } := by
        rw [Refiller.computeNeed, hi]
      have hbefore : order .computeNeed d = some (i, none) := by
        simp [order, RefillerPc.hasRequest, RefillerPc.brings, hi]
      simp only [hd]
      split
      · next hfull =>
        refine .refuse i hbefore rfl ?_ rfl
        simpa [Data.modifyRefiller] using hfull
      · refine .measure i hbefore ?_ rfl
        simp [order, RefillerPc.hasRequest, RefillerPc.brings, Data.modifyRefiller, hi]
  | addPaper =>
      obtain ⟨rfl, rfl⟩ := h
      obtain ⟨i, hi⟩ := Option.isSome_iff_exists.mp (hprn rfl)
      refine .bring i ?_ rfl (addPaper_papers hi)
      simp [order, RefillerPc.hasRequest, RefillerPc.brings, hi]
  | checkFlags | checkRequests =>
      obtain ⟨rfl, rfl⟩ := h
      simp only [id]
      split <;> exact .stay rfl rfl rfl
  | emitStart =>
      refine hstay (by decide) (by decide) ?_
      obtain ⟨rfl, rfl⟩ := h
      simp [order, RefillerPc.hasRequest, RefillerPc.brings, Refiller.reportStart_refiller]
  | emitEnd =>
      refine hstay (by decide) (by decide) ?_
      obtain ⟨rfl, rfl⟩ := h
      simp [order, RefillerPc.hasRequest, RefillerPc.brings, Refiller.reportEnd_refiller]
  | _ =>
      refine hstay (by decide) (by decide) ?_
      obtain ⟨rfl, rfl⟩ := h
      rfl

/-! ## The refinement -/

/-- No request changes. -/
lemma desk_eq (hphase : ∀ i, (s'.printerPc i).phase = (s.printerPc i).phase)
    (hneed : ∀ i, (s'.data.printer i).jobToDequeue = (s.data.printer i).jobToDequeue)
    (hpapers : s'.data.papers = s.data.papers)
    (horder : order s'.refillerPc s'.data = order s.refillerPc s.data) : desk s' = desk s := by
  have hqueue : s'.data.paperRefillQueue = s.data.paperRefillQueue :=
    congrArg PaperView.requests hpapers
  simp only [desk, hphase, hneed, hpapers, hqueue, horder]

/-- A step of a thread that keeps its hands off the paper. -/
lemma desk_of_papers_eq {t : Tid} (h : Reach (program setup) (Unscaled setup) (freshState setup) s)
    (hok : Unscaled setup s a) (hs : step (program setup) s a = some s')
    (ex : Executes (program setup) s s' t) (hr : t ≠ .refiller) (hp : ∀ i, t ≠ .printer i)
    (hpapers : s'.data.papers = s.data.papers) (href : s'.data.refiller = s.data.refiller)
    (hprn : s'.data.printer = s.data.printer) : desk s' = desk s := by
  have hcalm := h.mono fun s a hok => hok.noScaling
  refine desk_eq (fun i => ?_) (fun i => by rw [hprn]) hpapers
    (order_congr (stays h ex hr.symm (by simp)).1 href)
  rw [printer_keeps hcalm hok.noScaling hs
    ((ex.other_place (hp i).symm).imp_right fun hc => ⟨t, ex, hc⟩)]

/-- The desk after a printer's step: what the printer is about, what it needs and the paper. -/
lemma desk_of_printer {i : Slot}
    (goes : (printerCode setup i (s.printerArgs i) (s.printerPc i)).Goes s.data s'.data
      (s'.printerPc i))
    (others : OthersStay s s' (.printer i)) :
    desk s' =
      { phase := Function.update (desk s).phase i (s'.printerPc i).phase
        need := Function.update (desk s).need i (s'.data.printer i).jobToDequeue.papersRequired
        level := s'.data.papers.level
        queue := s'.data.papers.requests
        order := (desk s).order } := by
  obtain ⟨_, href, hprn, _⟩ := printer_locals goes
  have horder : order s'.refillerPc s'.data = order s.refillerPc s.data :=
    order_congr (others .refiller (by simp)).1 href
  have hphase : (desk s').phase =
      Function.update (desk s).phase i (s'.printerPc i).phase := by
    funext j
    by_cases hj : j = i
    · subst hj; simp [desk]
    · rw [Function.update_of_ne hj]
      exact congrArg PrinterPc.phase (others (.printer j) (by simpa using hj)).1
  have hneed : (desk s').need =
      Function.update (desk s).need i (s'.data.printer i).jobToDequeue.papersRequired := by
    funext j
    by_cases hj : j = i
    · subst hj; simp [desk]
    · rw [Function.update_of_ne hj]
      simp [desk, hprn j hj]
  exact Desk.ext hphase hneed rfl rfl horder

/-- Unless it looks at another job, the printer needs what it needed. -/
lemma need_kept {i : Slot}
    (h : (s'.data.printer i).jobToDequeue = (s.data.printer i).jobToDequeue) :
    Function.update (desk s).need i (s'.data.printer i).jobToDequeue.papersRequired =
      (desk s).need := by
  rw [h]
  exact Function.update_eq_self i (desk s).need

/-- What a printer's step is to the desk. -/
lemma printer_desk {i : Slot} (h : Reach (program setup) (Unscaled setup) (freshState setup) s)
    (hrun : (s.ctl (.printer i)).status = .running)
    (goes : (printerCode setup i (s.printerArgs i) (s.printerPc i)).Goes s.data s'.data
      (s'.printerPc i))
    (others : OthersStay s s' (.printer i)) :
    desk s' = desk s ∨ Desk.Step setup.params.printerPaperCapacity (desk s) (desk s') := by
  have hdesk := desk_of_printer goes others
  cases printer_asks goes with
  | stay phase need papers =>
      left
      rw [hdesk, need_kept need, phase, papers]
      exact Desk.ext (Function.update_eq_self i (desk s).phase) rfl rfl rfl rfl
  | spend content phase requests level =>
      right
      have hlevel : s'.data.papers.level =
          Function.update (desk s).level i (s'.data.papers.level i) := by
        funext j
        by_cases hj : j = i
        · subst hj; simp
        · rw [Function.update_of_ne hj]; exact level j hj
      have hqueue : s'.data.papers.requests = (desk s).queue := requests
      have hph : Function.update (desk s).phase i (s'.printerPc i).phase = (desk s).phase := by
        rw [phase, ← content]
        exact Function.update_eq_self i (desk s).phase
      rw [hdesk, hph, hlevel, hqueue]
      exact .spend i _ _ content
  | miss pc phase lacks data =>
      right
      have hne := (frontKept h i).checkPaper (by rw [hrun]; rfl) pc
      obtain ⟨job, rest, hcons⟩ := List.exists_cons_of_ne_nil hne
      have hcons' : s.data.jobQueue.list = job :: rest := hcons
      have hjob : (s'.data.printer i).jobToDequeue = job := by
        rw [data, Printer.lookAtFront, Data.modifyLocals_printer_self]
        simp [timedQueueFirst, hcons']
      have hfits := queue_fits h job (by rw [hcons]; exact List.mem_cons_self)
      have hshort : (desk s).level i < job.papersRequired := by
        rw [lacksPaper, decide_eq_true_iff, hjob, data] at lacks
        exact lacks
      have hpap : s'.data.papers = s.data.papers := by rw [data]; rfl
      rw [hdesk, phase, hjob, hpap]
      exact .miss i _ (by simp only [desk, pc]; rfl) hfits hshort
  | ask asking phase need papers =>
      right
      rw [hdesk, phase, need_kept need, papers]
      exact .ask i asking
  | satisfied asked phase enough data =>
      right
      rw [hdesk, phase, need_kept (by rw [data]), data]
      exact .satisfied i asked (by rw [short_iff, enough]; decide)
  | giveUp out phase need papers =>
      right
      rw [hdesk, phase, need_kept need, papers]
      exact .giveUp i out

/-- What the refiller's step is to the desk. -/
lemma refiller_desk (h : Reach (program setup) (Unscaled setup) (freshState setup) s)
    (goes : (refillerCode setup s.refillerPc).Goes s.data s'.data s'.refillerPc)
    (others : OthersStay s s' .refiller) :
    desk s' = desk s ∨ Desk.Step setup.params.printerPaperCapacity (desk s) (desk s') := by
  have hprn := (refiller_locals goes).2.1
  have hdesk : desk s' =
      { phase := (desk s).phase
        need := (desk s).need
        level := s'.data.papers.level
        queue := s'.data.papers.requests
        order := order s'.refillerPc s'.data } := by
    refine Desk.ext (funext fun i => ?_) (funext fun i => ?_) rfl rfl rfl
    · exact congrArg PrinterPc.phase (others (.printer i) (by simp)).1
    · simp only [desk, hprn]
  have hsup := supplied h
  cases refiller_orders goes hsup.printer with
  | stay order requests level =>
      left
      rw [hdesk, order, level]
      exact Desk.ext rfl rfl rfl requests rfl
  | take idle pc pc' data =>
      right
      obtain ⟨i, rest, hcons⟩ := List.exists_cons_of_ne_nil (hsup.request pc)
      have horder : order s'.refillerPc s'.data = some (i, none) := by
        simp [order, pc', RefillerPc.hasRequest, RefillerPc.brings, data, Refiller.popRequest,
          Data.modifyRefiller, hcons]
      have hqueue : s'.data.papers.requests = rest := by
        rw [data, popRequest_papers]
        exact congrArg List.tail hcons
      have hlevel : s'.data.papers.level = (desk s).level := by rw [data, popRequest_papers]; rfl
      rw [hdesk, horder, hqueue, hlevel]
      exact .take i rest hcons idle
  | measure i before after papers =>
      right
      rw [hdesk, after, papers, capacity_eq h i]
      exact .measure i before
  | refuse i before after full papers =>
      right
      rw [hdesk, after, papers]
      exact .refuse i before (by rw [← capacity_eq h i]; exact full)
  | bring i before after papers =>
      right
      rw [hdesk, after, papers]
      exact .bring i _ before

/-- **The threads refine the desk.** -/
theorem desk_step (h : Reach (program setup) (Unscaled setup) (freshState setup) s)
    (hok : Unscaled setup s a) (hs : step (program setup) s a = some s') :
    desk s' = desk s ∨ Desk.Step setup.params.printerPaperCapacity (desk s) (desk s') := by
  cases sys_move hs with
  | quiet data places =>
      obtain ⟨c, r, k, data⟩ := data
      exact .inl (desk_eq (fun i => congrArg PrinterPc.phase (places (.printer i)).1)
        (fun i => by rw [data]) (by rw [data]; rfl)
        (order_congr (places .refiller).1 (by rw [data])))
  | main ex goes =>
      obtain ⟨_, href, hprn, _⟩ := main_locals goes
      exact .inl (desk_of_papers_eq h hok hs ex (by simp) (by simp) (main_papers goes) href hprn)
  | stopper ex goes _ =>
      obtain ⟨_, href, hprn, _⟩ := stop_locals goes
      exact .inl (desk_of_papers_eq h hok hs ex (by simp) (by simp) (stop_papers goes) href hprn)
  | receiver ex goes _ =>
      obtain ⟨href, hprn, _⟩ := receiver_locals goes
      exact .inl
        (desk_of_papers_eq h hok hs ex (by simp) (by simp) (receiver_papers goes) href hprn)
  | autoscaler ex goes =>
      obtain ⟨_, href, hprn⟩ := autoscaler_locals goes
      exact .inl
        (desk_of_papers_eq h hok hs ex (by simp) (by simp) (autoscaler_papers goes) href hprn)
  | refiller _ goes others => exact refiller_desk h goes others
  | printer i ex goes others => exact printer_desk h ex.running goes others

/-- **Printers and their requests fit together** in every run without scaling. -/
theorem desk_sound (h : Reach (program setup) (Unscaled setup) (freshState setup) s) (i : Slot) :
    (desk s).Sound setup.params.printerPaperCapacity i := by
  refine h.invariant (I := fun s => (desk s).Sound setup.params.printerPaperCapacity i) ?_
    fun {s s' a} hr ih hok hs => ?_
  · refine ⟨?_, nofun, nofun, ?_, ⟨Nat.zero_le _, nofun⟩, nofun⟩
    · rintro (hp | hp) <;> cases hp
    · rintro (hi | ⟨n, hn⟩)
      · cases hi
      · cases hn
  · rcases desk_step hr hok hs with he | hstep
    · rw [he]; exact ih
    · exact hstep.sound ih

end Orchestrator
