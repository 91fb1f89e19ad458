import Orchestrator.AcceptedParameters
import Orchestrator.Flags
import Orchestrator.PaperFlow
import Orchestrator.Pthread.Chronicle

/-!
# How the jobs are generated

The receiver makes a job, sleeps and reports the arrival, `num_jobs` times.  It sleeps for
`job_arrival_time_us` in either arrival mode, and does not read `fixed_arrival`,
`min_arrival_time` and `max_arrival_time`.

* `receiverScribe` — the chronicle of the receiver.
* `AsConfigured` — what the notes of `usage` say about it.
* `generating` — the chronicle of every run that is not stopped.
* `generated_as_configured` — the jobs are generated as configured exactly when the pace of the run
  is that of its arrival mode.
-/

namespace Orchestrator

open Pthread

/-! ## The chronicle of the receiver -/

/-- What the receiver does for a job. -/
inductive ReceiverEvent where
  | created (id : ℕ) (papersRequired : Int)
  | slept (timeUs : Int)
  | arrived (id : ℕ)
  deriving DecidableEq, Repr

/-- The entries of the receiver's instructions. -/
def receiverEntry (params : SimulationParameters) (q : ReceiverPc) (d : Data) :
    Option ReceiverEvent :=
  match q with
  | .nextJob =>
      if (d.receiver.jobId : Int) < params.numJobs then
        let job := (Receiver.createJob params d).receiver.job
        some (.created job.id job.papersRequired)
      else none
  -- `usleep(inter_arrival_time_us)`, with the value the job was initialised with
  | .sleep => some (.slept d.receiver.job.interArrivalTimeUs)
  | .emitArrival => some (.arrived d.receiver.job.id)
  | _ => none

/-- The chronicle is that of the receiver. -/
def receiverScribe (params : SimulationParameters) : Scribe Tid Pc Data ReceiverEvent
  | .receiver, q, d => receiverEntry params q d
  | _, _, _ => none

lemma receiverScribe_others (params : SimulationParameters) (t : Tid) (ht : t ≠ .receiver)
    (q : Pc t) (d : Data) : receiverScribe params t q d = none := by
  cases t with
  | receiver => exact absurd rfl ht
  | _ => rfl

/-- The receiver has left its loop. -/
def ReceiverPc.leftLoop : ReceiverPc → Bool
  | .endLockState | .endSetArrived | .endLockQueue | .endNotifyPrinters | .endUnlockQueue
  | .exit => true
  | _ => false

/-! ## What is configured -/

/-- What the receiver does for one job from its creation to its arrival. -/
structure JobRound where
  id : ℕ
  papersRequired : Int
  sleepUs : Int

/-- The entries of a round: the receiver sleeps between the creation and the arrival. -/
def JobRound.events (r : JobRound) : List ReceiverEvent :=
  [.created r.id r.papersRequired, .slept r.sleepUs, .arrived r.id]

/-- The chronicle consists of rounds for the jobs 1, 2, … of which the last may not be complete, and
of `num_jobs` complete ones once the loop is over. -/
def InRounds (params : SimulationParameters) (finished : Bool) (history : List ReceiverEvent) :
    Prop :=
  ∃ rounds : List JobRound,
    history <+: rounds.flatMap JobRound.events ∧
      rounds.map JobRound.id = List.range' 1 rounds.length ∧
        (rounds.length : Int) ≤ params.numJobs ∧
          (finished = true → history = rounds.flatMap JobRound.events ∧
            (rounds.length : Int) = params.numJobs)

/-- A sleep of the configured length: `job_arrival_time_us` when `fixed_arrival` is 1, and between
`min_arrival_time` and `max_arrival_time` milliseconds when it is 0. -/
def SleepConfigured (params : SimulationParameters) (timeUs : Int) : Prop :=
  (params.fixedArrival = 1 → Double.ofInt timeUs = params.jobArrivalTimeUs) ∧
    (params.fixedArrival = 0 → params.minArrivalTime * 1000 ≤ timeUs ∧
      timeUs ≤ params.maxArrivalTime * 1000)

/-- The jobs are generated as configured. -/
structure AsConfigured (params : SimulationParameters) (finished : Bool)
    (history : List ReceiverEvent) : Prop where
  rounds : InRounds params finished history
  papers : ∀ id papers, .created id papers ∈ history →
    params.papersRequiredLowerBound ≤ papers ∧ papers ≤ params.papersRequiredUpperBound
  sleeps : ∀ timeUs, .slept timeUs ∈ history → SleepConfigured params timeUs

/-- The pace that the receiver keeps is that of the arrival mode. -/
def PaceConfigured (params : SimulationParameters) : Prop :=
  params.fixedArrival = 1 ∨
    (Double.ofInt (params.minArrivalTime * 1000)).le params.jobArrivalTimeUs = true ∧
      params.jobArrivalTimeUs.le (.ofInt (params.maxArrivalTime * 1000)) = true

instance (params : SimulationParameters) (timeUs : Int) :
    Decidable (SleepConfigured params timeUs) :=
  inferInstanceAs (Decidable (_ ∧ _))

lemma toInt_ofInt {i : Int} (hlow : -2147483648 ≤ i) (hhigh : i < 2147483648) :
    (Double.ofInt i).toInt = i := by
  simp only [Double.ofInt, Double.toInt, Rat.num_intCast, Rat.den_intCast, Nat.cast_one,
    Int.tdiv_one]
  exact if_pos ⟨hlow, hhigh⟩

/-- **The receiver's sleep is of the configured length** exactly when its pace is that of the
arrival mode. -/
lemma sleepConfigured_iff {params : SimulationParameters} (h : Checked params) :
    SleepConfigured params (Receiver.interArrivalTimeUs params) ↔ PaceConfigured params := by
  obtain ⟨ms, hms, hus⟩ := h.jobArrival
  have hms : 200 ≤ ms ∧ ms ≤ 800 := hms
  have htime : Receiver.interArrivalTimeUs params = ms * 1000 := by
    rw [Receiver.interArrivalTimeUs, hus, toInt_ofInt (by omega) (by omega)]
  have hle : ∀ i j : Int, (Double.ofInt i).le (.ofInt j) = true ↔ i ≤ j := by
    intro i j
    simp only [Double.ofInt, Double.le, decide_eq_true_eq, Int.cast_le]
  rw [SleepConfigured, PaceConfigured, htime, hus, hle, hle]
  constructor
  · rintro ⟨-, hrandom⟩
    exact h.fixedArrival.symm.imp_right hrandom
  · rintro (hfixed | hrandom)
    · exact ⟨fun _ => rfl, fun hzero => by omega⟩
    · exact ⟨fun _ => rfl, fun _ => hrandom⟩

/-! ## The receiver's loop -/

/-- How many entries of its round the receiver has made. -/
def ReceiverPc.progress : ReceiverPc → ℕ
  | .enableCancel | .sleep => 1
  | .disableCancel | .lockState | .readTerminate | .stampArrival | .lockStatsArrival
  | .emitArrival => 2
  | .unlockStatsArrival | .lockQueue | .checkCapacity | .dropUnlockQueue | .lockStatsDrop
  | .emitDrop | .unlockStatsDrop | .stampQueueArrival | .enqueue | .lockStatsQueue
  | .emitQueueArrival | .unlockStatsQueue | .notifyPrinters | .unlockQueue => 3
  | _ => 0

/-- The round the receiver is in. -/
def ReceiverLocals.round (r : ReceiverLocals) : JobRound :=
  ⟨r.job.id, r.job.papersRequired, r.job.interArrivalTimeUs⟩

/-- What the code makes of a round. -/
structure JobRoundMade (params : SimulationParameters) (r : JobRound) : Prop where
  papers : params.papersRequiredLowerBound ≤ r.papersRequired ∧
    r.papersRequired ≤ params.papersRequiredUpperBound
  sleep : r.sleepUs = Receiver.interArrivalTimeUs params

/-- The chronicle of a receiver at `q` that has not been told to end: the rounds it has completed
and its part of the one it is in. -/
structure Generating (params : SimulationParameters) (q : ReceiverPc) (r : ReceiverLocals)
    (history : List ReceiverEvent) (rounds : List JobRound) : Prop where
  history : history = rounds.flatMap JobRound.events ++ r.round.events.take q.progress
  count : rounds.length = r.jobId
  ids : rounds.map JobRound.id = List.range' 1 rounds.length
  made : ∀ x ∈ rounds, JobRoundMade params x
  bound : (r.jobId : Int) ≤ params.numJobs
  current : q.progress ≠ 0 → (r.jobId : Int) < params.numJobs ∧ r.round.id = r.jobId + 1 ∧
    JobRoundMade params r.round
  finished : q.leftLoop = true → (r.jobId : Int) = params.numJobs
  toldNothing : q ≠ .abort

/-- A round for the next job. -/
lemma ids_concat {rounds : List JobRound} {x : JobRound}
    (hids : rounds.map JobRound.id = List.range' 1 rounds.length)
    (hid : x.id = rounds.length + 1) :
    (rounds ++ [x]).map JobRound.id = List.range' 1 (rounds ++ [x]).length := by
  rw [List.map_append, hids, List.length_append, List.length_singleton, List.range'_concat,
    List.map_singleton, hid]
  congr 2
  omega

namespace Generating

variable {params : SimulationParameters} {q q' : ReceiverPc} {r r' : ReceiverLocals}
  {history : List ReceiverEvent} {rounds : List JobRound}

/-- A step within the round that leaves no entry. -/
lemma quiet (h : Generating params q r history rounds) (hround : r'.round = r.round)
    (hjob : r'.jobId = r.jobId) (hprogress : q'.progress = q.progress)
    (hfinished : q'.leftLoop = true → q.leftLoop = true) (htold : q' ≠ .abort) :
    Generating params q' r' history rounds where
  history := by rw [hround, hprogress]; exact h.history
  count := by rw [hjob]; exact h.count
  ids := h.ids
  made := h.made
  bound := by rw [hjob]; exact h.bound
  current := by rw [hround, hprogress, hjob]; exact h.current
  finished hq := by rw [hjob]; exact h.finished (hfinished hq)
  toldNothing := htold

/-- The next entry of the round. -/
lemma advance (h : Generating params q r history rounds) {e : ReceiverEvent}
    (hround : r'.round = r.round) (hjob : r'.jobId = r.jobId) (hpos : q.progress ≠ 0)
    (hentry : r.round.events.take q'.progress = r.round.events.take q.progress ++ [e])
    (hfinished : q'.leftLoop = false) (htold : q' ≠ .abort) :
    Generating params q' r' (history ++ [e]) rounds where
  history := by rw [hround, hentry, h.history, List.append_assoc]
  count := by rw [hjob]; exact h.count
  ids := h.ids
  made := h.made
  bound := by rw [hjob]; exact h.bound
  current _ := by rw [hround, hjob]; exact h.current hpos
  finished hq := by rw [hfinished] at hq; cases hq
  toldNothing := htold

/-- The end of a round. -/
lemma complete (h : Generating params q r history rounds) (hq : q.progress = 3)
    (hq' : q'.progress = 0) (hjob : r'.jobId = r.jobId + 1) (hfinished : q'.leftLoop = false)
    (htold : q' ≠ .abort) : Generating params q' r' history (rounds ++ [r.round]) := by
  obtain ⟨hlt, hid, hmade⟩ := h.current (by rw [hq]; decide)
  refine ⟨?_, ?_, ids_concat h.ids (by rw [hid, h.count]), ?_, ?_, ?_, ?_, htold⟩
  · rw [h.history, hq, hq', List.flatMap_append, List.take_zero, List.append_nil]
    rfl
  · rw [List.length_append, h.count, hjob]
    rfl
  · intro x hx
    rcases List.mem_append.mp hx with hx | hx
    · exact h.made x hx
    · rw [List.mem_singleton.mp hx]
      exact hmade
  · omega
  · intro hne
    exact absurd hq' hne
  · intro hleft
    rw [hfinished] at hleft
    cases hleft

end Generating

variable {setup : Setup} {d d' : Data} {history : List ReceiverEvent} {rounds : List JobRound}

/-- A step without an entry. -/
lemma Generating.silent {params : SimulationParameters} {q q' : ReceiverPc} {r : ReceiverLocals}
    (h : Generating params q' r history rounds) (hentry : receiverEntry params q d = none) :
    Generating params q' r (history ++ (receiverEntry params q d).toList) rounds := by
  rw [hentry, Option.toList_none, List.append_nil]
  exact h

/-- The receiver makes the next job, or leaves its loop. -/
lemma createJob_generating {q' : ReceiverPc}
    (hbounds : setup.params.papersRequiredLowerBound ≤ setup.params.papersRequiredUpperBound)
    (h : (receiverCode setup .nextJob).Goes d d' q')
    (hgen : Generating setup.params .nextJob d.receiver history rounds) :
    Generating setup.params q' d'.receiver
      (history ++ (receiverEntry setup.params .nextJob d).toList) rounds := by
  obtain ⟨rfl, rfl⟩ := h
  have hhistory : history = rounds.flatMap JobRound.events :=
    hgen.history.trans (List.append_nil _)
  have hcode : (Receiver.createJob setup.params d).receiver.jobId = d.receiver.jobId := by
    rw [Receiver.createJob]
    split <;> rfl
  simp only [hcode]
  by_cases hlt : (d.receiver.jobId : Int) < setup.params.numJobs
  · have hentry : receiverEntry setup.params .nextJob d =
        some (.created (Receiver.createJob setup.params d).receiver.job.id
          (Receiver.createJob setup.params d).receiver.job.papersRequired) := if_pos hlt
    have hjob : (Receiver.createJob setup.params d).receiver =
        { d.receiver with
          job := initJob (d.receiver.jobId + 1) (Receiver.interArrivalTimeUs setup.params)
            (randomBetween d.rand setup.params.papersRequiredLowerBound
              setup.params.papersRequiredUpperBound) } := by
      rw [Receiver.createJob, if_pos hlt]
      rfl
    rw [hentry, hjob, if_pos hlt]
    refine ⟨by rw [hhistory]; rfl, hgen.count, hgen.ids, hgen.made, hgen.bound, fun _ => ?_,
      fun hleft => (by cases hleft), by decide⟩
    exact ⟨hlt, rfl, randomBetween_bounds d.rand hbounds, rfl⟩
  · have hjob : (Receiver.createJob setup.params d).receiver = d.receiver := by
      rw [Receiver.createJob, if_neg hlt]
    have hbound := hgen.bound
    rw [hjob, if_neg hlt]
    refine Generating.silent ?_ (if_neg hlt)
    exact ⟨hhistory.trans (List.append_nil _).symm, hgen.count, hgen.ids, hgen.made, hbound,
      fun hne => absurd rfl hne, fun _ => by omega, by decide⟩

/-- **The receiver's own steps**: a round goes on, is completed or begins. -/
lemma receiver_generating {q q' : ReceiverPc}
    (hbounds : setup.params.papersRequiredLowerBound ≤ setup.params.papersRequiredUpperBound)
    (h : (receiverCode setup q).Goes d d' q') (hgo : d.gTerminateNow = false)
    (hgen : Generating setup.params q d.receiver history rounds) :
    ∃ rounds', Generating setup.params q' d'.receiver
      (history ++ (receiverEntry setup.params q d).toList) rounds' := by
  cases q with
  | exit => exact h.elim
  | abort => exact absurd rfl hgen.toldNothing
  | nextJob => exact ⟨rounds, createJob_generating hbounds h hgen⟩
  | sleep | emitArrival =>
      obtain ⟨rfl, rfl⟩ := h
      exact ⟨rounds, hgen.advance rfl rfl (by decide) rfl rfl (fun habort => by cases habort)⟩
  | unlockStatsDrop | unlockQueue =>
      obtain ⟨rfl, rfl⟩ := h
      refine ⟨rounds ++ [d.receiver.round], Generating.silent ?_ rfl⟩
      exact hgen.complete rfl rfl rfl rfl fun habort => by cases habort
  | readTerminate =>
      obtain ⟨rfl, rfl⟩ := h
      refine ⟨rounds, Generating.silent ?_ rfl⟩
      simp only [Data.modifyReceiver, hgo]
      exact hgen.quiet rfl rfl rfl (fun hleft => by cases hleft) (fun habort => by cases habort)
  | checkCapacity =>
      obtain ⟨rfl, rfl⟩ := h
      refine ⟨rounds, Generating.silent ?_ rfl⟩
      simp only
      split <;>
        exact hgen.quiet rfl rfl rfl (fun hleft => by cases hleft) (fun habort => by cases habort)
  | _ =>
      obtain ⟨rfl, rfl⟩ := h
      refine ⟨rounds, Generating.silent ?_ rfl⟩
      exact hgen.quiet rfl rfl rfl id fun habort => by cases habort

/-! ## Every run -/

variable {s s' : Sys} {a : SysAction} {ok : Sys → SysAction → Prop}

/-- The receiver never stays where it is. -/
lemma receiver_moves {q q' : ReceiverPc} (h : (receiverCode setup q).Goes d d' q') : q' ≠ q := by
  cases q with
  | exit => exact h.elim
  | nextJob | readTerminate | checkCapacity =>
      obtain ⟨_, rfl⟩ := h
      simp only
      split <;> decide
  | _ => obtain ⟨_, rfl⟩ := h; simp

/-- The entry of a step is that of the receiver's instruction, if it executes one. -/
lemma receiver_entry (h : Reach (program setup) ok (freshState setup) s)
    (hs : step (program setup) s a = some s') :
    (s.entry (program setup) (receiverScribe setup.params) a = none ∧
        s'.receiverPc = s.receiverPc ∧ s'.data.receiver = s.data.receiver) ∨
      (s.entry (program setup) (receiverScribe setup.params) a =
          receiverEntry setup.params s.receiverPc s.data ∧
        (receiverCode setup s.receiverPc).Goes s.data s'.data s'.receiverPc) := by
  rcases receiver_cases h hs with ⟨hex, hpc, hrec⟩ | ⟨hex, goes⟩
  · exact .inl ⟨entry_of_others (receiverScribe_others _) hs hex, hpc, hrec⟩
  · exact .inr ⟨entry_of_moves hs hex (receiver_moves goes), goes⟩

/-- **The chronicle of every run that is not stopped**: complete rounds for the first jobs, and the
part of the next round that the receiver has come to. -/
theorem generating (hp : Checked setup.params)
    (hbounds : setup.params.papersRequiredLowerBound ≤ setup.params.papersRequiredUpperBound)
    (h : Chronicled (program setup) ok (receiverScribe setup.params) (freshState setup) s history)
    (hgo : s.data.gTerminateNow = false) :
    ∃ rounds, Generating setup.params s.receiverPc s.data.receiver history rounds := by
  refine h.invariant (I := fun s history => s.data.gTerminateNow = false → ∃ rounds,
    Generating setup.params (Sys.receiverPc s) s.data.receiver history rounds) ?_
    (fun {s s' a history} hr ih _ hs hgo' => ?_) hgo
  · intro _
    refine ⟨[], rfl, rfl, rfl, fun x hx => (by cases hx), hp.numJobs.le, fun hne => ?_,
      fun hleft => (by cases hleft), fun habort => by cases habort⟩
    exact absurd rfl hne
  · have hgo := no_stop_before hs hgo'
    obtain ⟨rounds, hgen⟩ := ih hgo
    rcases receiver_entry hr hs with ⟨hentry, hpc, hrec⟩ | ⟨hentry, goes⟩
    · rw [hentry, Option.toList_none, List.append_nil, hpc, hrec]
      exact ⟨rounds, hgen⟩
    · rw [hentry]
      exact receiver_generating hbounds goes hgo hgen

/-! ## What the chronicle says -/

section Chronicle

variable {params : SimulationParameters} {q : ReceiverPc} {r : ReceiverLocals}

/-- Between two rounds the chronicle consists of complete ones. -/
lemma Generating.between (h : Generating params q r history rounds) (hq : q.progress = 0) :
    history = rounds.flatMap JobRound.events := by
  rw [h.history, hq, List.take_zero, List.append_nil]

/-- The rounds of a chronicle, the one that is not complete included. -/
lemma Generating.allRounds (h : Generating params q r history rounds) :
    ∃ all : List JobRound, history <+: all.flatMap JobRound.events ∧
      all.map JobRound.id = List.range' 1 all.length ∧ (all.length : Int) ≤ params.numJobs ∧
        ∀ x ∈ all, JobRoundMade params x := by
  by_cases hq : q.progress = 0
  · exact ⟨rounds, by rw [h.between hq], h.ids, by rw [h.count]; exact h.bound, h.made⟩
  · obtain ⟨hlt, hid, hmade⟩ := h.current hq
    refine ⟨rounds ++ [r.round], ?_, ids_concat h.ids (by rw [hid, h.count]), ?_, fun x hx => ?_⟩
    · rw [h.history, List.flatMap_append, List.flatMap_singleton]
      exact (List.prefix_append_right_inj _).mpr (List.take_prefix _ _)
    · rw [List.length_append, List.length_singleton, h.count]
      omega
    · rcases List.mem_append.mp hx with hx | hx
      · exact h.made x hx
      · rw [List.mem_singleton.mp hx]
        exact hmade

/-- An entry belongs to a round that the code has made. -/
lemma Generating.exists_round (h : Generating params q r history rounds) {e : ReceiverEvent}
    (he : e ∈ history) : ∃ x, JobRoundMade params x ∧ e ∈ x.events := by
  obtain ⟨all, hbegin, _, _, hmade⟩ := h.allRounds
  obtain ⟨x, hx, he⟩ := List.mem_flatMap.mp (hbegin.subset he)
  exact ⟨x, hmade x hx, he⟩

/-- The chronicle is in rounds. -/
lemma Generating.inRounds (h : Generating params q r history rounds) :
    InRounds params q.leftLoop history := by
  by_cases hleft : q.leftLoop = true
  · have hq : q.progress = 0 := by cases q <;> first | rfl | cases hleft
    have hcount : (rounds.length : Int) = params.numJobs := by
      rw [h.count]
      exact h.finished hleft
    exact ⟨rounds, by rw [h.between hq], h.ids, hcount.le, fun _ => ⟨h.between hq, hcount⟩⟩
  · obtain ⟨all, hbegin, hids, hbound, _⟩ := h.allRounds
    exact ⟨all, hbegin, hids, hbound, fun hfinished => absurd hfinished hleft⟩

/-- Every job needs what it may need. -/
lemma Generating.papers (h : Generating params q r history rounds) {id : ℕ} {papers : Int}
    (he : .created id papers ∈ history) :
    params.papersRequiredLowerBound ≤ papers ∧ papers ≤ params.papersRequiredUpperBound := by
  obtain ⟨x, hmade, he⟩ := h.exists_round he
  have hpapers : papers = x.papersRequired := by simp_all [JobRound.events]
  rw [hpapers]
  exact hmade.papers

/-- Every sleep is of the same length. -/
lemma Generating.sleeps (h : Generating params q r history rounds) {timeUs : Int}
    (he : .slept timeUs ∈ history) : timeUs = Receiver.interArrivalTimeUs params := by
  obtain ⟨x, hmade, he⟩ := h.exists_round he
  have htime : timeUs = x.sleepUs := by simp_all [JobRound.events]
  rw [htime]
  exact hmade.sleep

end Chronicle

/-- **When jobs are generated as configured.**  For all parameters that `process_args` accepts, and
in every run that is not stopped: the receiver makes the jobs 1, 2, … in order, as many as
`num_jobs` once its loop is over, with papers within the bounds; and its sleeps are those of the
arrival mode exactly when, as soon as it has slept, `fixed_arrival` is 1 or `job_arrival_time_us`
lies between `min_arrival_time` and `max_arrival_time` milliseconds. -/
theorem generated_as_configured {atoi : String → Int} {atof : String → Double}
    {argv : List String} {params : SimulationParameters} {debug : Bool}
    (hp : processArgs atoi atof simulationDefaultParamsHighLoad false argv =
      .accepted params debug) {mode : LogMode}
    (h : Chronicled (program ⟨mode, params⟩) ok (receiverScribe params)
      (freshState ⟨mode, params⟩) s history)
    (hgo : s.data.gTerminateNow = false) :
    AsConfigured params s.receiverPc.leftLoop history ↔
      ((∃ timeUs, .slept timeUs ∈ history) → PaceConfigured params) := by
  have hchecked := accepted_checked checked_default hp
  have hlower : params.papersRequiredLowerBound ≤ 10 := hchecked.lower.2
  have hupper : 15 ≤ params.papersRequiredUpperBound := hchecked.upper.1
  have hbounds : params.papersRequiredLowerBound ≤ params.papersRequiredUpperBound := by omega
  obtain ⟨rounds, hgen⟩ := generating hchecked hbounds h hgo
  constructor
  · rintro hconfigured ⟨timeUs, hslept⟩
    have hsleep := hconfigured.sleeps timeUs hslept
    rw [hgen.sleeps hslept] at hsleep
    exact (sleepConfigured_iff hchecked).mp hsleep
  · intro hpace
    refine ⟨hgen.inRounds, fun id papers he => hgen.papers he, fun timeUs hslept => ?_⟩
    rw [hgen.sleeps hslept]
    exact (sleepConfigured_iff hchecked).mpr (hpace ⟨timeUs, hslept⟩)

/-- A list of choices leads to a state and a chronicle of the receiver with what they are computed
to have. -/
lemma exists_receiver_chronicle (setup : Setup) (as : List SysAction)
    (test : Sys → List ReceiverEvent → Prop) [∀ s history, Decidable (test s history)]
    (h : (runChronicle (program setup) anyChoice (receiverScribe setup.params) (freshState setup)
      [] as).any (fun r => decide (test r.1 r.2)) = true) :
    ∃ (s : Sys) (history : List ReceiverEvent),
      Chronicled (program setup) anyChoice (receiverScribe setup.params) (freshState setup) s
        history ∧ test s history :=
  exists_chronicled as h

/-- The values of the arguments `0`, `1` and `3`. -/
def digitValue (v : String) : Int := if v = "1" then 1 else if v = "3" then 3 else 0

/-- Three jobs arrive, with what `rand` returns changing between them, and the receiver leaves its
loop. -/
def threeArrivals : List SysAction :=
  runs Tid.main 3 ++ runs Tid.receiver 10 ++ [Action.env (Env.rand 7)] ++ runs Tid.receiver 20 ++
    [Action.env (Env.rand 41)] ++ runs Tid.receiver 32

/-- The receiver has left its loop, has not been stopped, and has slept 200 milliseconds before the
arrival of each of its three jobs. -/
def ThreeArrived (s : Sys) (history : List ReceiverEvent) : Prop :=
  s.data.gTerminateNow = false ∧ s.receiverPc.leftLoop = true ∧
    history = [.created 1 10, .slept 200000, .arrived 1, .created 2 17, .slept 200000, .arrived 2,
      .created 3 30, .slept 200000, .arrived 3]

instance (s : Sys) (history : List ReceiverEvent) : Decidable (ThreeArrived s history) :=
  inferInstanceAs (Decidable (_ ∧ _))

/-- `-num 3`. -/
theorem generated_as_configured_three_jobs :
    ∃ params, processArgs digitValue (fun _ => .nan) simulationDefaultParamsHighLoad false
        ["-num", "3"] = .accepted params false ∧
      ∃ (s : Sys) (history : List ReceiverEvent),
        Chronicled (program ⟨.terminal, params⟩) anyChoice (receiverScribe params)
          (freshState ⟨.terminal, params⟩) s history ∧ ThreeArrived s history ∧
        (AsConfigured params s.receiverPc.leftLoop history ↔
          ((∃ timeUs, .slept timeUs ∈ history) → PaceConfigured params)) := by
  have hrun : processArgs digitValue (fun _ => .nan) simulationDefaultParamsHighLoad false
      ["-num", "3"] = .accepted { simulationDefaultParamsHighLoad with numJobs := 3 } false := by
    decide +kernel
  obtain ⟨s, history, hs, harrived⟩ := exists_receiver_chronicle
    ⟨.terminal, { simulationDefaultParamsHighLoad with numJobs := 3 }⟩ threeArrivals ThreeArrived
    (by decide +kernel)
  exact ⟨_, hrun, s, history, hs, harrived, generated_as_configured hrun hs harrived.1⟩

/-- One job arrives and the receiver leaves its loop. -/
def oneArrival : List SysAction := runs Tid.main 3 ++ runs Tid.receiver 22

/-- The receiver has left its loop, has not been stopped, and has slept 200 milliseconds before the
arrival of its only job. -/
def ArrivedAfter200 (s : Sys) (history : List ReceiverEvent) : Prop :=
  s.data.gTerminateNow = false ∧ s.receiverPc.leftLoop = true ∧
    history = [.created 1 10, .slept 200000, .arrived 1]

instance (s : Sys) (history : List ReceiverEvent) : Decidable (ArrivedAfter200 s history) :=
  inferInstanceAs (Decidable (_ ∧ _))

/-- **Random arrivals are not random.**  With `-num 1 -fixed_arrival 0` the times between arrivals
are to be between 300 and 600 milliseconds, and the receiver sleeps for 200. -/
theorem random_arrival_ignored :
    ∃ params, processArgs digitValue (fun _ => .nan) simulationDefaultParamsHighLoad false
        ["-num", "1", "-fixed_arrival", "0"] = .accepted params false ∧
      params.fixedArrival = 0 ∧ params.minArrivalTime = 300 ∧ params.maxArrivalTime = 600 ∧
        ∃ (s : Sys) (history : List ReceiverEvent),
          Chronicled (program ⟨.terminal, params⟩) anyChoice (receiverScribe params)
            (freshState ⟨.terminal, params⟩) s history ∧ ArrivedAfter200 s history ∧
          ¬AsConfigured params s.receiverPc.leftLoop history := by
  refine ⟨{ simulationDefaultParamsHighLoad with numJobs := 1, fixedArrival := 0 },
    by decide +kernel, rfl, rfl, rfl, ?_⟩
  obtain ⟨s, history, hs, harrived⟩ := exists_receiver_chronicle
    ⟨.terminal, { simulationDefaultParamsHighLoad with numJobs := 1, fixedArrival := 0 }⟩
    oneArrival ArrivedAfter200 (by decide +kernel)
  refine ⟨s, history, hs, harrived, fun hconfigured => ?_⟩
  have hsleep := hconfigured.sleeps 200000 (by rw [harrived.2.2]; simp)
  exact absurd hsleep (by decide +kernel)

end Orchestrator
