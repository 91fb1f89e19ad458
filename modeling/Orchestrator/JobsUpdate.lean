import Orchestrator.Json.Value
import Orchestrator.LinkedList

/-!
# The snapshot of the job queue

`publish_jobs_update` writes the jobs of the queue as a JSON object into a buffer of fixed size.  It
stops adding jobs once the text is longer than 7900 bytes.

* `publishJobsUpdate` — the loop over the nodes of the queue.
* `publishJobsUpdate_eq` — it ends, and its text is one of the sequence of jobs.
* `length_addJobs_le` — the text stays short of the end of the buffer.
* `scans_frame` — its tokens are those of a JSON object.
* `jobs_update_faithful` — the frame fits, is well formed and holds the jobs of the queue.
-/

namespace Orchestrator

open Json Linked

/-! ## The handler -/

/-- The fields of `job_t` that a snapshot shows. -/
structure JobFields where
  id : Int32
  papersRequired : Int32

/-- The size of `buf`. -/
def jobsUpdateBufSize : ℕ := 8192

/-- The beginning of the frame. -/
def jobsUpdateHeader : List Char := "\x7b\"type\":\"jobs_update\", \"data\":[".toList

/-- The text of a job before its id. -/
def idText : List Char := "\x7b\"id\":".toList

/-- The text of a job between its id and its number of papers. -/
def papersRequiredText : List Char := ",\"papersRequired\":".toList

/-- The text of one job. -/
def jobsUpdateElement (job : JobFields) : List Char :=
  idText ++ decimal job.id.toInt ++ papersRequiredText ++ decimal job.papersRequired.toInt ++
    ['\x7d']

/-- `buf` after a job is added. -/
def addJob (first : Bool) (buf : List Char) (job : JobFields) : List Char :=
  (if first then buf else buf ++ [',']) ++ jobsUpdateElement job

/-- The loop of `publish_jobs_update`, whose text is in `buf` up to `offset`. -/
def jobsUpdateLoop (jobQueue : ListHeap JobFields) :
    (fuel : ℕ) → (current : NodePtr) → (first : Bool) → (buf : List Char) → Option (List Char)
  | 0, _, _, _ => none
  | fuel + 1, current, first, buf =>
      if current = .null then some buf
      else do
        let job ← (← jobQueue.data current)
        let buf := addJob first buf job
        let current ← listNext jobQueue current
        if 7900 < buf.length then some buf
        else jobsUpdateLoop jobQueue fuel current false buf

/-- `publish_jobs_update`: the text in its buffer before the terminator. -/
def publishJobsUpdate (jobQueue : ListHeap JobFields) (fuel : ℕ) : Option (List Char) := do
  let buf ← jobsUpdateLoop jobQueue fuel (listFirst jobQueue) true jobsUpdateHeader
  some (buf ++ [']', '\x7d'])

/-! ## The loop over the sequence of jobs -/

/-- The loop over a sequence of jobs. -/
def addJobs : (first : Bool) → (buf : List Char) → List JobFields → List Char
  | _, buf, [] => buf
  | first, buf, job :: jobs =>
      if 7900 < (addJob first buf job).length then addJob first buf job
      else addJobs false (addJob first buf job) jobs

variable {w : ListHeap JobFields} {xs : List (ℕ × Option JobFields)} {jobs : List JobFields}

/-- **The loop ends** and does for the queue what it does for its sequence of jobs. -/
theorem jobsUpdateLoop_eq {p : NodePtr} {ps : List NodePtr} (h : Visits (listNext w) .null p ps)
    (hdata : ps.map w.data = jobs.map fun job => some (some job)) {fuel : ℕ}
    (hfuel : ps.length < fuel) (first : Bool) (buf : List Char) :
    jobsUpdateLoop w fuel p first buf = some (addJobs first buf jobs) := by
  induction h generalizing jobs fuel first buf with
  | done =>
      obtain ⟨fuel, rfl⟩ : ∃ f, fuel = f + 1 := ⟨fuel - 1, by omega⟩
      obtain rfl : jobs = [] := by simpa using hdata
      simp [jobsUpdateLoop, addJobs]
  | node hne hstep hrest ih =>
      obtain ⟨fuel, rfl⟩ : ∃ f, fuel = f + 1 := ⟨fuel - 1, by omega⟩
      cases jobs with
      | nil => simp at hdata
      | cons job jobs =>
          rw [List.map_cons, List.map_cons, List.cons.injEq] at hdata
          have hloop := ih hdata.2 (by simpa using hfuel) false (addJob first buf job)
          simp [jobsUpdateLoop, addJobs, hne, hdata.1, hstep, hloop]
          split <;> rfl

/-- `publish_jobs_update` of a queue of jobs. -/
lemma publishJobsUpdate_eq (h : HoldsSequence w xs) (hjobs : xs.map Prod.snd = jobs.map some)
    {fuel : ℕ} (hfuel : xs.length < fuel) :
    publishJobsUpdate w fuel =
      some (addJobs true jobsUpdateHeader jobs ++ [']', '\x7d']) := by
  have hdata : (nodes xs).map w.data = jobs.map fun job => some (some job) := by
    have hsome := congrArg (List.map some) hjobs
    rw [List.map_map, List.map_map] at hsome
    exact h.data.trans hsome
  have hloop := jobsUpdateLoop_eq h.first_next hdata (by simpa [nodes] using hfuel) true
    jobsUpdateHeader
  rw [publishJobsUpdate, hloop]
  rfl

/-! ## The length of the text -/

/-- A job takes at most 47 bytes. -/
lemma length_jobsUpdateElement_le (job : JobFields) : (jobsUpdateElement job).length ≤ 47 := by
  have hwidth : ∀ n : Int32, (decimal n.toInt).length ≤ 11 := by
    intro n
    have hlow := n.le_toInt
    have hhigh := n.toInt_lt
    have habs : n.toInt.natAbs < 10 ^ 10 := by omega
    exact length_decimal_le (k := 10) (by decide) habs
  have hid := hwidth job.id
  have hpapers := hwidth job.papersRequired
  have hidText : idText.length = 6 := rfl
  have hpapersText : papersRequiredText.length = 18 := rfl
  simp only [jobsUpdateElement, List.length_append, List.length_singleton, hidText, hpapersText]
  omega

/-- **The text stays short**: the last job that is added begins before byte 7900. -/
theorem length_addJobs_le (first : Bool) {buf : List Char} (hbuf : buf.length ≤ 7900)
    (jobs : List JobFields) : (addJobs first buf jobs).length ≤ 7948 := by
  induction jobs generalizing first buf with
  | nil =>
      rw [addJobs]
      omega
  | cons job jobs ih =>
      have hjob := length_jobsUpdateElement_le job
      have hadd : (addJob first buf job).length ≤ buf.length + 48 := by
        cases first <;> simp [addJob] <;> omega
      rw [addJobs]
      split
      · omega
      · next hle => exact ih false (by omega)

/-! ## The jobs of the text -/

/-- The text with the jobs added, however long it is. -/
def jobsText : (first : Bool) → (buf : List Char) → List JobFields → List Char
  | _, buf, [] => buf
  | first, buf, job :: jobs => jobsText false (addJob first buf job) jobs

/-- The loop adds a prefix of the jobs, and leaves some out only after a text of more than 7900
bytes. -/
lemma addJobs_prefix (first : Bool) (buf : List Char) (jobs : List JobFields) :
    ∃ added rest, jobs = added ++ rest ∧ addJobs first buf jobs = jobsText first buf added ∧
      (rest = [] ∨ 7900 < (jobsText first buf added).length) := by
  induction jobs generalizing first buf with
  | nil => exact ⟨[], [], rfl, rfl, .inl rfl⟩
  | cons job jobs ih =>
      rw [addJobs]
      split
      · next hlong => exact ⟨[job], jobs, rfl, rfl, .inr hlong⟩
      · obtain ⟨added, rest, rfl, htext, hrest⟩ := ih false (addJob first buf job)
        exact ⟨job :: added, rest, rfl, htext, hrest⟩

/-- A job as a JSON value. -/
def jobValue (job : JobFields) : Value :=
  .obj [("id".toList, .int job.id.toInt), ("papersRequired".toList, .int job.papersRequired.toInt)]

/-- The snapshot as a JSON value. -/
def jobsUpdateValue (jobs : List JobFields) : Value :=
  .obj [("type".toList, .str "jobs_update".toList), ("data".toList, .arr (jobs.map jobValue))]

/-- The tokens of one job. -/
lemma scans_jobsUpdateElement (job : JobFields) :
    Scans .between (jobsUpdateElement job) (jobValue job).tokens .between := by
  have hid : Scans .between idText [.lbrace, .str "id".toList, .colon] .between := rfl
  have hidInt : Scans .between (decimal job.id.toInt ++ [',']) [.int job.id.toInt, .comma]
      .between := .int job.id.toInt rfl
  obtain ⟨key, hkey, hpapers⟩ : ∃ key, papersRequiredText = ',' :: key ∧
      Scans .between key [.str "papersRequired".toList, .colon] .between :=
    ⟨papersRequiredText.tail, rfl, rfl⟩
  have hpapersInt : Scans .between (decimal job.papersRequired.toInt ++ ['\x7d'])
      [.int job.papersRequired.toInt, .rbrace] .between := .int job.papersRequired.toInt rfl
  have htext : jobsUpdateElement job = idText ++ ((decimal job.id.toInt ++ [',']) ++
      (key ++ (decimal job.papersRequired.toInt ++ ['\x7d']))) := by
    simp [jobsUpdateElement, hkey]
  rw [htext]
  exact hid.append (hidInt.append (hpapers.append hpapersInt))

/-- The tokens of the jobs that follow the text `buf`. -/
lemma scans_jobsText (added : List JobFields) {buf : List Char} {ts : List Token}
    (hbuf : Scans .between buf ts .between) :
    Scans .between (jobsText false buf added)
      (ts ++ laterElementTokens (added.map jobValue)) .between := by
  induction added generalizing buf ts with
  | nil =>
      rw [jobsText, List.map_nil, laterElementTokens, List.append_nil]
      exact hbuf
  | cons job added ih =>
      have hcomma : Scans .between [','] [.comma] .between := rfl
      have hadd := (hbuf.append hcomma).append (scans_jobsUpdateElement job)
      have hrest := ih hadd
      have htokens : (ts ++ [.comma] ++ (jobValue job).tokens) ++
          laterElementTokens (added.map jobValue) =
            ts ++ laterElementTokens ((job :: added).map jobValue) := by
        simp [laterElementTokens]
      rw [htokens] at hrest
      exact hrest

/-- **The tokens of the frame.** -/
theorem scans_frame (added : List JobFields) :
    Scans .between (jobsText true jobsUpdateHeader added ++ [']', '\x7d'])
      (jobsUpdateValue added).tokens .between := by
  have hheader : Scans .between jobsUpdateHeader [.lbrace, .str "type".toList, .colon,
      .str "jobs_update".toList, .comma, .str "data".toList, .colon, .lbracket] .between := rfl
  have hend : Scans .between [']', '\x7d'] [.rbracket, .rbrace] .between := rfl
  cases added with
  | nil => exact hheader.append hend
  | cons job added =>
      have hjob := hheader.append (scans_jobsUpdateElement job)
      have hscan := (scans_jobsText added hjob).append hend
      rw [List.append_assoc, List.append_assoc] at hscan
      have htokens : (jobsUpdateValue (job :: added)).tokens =
          [.lbrace, .str "type".toList, .colon, .str "jobs_update".toList, .comma,
            .str "data".toList, .colon, .lbracket] ++ ((jobValue job).tokens ++
              (laterElementTokens (added.map jobValue) ++ [.rbracket, .rbrace])) := by
        simp [jobsUpdateValue, Value.tokens, memberTokens, laterMemberTokens, elementTokens]
      rw [htokens]
      exact hscan

/-! ## Decoding -/

/-- The pair of a job in the `data` array. -/
def decodeJob (v : Value) : Option (Int × Int) := do
  let id ← (← v.member "id".toList).integer
  let papersRequired ← (← v.member "papersRequired".toList).integer
  some (id, papersRequired)

/-- The pairs of the `data` array of a snapshot. -/
def decodeJobs (v : Value) : Option (List (Int × Int)) := do
  let data ← (← v.member "data".toList).elements
  data.mapM decodeJob

lemma decodeJob_jobValue (job : JobFields) :
    decodeJob (jobValue job) = some (job.id.toInt, job.papersRequired.toInt) := rfl

lemma decodeJobs_jobsUpdateValue (jobs : List JobFields) :
    decodeJobs (jobsUpdateValue jobs) =
      some (jobs.map fun job => (job.id.toInt, job.papersRequired.toInt)) := by
  show (jobs.map jobValue).mapM decodeJob = _
  induction jobs with
  | nil => rfl
  | cons job jobs ih => rw [List.map_cons, List.mapM_cons, ih, decodeJob_jobValue]; rfl

/-! ## The snapshot -/

/-- **The snapshot is bounded and faithful.**  For every queue of jobs, `publish_jobs_update` ends;
its text and the terminator fit into the buffer; the text is a JSON object; and the `data` array
holds, in queue order, the jobs of a prefix of the queue.  It is the whole queue unless the text was
longer than 7900 bytes after a job that is not the last one. -/
theorem jobs_update_faithful (h : Listed w xs) (hjobs : xs.map Prod.snd = jobs.map some)
    {fuel : ℕ} (hfuel : xs.length < fuel) :
    ∃ text members added rest, publishJobsUpdate w fuel = some text ∧
      text.length + 1 ≤ jobsUpdateBufSize ∧
      tokens? text = some (Value.obj members).tokens ∧
      decode text = some (.obj members) ∧
      decodeJobs (.obj members) =
        some (added.map fun job => (job.id.toInt, job.papersRequired.toInt)) ∧
      jobs = added ++ rest ∧
      (rest = [] ∨ 7900 < (jobsText true jobsUpdateHeader added).length) := by
  obtain ⟨added, rest, hsplit, htext, hrest⟩ := addJobs_prefix true jobsUpdateHeader jobs
  have hpublish := publishJobsUpdate_eq h.represents.holdsSequence hjobs hfuel
  have hheader : jobsUpdateHeader.length ≤ 7900 := by decide
  have hlen := length_addJobs_le true hheader jobs
  have hend : [']', '\x7d'].length = 2 := rfl
  have htokens := (scans_frame added).tokens?_eq
  rw [htext] at hpublish hlen
  refine ⟨_, _, added, rest, hpublish, ?_, htokens, decode_of_tokens htokens,
    decodeJobs_jobsUpdateValue added, hsplit, hrest⟩
  rw [List.length_append, hend, jobsUpdateBufSize]
  omega

/-- A job takes at least 25 bytes. -/
lemma length_jobsText_ge (first : Bool) (buf : List Char) (jobs : List JobFields) :
    25 * jobs.length ≤ (jobsText first buf jobs).length := by
  suffices h : buf.length + 25 * jobs.length ≤ (jobsText first buf jobs).length by omega
  induction jobs generalizing first buf with
  | nil => exact Nat.le_refl _
  | cons job jobs ih =>
      have hadd : buf.length + 25 ≤ (addJob first buf job).length := by
        have hidText : idText.length = 6 := rfl
        have hpapersText : papersRequiredText.length = 18 := rfl
        cases first <;> simp [addJob, jobsUpdateElement, hidText, hpapersText] <;> omega
      have hrest := ih false (addJob first buf job)
      rw [jobsText, List.length_cons]
      omega

/-- A queue of 330 jobs. -/
def manyJobs : List JobFields := (List.range 330).map fun k => ⟨.ofNat (k + 1), 30⟩

/-- The snapshot of the queue does not show all of it. -/
theorem jobs_update_faithful_long :
    ∃ w, ∃ xs : List (ℕ × Option JobFields),
      Listed w xs ∧ xs.map Prod.snd = manyJobs.map some ∧
      ∃ text members added rest, publishJobsUpdate w 331 = some text ∧
        text.length + 1 ≤ jobsUpdateBufSize ∧
        tokens? text = some (Value.obj members).tokens ∧
        decode text = some (.obj members) ∧
        decodeJobs (.obj members) =
          some (added.map fun job => (job.id.toInt, job.papersRequired.toInt)) ∧
        manyJobs = added ++ rest ∧ rest ≠ [] ∧
        7900 < (jobsText true jobsUpdateHeader added).length := by
  obtain ⟨w, xs, hlisted, hjobs, -⟩ := exists_listed_of (manyJobs.map some)
  have hlength : manyJobs.length = 330 := by simp [manyJobs]
  have hfuel : xs.length < 331 := by
    rw [← xs.length_map (f := Prod.snd), hjobs, List.length_map, hlength]
    decide
  obtain ⟨text, members, added, rest, hpublish, hfits, htokens, hdecode, hpairs, hsplit, hend⟩ :=
    jobs_update_faithful hlisted hjobs hfuel
  have hrest : rest ≠ [] := by
    rintro rfl
    -- the text is that of a prefix, and it decodes to as many jobs
    obtain ⟨shown, _, -, htext, -⟩ := addJobs_prefix true jobsUpdateHeader manyJobs
    have hsame := publishJobsUpdate_eq hlisted.represents.holdsSequence hjobs hfuel
    rw [hpublish, htext] at hsame
    obtain rfl := Option.some.inj hsame
    have hvalue := decode_of_tokens (scans_frame shown).tokens?_eq
    rw [hdecode] at hvalue
    rw [Option.some.inj hvalue, decodeJobs_jobsUpdateValue] at hpairs
    have hcount := congrArg List.length (Option.some.inj hpairs)
    have hall := congrArg List.length hsplit
    have hlong := length_jobsText_ge true jobsUpdateHeader shown
    simp only [List.length_map, List.length_append, List.length_nil, jobsUpdateBufSize,
      hlength] at hcount hall hfits
    omega
  exact ⟨w, xs, hlisted, hjobs, text, members, added, rest, hpublish, hfits, htokens, hdecode,
    hpairs, hsplit, hrest, hend.resolve_left hrest⟩

end Orchestrator
