import Orchestrator.PublishedFrames
import Orchestrator.ReportFields

/-!
# What the frames of the server say

Every frame is a JSON document with a `type` and `data`.  What the server writes with `sprintf` its
own JSON reader reads back.

* `Event.reports` — what the frames of an event are meant to say.
* `Faithful` — a frame fits into its buffer and is read back as a report.
* `frames_faithful` — so are all frames of all events.
-/

namespace Orchestrator

open Json Printing

/-! ## Reports -/

/-- What a frame is meant to say. -/
structure Report where
  type : String
  fields : List (String × FieldValue)

/-- A report of the log: a time stamp and a message. -/
def logReport (timestampUs : ULong) (message : List Chunk) : Report where
  type := "log"
  fields := [("timestamp", .ms timestampUs.toNat), ("message", .text (chunksText message))]

/-- A report about a printer. -/
def consumerReport (printer : Printer) (status : String) (currentJobId : FieldValue) : Report where
  type := "consumer_update"
  fields :=
    [("id", .int (asInt printer.id)), ("papersLeft", .int (asInt printer.currentPaperCount)),
      ("status", .text status.toList), ("currentJobId", currentJobId)]

/-- The fields of the update of the statistics. -/
def statsFields (stats : SimulationStatistics) (queueLength : ℕ) : List (String × FieldValue) :=
  [("jobsProcessed", .fixed 0 (.ofNat stats.totalJobsServed)),
    ("jobsReceived", .fixed 0 (.ofNat stats.totalJobsArrived)),
    ("queueLength", .int (asInt queueLength)),
    ("avgCompletionTime", .fixed 2 (calculateAverageSystemTime stats)),
    ("papersUsed", .int (asInt (calculateTotalPapersUsed stats))),
    ("refillEvents", .fixed 0 (.ofNat stats.paperRefillEvents)),
    ("avgServiceTime", .fixed 2 (calculateOverallAverageServiceTime stats))]

/-- What the frames of an event are meant to say. -/
def Event.reports (now : ULong) (h : HandlerState) : Event → List Report
  | .simulationStart =>
      [⟨"simulation_started", [("timestamp", .int 0)]⟩,
        ⟨"log", [("timestamp", .int 0), ("message", .text "simulation begins".toList)]⟩]
  | .simulationEnd =>
      [logReport (now - h.referenceTimeUs)
          [.lit "simulation ends, duration = ", msOfULong (now - h.referenceTimeUs), .lit "ms"],
        ⟨"simulation_complete", [("duration", .ms (now - h.referenceTimeUs).toNat)]⟩]
  | .systemArrival job previous =>
      [logReport (job.systemArrivalTimeUs - h.referenceTimeUs)
        (jobArrivalMessage job.id job.papersRequired previous job.systemArrivalTimeUs false)]
  | .droppedJob job previous =>
      [logReport (job.systemArrivalTimeUs - h.referenceTimeUs)
        (jobArrivalMessage job.id job.papersRequired previous job.systemArrivalTimeUs true)]
  | .removedJob job => [logReport (now - h.referenceTimeUs) (removedJobMessage job)]
  | .queueArrival job _ =>
      [logReport (job.queueArrivalTimeUs - h.referenceTimeUs) (queueArrivalMessage job h.jobQueue)]
  | .queueDeparture job _ =>
      [logReport (job.queueDepartureTimeUs - h.referenceTimeUs)
        (queueDepartureMessage job h.jobQueue)]
  | .jobUpdate job =>
      [⟨"job_update",
        [("id", .int (asInt job.id)), ("papersRequired", .int (asInt job.papersRequired))]⟩]
  | .printerArrival job printer =>
      [logReport (job.serviceArrivalTimeUs - h.referenceTimeUs) (printerArrivalMessage job printer)]
  | .systemDeparture job printer =>
      [logReport (job.serviceDepartureTimeUs - h.referenceTimeUs)
        (systemDepartureMessage job printer)]
  | .paperEmpty printer jobId currentTimeUs =>
      [logReport (currentTimeUs - h.referenceTimeUs) (paperEmptyMessage printer jobId)]
  | .paperRefillStart printer papersNeeded timeToRefillUs currentTimeUs =>
      [logReport (currentTimeUs - h.referenceTimeUs)
        (paperRefillStartMessage printer papersNeeded timeToRefillUs)]
  | .paperRefillEnd printer refillDurationUs currentTimeUs =>
      [logReport (currentTimeUs - h.referenceTimeUs)
        (paperRefillEndMessage printer refillDurationUs)]
  | .scaleUp newPrinterCount queueLength currentTimeUs =>
      [logReport (currentTimeUs - h.referenceTimeUs) (scaleUpMessage newPrinterCount queueLength)]
  | .scaleDown newPrinterCount queueLength currentTimeUs =>
      [logReport (currentTimeUs - h.referenceTimeUs) (scaleDownMessage newPrinterCount queueLength)]
  | .printerIdle printer => [consumerReport printer "idle" .null]
  | .printerBusy printer jobId => [consumerReport printer "serving" (.int (asInt jobId))]
  | .printerWaitingRefill printer => [consumerReport printer "waiting_refill" .null]
  | .statsUpdate queueLength =>
      [⟨"stats_update", statsFields h.stats queueLength⟩]
  | .simulationStopped =>
      [logReport (now - h.referenceTimeUs)
        [.lit "simulation stopped, duration = ", msOfULong (now - h.referenceTimeUs), .lit "ms"]]
  | .simulationParameters _ | .jobsUpdate | .statistics => []

/-- A frame fits into its buffer with the terminator, and says what the report says. -/
structure Faithful (f : SentFrame) (r : Report) : Prop where
  fits : f.text.length < f.bufSize
  type : mgJsonGetStr f.text "$.type".toList = some r.type.toList
  fields : ∀ name v, r.fields.lookup name = some v → v.ReadAt f.text (fieldPath name)

/-! ## The document of a report -/

/-- The document of a report, in the layout of the formats. -/
def Report.doc (r : Report) : Doc :=
  .obj [] <| .ofList space []
    [("type", .str (piecesOf r.type.toList)),
      ("data", .obj [] (.ofList space [] (fieldDocs r.fields)))]

/-- The text of a value, before the rest of the text. -/
def FieldValue.write : FieldValue → (rest : List Char) → List Char
  | .int n, rest => decimal n ++ rest
  | .ms us, rest => (Numeral.fixed 3 ((us : ℚ) / 1000)).text ++ rest
  | .fixed p (.num q), rest => (Numeral.fixed p q).text ++ rest
  | .general (.num q), rest => (Numeral.general 2 q).text ++ rest
  | .text s, rest => '"' :: (s ++ '"' :: rest)
  | .fixed _ .nan, rest | .general .nan, rest | .null, rest => 'n' :: 'u' :: 'l' :: 'l' :: rest

/-- The text of the fields, before the rest of the text. -/
def writeFields : List (String × FieldValue) → (rest : List Char) → List Char
  | [], rest => rest
  | [(name, v)], rest => '"' :: (name.toList ++ '"' :: ':' :: v.write rest)
  | (name, v) :: f :: fields, rest =>
      '"' :: (name.toList ++ '"' :: ':' :: v.write (',' :: ' ' :: writeFields (f :: fields) rest))

/-- The text of a report, with its type and its fields. -/
def Report.text (r : Report) : List Char :=
  "\x7b\"type\":\"".toList ++ (r.type.toList ++ ("\", \"data\":\x7b".toList ++
    writeFields r.fields ['\x7d', '\x7d']))

/-- A report whose names and values can be printed. -/
structure Report.Plain (r : Report) : Prop where
  type : ∀ c ∈ r.type.toList, isPlain c = true
  names : ∀ f ∈ r.fields, plainName f.1 = true
  values : ∀ f ∈ r.fields, f.2.Printable

/-- The value of a field is written as its document. -/
lemma write_eq {v : FieldValue} (h : v.Printable) (rest : List Char) :
    v.write rest = v.doc.text ++ rest := by
  cases v with
  | int n => rw [FieldValue.doc, Doc.text, text_intNumeral]; rfl
  | ms us => rfl
  | fixed p x => cases x <;> rfl
  | general x => cases x <;> rfl
  | text s => simp [FieldValue.write, FieldValue.doc, Doc.text, quoted, piecesText_piecesOf h]
  | null => rfl

/-- The fields are written with a comma and a space between each two. -/
lemma writeFields_eq {fields : List (String × FieldValue)} (h : ∀ f ∈ fields, f.2.Printable)
    (rest : List Char) :
    writeFields fields rest =
      [',', ' '].intercalate ((fieldDocs fields).map fieldText) ++ rest := by
  induction fields with
  | nil => rfl
  | cons f fields ih =>
      obtain ⟨name, v⟩ := f
      have hvalue := write_eq (h (name, v) List.mem_cons_self)
      have hrest := ih fun g hg => h g (List.mem_cons_of_mem (name, v) hg)
      cases fields with
      | nil => simp [writeFields, hvalue, fieldDocs, fieldText]
      | cons g fields =>
          simp only [fieldDocs, List.map_cons] at hrest
          simp [writeFields, hvalue, hrest, fieldDocs, fieldText, List.intercalate_cons_cons]

/-- **The text of the document.** -/
theorem text_reportDoc {r : Report} (h : r.Plain) : r.doc.text = r.text := by
  have htype := piecesText_piecesOf h.type
  have hfields : (Members.ofList space [] (fieldDocs r.fields)).text ++ ['\x7d', '\x7d'] =
      writeFields r.fields ['\x7d', '\x7d'] := by
    rw [Members.text_ofList (plainNames_fieldDocs h.names), writeFields_eq h.values]
    split
    · next hnil => rw [hnil]; rfl
    · rfl
  show (Doc.obj [] (.cons [] (piecesOf "type".toList) [] [] (.str _) []
    (.cons space (piecesOf "data".toList) [] [] (.obj [] _) [] .nil))).text = _
  rw [text_typed, htype, hfields]
  rfl

/-! ## Reading a report -/

/-- The document of a report is one that the reader reads. -/
lemma legible_reportDoc {r : Report} (h : r.Plain) : Legible r.doc := by
  have hdata : Nested 1 (.obj [] (.ofList space [] (fieldDocs r.fields))) := by
    refine nested_obj (fun f hf => ?_) fun f hf => ?_
    · obtain ⟨g, hg, rfl⟩ := List.mem_map.mp hf
      exact h.names g hg
    · obtain ⟨g, hg, rfl⟩ := List.mem_map.mp hf
      exact FieldValue.nested (h.values g hg)
  have htype : Nested 1 (.str (piecesOf r.type.toList)) := ⟨trivial, Nat.zero_le 1, trivial⟩
  have hdoc : Nested 2 r.doc := by
    refine nested_obj (fun f hf => ?_) fun f hf => ?_
    · rcases List.mem_pair.mp hf with rfl | rfl
      · exact (rfl : plainName "type" = true)
      · exact (rfl : plainName "data" = true)
    · rcases List.mem_pair.mp hf with rfl | rfl
      · exact htype
      · exact hdata
  exact hdoc.legible (by decide)

/-- What is under a field's path in the document. -/
lemma at_reportDoc {r : Report} (h : r.Plain) (name : String) :
    r.doc.at ["data".toList, name.toList] = (r.fields.lookup name).map FieldValue.doc := by
  have hfind := @Members.find_ofList space [] _ (plainNames_fieldDocs h.names) name
  rw [lookup_fieldDocs] at hfind
  rw [← hfind]
  show ((Members.ofList space [] (fieldDocs r.fields)).find name.toList).bind some = _
  cases (Members.ofList space [] (fieldDocs r.fields)).find name.toList <;> rfl

/-- The reader of the document finds the value of a field. -/
lemma readAt_reportDoc {r : Report} (hr : r.Plain) {name : String} {v : FieldValue}
    (hv : r.fields.lookup name = some v) : v.ReadAt (docText [] [] r.doc) (fieldPath name) := by
  have hmem : (name, v) ∈ r.fields := by
    obtain ⟨l₁, l₂, hsplit, -⟩ := List.lookup_eq_some_iff.mp hv
    rw [hsplit]
    simp
  have hat := at_reportDoc hr name
  rw [hv] at hat
  rw [fieldPath_eq]
  exact FieldValue.readAt (legible_reportDoc hr)
    (pathName_field (pathName_of_plainName (hr.names _ hmem)).1) (hr.values _ hmem) hat

/-- **A frame with the text of a report says what the report says.** -/
theorem faithful_of_text {f : SentFrame} {r : Report} (hr : r.Plain)
    (htext : f.text = r.text) (hfits : f.text.length < f.bufSize) : Faithful f r := by
  have hdoc : f.text = docText [] [] r.doc := by
    rw [htext, ← text_reportDoc hr]
    exact (List.append_nil _).symm
  refine ⟨hfits, ?_, fun name v hv => ?_⟩
  · have hkeys : ∀ k ∈ ["type".toList], PathName k := by
      intro k hk
      rw [List.mem_singleton.mp hk]
      exact ⟨by decide, by decide, by decide, by decide⟩
    have hpath : "$.type".toList = pathOf ["type".toList] := rfl
    rw [hdoc, hpath, mgJsonGetStr_at [] [] (legible_reportDoc hr) hkeys]
    exact mgJsonUnescape_piecesOf hr.type
  · rw [hdoc]
    exact readAt_reportDoc hr hv

/-! ## The parts of a format -/

lemma asInt_bounds (n : Int) : -2 ^ 31 ≤ asInt n ∧ asInt n < 2 ^ 31 := by
  rw [asInt, BitVec.toInt_ofInt]
  have hlow := Int.le_bmod (x := n) (m := 2 ^ 32) (by decide)
  have hhigh := Int.bmod_lt (x := n) (m := 2 ^ 32) (by decide)
  omega

/-- A part of a format whose argument is a number that takes at most 22 characters. -/
def Chunk.Sized : Chunk → Prop
  | .fixed p x => p ≤ 3 ∧ ∃ q, x = .num q ∧ |q| * 10 ^ p ≤ 10 ^ 20 - 1
  | _ => True

@[simp] lemma Chunk.sized_lit (s : String) : (Chunk.lit s).Sized := trivial

@[simp] lemma Chunk.sized_int (n : Int) : (Chunk.int n).Sized := trivial

/-- The width of a part, with 22 characters for a number. -/
def Chunk.width : Chunk → ℕ
  | .lit s => s.toList.length
  | _ => 22

lemma Chunk.length_text_le {c : Chunk} (h : c.Sized) : c.text.length ≤ c.width := by
  cases c with
  | lit s => exact le_rfl
  | int n =>
      have hbounds := asInt_bounds n
      have habs : (asInt n).natAbs < 10 ^ 10 := by omega
      have hlen := length_decimal_le (k := 10) (by decide) habs
      exact hlen.trans (show 10 + 1 ≤ 22 by decide)
  | fixed p x =>
      obtain ⟨hp, q, rfl, hq⟩ := h
      have hsum : 20 - p + p = 20 := by omega
      have hlen : (Numeral.fixed p q).text.length ≤ 20 - p + p + 2 := by
        refine Numeral.length_fixed_le (by omega) ?_
        rw [hsum]
        exact_mod_cast hq
      rw [hsum] at hlen
      exact hlen

/-- The width of a text, from its parts. -/
lemma length_chunksText_le {cs : List Chunk} (h : ∀ c ∈ cs, c.Sized) :
    (chunksText cs).length ≤ (cs.map Chunk.width).sum := by
  induction cs with
  | nil => exact le_rfl
  | cons c cs ih =>
      have hc := Chunk.length_text_le (h c List.mem_cons_self)
      have hrest := ih fun d hd => h d (List.mem_cons_of_mem c hd)
      show (c.text ++ chunksText cs).length ≤ c.width + (cs.map Chunk.width).sum
      rw [List.length_append]
      omega

/-- A time in milliseconds. -/
lemma msOfULong_eq (x : ULong) : msOfULong x = .fixed 3 (.num (((x.toNat : ℤ) : ℚ) / 1000)) := by
  rw [msOfULong, Double.ofNat, Double.div_num (by norm_num), Int.cast_natCast]

lemma msOfInt_eq (n : Int) : msOfInt n = .fixed 3 (.num ((asInt n : ℚ) / 1000)) := by
  rw [msOfInt, Double.ofInt, Double.div_num (by norm_num)]

/-- Microseconds of 64 bits, as milliseconds. -/
lemma sized_ms {us : ℤ} (h : |us| < 2 ^ 64) : (Chunk.fixed 3 (.num ((us : ℚ) / 1000))).Sized := by
  refine ⟨by decide, _, rfl, ?_⟩
  have habs : |(us : ℚ) / 1000| * 10 ^ 3 = ((|us| : ℤ) : ℚ) := by
    rw [abs_div, Int.cast_abs]
    norm_num
  have hle : |us| ≤ 10 ^ 20 - 1 := by omega
  rw [habs]
  exact_mod_cast hle

lemma sized_msOfULong (x : ULong) : (msOfULong x).Sized := by
  rw [msOfULong_eq]
  have hx := x.toNat_lt
  refine sized_ms ?_
  rw [abs_of_nonneg (Int.natCast_nonneg _)]
  omega

lemma sized_msOfInt (n : Int) : (msOfInt n).Sized := by
  rw [msOfInt_eq]
  have hbounds := asInt_bounds n
  refine sized_ms ?_
  rw [abs_lt]
  omega

/-! ## The messages -/

/-- The literal characters of a part stand for themselves. -/
def Chunk.isPlain : Chunk → Bool
  | .lit s => s.toList.all Json.isPlain
  | _ => true

/-- A message that can stand in a log frame. -/
structure Message (m : List Chunk) : Prop where
  sized : ∀ c ∈ m, c.Sized
  plain : m.all Chunk.isPlain = true
  short : (m.map Chunk.width).sum ≤ 900

lemma Chunk.isPlain_text {c : Chunk} (hsized : c.Sized) (hplain : c.isPlain = true) :
    ∀ d ∈ c.text, Json.isPlain d = true := by
  cases c with
  | lit s => exact List.all_eq_true.mp hplain
  | int n => exact isPlain_decimal _
  | fixed p x =>
      obtain ⟨-, q, rfl, -⟩ := hsized
      exact isPlain_numeral _

/-- The text of a message has no escapes. -/
lemma Message.isPlain_text {m : List Chunk} (h : Message m) :
    ∀ c ∈ chunksText m, Json.isPlain c = true := by
  intro c hc
  obtain ⟨k, hk, hck⟩ := List.mem_flatMap.mp hc
  exact Chunk.isPlain_text (h.sized k hk) (List.all_eq_true.mp h.plain k hk) c hck

section Messages

variable (job : Job) (printer : Printer)

lemma message_jobArrival (jobId : ℕ) (papers : Int) (previous current : ULong) (dropped : Bool) :
    Message (jobArrivalMessage jobId papers previous current dropped) := by
  have hplural : (if papers = 1 then "" else "s") = "" ∨
      (if papers = 1 then "" else "s") = "s" := by
    split <;> simp
  have hsuffix : (if dropped then ", dropped" else "") = ", dropped" ∨
      (if dropped then ", dropped" else "") = "" := by
    split <;> simp
  unfold jobArrivalMessage
  rcases hplural with h | h <;> rcases hsuffix with h' | h' <;> rw [h, h'] <;>
    exact ⟨by simp [sized_msOfInt], rfl, Nat.le_of_ble_eq_true rfl⟩

lemma message_removedJob : Message (removedJobMessage job) :=
  ⟨by simp [removedJobMessage], rfl, Nat.le_of_ble_eq_true rfl⟩

lemma message_queueArrival (jobQueue : TimedQueue) : Message (queueArrivalMessage job jobQueue) :=
  ⟨by simp [queueArrivalMessage], rfl, Nat.le_of_ble_eq_true rfl⟩

lemma message_queueDeparture (jobQueue : TimedQueue) :
    Message (queueDepartureMessage job jobQueue) :=
  ⟨by simp [queueDepartureMessage, sized_msOfULong], rfl, Nat.le_of_ble_eq_true rfl⟩

lemma message_printerArrival : Message (printerArrivalMessage job printer) :=
  ⟨by simp [printerArrivalMessage], rfl, Nat.le_of_ble_eq_true rfl⟩

lemma message_systemDeparture : Message (systemDepartureMessage job printer) :=
  ⟨by simp [systemDepartureMessage, sized_msOfInt], rfl, Nat.le_of_ble_eq_true rfl⟩

lemma message_paperEmpty (jobId : ℕ) : Message (paperEmptyMessage printer jobId) :=
  ⟨by simp [paperEmptyMessage], rfl, Nat.le_of_ble_eq_true rfl⟩

lemma message_paperRefillStart (papersNeeded timeToRefillUs : Int) :
    Message (paperRefillStartMessage printer papersNeeded timeToRefillUs) :=
  ⟨by simp [paperRefillStartMessage, sized_msOfInt], rfl, Nat.le_of_ble_eq_true rfl⟩

lemma message_paperRefillEnd (refillDurationUs : Int) :
    Message (paperRefillEndMessage printer refillDurationUs) :=
  ⟨by simp [paperRefillEndMessage, sized_msOfInt], rfl, Nat.le_of_ble_eq_true rfl⟩

lemma message_scaleUp (count : Int) (queueLength : ℕ) :
    Message (scaleUpMessage count queueLength) :=
  ⟨by simp [scaleUpMessage], rfl, Nat.le_of_ble_eq_true rfl⟩

lemma message_scaleDown (count : Int) (queueLength : ℕ) :
    Message (scaleDownMessage count queueLength) :=
  ⟨by simp [scaleDownMessage], rfl, Nat.le_of_ble_eq_true rfl⟩

lemma message_simulationEnds (duration : ULong) :
    Message [.lit "simulation ends, duration = ", msOfULong duration, .lit "ms"] :=
  ⟨by simp [sized_msOfULong], rfl, Nat.le_of_ble_eq_true rfl⟩

lemma message_simulationStopped (duration : ULong) :
    Message [.lit "simulation stopped, duration = ", msOfULong duration, .lit "ms"] :=
  ⟨by simp [sized_msOfULong], rfl, Nat.le_of_ble_eq_true rfl⟩

end Messages

/-! ## The frames -/

lemma Report.plain_of_names {type : String} {fields : List (String × FieldValue)}
    (names : List String) (hfields : fields.map Prod.fst = names)
    (htype : type.toList.all Json.isPlain = true) (hnames : names.all plainName = true)
    (hvalues : ∀ f ∈ fields, f.2.Printable) : (Report.mk type fields).Plain where
  type := List.all_eq_true.mp htype
  names f hf := List.all_eq_true.mp hnames f.1 (hfields ▸ List.mem_map_of_mem hf)
  values := hvalues

lemma Report.text_mk (type : String) (fields : List (String × FieldValue)) :
    Report.text ⟨type, fields⟩ = "\x7b\"type\":\"".toList ++ (type.toList ++
      ("\", \"data\":\x7b".toList ++ writeFields fields ['\x7d', '\x7d'])) := rfl

lemma writeFields_singleton (name : String) (v : FieldValue) (rest : List Char) :
    writeFields [(name, v)] rest = '"' :: (name.toList ++ '"' :: ':' :: v.write rest) := rfl

lemma writeFields_cons_cons (name : String) (v : FieldValue) (f : String × FieldValue)
    (fields : List (String × FieldValue)) (rest : List Char) :
    writeFields ((name, v) :: f :: fields) rest =
      '"' :: (name.toList ++ '"' :: ':' ::
        v.write (',' :: ' ' :: writeFields (f :: fields) rest)) :=
  rfl

/-- The text of a log frame. -/
lemma text_logFrame (timestamp : Chunk) (m : List Chunk) :
    (logFrame timestamp m).text =
      "\x7b\"type\":\"log\", \"data\":\x7b\"timestamp\":".toList ++ (timestamp.text ++
        (", \"message\":\"".toList ++ (chunksText m ++ "\"\x7d\x7d".toList))) := by
  simp only [SentFrame.text, logFrame, chunksText, List.flatMap_cons, List.flatMap_append,
    List.flatMap_nil, Chunk.text, List.append_nil]

/-- The text of a report of the log. -/
lemma text_logReport (timestamp : FieldValue) (s : List Char) :
    Report.text ⟨"log", [("timestamp", timestamp), ("message", .text s)]⟩ =
      "\x7b\"type\":\"log\", \"data\":\x7b\"timestamp\":".toList ++
        timestamp.write (", \"message\":\"".toList ++ (s ++ "\"\x7d\x7d".toList)) := by
  rw [Report.text_mk, writeFields_cons_cons, writeFields_singleton]
  rfl

/-- A log frame is faithful when its time stamp is written as a number and its message is one. -/
lemma logFrame_faithful_of {t : Chunk} {v : FieldValue}
    (hwrite : ∀ rest, v.write rest = t.text ++ rest) (hv : v.Printable) (ht : t.Sized)
    (hwidth : t.width ≤ 22) {m : List Chunk} (hm : Message m) :
    Faithful (logFrame t m) ⟨"log", [("timestamp", v), ("message", .text (chunksText m))]⟩ := by
  have htext : (logFrame t m).text =
      Report.text ⟨"log", [("timestamp", v), ("message", .text (chunksText m))]⟩ := by
    rw [text_logFrame, text_logReport, hwrite]
  have hsized : ∀ c ∈ (logFrame t m).chunks, c.Sized := by
    intro c hc
    simp only [logFrame, List.mem_cons, List.mem_append, List.not_mem_nil, or_false] at hc
    rcases hc with rfl | rfl | rfl | hc | rfl
    · trivial
    · exact ht
    · trivial
    · exact hm.sized c hc
    · trivial
  refine faithful_of_text ?_ htext ?_
  · refine Report.plain_of_names ["timestamp", "message"] rfl rfl rfl ?_
    intro f hf
    rcases List.mem_pair.mp hf with rfl | rfl
    · exact hv
    · exact hm.isPlain_text
  · have hlen := length_chunksText_le hsized
    have hshort := hm.short
    have hsum : ((logFrame t m).chunks.map Chunk.width).sum =
        35 + (t.width + (13 + ((m.map Chunk.width).sum + 3))) := by
      simp only [logFrame, List.map_cons, List.map_append, List.sum_cons, List.sum_append]
      rfl
    rw [hsum] at hlen
    show (chunksText _).length < 1024
    omega

/-- **A log frame is faithful** whose message is one. -/
theorem logFrame_faithful (timestampUs : ULong) {m : List Chunk} (hm : Message m) :
    Faithful (logFrame (msOfULong timestampUs) m) (logReport timestampUs m) := by
  refine logFrame_faithful_of ?_ ?_ (sized_msOfULong timestampUs) ?_ hm
  · intro rest
    rw [msOfULong_eq]
    rfl
  · trivial
  · rw [msOfULong_eq]
    exact le_rfl

/-- A frame of one to four numbers or literals is faithful when its text is that of the report. -/
lemma faithful_of_chunks {f : SentFrame} {type : String} {fields : List (String × FieldValue)}
    (names : List String) (hfields : fields.map Prod.fst = names)
    (htype : type.toList.all Json.isPlain = true) (hnames : names.all plainName = true)
    (hvalues : ∀ f ∈ fields, f.2.Printable) (htext : f.text = Report.text ⟨type, fields⟩)
    (hsized : ∀ c ∈ f.chunks, c.Sized) (hwidth : (f.chunks.map Chunk.width).sum < f.bufSize) :
    Faithful f ⟨type, fields⟩ :=
  faithful_of_text (Report.plain_of_names names hfields htype hnames hvalues) htext
    ((length_chunksText_le hsized).trans_lt hwidth)

lemma simulationStarted_faithful :
    Faithful simulationStartedFrame ⟨"simulation_started", [("timestamp", .int 0)]⟩ :=
  faithful_of_chunks ["timestamp"] rfl rfl rfl (by simp [FieldValue.Printable]) rfl
    (by simp [simulationStartedFrame]) (Nat.le_of_ble_eq_true rfl)

lemma jobUpdate_faithful (job : Job) :
    Faithful (jobUpdateFrame job)
      ⟨"job_update",
        [("id", .int (asInt job.id)), ("papersRequired", .int (asInt job.papersRequired))]⟩ := by
  refine faithful_of_chunks ["id", "papersRequired"] rfl rfl rfl
    (by simp [FieldValue.Printable]) ?_
    (by simp [jobUpdateFrame]) (Nat.le_of_ble_eq_true rfl)
  rw [Report.text_mk, writeFields_cons_cons, writeFields_singleton]
  rfl

lemma simulationComplete_faithful (durationUs : ULong) :
    Faithful (simulationCompleteFrame durationUs)
      ⟨"simulation_complete", [("duration", .ms durationUs.toNat)]⟩ := by
  refine faithful_of_chunks ["duration"] rfl rfl rfl (by simp [FieldValue.Printable]) ?_
    (by simp [simulationCompleteFrame, sized_msOfULong]) ?_
  · rw [simulationCompleteFrame, msOfULong_eq, Report.text_mk, writeFields_singleton]
    rfl
  · rw [simulationCompleteFrame, msOfULong_eq]
    exact Nat.le_of_ble_eq_true rfl

/-- The update of a printer without a job, with its status. -/
lemma consumer_faithful {f : SentFrame} (printer : Printer) (status : String) (job : FieldValue)
    (hstatus : status.toList.all Json.isPlain = true) (hjob : job.Printable)
    (htext : f.text = (consumerReport printer status job).text) (hsized : ∀ c ∈ f.chunks, c.Sized)
    (hwidth : (f.chunks.map Chunk.width).sum < f.bufSize) :
    Faithful f (consumerReport printer status job) := by
  refine faithful_of_chunks ["id", "papersLeft", "status", "currentJobId"] rfl rfl rfl ?_ htext
    hsized hwidth
  intro f hf
  simp only [List.mem_cons, List.not_mem_nil, or_false] at hf
  rcases hf with rfl | rfl | rfl | rfl
  · trivial
  · trivial
  · exact List.all_eq_true.mp hstatus
  · exact hjob

lemma printerIdle_faithful (printer : Printer) :
    Faithful (printerIdleFrame printer) (consumerReport printer "idle" .null) := by
  refine consumer_faithful printer "idle" .null rfl trivial ?_
    (by simp [printerIdleFrame]) (Nat.le_of_ble_eq_true rfl)
  rw [consumerReport, Report.text_mk, writeFields_cons_cons, writeFields_cons_cons,
    writeFields_cons_cons, writeFields_singleton]
  rfl

lemma printerBusy_faithful (printer : Printer) (jobId : ℕ) :
    Faithful (printerBusyFrame printer jobId)
      (consumerReport printer "serving" (.int (asInt jobId))) := by
  refine consumer_faithful printer "serving" (.int (asInt jobId)) rfl trivial ?_
    (by simp [printerBusyFrame]) (Nat.le_of_ble_eq_true rfl)
  rw [consumerReport, Report.text_mk, writeFields_cons_cons, writeFields_cons_cons,
    writeFields_cons_cons, writeFields_singleton]
  rfl

lemma printerWaitingRefill_faithful (printer : Printer) :
    Faithful (printerWaitingRefillFrame printer)
      (consumerReport printer "waiting_refill" .null) := by
  refine consumer_faithful printer "waiting_refill" .null rfl trivial ?_
    (by simp [printerWaitingRefillFrame]) (Nat.le_of_ble_eq_true rfl)
  rw [consumerReport, Report.text_mk, writeFields_cons_cons, writeFields_cons_cons,
    writeFields_cons_cons, writeFields_singleton]
  rfl

/-! ## The update of the statistics -/

/-- The counters that are a `double`, which counts to `2 ^ 53`. -/
structure CountersInRange (stats : SimulationStatistics) : Prop where
  served : stats.totalJobsServed ≤ 2 ^ 53
  arrived : stats.totalJobsArrived ≤ 2 ^ 53
  refills : stats.paperRefillEvents ≤ 2 ^ 53

lemma sized_count {n : ℕ} (h : n ≤ 2 ^ 53) : (Chunk.fixed 0 (.ofNat n)).Sized := by
  refine ⟨by decide, n, rfl, ?_⟩
  have hle : n ≤ 10 ^ 20 - 1 := by omega
  rw [pow_zero, mul_one, abs_of_nonneg (Nat.cast_nonneg n)]
  have hcast : (n : ℚ) ≤ ((10 ^ 20 - 1 : ℕ) : ℚ) := Nat.cast_le.mpr hle
  exact hcast.trans (by norm_num)

/-- Seconds from microseconds of 64 bits, per job. -/
lemma sized_mean (us : ULong) {n : ℕ} (h : n ≠ 0) :
    (Chunk.fixed 2 (.num ((us.toNat : ℚ) / 1000000 / n))).Sized := by
  refine ⟨by decide, _, rfl, ?_⟩
  have hone : (1 : ℚ) ≤ n := by exact_mod_cast Nat.one_le_iff_ne_zero.mpr h
  have hus : (us.toNat : ℚ) ≤ 2 ^ 64 := by exact_mod_cast us.toNat_lt.le
  rw [abs_of_nonneg (by positivity)]
  calc (us.toNat : ℚ) / 1000000 / n * 10 ^ 2
      ≤ (us.toNat : ℚ) / 1000000 * 10 ^ 2 :=
        mul_le_mul_of_nonneg_right (div_le_self (by positivity) hone) (by positivity)
    _ ≤ 2 ^ 64 / 1000000 * 10 ^ 2 := by gcongr
    _ ≤ 10 ^ 20 - 1 := by norm_num

lemma sized_zero : (Chunk.fixed 2 (.num 0)).Sized := ⟨by decide, 0, rfl, by norm_num⟩

lemma sized_averageSystemTime (stats : SimulationStatistics) :
    (Chunk.fixed 2 (calculateAverageSystemTime stats)).Sized := by
  rw [calculateAverageSystemTime]
  split
  · exact sized_zero
  · next h =>
    have hn : (stats.totalJobsServed : ℚ) ≠ 0 := Nat.cast_ne_zero.mpr h
    rw [Double.ofNat, Double.ofNat, Double.div_num (by norm_num), Double.div_num hn]
    exact sized_mean _ h

lemma sized_overallAverageServiceTime (stats : SimulationStatistics) :
    (Chunk.fixed 2 (calculateOverallAverageServiceTime stats)).Sized := by
  rw [calculateOverallAverageServiceTime]
  split
  · exact sized_zero
  · next h =>
    have hn : (stats.totalJobsServed : ℚ) ≠ 0 := Nat.cast_ne_zero.mpr h
    dsimp only
    rw [Double.ofNat, Double.ofNat, Double.div_num hn, Double.div_num (by norm_num),
      div_right_comm]
    exact sized_mean _ h

lemma text_statsUpdate (stats : SimulationStatistics) (queueLength : ℕ) {q q' : ℚ}
    (hq : calculateAverageSystemTime stats = .num q)
    (hq' : calculateOverallAverageServiceTime stats = .num q') :
    (statsUpdateFrame stats queueLength).text =
      Report.text ⟨"stats_update", statsFields stats queueLength⟩ := by
  rw [statsUpdateFrame, statsFields, hq, hq', Report.text_mk, writeFields_cons_cons,
    writeFields_cons_cons, writeFields_cons_cons, writeFields_cons_cons, writeFields_cons_cons,
    writeFields_cons_cons, writeFields_singleton]
  generalize calculateTotalPapersUsed stats = papers
  rfl

/-- **The update of the statistics is faithful.** -/
theorem statsUpdate_faithful {stats : SimulationStatistics} (h : CountersInRange stats)
    (queueLength : ℕ) :
    Faithful (statsUpdateFrame stats queueLength)
      ⟨"stats_update", statsFields stats queueLength⟩ := by
  have hsystem := sized_averageSystemTime stats
  have hservice := sized_overallAverageServiceTime stats
  have hsized : ∀ c ∈ (statsUpdateFrame stats queueLength).chunks, c.Sized := by
    simp [statsUpdateFrame, sized_count h.served, sized_count h.arrived, sized_count h.refills,
      hsystem, hservice]
  obtain ⟨-, q, hq, -⟩ := hsystem
  obtain ⟨-, q', hq', -⟩ := hservice
  refine faithful_of_chunks ["jobsProcessed", "jobsReceived", "queueLength", "avgCompletionTime",
    "papersUsed", "refillEvents", "avgServiceTime"] rfl rfl rfl ?_
    (text_statsUpdate stats queueLength hq hq') hsized (by simp [statsUpdateFrame, Chunk.width])
  intro f hf
  simp only [statsFields, List.mem_cons, List.not_mem_nil, or_false] at hf
  rcases hf with rfl | rfl | rfl | rfl | rfl | rfl | rfl
  · exact ⟨_, rfl⟩
  · exact ⟨_, rfl⟩
  · trivial
  · exact ⟨q, hq⟩
  · trivial
  · exact ⟨_, rfl⟩
  · exact ⟨q', hq'⟩

/-! ## All events -/

/-- The log frame at the start. -/
lemma simulationBegins_faithful :
    Faithful (logFrame (.lit "0") [.lit "simulation begins"])
      ⟨"log", [("timestamp", .int 0), ("message", .text "simulation begins".toList)]⟩ := by
  have hmessage : Message [.lit "simulation begins"] :=
    ⟨by simp, rfl, Nat.le_of_ble_eq_true rfl⟩
  have hzero : (FieldValue.int 0).Printable := trivial
  exact logFrame_faithful_of (fun _ => rfl) hzero (Chunk.sized_lit "0")
    (Nat.le_of_ble_eq_true rfl) hmessage

/-- **What the server says is what it means.** Every frame of every event fits into its buffer with
the terminator, and the server's own reader finds in it the type and every field of its report. -/
theorem frames_faithful (e : Event) (now : ULong) (h : HandlerState)
    (hcounters : CountersInRange h.stats) :
    List.Forall₂ Faithful (e.frames now h) (e.reports now h) := by
  have hlog := @logFrame_faithful
  cases e with
  | simulationStart => exact .cons simulationStarted_faithful (.cons simulationBegins_faithful .nil)
  | simulationEnd =>
      exact .cons (hlog _ (message_simulationEnds _)) (.cons (simulationComplete_faithful _) .nil)
  | systemArrival job previous => exact .cons (hlog _ (message_jobArrival ..)) .nil
  | droppedJob job previous => exact .cons (hlog _ (message_jobArrival ..)) .nil
  | removedJob job => exact .cons (hlog _ (message_removedJob job)) .nil
  | queueArrival job _ => exact .cons (hlog _ (message_queueArrival job h.jobQueue)) .nil
  | queueDeparture job _ => exact .cons (hlog _ (message_queueDeparture job h.jobQueue)) .nil
  | jobUpdate job => exact .cons (jobUpdate_faithful job) .nil
  | printerArrival job printer => exact .cons (hlog _ (message_printerArrival job printer)) .nil
  | systemDeparture job printer => exact .cons (hlog _ (message_systemDeparture job printer)) .nil
  | paperEmpty printer jobId _ => exact .cons (hlog _ (message_paperEmpty printer jobId)) .nil
  | paperRefillStart printer papersNeeded timeToRefillUs _ =>
      exact .cons (hlog _ (message_paperRefillStart printer papersNeeded timeToRefillUs)) .nil
  | paperRefillEnd printer refillDurationUs _ =>
      exact .cons (hlog _ (message_paperRefillEnd printer refillDurationUs)) .nil
  | scaleUp count queueLength _ => exact .cons (hlog _ (message_scaleUp count queueLength)) .nil
  | scaleDown count queueLength _ => exact .cons (hlog _ (message_scaleDown count queueLength)) .nil
  | printerIdle printer => exact .cons (printerIdle_faithful printer) .nil
  | printerBusy printer jobId => exact .cons (printerBusy_faithful printer jobId) .nil
  | printerWaitingRefill printer => exact .cons (printerWaitingRefill_faithful printer) .nil
  | statsUpdate queueLength => exact .cons (statsUpdate_faithful hcounters queueLength) .nil
  | simulationStopped => exact .cons (hlog _ (message_simulationStopped _)) .nil
  | simulationParameters | jobsUpdate | statistics => exact .nil

/-- The statistics of three jobs that took ten seconds in the system. -/
theorem frames_faithful_three :
    let stats := { SimulationStatistics.zero with
      totalJobsArrived := 4, totalJobsServed := 3, totalSystemTimeUs := 10000000 }
    let h : HandlerState := ⟨stats, ⟨[], 0⟩, default, default, 0, 0⟩
    List.Forall₂ Faithful ((Event.statsUpdate 1).frames 0 h) ((Event.statsUpdate 1).reports 0 h) :=
  frames_faithful _ _ _ ⟨by decide, by decide, by decide⟩

end Orchestrator
