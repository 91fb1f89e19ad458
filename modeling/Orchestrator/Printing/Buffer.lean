import Mathlib.Algebra.Group.Int.Defs
import Mathlib.Algebra.GroupWithZero.Nat
import Mathlib.Data.List.Basic
import Mathlib.Tactic.Common

/-!
# Printing into a buffer piece by piece

The idiom `offset += snprintf(buf + offset, size - offset, …)`.  `snprintf` stores at most the size
it is given, terminator included, and returns the length it would have stored, so the offset may
leave the buffer; the remaining size is then negative and turns into a large unsigned number.

* `Writer.print` — one call.
* `Fits.printAll` — a text that fits is stored completely, and no call leaves the buffer.
* `Cut.print` — a text that does not fit is cut at the last byte of the buffer, unless a call leaves
  it.
* `printAll_respects_iff` — the idiom is right exactly for the texts that fit.
* `printAll_cString` — the string in the buffer is then the whole text.
-/

namespace Printing

/-- The terminator. -/
def nul : Char := '\x00'

/-- The memory from `buf` on holds a text of `n` characters. -/
def Terminated (mem : ℕ → Char) (n : ℕ) : Prop := mem n = nul ∧ ∀ i < n, mem i ≠ nul

/-- The characters `s` are stored from `offset` on. -/
def store (mem : ℕ → Char) (offset : ℕ) (s : List Char) : ℕ → Char :=
  fun i => if offset ≤ i then s[i - offset]?.getD (mem i) else mem i

/-- `snprintf(buf + offset, size, …)`, where `text` is the formatted text. -/
def snprintf (mem : ℕ → Char) (offset size : ℕ) (text : List Char) : ℕ → Char :=
  if size = 0 then mem else store mem offset (text.take (size - 1) ++ [nul])

/-- The conversion of an `int` to `size_t`. -/
def sizeOfInt (i : Int) : ℕ := (i % 2 ^ 64).toNat

/-- The offset and the size of a call. -/
structure Call where
  offset : ℕ
  size : ℕ

/-- A call stays within the buffer. -/
def Call.InBounds (bufSize : ℕ) (c : Call) : Prop :=
  c.offset ≤ bufSize ∧ c.size ≤ bufSize - c.offset

/-- The memory, the offset and the calls so far. -/
structure Writer where
  mem : ℕ → Char
  offset : ℕ
  calls : List Call

variable {bufSize : ℕ} {w : Writer} {text : List Char} {texts : List (List Char)} {c : Call}

/-- `offset += snprintf(buf + offset, buf_size - offset, …)`. -/
def Writer.print (bufSize : ℕ) (w : Writer) (text : List Char) : Writer :=
  let size := sizeOfInt ((bufSize : Int) - w.offset)
  { mem := snprintf w.mem w.offset size text
    offset := w.offset + text.length
    calls := w.calls ++ [⟨w.offset, size⟩] }

/-- One call after the other, from the beginning of the buffer. -/
def printAll (bufSize : ℕ) (mem : ℕ → Char) (texts : List (List Char)) : Writer :=
  texts.foldl (Writer.print bufSize) ⟨mem, 0, []⟩

/-- The calls stay within the buffer, and the offset is the length of what is stored. -/
structure Writer.Respects (bufSize : ℕ) (w : Writer) : Prop where
  calls : ∀ c ∈ w.calls, c.InBounds bufSize
  stored : Terminated w.mem w.offset

/-! ## One call -/

lemma sizeOfInt_sub {offset : ℕ} (h : offset ≤ bufSize) (hbuf : bufSize < 2 ^ 64) :
    sizeOfInt ((bufSize : Int) - offset) = bufSize - offset := by
  rw [sizeOfInt, Int.emod_eq_of_lt (by omega) (by omega)]
  omega

lemma store_of_lt {mem : ℕ → Char} {offset i : ℕ} {s : List Char} (h : i < offset) :
    store mem offset s i = mem i := if_neg (by omega)

lemma store_add {mem : ℕ → Char} {offset i : ℕ} {s : List Char} (h : i < s.length) :
    store mem offset s (offset + i) = s[i] := by
  rw [store, if_pos (by omega), Nat.add_sub_cancel_left, List.getElem?_eq_getElem h,
    Option.getD_some]

/-- The terminator comes right after the characters that are stored. -/
lemma snprintf_nul (mem : ℕ → Char) (offset : ℕ) {size : ℕ} (text : List Char)
    (hsize : 0 < size) :
    snprintf mem offset size text (offset + min (size - 1) text.length) = nul := by
  rw [snprintf, if_neg (by omega), store_add (by simp)]
  simp

/-- A call with nothing left of the buffer stores nothing. -/
lemma snprintf_zero {mem : ℕ → Char} {offset : ℕ} : snprintf mem offset 0 text = mem := rfl

/-- Nothing before the offset changes. -/
lemma snprintf_of_lt {mem : ℕ → Char} {offset size i : ℕ} (h : i < offset) :
    snprintf mem offset size text i = mem i := by
  rw [snprintf]
  split
  · rfl
  · exact store_of_lt h

/-- A character of a text that fits. -/
lemma snprintf_add {mem : ℕ → Char} {offset size i : ℕ} (hsize : text.length < size)
    (hi : i < text.length) : snprintf mem offset size text (offset + i) = text[i] := by
  have htake : text.take (size - 1) = text := List.take_of_length_le (by omega)
  have hlen : i < (text ++ [nul]).length := by
    rw [List.length_append]
    omega
  rw [snprintf, if_neg (by omega), htake, store_add hlen, List.getElem_append_left hi]

/-! ## A text that fits -/

/-- What is true of the writer as long as the text fits. -/
structure Fits (bufSize : ℕ) (w : Writer) : Prop where
  calls : ∀ c ∈ w.calls, c.InBounds bufSize
  text : ∀ i < w.offset, w.mem i ≠ nul
  ended : w.calls ≠ [] → w.mem w.offset = nul

lemma Fits.print (h : Fits bufSize w) (hbuf : bufSize < 2 ^ 64) (htext : nul ∉ text)
    (hlt : w.offset + text.length < bufSize) : Fits bufSize (w.print bufSize text) := by
  have hoffset : w.offset ≤ bufSize := by omega
  have hsize := sizeOfInt_sub hoffset hbuf
  refine ⟨fun c hc => ?_, fun i hi => ?_, fun _ => ?_⟩
  · rw [Writer.print, hsize] at hc
    rcases List.mem_append.mp hc with hc | hc
    · exact h.calls c hc
    · rw [List.mem_singleton] at hc
      subst hc
      exact ⟨show w.offset ≤ bufSize by omega, Nat.le_refl _⟩
  · show snprintf w.mem w.offset (sizeOfInt (bufSize - w.offset)) text i ≠ nul
    rw [hsize]
    by_cases hold : i < w.offset
    · rw [snprintf_of_lt hold]
      exact h.text i hold
    · obtain ⟨j, rfl⟩ := Nat.exists_eq_add_of_le (Nat.le_of_not_lt hold)
      have hj : j < text.length := by
        have hi' : w.offset + j < w.offset + text.length := hi
        omega
      rw [snprintf_add (by omega) hj]
      exact fun heq => htext (heq ▸ List.getElem_mem hj)
  · show snprintf w.mem w.offset (sizeOfInt (bufSize - w.offset)) text (w.offset + text.length) =
      nul
    have hmin : min (bufSize - w.offset - 1) text.length = text.length := by omega
    have hnul := snprintf_nul w.mem w.offset text
      (show 0 < bufSize - w.offset by omega)
    rw [hsize]
    rwa [hmin] at hnul

/-- **A text that fits** is stored completely. -/
theorem Fits.printAll (hbuf : bufSize < 2 ^ 64) (h : Fits bufSize w)
    (htexts : ∀ text ∈ texts, nul ∉ text)
    (hlt : w.offset + (texts.map List.length).sum < bufSize) :
    Fits bufSize (texts.foldl (Writer.print bufSize) w) := by
  induction texts generalizing w with
  | nil => exact h
  | cons text texts ih =>
      rw [List.map_cons, List.sum_cons] at hlt
      have hprint := h.print hbuf (htexts text List.mem_cons_self) (by omega)
      have hoffset : (w.print bufSize text).offset = w.offset + text.length := rfl
      exact ih hprint (fun s hs => htexts s (List.mem_cons_of_mem text hs)) (by omega)

/-! ## A text that does not fit -/

/-- Once the offset has reached the end of the buffer, the terminator is in its last byte, unless a
call left the buffer. -/
def Cut (bufSize : ℕ) (w : Writer) : Prop :=
  (∀ c ∈ w.calls, c.InBounds bufSize) → bufSize ≤ w.offset → w.mem (bufSize - 1) = nul

lemma Cut.print (h : Cut bufSize w) (hbuf : bufSize < 2 ^ 64) (text : List Char) :
    Cut bufSize (w.print bufSize text) := by
  intro hcalls hle
  have hlast : Call.InBounds bufSize ⟨w.offset, sizeOfInt (bufSize - w.offset)⟩ :=
    hcalls _ (List.mem_append_right _ (List.mem_singleton_self _))
  have hsize := sizeOfInt_sub hlast.1 hbuf
  show snprintf w.mem w.offset (sizeOfInt (bufSize - w.offset)) text (bufSize - 1) = nul
  rw [hsize]
  by_cases hfull : w.offset = bufSize
  · rw [hfull, Nat.sub_self, snprintf_zero]
    exact h (fun c hc => hcalls c (List.mem_append_left _ hc)) (Nat.le_of_eq hfull.symm)
  · have hoffset : w.offset ≤ bufSize := hlast.1
    have hlong : bufSize ≤ w.offset + text.length := hle
    have hmin : min (bufSize - w.offset - 1) text.length = bufSize - w.offset - 1 := by omega
    have hnul := snprintf_nul w.mem w.offset text
      (show 0 < bufSize - w.offset by omega)
    rw [hmin] at hnul
    have hplace : w.offset + (bufSize - w.offset - 1) = bufSize - 1 := by omega
    rwa [hplace] at hnul

lemma foldl_offset : (texts.foldl (Writer.print bufSize) w).offset =
    w.offset + (texts.map List.length).sum := by
  induction texts generalizing w with
  | nil => simp
  | cons text texts ih =>
      have hoffset : (w.print bufSize text).offset = w.offset + text.length := rfl
      rw [List.foldl_cons, ih, hoffset, List.map_cons, List.sum_cons]
      omega

/-- **The idiom is right exactly for the texts that fit** into the buffer with their terminator. -/
theorem printAll_respects_iff (hpos : 0 < bufSize) (hbuf : bufSize < 2 ^ 64) (mem : ℕ → Char)
    (htexts : ∀ text ∈ texts, nul ∉ text) (hne : texts ≠ []) :
    (printAll bufSize mem texts).Respects bufSize ↔ (texts.map List.length).sum < bufSize := by
  have hoffset : (printAll bufSize mem texts).offset = (texts.map List.length).sum := by
    rw [printAll, foldl_offset, Nat.zero_add]
  constructor
  · rintro ⟨hcalls, -, hstored⟩
    by_contra hle
    rw [Nat.not_lt] at hle
    have hcut : Cut bufSize (printAll bufSize mem texts) := by
      refine List.foldlRecOn texts (Writer.print bufSize) ?_ fun w hw text _ => hw.print hbuf text
      intro _ hzero
      have hnone : bufSize ≤ 0 := hzero
      omega
    exact hstored (bufSize - 1) (by omega) (hcut hcalls (by omega))
  · intro hlt
    have hstart : Fits bufSize ⟨mem, 0, []⟩ := ⟨by simp, by simp, by simp⟩
    have hfits : Fits bufSize (printAll bufSize mem texts) :=
      hstart.printAll hbuf htexts (by simpa using hlt)
    refine ⟨hfits.calls, hfits.ended ?_, hfits.text⟩
    rcases List.eq_nil_or_concat texts with rfl | ⟨init, last, rfl⟩
    · exact absurd rfl hne
    · rw [printAll, List.concat_eq_append, List.foldl_append]
      simp [Writer.print]

/-! ## The string in the buffer -/

/-- The characters of the buffer before the first terminator. -/
def cString (bufSize : ℕ) (mem : ℕ → Char) : List Char :=
  ((List.range bufSize).map mem).takeWhile (· ≠ nul)

/-- The memory before the offset is the text. -/
def Written (text : List Char) (w : Writer) : Prop :=
  w.offset = text.length ∧ ∀ (i : ℕ) (h : i < text.length), w.mem i = text[i]

/-- One more text is added to what the memory holds. -/
lemma Written.print {s : List Char} (h : Written s w) (hbuf : bufSize < 2 ^ 64)
    (hlt : w.offset + text.length < bufSize) : Written (s ++ text) (w.print bufSize text) := by
  have hsize := @sizeOfInt_sub bufSize w.offset (by omega) hbuf
  refine ⟨?_, fun i hi => ?_⟩
  · show w.offset + text.length = _
    rw [h.1, List.length_append]
  · rw [List.length_append] at hi
    show snprintf w.mem w.offset (sizeOfInt (bufSize - w.offset)) text i = _
    rw [hsize]
    by_cases hold : i < s.length
    · rw [snprintf_of_lt (by rw [h.1]; exact hold), h.2 i hold, List.getElem_append_left hold]
    · obtain ⟨j, rfl⟩ := Nat.exists_eq_add_of_le (Nat.le_of_not_lt hold)
      have hj : j < text.length := by omega
      have hnew := @snprintf_add text w.mem w.offset (bufSize - w.offset) j (by omega) hj
      rw [h.1] at hnew ⊢
      rw [hnew, List.getElem_append_right (Nat.le_add_right _ _)]
      simp

lemma Written.printAll {s : List Char} (h : Written s w) (hbuf : bufSize < 2 ^ 64)
    (hlt : w.offset + (texts.map List.length).sum < bufSize) :
    Written (s ++ texts.flatten) (texts.foldl (Writer.print bufSize) w) := by
  induction texts generalizing s w with
  | nil => simpa using h
  | cons text texts ih =>
      rw [List.map_cons, List.sum_cons] at hlt
      have hoffset : (w.print bufSize text).offset = w.offset + text.length := rfl
      have hprint : Written (s ++ text) (w.print bufSize text) := h.print hbuf (by omega)
      have hnext := ih hprint (by omega)
      rw [List.flatten_cons, ← List.append_assoc]
      exact hnext

/-- A text in the memory with the terminator behind it is the string there. -/
lemma cString_eq {mem : ℕ → Char} {s : List Char} (hs : nul ∉ s) (hlt : s.length < bufSize)
    (htext : ∀ (i : ℕ) (h : i < s.length), mem i = s[i]) (hend : mem s.length = nul) :
    cString bufSize mem = s := by
  obtain ⟨k, rfl⟩ := Nat.exists_eq_add_of_le hlt
  have hfront : (List.range s.length).map mem = s :=
    List.ext_getElem (by simp) fun i h₁ h₂ => by simp [htext i h₂]
  have hrange : (List.range (s.length + 1 + k)).map mem =
      s ++ nul :: (List.range k).map (fun i => mem (s.length + 1 + i)) := by
    rw [List.range_add, List.range_succ, List.map_append, List.map_append, hfront, List.map_map]
    simp [hend, Function.comp_def]
  rw [cString, hrange, List.takeWhile_append_of_pos]
  · simp
  · intro c hc
    exact decide_eq_true fun heq => hs (heq ▸ hc)

/-- **The string in the buffer is the whole text** when it fits with its terminator. -/
theorem printAll_cString (hbuf : bufSize < 2 ^ 64) (mem : ℕ → Char)
    (htexts : ∀ text ∈ texts, nul ∉ text) (hne : texts ≠ [])
    (hlt : (texts.map List.length).sum < bufSize) :
    cString bufSize (printAll bufSize mem texts).mem = texts.flatten := by
  have hrespects := (printAll_respects_iff (by omega) hbuf mem htexts hne).mpr hlt
  have hempty : Written [] ⟨mem, 0, []⟩ := ⟨rfl, fun i h => absurd h (Nat.not_lt_zero i)⟩
  have hwritten : Written texts.flatten (printAll bufSize mem texts) :=
    hempty.printAll hbuf (by simpa using hlt)
  refine cString_eq ?_ ?_ hwritten.2 ?_
  · simp only [List.mem_flatten, not_exists, not_and]
    exact htexts
  · rw [List.length_flatten]
    exact hlt
  · rw [← hwritten.1]
    exact hrespects.stored.1

end Printing
