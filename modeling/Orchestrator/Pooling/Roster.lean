import Mathlib.Logic.Function.Basic

/-!
# A roster of workers

A pool keeps one flag for each of its slots.  Starting a worker and setting its flag are two moves,
and so are waiting for the end of a worker and clearing its flag.  At the end a walk looks at every
slot once and waits for the workers of those whose flags are set.

* `Roster.Step` — the moves; a worker is started or stopped only in a slot that the walk has not
  looked at, and the walk does not look at a slot between the two moves of an operation.
* `Roster.Sound` — kept by every move: the latest worker of a slot has been waited for once or not
  at all, and every earlier one once.
* `Roster.Sound.at_end` — when the walk is through, every worker has been waited for once.
-/

namespace Pooling

/-- The slots of a pool.  `waits` counts for every worker a slot had how often it was waited for,
latest worker first. -/
structure Roster (ι : Type) where
  active : ι → Bool
  alive : ι → Bool
  waits : ι → List Nat
  looked : ι → Bool
  /-- a worker was started, and its flag is not set -/
  starting : Option ι
  /-- a worker was waited for, and its flag is not cleared -/
  stopping : Option ι
  /-- the walk waits for this worker -/
  joining : Option ι

namespace Roster

variable {ι : Type} [DecidableEq ι]

/-- The moves of the pool and of the walk. -/
inductive Step (r : Roster ι) : Roster ι → Prop where
  | start (i : ι) (free : r.active i = false) (ahead : r.looked i = false)
      (idle : r.starting = none) :
      Step r
        { r with
          alive := Function.update r.alive i true
          waits := Function.update r.waits i (0 :: r.waits i)
          starting := some i }
  | setFlag (i : ι) (here : r.starting = some i) :
      Step r { r with active := Function.update r.active i true, starting := none }
  | stop (i : ι) (taken : r.active i = true) (ended : r.alive i = false)
      (ahead : r.looked i = false) (idle : r.stopping = none) :
      Step r
        { r with
          waits := Function.update r.waits i ((r.waits i).modifyHead (· + 1))
          stopping := some i }
  | clearFlag (i : ι) (here : r.stopping = some i) :
      Step r { r with active := Function.update r.active i false, stopping := none }
  | lookTaken (i : ι) (taken : r.active i = true) (unmoved : r.stopping ≠ some i)
      (ahead : r.looked i = false) (idle : r.joining = none) :
      Step r { r with looked := Function.update r.looked i true, joining := some i }
  | lookFree (i : ι) (free : r.active i = false) (unmoved : r.starting ≠ some i) :
      Step r { r with looked := Function.update r.looked i true }
  | join (i : ι) (here : r.joining = some i) (ended : r.alive i = false) :
      Step r
        { r with
          waits := Function.update r.waits i ((r.waits i).modifyHead (· + 1))
          joining := none }

/-- Some workers end. -/
def Ends (r r' : Roster ι) : Prop :=
  ∃ alive : ι → Bool, (∀ i, alive i = true → r.alive i = true) ∧ r' = { r with alive := alive }

/-- The latest worker of slot `i` was not waited for. -/
def Unjoined (r : Roster ι) (i : ι) : Prop :=
  r.starting = some i ∨
    (r.active i = true ∧ r.stopping ≠ some i ∧ (r.looked i = false ∨ r.joining = some i))

/-- What is kept. -/
structure Sound (r : Roster ι) : Prop where
  unjoined : ∀ i, r.Unjoined i → ∃ rest, r.waits i = 0 :: rest ∧ ∀ n ∈ rest, n = 1
  joined : ∀ i, ¬r.Unjoined i → (∀ n ∈ r.waits i, n = 1) ∧ r.alive i = false
  starting : ∀ i, r.starting = some i → r.active i = false ∧ r.looked i = false
  stopping : ∀ i, r.stopping = some i → r.active i = true ∧ r.looked i = false
  joining : ∀ i, r.joining = some i → r.active i = true ∧ r.looked i = true

omit [DecidableEq ι] in
lemma Sound.ends {r r' : Roster ι} (h : r.Sound) (he : Ends r r') : r'.Sound := by
  obtain ⟨alive, hle, rfl⟩ := he
  refine ⟨h.unjoined, fun i hi => ⟨(h.joined i hi).1, ?_⟩, h.starting, h.stopping, h.joining⟩
  by_contra halive
  have := hle i (by simpa using halive)
  rw [(h.joined i hi).2] at this
  cases this

/-- What a slot has to satisfy. -/
def SlotSound (r : Roster ι) (i : ι) : Prop :=
  (r.Unjoined i ∧ ∃ rest, r.waits i = 0 :: rest ∧ ∀ n ∈ rest, n = 1) ∨
    (¬r.Unjoined i ∧ (∀ n ∈ r.waits i, n = 1) ∧ r.alive i = false)

/-- A move that concerns one slot. -/
lemma Sound.of_slot {r r' : Roster ι} (h : r.Sound) (i : ι) (hself : r'.SlotSound i)
    (hother : ∀ j, j ≠ i → (r'.Unjoined j ↔ r.Unjoined j) ∧ r'.waits j = r.waits j ∧
      r'.alive j = r.alive j)
    (hstarting : ∀ j, r'.starting = some j → r'.active j = false ∧ r'.looked j = false)
    (hstopping : ∀ j, r'.stopping = some j → r'.active j = true ∧ r'.looked j = false)
    (hjoining : ∀ j, r'.joining = some j → r'.active j = true ∧ r'.looked j = true) :
    r'.Sound := by
  refine ⟨fun j hj => ?_, fun j hj => ?_, hstarting, hstopping, hjoining⟩
  · by_cases hji : j = i
    · subst hji
      exact (hself.resolve_right fun hd => hd.1 hj).2
    · obtain ⟨hun, hwaits, _⟩ := hother j hji
      rw [hwaits]
      exact h.unjoined j (hun.mp hj)
  · by_cases hji : j = i
    · subst hji
      exact (hself.resolve_left fun hu => hj hu.1).2
    · obtain ⟨hun, hwaits, halive⟩ := hother j hji
      rw [hwaits, halive]
      exact h.joined j fun hu => hj (hun.mpr hu)

section Slots

variable {r : Roster ι} {i : ι} (h : r.Sound)

include h

omit [DecidableEq ι] in
lemma Sound.starting_ne (hi : r.active i = true ∨ r.looked i = true) : r.starting ≠ some i := by
  intro hstart
  obtain ⟨free, ahead⟩ := h.starting i hstart
  rcases hi with hi | hi <;> simp_all

omit [DecidableEq ι] in
lemma Sound.stopping_ne (hi : r.active i = false ∨ r.looked i = true) : r.stopping ≠ some i := by
  intro hstop
  obtain ⟨taken, ahead⟩ := h.stopping i hstop
  rcases hi with hi | hi <;> simp_all

omit [DecidableEq ι] in
lemma Sound.joining_ne (hi : r.active i = false ∨ r.looked i = false) : r.joining ≠ some i := by
  intro hjoin
  obtain ⟨taken, looked⟩ := h.joining i hjoin
  rcases hi with hi | hi <;> simp_all

end Slots

/-- **Every move keeps the roster sound.** -/
theorem Step.sound {r r' : Roster ι} (hs : Step r r') (h : r.Sound) : r'.Sound := by
  cases hs with
  | start i free ahead idle =>
      have hjoined : ¬r.Unjoined i := by simp [Unjoined, free, idle]
      refine h.of_slot i (.inl ⟨.inl rfl, _, by simp, (h.joined i hjoined).1⟩) (fun j hj => ?_)
        (fun j hj => ?_) h.stopping h.joining
      · simp [Unjoined, idle, hj, Ne.symm hj]
      · obtain rfl := Option.some.inj hj
        exact ⟨free, ahead⟩
  | setFlag i here =>
      obtain ⟨free, ahead⟩ := h.starting i here
      have hstopping : r.stopping ≠ some i := h.stopping_ne (.inl free)
      have hjoining : r.joining ≠ some i := h.joining_ne (.inl free)
      refine h.of_slot i (.inl ⟨.inr ⟨by simp, hstopping, .inl ahead⟩, h.unjoined i (.inl here)⟩)
        (fun j hj => ?_) (fun j hj => by cases hj) (fun j hj => ?_) fun j hj => ?_
      · simp [Unjoined, here, hj, Ne.symm hj]
      · have hne : j ≠ i := fun heq => hstopping (heq ▸ hj)
        simpa [hne] using h.stopping j hj
      · have hne : j ≠ i := fun heq => hjoining (heq ▸ hj)
        simpa [hne] using h.joining j hj
  | stop i taken ended ahead idle =>
      have hunjoined : r.Unjoined i := .inr ⟨taken, by simp [idle], .inl ahead⟩
      have hstarting : r.starting ≠ some i := h.starting_ne (.inl taken)
      obtain ⟨rest, hwaits, hrest⟩ := h.unjoined i hunjoined
      refine h.of_slot i (.inr ⟨by simp [Unjoined, hstarting], ?_, ended⟩) (fun j hj => ?_)
        h.starting (fun j hj => ?_) h.joining
      · simpa [hwaits] using hrest
      · simp [Unjoined, idle, hj, Ne.symm hj]
      · obtain rfl := Option.some.inj hj
        exact ⟨taken, ahead⟩
  | clearFlag i here =>
      obtain ⟨taken, ahead⟩ := h.stopping i here
      have hstarting : r.starting ≠ some i := h.starting_ne (.inl taken)
      have hjoining : r.joining ≠ some i := h.joining_ne (.inr ahead)
      have hjoined : ¬r.Unjoined i := by simp [Unjoined, here, hstarting]
      refine h.of_slot i (.inr ⟨by simp [Unjoined, hstarting], h.joined i hjoined⟩)
        (fun j hj => ?_) (fun j hj => ?_) (fun j hj => by cases hj) fun j hj => ?_
      · simp [Unjoined, here, hj, Ne.symm hj]
      · have hne : j ≠ i := fun heq => hstarting (heq ▸ hj)
        simpa [hne] using h.starting j hj
      · have hne : j ≠ i := fun heq => hjoining (heq ▸ hj)
        simpa [hne] using h.joining j hj
  | lookTaken i taken unmoved ahead idle =>
      have hunjoined : r.Unjoined i := .inr ⟨taken, unmoved, .inl ahead⟩
      have hstarting : r.starting ≠ some i := h.starting_ne (.inl taken)
      refine h.of_slot i (.inl ⟨.inr ⟨taken, unmoved, .inr rfl⟩, h.unjoined i hunjoined⟩)
        (fun j hj => ?_) (fun j hj => ?_) (fun j hj => ?_) fun j hj => ?_
      · simp [Unjoined, idle, hj, Ne.symm hj]
      · have hne : j ≠ i := fun heq => hstarting (heq ▸ hj)
        simpa [hne] using h.starting j hj
      · have hne : j ≠ i := fun heq => unmoved (heq ▸ hj)
        simpa [hne] using h.stopping j hj
      · obtain rfl := Option.some.inj hj
        exact ⟨taken, by simp⟩
  | lookFree i free unmoved =>
      have hjoined : ¬r.Unjoined i := by simp [Unjoined, free, unmoved]
      have hstopping : r.stopping ≠ some i := h.stopping_ne (.inl free)
      refine h.of_slot i (.inr ⟨by simp [Unjoined, free, unmoved], h.joined i hjoined⟩)
        (fun j hj => ?_) (fun j hj => ?_) (fun j hj => ?_) fun j hj => ?_
      · simp [Unjoined, hj]
      · have hne : j ≠ i := fun heq => unmoved (heq ▸ hj)
        simpa [hne] using h.starting j hj
      · have hne : j ≠ i := fun heq => hstopping (heq ▸ hj)
        simpa [hne] using h.stopping j hj
      · obtain ⟨htaken, hlooked⟩ := h.joining j hj
        refine ⟨htaken, ?_⟩
        by_cases hne : j = i
        · simp [hne]
        · simpa [hne] using hlooked
  | join i here ended =>
      obtain ⟨taken, looked⟩ := h.joining i here
      have hstopping : r.stopping ≠ some i := h.stopping_ne (.inr looked)
      have hstarting : r.starting ≠ some i := h.starting_ne (.inl taken)
      obtain ⟨rest, hwaits, hrest⟩ := h.unjoined i (.inr ⟨taken, hstopping, .inr here⟩)
      refine h.of_slot i (.inr ⟨by simp [Unjoined, hstarting, looked], ?_, ended⟩)
        (fun j hj => ?_) h.starting h.stopping fun j hj => by cases hj
      · simpa [hwaits] using hrest
      · simp [Unjoined, here, hj, Ne.symm hj]

omit [DecidableEq ι] in
/-- Nobody is waited for twice. -/
lemma Sound.at_most {r : Roster ι} (h : r.Sound) (i : ι) : ∀ n ∈ r.waits i, n ≤ 1 := by
  intro n hn
  by_cases hu : r.Unjoined i
  · obtain ⟨rest, hwaits, hrest⟩ := h.unjoined i hu
    rw [hwaits] at hn
    rcases List.mem_cons.mp hn with rfl | hn
    · exact Nat.zero_le 1
    · exact Nat.le_of_eq (hrest n hn)
  · exact Nat.le_of_eq ((h.joined i hu).1 n hn)

omit [DecidableEq ι] in
/-- **When the walk is through**, everyone has been waited for once and has ended. -/
theorem Sound.at_end {r : Roster ι} (h : r.Sound) (hlooked : ∀ i, r.looked i = true)
    (hjoining : r.joining = none) (i : ι) : (∀ n ∈ r.waits i, n = 1) ∧ r.alive i = false := by
  refine h.joined i fun hu => ?_
  rcases hu with hstart | ⟨_, _, hlook | hjoin⟩
  · have := (h.starting i hstart).2
    rw [hlooked i] at this
    cases this
  · rw [hlooked i] at hlook
    cases hlook
  · rw [hjoining] at hjoin
    cases hjoin

end Roster

end Pooling
