/-
**The replay window over whole histories.**

A receiver asks `alreadyReceived` of a sequence number and, unless the answer is yes, records it with
`advanceSequence`. `receive` does that for a list of numbers, from the reset window, and keeps the
numbers it accepted, newest first.

* `Tracks` — what the window knows of the accepted numbers, kept by every step (`Tracks.accept`);
* `replay_window_sound` — **no number is accepted twice**, except the one that marks an empty cell
  (`noSequence_accepted_twice`);
* `replay_window_complete` — **a number that was not accepted and is within the window is not taken
  for a replay**, whatever came before it and in whatever order.
-/

import Netcode.Model.Replay

namespace Netcode.ReplayProtection

/-- One received number: unless the window already has it, it is recorded and accepted. -/
def accept (state : ReplayProtection × List UInt64) (sequence : UInt64) :
    ReplayProtection × List UInt64 :=
  if state.1.alreadyReceived sequence then state
  else (state.1.advanceSequence sequence, sequence :: state.2)

/-- A list of received numbers, from the reset window. -/
def receive (sequences : List UInt64) : ReplayProtection × List UInt64 :=
  sequences.foldl accept (reset, [])

/-- **What the window knows** of the accepted numbers. -/
structure Tracks (r : ReplayProtection) (accepted : List UInt64) : Prop where
  bound : ∀ n ∈ accepted, n.toNat ≤ r.mostRecentSequence.toNat
  greatest : accepted = [] ∧ r.mostRecentSequence = 0 ∨ r.mostRecentSequence ∈ accepted
  /-- A cell in use holds an accepted number of its own. -/
  cells : ∀ cell, r.receivedPacket cell ≠ noSequence →
    r.receivedPacket cell ∈ accepted ∧ index (r.receivedPacket cell) = cell
  received : ∀ n ∈ accepted, n ≠ noSequence → r.alreadyReceived n = true
  once : ∀ n, n ≠ noSequence → accepted.count n ≤ 1

theorem tracks_reset : Tracks reset [] where
  bound := fun _ member => by cases member
  greatest := .inl ⟨rfl, rfl⟩
  cells := fun _ used => absurd rfl used
  received := fun _ member => by cases member
  once := fun _ _ => Nat.zero_le _

variable {r : ReplayProtection} {accepted : List UInt64} {sequence : UInt64}

theorem advance_mostRecent (r : ReplayProtection) (sequence : UInt64) :
    (r.advanceSequence sequence).mostRecentSequence.toNat =
      max r.mostRecentSequence.toNat sequence.toNat := by
  unfold advanceSequence
  dsimp only
  split_ifs with newer
  · exact (Nat.max_eq_right (Nat.le_of_lt (UInt64.lt_iff_toNat_lt.mp newer))).symm
  · exact (Nat.max_eq_left (UInt64.le_iff_toNat_le.mp (UInt64.not_lt.mp newer))).symm

/-- A received number stays received when the last number of all is recorded: that takes the mark of
an empty cell, but it moves the window past every other number of its cell. -/
theorem alreadyReceived_advance_noSequence {n : UInt64} (received : r.alreadyReceived n = true)
    (below : n ≠ noSequence) : (r.advanceSequence noSequence).alreadyReceived n = true := by
  have top : noSequence.toNat = 2 ^ 64 - 1 := by decide
  have less : n.toNat < 2 ^ 64 - 1 := by
    have bounded := n.toNat_lt
    have other : n.toNat ≠ 2 ^ 64 - 1 := fun same => below (UInt64.toNat_inj.mp (same.trans top.symm))
    omega
  rw [alreadyReceived_iff] at received ⊢
  rw [advance_mostRecent]
  by_cases same : index n = index noSequence
  · left
    have congruent : n.toNat % 256 = 255 := same
    omega
  · rcases received with far | recorded
    · left
      omega
    · right
      simpa only [advanceSequence, Function.update_of_ne same] using recorded

/-- **Receiving more never forgets**, whatever is recorded. -/
theorem alreadyReceived_kept {n : UInt64} (received : r.alreadyReceived n = true)
    (below : n ≠ noSequence) (fresh : r.alreadyReceived sequence = false) :
    (r.advanceSequence sequence).alreadyReceived n = true := by
  by_cases top : sequence = noSequence
  · rw [top]
    exact alreadyReceived_advance_noSequence received below
  · exact alreadyReceived_advance r received fresh top

/-- **One accepted number** more: the window tracks it too. -/
theorem Tracks.advance (tracks : Tracks r accepted) (fresh : r.alreadyReceived sequence = false) :
    Tracks (r.advanceSequence sequence) (sequence :: accepted) where
  bound := fun n member => by
    rw [advance_mostRecent]
    rcases List.mem_cons.mp member with rfl | before
    · exact Nat.le_max_right _ _
    · exact (tracks.bound n before).trans (Nat.le_max_left _ _)
  greatest := .inr <| by
    simp only [advanceSequence]
    split_ifs with newer
    · exact List.mem_cons_self
    · rcases tracks.greatest with ⟨-, zero⟩ | member
      · -- nothing is above zero only if the number itself is zero
        rw [zero] at newer ⊢
        have isZero : sequence = 0 := by
          rw [gt_iff_lt, UInt64.not_lt, UInt64.le_iff_toNat_le] at newer
          exact UInt64.toNat_inj.mp (Nat.le_zero.mp newer)
        rw [isZero]
        exact List.mem_cons_self
      · exact List.mem_cons_of_mem _ member
  cells := fun cell used => by
    by_cases here : cell = index sequence
    · subst here
      simp [advanceSequence]
    · simp only [advanceSequence, Function.update_of_ne here] at used ⊢
      exact ⟨List.mem_cons_of_mem _ (tracks.cells cell used).1, (tracks.cells cell used).2⟩
  received := fun n member below => by
    rcases List.mem_cons.mp member with rfl | before
    · exact alreadyReceived_advance_self r below
    · exact alreadyReceived_kept (tracks.received n before below) below fresh
  once := fun n below => by
    by_cases same : sequence = n
    · have isNew : sequence ∉ accepted := fun member => by
        rw [tracks.received sequence member (same ▸ below)] at fresh
        cases fresh
      rw [← same, List.count_cons_self, List.count_eq_zero.mpr isNew]
    · rw [List.count_cons_of_ne same]
      exact tracks.once n below

/-- **One step.** -/
theorem Tracks.accept {state : ReplayProtection × List UInt64} (tracks : Tracks state.1 state.2)
    (sequence : UInt64) : Tracks (accept state sequence).1 (accept state sequence).2 := by
  unfold ReplayProtection.accept
  split_ifs with before
  · exact tracks
  · exact tracks.advance (by simpa using before)

/-- **Every history.** -/
theorem tracks_receive (sequences : List UInt64) :
    Tracks (receive sequences).1 (receive sequences).2 := by
  have steps : ∀ state : ReplayProtection × List UInt64, Tracks state.1 state.2 →
      Tracks (sequences.foldl ReplayProtection.accept state).1
        (sequences.foldl ReplayProtection.accept state).2 := by
    induction sequences with
    | nil => exact fun _ tracks => tracks
    | cons sequence rest ih => exact fun state tracks => ih _ (tracks.accept sequence)
  exact steps (reset, []) tracks_reset

/-! ### Soundness -/

/-- The last number of all is never taken for a replay. -/
theorem alreadyReceived_noSequence (r : ReplayProtection) : r.alreadyReceived noSequence = false := by
  have top : noSequence.toNat = 2 ^ 64 - 1 := by decide
  rw [← Bool.not_eq_true, alreadyReceived_iff]
  rintro (far | ⟨used, least⟩)
  · have := r.mostRecentSequence.toNat_lt
    omega
  · have := (r.receivedPacket (index noSequence)).toNat_lt
    exact used (UInt64.toNat_inj.mp (by omega))

/-- So it is accepted as often as it comes. -/
theorem count_noSequence (sequences : List UInt64) :
    (receive sequences).2.count noSequence = sequences.count noSequence := by
  have steps : ∀ state : ReplayProtection × List UInt64,
      (sequences.foldl accept state).2.count noSequence =
        sequences.count noSequence + state.2.count noSequence := by
    induction sequences with
    | nil => exact fun _ => (Nat.zero_add _).symm
    | cons sequence rest ih =>
      intro state
      rw [List.foldl_cons, ih, accept]
      by_cases last : sequence = noSequence
      · rw [last, alreadyReceived_noSequence, if_neg (by decide), List.count_cons_self,
          List.count_cons_self]
        omega
      · rw [List.count_cons_of_ne last]
        split_ifs
        · rfl
        · rw [List.count_cons_of_ne last]
  exact steps (reset, [])

/-- **No sequence number is accepted twice**, over any list of 64-bit numbers, if it is not the one
that marks an empty cell; and none at all just if that one comes at most once. -/
theorem replay_window_sound (sequences : List UInt64) :
    (∀ n, n ≠ noSequence → (receive sequences).2.count n ≤ 1) ∧
      ((∀ n, (receive sequences).2.count n ≤ 1) ↔ sequences.count noSequence ≤ 1) := by
  have once := (tracks_receive sequences).once
  refine ⟨once, fun all => count_noSequence sequences ▸ all noSequence, fun last n => ?_⟩
  by_cases same : n = noSequence
  · rw [same, count_noSequence]
    exact last
  · exact once n same

/-- A number comes back after the window has moved on, and after the last number of all. -/
theorem replay_window_sound_repeated :
    (∀ n, (receive [7, 263, 7, noSequence, 7, 263]).2.count n ≤ 1) ∧
      (receive [7, 263, 7, noSequence, 7, 263]).2.count 7 ≤ 1 :=
  ⟨(replay_window_sound _).2.mpr (by decide), (replay_window_sound _).1 7 (by decide)⟩

/-- **The last number of all is accepted again and again**: recording it leaves its cell marked as
empty. -/
theorem noSequence_accepted_twice : (receive [noSequence, noSequence]).2.count noSequence = 2 := by
  decide

/-! ### Completeness -/

/-- **A number within the window is not taken for a replay** if it was not accepted before: it may be
greater than every accepted number, or up to 255 below the greatest of them, which is the
`mostRecentSequence`. -/
theorem replay_window_complete (sequences : List UInt64) :
    ((receive sequences).2 = [] ∧ (receive sequences).1.mostRecentSequence = 0 ∨
        (receive sequences).1.mostRecentSequence ∈ (receive sequences).2) ∧
      (∀ n ∈ (receive sequences).2, n ≤ (receive sequences).1.mostRecentSequence) ∧
      ∀ s, s ∉ (receive sequences).2 →
        ((receive sequences).1.mostRecentSequence - 256 < s ∨
          (receive sequences).1.mostRecentSequence < 256) →
        (receive sequences).1.alreadyReceived s = false := by
  have tracks := tracks_receive sequences
  generalize receive sequences = state at tracks ⊢
  refine ⟨tracks.greatest, fun n member => UInt64.le_iff_toNat_le.mpr (tracks.bound n member),
    fun s never within => ?_⟩
  have near : state.1.mostRecentSequence.toNat < 256 + s.toNat := by
    rcases Nat.lt_or_ge state.1.mostRecentSequence.toNat 256 with small | large
    · omega
    · rcases within with above | small
      · have atLeast : (256 : UInt64) ≤ state.1.mostRecentSequence := UInt64.le_iff_toNat_le.mpr large
        rw [UInt64.lt_iff_toNat_lt, UInt64.toNat_sub_of_le _ _ atLeast] at above
        change _ - 256 < _ at above
        omega
      · exact absurd (UInt64.lt_iff_toNat_lt.mp small) (Nat.not_lt.mpr large)
  by_contra received
  rw [Bool.not_eq_false, alreadyReceived_iff] at received
  rcases received with far | ⟨used, least⟩
  · omega
  · -- the cell holds an accepted number, hence another one, and the two are 256 apart
    obtain ⟨member, cell⟩ := tracks.cells _ used
    have other : s.toNat ≠ (state.1.receivedPacket (index s)).toNat :=
      fun same => never (UInt64.toNat_inj.mp same ▸ member)
    have congruent : (state.1.receivedPacket (index s)).toNat % 256 = s.toNat % 256 := cell
    have most := tracks.bound _ member
    omega

/-- A number in the middle of the window, between two accepted ones of its neighbourhood, at the top
of the sequence space. -/
theorem replay_window_complete_top :
    (receive [noSequence - 1, noSequence - 255, 3]).1.alreadyReceived (noSequence - 254) = false :=
  (replay_window_complete [noSequence - 1, noSequence - 255, 3]).2.2 _ (by decide) (by decide)

/-- **A number that was not accepted is fresh** if no accepted number is far ahead of it. -/
theorem Tracks.fresh {n : UInt64} (tracks : Tracks r accepted) (never : n ∉ accepted)
    (near : ∀ m ∈ accepted, m.toNat < 256 + n.toNat) : r.alreadyReceived n = false := by
  rw [← Bool.not_eq_true, alreadyReceived_iff]
  rintro (far | ⟨used, least⟩)
  · rcases tracks.greatest with ⟨-, zero⟩ | member
    · rw [zero] at far
      exact absurd far (by simp)
    · exact absurd (near _ member) (by omega)
  · obtain ⟨member, cell⟩ := tracks.cells _ used
    have other : n.toNat ≠ (r.receivedPacket (index n)).toNat :=
      fun same => never (UInt64.toNat_inj.mp same ▸ member)
    have congruent : (r.receivedPacket (index n)).toNat % 256 = n.toNat % 256 := cell
    have less := near _ member
    omega

/-! ### Numbers that are still to come -/

/-- No number from `n` on has been received. -/
def FreshFrom (r : ReplayProtection) (n : UInt64) : Prop :=
  ∀ m : UInt64, n.toNat ≤ m.toNat → r.alreadyReceived m = false

theorem freshFrom_reset (n : UInt64) : reset.FreshFrom n := fun _ _ => rfl

/-- Receiving a number leaves the later ones fresh. -/
theorem FreshFrom.advance {r : ReplayProtection} {n : UInt64} (fresh : r.FreshFrom n)
    (small : n.toNat + 1 < 2 ^ 64) : (r.advanceSequence n).FreshFrom (n + 1) := by
  intro m later
  rw [toNat_succ small] at later
  have before := fresh m (by omega)
  rw [← Bool.not_eq_true, alreadyReceived_iff] at before ⊢
  rw [advance_mostRecent]
  rintro (far | ⟨used, least⟩)
  · exact before (.inl (by omega))
  · simp only [advanceSequence] at used least
    by_cases same : index m = index n
    · rw [same, Function.update_self] at least
      omega
    · rw [Function.update_of_ne same] at used least
      exact before (.inr ⟨used, least⟩)

end Netcode.ReplayProtection
