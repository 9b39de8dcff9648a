import Mathlib.Data.List.Induction
import Mathlib.Data.List.Nodup
import RandomBeacon.Stamp

/-!
Stamps drawn from one cell, in every order of loads and exchanges. A move either exchanges the stamp
that the cell holds now for its successor, or leaves both the cell and the stamps in hand alone
(`move_cases`), so the drawers hold what has been exchanged (`held?_after`). As long as no exchange
has gone on from zero (`Mint.Straight`), and no longer, the stamps rise from one exchange to the
next (`straight_iff_rising`), and nobody shares one (`Straight.unshared`). Where sums are checked
that is always so (`straight_of_panics`); where they are not, it is so while the clock and the
number of exchanges leave room below the last word (`Room.straight`).
-/

namespace RandomBeacon

section Words

variable {overflow : Overflow} {seen reading stamp : UInt64}

theorem toNat_lastWord : lastWord.toNat + 1 = UInt64.size := rfl

theorem toNat_lt_lastWord (more : seen ≠ lastWord) : seen.toNat + 1 < UInt64.size := by
  have differs : seen.toNat ≠ lastWord.toNat := fun same => more (UInt64.toNat_inj.mp same)
  have below := seen.toNat_lt_size
  have last := toNat_lastWord
  omega

/-- Short of the last word, words follow one another as numbers do. -/
theorem toNat_stamp? (more : seen ≠ lastWord) (is : overflow.stamp? seen reading = some stamp) :
    stamp.toNat = nextStamp seen.toNat reading.toNat := by
  have below := toNat_lt_lastWord more
  have next : (seen + 1).toNat = seen.toNat + 1 := by
    rw [UInt64.toNat_add, UInt64.toNat_one]
    exact Nat.mod_eq_of_lt below
  have stamped : max reading (seen + 1) = stamp := by
    rw [Overflow.stamp?, if_neg fun refused => more refused.2] at is
    exact Option.some.inj is
  rw [← stamped, UInt64.max_def, nextStamp]
  by_cases behind : reading ≤ seen + 1
  · have behind' := UInt64.le_iff_toNat_le.mp behind
    rw [if_pos behind]
    omega
  · have ahead := mt UInt64.le_iff_toNat_le.mpr behind
    rw [if_neg behind]
    omega

theorem lt_of_stamp? (more : seen ≠ lastWord) (is : overflow.stamp? seen reading = some stamp) :
    seen < stamp := by
  rw [UInt64.lt_iff_toNat_lt, toNat_stamp? more is, nextStamp]
  omega

/-- Where sums are checked, no stamp follows the last word. -/
theorem ne_lastWord_of_stamp? (is : Overflow.panics.stamp? seen reading = some stamp) :
    seen ≠ lastWord := by
  rintro rfl
  cases is

end Words

namespace Mint

variable {m : Mint} {overflow : Overflow} {i j age : Nat} {reading seen stamp : UInt64}
  {moves : List Move}

section Moves

theorem held?_put (there : i < m.drawers.length) (d : Drawer) :
    (m.put i d).held? j = if i = j then d.stamp? else m.held? j := by
  unfold held? put
  by_cases same : i = j
  · subst same
    simp [there]
  · simp [same]

/-- Who holds no stamp and goes on without one leaves the stamps in hand as they are. -/
theorem held?_put_idle {d e : Drawer} (there : m.drawers[i]? = some d) (without : d.stamp? = none)
    (still : e.stamp? = none) (j : Nat) : (m.put i e).held? j = m.held? j := by
  rw [held?_put (List.getElem?_eq_some_iff.mp there).1]
  by_cases same : i = j
  · subst same
    rw [if_pos rfl, held?, there, still]
    exact without.symm
  · rw [if_neg same]

theorem held?_arrive (reading : UInt64) (j : Nat) : (m.arrive reading).held? j = m.held? j := by
  unfold held? arrive
  by_cases old : j < m.drawers.length
  · rw [List.getElem?_append_left old]
  · have beyond : m.drawers[j]? = none := List.getElem?_eq_none (Nat.le_of_not_lt old)
    rw [List.getElem?_append_right (Nat.le_of_not_lt old), beyond]
    cases j - m.drawers.length <;> rfl

/-- What a move does: drawer number `i`, who has seen what the cell holds now, exchanges it for the
stamp that follows, or else neither the cell nor any stamp in hand changes. -/
theorem move_cases (overflow : Overflow) (m : Mint) (move : Move) :
    (∃ i reading stamp, m.drawers[i]? = some (.trying reading m.last) ∧
      overflow.stamp? m.last reading = some stamp ∧
      m.move overflow move = { m.put i (.holding stamp) with drawn := (i, stamp) :: m.drawn }) ∨
    ((m.move overflow move).drawn = m.drawn ∧
      ∀ j, (m.move overflow move).held? j = m.held? j) := by
  cases move with
  | arrive reading => exact .inr ⟨rfl, held?_arrive reading⟩
  | load i age =>
    right
    simp only [Mint.move, load]
    split
    · rename_i there
      exact ⟨rfl, held?_put_idle there rfl rfl⟩
    · exact ⟨rfl, fun _ => rfl⟩
  | exchange i spurious age =>
    simp only [Mint.move, exchange]
    split
    · rename_i reading seen there
      split
      · exact .inr ⟨rfl, held?_put_idle there rfl rfl⟩
      · rename_i stamp is
        split
        · rename_i fits
          obtain ⟨rfl, _⟩ := fits
          exact .inl ⟨i, reading, stamp, there, is, rfl⟩
        · exact .inr ⟨rfl, held?_put_idle there rfl rfl⟩
    · exact .inr ⟨rfl, fun _ => rfl⟩

/-- An exchange gives its drawer the stamp, who had none, and leaves the others theirs. -/
theorem held?_exchanged (there : m.drawers[i]? = some (.trying reading seen)) (stamp : UInt64) :
    m.held? i = none ∧
    ∀ j, ({ m.put i (.holding stamp) with drawn := (i, stamp) :: m.drawn } : Mint).held? j =
      if i = j then some stamp else m.held? j := by
  constructor
  · rw [held?, there]
    rfl
  · exact fun j => held?_put (List.getElem?_eq_some_iff.mp there).1 (.holding stamp)

/-- Nobody loses a stamp. -/
theorem held?_move {move : Move} (holds : m.held? i = some stamp) :
    (m.move overflow move).held? i = some stamp := by
  rcases m.move_cases overflow move with ⟨j, reading, new, there, _, moved⟩ | ⟨_, kept⟩
  · obtain ⟨without, after⟩ := held?_exchanged there new
    have other : j ≠ i := by
      rintro rfl
      rw [without] at holds
      cases holds
    rw [moved, after, if_neg other, holds]
  · rw [kept, holds]

end Moves

section Runs

theorem after_concat (overflow : Overflow) (moves : List Move) (next : Move) :
    after overflow (moves ++ [next]) = (after overflow moves).move overflow next :=
  List.foldl_concat ..

/-- What holds of a new mint and is kept by each of these moves holds after them. -/
theorem after_induction {P : Mint → Prop} (new : P {}) {moves : List Move}
    (step : ∀ m, ∀ move ∈ moves, P m → P (m.move overflow move)) : P (after overflow moves) := by
  induction moves using List.reverseRecOn with
  | nil => exact new
  | append_singleton moves next ih =>
    rw [after_concat]
    refine step _ next (List.mem_append_right _ List.mem_cons_self) (ih ?_)
    exact fun m move mem => step m move (List.mem_append_left _ mem)

/-- The drawers hold what they have exchanged. -/
theorem held?_after (overflow : Overflow) (moves : List Move) (i : Nat) (stamp : UInt64) :
    (after overflow moves).held? i = some stamp ↔ (i, stamp) ∈ (after overflow moves).drawn := by
  revert i stamp
  refine after_induction (P := fun m => ∀ i stamp, m.held? i = some stamp ↔ (i, stamp) ∈ m.drawn)
    ?_ ?_
  · intro i stamp
    simp [held?]
  · intro m move _ tallied i stamp
    rcases m.move_cases overflow move with ⟨j, reading, new, there, _, moved⟩ | ⟨drawn, kept⟩
    · obtain ⟨without, after⟩ := held?_exchanged there new
      rw [moved, after, List.mem_cons, ← tallied]
      by_cases own : j = i
      · subst own
        simp [without, eq_comm]
      · simp [own, Ne.symm own]
    · rw [kept, drawn, tallied]

end Runs

section Straight

/-- No exchange has gone on from zero: no stamp follows the last word. -/
def Straight (m : Mint) : Prop := lastWord ∉ m.stamps.tail

instance : Decidable m.Straight := inferInstanceAs (Decidable (lastWord ∉ m.stamps.tail))

/-- The cell holds the newest stamp, or zero if there is none. -/
theorem stamps_cases (m : Mint) :
    (m.stamps = [] ∧ m.last = 0) ∨ m.stamps = m.last :: m.stamps.tail := by
  unfold last shows
  cases m.stamps with
  | nil => exact .inl ⟨rfl, rfl⟩
  | cons newest earlier => exact .inr rfl

theorem last_ne_lastWord (short : lastWord ∉ m.stamps) : m.last ≠ lastWord := by
  rcases m.stamps_cases with ⟨_, zero⟩ | split
  · rw [zero]
    decide
  · rintro is
    rw [split, is] at short
    exact short List.mem_cons_self

/-- Where stamps rise, none is above what the cell holds. -/
theorem le_last (rising : m.stamps.Pairwise (· > ·)) (mem : stamp ∈ m.stamps) :
    stamp ≤ m.last := by
  rcases m.stamps_cases with ⟨none, _⟩ | split
  · rw [none] at mem
    cases mem
  · rw [split] at rising mem
    rcases List.mem_cons.mp mem with rfl | old
    · exact UInt64.le_refl _
    · exact UInt64.le_of_lt (List.rel_of_pairwise_cons rising old)

/-- As long as no exchange has gone on from zero, the stamps rise from one exchange to the next. -/
theorem Straight.rising (straight : (after overflow moves).Straight) :
    (after overflow moves).stamps.Pairwise (· > ·) := by
  revert straight
  refine after_induction (P := fun m => m.Straight → m.stamps.Pairwise (· > ·)) ?_ ?_
  · exact fun _ => .nil
  · intro m move _ rising straight
    rcases m.move_cases overflow move with ⟨i, reading, stamp, _, is, moved⟩ | ⟨drawn, _⟩
    · rw [moved] at straight ⊢
      have short : lastWord ∉ m.stamps := straight
      have rises := rising fun mem => short (List.mem_of_mem_tail mem)
      have above := lt_of_stamp? (last_ne_lastWord short) is
      exact .cons (fun old mem => UInt64.lt_of_le_of_lt (le_last rises mem) above) rises
    · have same : (m.move overflow move).stamps = m.stamps := congrArg (List.map _) drawn
      rw [Straight, same] at straight
      rw [same]
      exact rising straight

/-- Once an exchange has gone on from zero, they have not: no stamp is above the last word. -/
theorem straight_iff_rising :
    (after overflow moves).Straight ↔ (after overflow moves).stamps.Pairwise (· > ·) := by
  refine ⟨Straight.rising, fun rising passed => ?_⟩
  rcases (after overflow moves).stamps_cases with ⟨none, _⟩ | split
  · rw [none] at passed
    cases passed
  · rw [split] at rising
    have above : lastWord < (after overflow moves).last := List.rel_of_pairwise_cons rising passed
    have full := toNat_lastWord
    have below := (after overflow moves).last.toNat_lt_size
    rw [UInt64.lt_iff_toNat_lt] at above
    omega

/-- As long as no exchange has gone on from zero, nobody shares a stamp. -/
theorem Straight.unshared (straight : (after overflow moves).Straight)
    (mine : (after overflow moves).held? i = some stamp)
    (yours : (after overflow moves).held? j = some stamp) : i = j := by
  have distinct : (after overflow moves).stamps.Nodup :=
    straight.rising.imp fun above => (UInt64.ne_of_lt above).symm
  have same := List.inj_on_of_nodup_map distinct ((held?_after overflow moves i stamp).mp mine)
    ((held?_after overflow moves j stamp).mp yours) rfl
  exact congrArg Prod.fst same

/-- Where sums are checked, no exchange goes on from zero. -/
theorem straight_of_panics (moves : List Move) : (after .panics moves).Straight := by
  refine after_induction (P := Straight) ?_ ?_
  · rintro ⟨⟩
  · intro m move _ straight
    rcases m.move_cases .panics move with ⟨i, reading, stamp, _, is, moved⟩ | ⟨drawn, _⟩
    · rw [moved]
      change lastWord ∉ m.stamps
      rcases m.stamps_cases with ⟨none, _⟩ | split
      · rw [none]
        exact List.not_mem_nil
      · rw [split, List.mem_cons, not_or]
        exact ⟨(ne_lastWord_of_stamp? is).symm, straight⟩
    · have same : (m.move .panics move).stamps = m.stamps := congrArg (List.map _) drawn
      rwa [Straight, same]

end Straight

section Room

variable {bound : Nat}

/-- Whether a drawer that has yet to draw has read the clock before it shows `bound`. -/
def Early (bound : Nat) : Drawer → Prop
  | .arrived reading | .trying reading _ => reading.toNat < bound
  | .holding _ | .lost => True

theorem early_put {e : Drawer} (early : ∀ d ∈ m.drawers, Early bound d) (own : Early bound e) :
    ∀ d ∈ (m.put i e).drawers, Early bound d := by
  intro d mem
  rcases List.mem_or_eq_of_mem_set mem with old | same
  · exact early d old
  · exact same ▸ own

theorem early_move {move : Move} (low : ∀ reading, move = .arrive reading → reading.toNat < bound)
    (early : ∀ d ∈ m.drawers, Early bound d) :
    ∀ d ∈ (m.move overflow move).drawers, Early bound d := by
  cases move with
  | arrive reading =>
    intro d mem
    rcases List.mem_append.mp mem with old | new
    · exact early d old
    · rw [List.mem_singleton.mp new]
      exact low reading rfl
  | load i age =>
    simp only [Mint.move, load]
    split
    · rename_i reading there
      have own : reading.toNat < bound := early _ (List.mem_of_getElem? there)
      exact early_put early own
    · exact early
  | exchange i spurious age =>
    simp only [Mint.move, exchange]
    split
    · rename_i reading seen there
      have own : reading.toNat < bound := early _ (List.mem_of_getElem? there)
      split
      · exact early_put (e := .lost) early trivial
      · split
        · exact early_put (e := .holding _) early trivial
        · exact early_put early own
    · exact early

/-- Room below the last word: the clock has shown less than `bound` to all who came, and as many
stamps as have been drawn, one after the other from there, do not go past it. -/
structure Room (bound : Nat) (moves : List Move) (m : Mint) : Prop where
  pos : 1 < bound
  low : ∀ reading, .arrive reading ∈ moves → reading.toNat < bound
  few : bound + m.drawn.length ≤ UInt64.size + 1

/-- The stamps are ahead of the clock by no more than there have been exchanges, and none of them is
so far ahead that an exchange has gone on from zero. -/
structure Ahead (bound : Nat) (m : Mint) : Prop where
  below : ∀ stamp ∈ m.stamps, stamp.toNat + 2 ≤ bound + m.drawn.length
  straight : m.Straight

theorem Ahead.exchanged (ahead : m.Ahead bound) (pos : 1 < bound)
    (few : bound + m.drawn.length ≤ UInt64.size) (early : reading.toNat < bound)
    (is : overflow.stamp? m.last reading = some stamp) (d : Drawer) :
    ({ m.put i d with drawn := (i, stamp) :: m.drawn } : Mint).Ahead bound := by
  have last : m.last.toNat + 2 ≤ bound + m.drawn.length := by
    rcases m.stamps_cases with ⟨_, zero⟩ | split
    · rw [zero, UInt64.toNat_zero]
      omega
    · exact ahead.below _ (split ▸ List.mem_cons_self)
  have full := toNat_lastWord
  have more : m.last ≠ lastWord := by
    intro is
    rw [is] at last
    omega
  constructor
  · intro other mem
    change other.toNat + 2 ≤ bound + (m.drawn.length + 1)
    rcases List.mem_cons.mp mem with rfl | old
    · rw [toNat_stamp? more is, nextStamp]
      omega
    · have below := ahead.below other old
      omega
  · intro mem
    have below := ahead.below lastWord mem
    omega

/-- With room below the last word, no exchange goes on from zero. -/
theorem Room.straight (room : Room bound moves (after overflow moves)) :
    (after overflow moves).Straight := by
  obtain ⟨pos, low, few⟩ := room
  suffices ahead : (after overflow moves).Ahead bound from ahead.straight
  revert few
  refine (after_induction (P := fun m => (∀ d ∈ m.drawers, Early bound d) ∧
    (bound + m.drawn.length ≤ UInt64.size + 1 → m.Ahead bound)) ?_ ?_).2
  · exact ⟨by rintro d ⟨⟩, fun _ => ⟨by rintro stamp ⟨⟩, by rintro ⟨⟩⟩⟩
  · rintro m move mem ⟨early, ahead⟩
    refine ⟨early_move (fun reading is => low reading (is ▸ mem)) early, ?_⟩
    rcases m.move_cases overflow move with ⟨i, reading, stamp, there, is, moved⟩ | ⟨drawn, _⟩
    · rw [moved]
      intro few
      have few : bound + m.drawn.length ≤ UInt64.size := Nat.le_of_succ_le_succ few
      have own : reading.toNat < bound := early _ (List.mem_of_getElem? there)
      exact (ahead (Nat.le_succ_of_le few)).exchanged pos few own is _
    · have same : (m.move overflow move).stamps = m.stamps := congrArg (List.map _) drawn
      intro few
      rw [drawn] at few
      obtain ⟨below, straight⟩ := ahead few
      exact ⟨by rwa [same, drawn], by rwa [Straight, same]⟩

end Room

section Alone

/-- A drawer comes and draws, and nobody disturbs it. -/
def alone (overflow : Overflow) (reading : UInt64) (m : Mint) : Mint :=
  ((m.arrive reading).load m.drawers.length 0).exchange overflow m.drawers.length false 0

theorem alone_eq (is : overflow.stamp? m.last reading = some stamp) :
    m.alone overflow reading =
      ⟨m.drawers ++ [.holding stamp], (m.drawers.length, stamp) :: m.drawn⟩ := by
  have loaded : (m.arrive reading).load m.drawers.length 0 =
      ⟨m.drawers ++ [.trying reading m.last], m.drawn⟩ := by
    simp [load, arrive, put, last, shows, stamps]
  have holds : (⟨m.drawers ++ [.trying reading m.last], m.drawn⟩ : Mint).last = m.last := rfl
  rw [alone, loaded]
  simp [exchange, is, holds, put]

/-- Whom nobody disturbs gets the stamp that follows what the cell holds. -/
theorem alone_draws (more : m.last ≠ lastWord) (overflow : Overflow) (reading : UInt64) :
    ∃ stamp, (m.alone overflow reading).held? m.drawers.length = some stamp ∧
      (m.alone overflow reading).last = stamp ∧
      stamp.toNat = nextStamp m.last.toNat reading.toNat := by
  have stamped : overflow.stamp? m.last reading = some (max reading (m.last + 1)) := by
    rw [Overflow.stamp?, if_neg fun refused => more refused.2]
  refine ⟨_, ?_, ?_, toNat_stamp? more stamped⟩
  · rw [alone_eq stamped]
    simp [held?, Drawer.stamp?]
  · rw [alone_eq stamped]
    rfl

end Alone

end Mint

end RandomBeacon
