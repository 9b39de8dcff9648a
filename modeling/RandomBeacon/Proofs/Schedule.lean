import Mathlib.Data.List.Nodup
import Mathlib.Data.List.Perm.Basic
import RandomBeacon.Schedule

/-!
What a turn does to the tasks of a timeline. Tasks are numbered once and for all, so the turn of a
task replaces that task and no other: `works_fire` says it of the works alone, `mem_fire` of the
tasks with their numbers.
-/

namespace RandomBeacon.Schedule

/-- The works that go on after a turn. -/
def Next.works {τ ρ : Type} : Next τ ρ → List τ
  | wait _ work => [work]
  | ended _ => []

/-- The works that a turn leaves behind: its own and those that it starts. -/
def Turn.works {σ τ ρ : Type} (turn : Turn σ τ ρ) : List τ :=
  turn.next.works ++ turn.spawned.map (·.2)

namespace Timeline

variable {σ τ ρ : Type}

def works (t : Timeline σ τ ρ) : List τ := t.tasks.map (·.work)

/-- No number is in use twice, nor is one that has not been given. -/
def Numbered (t : Timeline σ τ ρ) : Prop :=
  (t.tasks.map (·.id)).Nodup ∧ ∀ task ∈ t.tasks, task.id < t.issued

/-- Adds tasks one after the other. -/
def spawnAll (t : Timeline σ τ ρ) (spawned : List (Option Nat × τ)) : Timeline σ τ ρ :=
  spawned.foldl (fun t x => t.spawn x.1 x.2) t

@[simp] theorem works_spawn (t : Timeline σ τ ρ) (due : Option Nat) (work : τ) :
    (t.spawn due work).works = t.works ++ [work] := by
  simp [works, spawn]

theorem numbered_spawn {t : Timeline σ τ ρ} (numbered : t.Numbered) (due : Option Nat) (work : τ) :
    (t.spawn due work).Numbered := by
  obtain ⟨nodup, below⟩ := numbered
  constructor
  · simp only [spawn, List.map_append, List.map_cons, List.map_nil]
    apply List.nodup_append.mpr
    refine ⟨nodup, by simp, ?_⟩
    intro a ha b hb
    obtain ⟨task, mem, rfl⟩ := List.mem_map.mp ha
    have := below task mem
    rw [List.mem_singleton.mp hb]
    omega
  · intro task mem
    rcases List.mem_append.mp mem with old | new
    · exact Nat.lt_succ_of_lt (below task old)
    · rw [List.mem_singleton.mp new]
      exact Nat.lt_succ_self _

section SpawnAll

variable (t : Timeline σ τ ρ) (spawned : List (Option Nat × τ))

theorem spawnAll_cons (x : Option Nat × τ) :
    t.spawnAll (x :: spawned) = (t.spawn x.1 x.2).spawnAll spawned := rfl

theorem state_spawnAll : (t.spawnAll spawned).state = t.state := by
  induction spawned generalizing t with
  | nil => rfl
  | cons x rest ih => exact ih (t.spawn x.1 x.2)

theorem issued_spawnAll : (t.spawnAll spawned).issued = t.issued + spawned.length := by
  induction spawned generalizing t with
  | nil => rfl
  | cons x rest ih =>
    rw [spawnAll_cons, ih, List.length_cons, Nat.add_comm rest.length, ← Nat.add_assoc]
    rfl

theorem works_spawnAll : (t.spawnAll spawned).works = t.works ++ spawned.map (·.2) := by
  induction spawned generalizing t with
  | nil => exact (List.append_nil _).symm
  | cons x rest ih =>
    rw [spawnAll_cons, ih, works_spawn, List.append_assoc]
    rfl

variable {t} in
theorem numbered_spawnAll (numbered : t.Numbered) : (t.spawnAll spawned).Numbered := by
  induction spawned generalizing t with
  | nil => exact numbered
  | cons x rest ih => exact ih (numbered_spawn numbered x.1 x.2)

variable {t spawned} in
/-- A task that is spawned has a new number. -/
theorem mem_spawnAll {task : Task τ} (mem : task ∈ (t.spawnAll spawned).tasks) :
    task ∈ t.tasks ∨ t.issued ≤ task.id ∧ (task.due, task.work) ∈ spawned := by
  induction spawned generalizing t with
  | nil => exact Or.inl mem
  | cons x rest ih =>
    rcases ih mem with old | ⟨le, work⟩
    · rcases List.mem_append.mp old with old | new
      · exact Or.inl old
      · have new := List.mem_singleton.mp new
        exact Or.inr ⟨by simp [new], by simp [new]⟩
    · exact Or.inr ⟨Nat.le_of_succ_le le, List.mem_cons_of_mem _ work⟩

end SpawnAll

/-- What a turn makes of the task that takes it. -/
def settleTask (t : Timeline σ τ ρ) (task : Task τ) : Next τ ρ → Timeline σ τ ρ
  | .wait due work => { t with
      tasks := t.tasks.map fun other => if other.id = task.id then ⟨task.id, due, work⟩ else other }
  | .ended result => { t with
      tasks := t.tasks.filter (·.id ≠ task.id)
      ended := ⟨task.id, t.now, result⟩ :: t.ended }

theorem fire_eq (rules : Rules σ τ ρ) (t : Timeline σ τ ρ) (task : Task τ) :
    t.fire rules task =
      (({ t with state := (rules.resume t.now task t.state).state } : Timeline σ τ ρ).settleTask
        task (rules.resume t.now task t.state).next).spawnAll
          (rules.resume t.now task t.state).spawned := by
  unfold fire settleTask spawnAll
  generalize rules.resume t.now task t.state = turn
  obtain ⟨state, next, spawned⟩ := turn
  cases next <;> rfl

theorem settleTask_state (t : Timeline σ τ ρ) (task : Task τ) (next : Next τ ρ) :
    (t.settleTask task next).state = t.state := by
  cases next <;> rfl

theorem settleTask_issued (t : Timeline σ τ ρ) (task : Task τ) (next : Next τ ρ) :
    (t.settleTask task next).issued = t.issued := by
  cases next <;> rfl

theorem numbered_settleTask {t : Timeline σ τ ρ} (numbered : t.Numbered) (task : Task τ)
    (next : Next τ ρ) : (t.settleTask task next).Numbered := by
  obtain ⟨nodup, below⟩ := numbered
  cases next with
  | wait due work =>
    have ids : ∀ other : Task τ,
        (if other.id = task.id then (⟨task.id, due, work⟩ : Task τ) else other).id = other.id := by
      intro other
      split <;> simp_all
    constructor
    · simpa [settleTask, List.map_map, Function.comp_def, ids] using nodup
    · intro other hm
      obtain ⟨before, hb, rfl⟩ := List.mem_map.mp hm
      rw [ids]
      exact below before hb
  | ended result =>
    constructor
    · exact nodup.sublist (List.filter_sublist.map _)
    · intro other hm
      exact below other (List.mem_of_mem_filter hm)

/-- The tasks with another number. -/
def others (t : Timeline σ τ ρ) (task : Task τ) : List (Task τ) :=
  t.tasks.filter (·.id ≠ task.id)

theorem mem_others {t : Timeline σ τ ρ} {task other : Task τ} :
    other ∈ t.others task ↔ other ∈ t.tasks ∧ other.id ≠ task.id := by
  simp [others]

theorem tasks_split {t : Timeline σ τ ρ} (numbered : t.Numbered) {task : Task τ}
    (mem : task ∈ t.tasks) : t.tasks.Perm (task :: t.others task) := by
  have nodup := numbered.1
  unfold others
  generalize t.tasks = tasks at mem nodup
  induction tasks with
  | nil => cases mem
  | cons first rest ih =>
    simp only [List.map_cons, List.nodup_cons] at nodup
    rcases List.mem_cons.mp mem with rfl | later
    · have others : rest.filter (·.id ≠ task.id) = rest := by
        apply List.filter_eq_self.mpr
        intro other hm
        have : other.id ≠ task.id := fun h => nodup.1 (List.mem_map.mpr ⟨other, hm, h⟩)
        simpa using this
      rw [List.filter_cons_of_neg (by simp), others]
    · have differs : first.id ≠ task.id := fun h => nodup.1 (List.mem_map.mpr ⟨task, later, h.symm⟩)
      rw [List.filter_cons_of_pos (by simpa using differs)]
      exact ((ih later nodup.2).cons first).trans (List.Perm.swap _ _ _)

theorem works_settleTask {t : Timeline σ τ ρ} (numbered : t.Numbered) {task : Task τ}
    (mem : task ∈ t.tasks) (next : Next τ ρ) :
    (t.settleTask task next).works.Perm (next.works ++ (t.others task).map (·.work)) := by
  cases next with
  | ended result => exact List.Perm.refl _
  | wait due work =>
    have kept : ∀ other ∈ t.others task,
        (if other.id = task.id then (⟨task.id, due, work⟩ : Task τ) else other).work =
          other.work := by
      intro other hm
      rw [if_neg (mem_others.mp hm).2]
    have split := ((tasks_split numbered mem).map
      fun other => if other.id = task.id then (⟨task.id, due, work⟩ : Task τ) else other).map
        (·.work)
    simp only [List.map_cons, if_true, List.map_map] at split
    simp only [works, settleTask, List.map_map, Next.works, List.cons_append, List.nil_append]
    exact split.trans (List.Perm.of_eq (congrArg (work :: ·) (List.map_congr_left kept)))

/-- The turn of a task takes its work away and leaves others in its place. -/
theorem works_fire (rules : Rules σ τ ρ) {t : Timeline σ τ ρ} (numbered : t.Numbered)
    {task : Task τ} (mem : task ∈ t.tasks) :
    ∃ rest, t.works.Perm (task.work :: rest) ∧
      (t.fire rules task).works.Perm ((rules.resume t.now task t.state).works ++ rest) := by
  refine ⟨(t.others task).map Task.work, (tasks_split numbered mem).map Task.work, ?_⟩
  rw [fire_eq, works_spawnAll]
  have settled := works_settleTask
    (t := { t with state := (rules.resume t.now task t.state).state }) numbered mem
    (rules.resume t.now task t.state).next
  refine (settled.append_right _).trans ?_
  unfold Turn.works
  rw [List.append_assoc, List.append_assoc]
  exact List.perm_append_comm.append_left _

theorem state_fire (rules : Rules σ τ ρ) (t : Timeline σ τ ρ) (task : Task τ) :
    (t.fire rules task).state = (rules.resume t.now task t.state).state := by
  rw [fire_eq, state_spawnAll, settleTask_state]

theorem now_fire (rules : Rules σ τ ρ) (t : Timeline σ τ ρ) (task : Task τ) :
    (t.fire rules task).now = t.now := by
  have spawns (t : Timeline σ τ ρ) (spawned : List (Option Nat × τ)) :
      (t.spawnAll spawned).now = t.now := by
    induction spawned generalizing t with
    | nil => rfl
    | cons x rest ih => exact ih (t.spawn x.1 x.2)
  rw [fire_eq, spawns]
  cases (rules.resume t.now task t.state).next <;> rfl

theorem issued_fire_eq (rules : Rules σ τ ρ) (t : Timeline σ τ ρ) (task : Task τ) :
    (t.fire rules task).issued =
      t.issued + (rules.resume t.now task t.state).spawned.length := by
  rw [fire_eq, issued_spawnAll, settleTask_issued]

theorem issued_fire (rules : Rules σ τ ρ) (t : Timeline σ τ ρ) (task : Task τ) :
    t.issued ≤ (t.fire rules task).issued := by
  rw [issued_fire_eq]
  exact Nat.le_add_right _ _

theorem numbered_fire {rules : Rules σ τ ρ} {t : Timeline σ τ ρ} (numbered : t.Numbered)
    (task : Task τ) : (t.fire rules task).Numbered := by
  rw [fire_eq]
  apply numbered_spawnAll
  exact numbered_settleTask
    (t := { t with state := (rules.resume t.now task t.state).state }) numbered task _

/-- A turn leaves the other tasks as they are. -/
theorem mem_fire_other (rules : Rules σ τ ρ) {t : Timeline σ τ ρ} {task other : Task τ}
    (mem : other ∈ t.tasks) (differs : other.id ≠ task.id) :
    other ∈ (t.fire rules task).tasks := by
  have spawns (t : Timeline σ τ ρ) (spawned : List (Option Nat × τ)) (mem : other ∈ t.tasks) :
      other ∈ (t.spawnAll spawned).tasks := by
    induction spawned generalizing t with
    | nil => exact mem
    | cons x rest ih => exact ih (t.spawn x.1 x.2) (List.mem_append_left _ mem)
  rw [fire_eq]
  apply spawns
  cases (rules.resume t.now task t.state).next with
  | wait due work => exact List.mem_map.mpr ⟨other, mem, if_neg differs⟩
  | ended result => exact List.mem_filter.mpr ⟨mem, by simpa using differs⟩

/-- Two tasks with the same number are the same. -/
theorem Numbered.unique {t : Timeline σ τ ρ} (numbered : t.Numbered) {task other : Task τ}
    (mem : task ∈ t.tasks) (inside : other ∈ t.tasks) (same : task.id = other.id) : task = other :=
  List.inj_on_of_nodup_map numbered.1 mem inside same

/-- A task after a turn was there before, is the one that took the turn, or is new, and it waits
for what the turn says. -/
theorem mem_fire_waits {rules : Rules σ τ ρ} {t : Timeline σ τ ρ} {task other : Task τ}
    (mem : other ∈ (t.fire rules task).tasks) :
    (other ∈ t.tasks ∧ other.id ≠ task.id) ∨
    (other.id = task.id ∧ (rules.resume t.now task t.state).next = .wait other.due other.work) ∨
    (t.issued ≤ other.id ∧
      (other.due, other.work) ∈ (rules.resume t.now task t.state).spawned) := by
  rw [fire_eq] at mem
  rcases mem_spawnAll mem with old | new
  · cases h : (rules.resume t.now task t.state).next with
    | wait due work =>
      rw [h] at old
      obtain ⟨before, hb, rfl⟩ := List.mem_map.mp old
      by_cases same : before.id = task.id
      · exact Or.inr (Or.inl (by simp [same]))
      · exact Or.inl (by simpa [same] using hb)
    | ended result =>
      rw [h] at old
      have := List.mem_filter.mp old
      exact Or.inl ⟨this.1, by simpa using this.2⟩
  · rw [settleTask_issued] at new
    exact Or.inr (Or.inr new)

/-- A task after a turn was there before, is the one that took the turn, or is new. -/
theorem mem_fire {rules : Rules σ τ ρ} {t : Timeline σ τ ρ} {task other : Task τ}
    (mem : other ∈ (t.fire rules task).tasks) :
    (other ∈ t.tasks ∧ other.id ≠ task.id) ∨
    (other.id = task.id ∧ other.work ∈ (rules.resume t.now task t.state).next.works) ∨
    (t.issued ≤ other.id ∧ other.work ∈ (rules.resume t.now task t.state).spawned.map (·.2)) := by
  rcases mem_fire_waits mem with old | ⟨same, waits⟩ | ⟨new, spawned⟩
  · exact Or.inl old
  · exact Or.inr (Or.inl ⟨same, by simp [waits, Next.works]⟩)
  · exact Or.inr (Or.inr ⟨new, List.mem_map.mpr ⟨_, spawned, rfl⟩⟩)

section Find

variable (t : Timeline σ τ ρ) {task : Task τ} {number : Nat}

theorem find?_spawnAll {spawned : List (Option Nat × τ)} (old : number < t.issued) :
    (t.spawnAll spawned).tasks.find? (·.id = number) = t.tasks.find? (·.id = number) := by
  induction spawned generalizing t with
  | nil => rfl
  | cons x rest ih =>
    have other : t.issued ≠ number := Nat.ne_of_gt old
    rw [spawnAll_cons, ih (t.spawn x.1 x.2) (Nat.lt_succ_of_lt old)]
    simp [spawn, List.find?_append, other]

/-- After a turn its task waits again or is gone. -/
theorem find?_fire_self (rules : Rules σ τ ρ) (numbered : t.Numbered) (mem : task ∈ t.tasks) :
    (t.fire rules task).tasks.find? (·.id = task.id) =
      match (rules.resume t.now task t.state).next with
      | .wait due work => some ⟨task.id, due, work⟩
      | .ended _ => none := by
  have old := numbered.2 task mem
  rw [fire_eq, find?_spawnAll _ (by rwa [settleTask_issued])]
  cases (rules.resume t.now task t.state).next with
  | ended result => simp [settleTask]
  | wait due work =>
    obtain ⟨first, found⟩ : ∃ first, t.tasks.find? (·.id = task.id) = some first :=
      Option.isSome_iff_exists.mp (List.find?_isSome.mpr ⟨task, mem, by simp⟩)
    have same : first.id = task.id := by simpa using List.find?_some found
    have kept : ((fun other : Task τ => decide (other.id = task.id)) ∘ fun other =>
        if other.id = task.id then (⟨task.id, due, work⟩ : Task τ) else other) =
        fun other => decide (other.id = task.id) := by
      funext other
      by_cases is : other.id = task.id <;> simp [is]
    simp only [settleTask, List.find?_map, kept, found, Option.map_some, same, if_true]

/-- A turn leaves the other tasks as they are. -/
theorem find?_fire_other (rules : Rules σ τ ρ) (old : number < t.issued)
    (other : number ≠ task.id) :
    (t.fire rules task).tasks.find? (·.id = number) = t.tasks.find? (·.id = number) := by
  rw [fire_eq, find?_spawnAll _ (by rwa [settleTask_issued])]
  cases (rules.resume t.now task t.state).next with
  | ended result =>
    simp only [settleTask, List.find?_filter]
    congr 1
    funext x
    by_cases is : x.id = number <;> simp [is, other]
  | wait due work =>
    have kept : ((fun x : Task τ => decide (x.id = number)) ∘ fun x =>
        if x.id = task.id then (⟨task.id, due, work⟩ : Task τ) else x) =
        fun x => decide (x.id = number) := by
      funext x
      by_cases is : x.id = task.id <;> simp [is, Ne.symm other]
    simp only [settleTask, List.find?_map, kept]
    cases found : t.tasks.find? (fun x => decide (x.id = number)) with
    | none => rfl
    | some x =>
      have same : x.id = number := by simpa using List.find?_some found
      simp [same, other]

/-- The task that a turn starts has the number that is given next. -/
theorem find?_fire_spawned (rules : Rules σ τ ρ) (numbered : t.Numbered) {due : Option Nat}
    {work : τ} (spawns : (rules.resume t.now task t.state).spawned = [(due, work)]) :
    (t.fire rules task).tasks.find? (·.id = t.issued) = some ⟨t.issued, due, work⟩ := by
  let begun : Timeline σ τ ρ := { t with state := (rules.resume t.now task t.state).state }
  obtain ⟨settled, is⟩ : ∃ settled,
      settled = begun.settleTask task (rules.resume t.now task t.state).next := ⟨_, rfl⟩
  have fired : t.fire rules task = settled.spawnAll _ := is ▸ fire_eq rules t task
  have before : settled.Numbered := is ▸ numbered_settleTask (t := begun) numbered task _
  have issued : settled.issued = t.issued := is ▸ settleTask_issued begun task _
  have new : settled.tasks.find? (·.id = t.issued) = none := by
    apply List.find?_eq_none.mpr
    intro other mem
    have below := before.2 other mem
    simp only [decide_eq_true_eq]
    omega
  rw [fired, spawns]
  simp [spawnAll, spawn, List.find?_append, new, issued]

/-- A turn that ends its task leaves the result behind. -/
theorem ended_fire (rules : Rules σ τ ρ) :
    (t.fire rules task).ended =
      match (rules.resume t.now task t.state).next with
      | .wait _ _ => t.ended
      | .ended result => ⟨task.id, t.now, result⟩ :: t.ended := by
  have spawns (t : Timeline σ τ ρ) (spawned : List (Option Nat × τ)) :
      (t.spawnAll spawned).ended = t.ended := by
    induction spawned generalizing t with
    | nil => rfl
    | cons x rest ih => exact ih (t.spawn x.1 x.2)
  rw [fire_eq, spawns]
  cases (rules.resume t.now task t.state).next <;> rfl

end Find

/-- Of two tasks each may be told apart from all others. -/
theorem works_split {t : Timeline σ τ ρ} (numbered : t.Numbered) {task other : Task τ}
    (mem : task ∈ t.tasks) (inside : other ∈ t.tasks) (differs : other.id ≠ task.id) :
    ∃ rest, t.works.Perm (task.work :: other.work :: rest) := by
  obtain ⟨before, after, split⟩ :=
    List.append_of_mem (mem_others.mpr ⟨inside, differs⟩ : other ∈ t.others task)
  refine ⟨(before ++ after).map Task.work, ((tasks_split numbered mem).map Task.work).trans ?_⟩
  rw [split, List.map_cons]
  exact (List.perm_middle.map Task.work).cons _

end Timeline

end RandomBeacon.Schedule
