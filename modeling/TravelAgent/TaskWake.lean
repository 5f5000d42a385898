import Mathlib
import TravelAgent.OrderedDicts
import TravelAgent.TaskRecord

namespace TravelAgent.TaskWake

open TravelAgent.OrderedDicts TravelAgent.TaskRecord

structure TaskWakeCoordinator where
  workerRevision : ℕ
  taskRevisions : List (TaskId × ℕ)
  cancelledAt : List (TaskId × ℚ)
  maxTrackedTasks : ℕ
  cancellationTtlSeconds : ℚ

def create (maxTrackedTasks : ℤ) (cancellationTtlSeconds : ℚ) : TaskWakeCoordinator where
  workerRevision := 0
  taskRevisions := []
  cancelledAt := []
  maxTrackedTasks := (max 100 maxTrackedTasks).toNat
  cancellationTtlSeconds := max 1 cancellationTtlSeconds

namespace TaskWakeCoordinator

def workerCursor (c : TaskWakeCoordinator) : ℕ := c.workerRevision

def taskCursor (c : TaskWakeCoordinator) (t : TaskId) : ℕ := (get c.taskRevisions t).getD 0

def pruneCancellations (c : TaskWakeCoordinator) (now : ℚ) : TaskWakeCoordinator :=
  let cutoff := now - c.cancellationTtlSeconds
  { c with cancelledAt := c.cancelledAt.dropWhile fun e => e.2 < cutoff }

/-- `_trim_locked` -/
def trimmed (c : TaskWakeCoordinator) (now : ℚ) : TaskWakeCoordinator :=
  let c := c.pruneCancellations now
  { c with
    taskRevisions := trim c.maxTrackedTasks c.taskRevisions
    cancelledAt := trim c.maxTrackedTasks c.cancelledAt }

/-- The next revision of a task, which becomes the one signalled last. -/
def revised (c : TaskWakeCoordinator) (t : TaskId) : List (TaskId × ℕ) :=
  setLast c.taskRevisions t ((get c.taskRevisions t).getD 0 + 1)

def signalWorker (c : TaskWakeCoordinator) : TaskWakeCoordinator :=
  { c with workerRevision := c.workerRevision + 1 }

def signalTask (c : TaskWakeCoordinator) (t : TaskId) (now : ℚ) : TaskWakeCoordinator :=
  { c with taskRevisions := c.revised t }.trimmed now

/-- The clock is read once for the mark and once to prune the marks. -/
def signalCancellation (c : TaskWakeCoordinator) (t : TaskId) (marked now : ℚ) :
    TaskWakeCoordinator :=
  { c with
    cancelledAt := setLast c.cancelledAt t marked
    taskRevisions := c.revised t
    workerRevision := c.workerRevision + 1 }.trimmed now

def clearCancellation (c : TaskWakeCoordinator) (t : TaskId) : TaskWakeCoordinator :=
  { c with cancelledAt := pop c.cancelledAt t }

def isCancelSignalled (c : TaskWakeCoordinator) (t : TaskId) (now : ℚ) :
    Bool × TaskWakeCoordinator :=
  let c := c.pruneCancellations now
  ((get c.cancelledAt t).isSome, c)

/-- What `wait_for_worker` waits for. -/
def workerWoken (c : TaskWakeCoordinator) (cursor : ℕ) : Prop := c.workerRevision ≠ cursor

/-- What `wait_for_task` waits for. -/
def taskWoken (c : TaskWakeCoordinator) (t : TaskId) (cursor : ℕ) : Prop :=
  (get c.taskRevisions t).getD 0 ≠ cursor

instance (c : TaskWakeCoordinator) (t : TaskId) (cursor : ℕ) : Decidable (c.taskWoken t cursor) :=
  inferInstanceAs (Decidable (_ ≠ _))

end TaskWakeCoordinator

open TaskWakeCoordinator

inductive Op
  | signalTask (t : TaskId) (now : ℚ)
  | signalCancellation (t : TaskId) (marked now : ℚ)
  | signalWorker
  | clearCancellation (t : TaskId)
  | isCancelSignalled (t : TaskId) (now : ℚ)

/-- The task that a call signals. -/
def Op.signalled : Op → Option TaskId
  | .signalTask t _ | .signalCancellation t _ _ => some t
  | .signalWorker | .clearCancellation _ | .isCancelSignalled _ _ => none

def Op.signalsWorker : Op → Bool
  | .signalWorker | .signalCancellation _ _ _ => true
  | .signalTask _ _ | .clearCancellation _ | .isCancelSignalled _ _ => false

def perform (c : TaskWakeCoordinator) : Op → TaskWakeCoordinator
  | .signalTask t now => c.signalTask t now
  | .signalCancellation t marked now => c.signalCancellation t marked now
  | .signalWorker => c.signalWorker
  | .clearCancellation t => c.clearCancellation t
  | .isCancelSignalled t now => (c.isCancelSignalled t now).2

def after (c : TaskWakeCoordinator) (ops : List Op) : TaskWakeCoordinator := ops.foldl perform c

/-- A signal of `u`, which has no revision, when the map is full and `t` is the task signalled
longest ago. -/
def drops (c : TaskWakeCoordinator) (u t : TaskId) : Bool :=
  (get c.taskRevisions u).isNone && c.taskRevisions.length = c.maxTrackedTasks &&
    (c.taskRevisions.head?.map Prod.fst) = some t

def forgets (c : TaskWakeCoordinator) (op : Op) (t : TaskId) : Bool :=
  match op.signalled with
  | none => false
  | some u => drops c u t

/-- What has become of a task since its cursor was read: was it dropped from the map, and how
often was it signalled (since the last drop). -/
structure Since where
  forgotten : Bool
  signals : ℕ
deriving DecidableEq, Repr

def Since.next (g : Since) (c : TaskWakeCoordinator) (t : TaskId) (op : Op) : Since :=
  if forgets c op t then ⟨true, 0⟩
  else if op.signalled = some t then { g with signals := g.signals + 1 } else g

def sinceRun (c : TaskWakeCoordinator) (t : TaskId) (g : Since) : List Op → Since
  | [] => g
  | op :: ops => sinceRun (perform c op) t (g.next c t op) ops

/-- From the moment the cursor was read. -/
def since (c : TaskWakeCoordinator) (t : TaskId) (ops : List Op) : Since :=
  sinceRun c t ⟨false, 0⟩ ops

/-- The revision that a task with this cursor has by now. -/
def Since.revision (g : Since) (cursor : ℕ) : ℕ :=
  if g.forgotten then g.signals else cursor + g.signals

/-- The revisions stand once for each task, and no more of them than the map may have. -/
structure Tracked (c : TaskWakeCoordinator) : Prop where
  keyed : Keyed c.taskRevisions
  bounded : c.taskRevisions.length ≤ c.maxTrackedTasks
  room : 0 < c.maxTrackedTasks

theorem create_tracked (n : ℤ) (ttl : ℚ) : Tracked (create n ttl) where
  keyed := List.nodup_nil
  bounded := Nat.zero_le _
  room := by
    show 0 < (max 100 n).toNat
    omega

/-- The revisions after a signal of `u`. -/
inductive Revised (c : TaskWakeCoordinator) (u : TaskId) : List (TaskId × ℕ) → Prop
  | advanced (v : ℕ) (hu : get c.taskRevisions u = some v) :
      Revised c u (setLast c.taskRevisions u (v + 1))
  | entered (hu : get c.taskRevisions u = none)
      (hroom : c.taskRevisions.length < c.maxTrackedTasks) :
      Revised c u (c.taskRevisions ++ [(u, 1)])
  | replaced (hu : get c.taskRevisions u = none) (e : TaskId × ℕ) (d : List (TaskId × ℕ))
      (hd : c.taskRevisions = e :: d) (hfull : d.length + 1 = c.maxTrackedTasks) :
      Revised c u (d ++ [(u, 1)])

theorem revised_trim {c : TaskWakeCoordinator} (h : Tracked c) (u : TaskId) :
    Revised c u (trim c.maxTrackedTasks (c.revised u)) := by
  rw [TaskWakeCoordinator.revised]
  cases hu : get c.taskRevisions u with
  | some v =>
    have hlen := h.keyed.length_setLast (v + 1) (by rw [hu]; exact Option.some_ne_none v)
    rw [Option.getD_some, trim_of_le (hlen.trans_le h.bounded)]
    exact .advanced v hu
  | none =>
    rw [Option.getD_none, setLast_of_untracked _ hu]
    by_cases hroom : c.taskRevisions.length < c.maxTrackedTasks
    · rw [trim_of_le (by rw [List.length_append]; exact hroom)]
      exact .entered hu hroom
    · have hfull : c.taskRevisions.length = c.maxTrackedTasks :=
        Nat.le_antisymm h.bounded (Nat.not_lt.mp hroom)
      cases hd : c.taskRevisions with
      | nil => exact absurd h.room (by rw [← hfull, hd]; exact Nat.lt_irrefl 0)
      | cons e d =>
        rw [hd, List.length_cons] at hfull
        rw [List.cons_append, trim_cons (by rw [List.length_append]; exact hfull)]
        exact .replaced hu e d hd hfull

theorem Revised.tracked {c : TaskWakeCoordinator} {u : TaskId} {d' : List (TaskId × ℕ)}
    (h : Tracked c) (hr : Revised c u d') : Keyed d' ∧ d'.length ≤ c.maxTrackedTasks := by
  cases hr with
  | advanced v hu =>
    have hlen := h.keyed.length_setLast (v + 1) (by rw [hu]; exact Option.some_ne_none v)
    exact ⟨h.keyed.setLast u (v + 1), hlen.trans_le h.bounded⟩
  | entered hu hroom =>
    refine ⟨?_, by rw [List.length_append]; exact hroom⟩
    rw [← setLast_of_untracked 1 hu]
    exact h.keyed.setLast u 1
  | replaced hu e d hd hfull =>
    have hk : Keyed d := (hd ▸ h.keyed : Keyed (e :: d)).tail
    have hud : get d u = none := by
      rw [hd, get_cons] at hu
      by_cases he : e.1 = u
      · rw [if_pos he] at hu
        exact nomatch hu
      · rwa [if_neg he] at hu
    refine ⟨?_, by rw [List.length_append]; exact hfull.le⟩
    rw [← setLast_of_untracked 1 hud]
    exact hk.setLast u 1

/-- A call that signals no task leaves the revisions alone, and one that does revises them. -/
theorem perform_revisions (c : TaskWakeCoordinator) (op : Op) :
    (perform c op).maxTrackedTasks = c.maxTrackedTasks ∧
      (perform c op).taskRevisions = match op.signalled with
        | none => c.taskRevisions
        | some u => trim c.maxTrackedTasks (c.revised u) := by
  cases op <;> exact ⟨rfl, rfl⟩

theorem perform_tracked {c : TaskWakeCoordinator} (h : Tracked c) (op : Op) :
    Tracked (perform c op) := by
  obtain ⟨hmax, hrev⟩ := perform_revisions c op
  cases hs : op.signalled with
  | none =>
    rw [hs] at hrev
    exact ⟨hrev ▸ h.keyed, by rw [hmax, hrev]; exact h.bounded, hmax ▸ h.room⟩
  | some u =>
    rw [hs] at hrev
    obtain ⟨hk, hb⟩ := (revised_trim h u).tracked h
    exact ⟨hrev ▸ hk, by rw [hmax, hrev]; exact hb, hmax ▸ h.room⟩

theorem after_tracked {c : TaskWakeCoordinator} (h : Tracked c) (ops : List Op) :
    Tracked (after c ops) := by
  induction ops generalizing c with
  | nil => exact h
  | cons op ops ih => exact ih (perform_tracked h op)

theorem Revised.cursor {c : TaskWakeCoordinator} {u : TaskId} {d' : List (TaskId × ℕ)}
    (h : Tracked c) (hr : Revised c u d') (t : TaskId) :
    (get d' t).getD 0 =
      if drops c u t then 0 else if u = t then c.taskCursor t + 1 else c.taskCursor t := by
  rw [TaskWakeCoordinator.taskCursor]
  cases hr with
  | advanced v hu =>
    have hkeep : drops c u t = false := by rw [drops, hu]; rfl
    rw [hkeep, if_neg Bool.false_ne_true]
    by_cases ht : u = t
    · subst ht
      rw [if_pos rfl, get_setLast_self, hu, Option.getD_some, Option.getD_some]
    · rw [if_neg ht, get_setLast_of_ne _ _ (Ne.symm ht)]
  | entered hu hroom =>
    have hkeep : drops c u t = false := by simp [drops, hroom.ne]
    rw [hkeep, if_neg Bool.false_ne_true, ← setLast_of_untracked 1 hu]
    by_cases ht : u = t
    · subst ht
      rw [if_pos rfl, get_setLast_self, hu, Option.getD_some, Option.getD_none]
    · rw [if_neg ht, get_setLast_of_ne _ _ (Ne.symm ht)]
  | replaced hu e d hd hfull =>
    have hdrop : drops c u t = decide (e.1 = t) := by
      rw [drops, hu, hd]
      simp [hfull]
    have hk : Keyed (e :: d) := hd ▸ h.keyed
    rw [hd, get_cons] at hu
    by_cases he : e.1 = u
    · rw [if_pos he] at hu
      cases hu
    · rw [if_neg he] at hu
      rw [hdrop, hd, get_append, get_cons, get_cons, get_nil]
      by_cases het : e.1 = t
      · subst het
        rw [decide_eq_true rfl, if_pos rfl, hk.get_tail, if_neg (Ne.symm he)]
        rfl
      · rw [decide_eq_false het, if_neg Bool.false_ne_true, if_neg het]
        by_cases ht : u = t
        · subst ht
          rw [if_pos rfl, if_pos rfl, hu]
          rfl
        · rw [if_neg ht, if_neg ht, Option.or_none]

/-- Step: a drop sets the revision of a task back to 0, and only its own signals raise it. -/
theorem perform_taskCursor {c : TaskWakeCoordinator} (h : Tracked c) (op : Op) (t : TaskId) :
    (perform c op).taskCursor t =
      if forgets c op t then 0
      else if op.signalled = some t then c.taskCursor t + 1 else c.taskCursor t := by
  have hrev := (perform_revisions c op).2
  rw [TaskWakeCoordinator.taskCursor, hrev, forgets]
  cases hs : op.signalled with
  | none => rfl
  | some u =>
    dsimp only
    rw [(revised_trim h u).cursor h t]
    simp only [Option.some_inj]

theorem next_revision {c : TaskWakeCoordinator} (h : Tracked c) (t : TaskId) (op : Op) {g : Since}
    {cursor : ℕ} (hg : c.taskCursor t = g.revision cursor) :
    (perform c op).taskCursor t = (g.next c t op).revision cursor := by
  rw [perform_taskCursor h op t, Since.next]
  by_cases hf : forgets c op t = true
  · rw [if_pos hf, if_pos hf]
    rfl
  · rw [if_neg hf, if_neg hf, hg]
    by_cases hs : op.signalled = some t
    · rw [if_pos hs, if_pos hs, Since.revision, Since.revision]
      cases g.forgotten <;> rfl
    · rw [if_neg hs, if_neg hs]

/-- Run: the revision of a task is what its drops and signals make of the cursor. -/
theorem after_taskCursor {c : TaskWakeCoordinator} (h : Tracked c) (t : TaskId) {g : Since}
    {cursor : ℕ} (hg : c.taskCursor t = g.revision cursor) (ops : List Op) :
    (after c ops).taskCursor t = (sinceRun c t g ops).revision cursor := by
  induction ops generalizing c g with
  | nil => exact hg
  | cons op ops ih => exact ih (perform_tracked h op) (next_revision h t op hg)

/-- A task is forgotten since, or every signal of it counts. -/
theorem signals_pos {c : TaskWakeCoordinator} {t : TaskId} {g : Since} {ops : List Op}
    (h : g.forgotten = true ∨ 0 < g.signals ∨ ∃ op ∈ ops, op.signalled = some t) :
    (sinceRun c t g ops).forgotten = true ∨ 0 < (sinceRun c t g ops).signals := by
  induction ops generalizing c g with
  | nil =>
    obtain h | h | ⟨_, hop, _⟩ := h
    · exact Or.inl h
    · exact Or.inr h
    · exact nomatch hop
  | cons op ops ih =>
    apply ih
    rw [Since.next]
    by_cases hf : forgets c op t = true
    · exact Or.inl (by rw [if_pos hf])
    · rw [if_neg hf]
      by_cases hs : op.signalled = some t
      · exact Or.inr (Or.inl (by rw [if_pos hs]; exact Nat.succ_pos _))
      · rw [if_neg hs]
        obtain h | h | ⟨o, ho, hot⟩ := h
        · exact Or.inl h
        · exact Or.inr (Or.inl h)
        · obtain rfl | ho := List.mem_cons.mp ho
          · exact absurd hot hs
          · exact Or.inr (Or.inr ⟨o, ho, hot⟩)

theorem perform_workerRevision (c : TaskWakeCoordinator) (op : Op) :
    (perform c op).workerRevision = c.workerRevision + op.signalsWorker.toNat := by
  cases op <;> rfl

theorem after_workerRevision (c : TaskWakeCoordinator) (ops : List Op) :
    (after c ops).workerRevision = c.workerRevision + ops.countP Op.signalsWorker := by
  induction ops generalizing c with
  | nil => rfl
  | cons op ops ih =>
    rw [after, List.foldl_cons, ← after, ih, perform_workerRevision, List.countP_cons]
    cases op.signalsWorker
    · rfl
    · exact Nat.add_right_comm c.workerRevision 1 _

theorem worker_woken (c : TaskWakeCoordinator) {ops : List Op}
    (h : ∃ op ∈ ops, op.signalsWorker = true) :
    (after c ops).workerWoken c.workerCursor := by
  have hpos : 0 < ops.countP Op.signalsWorker := List.countP_pos_iff.mpr h
  rw [TaskWakeCoordinator.workerWoken, TaskWakeCoordinator.workerCursor, after_workerRevision]
  omega

/-- A wait on a task that was signalled after its cursor was read goes through, unless the task
was dropped in between and signalled as often since as the cursor says. A worker's wait always
does. -/
theorem wakes_arrive (n : ℤ) (ttl : ℚ) (before ops : List Op) (t : TaskId) :
    ((∃ op ∈ ops, op.signalled = some t) →
      ((after (after (create n ttl) before) ops).taskWoken t
          ((after (create n ttl) before).taskCursor t) ↔
        ¬ ((since (after (create n ttl) before) t ops).forgotten = true ∧
          (since (after (create n ttl) before) t ops).signals =
            (after (create n ttl) before).taskCursor t))) ∧
    ((∃ op ∈ ops, op.signalsWorker = true) →
      (after (after (create n ttl) before) ops).workerWoken
        (after (create n ttl) before).workerCursor) := by
  generalize hc : after (create n ttl) before = c
  have h : Tracked c := hc ▸ after_tracked (create_tracked n ttl) before
  refine ⟨?_, worker_woken c⟩
  intro hsig
  have hrev : (after c ops).taskCursor t = (since c t ops).revision (c.taskCursor t) :=
    after_taskCursor h t rfl ops
  have hpos := signals_pos (c := c) (g := ⟨false, 0⟩) (Or.inr (Or.inr hsig))
  rw [show (after c ops).taskWoken t (c.taskCursor t) ↔
    (after c ops).taskCursor t ≠ c.taskCursor t from Iff.rfl, hrev, Since.revision]
  cases hf : (since c t ops).forgotten with
  | true =>
    rw [if_pos rfl]
    simp
  | false =>
    have hsome : 0 < (since c t ops).signals := by
      obtain h | h := hpos
      · exact absurd (hf.symm.trans h) Bool.false_ne_true
      · exact h
    rw [if_neg Bool.false_ne_true]
    constructor
    · intro _ hlost
      exact Bool.false_ne_true hlost.1
    · intro _
      omega

/-- A task signalled once, then a hundred others. -/
def crowd : List Op :=
  .signalTask "trip" 0 :: (List.range 100).map fun i => .signalTask (Nat.repr i) 0

theorem crowd_loses_wake :
    ¬ ∀ (n : ℤ) (ttl : ℚ) (before ops : List Op) (t : TaskId),
      (∃ op ∈ ops, op.signalled = some t) →
        (after (after (create n ttl) before) ops).taskWoken t
          ((after (create n ttl) before).taskCursor t) := by
  intro h
  have hlost : ¬ (after (create 100 3600) crowd).taskWoken "trip" 0 := by decide +kernel
  exact hlost (h 100 3600 [] crowd "trip" ⟨_, List.mem_cons_self, rfl⟩)

/-- The wait of a worker and of the task's reader after one cancellation. -/
theorem cancellation_wakes :
    (after (create 100 3600) [.signalCancellation "trip" 0 1]).taskWoken "trip" 0 ∧
      (after (create 100 3600) [.signalCancellation "trip" 0 1]).workerWoken 0 := by
  obtain ⟨ht, hw⟩ := wakes_arrive 100 3600 [] [.signalCancellation "trip" 0 1] "trip"
  constructor
  · exact (ht ⟨_, List.mem_singleton_self _, rfl⟩).mpr (by decide)
  · exact hw ⟨_, List.mem_singleton_self _, rfl⟩

end TravelAgent.TaskWake
