import Mathlib
import TravelAgent.TaskCreation

namespace TravelAgent.CreationExclusion

open TravelAgent.Leasing TravelAgent.Rows TravelAgent.TaskRecord TravelAgent.TaskStore
open TravelAgent.TaskOps TravelAgent.TaskMoves TravelAgent.TaskView
open TravelAgent.NamedLocks TravelAgent.TaskCreation TravelAgent.Transition
open TravelAgent.MysqlTaskStore (Codec findReusableTask)

variable {Req : Type} {v : Services Req}

def outcomeOf : Phase Req → Option (Outcome Req)
  | .releasing outcome _ => outcome
  | .ended outcome => some outcome
  | _ => none

/-- What a step of a call can do, with the state it is taken in. -/
inductive Turn (v : Services Req) (a : Attempt Req) (i : Nat) (s : Store Req)
    (locks : List (String × Nat)) (taskId sessionId : String) (clock : Readings) :
    Store Req → List (String × Nat) → Phase Req → Prop
  | ready (held : List String) (phase : a.phase = .waiting [] held) :
      Turn v a i s locks taskId sessionId clock s locks .reading
  | locked (name : String) (todo held : List String) (locks' : List (String × Nat))
      (phase : a.phase = .waiting (name :: todo) held) (taken : acquire locks name i = some locks') :
      Turn v a i s locks taskId sessionId clock s locks' (.waiting todo (name :: held))
  | vacant (phase : a.phase = .reading) (found : a.reusable v s = .ok none) :
      Turn v a i s locks taskId sessionId clock s locks .inserting
  | read (o : Outcome Req) (phase : a.phase = .reading)
      (found : (∃ t, a.reusable v s = .ok (some t) ∧ o = .created t true) ∨
        ∃ e, a.reusable v s = .error e ∧ o = .refused e) :
      Turn v a i s locks taskId sessionId clock s locks (.releasing (some o) (a.names v).reverse)
  | rejected (phase : a.phase = .inserting)
      (held : s.holdsKeyOf (a.newTask v taskId sessionId clock) = true ∨
        keyTaken v.codec s a.userId a.key = true) :
      Turn v a i s locks taskId sessionId clock s locks (.releasing none (a.names v).reverse)
  | inserted (phase : a.phase = .inserting)
      (fresh : s.holdsKeyOf (a.newTask v taskId sessionId clock) = false)
      (free : keyTaken v.codec s a.userId a.key = false) :
      Turn v a i s locks taskId sessionId clock
        (s.appendTask (a.newTask v taskId sessionId clock) clock.stamped) locks
        (.releasing (some (.created (a.newTask v taskId sessionId clock) false)) (a.names v).reverse)
  | released (name : String) (held : List String) (outcome : Option (Outcome Req))
      (phase : a.phase = .releasing outcome (name :: held)) :
      Turn v a i s locks taskId sessionId clock s (release locks name i) (.releasing outcome held)
  | finished (o : Outcome Req) (phase : a.phase = .releasing (some o) []) :
      Turn v a i s locks taskId sessionId clock s locks (.ended o)
  | failed (phase : a.phase = .releasing none []) :
      Turn v a i s locks taskId sessionId clock s locks .rereading
  | reread (o : Outcome Req) (phase : a.phase = .rereading)
      (found : (∃ t, a.reusable v s = .ok (some t) ∧ o = .created t true) ∨
        (∃ e, a.reusable v s = .error e ∧ o = .refused e) ∨
        a.reusable v s = .ok none ∧ o = .refused ⟨.integrityError, "trip_planning_tasks"⟩) :
      Turn v a i s locks taskId sessionId clock s locks (.ended o)

theorem next_turn {a : Attempt Req} {i : Nat} {s s' : Store Req} {locks locks' : List (String × Nat)}
    {taskId sessionId : String} {clock : Readings} {phase' : Phase Req}
    (h : a.next v i s locks taskId sessionId clock = some (s', locks', phase')) :
    Turn v a i s locks taskId sessionId clock s' locks' phase' := by
  simp only [Attempt.next] at h
  split at h
  · rename_i held hp
    cases h
    exact .ready held hp
  · rename_i name todo held hp
    obtain ⟨taken, htaken, heq⟩ := Option.map_eq_some_iff.mp h
    cases heq
    exact .locked name todo held _ hp htaken
  · rename_i hp
    split at h
    · rename_i e he
      cases h
      exact .read _ hp (Or.inr ⟨e, he, rfl⟩)
    · rename_i t ht
      cases h
      exact .read _ hp (Or.inl ⟨t, ht, rfl⟩)
    · rename_i hnone
      cases h
      exact .vacant hp hnone
  · rename_i hp
    split at h
    · rename_i hheld
      cases h
      exact .rejected hp ((Bool.or_eq_true _ _).mp hheld)
    · rename_i hheld
      obtain ⟨hfresh, hfree⟩ := Bool.or_eq_false_iff.mp (Bool.eq_false_iff.mpr hheld)
      cases h
      exact .inserted hp hfresh hfree
  · rename_i outcome name held hp
    cases h
    exact .released name held outcome hp
  · rename_i o hp
    cases h
    exact .finished o hp
  · rename_i hp
    cases h
    exact .failed hp
  · rename_i hp
    split at h
    · rename_i e he
      cases h
      exact .reread _ hp (Or.inr (Or.inl ⟨e, he, rfl⟩))
    · rename_i t ht
      cases h
      exact .reread _ hp (Or.inl ⟨t, ht, rfl⟩)
    · rename_i hnone
      cases h
      exact .reread _ hp (Or.inr (Or.inr ⟨hnone, rfl⟩))
  · cases h

/-- The four things that can happen at the desk. -/
inductive Happens [DecidableEq Req] (v : Services Req) (g : Desk Req) : Act Req → Desk Req → Prop
  | malformed (userId : UserId) (idempotencyKey : String) (request : Req) :
      Happens v g (.enter userId idempotencyKey request) g
  | entered (userId : UserId) (idempotencyKey key : String) (request : Req)
      (normal : normalizeIdempotencyKey idempotencyKey = .ok key) (a : Attempt Req)
      (call : a = ⟨userId, key, request, .waiting (a.names v) []⟩) :
      Happens v g (.enter userId idempotencyKey request) { g with attempts := g.attempts ++ [a] }
  | advanced (i : Nat) (taskId sessionId : String) (clock : Readings) (a : Attempt Req)
      (here : g.attempts[i]? = some a) (s' : Store Req) (locks' : List (String × Nat))
      (phase' : Phase Req)
      (turn : Turn v a i g.store g.locks taskId sessionId clock s' locks' phase') :
      Happens v g (.advance i taskId sessionId clock)
        ⟨s', locks', g.attempts.set i { a with phase := phase' },
          if s' = g.store then g.changes else i :: g.changes⟩
  | gaveUp (i : Nat) (a : Attempt Req) (here : g.attempts[i]? = some a) (name : String)
      (todo held : List String) (phase : a.phase = .waiting (name :: todo) held) :
      Happens v g (.giveUp i)
        { g with attempts := g.attempts.set i { a with phase := .releasing (some .timedOut) held } }
  | worked (call : TaskLedger.Call Req) (other : Op.creates call.op = false) :
      Happens v g (.call call) { g with store := (exec .mysql v.codec g.store call.op call.clock).2 }

theorem step_happens [DecidableEq Req] {g g' : Desk Req} {act : Act Req}
    (h : step v g act = some g') : Happens v g act g' := by
  cases act with
  | enter userId idempotencyKey request =>
    simp only [step] at h
    split at h
    · obtain rfl := Option.some.inj h
      exact .malformed userId idempotencyKey request
    · rename_i key hkey
      obtain rfl := Option.some.inj h
      exact .entered userId idempotencyKey key request hkey _ rfl
  | advance i taskId sessionId clock =>
    simp only [step] at h
    split at h
    · cases h
    · rename_i a ha
      obtain ⟨⟨s', locks', phase'⟩, hnext, heq⟩ := Option.map_eq_some_iff.mp h
      obtain rfl := heq
      exact .advanced i taskId sessionId clock a ha s' locks' phase' (next_turn hnext)
  | giveUp i =>
    simp only [step] at h
    split at h
    · cases h
    · rename_i a ha
      split at h
      · rename_i name todo held hp
        split at h
        · obtain rfl := Option.some.inj h
          exact .gaveUp i a ha name todo held hp
        · cases h
      · cases h
  | call call =>
    simp only [step] at h
    split at h
    · cases h
    · rename_i hc
      obtain rfl := Option.some.inj h
      exact .worked call (Bool.eq_false_iff.mpr hc)

theorem keyTaken_iff {c : Codec Req} {s : Store Req} {u : UserId} {key : String} :
    keyTaken c s u key = true ↔
      ∃ r ∈ s.rows, r.userId = some u ∧ c.collate r.idempotencyKey = c.collate key := by
  simp [keyTaken, List.any_eq_true]

/-- A lookup by the key or by the active request finds a row of the user with
the fingerprint of the request. -/
theorem reusable_task {a : Attempt Req} {s : Store Req} {t : TripPlanningTask Req}
    (h : a.reusable v s = .ok (some t)) :
    ∃ r ∈ s.rows, r.taskJson = t ∧ r.userId = some a.userId ∧
      r.requestFingerprint = a.fingerprint v ∧
      (v.codec.collate r.idempotencyKey = v.codec.collate a.key ∨
        keyTaken v.codec s a.userId a.key = false ∧ r.active = true) := by
  simp only [Attempt.reusable, findReusableTask] at h
  split at h
  · rename_i row hrow
    have hp := List.find?_some hrow
    simp only [Bool.and_eq_true, decide_eq_true_eq] at hp
    split at h
    · cases h
    · rename_i hfp
      cases h
      exact ⟨row, List.mem_of_find?_eq_some hrow, rfl, hp.2, not_not.mp hfp, Or.inl hp.1⟩
  · rename_i hnone
    obtain ⟨row, hrow, rfl⟩ := Option.map_eq_some_iff.mp (Except.ok.inj h)
    obtain ⟨hmem, hp⟩ := List.mem_filter.mp (pickBy_mem hrow)
    simp only [Bool.and_eq_true, decide_eq_true_eq] at hp
    refine ⟨row, hmem, rfl, hp.1.2, hp.1.1, Or.inr ⟨?_, hp.2⟩⟩
    rw [Bool.eq_false_iff, ne_eq, keyTaken_iff]
    rintro ⟨r, hr, hu, hk⟩
    have hno := List.find?_eq_none.mp hnone r hr
    simp [hu, hk] at hno

theorem reusable_error {a : Attempt Req} {s : Store Req} {e : StoreError}
    (h : a.reusable v s = .error e) : e = conflict := by
  simp only [Attempt.reusable, findReusableTask] at h
  split at h
  · split at h
    · exact (Except.error.inj h).symm
    · cases h
  · cases h

/-- No row of the user is under work for the request. -/
def Vacant (v : Services Req) (s : Store Req) (a : Attempt Req) : Prop :=
  ∀ r ∈ s.rows, r.userId = some a.userId → r.requestFingerprint = a.fingerprint v → r.active = false

theorem reusable_none {a : Attempt Req} {s : Store Req} (h : a.reusable v s = .ok none) :
    keyTaken v.codec s a.userId a.key = false ∧ Vacant v s a := by
  simp only [Attempt.reusable, findReusableTask] at h
  split at h
  · split at h
    · cases h
    · cases Except.ok.inj h
  · rename_i hnone
    refine ⟨?_, ?_⟩
    · rw [Bool.eq_false_iff, ne_eq, keyTaken_iff]
      rintro ⟨r, hr, hu, hk⟩
      have hno := List.find?_eq_none.mp hnone r hr
      simp [hu, hk] at hno
    · intro r hr hu hf
      by_contra hactive
      have hempty := pickBy_none (Option.map_eq_none_iff.mp (Except.ok.inj h))
      have hmem := List.filter_eq_nil_iff.mp hempty r hr
      simp [hu, hf, Bool.not_eq_false _ ▸ hactive] at hmem

theorem active_of_task {s : Store Req} (hs : WellFormed s) {r : Row Req} (hr : r ∈ s.rows) :
    r.active = !r.taskJson.terminal := by
  have hstatus : ∀ x : TaskStatus, (decide (x = .queued) || decide (x = .running) ||
      decide (x = .retrying)) = !x.terminal := by
    intro x
    cases x <;> decide
  have hrow : r.status = r.taskJson.status := by
    rw [hs.coherent r hr]
    rfl
  rw [Row.active, hrow]
  exact hstatus r.taskJson.status

/-- Calls other than `create_task` rewrite rows in place and bring no finished
task back under work. -/
theorem worker_rows {c : Codec Req} {s : Store Req} (hs : WellFormed s) {op : Op Req}
    (hop : Op.creates op = false) (clock : Readings) :
    ∃ f : Row Req → Row Req, (exec .mysql c s op clock).2.rows = s.rows.map f ∧
      ∀ r ∈ s.rows, (f r).taskId = r.taskId ∧ (f r).userId = r.userId ∧
        (f r).idempotencyKey = r.idempotencyKey ∧
        (f r).requestFingerprint = r.requestFingerprint ∧ ((f r).active = true → r.active = true) := by
  have hleaves := exec_leaves .mysql c hs op clock
  generalize (exec .mysql c s op clock).2 = s' at hleaves ⊢
  cases hleaves with
  | same => exact ⟨id, (List.map_id _).symm, fun r _ => ⟨rfl, rfl, rfl, rfl, fun h => h⟩⟩
  | queued request idempotencyKey userId taskId sessionId key fingerprint call fresh =>
    subst call
    cases hop
  | moved row mem t event move =>
    refine ⟨_, commit_rows s t event clock.stamped, ?_⟩
    intro r hr
    split
    · rename_i hid
      refine ⟨rfl, rfl, rfl, rfl, ?_⟩
      intro _
      have hrow : row.taskJson.taskId = row.taskId := by
        rw [hs.coherent row mem]
        rfl
      have hids : r.taskId = row.taskId := by
        rw [of_decide_eq_true hid, move_taskId move, hrow]
      have heq : r = row := List.inj_on_of_nodup_map hs.ids hr mem hids
      rw [heq, active_of_task hs mem, move_open move, Bool.not_false]
    · exact ⟨rfl, rfl, rfl, rfl, fun h => h⟩

/-- Two rows that are not both under work for one request of one user. -/
def Apart (r q : Row Req) : Prop :=
  ¬ (r.userId = q.userId ∧ r.requestFingerprint = q.requestFingerprint ∧ r.active = true ∧
    q.active = true)

/-- The locks that a call holds in its phase. -/
def Owned (v : Services Req) (locks : List (String × Nat)) (i : Nat) (a : Attempt Req) : Prop :=
  match a.phase with
  | .waiting todo held => ∀ n ∈ a.names v, n ∈ todo ∨ n ∈ held ∧ (n, i) ∈ locks
  | .reading => ∀ n ∈ a.names v, (n, i) ∈ locks
  | .inserting => ∀ n ∈ a.names v, (n, i) ∈ locks
  | _ => True

structure Sound (v : Services Req) (g : Desk Req) : Prop where
  wellFormed : WellFormed g.store
  single : g.store.rows.Pairwise Apart
  exclusive : Exclusive g.locks
  owned : ∀ (i : Nat) a, g.attempts[i]? = some a → Owned v g.locks i a
  vacant : ∀ (i : Nat) a, g.attempts[i]? = some a → a.phase = .inserting → Vacant v g.store a
  changed : ∀ i ∈ g.changes, ∃ a t, g.attempts[i]? = some a ∧
    outcomeOf a.phase = some (.created t false)

theorem lockName_mem (v : Services Req) (a : Attempt Req) :
    v.lockName "fp" (a.fingerprint v) ∈ a.names v := by
  simp only [Attempt.names, lockNames]
  split
  · rename_i h
    rw [h]
    exact List.mem_singleton_self _
  · split
    · exact List.mem_cons_of_mem _ List.mem_cons_self
    · exact List.mem_cons_self

theorem start_sound : Sound v (Desk.start : Desk Req) := by
  refine ⟨empty_wellFormed, List.Pairwise.nil, List.nodup_nil, ?_, ?_, ?_⟩
  · intro i a h
    cases h
  · intro i a h
    cases h
  · intro i h
    cases h

/-- The locks of other calls survive a step. -/
theorem turn_keeps_locks {a : Attempt Req} {i j : Nat} {s s' : Store Req}
    {locks locks' : List (String × Nat)} {taskId sessionId : String} {clock : Readings}
    {phase' : Phase Req} (h : Turn v a i s locks taskId sessionId clock s' locks' phase')
    (hj : j ≠ i) {n : String} (hn : (n, j) ∈ locks) : (n, j) ∈ locks' := by
  cases h with
  | locked name todo held _ phase taken =>
    rw [(acquire_some taken).2]
    exact List.mem_cons_of_mem _ hn
  | released name held outcome phase => exact mem_release hn hj
  | _ => exact hn

theorem turn_exclusive {a : Attempt Req} {i : Nat} {s s' : Store Req}
    {locks locks' : List (String × Nat)} {taskId sessionId : String} {clock : Readings}
    {phase' : Phase Req} (h : Turn v a i s locks taskId sessionId clock s' locks' phase')
    (hl : Exclusive locks) : Exclusive locks' := by
  cases h with
  | locked name todo held _ phase taken => exact acquire_exclusive hl taken
  | released name held outcome phase => exact release_exclusive hl name i
  | _ => exact hl

/-- A step of a call leaves it with the locks that its next phase needs. -/
theorem turn_owned {a : Attempt Req} {i : Nat} {s s' : Store Req}
    {locks locks' : List (String × Nat)} {taskId sessionId : String} {clock : Readings}
    {phase' : Phase Req} (h : Turn v a i s locks taskId sessionId clock s' locks' phase')
    (ha : Owned v locks i a) : Owned v locks' i { a with phase := phase' } := by
  cases h with
  | ready held phase =>
    simp only [Owned, phase] at ha
    intro n hn
    exact ((ha n hn).resolve_left List.not_mem_nil).2
  | locked name todo held _ phase taken =>
    simp only [Owned, phase] at ha
    obtain ⟨_, rfl⟩ := acquire_some taken
    intro n hn
    obtain hmem | ⟨hheld, hlock⟩ := ha n hn
    · obtain rfl | htodo := List.mem_cons.mp hmem
      · exact Or.inr ⟨List.mem_cons_self, List.mem_cons_self⟩
      · exact Or.inl htodo
    · exact Or.inr ⟨List.mem_cons_of_mem _ hheld, List.mem_cons_of_mem _ hlock⟩
  | vacant phase found =>
    simp only [Owned, phase] at ha
    exact ha
  | read o phase found => trivial
  | rejected phase held => trivial
  | inserted phase fresh free => trivial
  | released name held outcome phase => trivial
  | finished o phase => trivial
  | failed phase => trivial
  | reread o phase found => trivial

/-- An outcome that a call has reached is the one it ends with. -/
theorem turn_outcome {a : Attempt Req} {i : Nat} {s s' : Store Req}
    {locks locks' : List (String × Nat)} {taskId sessionId : String} {clock : Readings}
    {phase' : Phase Req} (h : Turn v a i s locks taskId sessionId clock s' locks' phase')
    {o : Outcome Req} (ho : outcomeOf a.phase = some o) : outcomeOf phase' = some o := by
  cases h with
  | released name held outcome phase =>
    rw [phase] at ho
    exact ho
  | finished o' phase =>
    rw [phase] at ho
    exact ho
  | ready held phase => rw [phase] at ho; cases ho
  | locked name todo held _ phase taken => rw [phase] at ho; cases ho
  | vacant phase found => rw [phase] at ho; cases ho
  | read o' phase found => rw [phase] at ho; cases ho
  | rejected phase held => rw [phase] at ho; cases ho
  | inserted phase fresh free => rw [phase] at ho; cases ho
  | failed phase => rw [phase] at ho; cases ho
  | reread o' phase found => rw [phase] at ho; cases ho

theorem set_cases {α : Type} {l : List α} {i j : Nat} {x b : α} (h : (l.set i x)[j]? = some b) :
    (j = i ∧ b = x) ∨ (j ≠ i ∧ l[j]? = some b) := by
  rw [List.getElem?_set] at h
  by_cases hij : i = j
  · rw [if_pos hij] at h
    split at h
    · exact Or.inl ⟨hij.symm, (Option.some.inj h).symm⟩
    · cases h
  · rw [if_neg hij] at h
    exact Or.inr ⟨Ne.symm hij, h⟩

theorem concat_cases {α : Type} {l : List α} {j : Nat} {x b : α} (h : (l ++ [x])[j]? = some b) :
    b = x ∨ l[j]? = some b := by
  rw [List.getElem?_append] at h
  split at h
  · exact Or.inr h
  · exact Or.inl (List.mem_singleton.mp (List.mem_of_getElem? h))

/-- Of two calls for one request only one can be at its insert. -/
theorem inserting_unique {g : Desk Req} (hg : Sound v g) {i j : Nat} {a b : Attempt Req}
    (ha : g.attempts[i]? = some a) (hb : g.attempts[j]? = some b) (hia : a.phase = .inserting)
    (hib : b.phase = .inserting) (hf : a.fingerprint v = b.fingerprint v) : i = j := by
  have hoa := hg.owned i a ha
  have hob := hg.owned j b hb
  simp only [Owned, hia] at hoa
  simp only [Owned, hib] at hob
  have hla := hoa _ (lockName_mem v a)
  have hlb := hob _ (lockName_mem v b)
  rw [hf] at hla
  exact owner_unique hg.exclusive hla hlb

theorem append_rows (s : Store Req) (t : TripPlanningTask Req) (now : Time) :
    (s.appendTask t now).rows = s.rows ++ [Row.ofTask t] := rfl

theorem advance_sound [DecidableEq Req] {g : Desk Req} (hg : Sound v g) {i : Nat} {a : Attempt Req}
    (ha : g.attempts[i]? = some a) {taskId sessionId : String} {clock : Readings} {s' : Store Req}
    {locks' : List (String × Nat)} {phase' : Phase Req}
    (h : Turn v a i g.store g.locks taskId sessionId clock s' locks' phase') :
    Sound v ⟨s', locks', g.attempts.set i { a with phase := phase' },
      if s' = g.store then g.changes else i :: g.changes⟩ := by
  refine ⟨?_, ?_, turn_exclusive h hg.exclusive, ?_, ?_, ?_⟩
  · cases h with
    | inserted phase fresh free => exact append_wellFormed hg.wellFormed fresh clock.stamped
    | _ => exact hg.wellFormed
  · cases h with
    | inserted phase fresh free =>
      simp only [append_rows]
      refine List.pairwise_append.mpr ⟨hg.single, List.pairwise_singleton _ _, ?_⟩
      intro r hr q hq
      rw [List.mem_singleton] at hq
      subst hq
      rintro ⟨hu, hf, hactive, _⟩
      have hidle := hg.vacant i a ha phase r hr hu hf
      rw [hidle] at hactive
      cases hactive
    | _ => exact hg.single
  · intro j b hb
    obtain ⟨rfl, rfl⟩ | ⟨hj, hb⟩ := set_cases hb
    · exact turn_owned h (hg.owned j a ha)
    · have hob := hg.owned j b hb
      simp only [Owned] at hob ⊢
      split at hob
      · intro n hn
        exact (hob n hn).imp_right fun hl => ⟨hl.1, turn_keeps_locks h hj hl.2⟩
      · intro n hn
        exact turn_keeps_locks h hj (hob n hn)
      · intro n hn
        exact turn_keeps_locks h hj (hob n hn)
      · trivial
  · intro j b hb hphase
    obtain ⟨rfl, rfl⟩ | ⟨hj, hb'⟩ := set_cases hb
    · cases h with
      | vacant phase found => exact (reusable_none found).2
      | _ => cases hphase
    · have hvac := hg.vacant j b hb' hphase
      cases h with
      | inserted phase fresh free =>
        intro r hr hu hf
        obtain hr | hr := List.mem_append.mp hr
        · exact hvac r hr hu hf
        · rw [List.mem_singleton] at hr
          subst hr
          exact absurd (inserting_unique hg ha hb' phase hphase hf).symm hj
      | _ => exact hvac
  · intro j hj
    have hself : (g.attempts.set i { a with phase := phase' })[i]? = some { a with phase := phase' } :=
      List.getElem?_set_self (List.getElem?_eq_some_iff.mp ha).1
    by_cases hold : j ∈ g.changes
    · obtain ⟨b, t, hb, ho⟩ := hg.changed j hold
      by_cases hji : j = i
      · subst hji
        cases ha.symm.trans hb
        exact ⟨_, t, hself, turn_outcome h ho⟩
      · exact ⟨b, t, (List.getElem?_set_ne (Ne.symm hji)).trans hb, ho⟩
    · cases h with
      | inserted phase fresh free =>
        have hji : j = i := by
          simp only at hj
          split at hj
          · exact absurd hj hold
          · exact (List.mem_cons.mp hj).resolve_right hold
        subst hji
        exact ⟨_, _, hself, rfl⟩
      | _ =>
        simp only [↓reduceIte] at hj
        exact absurd hj hold

theorem step_sound [DecidableEq Req] {g g' : Desk Req} {act : Act Req} (hg : Sound v g)
    (h : step v g act = some g') : Sound v g' := by
  cases step_happens h with
  | malformed userId idempotencyKey request => exact hg
  | entered userId idempotencyKey key request normal a call =>
    have hphase : a.phase = .waiting (a.names v) [] := congrArg Attempt.phase call
    refine ⟨hg.wellFormed, hg.single, hg.exclusive, ?_, ?_, ?_⟩
    · intro j b hb
      obtain rfl | hb := concat_cases hb
      · simp only [Owned, hphase]
        exact fun n hn => Or.inl hn
      · exact hg.owned j b hb
    · intro j b hb hins
      obtain rfl | hb := concat_cases hb
      · cases hphase.symm.trans hins
      · exact hg.vacant j b hb hins
    · intro j hj
      obtain ⟨b, t, hb, ho⟩ := hg.changed j hj
      exact ⟨b, t, (List.getElem?_append_left (List.getElem?_eq_some_iff.mp hb).1).trans hb, ho⟩
  | advanced i taskId sessionId clock a here s' locks' phase' turn =>
    exact advance_sound hg here turn
  | gaveUp i a here name todo held phase =>
    refine ⟨hg.wellFormed, hg.single, hg.exclusive, ?_, ?_, ?_⟩
    · intro j b hb
      obtain ⟨rfl, rfl⟩ | ⟨hj, hb⟩ := set_cases hb
      · trivial
      · exact hg.owned j b hb
    · intro j b hb hins
      obtain ⟨rfl, rfl⟩ | ⟨hj, hb⟩ := set_cases hb
      · cases hins
      · exact hg.vacant j b hb hins
    · intro j hj
      obtain ⟨b, t, hb, ho⟩ := hg.changed j hj
      by_cases hji : j = i
      · subst hji
        cases here.symm.trans hb
        rw [phase] at ho
        cases ho
      · exact ⟨b, t, (List.getElem?_set_ne (Ne.symm hji)).trans hb, ho⟩
  | worked call other =>
    obtain ⟨f, hrows, hf⟩ := worker_rows (c := v.codec) hg.wellFormed other call.clock
    refine ⟨exec_wellFormed .mysql v.codec hg.wellFormed call.op call.clock, ?_, hg.exclusive,
      hg.owned, ?_, hg.changed⟩
    · simp only [hrows]
      refine List.pairwise_map.mpr (hg.single.imp_of_mem ?_)
      intro r q hr hq hapart
      obtain ⟨_, hru, _, hrf, hra⟩ := hf r hr
      obtain ⟨_, hqu, _, hqf, hqa⟩ := hf q hq
      rintro ⟨hu, hp, har, haq⟩
      rw [hru, hqu] at hu
      rw [hrf, hqf] at hp
      exact hapart ⟨hu, hp, hra har, hqa haq⟩
    · intro i a ha hphase r hr hu hfp
      simp only [hrows] at hr
      obtain ⟨q, hq, rfl⟩ := List.mem_map.mp hr
      obtain ⟨_, huser, _, hprint, hactive⟩ := hf q hq
      by_contra hne
      have hidle := hg.vacant i a ha hphase q hq (huser ▸ hu) (hprint ▸ hfp)
      rw [hactive (Bool.not_eq_false _ ▸ hne)] at hidle
      cases hidle

/-- The row of the user under the key of a call, up to the collation. -/
def UnderKey (v : Services Req) (a : Attempt Req) (r : Row Req) : Prop :=
  r.userId = some a.userId ∧ v.codec.collate r.idempotencyKey = v.codec.collate a.key

/-- What holds as long as every call is answered under its own key. -/
structure Bound (v : Services Req) (g : Desk Req) : Prop where
  keys : g.store.rows.Pairwise fun r q => ¬ (r.userId = q.userId ∧
    v.codec.collate r.idempotencyKey = v.codec.collate q.idempotencyKey)
  answered : ∀ (i : Nat) a t reused, g.attempts[i]? = some a →
    outcomeOf a.phase = some (.created t reused) →
    ∃ r ∈ g.store.rows, UnderKey v a r ∧ r.taskId = t.taskId ∧ r.requestFingerprint = a.fingerprint v
  refused : ∀ (i : Nat) a o, g.attempts[i]? = some a → outcomeOf a.phase = some o →
    (∃ t reused, o = .created t reused) ∨ o = .refused conflict
  pending : ∀ (i : Nat) a, g.attempts[i]? = some a →
    (∃ held, a.phase = .releasing none held) ∨ a.phase = .rereading →
    ∃ r ∈ g.store.rows, UnderKey v a r

/-- A step that waits no lock out, draws unused identifiers, and finds no active
task for the request unless the key of the call is stored. -/
def Plain (v : Services Req) (g : Desk Req) : Act Req → Prop
  | .advance i taskId sessionId clock => ∀ a ∈ g.attempts[i]?,
    (a.phase = .reading → keyTaken v.codec g.store a.userId a.key = true ∨ Vacant v g.store a) ∧
    (a.phase = .inserting → g.store.holdsKeyOf (a.newTask v taskId sessionId clock) = false)
  | .giveUp _ => False
  | _ => True

/-- Every row is still there under its identity. -/
def Persists (s s' : Store Req) : Prop :=
  ∀ r ∈ s.rows, ∃ r' ∈ s'.rows, r'.taskId = r.taskId ∧ r'.userId = r.userId ∧
    r'.idempotencyKey = r.idempotencyKey ∧ r'.requestFingerprint = r.requestFingerprint

theorem persists_append (s : Store Req) (t : TripPlanningTask Req) (now : Time) :
    Persists s (s.appendTask t now) :=
  fun r hr => ⟨r, List.mem_append_left _ hr, rfl, rfl, rfl, rfl⟩

theorem persists_underKey {s s' : Store Req} (h : Persists s s') {a : Attempt Req}
    {p : TaskId → String → Prop}
    (ha : ∃ r ∈ s.rows, UnderKey v a r ∧ p r.taskId r.requestFingerprint) :
    ∃ r ∈ s'.rows, UnderKey v a r ∧ p r.taskId r.requestFingerprint := by
  obtain ⟨r, hr, ⟨hu, hk⟩, hp⟩ := ha
  obtain ⟨r', hr', hid', hu', hk', hf'⟩ := h r hr
  refine ⟨r', hr', ⟨hu'.trans hu, ?_⟩, ?_⟩
  · rw [hk', hk]
  · rw [hid', hf']
    exact hp

theorem turn_persists {a : Attempt Req} {i : Nat} {s s' : Store Req}
    {locks locks' : List (String × Nat)} {taskId sessionId : String} {clock : Readings}
    {phase' : Phase Req} (h : Turn v a i s locks taskId sessionId clock s' locks' phase') :
    Persists s s' := by
  cases h with
  | inserted phase fresh free => exact persists_append s _ _
  | _ => exact fun r hr => ⟨r, hr, rfl, rfl, rfl, rfl⟩

/-- An answer under the key of the call itself. -/
theorem reusable_underKey {a : Attempt Req} {s : Store Req} (hs : WellFormed s)
    {t : TripPlanningTask Req} (h : a.reusable v s = .ok (some t))
    (hplain : keyTaken v.codec s a.userId a.key = true ∨ Vacant v s a) :
    ∃ r ∈ s.rows, UnderKey v a r ∧ r.taskId = t.taskId ∧ r.requestFingerprint = a.fingerprint v := by
  obtain ⟨r, hr, rfl, hu, hf, hkey⟩ := reusable_task h
  have hid : r.taskId = r.taskJson.taskId := by
    rw [hs.coherent r hr]
    rfl
  obtain hkey | ⟨hfree, hactive⟩ := hkey
  · exact ⟨r, hr, ⟨hu, hkey⟩, hid, hf⟩
  · obtain htaken | hvacant := hplain
    · rw [hfree] at htaken
      cases htaken
    · rw [hvacant r hr hu hf] at hactive
      cases hactive

theorem keyTaken_of_underKey {a : Attempt Req} {s : Store Req} (h : ∃ r ∈ s.rows, UnderKey v a r) :
    keyTaken v.codec s a.userId a.key = true := by
  obtain ⟨r, hr, hu, hk⟩ := h
  exact keyTaken_iff.mpr ⟨r, hr, hu, hk⟩

theorem turn_answered {g : Desk Req} (hg : Sound v g) (hb : Bound v g) {i : Nat} {a : Attempt Req}
    (ha : g.attempts[i]? = some a) {taskId sessionId : String} {clock : Readings} {s' : Store Req}
    {locks' : List (String × Nat)} {phase' : Phase Req}
    (h : Turn v a i g.store g.locks taskId sessionId clock s' locks' phase')
    (hplain : Plain v g (.advance i taskId sessionId clock)) {t : TripPlanningTask Req} {reused : Bool}
    (ho : outcomeOf phase' = some (.created t reused)) :
    ∃ r ∈ s'.rows, UnderKey v a r ∧ r.taskId = t.taskId ∧ r.requestFingerprint = a.fingerprint v := by
  have hread := (hplain a ha).1
  cases h with
  | read o phase found =>
    cases ho
    obtain ⟨t', ht', heq⟩ | ⟨e, _, heq⟩ := found
    · cases heq
      exact reusable_underKey hg.wellFormed ht' (hread phase)
    · cases heq
  | inserted phase fresh free =>
    cases ho
    exact ⟨_, List.mem_append_right _ List.mem_cons_self, ⟨rfl, rfl⟩, rfl, rfl⟩
  | released name held outcome phase =>
    refine hb.answered i a t reused ha ?_
    rw [phase]
    exact ho
  | finished o phase =>
    refine hb.answered i a t reused ha ?_
    rw [phase]
    exact ho
  | reread o phase found =>
    cases ho
    have htaken := keyTaken_of_underKey (hb.pending i a ha (Or.inr phase))
    obtain ⟨t', ht', heq⟩ | ⟨e, _, heq⟩ | ⟨_, heq⟩ := found
    · cases heq
      exact reusable_underKey hg.wellFormed ht' (Or.inl htaken)
    · cases heq
    · cases heq
  | _ => cases ho

theorem turn_refused {g : Desk Req} (hb : Bound v g) {i : Nat} {a : Attempt Req}
    (ha : g.attempts[i]? = some a) {taskId sessionId : String} {clock : Readings} {s' : Store Req}
    {locks' : List (String × Nat)} {phase' : Phase Req}
    (h : Turn v a i g.store g.locks taskId sessionId clock s' locks' phase') {o : Outcome Req}
    (ho : outcomeOf phase' = some o) :
    (∃ t reused, o = .created t reused) ∨ o = .refused conflict := by
  cases h with
  | read o' phase found =>
    cases ho
    obtain ⟨t', _, rfl⟩ | ⟨e, he, rfl⟩ := found
    · exact Or.inl ⟨t', true, rfl⟩
    · rw [reusable_error he]
      exact Or.inr rfl
  | inserted phase fresh free =>
    cases ho
    exact Or.inl ⟨_, _, rfl⟩
  | released name held outcome phase =>
    refine hb.refused i a o ha ?_
    rw [phase]
    exact ho
  | finished o' phase =>
    refine hb.refused i a o ha ?_
    rw [phase]
    exact ho
  | reread o' phase found =>
    cases ho
    obtain ⟨t', _, rfl⟩ | ⟨e, he, rfl⟩ | ⟨hnone, _⟩ := found
    · exact Or.inl ⟨t', true, rfl⟩
    · rw [reusable_error he]
      exact Or.inr rfl
    · have htaken := keyTaken_of_underKey (hb.pending i a ha (Or.inr phase))
      rw [(reusable_none hnone).1] at htaken
      cases htaken
  | _ => cases ho

theorem turn_pending {g : Desk Req} (hb : Bound v g) {i : Nat} {a : Attempt Req}
    (ha : g.attempts[i]? = some a) {taskId sessionId : String} {clock : Readings} {s' : Store Req}
    {locks' : List (String × Nat)} {phase' : Phase Req}
    (h : Turn v a i g.store g.locks taskId sessionId clock s' locks' phase')
    (hplain : Plain v g (.advance i taskId sessionId clock))
    (hp : (∃ held, phase' = .releasing none held) ∨ phase' = .rereading) :
    ∃ r ∈ s'.rows, UnderKey v a r := by
  cases h with
  | rejected phase held =>
    have hfresh := (hplain a ha).2 phase
    obtain ⟨r, hr, hu, hk⟩ := keyTaken_iff.mp (held.resolve_left (by rw [hfresh]; decide))
    exact ⟨r, hr, hu, hk⟩
  | released name held outcome phase =>
    obtain ⟨held', heq⟩ | heq := hp
    · cases heq
      exact hb.pending i a ha (Or.inl ⟨_, phase⟩)
    · cases heq
  | failed phase => exact hb.pending i a ha (Or.inl ⟨_, phase⟩)
  | _ => rcases hp with ⟨held', heq⟩ | heq <;> cases heq

theorem step_bound [DecidableEq Req] {g g' : Desk Req} {act : Act Req} (hg : Sound v g)
    (hb : Bound v g) (hplain : Plain v g act) (h : step v g act = some g') : Bound v g' := by
  cases step_happens h with
  | malformed userId idempotencyKey request => exact hb
  | entered userId idempotencyKey key request normal a call =>
    have hphase : a.phase = .waiting (a.names v) [] := congrArg Attempt.phase call
    have hnone : outcomeOf a.phase = none := by rw [hphase]; rfl
    refine ⟨hb.keys, ?_, ?_, ?_⟩
    · intro j b t reused hj ho
      obtain rfl | hj := concat_cases hj
      · cases hnone.symm.trans ho
      · exact hb.answered j b t reused hj ho
    · intro j b o hj ho
      obtain rfl | hj := concat_cases hj
      · cases hnone.symm.trans ho
      · exact hb.refused j b o hj ho
    · intro j b hj hp
      obtain rfl | hj := concat_cases hj
      · rw [hphase] at hp
        rcases hp with ⟨held, heq⟩ | heq <;> cases heq
      · exact hb.pending j b hj hp
  | advanced i taskId sessionId clock a here s' locks' phase' turn =>
    refine ⟨?_, ?_, ?_, ?_⟩
    · cases turn with
      | inserted phase fresh free =>
        simp only [append_rows]
        refine List.pairwise_append.mpr ⟨hb.keys, List.pairwise_singleton _ _, ?_⟩
        intro r hr q hq
        rw [List.mem_singleton] at hq
        subst hq
        rintro ⟨hu, hk⟩
        rw [keyTaken_of_underKey ⟨r, hr, hu, hk⟩] at free
        cases free
      | _ => exact hb.keys
    · intro j b t reused hj ho
      obtain ⟨rfl, rfl⟩ | ⟨_, hj⟩ := set_cases hj
      · exact turn_answered hg hb here turn hplain ho
      · exact persists_underKey (turn_persists turn)
          (p := fun id fp => id = t.taskId ∧ fp = b.fingerprint v) (hb.answered j b t reused hj ho)
    · intro j b o hj ho
      obtain ⟨rfl, rfl⟩ | ⟨_, hj⟩ := set_cases hj
      · exact turn_refused hb here turn ho
      · exact hb.refused j b o hj ho
    · intro j b hj hp
      obtain ⟨rfl, rfl⟩ | ⟨_, hj⟩ := set_cases hj
      · exact turn_pending hb here turn hplain hp
      · obtain ⟨r, hr, hk⟩ := hb.pending j b hj hp
        obtain ⟨r', hr', hk', _⟩ := persists_underKey (turn_persists turn) (p := fun _ _ => True)
          ⟨r, hr, hk, trivial⟩
        exact ⟨r', hr', hk'⟩
  | gaveUp i a here name todo held phase => exact absurd hplain id
  | worked call other =>
    obtain ⟨f, hrows, hf⟩ := worker_rows (c := v.codec) hg.wellFormed other call.clock
    have hpersists : Persists g.store (exec .mysql v.codec g.store call.op call.clock).2 := by
      intro r hr
      refine ⟨f r, ?_, (hf r hr).1, (hf r hr).2.1, (hf r hr).2.2.1, (hf r hr).2.2.2.1⟩
      rw [hrows]
      exact List.mem_map_of_mem hr
    refine ⟨?_, ?_, hb.refused, ?_⟩
    · simp only [hrows]
      refine List.pairwise_map.mpr (hb.keys.imp_of_mem ?_)
      intro r q hr hq hdiff
      rw [(hf r hr).2.1, (hf q hq).2.1, (hf r hr).2.2.1, (hf q hq).2.2.1]
      exact hdiff
    · intro j b t reused hj ho
      exact persists_underKey hpersists
        (p := fun id fp => id = t.taskId ∧ fp = b.fingerprint v) (hb.answered j b t reused hj ho)
    · intro j b hj hp
      obtain ⟨r, hr, hk⟩ := hb.pending j b hj hp
      obtain ⟨r', hr', hk', _⟩ := persists_underKey hpersists (p := fun _ _ => True)
        ⟨r, hr, hk, trivial⟩
      exact ⟨r', hr', hk'⟩

theorem start_bound : Bound v (Desk.start : Desk Req) := by
  refine ⟨List.Pairwise.nil, ?_, ?_, ?_⟩
  · intro i a t reused h
    cases h
  · intro i a o h
    cases h
  · intro i a h
    cases h

/-- No user has two unfinished tasks for one request. -/
def OneActive (g : Desk Req) : Prop :=
  ∀ r ∈ g.store.rows, ∀ q ∈ g.store.rows, ∀ u, r.userId = some u → q.userId = some u →
    r.requestFingerprint = q.requestFingerprint → r.taskJson.terminal = false →
    q.taskJson.terminal = false → r = q

/-- Calls of one user under one key: with one request they return one task, and
beside a returned task a call with another request ends in the conflict and
has changed neither table nor log. -/
def Idempotent (v : Services Req) (g : Desk Req) : Prop :=
  ∀ (i j : Nat) a b, g.attempts[i]? = some a → g.attempts[j]? = some b → a.userId = b.userId →
    v.codec.collate a.key = v.codec.collate b.key →
    ∀ t reused, a.phase = .ended (.created t reused) →
      (a.fingerprint v = b.fingerprint v → ∀ t' reused', b.phase = .ended (.created t' reused') →
        t'.taskId = t.taskId) ∧
      (a.fingerprint v ≠ b.fingerprint v → ∀ o, b.phase = .ended o →
        o = .refused conflict ∧ j ∉ g.changes)

theorem sound_oneActive {g : Desk Req} (hg : Sound v g) : OneActive g := by
  have hsymm : Std.Symm (Apart : Row Req → Row Req → Prop) := by
    refine ⟨?_⟩
    rintro r q h ⟨hu, hf, hq, hr⟩
    exact h ⟨hu.symm, hf.symm, hr, hq⟩
  intro r hr q hq u hru hqu hf hro hqo
  by_contra hne
  refine hg.single.forall hr hq hne ⟨hru.trans hqu.symm, hf, ?_, ?_⟩
  · rw [active_of_task hg.wellFormed hr, hro, Bool.not_false]
  · rw [active_of_task hg.wellFormed hq, hqo, Bool.not_false]

theorem bound_idempotent {g : Desk Req} (hg : Sound v g) (hb : Bound v g) : Idempotent v g := by
  have hsymm : Std.Symm fun r q : Row Req => ¬ (r.userId = q.userId ∧
      v.codec.collate r.idempotencyKey = v.codec.collate q.idempotencyKey) := by
    refine ⟨?_⟩
    rintro r q h ⟨hu, hk⟩
    exact h ⟨hu.symm, hk.symm⟩
  intro i j a b ha hbj huser hkey t reused hphase
  have hout : outcomeOf a.phase = some (.created t reused) := by rw [hphase]; rfl
  obtain ⟨r, hr, ⟨hru, hrk⟩, hrid, hrf⟩ := hb.answered i a t reused ha hout
  -- a task that the other call returned stands in the same row
  have hsame : ∀ t' reused', b.phase = .ended (.created t' reused') →
      t'.taskId = t.taskId ∧ b.fingerprint v = a.fingerprint v := by
    intro t' reused' hphase'
    have hout' : outcomeOf b.phase = some (.created t' reused') := by rw [hphase']; rfl
    obtain ⟨q, hq, ⟨hqu, hqk⟩, hqid, hqf⟩ := hb.answered j b t' reused' hbj hout'
    have heq : q = r := by
      by_contra hne
      refine hb.keys.forall hq hr hne ⟨?_, ?_⟩
      · rw [hqu, hru, huser]
      · rw [hqk, hrk, hkey]
    subst heq
    exact ⟨hqid.symm.trans hrid, hqf.symm.trans hrf⟩
  refine ⟨fun _ t' reused' hphase' => (hsame t' reused' hphase').1, ?_⟩
  intro hdiff o hphase'
  have hout' : outcomeOf b.phase = some o := by rw [hphase']; rfl
  obtain ⟨t', reused', rfl⟩ | rfl := hb.refused j b o hbj hout'
  · exact absurd (hsame t' reused' hphase').2.symm hdiff
  · refine ⟨rfl, ?_⟩
    intro hj
    obtain ⟨b', t', hb', ho'⟩ := hg.changed j hj
    cases hbj.symm.trans hb'
    cases hout'.symm.trans ho'

/-- In every interleaving no user has two unfinished tasks for one request, and
as long as every call is answered under its own key creation is idempotent. -/
theorem creation_idempotent [DecidableEq Req] (v : Services Req) (acts : List (Act Req)) :
    Always (step v) OneActive Desk.start acts ∧
      (Along (step v) (Plain v) Desk.start acts →
        Always (step v) (Idempotent v) Desk.start acts) := by
  constructor
  · refine always_of_invariant (I := Sound v) ?_ (fun g => sound_oneActive) start_sound acts
    intro g act g' hg h
    exact step_sound hg h
  · intro hplain
    refine always_of_along (I := fun g => Sound v g ∧ Bound v g) ?_
      (fun g hg => bound_idempotent hg.1 hg.2) ⟨start_sound, start_bound⟩ hplain
    intro g act g' hg hok h
    exact ⟨step_sound hg.1 h, step_bound hg.1 hg.2 hok h⟩

instance Vacant.decidable (v : Services Req) (s : Store Req) (a : Attempt Req) :
    Decidable (Vacant v s a) :=
  inferInstanceAs (Decidable (∀ r ∈ s.rows, _ → _ → _))

instance Plain.decidable [DecidableEq Req] (v : Services Req) (g : Desk Req) :
    (act : Act Req) → Decidable (Plain v g act)
  | .advance i _ _ _ => inferInstanceAs (Decidable (∀ a ∈ g.attempts[i]?, _ ∧ _))
  | .enter _ _ _ => isTrue trivial
  | .giveUp _ => isFalse id
  | .call _ => isTrue trivial

def plainServices : Services Bool := ⟨⟨toString, id⟩, id⟩

/-- All steps of a call from its first lock to its end. -/
def carryOut (i steps : Nat) (taskId : String) : List (Act Bool) :=
  List.replicate steps (.advance i taskId ("s-" ++ taskId) ⟨0, 0, 0⟩)

/-- The task that a call has returned, with the arguments of the call. -/
def returned (a : Attempt Bool) : Option (UserId × String × Bool × TaskId) :=
  match a.phase with
  | .ended (.created t _) => some (a.userId, a.key, a.request, t.taskId)
  | _ => none

/-- A call, its repetition, and a call with another request under the same key. -/
def repeatedCalls : List (Act Bool) :=
  [.enter "u" "k" true, .enter "u" "k" true, .enter "u" " k " false] ++ carryOut 0 8 "t0" ++
    carryOut 1 7 "t1" ++ carryOut 2 7 "t2"

theorem repeated_calls_idempotent :
    (run (step plainServices) Desk.start repeatedCalls).map (fun g => g.attempts.map returned) =
        some [some ("u", "k", true, "t0"), some ("u", "k", true, "t0"), none] ∧
      Always (step plainServices) (Idempotent plainServices) Desk.start repeatedCalls := by
  refine ⟨by decide +kernel, ?_⟩
  exact (creation_idempotent plainServices repeatedCalls).2 (by decide +kernel)

/-- The second key is answered with the task under the first; once that task has
ended, the same call makes another one. -/
def aliasedCalls : List (Act Bool) :=
  [.enter "u" "k0" true] ++ carryOut 0 8 "t0" ++ [.enter "u" "k1" true] ++ carryOut 1 7 "t1" ++
    [.call ⟨.claimNext "w" 10 [], ⟨1, 1, 1⟩⟩, .call ⟨.markSucceeded "t0" "w" "s-t0", ⟨2, 2, 2⟩⟩,
      .enter "u" "k1" true] ++ carryOut 2 8 "t2"

theorem returned_some {g : Desk Bool} {answers : List (Option (UserId × String × Bool × TaskId))}
    (h : g.attempts.map returned = answers) {i : Nat} {u key request id}
    (hi : answers[i]? = some (some (u, key, request, id))) :
    ∃ a t reused, g.attempts[i]? = some a ∧ a.userId = u ∧ a.key = key ∧ a.request = request ∧
      a.phase = .ended (.created t reused) ∧ t.taskId = id := by
  rw [← h, List.getElem?_map] at hi
  obtain ⟨a, ha, hret⟩ := Option.map_eq_some_iff.mp hi
  simp only [returned] at hret
  split at hret
  · rename_i t reused hphase
    cases hret
    exact ⟨a, t, reused, ha, rfl, rfl, rfl, hphase, rfl⟩
  · cases hret

theorem aliased_key_returns_two_tasks :
    (run (step plainServices) Desk.start aliasedCalls).map (fun g => g.attempts.map returned) =
        some [some ("u", "k0", true, "t0"), some ("u", "k1", true, "t0"),
          some ("u", "k1", true, "t2")] ∧
      ¬ Always (step plainServices) (Idempotent plainServices) Desk.start aliasedCalls := by
  have hrun : (run (step plainServices) Desk.start aliasedCalls).map
      (fun g => g.attempts.map returned) =
        some [some ("u", "k0", true, "t0"), some ("u", "k1", true, "t0"),
          some ("u", "k1", true, "t2")] := by
    decide +kernel
  refine ⟨hrun, ?_⟩
  intro halways
  obtain ⟨g, hg, hanswers⟩ := Option.map_eq_some_iff.mp hrun
  obtain ⟨a, t, reused, ha, hau, hak, har, hap, hat⟩ := returned_some hanswers (i := 1) rfl
  obtain ⟨b, t', reused', hb, hbu, hbk, hbr, hbp, hbt⟩ := returned_some hanswers (i := 2) rfl
  have hfp : a.fingerprint plainServices = b.fingerprint plainServices := by
    rw [Attempt.fingerprint, Attempt.fingerprint, har, hbr]
  have hsame := (always_last halways hg 1 2 a b ha hb (hau.trans hbu.symm)
    (congrArg _ (hak.trans hbk.symm)) t reused hap).1 hfp t' reused' hbp
  rw [hat, hbt] at hsame
  exact absurd hsame (by decide)

end TravelAgent.CreationExclusion
