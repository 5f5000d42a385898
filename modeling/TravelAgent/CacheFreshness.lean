import TravelAgent.TaskOwners

namespace TravelAgent.CacheFreshness

open TravelAgent.Leasing TravelAgent.Rows TravelAgent.TaskRecord TravelAgent.TaskStore
open TravelAgent.TaskOps TravelAgent.TaskView TravelAgent.TaskOwners TravelAgent.Transition
open TravelAgent.ReadCache hiding Sound
open TravelAgent.CachedReads
open TravelAgent.MysqlTaskStore (Codec)

variable {Req State View : Type}

/-- A read that ended with a snapshot older than an update that had returned before it. -/
def backwards : Pc Req View → Bool
  | .taskRead floor snap => decide (snap.stamp < floor)
  | .viewRead floor snap => decide (snap.stamp < floor)
  | _ => false

def NeverBackwards (x : World Req State View) : Prop := ∀ a, backwards (x.pcs a) = false

/-- What a caller is about to write to the cache is as new as every update of the same
task or session that has reached the cache. -/
def writesCurrent (x : World Req State View) : Pc Req View → Bool
  | .taskFilling _ snap | .caching _ snap =>
    decide (x.progress.published snap.value.taskId ≤ snap.stamp)
  | .viewFilling _ session _ snap => decide (x.views.published session ≤ snap.stamp)
  | _ => true

def CurrentWrite (x : World Req State View) : Label Req State → Prop
  | .proceed a => writesCurrent x (x.pcs a) = true
  | _ => True

instance CurrentWrite.decidable (x : World Req State View) (label : Label Req State) :
    Decidable (CurrentWrite x label) :=
  match label with
  | .proceed a => inferInstanceAs (Decidable (writesCurrent x (x.pcs a) = true))
  | .call _ _ _ | .readTask _ _ _ | .readView _ _ _ | .confirm _ _ _ | .confirmed _ _
  | .checkpoint _ _ _ _ | .abort _ => isTrue trivial

def SessionOf (rows : List (SessionRow State)) (session : SessionId) (user : UserId) : Prop :=
  ∃ r, lookup SessionRow.sessionId session rows = some r ∧ r.userId = some user

theorem sessionOf_unique {rows : List (SessionRow State)} {session : SessionId} {u v : UserId}
    (hu : SessionOf rows session u) (hv : SessionOf rows session v) : u = v := by
  obtain ⟨r, hr, hru⟩ := hu
  obtain ⟨q, hq, hqv⟩ := hv
  cases hr.symm.trans hq
  exact Option.some.inj (hru.symm.trans hqv)

theorem getState_owner {rows : List (SessionRow State)} {session : SessionId} {u : UserId}
    {state : State} (h : getState rows session (some u) = some state) :
    SessionOf rows session u := by
  simp only [getState] at h
  split at h
  · cases h
  · rename_i row hrow
    split at h
    · cases h
    · rename_i hu
      exact ⟨row, hrow, by simpa using hu⟩

theorem saveState_owner {rows rows' : List (SessionRow State)} {session session' : SessionId}
    {u : UserId} {user : Option UserId} {state : State} {persisted : Bool}
    (h : saveState rows session' user state persisted = some rows')
    (hs : SessionOf rows session u) : SessionOf rows' session u := by
  obtain ⟨r, hr, hu⟩ := hs
  simp only [saveState] at h
  split at h
  · split at h
    · cases h
      have hl := lookup_updateWhere SessionRow.sessionId session
        (fun r : SessionRow State => r.belongs session' user) (fun r => { r with state := state })
        (fun _ => rfl) rows
      rw [hr, Option.map_some] at hl
      refine ⟨_, hl, ?_⟩
      split <;> exact hu
    · cases h
  · split at h
    · cases h
    · cases h
      refine ⟨r, ?_, hu⟩
      simp only [lookup, List.find?_append] at hr ⊢
      rw [hr, Option.some_or]

/-- What the steps of the other callers leave to a caller under way. -/
structure Grows (x y : World Req State View) : Prop where
  clock : x.clock ≤ y.clock
  progress : ∀ id, x.progress.published id ≤ y.progress.published id
  views : ∀ session, x.views.published session ≤ y.views.published session
  owned : ∀ id user, OwnedBy x.tasks id user → OwnedBy y.tasks id user
  sessions : ∀ session user, SessionOf x.sessions session user → SessionOf y.sessions session user

theorem Grows.refl (x : World Req State View) : Grows x x :=
  ⟨Nat.le_refl _, fun _ => Nat.le_refl _, fun _ => Nat.le_refl _, fun _ _ h => h, fun _ _ h => h⟩

/-- What a caller knows at each point. -/
def Good (x : World Req State View) : Pc Req View → Prop
  | .taskLookup id _ floor => floor ≤ x.progress.published id
  | .taskMissed _ _ floor => floor ≤ x.clock
  | .taskFilling floor snap =>
    floor ≤ snap.stamp ∧ OwnedBy x.tasks snap.value.taskId snap.value.userId
  | .caching _ snap =>
    snap.stamp ≤ x.clock ∧ OwnedBy x.tasks snap.value.taskId snap.value.userId
  | .returning id stamp => stamp ≤ x.progress.published id
  | .viewLookup _ session floor => floor ≤ x.views.published session
  | .viewMissed _ _ floor => floor ≤ x.clock
  | .viewFilling user session floor snap =>
    floor ≤ snap.stamp ∧ SessionOf x.sessions session user
  | .confirming user session => SessionOf x.sessions session user
  | .evicting user session stamp => stamp ≤ x.clock ∧ SessionOf x.sessions session user
  | .closing session stamp => stamp ≤ x.views.published session
  | .taskRead floor snap => floor ≤ snap.stamp
  | .viewRead floor snap => floor ≤ snap.stamp
  | .idle => True

theorem Good.grows {x y : World Req State View} {pc : Pc Req View} (h : Good x pc)
    (hg : Grows x y) : Good y pc := by
  cases pc with
  | idle => trivial
  | taskLookup id user floor => exact Nat.le_trans h (hg.progress id)
  | taskMissed id user floor => exact Nat.le_trans h hg.clock
  | taskFilling floor snap => exact ⟨h.1, hg.owned _ _ h.2⟩
  | taskRead floor snap => exact h
  | caching update snap => exact ⟨Nat.le_trans h.1 hg.clock, hg.owned _ _ h.2⟩
  | returning id stamp => exact Nat.le_trans h (hg.progress id)
  | viewLookup user session floor => exact Nat.le_trans h (hg.views session)
  | viewMissed user session floor => exact Nat.le_trans h hg.clock
  | viewFilling user session floor snap => exact ⟨h.1, hg.sessions _ _ h.2⟩
  | viewRead floor snap => exact h
  | confirming user session => exact hg.sessions _ _ h
  | evicting user session stamp => exact ⟨Nat.le_trans h.1 hg.clock, hg.sessions _ _ h.2⟩
  | closing session stamp => exact Nat.le_trans h (hg.views session)

/-- The tables and the cached snapshots fit together: a cell is filed under the owner
of its subject, so each subject has one cell at most. -/
structure Filed (x : World Req State View) : Prop where
  wellFormed : WellFormed x.tasks
  progress : ReadCache.Sound Prod.snd x.progress x.clock
  views : ReadCache.Sound Prod.snd x.views x.clock
  held : ∀ k s, x.progress.cells k = some s → OwnedBy x.tasks k.2 k.1
  seen : ∀ k s, x.views.cells k = some s → SessionOf x.sessions k.2 k.1

structure Sound (x : World Req State View) : Prop extends Filed x where
  callers : ∀ a, Good x (x.pcs a)

theorem start_sound : Sound (World.start : World Req State View) := by
  refine ⟨⟨empty_wellFormed, empty_sound _, empty_sound _, ?_, ?_⟩, fun _ => trivial⟩
  · intro k s h
    cases h
  · intro k s h
    cases h

theorem goto_grows (x : World Req State View) (a : Nat) (pc : Pc Req View) : Grows x (x.goto a pc) :=
  ⟨Nat.le_refl _, fun _ => Nat.le_refl _, fun _ => Nat.le_refl _, fun _ _ h => h, fun _ _ h => h⟩

/-- A step that moves one caller. -/
theorem goto_sound {x y : World Req State View} (hx : Sound x) (hy : Filed y) (hg : Grows x y)
    (hp : y.pcs = x.pcs) {a : Nat} {pc : Pc Req View} (hpc : Good y pc) : Sound (y.goto a pc) := by
  refine ⟨⟨hy.wellFormed, hy.progress, hy.views, hy.held, hy.seen⟩, ?_⟩
  intro d
  by_cases hd : d = a
  · subst hd
    simp only [World.goto, Function.update_self]
    exact hpc.grows (goto_grows y d pc)
  · have hpd : (y.goto a pc).pcs d = x.pcs d := by
      simp only [World.goto, Function.update_of_ne hd, hp]
    rw [hpd]
    exact ((hx.callers d).grows hg).grows (goto_grows y a pc)

theorem move_sound {x : World Req State View} (hx : Sound x) {a : Nat} {pc : Pc Req View}
    (hpc : Good x pc) : Sound (x.goto a pc) :=
  goto_sound hx hx.toFiled (Grows.refl x) rfl hpc

/-- A snapshot of a task is filed under its owner. -/
theorem fill_filed {x : World Req State View} (hx : Filed x) {snap : Snap (TripPlanningTask Req)}
    (howned : OwnedBy x.tasks snap.value.taskId snap.value.userId)
    (hcur : x.progress.published snap.value.taskId ≤ snap.stamp) :
    Filed { x with progress := x.progress.put (cacheKey snap.value) snap } := by
  refine ⟨hx.wellFormed, put_sound hx.progress hcur, hx.views, ?_, hx.seen⟩
  intro k s hk
  obtain ⟨rfl, _⟩ | hk := put_cells hk
  · exact howned
  · exact hx.held k s hk

/-- After the write of an update, the only cell of the task is the one just written. -/
theorem publish_filed {x : World Req State View} (hx : Filed x)
    {snap : Snap (TripPlanningTask Req)}
    (howned : OwnedBy x.tasks snap.value.taskId snap.value.userId)
    (hcur : x.progress.published snap.value.taskId ≤ snap.stamp) (hpast : snap.stamp ≤ x.clock) :
    Filed { x with
      progress := (x.progress.put (cacheKey snap.value) snap).publish snap.value.taskId
        snap.stamp } := by
  have hf := fill_filed hx howned hcur
  refine ⟨hx.wellFormed, publish_sound hf.progress hpast ?_, hx.views, hf.held, hx.seen⟩
  intro k s hk hid
  have hown := owned_unique (hid ▸ hf.held k s hk) howned
  have hkey : k = cacheKey snap.value := Prod.ext hown hid
  subst hkey
  simp only [Tier.put, Function.update_self, Option.some.injEq] at hk
  subst hk
  exact Nat.le_refl _

theorem evict_filed {x : World Req State View} (hx : Filed x) {user : UserId}
    {session : SessionId} {stamp : Nat} (howner : SessionOf x.sessions session user)
    (hpast : stamp ≤ x.clock) :
    Filed { x with views := (x.views.evict (user, session)).publish session stamp } := by
  refine ⟨hx.wellFormed, hx.progress, publish_sound (evict_sound hx.views _) hpast ?_, hx.held, ?_⟩
  · intro k s hk hid
    obtain ⟨hne, hold⟩ := evict_cells hk
    have hown := sessionOf_unique (hid ▸ hx.seen k s hold) howner
    exact absurd (Prod.ext hown hid) hne
  · intro k s hk
    exact hx.seen k s (evict_cells hk).2

theorem view_filed {x : World Req State View} (hx : Filed x) {user : UserId} {session : SessionId}
    {snap : Snap View} (howner : SessionOf x.sessions session user)
    (hcur : x.views.published session ≤ snap.stamp) :
    Filed { x with views := x.views.put (user, session) snap } := by
  refine ⟨hx.wellFormed, hx.progress, put_sound hx.views hcur, hx.held, ?_⟩
  intro k s hk
  obtain ⟨rfl, _⟩ | hk := put_cells hk
  · exact howner
  · exact hx.seen k s hk

/-- A read that finds a cell gets a snapshot no older than what had returned when it started. -/
theorem hit_floor {κ ι α : Type} {about : κ → ι} {t : Tier κ ι α} {clock floor : Nat}
    (h : ReadCache.Sound about t clock) {k : κ} {s : Snap α} (hk : t.cells k = some s)
    (hf : floor ≤ t.published (about k)) : floor ≤ s.stamp :=
  Nat.le_trans hf (h.fresh k s hk)

theorem call_sound {b : Backend} {c : Codec Req} {x : World Req State View} (hx : Sound x) (a : Nat)
    (op : Op Req) (clock : Readings) : Sound (x.call b c a op clock) := by
  have hg : Grows x { x with tasks := (exec b c x.tasks op clock).2, clock := x.clock + 1 } :=
    ⟨Nat.le_succ _, fun _ => Nat.le_refl _, fun _ => Nat.le_refl _,
      fun _ _ h => owned_exec b c hx.wellFormed op clock h, fun _ _ h => h⟩
  have hfiled : Filed { x with tasks := (exec b c x.tasks op clock).2, clock := x.clock + 1 } :=
    ⟨exec_wellFormed b c hx.wellFormed op clock, later_sound hx.progress (Nat.le_succ _),
      later_sound hx.views (Nat.le_succ _), fun k s hk => hg.owned _ _ (hx.held k s hk), hx.seen⟩
  refine goto_sound hx hfiled hg rfl ?_
  cases ht : cachedTask op (exec b c x.tasks op clock).1 with
  | none => trivial
  | some t => exact ⟨Nat.le_refl _, cachedTask_owned b c hx.wellFormed ht⟩

theorem save_grows {x : World Req State View} {session : SessionId} {user : Option UserId}
    {state : State} {persisted : Bool} {rows : List (SessionRow State)}
    (h : saveState x.sessions session user state persisted = some rows) : Grows x (x.save rows) :=
  ⟨Nat.le_succ _, fun _ => Nat.le_refl _, fun _ => Nat.le_refl _, fun _ _ h => h,
    fun _ _ hs => saveState_owner h hs⟩

theorem save_filed {x : World Req State View} (hx : Filed x) {session : SessionId}
    {user : Option UserId} {state : State} {persisted : Bool} {rows : List (SessionRow State)}
    (h : saveState x.sessions session user state persisted = some rows) : Filed (x.save rows) :=
  ⟨hx.wellFormed, later_sound hx.progress (Nat.le_succ _), later_sound hx.views (Nat.le_succ _),
    hx.held, fun k s hk => saveState_owner h (hx.seen k s hk)⟩

theorem proceed_sound {b : Backend} {fromAgentState : State → View} {x y : World Req State View}
    {a : Nat} (hx : Sound x) (hok : CurrentWrite x (.proceed a))
    (h : x.proceed b fromAgentState a = some y) : Sound y := by
  have hgood := hx.callers a
  simp only [World.proceed] at h
  simp only [CurrentWrite] at hok
  cases hpc : x.pcs a with
  | idle => rw [hpc] at h; cases h
  | confirming user session => rw [hpc] at h; cases h
  | taskRead floor snap =>
    rw [hpc] at h
    cases h
    exact move_sound hx trivial
  | viewRead floor snap =>
    rw [hpc] at h
    cases h
    exact move_sound hx trivial
  | taskLookup id user floor =>
    simp only [hpc] at h hgood
    split at h
    · rename_i snap hcell
      cases h
      exact move_sound hx (hit_floor hx.progress hcell hgood)
    · cases h
      exact move_sound hx (Nat.le_trans hgood (hx.progress.past id))
  | taskMissed id user floor =>
    simp only [hpc] at h hgood
    split at h
    · rename_i t ht
      cases h
      exact move_sound hx ⟨hgood, (getTask_owned hx.wellFormed ht).2⟩
    · cases h
      exact move_sound hx trivial
  | taskFilling floor snap =>
    simp only [hpc] at h hgood
    simp only [hpc, writesCurrent, decide_eq_true_eq] at hok
    cases h
    exact goto_sound hx (fill_filed hx.toFiled hgood.2 hok) ⟨Nat.le_refl _, fun _ => Nat.le_refl _,
      fun _ => Nat.le_refl _, fun _ _ h => h, fun _ _ h => h⟩ rfl hgood.1
  | caching update snap =>
    simp only [hpc] at h hgood
    simp only [hpc, writesCurrent, decide_eq_true_eq] at hok
    split at h
    · cases h
      refine goto_sound hx (publish_filed hx.toFiled hgood.2 hok hgood.1) ⟨Nat.le_refl _,
        publish_grows _ _ _, fun _ => Nat.le_refl _, fun _ _ h => h, fun _ _ h => h⟩ rfl ?_
      simp only [Good, publish_self]
      exact Nat.le_max_right _ _
    · cases h
      exact goto_sound hx (fill_filed hx.toFiled hgood.2 hok) ⟨Nat.le_refl _,
        fun _ => Nat.le_refl _, fun _ => Nat.le_refl _, fun _ _ h => h, fun _ _ h => h⟩ rfl trivial
  | returning id stamp =>
    simp only [hpc] at h hgood
    cases h
    exact goto_sound (y := { x with progress := x.progress.finish id stamp }) hx
      ⟨hx.wellFormed, finish_sound hx.progress hgood, hx.views, hx.held, hx.seen⟩ ⟨Nat.le_refl _,
        fun _ => Nat.le_refl _, fun _ => Nat.le_refl _, fun _ _ h => h, fun _ _ h => h⟩ rfl trivial
  | viewLookup user session floor =>
    simp only [hpc] at h hgood
    split at h
    · rename_i snap hcell
      cases h
      exact move_sound hx (hit_floor hx.views hcell hgood)
    · cases h
      exact move_sound hx (Nat.le_trans hgood (hx.views.past session))
  | viewMissed user session floor =>
    simp only [hpc] at h hgood
    split at h
    · rename_i state hstate
      cases h
      exact move_sound hx ⟨hgood, getState_owner hstate⟩
    · cases h
      exact move_sound hx trivial
  | viewFilling user session floor snap =>
    simp only [hpc] at h hgood
    simp only [hpc, writesCurrent, decide_eq_true_eq] at hok
    cases h
    exact goto_sound hx (view_filed hx.toFiled hgood.2 hok) ⟨Nat.le_refl _, fun _ => Nat.le_refl _,
      fun _ => Nat.le_refl _, fun _ _ h => h, fun _ _ h => h⟩ rfl hgood.1
  | evicting user session stamp =>
    simp only [hpc] at h hgood
    cases h
    refine goto_sound hx (evict_filed hx.toFiled hgood.2 hgood.1) ⟨Nat.le_refl _,
      fun _ => Nat.le_refl _, publish_grows _ _ _, fun _ _ h => h, fun _ _ h => h⟩ rfl ?_
    simp only [Good, publish_self]
    exact Nat.le_max_right _ _
  | closing session stamp =>
    simp only [hpc] at h hgood
    cases h
    exact goto_sound (y := { x with views := x.views.finish session stamp }) hx
      ⟨hx.wellFormed, hx.progress, finish_sound hx.views hgood, hx.held, hx.seen⟩ ⟨Nat.le_refl _,
        fun _ => Nat.le_refl _, fun _ => Nat.le_refl _, fun _ _ h => h, fun _ _ h => h⟩ rfl trivial

theorem step_sound {b : Backend} {c : Codec Req} {fromAgentState : State → View}
    {x y : World Req State View} {label : Label Req State} (hx : Sound x)
    (hok : CurrentWrite x label) (h : step b c fromAgentState x label = some y) : Sound y := by
  cases label with
  | call a op clock =>
    simp only [step] at h
    split at h
    · cases h
      exact call_sound hx a op clock
    · cases h
  | readTask a id user =>
    simp only [step] at h
    split at h
    · cases h
      exact move_sound hx (hx.progress.settled id)
    · cases h
  | readView a user session =>
    simp only [step] at h
    split at h
    · cases h
      exact move_sound hx (hx.views.settled session)
    · cases h
  | confirm a user session =>
    simp only [step] at h
    split at h
    · rename_i state hstate
      cases h
      exact move_sound hx (getState_owner hstate)
    · cases h
      exact hx
    · cases h
  | confirmed a outcome =>
    have hgood := hx.callers a
    simp only [step] at h
    split at h
    · rename_i user session hpc
      rw [hpc] at hgood
      split at h
      · rename_i rows hrows
        cases h
        obtain ⟨state, _, hsave⟩ := Option.bind_eq_some_iff.mp hrows
        exact goto_sound hx (save_filed hx.toFiled hsave) (save_grows hsave) rfl
          ⟨Nat.le_refl _, saveState_owner hsave hgood⟩
      · cases h
        exact move_sound hx trivial
    · cases h
  | checkpoint session user state persisted =>
    simp only [step] at h
    split at h
    · rename_i rows hrows
      cases h
      exact ⟨save_filed hx.toFiled hrows, fun a => (hx.callers a).grows (save_grows hrows)⟩
    · cases h
      exact hx
  | proceed a => exact proceed_sound hx hok h
  | abort a =>
    cases h
    exact move_sound hx trivial

theorem sound_neverBackwards {x : World Req State View} (hx : Sound x) : NeverBackwards x := by
  intro a
  have hgood := hx.callers a
  cases hpc : x.pcs a with
  | taskRead floor snap =>
    rw [hpc] at hgood
    exact decide_eq_false (Nat.not_lt.mpr hgood)
  | viewRead floor snap =>
    rw [hpc] at hgood
    exact decide_eq_false (Nat.not_lt.mpr hgood)
  | _ => rfl

/-- While nobody puts an older snapshot back over an update, no read goes behind an update
that had returned before it. -/
theorem current_writes_read_forward (b : Backend) (c : Codec Req) (fromAgentState : State → View)
    {labels : List (Label Req State)}
    (h : Along (step b c fromAgentState) CurrentWrite World.start labels) :
    Always (step b c fromAgentState) NeverBackwards World.start labels :=
  always_of_along (fun _ _ _ => step_sound) (fun _ => sound_neverBackwards) start_sound h

def atSecond (n : Nat) : Readings := ⟨n * 1000000, n * 1000000, n * 1000000⟩

/-- Task `t1` of user `u1` is created by the first caller and claimed by the second. -/
def underWay : List (Label Unit Nat) :=
  [.call 0 (.createTask () "key" (some "u1") "t1" "s1") (atSecond 1), .proceed 0,
    .call 1 (.claimNext "w1" 60000000 []) (atSecond 2), .proceed 1]

/-- The cancellation is cached before the worker ends the task, then the user polls. -/
def timelyCancel : List (Label Unit Nat) :=
  underWay ++ [.call 2 (.requestCancel "t1" (some "u1")) (atSecond 3), .proceed 2, .proceed 2,
    .call 1 (.markSucceeded "t1" "w1" "s1") (atSecond 4), .proceed 1, .proceed 1,
    .readTask 3 "t1" (some "u1"), .proceed 3]

def plainStep : World Unit Nat Nat → Label Unit Nat → Option (World Unit Nat Nat) :=
  step .mysql TaskLedger.plainCodec fun n => n

theorem timely_cancel_reads_forward :
    Always plainStep NeverBackwards World.start timelyCancel :=
  current_writes_read_forward .mysql TaskLedger.plainCodec (fun n => n) (by decide +kernel)

/-- The cancellation commits before the worker ends the task and is cached after it. -/
def lateCancel : List (Label Unit Nat) :=
  underWay ++ [.call 2 (.requestCancel "t1" (some "u1")) (atSecond 3),
    .call 1 (.markSucceeded "t1" "w1" "s1") (atSecond 4), .proceed 1, .proceed 1, .proceed 2,
    .proceed 2, .readTask 3 "t1" (some "u1"), .proceed 3]

/-- A reader takes the state before a confirmation and files its view after the eviction. -/
def lateView : List (Label Unit Nat) :=
  [.checkpoint "s1" (some "u1") 1 false, .readView 0 "u1" "s1", .proceed 0, .proceed 0,
    .confirm 1 "u1" "s1", .confirmed 1 (some 2), .proceed 1, .proceed 1, .proceed 0,
    .readView 2 "u1" "s1", .proceed 2]

def shownStatus : Pc Req View → Option TaskStatus
  | .taskRead _ snap => some snap.value.status
  | _ => none

theorem not_always_of_backwards {labels : List (Label Unit Nat)} {a : Nat}
    (h : (run plainStep World.start labels).any (fun x => backwards (x.pcs a)) = true) :
    ¬ Always plainStep NeverBackwards World.start labels := by
  intro hall
  obtain ⟨x, hx, hback⟩ := (Option.any_eq_true _ _).mp h
  have hforward := always_last hall hx a
  rw [hback] at hforward
  cases hforward

/-- Once the call that ended the task has returned, the user still reads `running`; once
the confirmation has returned, the user still gets the view of the former plan. -/
theorem older_snapshots_put_back :
    ¬ Always plainStep NeverBackwards World.start lateCancel ∧
      (run plainStep World.start lateCancel).map (fun x =>
        (shownStatus (x.pcs 3), (x.tasks.taskOf "t1").map (·.status))) =
        some (some .running, some .succeeded) ∧
      ¬ Always plainStep NeverBackwards World.start lateView :=
  ⟨not_always_of_backwards (a := 3) (by decide +kernel), by decide +kernel,
    not_always_of_backwards (a := 2) (by decide +kernel)⟩

end TravelAgent.CacheFreshness
