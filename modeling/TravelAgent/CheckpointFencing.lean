import TravelAgent.WorkerTurns

namespace TravelAgent.CheckpointFencing

open TravelAgent.Leasing TravelAgent.Rows TravelAgent.TaskRecord TravelAgent.TaskStore
open TravelAgent.TaskOps TravelAgent.TaskMoves TravelAgent.TaskView
open TravelAgent.TaskLedger hiding step
open TravelAgent.TaskFencing TravelAgent.WorkerRun TravelAgent.WorkerTurns TravelAgent.Transition
open TravelAgent.MysqlTaskStore (Codec assertWorkerOwnsTask)

variable {Req Body : Type}

/-- The claims that were granted after the worker last passed the ownership check. -/
def World.sinceCheck (x : World Req Body) (w : WorkerId) : List (TaskId × WorkerId) :=
  x.ledger.claims.take (x.ledger.claims.length - x.marks w)

/-- A worker writes to the session store only while nobody else has claimed its
task since its last ownership check. -/
def NoTakeover (x : World Req Body) : Label Req Body → Prop
  | .save w =>
    match (x.pcs w).job with
    | none => True
    | some job => ∀ p ∈ World.sinceCheck x w, p.1 = job.taskId → p.2 = w
  | _ => True

instance (x : World Req Body) (label : Label Req Body) : Decidable (NoTakeover x label) := by
  cases label with
  | save w =>
    simp only [NoTakeover]
    split
    · exact instDecidableTrue
    · infer_instance
  | _ => exact instDecidableTrue

def Next.persisted : Next Body → Option Bool
  | .load => none
  | .decide st | .start st | .act st | .save st _ | .stepDone st _ | .succeed st => some st.persisted

/-- The mark of the state that a worker holds in memory. -/
def Pc.persisted : Pc Body → Option Bool
  | .asserting _ k | .polling _ k => Next.persisted k
  | .looping _ st | .deciding _ st | .starting _ st | .preparing _ st | .acting _ st
  | .leaseCheck _ st _ | .saving _ st _ | .completing _ st _ | .marking _ st => some st.persisted
  | .relabeling _ _ => some true
  | .idle | .loading _ | .aborting _ | .cancelling _ | .closing _ => none

/-- Between a passed ownership check and the write that follows it. -/
def Pc.window : Pc Body → Bool
  | .polling _ _ | .saving _ _ _ | .cancelling _ | .relabeling _ _ => true
  | _ => false

structure Good (x : World Req Body) (w : WorkerId) (pc : Pc Body) : Prop where
  known : ∀ job, pc.job = some job →
    ∃ t, x.ledger.store.taskOf job.taskId = some t ∧ t.sessionId = job.sessionId
  checked : ∀ job, pc.job = some job → Pc.window pc = true →
    lastClaim (x.ledger.claims.drop (x.ledger.claims.length - x.marks w)) job.taskId = some w
  saved : ∀ job, pc.job = some job → Pc.persisted pc = some true →
    (x.sessions job.sessionId).isSome = true
  unsaved : ∀ job, pc.job = some job → Pc.persisted pc = some false →
    lastClaim x.ledger.claims job.taskId = some w → x.sessions job.sessionId = none

structure Sound (x : World Req Body) : Prop where
  fenced : Fenced x.ledger
  marks : ∀ w, x.marks w ≤ x.ledger.claims.length
  good : ∀ w, Good x w (x.pcs w)
  kept : x.overwritten = false ∧ x.rejected = false

theorem good_idle (x : World Req Body) (w : WorkerId) : Good x w .idle :=
  ⟨nofun, nofun, nofun, nofun⟩

theorem start_sound : Sound (World.start : World Req Body) :=
  ⟨start_fenced, fun _ => Nat.le_refl 0, fun w => good_idle _ w, rfl, rfl⟩

theorem goods_update {x : World Req Body} {pcs : WorkerId → Pc Body} {w : WorkerId} {pc : Pc Body}
    (hw : Good x w pc) (ho : ∀ v, v ≠ w → Good x v (pcs v)) (v : WorkerId) :
    Good x v (Function.update pcs w pc v) := by
  by_cases hv : v = w
  · subst hv
    rw [Function.update_self]
    exact hw
  · rw [Function.update_of_ne hv]
    exact ho v hv

theorem drop_made {made claims : List (TaskId × WorkerId)} {m : Nat} (h : m ≤ claims.length) :
    (made ++ claims).drop ((made ++ claims).length - m) = claims.drop (claims.length - m) := by
  have hlen : (made ++ claims).length - m = made.length + (claims.length - m) := by
    rw [List.length_append]
    omega
  rw [hlen, List.drop_append, List.drop_eq_nil_of_le (Nat.le_add_right _ _), List.nil_append,
    Nat.add_sub_cancel_left]

/-- A worker's picture survives whatever leaves its checks and its session alone. -/
theorem good_frame {x y : World Req Body} {w : WorkerId} {pc : Pc Body} (h : Good x w pc)
    (hmarks : x.marks w ≤ x.ledger.claims.length)
    (hknown : ∀ id t, x.ledger.store.taskOf id = some t →
      ∃ t', y.ledger.store.taskOf id = some t' ∧ t'.sessionId = t.sessionId)
    {m : List (TaskId × WorkerId)} (hclaims : y.ledger.claims = m ++ x.ledger.claims)
    (hmade : ∀ p ∈ m, p.2 ≠ w) (hm : y.marks w = x.marks w) (hs : y.sessions = x.sessions) :
    Good y w pc := by
  refine ⟨?_, ?_, ?_, ?_⟩
  · intro job hj
    obtain ⟨t, ht, hsid⟩ := h.known job hj
    obtain ⟨t', ht', hs'⟩ := hknown job.taskId t ht
    exact ⟨t', ht', hs'.trans hsid⟩
  · rw [hclaims, hm, drop_made hmarks]
    exact h.checked
  · rw [hs]
    exact h.saved
  · intro job hj hp hlast
    rw [hclaims] at hlast
    rw [hs]
    exact h.unsaved job hj hp (lastClaim_of_append hlast fun hmem => hmade _ hmem rfl)

theorem good_drift {x y : World Req Body} {w : WorkerId} {pc : Pc Body} (h : Good x w pc)
    (hmarks : x.marks w ≤ x.ledger.claims.length) (hd : Drift x.ledger y.ledger)
    (hm : y.marks w = x.marks w) (hs : y.sessions = x.sessions) : Good y w pc := by
  refine good_frame (m := []) h hmarks ?_ hd.claims nofun hm hs
  intro id t ht
  obtain ⟨t', ht', hsid, _⟩ := hd.kept id t ht
  exact ⟨t', ht', hsid⟩

/-- The later position promises nothing that the earlier one did not. -/
structure Narrows (pc pc' : Pc Body) : Prop where
  job : pc'.job = pc.job ∨ pc'.job = none
  persisted : Pc.persisted pc' = Pc.persisted pc ∨ Pc.persisted pc' = none
  window : Pc.window pc' = true → Pc.window pc = true

theorem good_narrow {x : World Req Body} {w : WorkerId} {pc pc' : Pc Body} (h : Good x w pc)
    (hn : Narrows pc pc') : Good x w pc' := by
  have hj : ∀ job, pc'.job = some job → pc.job = some job := by
    intro job hjob
    obtain hsame | hnone := hn.job
    · exact hsame.symm.trans hjob
    · cases hnone.symm.trans hjob
  have hp : ∀ b, Pc.persisted pc' = some b → Pc.persisted pc = some b := by
    intro b hb
    obtain hsame | hnone := hn.persisted
    · exact hsame.symm.trans hb
    · cases hnone.symm.trans hb
  refine ⟨?_, ?_, ?_, ?_⟩
  · exact fun job hjob => h.known job (hj job hjob)
  · exact fun job hjob hwin => h.checked job (hj job hjob) (hn.window hwin)
  · exact fun job hjob hper => h.saved job (hj job hjob) (hp true hper)
  · exact fun job hjob hper => h.unsaved job (hj job hjob) (hp false hper)

theorem narrows_keep {pc pc' : Pc Body} (hj : pc'.job = pc.job)
    (hp : Pc.persisted pc' = Pc.persisted pc) (hw : Pc.window pc' = false) : Narrows pc pc' :=
  ⟨Or.inl hj, Or.inl hp, fun h => by rw [hw] at h; cases h⟩

theorem narrows_abort {pc : Pc Body} {job : Job} (hj : pc.job = some job) :
    Narrows pc (.aborting job) :=
  ⟨Or.inl hj.symm, Or.inr rfl, nofun⟩

theorem choose_narrows {pc pc' : Pc Body} {choice : Choice Body}
    (h : choose pc choice = some pc') : Narrows pc pc' := by
  cases pc with
  | looping job st =>
    cases choice <;> simp only [choose, reduceCtorEq] at h
    · split at h <;> cases h <;> exact narrows_keep rfl rfl rfl
    · split at h <;> cases h
      exact narrows_keep rfl rfl rfl
  | deciding job st =>
    cases choice <;> simp only [choose, reduceCtorEq, Option.some.injEq] at h <;> subst h
    · exact narrows_keep rfl rfl rfl
    · exact narrows_keep rfl rfl rfl
    · exact narrows_abort rfl
  | preparing job st =>
    cases choice <;> simp only [choose, reduceCtorEq, Option.some.injEq] at h <;> subst h
    · exact narrows_keep rfl rfl rfl
    · exact narrows_keep rfl rfl rfl
  | acting job st =>
    by_cases hf : st.state.finished = true
    · cases choice <;> simp only [choose, hf, ↓reduceIte, reduceCtorEq, Option.some.injEq] at h
      all_goals
        subst h
        exact narrows_keep rfl rfl rfl
    · cases choice <;>
        simp only [choose, hf, Bool.false_eq_true, ↓reduceIte, reduceCtorEq, Option.some.injEq] at h
      all_goals
        subst h
        exact narrows_keep rfl rfl rfl
  | _ => simp only [choose, reduceCtorEq] at h

theorem inStep_persisted {k : Next Body} {st : Local Body} (h : k.inStep = some st) :
    Next.persisted k = some st.persisted := by
  cases k with
  | act q =>
    cases h
    rfl
  | save q after => cases after <;> cases h <;> rfl
  | _ => cases h

theorem escape_narrows {pc out : Pc Body} {k : Next Body} {job : Job} (hj : pc.job = some job)
    (hp : Pc.persisted pc = Next.persisted k) (ho : Narrows pc out) :
    Narrows pc (k.escape job out) := by
  simp only [Next.escape]
  cases hk : k.inStep with
  | none => exact ho
  | some st => exact narrows_keep hj.symm ((inStep_persisted hk).symm.trans hp.symm) rfl

theorem enter_narrows (job : Job) (k : Next Body) : Narrows (.polling job k) (k.enter job) := by
  cases k with
  | load => exact narrows_keep rfl rfl rfl
  | decide st => exact narrows_keep rfl rfl rfl
  | start st => exact narrows_keep rfl rfl rfl
  | act st => exact narrows_keep rfl rfl rfl
  | save st after => exact ⟨Or.inl rfl, Or.inl rfl, fun _ => rfl⟩
  | stepDone st raised =>
    cases raised with
    | false => exact narrows_keep rfl rfl rfl
    | true => exact narrows_abort rfl
  | succeed st => exact narrows_keep rfl rfl rfl

theorem loaded_good {x : World Req Body} {w : WorkerId} {job : Job}
    (h : Good x w (.loading job)) (fresh : Body) :
    Good x w (loaded job (x.sessions job.sessionId) fresh) := by
  have hknown := h.known job rfl
  cases hs : x.sessions job.sessionId with
  | none =>
    refine ⟨?_, nofun, nofun, ?_⟩
    · rintro _ ⟨⟩
      exact hknown
    · rintro _ ⟨⟩ _ _
      exact hs
  | some state =>
    have hsome : (x.sessions job.sessionId).isSome = true := by
      rw [hs]
      rfl
    simp only [loaded]
    split
    · refine ⟨?_, nofun, ?_, nofun⟩
      · rintro _ ⟨⟩
        exact hknown
      · rintro _ ⟨⟩ _
        exact hsome
    · refine ⟨?_, nofun, ?_, nofun⟩
      · rintro _ ⟨⟩
        exact hknown
      · rintro _ ⟨⟩ _
        exact hsome

theorem hop_good {x : World Req Body} {w : WorkerId} {pc pc' : Pc Body} (h : Good x w pc)
    (hop : Hop x pc pc') : Good x w pc' := by
  cases hop with
  | stopped => exact good_idle x w
  | entered job k => exact good_narrow h (enter_narrows job k)
  | noticed job k =>
    exact good_narrow h (escape_narrows rfl rfl ⟨Or.inl rfl, Or.inr rfl, fun _ => rfl⟩)
  | unread job k => exact good_narrow h (escape_narrows rfl rfl (narrows_abort rfl))
  | lost job k => exact good_narrow h (escape_narrows rfl rfl (narrows_abort rfl))
  | dropped job st raised => exact good_narrow h (narrows_abort rfl)
  | loaded job fresh => exact loaded_good h fresh
  | chosen _ _ choice hc => exact good_narrow h (choose_narrows hc)
  | started job st => exact good_narrow h (narrows_keep rfl rfl rfl)
  | unstarted job st => exact good_narrow h (narrows_abort rfl)
  | completed job st raised => exact good_narrow h (narrows_keep rfl rfl rfl)
  | uncompleted job st raised => exact good_narrow h (narrows_abort rfl)
  | unmarked job st => exact good_narrow h (narrows_abort rfl)
  | absent job hnone => exact good_narrow h ⟨Or.inl rfl, Or.inl rfl, nofun⟩

/-- No two tasks share a session. -/
theorem session_unique {s : Store Req} (hs : WellFormed s) {id id' : TaskId}
    {t t' : TripPlanningTask Req} (ht : s.taskOf id = some t) (ht' : s.taskOf id' = some t')
    (h : t.sessionId = t'.sessionId) : id = id' := by
  obtain ⟨r, hr, rfl⟩ := taskOf_some ht
  obtain ⟨r', hr', rfl⟩ := taskOf_some ht'
  obtain ⟨hm, rfl⟩ := lookup_mem hr
  obtain ⟨hm', rfl⟩ := lookup_mem hr'
  have hsid : r.sessionId = r'.sessionId := by
    rw [hs.coherent r hm, hs.coherent r' hm']
    exact h
  rw [List.inj_on_of_nodup_map hs.sessions hm hm' hsid]

theorem save_claimer {x : World Req Body} (hx : Sound x) {w : WorkerId} {job : Job}
    (hjob : (x.pcs w).job = some job) (hwin : Pc.window (x.pcs w) = true)
    (hno : NoTakeover x (.save w)) : lastClaim x.ledger.claims job.taskId = some w := by
  simp only [NoTakeover, hjob] at hno
  have h := lastClaim_append_own ((hx.good w).checked job hjob hwin) hno
  rwa [World.sinceCheck, List.take_append_drop] at h

/-- A save of the last claimer succeeds and keeps every worker's picture. -/
theorem save_sound [DecidableEq Body] {x : World Req Body} (hx : Sound x) {w : WorkerId} {job : Job}
    {st : Local Body} {ok f : Pc Body} (hjob : (x.pcs w).job = some job)
    (hwin : Pc.window (x.pcs w) = true) (hper : Pc.persisted (x.pcs w) = some st.persisted)
    (hno : NoTakeover x (.save w)) (hok : ok.job = some job ∨ ok.job = none)
    (hokper : Pc.persisted ok = some true ∨ Pc.persisted ok = none)
    (hokwin : Pc.window ok = false) :
    Sound (x.saveState w job st ok f) ∧
      (x.saveState w job st ok f).pcs = Function.update x.pcs w ok ∧
      (x.saveState w job st ok f).sessions =
        Function.update x.sessions job.sessionId (some st.state) := by
  have hlast := save_claimer hx hjob hwin hno
  have hstale : (lastClaim x.ledger.claims job.taskId != some w) = false := by simp [hlast]
  have hstored : (x.sessions job.sessionId).isSome = st.persisted := by
    cases hp : st.persisted with
    | true => exact (hx.good w).saved job hjob (by rw [hper, hp])
    | false =>
      rw [(hx.good w).unsaved job hjob (by rw [hper, hp]) hlast]
      rfl
  simp only [World.saveState, hstored, ↓reduceIte, hstale, Bool.false_and, Bool.or_false, and_true]
  refine ⟨hx.fenced, hx.marks, ?_, hx.kept⟩
  refine goods_update ⟨?_, ?_, ?_, ?_⟩ ?_
  · intro j hj
    obtain hsame | hnone := hok
    · cases hsame.symm.trans hj
      exact (hx.good w).known job hjob
    · cases hnone.symm.trans hj
  · intro j _ hw
    rw [hokwin] at hw
    cases hw
  · intro j hj _
    obtain hsame | hnone := hok
    · cases hsame.symm.trans hj
      simp only [Function.update_self, Option.isSome_some]
    · cases hnone.symm.trans hj
  · intro j _ hp
    obtain h | h := hokper
    · cases h.symm.trans hp
    · cases h.symm.trans hp
  · intro v hv
    have hg := hx.good v
    refine ⟨hg.known, hg.checked, ?_, ?_⟩
    · intro j hj hp
      by_cases hsid : j.sessionId = job.sessionId
      · simp only [hsid, Function.update_self, Option.isSome_some]
      · simp only [Function.update_of_ne hsid]
        exact hg.saved j hj hp
    · intro j hj hp hl
      by_cases hsid : j.sessionId = job.sessionId
      · obtain ⟨t, ht, hts⟩ := hg.known j hj
        obtain ⟨t', ht', hts'⟩ := (hx.good w).known job hjob
        have hid := session_unique hx.fenced.wellFormed ht ht' (by rw [hts, hts', hsid])
        rw [hid, hlast] at hl
        exact absurd (Option.some.inj hl).symm hv
      · simp only [Function.update_of_ne hsid]
        exact hg.unsaved j hj hp hl

theorem step_known {c : Codec Req} {g g' : Ledger Req} {call : Call Req} (hg : Fenced g)
    (h : TaskLedger.step .mysql c g call = some g') (id : TaskId) (t : TripPlanningTask Req)
    (ht : g.store.taskOf id = some t) :
    ∃ t', g'.store.taskOf id = some t' ∧ t'.sessionId = t.sessionId := by
  obtain hid | ⟨hnone, _⟩ | ⟨q, q', _, hq, hq', _, hmove⟩ := step_task hg.wellFormed h id
  · exact ⟨t, hid.trans ht, rfl⟩
  · cases hnone.symm.trans ht
  · cases hq.symm.trans ht
    exact ⟨q', hq', move_sessionId hmove⟩

theorem claim_answer {c : Codec Req} {g g' : Ledger Req} {w : WorkerId} {l : Time}
    {locked : List TaskId} {clock : Readings} {t : TripPlanningTask Req} (hg : Fenced g)
    (h : TaskLedger.step .mysql c g ⟨.claimNext w l locked, clock⟩ = some g')
    (ha : (exec .mysql c g.store (.claimNext w l locked) clock).1 = .ok (.claimed (some t))) :
    g'.store.taskOf t.taskId = some t ∧ g'.claims = (t.taskId, w) :: g.claims ∧
      t.status = .running ∧ t.workerId = some w ∧
      ∀ id, id ≠ t.taskId → g'.store.taskOf id = g.store.taskOf id := by
  obtain ⟨_, _, hstore, _, hclaims⟩ := step_some h
  obtain ⟨he, _⟩ | ⟨row, hmem, _, he⟩ := claim_cases .mysql c hg.wellFormed w l locked clock
  · rw [he] at ha
    cases ha
  · simp only [he, Store.settle, claimVerdict, noteClaim] at ha hstore hclaims
    cases ha
    have htask := commit_taskOf (t := (row.taskJson.claimed w clock.entered l).stamp clock.stamped)
      hg.wellFormed hmem rfl
    refine ⟨?_, hclaims, rfl, rfl, ?_⟩
    · rw [hstore]
      exact (htask _ _ _).trans (if_pos rfl)
    · intro id hid
      rw [hstore]
      exact (htask _ _ _).trans (if_neg hid)

theorem ending_claims {c : Codec Req} {g g' : Ledger Req} {op : Op Req} {clock : Readings}
    {e : TaskId × WorkerId × Ending} (h : TaskLedger.step .mysql c g ⟨op, clock⟩ = some g')
    (he : op.ending = some e) : g'.claims = g.claims := by
  refine quiet_claims h ?_
  rintro w l locked rfl
  cases he

theorem passed_good {x : World Req Body} (hx : Sound x) {w : WorkerId} {g : Ledger Req} {job : Job}
    {pc : Pc Body} {now : Time} {t : TripPlanningTask Req} (hd : Drift x.ledger g)
    (ask : Pc.asks (x.pcs w) = some (job, pc))
    (owns : assertWorkerOwnsTask x.ledger.store job.taskId w now = .ok t) :
    Good { x with
      ledger := g
      pcs := Function.update x.pcs w pc
      marks := Function.update x.marks w x.ledger.claims.length } w pc := by
  obtain ⟨ht, hv⟩ := assert_owner owns
  have hlast := hx.fenced.owner job.taskId t w ht ((hasValidLease_iff t w now).mp hv).2.1
  have hview : pc.job = some job ∧ (x.pcs w).job = some job ∧
      Pc.persisted pc = Pc.persisted (x.pcs w) := by
    cases hpc : x.pcs w <;> rw [hpc] at ask <;> cases ask <;> exact ⟨rfl, rfl, rfl⟩
  obtain ⟨hjob, hjob', hper⟩ := hview
  have hg := hx.good w
  refine ⟨?_, ?_, ?_, ?_⟩
  · intro j hj
    cases hjob.symm.trans hj
    obtain ⟨q, hq, hsid⟩ := hg.known job hjob'
    obtain ⟨q', hq', hs', _⟩ := hd.kept _ q hq
    exact ⟨q', hq', hs'.trans hsid⟩
  · intro j hj _
    cases hjob.symm.trans hj
    simp only [hd.claims, Function.update_self, Nat.sub_self, List.drop_zero]
    exact hlast
  · intro j hj hp
    cases hjob.symm.trans hj
    exact hg.saved job hjob' (hper.symm.trans hp)
  · intro j hj hp hl
    cases hjob.symm.trans hj
    exact hg.unsaved job hjob' (hper.symm.trans hp) hlast

theorem turn_sound [DecidableEq Body] {c : Codec Req} {x x' : World Req Body}
    {label : Label Req Body} (hx : Sound x) (hno : NoTakeover x label) (h : Turn c x label x') :
    Sound x' := by
  cases h with
  | drifted _ g drift =>
    refine ⟨drift.fenced, ?_, fun w => good_drift (hx.good w) (hx.marks w) drift rfl rfl, hx.kept⟩
    rw [drift.claims]
    exact hx.marks
  | hopped _ w g pc drift hop =>
    refine ⟨drift.fenced, ?_, ?_, hx.kept⟩
    · rw [drift.claims]
      exact hx.marks
    · refine goods_update ?_ fun v _ => good_drift (hx.good v) (hx.marks v) drift rfl rfl
      exact good_drift (hop_good (hx.good w) hop) (hx.marks w) drift rfl rfl
  | claimed _ w l locked clock g t idle call answer =>
    obtain ⟨ht, hclaims, _⟩ := claim_answer hx.fenced call answer
    refine ⟨step_fenced hx.fenced call, ?_, ?_, hx.kept⟩
    · intro v
      rw [hclaims]
      exact Nat.le_succ_of_le (hx.marks v)
    · refine goods_update ⟨?_, nofun, nofun, nofun⟩ ?_
      · rintro _ ⟨⟩
        exact ⟨t, ht, rfl⟩
      · intro v hv
        refine good_frame (m := [(t.taskId, w)]) (hx.good v) (hx.marks v)
          (step_known hx.fenced call) hclaims ?_ rfl rfl
        intro p hp
        rw [List.mem_singleton] at hp
        subst hp
        exact Ne.symm hv
  | passed _ w g job pc now t drift ask owns =>
    refine ⟨drift.fenced, ?_, ?_, hx.kept⟩
    · intro v
      rw [drift.claims]
      by_cases hv : v = w
      · subst hv
        simp only [Function.update_self, Nat.le_refl]
      · simp only [Function.update_of_ne hv]
        exact hx.marks v
    · refine goods_update (passed_good hx drift ask owns) ?_
      intro v hv
      exact good_drift (hx.good v) (hx.marks v) drift (Function.update_of_ne hv _ _) rfl
  | marked _ w g op clock job e call ending at_job success =>
    have hclaims := ending_claims call ending
    refine ⟨step_fenced hx.fenced call, ?_, ?_, hx.kept⟩
    · rw [hclaims]
      exact hx.marks
    · refine goods_update (good_idle _ w) ?_
      intro v _
      exact good_frame (m := []) (hx.good v) (hx.marks v) (step_known hx.fenced call) hclaims
        nofun rfl rfl
  | readBack w job state at_job stored =>
    have hg := hx.good w
    rw [at_job] at hg
    refine ⟨hx.fenced, hx.marks, ?_, hx.kept⟩
    refine goods_update ⟨hg.known, fun j hj _ => hg.checked j hj rfl, ?_, nofun⟩
      fun v _ => good_drift (hx.good v) (hx.marks v) (drift_refl hx.fenced) rfl rfl
    rintro _ ⟨⟩ _
    simp only [World.goto, stored, Option.isSome_some]
  | saved w job st after at_job =>
    refine (save_sound hx ?_ ?_ ?_ hno ?_ ?_ ?_).1
    · rw [at_job]
      rfl
    · rw [at_job]
      rfl
    · rw [at_job]
      rfl
    all_goals cases after <;> simp [After.enter, Pc.job, Pc.persisted, Pc.window]
  | relabeled w job state at_job =>
    refine (save_sound hx ?_ ?_ ?_ hno (Or.inl rfl) (Or.inr rfl) rfl).1
    · rw [at_job]
      rfl
    · rw [at_job]
      rfl
    · rw [at_job]
      rfl

theorem step_sound [DecidableEq Body] {c : Codec Req} {x x' : World Req Body}
    {label : Label Req Body} (hx : Sound x) (hno : NoTakeover x label)
    (h : step c x label = some x') : Sound x' :=
  turn_sound hx hno (step_turn hx.fenced h)

/-- As long as no worker writes after somebody else has claimed its task behind
its last ownership check, no save of a worker that was taken over changes a
stored session, and no save of the last claimer fails. -/
theorem saves_fenced_without_takeover [DecidableEq Body] (c : Codec Req)
    {labels : List (Label Req Body)} (hno : Along (step c) NoTakeover World.start labels) :
    Always (step c) (fun x : World Req Body => x.overwritten = false ∧ x.rejected = false)
      World.start labels :=
  always_of_along (fun _ _ _ hs hok h => step_sound hs hok h) (fun _ hs => hs.kept) start_sound hno

/-- The steps of worker `w` from an ownership check to the move behind it. -/
def pass (w : WorkerId) (now : Time) : List (Label Unit Nat) := [.check w ⟨now, now, now⟩, .poll w]

def claimAt (w : WorkerId) (now : Time) : Label Unit Nat := .claim w 1000000 [] ⟨now, now, now⟩

def created : Label Unit Nat := .outside ⟨.createTask () "key" none "t1" "s1", ⟨0, 0, 0⟩⟩

/-- Worker A saves, its lease runs out, and worker B goes on from its checkpoint. -/
def handover : List (Label Unit Nat) :=
  [created, claimAt "A" 1] ++ pass "A" 2 ++ [.load "A" 7] ++ pass "A" 3 ++
    [.save "A", claimAt "B" 2000000] ++ pass "B" 2000001 ++ [.load "B" 8] ++ pass "B" 2000002 ++
    [.save "B"]

theorem handover_saves_fenced :
    ∃ x, run (step plainCodec) World.start handover = some x ∧ x.overwritten = false ∧
      x.rejected = false := by
  obtain ⟨x, hx, _⟩ := (Option.any_eq_true (fun _ => true)
    (run (step plainCodec) World.start handover)).mp (by decide +kernel)
  have hno : Along (step plainCodec) NoTakeover World.start handover := by decide +kernel
  have hkept := always_last (saves_fenced_without_takeover plainCodec hno) hx
  exact ⟨x, hx, hkept⟩

/-- Worker A passes its checks, its lease runs out, worker B claims the task and
finds no session; then A writes the session, and B's first save fails. -/
def lateSave : List (Label Unit Nat) :=
  [created, claimAt "A" 1] ++ pass "A" 2 ++ [.load "A" 7] ++ pass "A" 3 ++
    [claimAt "B" 2000000] ++ pass "B" 2000001 ++ [.load "B" 8] ++ pass "B" 2000002 ++
    [.save "A", .save "B"]

theorem late_save_overwrites :
    ∃ x, run (step plainCodec) World.start lateSave = some x ∧
      lastClaim x.ledger.claims "t1" = some "B" ∧ x.sessions "s1" = some ⟨.running, false, 7⟩ ∧
      x.overwritten = true ∧ x.rejected = true := by
  have h : (run (step plainCodec) World.start lateSave).any (fun x =>
      lastClaim x.ledger.claims "t1" == some "B" && x.sessions "s1" == some ⟨.running, false, 7⟩ &&
        x.overwritten && x.rejected) = true := by
    decide +kernel
  obtain ⟨x, hx, hp⟩ := (Option.any_eq_true _ _).mp h
  simp only [Bool.and_eq_true, beq_iff_eq] at hp
  exact ⟨x, hx, hp.1.1.1, hp.1.1.2, hp.1.2, hp.2⟩

end TravelAgent.CheckpointFencing
