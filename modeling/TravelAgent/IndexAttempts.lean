import TravelAgent.ShareLifecycle
import TravelAgent.ShareOutcomes
import TravelAgent.Transition

namespace TravelAgent.IndexAttempts

open TravelAgent.Leasing TravelAgent.Rows TravelAgent.ShareRecord TravelAgent.ShareStore
open TravelAgent.ShareMoves TravelAgent.ShareLifecycle TravelAgent.ShareOutcomes
open TravelAgent.Transition

variable {Snapshot : Type}

/-- The call as every worker makes it, with the configured number of attempts. -/
def Op.configured (maxAttempts : Nat) : Op Snapshot → Op Snapshot
  | .claimNextIndexJob worker now leaseSeconds _ locked =>
    .claimNextIndexJob worker now leaseSeconds maxAttempts locked
  | op => op

/-- One call of the sharing service or of a worker, as a step that always happens. -/
def attemptStep (maxAttempts : Nat) (s : Store Snapshot) (op : Op Snapshot) :
    Option (Store Snapshot) :=
  some (apply s (Op.configured maxAttempts op))

def Bounded (maxAttempts : Nat) (s : Store Snapshot) : Prop :=
  ∀ j ∈ s.jobs, j.attemptCount ≤ maxAttempts

/-- The call hands out no job that has used its last attempt. -/
def Spares (maxAttempts : Nat) (s : Store Snapshot) (op : Op Snapshot) : Prop :=
  ∀ i t, exec s (Op.configured maxAttempts op) = .ok (.job (some i), t) →
    ∀ j ∈ s.jobs, j.jobId = i.jobId → j.attemptCount < maxAttempts

/-- A targeted claim meets no claimable job without attempts left. -/
def Unspent (maxAttempts : Nat) (s : Store Snapshot) : Op Snapshot → Prop
  | .claimIndexJob jobId worker now leaseSeconds =>
    ∀ w j, checkedWorker worker leaseSeconds = .ok w → s.job jobId = some j →
      (j.duePending now || j.expired now) = true → j.attemptCount < maxAttempts
  | _ => True

structure Keyed (s : Store Snapshot) : Prop where
  shares : UniqueShares s
  jobs : UniqueJobs s

theorem empty_keyed : Keyed (Store.empty : Store Snapshot) := ⟨empty_unique, empty_uniqueJobs⟩

theorem apply_keyed {s : Store Snapshot} (h : Keyed s) (op : Op Snapshot) : Keyed (apply s op) :=
  ⟨apply_unique h.shares op, apply_uniqueJobs h.shares h.jobs op⟩

theorem bounded_updateWhere {maxAttempts : Nat} {jobs : List ShareIndexJob}
    (h : ∀ j ∈ jobs, j.attemptCount ≤ maxAttempts) {p : ShareIndexJob → Bool}
    {f : ShareIndexJob → ShareIndexJob}
    (hf : ∀ j ∈ jobs, p j = true → (f j).attemptCount ≤ maxAttempts) :
    ∀ j ∈ updateWhere p f jobs, j.attemptCount ≤ maxAttempts := by
  intro j hj
  obtain ⟨hj, _⟩ | ⟨i, hi, hp, rfl⟩ := mem_updateWhere hj
  · exact h j hj
  · exact hf i hi hp

theorem bounded_add {maxAttempts : Nat} {jobs : List ShareIndexJob}
    (h : ∀ j ∈ jobs, j.attemptCount ≤ maxAttempts) {job : ShareIndexJob}
    (hnew : job.attemptCount = 0) : ∀ j ∈ jobs ++ [job], j.attemptCount ≤ maxAttempts := by
  intro j hj
  obtain hj | hj := List.mem_append.mp hj
  · exact h j hj
  · rw [List.mem_singleton] at hj
    subst hj
    omega

theorem queue_bounded {maxAttempts : Nat} {s : Store Snapshot} (hb : Bounded maxAttempts s)
    (id : ShareId) (now : Time) {job : ShareIndexJob} (hnew : job.attemptCount = 0) :
    Bounded maxAttempts (Store.queue s id now job) := by
  apply bounded_add _ hnew
  apply bounded_updateWhere hb
  exact fun j hj _ => hb j hj

theorem configured_claim {maxAttempts : Nat} {op : Op Snapshot} {jobId : JobId} {worker : WorkerId}
    {now leaseSeconds : Time}
    (h : Op.configured maxAttempts op = .claimIndexJob jobId worker now leaseSeconds) :
    op = .claimIndexJob jobId worker now leaseSeconds := by
  cases op with
  | claimNextIndexJob => cases h
  | _ => exact h

theorem configured_poll {maxAttempts : Nat} {op : Op Snapshot} {worker : WorkerId}
    {now leaseSeconds : Time} {max : Nat} {locked : List JobId}
    (h : Op.configured maxAttempts op = .claimNextIndexJob worker now leaseSeconds max locked) :
    max = maxAttempts := by
  cases op with
  | claimNextIndexJob =>
    cases h
    rfl
  | _ => cases h

theorem terminalized_bounded {maxAttempts : Nat} {s t : Store Snapshot} {now : Time}
    (h : Terminalized now maxAttempts s t) (hb : Bounded maxAttempts s) : Bounded maxAttempts t := by
  induction h with
  | done s => exact hb
  | next j found expired spent rest ih =>
    exact ih (bounded_updateWhere hb fun i hi _ => hb i hi)

/-- Giving up a job does not change how often it was tried. -/
theorem terminalized_attempts {maxAttempts : Nat} {s t : Store Snapshot} {now : Time}
    (h : Terminalized now maxAttempts s t) {j : ShareIndexJob} (hj : j ∈ s.jobs) :
    ∃ i ∈ t.jobs, i.jobId = j.jobId ∧ i.attemptCount = j.attemptCount := by
  induction h generalizing j with
  | done s => exact ⟨j, hj, rfl, rfl⟩
  | @next s t k found expired spent rest ih =>
    have hmem := List.mem_map_of_mem (f := fun j : ShareIndexJob =>
      if decide (j.jobId = k.jobId) then
        { j with
          status := .failed, nextRetryAt := none, leaseOwner := none, leaseExpiresAt := none
          lastError := some "IndexLeaseExpired", updatedAt := now }
      else j) hj
    obtain ⟨i, hi, hid, hattempts⟩ := ih hmem
    refine ⟨i, hi, ?_, ?_⟩
    · rw [hid]
      split <;> rfl
    · rw [hattempts]
      split <;> rfl

/-- The one call that can raise a count beyond the bound is a targeted claim. -/
theorem outcome_bounded {maxAttempts : Nat} {s s' : Store Snapshot} (hs : Keyed s)
    (hb : Bounded maxAttempts s) {op : Op Snapshot} {a : Answer Snapshot}
    (hout : Outcome s (Op.configured maxAttempts op) a s') (hok : Unspent maxAttempts s op) :
    Bounded maxAttempts s' := by
  generalize hop : Op.configured maxAttempts op = op' at hout
  cases hout with
  | idle op a quiet => exact hb
  | created draft now shareId jobId intent absent fresh => exact bounded_add hb rfl
  | republished r draft now shareId jobId intent found guard fresh =>
    exact queue_bounded (s := s.setShare _ _) hb _ now rfl
  | updated r author draft now allow expected jobId intent found guard fresh =>
    exact queue_bounded (s := s.setShare _ _) hb _ now rfl
  | withdrawn r author now jobId intent found guard fresh =>
    exact queue_bounded (s := s.setShare _ _) hb _ now rfl
  | claimed jobId worker now leaseSeconds w j name found due =>
    cases configured_claim hop
    have hleft := hok w j name found due
    apply bounded_updateWhere hb
    intro i hi hid
    have hj := lookup_mem found
    have hsame := same_job hs.jobs hi hj.1 ((of_decide_eq_true hid).trans hj.2.symm)
    rw [hsame]
    exact hleft
  | polled worker now leaseSeconds max locked t given_up =>
    cases configured_poll hop
    exact terminalized_bounded given_up hb
  | polledClaim worker now leaseSeconds max locked w j t name given_up found due left =>
    cases configured_poll hop
    have hbt := terminalized_bounded given_up hb
    apply bounded_updateWhere hbt
    intro i hi hid
    have hunique := uniqueJobs_of_keys (terminalized_keys given_up) hs.jobs
    rw [same_job hunique hi found (of_decide_eq_true hid)]
    exact left
  | completed p now r j found version held guard =>
    exact bounded_updateWhere hb fun j hj _ => hb j hj
  | failed p error nextRetryAt terminal now r j found version held guard =>
    exact bounded_updateWhere hb fun j hj _ => hb j hj
  | jobFailed p error nextRetryAt terminal now r j found held =>
    exact bounded_updateWhere hb fun j hj _ => hb j hj
  | superseded jobId worker now j r found share allowed obsolete =>
    exact bounded_updateWhere hb fun j hj _ => hb j hj
  | requeued r hash now j found guard job done =>
    exact bounded_updateWhere hb fun j hj _ => Nat.zero_le _
  | liked r user now likeId m found guard fresh => exact hb
  | unliked r user m found guard t counted =>
    subst counted
    split <;> exact hb

theorem apply_bounded {maxAttempts : Nat} {s : Store Snapshot} (hs : Keyed s)
    (hb : Bounded maxAttempts s) {op : Op Snapshot} (hok : Unspent maxAttempts s op) :
    Bounded maxAttempts (apply s (Op.configured maxAttempts op)) := by
  obtain hsame | ⟨a, _, hout⟩ := apply_outcome hs.shares (Op.configured maxAttempts op)
  · rw [hsame]
    exact hb
  · exact outcome_bounded hs hb hout hok

/-- A targeted claim of a claimable job counts one more attempt on it. -/
theorem claim_counts {s : Store Snapshot} {jobId : JobId} {worker w : WorkerId}
    {now leaseSeconds : Time} {j : ShareIndexJob} (hw : checkedWorker worker leaseSeconds = .ok w)
    (hj : s.job jobId = some j) (hdue : (j.duePending now || j.expired now) = true) :
    ShareIndexJob.claimed j w now leaseSeconds ∈
      (apply s (.claimIndexJob jobId worker now leaseSeconds)).jobs := by
  have hcall : claimIndexJob s jobId worker now leaseSeconds =
      .ok (some (ShareIndexJob.claimed j w now leaseSeconds),
        s.setJob jobId fun j => ShareIndexJob.claimed j w now leaseSeconds) := by
    simp only [claimIndexJob, hw, hj, bind, Except.bind, pure, Except.pure, hdue, if_true]
  obtain ⟨hm, hid⟩ := lookup_mem hj
  simp only [apply, exec, hcall, Except.map, Store.setJob, updateWhere]
  refine List.mem_map.mpr ⟨j, hm, ?_⟩
  rw [hid, if_pos (decide_eq_true rfl)]

theorem apply_bounded_iff {maxAttempts : Nat} {s : Store Snapshot} (hs : Keyed s)
    (hb : Bounded maxAttempts s) (op : Op Snapshot) :
    Bounded maxAttempts (apply s (Op.configured maxAttempts op)) ↔ Unspent maxAttempts s op := by
  refine ⟨?_, apply_bounded hs hb⟩
  intro h
  cases op with
  | claimIndexJob jobId worker now leaseSeconds =>
    intro w j hw hj hdue
    exact h _ (claim_counts hw hj hdue)
  | _ => trivial

theorem spares_of_unspent {maxAttempts : Nat} {s : Store Snapshot} (hs : Keyed s)
    {op : Op Snapshot} (hok : Unspent maxAttempts s op) : Spares maxAttempts s op := by
  intro i t hexec j hj hid
  have hout := exec_outcome hs.shares hexec
  generalize hop : Op.configured maxAttempts op = op' at hout
  generalize ha : (.job (some i) : Answer Snapshot) = a at hout
  cases hout with
  | idle op a quiet =>
    subst ha
    cases quiet
  | claimed jobId worker now leaseSeconds w k name found due =>
    cases ha
    cases configured_claim hop
    have hk := lookup_mem found
    have hsame := same_job hs.jobs hj hk.1 hid
    rw [hsame]
    exact hok w k name found due
  | polledClaim worker now leaseSeconds max locked w k t name given_up found due left =>
    cases ha
    cases configured_poll hop
    obtain ⟨q, hq, hqid, hattempts⟩ := terminalized_attempts given_up hj
    have hunique := uniqueJobs_of_keys (terminalized_keys given_up) hs.jobs
    have hsame := same_job hunique hq found (hqid.trans hid)
    rw [hsame] at hattempts
    omega
  | _ => cases ha

theorem attemptStep_run (maxAttempts : Nat) (s : Store Snapshot) (ops : List (Op Snapshot)) :
    run (attemptStep maxAttempts) s ops =
      some (replay s (ops.map (Op.configured maxAttempts))) := by
  induction ops generalizing s with
  | nil => rfl
  | cons op ops ih => exact ih (apply s (Op.configured maxAttempts op))

theorem along_spares {maxAttempts : Nat} {s : Store Snapshot} (hs : Keyed s)
    {ops : List (Op Snapshot)} (h : Along (attemptStep maxAttempts) (Unspent maxAttempts) s ops) :
    Along (attemptStep maxAttempts) (Spares maxAttempts) s ops := by
  induction ops generalizing s with
  | nil => trivial
  | cons op ops ih =>
    refine ⟨spares_of_unspent hs h.1, ?_⟩
    intro t ht
    have hrest := h.2 t ht
    cases ht
    exact ih (apply_keyed hs _) hrest

/-- In every run no job is tried more often than configured and no claim hands out a job
that has used its last attempt, exactly when the targeted claims meet no such job. -/
theorem attempts_bounded_iff_unspent (maxAttempts : Nat) (ops : List (Op Snapshot)) :
    Always (attemptStep maxAttempts) (Bounded maxAttempts) Store.empty ops ∧
        Along (attemptStep maxAttempts) (Spares maxAttempts) Store.empty ops ↔
      Along (attemptStep maxAttempts) (Unspent maxAttempts) Store.empty ops := by
  have hiff : Always (attemptStep maxAttempts) (Bounded maxAttempts) Store.empty ops ↔
      Along (attemptStep maxAttempts) (Unspent maxAttempts) Store.empty ops := by
    refine always_iff_along (I := Keyed) ?_ ?_ empty_keyed ?_ (attemptStep_run maxAttempts _ ops)
    · intro s op t hs _ _ ht
      cases ht
      exact apply_keyed hs _
    · intro s op t hs hb ht
      cases ht
      exact apply_bounded_iff hs hb op
    · intro j hj
      cases hj
  refine ⟨fun h => hiff.mp h.1, fun h => ⟨hiff.mpr h, along_spares empty_keyed h⟩⟩

/-- The service publishes a share and dies with its job, and the author shares
again after the lease ran out. -/
def sharedAgain : List (Op Unit) :=
  [.createPublishIntent (draftOf "h1") 0 "g1" "j1", .claimIndexJob "j1" "w1" 1 60,
    .createPublishIntent (draftOf "h1") 100 "g2" "j2", .claimIndexJob "j1" "w2" 101 60]

/-- With one attempt configured, the second intent asks for the running job, and its claim
hands the job out a second time. -/
theorem shared_again_exceeds_attempts :
    (exec (replay Store.empty (sharedAgain.take 2)) (sharedAgain.get ⟨2, by decide⟩)).map
        (fun r => r.1) =
      .ok (.intent ⟨newShare "g1" (draftOf "h1") 0,
        some ⟨"j1", "g1", .upsert, 1, .running, 1, none, some "w1", some 61, none, 0, 1⟩,
        false, true⟩) ∧
      (replay Store.empty sharedAgain).jobs.map ShareIndexJob.attemptCount = [2] ∧
      ¬(Always (attemptStep 1) (Bounded 1) Store.empty sharedAgain ∧
        Along (attemptStep 1) (Spares 1) Store.empty sharedAgain) := by
  have hcount : (replay Store.empty sharedAgain).jobs.map ShareIndexJob.attemptCount = [2] := by
    decide +kernel
  refine ⟨by decide +kernel, hcount, ?_⟩
  intro h
  have hlast := always_last h.1 (attemptStep_run 1 _ sharedAgain)
  have hmem : 2 ∈ (replay Store.empty sharedAgain).jobs.map ShareIndexJob.attemptCount := by
    rw [hcount]
    exact List.mem_cons_self
  obtain ⟨j, hj, htwo⟩ := List.mem_map.mp hmem
  have hone : j.attemptCount ≤ 1 := hlast j hj
  omega

end TravelAgent.IndexAttempts
