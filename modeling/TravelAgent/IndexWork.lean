import TravelAgent.ServedShares
import TravelAgent.Transition

namespace TravelAgent.IndexWork

open TravelAgent.Leasing TravelAgent.Rows TravelAgent.ShareRecord TravelAgent.ShareStore
open TravelAgent.ShareMoves TravelAgent.ShareLifecycle TravelAgent.ShareOutcomes
open TravelAgent.ShareIndexing TravelAgent.IndexPoints TravelAgent.ServedShares
open TravelAgent.Transition

variable {Snapshot : Type}

/-- What the process under a worker identifier is at: nothing, a job that it claimed with the
hash of the content that it first read for it, or an upsert that it found stale at some time. -/
inductive Duty
  | idle
  | holding (job : ShareIndexJob) (target : Option String)
  | stale (job : ShareIndexJob) (since : Time)
deriving DecidableEq, Repr

/-- The store and what the service's requests, the workers and the scripts are at. A worker
identifier is drawn anew for each of them, so it belongs to one process at a time. -/
structure Desk (Snapshot : Type) where
  store : Store Snapshot
  duty : WorkerId → Duty

def Desk.start : Desk Snapshot := ⟨Store.empty, fun _ => .idle⟩

/-- The owner of the lease that a call may take. -/
def Op.claimant : Op Snapshot → Option WorkerId
  | .claimIndexJob _ worker _ _ => some (strip worker)
  | .claimNextIndexJob worker .. => some (strip worker)
  | _ => none

/-- A call that the callers may make at any time. -/
def Op.free : Op Snapshot → Bool
  | .claimIndexJob .. => false
  | .claimNextIndexJob .. => false
  | .recordIndexJobFailure .. => false
  | _ => true

inductive Label (Snapshot : Type)
  | call (op : Op Snapshot)
  | claim (op : Op Snapshot)
  | look (w : WorkerId)
  | complete (w : WorkerId) (now : Time)
  | giveUp (w : WorkerId) (error : String) (nextRetryAt : Option Time) (terminal : Bool) (now : Time)
  | leave (w : WorkerId)
deriving DecidableEq, Repr

/-- The duty of a worker that has read the share of its upsert: it goes on with the content
that it first read, or it takes the job for stale. -/
def looked (s : Store Snapshot) (job : ShareIndexJob) (target : Option String) : Duty :=
  match s.share job.shareId with
  | none => .stale job 0
  | some r =>
    if matchesUpsert r job && target.all fun hash => decide (r.content.contentHash = hash) then
      .holding job (some r.content.contentHash)
    else .stale job 0

def Desk.assign (x : Desk Snapshot) (w : WorkerId) (d : Duty) : Desk Snapshot :=
  { x with duty := Function.update x.duty w d }

def claimedJob (s : Store Snapshot) (op : Op Snapshot) : Option ShareIndexJob :=
  match exec s op with
  | .ok (.job j, _) => j
  | _ => none

/-- A step of the callers. They call the store at any time and with any clock, but they
claim when they are at no other job, and they report the failure of a stale job only after
they found it stale: by a read, or by a completion that was refused. The two calls of one
process read its clock in order. -/
def step (x : Desk Snapshot) : Label Snapshot → Option (Desk Snapshot)
  | .call op => if Op.free op then some { x with store := apply x.store op } else none
  | .claim op =>
    match Op.claimant op with
    | none => none
    | some w =>
      match x.duty w with
      | .idle =>
        let y := { x with store := apply x.store op }
        some ((claimedJob x.store op).elim y fun j => Desk.assign y w (.holding j none))
      | _ => none
  | .look w =>
    match x.duty w with
    | .holding job target =>
      if job.operation = .upsert then some (Desk.assign x w (looked x.store job target)) else none
    | _ => none
  | .complete w now =>
    match x.duty w with
    | .holding job target =>
      if job.operation = .upsert then
        let r := completeIndexOperation x.store (report w job .upsert) now
        some (Desk.assign { x with store := r.2 } w
          (if r.1 then .holding job target else .stale job now))
      else none
    | _ => none
  | .giveUp w error nextRetryAt terminal now =>
    match x.duty w with
    | .stale job since =>
      if since ≤ now then
        some (Desk.assign { x with
          store := apply x.store
            (.recordIndexJobFailure (report w job .upsert) error nextRetryAt terminal now) } w .idle)
      else none
    | _ => none
  | .leave w => some (Desk.assign x w .idle)

/-- From this time on the worker has no lease on the job. -/
def Lost (s : Store Snapshot) (w : WorkerId) (id : JobId) (since : Time) : Prop :=
  ∀ j ∈ s.jobs, j.jobId = id → ∀ t, since ≤ t → j.leaseMatches w t = false

def Duty.Good (s : Store Snapshot) (w : WorkerId) : Duty → Prop
  | .idle => True
  | .holding job target =>
    Known s job ∧ ∀ hash, target = some hash → ∀ r, s.share job.shareId = some r →
      r.indexVersion = job.indexVersion → r.content.contentHash = hash
  | .stale job since =>
    Known s job ∧ (Past s job.shareId job.indexVersion ∨ Lost s w job.jobId since)

structure Orderly (x : Desk Snapshot) : Prop where
  steady : Steady x.store
  good : ∀ w, Duty.Good x.store w (x.duty w)

theorem start_orderly : Orderly (Desk.start : Desk Snapshot) := ⟨empty_steady, fun _ => trivial⟩

/-- The content of a share changes only together with its version. -/
theorem move_content {s : Store Snapshot} {op : Op Snapshot} {r r' : SharedGuideRecord Snapshot}
    (h : ShareMove s op r r') : r'.content = r.content ∨ r.indexVersion < r'.indexVersion := by
  cases h with
  | republished _ draft now shareId jobId guard => exact Or.inr (Nat.lt_succ_self _)
  | updated _ author draft now allow expected jobId guard => exact Or.inr (Nat.lt_succ_self _)
  | completed _ p now j at_share held version guard =>
    left
    simp only [SharedGuideRecord.completed]
    split <;> rfl
  | _ => exact Or.inl rfl

theorem lease_updateWhere {jobs : List ShareIndexJob} {p : ShareIndexJob → Bool}
    {f : ShareIndexJob → ShareIndexJob} {w : WorkerId} {t : Time}
    (hf : ∀ i, jobKey (f i) = jobKey i)
    (hlease : ∀ i ∈ jobs, p i = true → (f i).leaseMatches w t = true → i.leaseMatches w t = true)
    {j : ShareIndexJob} (hj : j ∈ updateWhere p f jobs) (hm : j.leaseMatches w t = true) :
    ∃ i ∈ jobs, i.jobId = j.jobId ∧ i.leaseMatches w t = true := by
  obtain ⟨hj, _⟩ | ⟨i, hi, hp, rfl⟩ := mem_updateWhere hj
  · exact ⟨j, hj, rfl, hm⟩
  · exact ⟨i, hi, (congrArg Prod.fst (hf i)).symm, hlease i hi hp hm⟩

theorem unowned_lease {j : ShareIndexJob} (h : j.leaseOwner = none) (w : WorkerId) (t : Time) :
    ¬j.leaseMatches w t = true := by
  simp [ShareIndexJob.leaseMatches, h]

theorem foreign_lease {j : ShareIndexJob} {v w : WorkerId} (h : j.leaseOwner = some v)
    (hne : v ≠ w) (t : Time) : ¬j.leaseMatches w t = true := by
  simp [ShareIndexJob.leaseMatches, h, hne]

theorem checkedWorker_ok {worker w : WorkerId} {leaseSeconds : Time}
    (h : checkedWorker worker leaseSeconds = .ok w) : w = strip worker := by
  simp only [checkedWorker] at h
  split at h
  · cases h
  · split at h
    · cases h
    · exact (Except.ok.inj h).symm

theorem terminalized_lease {s t : Store Snapshot} {now : Time} {maxAttempts : Nat}
    (h : Terminalized now maxAttempts s t) {w : WorkerId} {u : Time} {j : ShareIndexJob}
    (hj : j ∈ t.jobs) (hm : j.leaseMatches w u = true) :
    ∃ i ∈ s.jobs, i.jobId = j.jobId ∧ i.leaseMatches w u = true := by
  induction h with
  | done s => exact ⟨j, hj, rfl, hm⟩
  | next k found expired spent rest ih =>
    obtain ⟨i, hi, hid, hmi⟩ := ih hj
    obtain ⟨q, hq, hqid, hmq⟩ := lease_updateWhere (f := fun j => ShareIndexJob.givenUp j now)
      (fun _ => rfl) (fun i _ _ hl => absurd hl (unowned_lease rfl w u)) hi hmi
    exact ⟨q, hq, hqid.trans hid, hmq⟩

/-- A worker comes to a lease only by a claim of its own. -/
theorem outcome_lease {s s' : Store Snapshot} {op : Op Snapshot} {a : Answer Snapshot}
    (hout : Outcome s op a s') {w : WorkerId} (hw : Op.claimant op ≠ some w) {t : Time}
    {j : ShareIndexJob} (hj : j ∈ s'.jobs) (hm : j.leaseMatches w t = true) :
    ∃ i ∈ s.jobs, i.jobId = j.jobId ∧ i.leaseMatches w t = true := by
  have hadded : ∀ jobs job, j ∈ jobs ++ [job] → job.leaseOwner = none → j ∈ jobs := by
    intro jobs job hmem hnone
    obtain hmem | hmem := List.mem_append.mp hmem
    · exact hmem
    · rw [List.mem_singleton] at hmem
      subst hmem
      exact absurd hm (unowned_lease hnone w t)
  have hqueued : ∀ (u : Store Snapshot) id now job, u.jobs = s.jobs → job.leaseOwner = none →
      j ∈ (Store.queue u id now job).jobs → ∃ i ∈ s.jobs, i.jobId = j.jobId ∧
        i.leaseMatches w t = true := by
    intro u id now job hu hnone hmem
    rw [← hu]
    refine lease_updateWhere ?_ ?_ (hadded _ _ hmem hnone) hm
    · exact fun _ => rfl
    · exact fun i _ _ hl => absurd hl (unowned_lease rfl w t)
  cases hout with
  | idle op a quiet => exact ⟨j, hj, rfl, hm⟩
  | created draft now shareId jobId intent absent fresh => exact ⟨j, hadded _ _ hj rfl, rfl, hm⟩
  | republished r draft now shareId jobId intent found guard fresh => exact hqueued _ _ _ _ rfl rfl hj
  | updated r author draft now allow expected jobId intent found guard fresh =>
    exact hqueued _ _ _ _ rfl rfl hj
  | withdrawn r author now jobId intent found guard fresh => exact hqueued _ _ _ _ rfl rfl hj
  | claimed jobId worker now leaseSeconds v k name found due =>
    refine lease_updateWhere ?_ ?_ hj hm
    · exact fun _ => rfl
    · intro i _ _ hl
      refine absurd hl (foreign_lease rfl ?_ t)
      rw [checkedWorker_ok name]
      exact fun h => hw (congrArg some h)
  | polled worker now leaseSeconds maxAttempts locked u given_up =>
    exact terminalized_lease given_up hj hm
  | polledClaim worker now leaseSeconds maxAttempts locked v k u name given_up found due left =>
    have hprior : ∃ i ∈ u.jobs, i.jobId = j.jobId ∧ i.leaseMatches w t = true := by
      refine lease_updateWhere ?_ ?_ hj hm
      · exact fun _ => rfl
      · intro i _ _ hl
        refine absurd hl (foreign_lease rfl ?_ t)
        rw [checkedWorker_ok name]
        exact fun h => hw (congrArg some h)
    obtain ⟨i, hi, hid, hmi⟩ := hprior
    obtain ⟨q, hq, hqid, hmq⟩ := terminalized_lease given_up hi hmi
    exact ⟨q, hq, hqid.trans hid, hmq⟩
  | completed p now r k found version held guard =>
    refine lease_updateWhere ?_ ?_ hj hm
    · exact fun _ => rfl
    · exact fun i _ _ hl => absurd hl (unowned_lease rfl w t)
  | failed p error nextRetryAt terminal now r k found version held guard =>
    refine lease_updateWhere ?_ ?_ hj hm
    · exact fun _ => rfl
    · exact fun i _ _ hl => absurd hl (unowned_lease rfl w t)
  | jobFailed p error nextRetryAt terminal now r k found held =>
    refine lease_updateWhere ?_ ?_ hj hm
    · exact fun _ => rfl
    · exact fun i _ _ hl => absurd hl (unowned_lease rfl w t)
  | superseded jobId worker now k r found share allowed obsolete =>
    refine lease_updateWhere ?_ ?_ hj hm
    · exact fun _ => rfl
    · exact fun i _ _ hl => absurd hl (unowned_lease rfl w t)
  | requeued r hash now k found guard job done =>
    refine lease_updateWhere ?_ ?_ hj hm
    · exact fun _ => rfl
    · exact fun i _ _ hl => absurd hl (unowned_lease rfl w t)
  | liked r user now likeId m found guard fresh => exact ⟨j, hj, rfl, hm⟩
  | unliked r user m found guard u counted =>
    subst counted
    split at hj <;> exact ⟨j, hj, rfl, hm⟩

theorem lost_apply {s : Store Snapshot} (hs : UniqueShares s) {op : Op Snapshot} {w : WorkerId}
    (hw : Op.claimant op ≠ some w) {id : JobId} {since : Time} (h : Lost s w id since) :
    Lost (apply s op) w id since := by
  obtain hsame | ⟨a, _, hout⟩ := apply_outcome hs op
  · rw [hsame]
    exact h
  · intro j hj hid t ht
    by_contra hm
    obtain ⟨i, hi, hij, hmi⟩ := outcome_lease hout hw hj (Bool.eq_true_of_not_eq_false hm)
    rw [h i hi (hij.trans hid) t ht] at hmi
    cases hmi

/-- What one process relies on survives every call of the others. -/
theorem good_apply {s : Store Snapshot} (hs : Steady s) {op : Op Snapshot} {w : WorkerId}
    (hw : Op.claimant op ≠ some w) {d : Duty} (h : Duty.Good s w d) :
    Duty.Good (apply s op) w d := by
  cases d with
  | idle => trivial
  | holding job target =>
    refine ⟨known_apply hs.shares op h.1, ?_⟩
    intro hash htarget r hr hv
    obtain ⟨q, hq, hle⟩ := known_share hs h.1
    have hchange := (apply_effect hs.shares op).change job.shareId
    rw [hr] at hchange
    generalize hafter : some r = after at hchange
    cases hchange with
    | kept => exact h.2 hash htarget r hafter.symm hv
    | created draft now jobId call absent => cases hq.symm.trans absent
    | moved q' q'' found move =>
      cases hafter
      cases hq.symm.trans found
      obtain hsame | hlt := move_content move
      · rw [hsame]
        refine h.2 hash htarget q hq (Nat.le_antisymm ?_ hle)
        rw [← hv]
        exact move_version move
      · omega
  | stale job since =>
    exact ⟨known_apply hs.shares op h.1,
      h.2.imp (past_call hs.shares op) (lost_apply hs.shares hw)⟩

theorem past_of_lt {s : Store Snapshot} {id : ShareId} {version : Nat}
    {r : SharedGuideRecord Snapshot} (hr : s.share id = some r) (hle : version ≤ r.indexVersion)
    (hne : r.indexVersion ≠ version) : Past s id version :=
  ⟨r, hr, Or.inl (by omega)⟩

theorem lost_of_closed {s : Store Snapshot} {id : JobId}
    (h : ∀ j ∈ s.jobs, j.jobId = id → ShareIndexJob.isOpen j = false) (w : WorkerId)
    (since : Time) : Lost s w id since := by
  intro j hj hid t _
  have hclosed := h j hj hid
  simp only [ShareIndexJob.isOpen, Bool.or_eq_false_iff, decide_eq_false_iff_not] at hclosed
  simp [ShareIndexJob.leaseMatches, hclosed.2]

/-- A share that has come to rest at the version of an upsert, away from the statuses that it
starts from, has left the version behind or has seen the job done. -/
theorem stale_of_unexpected {s : Store Snapshot} (hs : Steady s) {job : ShareIndexJob}
    (hk : Known s job) (hop : job.operation = .upsert) {r : SharedGuideRecord Snapshot}
    (hr : s.share job.shareId = some r) (hv : r.indexVersion = job.indexVersion)
    (hx : IndexOperation.expects .upsert r = false) (w : WorkerId) (since : Time) :
    Past s job.shareId job.indexVersion ∨ Lost s w job.jobId since := by
  have hserved := hs.served _ r hr
  cases hp : r.publicationStatus with
  | publishing =>
    obtain hi | hi := hserved.publishing hp
    · simp [IndexOperation.expects, hp, hi] at hx
    · simp [IndexOperation.expects, hp, hi] at hx
  | unpublished => exact Or.inl ⟨r, hr, Or.inr ⟨hv, decide_eq_true hp⟩⟩
  | published =>
    right
    apply lost_of_closed
    intro j hj hid
    obtain ⟨i, hi, hkey⟩ := List.mem_map.mp hk
    cases same_job hs.jobs hj hi (hid.trans (congrArg Prod.fst hkey).symm)
    refine (hserved.settled hp).2 j hj ⟨?_, ?_, ?_⟩
    · rw [share_shareId hr]
      exact congrArg (fun k => k.2.1) hkey
    · rw [← hop]
      exact congrArg (fun k => k.2.2.1) hkey
    · rw [hv]
      exact congrArg (fun k => k.2.2.2) hkey

theorem looked_good {s : Store Snapshot} (hs : Steady s) {w : WorkerId} {job : ShareIndexJob}
    {target : Option String} (hop : job.operation = .upsert)
    (h : Duty.Good s w (.holding job target)) : Duty.Good s w (looked s job target) := by
  obtain ⟨r, hr, hle⟩ := known_share hs h.1
  simp only [looked, hr]
  split
  · refine ⟨h.1, ?_⟩
    intro hash htarget q hq _
    cases htarget
    cases hr.symm.trans hq
    rfl
  · rename_i hno
    refine ⟨h.1, ?_⟩
    by_cases hv : r.indexVersion = job.indexVersion
    · cases hx : IndexOperation.expects .upsert r with
      | false => exact stale_of_unexpected hs h.1 hop hr hv hx w 0
      | true =>
        -- only the content could differ, and it cannot
        refine absurd ?_ hno
        simp only [matchesUpsert, hv, hx, decide_true, Bool.and_self, Bool.true_and]
        cases htarget : target with
        | none => rfl
        | some hash => exact decide_eq_true (h.2 hash htarget r hr hv)
    · exact Or.inl (past_of_lt hr hle hv)

/-- A completion is refused for the reasons for which an upsert is stale. -/
theorem refused_stale {s : Store Snapshot} (hs : Steady s) {w : WorkerId} {job : ShareIndexJob}
    (hk : Known s job) (hop : job.operation = .upsert) {now : Time}
    (hno : (completeIndexOperation s (report w job .upsert) now).1 = false) :
    Past s job.shareId job.indexVersion ∨ Lost s w job.jobId now := by
  obtain ⟨r, hr, hle⟩ := known_share hs hk
  by_cases hv : r.indexVersion = job.indexVersion
  · cases hx : IndexOperation.expects .upsert r with
    | false => exact stale_of_unexpected hs hk hop hr hv hx w now
    | true =>
      right
      intro j hj hid t ht
      by_contra hm
      have hm : j.leaseMatches w t = true := Bool.eq_true_of_not_eq_false hm
      have hnow : j.leaseMatches w now = true := by
        simp only [ShareIndexJob.leaseMatches, Bool.and_eq_true, decide_eq_true_eq,
          Option.any_eq_true] at hm ⊢
        obtain ⟨hrun, e, he, hlt⟩ := hm
        exact ⟨hrun, e, he, Nat.lt_of_le_of_lt ht hlt⟩
      obtain ⟨i, hi, hkey⟩ := List.mem_map.mp hk
      cases same_job hs.jobs hj hi (hid.trans (congrArg Prod.fst hkey).symm)
      have hjid : j.shareId = job.shareId := congrArg (fun k => k.2.1) hkey
      have hjop : j.operation = .upsert := (congrArg (fun k => k.2.2.1) hkey).trans hop
      have hjv : j.indexVersion = job.indexVersion := congrArg (fun k => k.2.2.2) hkey
      have hrow := job_of_mem hs.jobs hj
      rw [hid] at hrow
      have hheld : s.heldJob (report w job .upsert) now = some j := by
        refine Option.filter_eq_some_iff.mpr ⟨hrow, ?_⟩
        simp [report, hjid, hjop, hjv, hnow]
      have hshare : (s.share (report w job .upsert).shareId).filter
          (fun r => decide (r.indexVersion = (report w job .upsert).indexVersion)) = some r := by
        refine Option.filter_eq_some_iff.mpr ⟨hr, ?_⟩
        simp [report, hv]
      simp only [completeIndexOperation, Store.settleReport, hshare, hheld] at hno
      simp [report, hx] at hno
  · exact Or.inl (past_of_lt hr hle hv)

theorem orderly_assign {x : Desk Snapshot} (h : Orderly x) {w : WorkerId} {d : Duty}
    (hd : Duty.Good x.store w d) : Orderly (Desk.assign x w d) := by
  refine ⟨h.steady, ?_⟩
  intro v
  simp only [Desk.assign]
  by_cases hv : v = w
  · subst hv
    rw [Function.update_self]
    exact hd
  · rw [Function.update_of_ne hv]
    exact h.good v

theorem call_orderly {x : Desk Snapshot} (h : Orderly x) {op : Op Snapshot}
    (hheard : Heard x.store op) (hidle : ∀ w, Op.claimant op = some w → x.duty w = .idle) :
    Orderly { x with store := apply x.store op } := by
  refine ⟨apply_steady h.steady hheard, ?_⟩
  intro w
  by_cases hw : Op.claimant op = some w
  · show Duty.Good _ w (x.duty w)
    rw [hidle w hw]
    trivial
  · exact good_apply h.steady hw (h.good w)

theorem claimedJob_known {s : Store Snapshot} (hs : UniqueShares s) {op : Op Snapshot}
    {j : ShareIndexJob} (h : claimedJob s op = some j) : Known (apply s op) j := by
  simp only [claimedJob] at h
  split at h
  · rename_i j' t hexec
    subst h
    have ht : apply s op = t := by simp only [apply, hexec]
    rw [ht]
    have hout := exec_outcome hs hexec
    generalize ha : (.job (some j) : Answer Snapshot) = a at hout
    cases hout with
    | idle op a quiet =>
      subst ha
      cases quiet
    | claimed jobId worker now leaseSeconds w k name found due =>
      cases ha
      obtain ⟨hk, rfl⟩ := lookup_mem found
      exact List.mem_map_of_mem (mem_setJob hk _)
    | polledClaim worker now leaseSeconds max locked w k u name given_up found due left =>
      cases ha
      exact List.mem_map_of_mem (mem_setJob found _)
    | _ => cases ha
  · cases h

theorem heard_of_free {s : Store Snapshot} {op : Op Snapshot} (h : Op.free op = true) :
    Heard s op := by
  cases op with
  | recordIndexJobFailure => cases h
  | _ => trivial

theorem claimant_of_free {op : Op Snapshot} (h : Op.free op = true) : Op.claimant op = none := by
  cases op with
  | claimIndexJob => cases h
  | claimNextIndexJob => cases h
  | _ => rfl

theorem heard_of_claimant {s : Store Snapshot} {op : Op Snapshot} {w : WorkerId}
    (h : Op.claimant op = some w) : Heard s op := by
  cases op with
  | recordIndexJobFailure => cases h
  | _ => trivial

theorem giveUp_heard {s : Store Snapshot} {w : WorkerId} {job : ShareIndexJob} {since now : Time}
    (h : Duty.Good s w (.stale job since)) (hle : since ≤ now) (error : String)
    (nextRetryAt : Option Time) (terminal : Bool) :
    Heard s (.recordIndexJobFailure (report w job .upsert) error nextRetryAt terminal now) := by
  intro j hheld
  obtain ⟨hrow, ⟨hid, hop, hv⟩, hrun, hown, e, he, hlt⟩ := heldJob_some hheld
  refine ⟨hop, ?_⟩
  rw [hid, hv]
  obtain hpast | hlost := h.2
  · exact hpast
  · obtain ⟨hj, hjid⟩ := lookup_mem hrow
    have hno := hlost j hj hjid now hle
    have hyes : j.leaseMatches w now = true := by
      simp only [ShareIndexJob.leaseMatches, Bool.and_eq_true, decide_eq_true_eq,
        Option.any_eq_true]
      exact ⟨⟨hrun, hown⟩, e, he, hlt⟩
    cases hno.symm.trans hyes

theorem step_orderly {x y : Desk Snapshot} {label : Label Snapshot} (h : Orderly x)
    (hstep : step x label = some y) : Orderly y := by
  cases label with
  | call op =>
    simp only [step] at hstep
    split at hstep
    · rename_i hfree
      cases hstep
      refine call_orderly h (heard_of_free hfree) ?_
      intro w hw
      cases (claimant_of_free hfree).symm.trans hw
    · cases hstep
  | claim op =>
    simp only [step] at hstep
    split at hstep
    · cases hstep
    · rename_i w hw
      split at hstep
      · rename_i hidle
        cases hstep
        have hcall : Orderly { x with store := apply x.store op } := by
          refine call_orderly h (heard_of_claimant hw) ?_
          intro v hv
          cases hw.symm.trans hv
          exact hidle
        cases hj : claimedJob x.store op with
        | none => exact hcall
        | some j =>
          refine orderly_assign hcall ⟨claimedJob_known h.steady.shares hj, ?_⟩
          intro hash htarget
          cases htarget
      · cases hstep
  | look w =>
    simp only [step] at hstep
    split at hstep
    · rename_i job target hduty
      split at hstep
      · rename_i hop
        cases hstep
        have hgood := h.good w
        rw [hduty] at hgood
        exact orderly_assign h (looked_good h.steady hop hgood)
      · cases hstep
    · cases hstep
  | complete w now =>
    simp only [step] at hstep
    split at hstep
    · rename_i job target hduty
      split at hstep
      · rename_i hop
        cases hstep
        have hgood := h.good w
        rw [hduty] at hgood
        have hcall : Orderly { x with
            store := apply x.store (.completeIndexOperation (report w job .upsert) now) } := by
          refine call_orderly h trivial ?_
          intro v hv
          cases hv
        have hnone : Op.claimant (.completeIndexOperation (report w job .upsert) now :
            Op Snapshot) ≠ some w := nofun
        refine orderly_assign hcall ?_
        split
        · exact good_apply h.steady hnone hgood
        · rename_i hno
          have hstale : Duty.Good x.store w (.stale job now) :=
            ⟨hgood.1, refused_stale h.steady hgood.1 hop (Bool.eq_false_of_not_eq_true hno)⟩
          exact good_apply h.steady hnone hstale
      · cases hstep
    · cases hstep
  | giveUp w error nextRetryAt terminal now =>
    simp only [step] at hstep
    split at hstep
    · rename_i job since hduty
      split at hstep
      · rename_i hle
        cases hstep
        have hgood := h.good w
        rw [hduty] at hgood
        have hcall : Orderly { x with
            store := apply x.store
              (.recordIndexJobFailure (report w job .upsert) error nextRetryAt terminal now) } := by
          refine call_orderly h (giveUp_heard hgood hle error nextRetryAt terminal) ?_
          intro v hv
          cases hv
        exact orderly_assign hcall trivial
      · cases hstep
    · cases hstep
  | leave w =>
    cases hstep
    exact orderly_assign h trivial

theorem run_orderly {labels : List (Label Snapshot)} {x : Desk Snapshot}
    (h : run step Desk.start labels = some x) : Orderly x :=
  run_invariant (fun _ _ _ hx hs => step_orderly hx hs) start_orderly h

/-- No version of a job is beyond its share's, and a share that waits on an index operation
has the job of its current version waiting or running. -/
structure WorkKept (s : Store Snapshot) : Prop where
  versions : ∀ j ∈ s.jobs, ∃ r, s.share j.shareId = some r ∧ j.indexVersion ≤ r.indexVersion
  upsert : ∀ id r, s.share id = some r → r.publicationStatus = .publishing →
    r.indexStatus = .pending → ∃ j, s.findVersionJob id .upsert r.indexVersion = some j ∧
      (j.status = .pending ∨ j.status = .running)
  delete : ∀ id r, s.share id = some r → r.publicationStatus = .unpublished →
    r.indexStatus = .deletePending → ∃ j, s.findVersionJob id .delete r.indexVersion = some j ∧
      (j.status = .pending ∨ j.status = .running)

theorem findVersionJob_of_mem {s : Store Snapshot} (h : UniqueJobs s) {j : ShareIndexJob}
    (hj : j ∈ s.jobs) {r : SharedGuideRecord Snapshot} {op : IndexOperation}
    (hfor : ShareIndexJob.isFor j r op) :
    s.findVersionJob r.shareId op r.indexVersion = some j := by
  have hrow := lookup_of_mem h.versions hj
  rw [← hrow, Store.findVersionJob, lookup]
  congr 1
  funext i
  rw [← hfor.1, ← hfor.2.1, ← hfor.2.2, Bool.eq_iff_iff]
  simp [versionKey, and_assoc]

theorem steady_workKept {s : Store Snapshot} (h : Steady s) : WorkKept s := by
  refine ⟨h.backed, ?_, ?_⟩
  · intro id r hr hp hi
    obtain ⟨j, hj, hfor, hopen⟩ := (h.served id r hr).waiting hp hi
    refine ⟨j, ?_, by simpa [ShareIndexJob.isOpen] using hopen⟩
    rw [← share_shareId hr]
    exact findVersionJob_of_mem h.jobs hj hfor
  · intro id r hr hp hi
    obtain ⟨j, hj, hfor, hopen⟩ := (h.served id r hr).leaving hp hi
    refine ⟨j, ?_, by simpa [ShareIndexJob.isOpen] using hopen⟩
    rw [← share_shareId hr]
    exact findVersionJob_of_mem h.jobs hj hfor

/-- The share table only moves forward. -/
def Forward (s t : Store Snapshot) : Prop :=
  ∀ id r, s.share id = some r → ∃ r', t.share id = some r' ∧ r.indexVersion ≤ r'.indexVersion

theorem forward_refl (s : Store Snapshot) : Forward s s := fun _ r hr => ⟨r, hr, Nat.le_refl _⟩

theorem forward_apply {s : Store Snapshot} (hs : UniqueShares s) (op : Op Snapshot) :
    Forward s (apply s op) := by
  intro id r hr
  obtain ⟨r', hr', hle, _⟩ := call_mono hs op hr
  exact ⟨r', hr', hle⟩

theorem step_forward {x y : Desk Snapshot} {label : Label Snapshot} (h : Orderly x)
    (hstep : step x label = some y) : Forward x.store y.store := by
  cases label with
  | call op =>
    simp only [step] at hstep
    split at hstep
    · cases hstep
      exact forward_apply h.steady.shares op
    · cases hstep
  | claim op =>
    simp only [step] at hstep
    split at hstep
    · cases hstep
    · split at hstep
      · cases hstep
        cases claimedJob x.store op with
        | none => exact forward_apply h.steady.shares op
        | some j => exact forward_apply h.steady.shares op
      · cases hstep
  | look w =>
    simp only [step] at hstep
    split at hstep
    · split at hstep
      · cases hstep
        exact forward_refl _
      · cases hstep
    · cases hstep
  | complete w now =>
    simp only [step] at hstep
    split at hstep
    · rename_i job target hduty
      split at hstep
      · cases hstep
        exact forward_apply h.steady.shares (.completeIndexOperation (report w job .upsert) now)
      · cases hstep
    · cases hstep
  | giveUp w error nextRetryAt terminal now =>
    simp only [step] at hstep
    split at hstep
    · split at hstep
      · cases hstep
        exact forward_apply h.steady.shares _
      · cases hstep
    · cases hstep
  | leave w =>
    cases hstep
    exact forward_refl _

/-- Whatever the service, the workers and the scripts do, with leases running out at any
time: versions only grow, no job is ahead of its share, and no share is stuck waiting for
an index operation that no job will perform. -/
theorem no_lost_indexing_work (labels : List (Label Snapshot)) :
    Always step (fun x => WorkKept x.store) (Desk.start : Desk Snapshot) labels ∧
      ∀ x label y, run step (Desk.start : Desk Snapshot) labels = some x →
        step x label = some y → Forward x.store y.store := by
  refine ⟨?_, ?_⟩
  · exact always_of_invariant (fun _ _ _ hx hs => step_orderly hx hs)
      (fun x hx => steady_workKept hx.steady) start_orderly labels
  · intro x label y hrun hstep
    exact step_forward (run_orderly hrun) hstep

/-- An update overtakes the upsert of the first version, whose worker finds it stale and gives
it up for good. -/
def overtaken : List (Label Unit) :=
  [.call (.createPublishIntent (draftOf "h1") 0 "g1" "j1"), .claim (.claimIndexJob "j1" "w" 1 60),
    .call (.stageUpdate "g1" "u1" (draftOf "h2") 2 true ⟨none, none, none, none⟩ "j2"), .look "w",
    .giveUp "w" "RuntimeError" none true 3]

theorem overtaken_upsert_is_replaced :
    ∃ x, run step Desk.start overtaken = some x ∧ WorkKept x.store ∧
      x.store.jobs.map ShareIndexJob.status = [.failed, .pending] := by
  have hrun : ((run step Desk.start overtaken).map fun x =>
      x.store.jobs.map ShareIndexJob.status) = some [.failed, .pending] := by
    decide +kernel
  obtain ⟨x, hx, hjobs⟩ := Option.map_eq_some_iff.mp hrun
  have hkept := always_last (P := fun x : Desk Unit => WorkKept x.store)
    (no_lost_indexing_work overtaken).1 hx
  exact ⟨x, hx, hkept, hjobs⟩

end TravelAgent.IndexWork
