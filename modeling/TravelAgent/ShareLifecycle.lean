import TravelAgent.ShareMoves
import TravelAgent.ShareReads

namespace TravelAgent.ShareLifecycle

open TravelAgent.Leasing TravelAgent.Rows TravelAgent.ShareRecord TravelAgent.ShareStore
open TravelAgent.ShareReads TravelAgent.ShareMoves

variable {Snapshot : Type}

/-- The store after a sequence of calls, each one transaction. -/
def replay (s : Store Snapshot) (ops : List (Op Snapshot)) : Store Snapshot := ops.foldl apply s

/-- No public read returns the share. -/
structure Hidden (s : Store Snapshot) (id : ShareId) : Prop where
  getPublic : ∀ username viewer,
    ShareReads.getPublic s username id viewer = .error (.sharedGuideNotFound id)
  listPublic : ∀ codec username q viewer page,
    ShareReads.listPublic codec s username q viewer = .ok page →
    ∀ item ∈ page.items, item.record.shareId ≠ id
  bulkGetReady : ∀ identities excludeSession records,
    ShareReads.bulkGetReady s identities excludeSession = .ok records →
    ∀ r ∈ records, r.shareId ≠ id

theorem replay_unique {s : Store Snapshot} (hs : UniqueShares s) (ops : List (Op Snapshot)) :
    UniqueShares (replay s ops) := by
  induction ops generalizing s with
  | nil => exact hs
  | cons op ops ih => exact ih (apply_unique hs op)

theorem publicReady_not_unpublished {r : SharedGuideRecord Snapshot} (h : r.publicReady = true) :
    r.unpublished = false := by
  simp only [SharedGuideRecord.publicReady, Bool.and_eq_true, decide_eq_true_eq] at h
  simp only [SharedGuideRecord.unpublished, h.1, reduceCtorEq, decide_false]

theorem unpublished_hidden {s : Store Snapshot} (hs : UniqueShares s) {id : ShareId}
    {r : SharedGuideRecord Snapshot} (hr : s.share id = some r) (hu : r.unpublished = true) :
    Hidden s id := by
  have hnot : ∀ q ∈ s.shares, q.publicReady = true → q.shareId ≠ id := by
    rintro q hq hp rfl
    have hq' : s.share q.shareId = some q := lookup_of_mem hs hq
    cases hq'.symm.trans hr
    rw [publicReady_not_unpublished hp] at hu
    cases hu
  refine ⟨?_, ?_, ?_⟩
  · intro username viewer
    have hp : r.publicReady = false := by
      by_contra hne
      rw [publicReady_not_unpublished (Bool.eq_true_of_not_eq_false hne)] at hu
      cases hu
    simp [ShareReads.getPublic, hr, Option.filter, hp]
  · intro codec username q viewer page h item hi
    obtain ⟨hm, hp⟩ := listPublic_ready h hi
    exact hnot _ hm hp
  · intro identities excludeSession records h q hq
    obtain ⟨hm, hp⟩ := bulkGetReady_ready h hq
    exact hnot _ hm hp

theorem expects_upsert {r : SharedGuideRecord Snapshot} (h : IndexOperation.expects .upsert r = true) :
    r.publicationStatus = .publishing := by
  simp only [IndexOperation.expects, Bool.and_eq_true, decide_eq_true_eq] at h
  exact h.1

theorem expects_delete {r : SharedGuideRecord Snapshot} (h : IndexOperation.expects .delete r = true) :
    r.publicationStatus = .unpublished := by
  simp only [IndexOperation.expects, Bool.and_eq_true, decide_eq_true_eq] at h
  exact h.1

/-- An unpublished share only leaves this status by a publish intent, which
stages the next version. -/
theorem move_unpublished {s : Store Snapshot} {op : Op Snapshot}
    {r r' : SharedGuideRecord Snapshot} (h : ShareMove s op r r') (hu : r.unpublished = true) :
    r'.unpublished = true ∧ r'.indexVersion = r.indexVersion ∨
      ∃ draft now shareId jobId, op = .createPublishIntent draft now shareId jobId ∧
        r' = SharedGuideRecord.staged r draft now := by
  have hpub : r.publicationStatus = .unpublished := of_decide_eq_true hu
  cases h with
  | republished _ draft now shareId jobId guard => exact Or.inr ⟨draft, now, shareId, jobId, rfl, rfl⟩
  | updated _ author draft now allow expected jobId guard => cases guard.symm.trans hu
  | withdrawn _ author now jobId guard => cases guard.symm.trans hu
  | completed _ p now j at_share held version guard =>
    cases hop : p.operation with
    | upsert =>
      rw [hop] at guard
      cases (expects_upsert guard).symm.trans hpub
    | delete => exact Or.inl ⟨rfl, rfl⟩
  | failed _ p error nextRetryAt terminal now j at_share held version guard =>
    exact Or.inl ⟨hu, rfl⟩
  | expired _ worker now leaseSeconds maxAttempts locked op guard => exact Or.inl ⟨hu, rfl⟩
  | requeued _ hash now guard =>
    rw [publicReady_not_unpublished guard] at hu
    cases hu
  | liked _ user now likeId guard => exact Or.inl ⟨hu, rfl⟩
  | unliked _ user guard => exact Or.inl ⟨hu, rfl⟩

/-- The report completes the upsert of this version of the share, and its worker
holds the unexpired lease on that job. -/
structure CompletesUpsert (s : Store Snapshot) (op : Op Snapshot) (id : ShareId) (v : Nat)
    (p : Report) (now : Time) (j : ShareIndexJob) : Prop where
  call : op = .completeIndexOperation p now
  upsert : p.operation = .upsert
  share : p.shareId = id
  version : p.indexVersion = v
  job : s.job p.jobId = some j
  jobKey : j.shareId = id ∧ j.operation = .upsert ∧ j.indexVersion = v
  lease : j.status = .running ∧ j.leaseOwner = some p.worker ∧
    ∃ e, j.leaseExpiresAt = some e ∧ now < e

theorem heldJob_some {s : Store Snapshot} {p : Report} {now : Time} {j : ShareIndexJob}
    (h : s.heldJob p now = some j) :
    s.job p.jobId = some j ∧ (j.shareId = p.shareId ∧ j.operation = p.operation ∧
      j.indexVersion = p.indexVersion) ∧
      j.status = .running ∧ j.leaseOwner = some p.worker ∧
        ∃ e, j.leaseExpiresAt = some e ∧ now < e := by
  obtain ⟨hj, hp⟩ := Option.filter_eq_some_iff.mp h
  simp only [ShareIndexJob.leaseMatches, Bool.and_eq_true, decide_eq_true_eq, Option.any_eq_true]
    at hp
  obtain ⟨⟨⟨hs, hv⟩, ho⟩, ⟨hr, hl⟩, he⟩ := hp
  exact ⟨hj, ⟨hs, ho, hv⟩, hr, hl, he⟩

theorem move_ready {s : Store Snapshot} {op : Op Snapshot} {r r' : SharedGuideRecord Snapshot}
    (h : ShareMove s op r r') (hp : r'.publicReady = true) :
    r.publicReady = true ∧ r.indexVersion = r'.indexVersion ∨
      ∃ p now j, CompletesUpsert s op r.shareId r'.indexVersion p now j := by
  cases h with
  | republished _ draft now shareId jobId guard => cases hp
  | updated _ author draft now allow expected jobId guard => cases hp
  | withdrawn _ author now jobId guard => cases hp
  | completed _ p now j at_share held version guard =>
    cases hop : p.operation with
    | upsert =>
      obtain ⟨hj, ⟨hs, ho, hv⟩, hl⟩ := heldJob_some held
      refine Or.inr ⟨p, now, j, rfl, hop, at_share, version.symm, hj, ⟨hs.trans at_share, ?_, ?_⟩, hl⟩
      · rw [ho, hop]
      · exact hv.trans version.symm
    | delete =>
      rw [hop] at hp
      cases hp
  | failed _ p error nextRetryAt terminal now j at_share held version guard =>
    cases hop : p.operation <;> cases terminal <;>
      simp [SharedGuideRecord.publicReady, SharedGuideRecord.failedWith, hop] at hp
  | expired _ worker now leaseSeconds maxAttempts locked op guard =>
    simp [SharedGuideRecord.publicReady, SharedGuideRecord.leaseExpired] at hp
  | requeued _ hash now guard => cases hp
  | liked _ user now likeId guard => exact Or.inl ⟨guard, rfl⟩
  | unliked _ user guard => exact Or.inl ⟨guard, rfl⟩

/-- In the run a publish intent stages the version after `version` of the share. -/
def Restaged (s : Store Snapshot) (more : List (Op Snapshot)) (id : ShareId) (version : Nat) :
    Prop :=
  ∃ early draft now shareId jobId late q,
    more = early ++ .createPublishIntent draft now shareId jobId :: late ∧
    (replay s early).share id = some q ∧ q.unpublished = true ∧ q.indexVersion = version ∧
    (apply (replay s early) (.createPublishIntent draft now shareId jobId)).share id =
      some (SharedGuideRecord.staged q draft now)

theorem replay_unpublished {s : Store Snapshot} (hs : UniqueShares s) {id : ShareId}
    {r : SharedGuideRecord Snapshot} (hr : s.share id = some r) (hu : r.unpublished = true)
    (more : List (Op Snapshot)) :
    (∃ r', (replay s more).share id = some r' ∧ r'.unpublished = true ∧
        r'.indexVersion = r.indexVersion) ∨ Restaged s more id r.indexVersion := by
  induction more generalizing s r with
  | nil => exact Or.inl ⟨r, hr, hu, rfl⟩
  | cons op more ih =>
    have hs' := apply_unique hs op
    have hlift : ∀ v, Restaged (apply s op) more id v → Restaged s (op :: more) id v := by
      rintro v ⟨early, draft, now, shareId, jobId, late, q, rfl, hq⟩
      exact ⟨op :: early, draft, now, shareId, jobId, late, q, rfl, hq⟩
    have hchange := (apply_effect hs op).change id
    generalize hafter : (apply s op).share id = after at hchange
    cases hchange with
    | kept => exact (ih hs' (hafter.trans hr) hu).imp_right (hlift _)
    | created draft now jobId call absent => cases absent.symm.trans hr
    | moved q q' found move =>
      cases found.symm.trans hr
      obtain ⟨hu', hv⟩ | ⟨draft, now, shareId, jobId, rfl, rfl⟩ := move_unpublished move hu
      · rw [← hv]
        exact (ih hs' hafter hu').imp_right (hlift _)
      · exact Or.inr ⟨[], draft, now, shareId, jobId, more, r, rfl, hr, hu, rfl, hafter⟩

/-- Once unpublished, a share stays unpublished and out of every public read
until a publish intent stages its next version, and a version becomes public
only by the completion of its own upsert job under an unexpired lease. -/
theorem unpublished_shares_stay_hidden (ops : List (Op Snapshot)) :
    (∀ id r more, (replay Store.empty ops).share id = some r → r.unpublished = true →
      (∃ r', (replay (replay Store.empty ops) more).share id = some r' ∧ r'.unpublished = true ∧
        r'.indexVersion = r.indexVersion ∧ Hidden (replay (replay Store.empty ops) more) id) ∨
      Restaged (replay Store.empty ops) more id r.indexVersion) ∧
    ∀ op id r', (apply (replay Store.empty ops) op).share id = some r' → r'.publicReady = true →
      (∃ r, (replay Store.empty ops).share id = some r ∧ r.publicReady = true ∧
        r.indexVersion = r'.indexVersion) ∨
      ∃ p now j, CompletesUpsert (replay Store.empty ops) op id r'.indexVersion p now j := by
  have hs : UniqueShares (replay (Store.empty : Store Snapshot) ops) :=
    replay_unique empty_unique ops
  refine ⟨?_, ?_⟩
  · intro id r more hr hu
    obtain ⟨r', hr', hu', hv⟩ | hstaged := replay_unpublished hs hr hu more
    · exact Or.inl ⟨r', hr', hu', hv, unpublished_hidden (replay_unique hs more) hr' hu'⟩
    · exact Or.inr hstaged
  · intro op id r' hr' hp
    have hchange := (apply_effect hs op).change id
    rw [hr'] at hchange
    generalize hafter : some r' = after at hchange
    cases hchange with
    | kept => exact Or.inl ⟨r', hafter.symm, hp, rfl⟩
    | created draft now jobId call absent =>
      cases hafter
      cases hp
    | moved q q' found move =>
      cases hafter
      cases share_shareId found
      obtain ⟨hq, hv⟩ | hc := move_ready move hp
      · exact Or.inl ⟨q, found, hq, hv⟩
      · exact Or.inr hc

def draftOf (hash : String) : SharePublishDraft Unit :=
  ⟨"u1", "s1", "v1", 1, "北京三日游", "北京", "北京", 3, "公共交通", "经济型酒店", [], (), "北京", hash,
    "good", none, "embedding", 768, "v1"⟩

/-- A share is published, a worker takes its upsert job, and the author
unpublishes the share while the job is running. -/
def withdrawnWhileIndexing : List (Op Unit) :=
  [.createPublishIntent (draftOf "h1") 0 "g1" "j1", .claimIndexJob "j1" "w" 1 1000000,
    .stageUnpublish "g1" "u1" 2 "j2"]

def lateCompletion : Op Unit := .completeIndexOperation ⟨"j1", "g1", 1, .upsert, "w"⟩ 3

theorem late_completion_stays_hidden :
    ∃ r', (replay (replay Store.empty withdrawnWhileIndexing) [lateCompletion]).share "g1" = some r' ∧
      r'.unpublished = true ∧ r'.indexVersion = 1 ∧
      Hidden (replay (replay Store.empty withdrawnWhileIndexing) [lateCompletion]) "g1" := by
  have h : ((replay Store.empty withdrawnWhileIndexing).share "g1").any (fun r =>
      r.unpublished && r.indexVersion == 1) = true := by
    decide +kernel
  obtain ⟨r, hr, hp⟩ := (Option.any_eq_true _ _).mp h
  simp only [Bool.and_eq_true, beq_iff_eq] at hp
  rcases (unpublished_shares_stay_hidden withdrawnWhileIndexing).1 "g1" r [lateCompletion] hr hp.1 with
    ⟨r', hr', hu', hv, hhidden⟩ | ⟨early, _, _, _, _, late, _, hmore, _⟩
  · exact ⟨r', hr', hu', hv.trans hp.2, hhidden⟩
  · cases early with
    | nil => cases hmore
    | cons op early =>
      have hlen := congrArg List.length hmore
      simp at hlen

end TravelAgent.ShareLifecycle
