import Mathlib
import TravelAgent.Attempts
import TravelAgent.ShareStore

namespace TravelAgent.ShareMoves

open TravelAgent.Leasing TravelAgent.Rows TravelAgent.ShareRecord TravelAgent.ShareStore
open TravelAgent.Attempts (bind_ok map_ok)

/-- A writing call on the share store, with the identifiers it would draw and,
for a polling claim, the jobs whose rows others hold locked. -/
inductive Op (Snapshot : Type)
  | createPublishIntent (draft : SharePublishDraft Snapshot) (now : Time) (shareId : ShareId)
      (jobId : JobId)
  | stageUpdate (id : ShareId) (author : UserId) (draft : SharePublishDraft Snapshot) (now : Time)
      (allowActiveUpsertSupersede : Bool) (expected : ExpectedIdentity) (jobId : JobId)
  | stageUnpublish (id : ShareId) (author : UserId) (now : Time) (jobId : JobId)
  | claimIndexJob (jobId : JobId) (worker : WorkerId) (now leaseSeconds : Time)
  | claimNextIndexJob (worker : WorkerId) (now leaseSeconds : Time) (maxAttempts : Nat)
      (locked : List JobId)
  | completeIndexOperation (p : Report) (now : Time)
  | recordIndexFailure (p : Report) (error : String) (nextRetryAt : Option Time) (terminal : Bool)
      (now : Time)
  | recordIndexJobFailure (p : Report) (error : String) (nextRetryAt : Option Time)
      (terminal : Bool) (now : Time)
  | supersedeIndexJob (jobId : JobId) (worker : Option WorkerId) (now : Time)
  | requeueCurrentUpsert (id : ShareId) (version : Nat) (hash : String) (now : Time)
  | putLike (id : ShareId) (user : UserId) (now : Time) (likeId : String)
  | deleteLike (id : ShareId) (user : UserId)
deriving DecidableEq, Repr

inductive Answer (Snapshot : Type)
  | intent (i : ShareIndexIntent Snapshot)
  | job (j : Option ShareIndexJob)
  | flag (value : Bool)
  | like (m : LikeMutation)
deriving DecidableEq, Repr

variable {Snapshot : Type}

def exec (s : Store Snapshot) : Op Snapshot → Except ShareError (Answer Snapshot × Store Snapshot)
  | .createPublishIntent draft now shareId jobId =>
    (createPublishIntent s draft now shareId jobId).map fun r => (.intent r.1, r.2)
  | .stageUpdate id author draft now allow expected jobId =>
    (stageUpdate s id author draft now allow expected jobId).map fun r => (.intent r.1, r.2)
  | .stageUnpublish id author now jobId =>
    (stageUnpublish s id author now jobId).map fun r => (.intent r.1, r.2)
  | .claimIndexJob jobId worker now leaseSeconds =>
    (claimIndexJob s jobId worker now leaseSeconds).map fun r => (.job r.1, r.2)
  | .claimNextIndexJob worker now leaseSeconds maxAttempts locked =>
    (claimNextIndexJob s worker now leaseSeconds maxAttempts locked).map fun r => (.job r.1, r.2)
  | .completeIndexOperation p now =>
    let r := completeIndexOperation s p now
    .ok (.flag r.1, r.2)
  | .recordIndexFailure p error nextRetryAt terminal now =>
    (recordIndexFailure s p error nextRetryAt terminal now).map fun r => (.flag r.1, r.2)
  | .recordIndexJobFailure p error nextRetryAt terminal now =>
    (recordIndexJobFailure s p error nextRetryAt terminal now).map fun r => (.flag r.1, r.2)
  | .supersedeIndexJob jobId worker now =>
    let r := supersedeIndexJob s jobId worker now
    .ok (.flag r.1, r.2)
  | .requeueCurrentUpsert id version hash now =>
    let r := requeueCurrentUpsert s id version hash now
    .ok (.flag r.1, r.2)
  | .putLike id user now likeId => (putLike s id user now likeId).map fun r => (.like r.1, r.2)
  | .deleteLike id user => (deleteLike s id user).map fun r => (.like r.1, r.2)

/-- The store after a call. A call that raises is rolled back. -/
def apply (s : Store Snapshot) (op : Op Snapshot) : Store Snapshot :=
  match exec s op with
  | .ok r => r.2
  | .error _ => s

/-- Everything a call can do to a stored share, with the guard it passed. -/
inductive ShareMove (s : Store Snapshot) :
    Op Snapshot → SharedGuideRecord Snapshot → SharedGuideRecord Snapshot → Prop
  | republished (r : SharedGuideRecord Snapshot) (draft : SharePublishDraft Snapshot) (now : Time)
      (shareId : ShareId) (jobId : JobId) (guard : r.unpublished = true) :
      ShareMove s (.createPublishIntent draft now shareId jobId) r
        (SharedGuideRecord.staged r draft now)
  | updated (r : SharedGuideRecord Snapshot) (author : UserId) (draft : SharePublishDraft Snapshot)
      (now : Time) (allow : Bool) (expected : ExpectedIdentity) (jobId : JobId)
      (guard : r.unpublished = false) :
      ShareMove s (.stageUpdate r.shareId author draft now allow expected jobId) r
        (SharedGuideRecord.staged r draft now)
  | withdrawn (r : SharedGuideRecord Snapshot) (author : UserId) (now : Time) (jobId : JobId)
      (guard : r.unpublished = false) :
      ShareMove s (.stageUnpublish r.shareId author now jobId) r (SharedGuideRecord.withdrawn r now)
  | completed (r : SharedGuideRecord Snapshot) (p : Report) (now : Time) (j : ShareIndexJob)
      (at_share : p.shareId = r.shareId) (held : s.heldJob p now = some j)
      (version : r.indexVersion = p.indexVersion) (guard : p.operation.expects r = true) :
      ShareMove s (.completeIndexOperation p now) r
        (SharedGuideRecord.completed r p.operation now)
  | failed (r : SharedGuideRecord Snapshot) (p : Report) (error : String)
      (nextRetryAt : Option Time) (terminal : Bool) (now : Time) (j : ShareIndexJob)
      (at_share : p.shareId = r.shareId) (held : s.heldJob p now = some j)
      (version : r.indexVersion = p.indexVersion) (guard : p.operation.expects r = true) :
      ShareMove s (.recordIndexFailure p error nextRetryAt terminal now) r
        (SharedGuideRecord.failedWith r p.operation (sanitizeError error) terminal now)
  | expired (r : SharedGuideRecord Snapshot) (worker : WorkerId) (now leaseSeconds : Time)
      (maxAttempts : Nat) (locked : List JobId) (op : IndexOperation)
      (guard : op.expects r = true) :
      ShareMove s (.claimNextIndexJob worker now leaseSeconds maxAttempts locked) r
        (SharedGuideRecord.leaseExpired r now)
  | requeued (r : SharedGuideRecord Snapshot) (hash : String) (now : Time)
      (guard : r.publicReady = true) :
      ShareMove s (.requeueCurrentUpsert r.shareId r.indexVersion hash now) r
        (SharedGuideRecord.requeued r now)
  | liked (r : SharedGuideRecord Snapshot) (user : UserId) (now : Time) (likeId : String)
      (guard : r.publicReady = true) :
      ShareMove s (.putLike r.shareId user now likeId) r { r with likeCount := r.likeCount + 1 }
  | unliked (r : SharedGuideRecord Snapshot) (user : UserId) (guard : r.publicReady = true) :
      ShareMove s (.deleteLike r.shareId user) r { r with likeCount := r.likeCount - 1 }

theorem move_version {s : Store Snapshot} {op : Op Snapshot} {r r' : SharedGuideRecord Snapshot}
    (h : ShareMove s op r r') : r.indexVersion ≤ r'.indexVersion := by
  cases h with
  | republished _ draft now shareId jobId guard => exact Nat.le_succ _
  | updated _ author draft now allow expected jobId guard => exact Nat.le_succ _
  | completed _ p now j at_share held version guard =>
    simp only [SharedGuideRecord.completed]
    split <;> exact Nat.le_refl _
  | _ => exact Nat.le_refl _

/-- What a call leaves under one share identifier. -/
inductive ShareChange (s : Store Snapshot) (op : Op Snapshot) (id : ShareId) :
    Option (SharedGuideRecord Snapshot) → Prop
  | kept : ShareChange s op id (s.share id)
  | created (draft : SharePublishDraft Snapshot) (now : Time) (jobId : JobId)
      (call : op = .createPublishIntent draft now id jobId) (absent : s.share id = none) :
      ShareChange s op id (some (newShare id draft now))
  | moved (r r' : SharedGuideRecord Snapshot) (found : s.share id = some r)
      (move : ShareMove s op r r') : ShareChange s op id (some r')

/-- What a call leaves of all shares. -/
structure Effect (s : Store Snapshot) (op : Op Snapshot) (s' : Store Snapshot) : Prop where
  change : ∀ id, ShareChange s op id (s'.share id)
  ids : s'.shares.map SharedGuideRecord.shareId = s.shares.map SharedGuideRecord.shareId ∨
    ∃ r, s'.shares = s.shares ++ [r] ∧ s.share r.shareId = none

def UniqueShares (s : Store Snapshot) : Prop := (s.shares.map SharedGuideRecord.shareId).Nodup

theorem setShare_share (s : Store Snapshot) (i : ShareId)
    {f : SharedGuideRecord Snapshot → SharedGuideRecord Snapshot}
    (hf : ∀ r, (f r).shareId = r.shareId) (id : ShareId) :
    (s.setShare i f).share id = (s.share id).map fun r => if r.shareId = i then f r else r := by
  have h := lookup_updateWhere SharedGuideRecord.shareId id
    (fun r : SharedGuideRecord Snapshot => decide (r.shareId = i)) f hf s.shares
  simpa only [Store.share, Store.setShare, decide_eq_true_eq] using h

theorem share_shareId {s : Store Snapshot} {id : ShareId} {r : SharedGuideRecord Snapshot}
    (h : s.share id = some r) : r.shareId = id :=
  (lookup_mem h).2

/-- An update of the row of one share changes that share as its move says. -/
theorem setShare_effect {s s' : Store Snapshot} {op : Op Snapshot} {i : ShareId}
    {f : SharedGuideRecord Snapshot → SharedGuideRecord Snapshot}
    (hf : ∀ r, (f r).shareId = r.shareId) (hshares : s'.shares = (s.setShare i f).shares)
    (hmove : ∀ r, s.share i = some r → ShareMove s op r (f r)) : Effect s op s' := by
  refine ⟨?_, ?_⟩
  swap
  · rw [hshares]
    exact Or.inl (map_updateWhere SharedGuideRecord.shareId _ f hf s.shares)
  intro id
  have hshare : s'.share id = (s.share id).map fun r => if r.shareId = i then f r else r := by
    rw [← setShare_share s i hf id, Store.share, Store.share, hshares]
  rw [hshare]
  cases hr : s.share id with
  | none =>
    rw [Option.map_none, ← hr]
    exact ShareChange.kept
  | some r =>
    have hid := share_shareId hr
    rw [Option.map_some]
    by_cases hi : r.shareId = i
    · rw [if_pos hi]
      refine ShareChange.moved r (f r) hr (hmove r ?_)
      rw [← hi, hid]
      exact hr
    · rw [if_neg hi, ← hr]
      exact ShareChange.kept

theorem effect_of_shares {s s' : Store Snapshot} {op : Op Snapshot} (h : s'.shares = s.shares) :
    Effect s op s' := by
  refine ⟨?_, ?_⟩
  · intro id
    rw [Store.share, h]
    exact ShareChange.kept
  · rw [h]
    exact Or.inl rfl

theorem supersede_ok {s s' : Store Snapshot} {id : ShareId} {now : Time} {rejectActive : Bool}
    (h : s.supersedeOldUpserts id now rejectActive = .ok s') :
    s' = { s with
      jobs := updateWhere (fun j => ShareIndexJob.supersedable j id now)
        (fun j => ShareIndexJob.retired j now) s.jobs } := by
  simp only [Store.supersedeOldUpserts] at h
  split at h
  · cases h
  · cases h
    rfl

theorem insertJob_ok {s s' : Store Snapshot} {job : ShareIndexJob} (h : s.insertJob job = .ok s') :
    s' = { s with jobs := s.jobs ++ [job] } := by
  simp only [Store.insertJob] at h
  split at h
  · cases h
  · cases h
    rfl

theorem stageNewUpsert_shares {s s' : Store Snapshot} {row : SharedGuideRecord Snapshot}
    {draft : SharePublishDraft Snapshot} {now : Time} {rejectActive : Bool} {jobId : JobId}
    {intent : ShareIndexIntent Snapshot}
    (h : s.stageNewUpsert row draft now rejectActive jobId = .ok (intent, s')) :
    s'.shares = (s.setShare row.shareId fun r => SharedGuideRecord.staged r draft now).shares := by
  obtain ⟨s1, h1, h⟩ := bind_ok h
  obtain ⟨s2, h2, h⟩ := bind_ok h
  obtain ⟨record, _, h⟩ := bind_ok h
  cases h
  rw [insertJob_ok h2]
  simp only [Store.setShare, supersede_ok h1]

theorem ownedBy_share {s : Store Snapshot} (hs : UniqueShares s) {author session : String}
    {r : SharedGuideRecord Snapshot} (h : s.ownedBy author session = some r) :
    s.share r.shareId = some r :=
  lookup_of_mem hs (List.mem_of_find?_eq_some h)

theorem owned_share {s : Store Snapshot} {id : ShareId} {author : UserId}
    {r : SharedGuideRecord Snapshot} (h : s.owned id author = some r) : s.share id = some r :=
  (Option.filter_eq_some_iff.mp h).1

theorem tryPublish_effect {s s' : Store Snapshot} (hs : UniqueShares s)
    {draft : SharePublishDraft Snapshot} {now : Time} {shareId : ShareId} {jobId : JobId}
    {intent : ShareIndexIntent Snapshot}
    (h : s.tryPublish draft now shareId jobId = .ok (intent, s')) :
    Effect s (.createPublishIntent draft now shareId jobId) s' := by
  simp only [Store.tryPublish] at h
  split at h
  · rename_i existing hex
    obtain ⟨record, hr, h⟩ := bind_ok h
    cases recordFromRow_ok hr
    split at h
    · rename_i hu
      refine setShare_effect ?_ (stageNewUpsert_shares h) ?_
      · exact fun r => rfl
      intro r hr
      cases (ownedBy_share hs hex).symm.trans hr
      exact ShareMove.republished existing draft now shareId jobId hu
    · split at h
      · cases h
      · split at h
        · cases h
          exact effect_of_shares rfl
        · cases h
          exact effect_of_shares rfl
  · split at h
    · cases h
    · rename_i hfresh
      obtain ⟨s1, h1, h⟩ := bind_ok h
      obtain ⟨record, _, h⟩ := bind_ok h
      cases h
      have hnone : s.share shareId = none := by
        refine List.find?_eq_none.mpr ?_
        intro r hr hid
        exact hfresh (List.any_eq_true.mpr ⟨r, hr, hid⟩)
      have hshares : s'.shares = s.shares ++ [newShare shareId draft now] := by
        rw [insertJob_ok h1]
      refine ⟨?_, Or.inr ⟨_, hshares, hnone⟩⟩
      intro id
      rw [Store.share, hshares]
      by_cases hid : shareId = id
      · subst hid
        rw [lookup_append_none (r := newShare shareId draft now) hnone rfl]
        exact ShareChange.created draft now jobId rfl hnone
      · rw [lookup_append_ne (r := newShare shareId draft now) hid]
        exact ShareChange.kept

theorem createPublishIntent_effect {s s' : Store Snapshot} (hs : UniqueShares s)
    {draft : SharePublishDraft Snapshot} {now : Time} {shareId : ShareId} {jobId : JobId}
    {intent : ShareIndexIntent Snapshot}
    (h : createPublishIntent s draft now shareId jobId = .ok (intent, s')) :
    Effect s (.createPublishIntent draft now shareId jobId) s' := by
  simp only [createPublishIntent] at h
  split at h
  · split at h
    · cases h
    · obtain ⟨record, _, h⟩ := bind_ok h
      split at h
      · cases h
      · cases h
        exact effect_of_shares rfl
  · exact tryPublish_effect hs h

theorem stageUpdate_effect {s s' : Store Snapshot} {i : ShareId} {author : UserId}
    {draft : SharePublishDraft Snapshot} {now : Time} {allow : Bool} {expected : ExpectedIdentity}
    {jobId : JobId} {intent : ShareIndexIntent Snapshot}
    (h : stageUpdate s i author draft now allow expected jobId = .ok (intent, s')) :
    Effect s (.stageUpdate i author draft now allow expected jobId) s' := by
  simp only [stageUpdate] at h
  split at h
  · cases h
  · split at h
    · cases h
    · rename_i row hrow
      obtain ⟨_, _, h⟩ := bind_ok h
      split at h
      · cases h
      · split at h
        · cases h
        · rename_i hu
          have hshare := owned_share hrow
          refine setShare_effect ?_ (stageNewUpsert_shares h) ?_
          · exact fun r => rfl
          intro r hr
          rw [share_shareId hshare] at hr
          cases hshare.symm.trans hr
          cases share_shareId hshare
          exact ShareMove.updated row author draft now allow expected jobId
            (Bool.eq_false_of_not_eq_true hu)

theorem stageUnpublish_effect {s s' : Store Snapshot} {i : ShareId} {author : UserId} {now : Time}
    {jobId : JobId} {intent : ShareIndexIntent Snapshot}
    (h : stageUnpublish s i author now jobId = .ok (intent, s')) :
    Effect s (.stageUnpublish i author now jobId) s' := by
  simp only [stageUnpublish] at h
  split at h
  · cases h
  · rename_i row hrow
    have hshare := owned_share hrow
    obtain ⟨record, hr, h⟩ := bind_ok h
    cases recordFromRow_ok hr
    split at h
    · cases h
      exact effect_of_shares rfl
    · rename_i hu
      obtain ⟨s1, h1, h⟩ := bind_ok h
      obtain ⟨s2, h2, h⟩ := bind_ok h
      obtain ⟨record, _, h⟩ := bind_ok h
      cases h
      refine setShare_effect (f := fun r => SharedGuideRecord.withdrawn r now) (i := i)
        (fun r => rfl) ?_ ?_
      · rw [insertJob_ok h2]
        simp only [Store.setShare, supersede_ok h1]
      · intro r hr
        cases hshare.symm.trans hr
        cases share_shareId hshare
        exact ShareMove.withdrawn row author now jobId (Bool.eq_false_of_not_eq_true hu)

theorem claimIndexJob_shares {s s' : Store Snapshot} {jobId : JobId} {worker : WorkerId}
    {now leaseSeconds : Time} {j : Option ShareIndexJob}
    (h : claimIndexJob s jobId worker now leaseSeconds = .ok (j, s')) : s'.shares = s.shares := by
  obtain ⟨w, _, h⟩ := bind_ok h
  split at h
  · cases h
    rfl
  · split at h
    · cases h
      rfl
    · cases h
      rfl

/-- Rounds of a polling claim mark a share as failed, at most once and for all. -/
theorem claimRounds_share (s : Store Snapshot) (worker : WorkerId) (now leaseSeconds : Time)
    (maxAttempts : Nat) (locked : List JobId) (rounds : Nat) (skipped : List JobId) (id : ShareId) :
    (s.claimRounds worker now leaseSeconds maxAttempts locked rounds skipped).2.share id =
        s.share id ∨
      ∃ r op, s.share id = some r ∧ IndexOperation.expects op r = true ∧
        (s.claimRounds worker now leaseSeconds maxAttempts locked rounds skipped).2.share id =
          some (SharedGuideRecord.leaseExpired r now) := by
  induction rounds generalizing s skipped with
  | zero => exact Or.inl rfl
  | succ rounds ih =>
    simp only [Store.claimRounds]
    split
    · exact Or.inl rfl
    · rename_i j _
      split
      · exact ih s (j.jobId :: skipped)
      · split
        · have hstep : (s.terminalizeExpiredClaim j now).share id = s.share id ∨
              ∃ r, s.share id = some r ∧ IndexOperation.expects j.operation r = true ∧
                (s.terminalizeExpiredClaim j now).share id =
                  some (SharedGuideRecord.leaseExpired r now) := by
            have hset := setShare_share s j.shareId
              (f := fun r => if r.indexVersion = j.indexVersion ∧ j.operation.expects r = true then
                SharedGuideRecord.leaseExpired r now else r) (by intro r; split <;> rfl) id
            have hjob : (s.terminalizeExpiredClaim j now).share id = _ := hset
            rw [hjob]
            cases hr : s.share id with
            | none => exact Or.inl rfl
            | some r =>
              rw [Option.map_some]
              by_cases hid : r.shareId = j.shareId
              · by_cases hg : r.indexVersion = j.indexVersion ∧ j.operation.expects r = true
                · refine Or.inr ⟨r, rfl, hg.2, ?_⟩
                  rw [if_pos hid, if_pos hg]
                · exact Or.inl (by rw [if_pos hid, if_neg hg])
              · exact Or.inl (by rw [if_neg hid])
          obtain hsame | ⟨q, op, hq, hop, hend⟩ := ih (s.terminalizeExpiredClaim j now) skipped
          · rw [hsame]
            obtain hs | ⟨r, hr, hx, hs⟩ := hstep
            · exact Or.inl hs
            · exact Or.inr ⟨r, j.operation, hr, hx, hs⟩
          · rw [hend]
            obtain hs | ⟨r, hr, hx, hs⟩ := hstep
            · exact Or.inr ⟨q, op, hs.symm.trans hq, hop, rfl⟩
            · cases hs.symm.trans hq
              exact Or.inr ⟨r, j.operation, hr, hx, rfl⟩
        · exact Or.inl rfl

theorem claimRounds_ids (s : Store Snapshot) (worker : WorkerId) (now leaseSeconds : Time)
    (maxAttempts : Nat) (locked : List JobId) (rounds : Nat) (skipped : List JobId) :
    (s.claimRounds worker now leaseSeconds maxAttempts locked rounds skipped).2.shares.map
      SharedGuideRecord.shareId = s.shares.map SharedGuideRecord.shareId := by
  induction rounds generalizing s skipped with
  | zero => rfl
  | succ rounds ih =>
    simp only [Store.claimRounds]
    split
    · rfl
    · split
      · exact ih s _
      · split
        · rw [ih]
          refine map_updateWhere SharedGuideRecord.shareId _ _ ?_ s.shares
          intro r
          split <;> rfl
        · rfl

theorem settleReport_cases (s : Store Snapshot) (p : Report) (now : Time)
    (f : SharedGuideRecord Snapshot → SharedGuideRecord Snapshot)
    (g : ShareIndexJob → ShareIndexJob) :
    s.settleReport p now f g = (false, s) ∨
      ∃ r j, s.share p.shareId = some r ∧ r.indexVersion = p.indexVersion ∧
        s.heldJob p now = some j ∧ p.operation.expects r = true ∧
        s.settleReport p now f g = (true, (s.setShare p.shareId f).setJob p.jobId g) := by
  simp only [Store.settleReport]
  split
  · exact Or.inl rfl
  · rename_i r hr
    obtain ⟨hshare, hv⟩ := Option.filter_eq_some_iff.mp hr
    split
    · exact Or.inl rfl
    · rename_i j hj
      split
      · rename_i hx
        exact Or.inr ⟨r, j, hshare, of_decide_eq_true hv, hj, hx, rfl⟩
      · exact Or.inl rfl

theorem requeue_cases (s : Store Snapshot) (id : ShareId) (version : Nat) (hash : String)
    (now : Time) :
    requeueCurrentUpsert s id version hash now = (false, s) ∨
      ∃ r j g, s.share id = some r ∧ r.indexVersion = version ∧ r.publicReady = true ∧
        s.findVersionJob id .upsert version = some j ∧
        requeueCurrentUpsert s id version hash now =
          (true, (s.setShare id fun r => SharedGuideRecord.requeued r now).setJob j.jobId g) := by
  simp only [requeueCurrentUpsert]
  split
  · exact Or.inl rfl
  · rename_i r hr
    split
    · rename_i hg
      split
      · exact Or.inl rfl
      · rename_i j hj
        exact Or.inr ⟨r, j, _, hr, hg.1, hg.2.2, (Option.filter_eq_some_iff.mp hj).1, rfl⟩
    · exact Or.inl rfl

theorem putLike_effect {s s' : Store Snapshot} {i : ShareId} {user : UserId} {now : Time}
    {likeId : String} {m : LikeMutation} (h : putLike s i user now likeId = .ok (m, s')) :
    Effect s (.putLike i user now likeId) s' := by
  obtain ⟨r, hr, h⟩ := bind_ok h
  have hshare : s.share i = some r ∧ r.publicReady = true := by
    simp only [Store.publicReadyShare] at hr
    split at hr
    · cases hr
    · rename_i q hq
      cases hr
      exact Option.filter_eq_some_iff.mp hq
  split at h
  · cases h
  · cases h
    split
    · exact effect_of_shares rfl
    · refine setShare_effect (f := fun r => { r with likeCount := r.likeCount + 1 }) (i := i)
        (fun r => rfl) rfl ?_
      intro q hq
      cases hshare.1.symm.trans hq
      cases share_shareId hshare.1
      exact ShareMove.liked r user now likeId hshare.2

theorem deleteLike_effect {s s' : Store Snapshot} {i : ShareId} {user : UserId}
    {m : LikeMutation} (h : deleteLike s i user = .ok (m, s')) :
    Effect s (.deleteLike i user) s' := by
  obtain ⟨r, hr, h⟩ := bind_ok h
  have hshare : s.share i = some r ∧ r.publicReady = true := by
    simp only [Store.publicReadyShare] at hr
    split at hr
    · cases hr
    · rename_i q hq
      cases hr
      exact Option.filter_eq_some_iff.mp hq
  split at h
  · cases h
  · cases h
    split
    · refine setShare_effect (f := fun r => { r with likeCount := r.likeCount - 1 }) (i := i)
        (fun r => rfl) rfl ?_
      intro q hq
      cases hshare.1.symm.trans hq
      cases share_shareId hshare.1
      exact ShareMove.unliked r user hshare.2
    · exact effect_of_shares rfl

theorem exec_effect {s s' : Store Snapshot} (hs : UniqueShares s) {op : Op Snapshot}
    {a : Answer Snapshot} (h : exec s op = .ok (a, s')) : Effect s op s' := by
  cases op with
  | createPublishIntent draft now shareId jobId =>
    obtain ⟨⟨intent, s1⟩, h1, h⟩ := map_ok h
    cases h
    exact createPublishIntent_effect hs h1
  | stageUpdate i author draft now allow expected jobId =>
    obtain ⟨⟨intent, s1⟩, h1, h⟩ := map_ok h
    cases h
    exact stageUpdate_effect h1
  | stageUnpublish i author now jobId =>
    obtain ⟨⟨intent, s1⟩, h1, h⟩ := map_ok h
    cases h
    exact stageUnpublish_effect h1
  | claimIndexJob jobId worker now leaseSeconds =>
    obtain ⟨⟨j, s1⟩, h1, h⟩ := map_ok h
    cases h
    exact effect_of_shares (claimIndexJob_shares h1)
  | claimNextIndexJob worker now leaseSeconds maxAttempts locked =>
    obtain ⟨⟨j, s1⟩, h1, h⟩ := map_ok h
    cases h
    obtain ⟨w, _, h1⟩ := bind_ok h1
    split at h1
    · cases h1
    · have hs1 : s1 = (s.claimRounds w now leaseSeconds maxAttempts locked
          (s.jobs.length + 1) []).2 := congrArg Prod.snd (Except.ok.inj h1).symm
      rw [hs1]
      refine ⟨?_, Or.inl (claimRounds_ids s w now leaseSeconds maxAttempts locked _ [])⟩
      intro id
      rcases claimRounds_share s w now leaseSeconds maxAttempts locked (s.jobs.length + 1) [] id with
        hsame | ⟨r, op, hr, hx, hend⟩
      · rw [hsame]
        exact ShareChange.kept
      · rw [hend]
        exact ShareChange.moved r _ hr (ShareMove.expired r worker now leaseSeconds maxAttempts
          locked op hx)
  | completeIndexOperation p now =>
    cases h
    rcases settleReport_cases s p now (fun r => SharedGuideRecord.completed r p.operation now) _ with
      hsame | ⟨r, j, hr, hv, hj, hx, hend⟩
    · rw [completeIndexOperation, hsame]
      exact effect_of_shares rfl
    · rw [completeIndexOperation, hend]
      refine setShare_effect (f := fun r => SharedGuideRecord.completed r p.operation now)
        (i := p.shareId) ?_ rfl ?_
      · intro q
        simp only [SharedGuideRecord.completed]
        split <;> rfl
      · intro q hq
        cases hr.symm.trans hq
        exact ShareMove.completed r p now j (share_shareId hr).symm hj hv hx
  | recordIndexFailure p error nextRetryAt terminal now =>
    obtain ⟨⟨b, s1⟩, h1, h⟩ := map_ok h
    cases h
    simp only [recordIndexFailure] at h1
    split at h1
    · cases h1
    · rcases settleReport_cases s p now (fun r => SharedGuideRecord.failedWith r p.operation
        (sanitizeError error) terminal now) (fun j => ShareIndexJob.failedWith j
        (sanitizeError error) nextRetryAt terminal now) with hsame | ⟨r, j, hr, hv, hj, hx, hend⟩
      · rw [hsame] at h1
        cases h1
        exact effect_of_shares rfl
      · rw [hend] at h1
        cases h1
        refine setShare_effect (f := fun r => SharedGuideRecord.failedWith r p.operation
          (sanitizeError error) terminal now) (i := p.shareId) (fun q => rfl) rfl ?_
        intro q hq
        cases hr.symm.trans hq
        exact ShareMove.failed r p error nextRetryAt terminal now j (share_shareId hr).symm hj hv hx
  | recordIndexJobFailure p error nextRetryAt terminal now =>
    obtain ⟨⟨b, s1⟩, h1, h⟩ := map_ok h
    cases h
    simp only [recordIndexJobFailure] at h1
    split at h1
    · cases h1
    · split at h1
      · cases h1
        exact effect_of_shares rfl
      · cases h1
        exact effect_of_shares rfl
  | supersedeIndexJob jobId worker now =>
    cases h
    refine effect_of_shares ?_
    simp only [supersedeIndexJob]
    split
    · rfl
    · split
      · rfl
      · split <;> split <;> rfl
  | requeueCurrentUpsert i version hash now =>
    cases h
    obtain hsame | ⟨r, j, g, hr, hv, hp, _, hend⟩ := requeue_cases s i version hash now
    · rw [hsame]
      exact effect_of_shares rfl
    · rw [hend]
      refine setShare_effect (f := fun r => SharedGuideRecord.requeued r now) (i := i)
        (fun q => rfl) rfl ?_
      intro q hq
      cases hr.symm.trans hq
      cases share_shareId hr
      cases hv
      exact ShareMove.requeued r hash now hp
  | putLike i user now likeId =>
    obtain ⟨⟨m, s1⟩, h1, h⟩ := map_ok h
    cases h
    exact putLike_effect h1
  | deleteLike i user =>
    obtain ⟨⟨m, s1⟩, h1, h⟩ := map_ok h
    cases h
    exact deleteLike_effect h1

theorem apply_effect {s : Store Snapshot} (hs : UniqueShares s) (op : Op Snapshot) :
    Effect s op (apply s op) := by
  simp only [apply]
  split
  · rename_i r hr
    exact exec_effect hs hr
  · exact effect_of_shares rfl

theorem apply_unique {s : Store Snapshot} (hs : UniqueShares s) (op : Op Snapshot) :
    UniqueShares (apply s op) := by
  obtain hids | ⟨r, hr, hnone⟩ := (apply_effect hs op).ids
  · rw [UniqueShares, hids]
    exact hs
  · rw [UniqueShares, hr, List.map_append]
    refine List.nodup_append.mpr ⟨hs, List.nodup_singleton _, ?_⟩
    intro i hi j hj hij
    obtain ⟨q, hq, rfl⟩ := List.mem_map.mp hi
    rw [List.map_singleton, List.mem_singleton] at hj
    exact List.find?_eq_none.mp hnone q hq (decide_eq_true (hij.trans hj))

theorem empty_unique : UniqueShares (Store.empty : Store Snapshot) := List.nodup_nil

end TravelAgent.ShareMoves
