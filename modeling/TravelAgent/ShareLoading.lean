import TravelAgent.ShareLifecycle
import TravelAgent.Transition

namespace TravelAgent.ShareLoading

open TravelAgent.Leasing TravelAgent.Rows TravelAgent.ShareRecord TravelAgent.ShareStore
open TravelAgent.ShareReads TravelAgent.ShareMoves TravelAgent.ShareLifecycle TravelAgent.Transition

variable {Snapshot : Type}

/-- One call on the store, as a step that always happens. -/
def callStep (s : Store Snapshot) (op : Op Snapshot) : Option (Store Snapshot) := some (apply s op)

/-- The rows that reading does not raise on. -/
structure Loadable (r : SharedGuideRecord Snapshot) : Prop where
  indexed : r.indexStatus = .ready → r.indexedAt ≠ none
  ready : r.publicationStatus = .published → r.indexStatus = .ready
  dated : r.publicationStatus = .published → r.publishedAt ≠ none
  ordered : ∀ i p, r.indexedAt = some i → r.publishedAt = some p → p ≤ i

theorem recordFromRow_iff (r : SharedGuideRecord Snapshot) :
    recordFromRow r = .ok r ↔ Loadable r := by
  have hordered : (r.indexedAt.any fun i => r.publishedAt.any fun p => decide (i < p)) = true ↔
      ¬∀ i p, r.indexedAt = some i → r.publishedAt = some p → p ≤ i := by
    cases r.indexedAt <;> cases r.publishedAt <;> simp
  constructor
  · intro h
    simp only [recordFromRow, validatePublicReadyTimestamps] at h
    by_cases h₁ : r.indexStatus = .ready ∧ r.indexedAt = none
    · rw [if_pos h₁] at h
      cases h
    · by_cases h₂ : r.publicationStatus = .published ∧ r.indexStatus ≠ .ready
      · rw [if_neg h₁, if_pos h₂] at h
        cases h
      · by_cases h₃ : r.publicationStatus = .published ∧ r.publishedAt = none
        · rw [if_neg h₁, if_neg h₂, if_pos h₃] at h
          cases h
        · rw [if_neg h₁, if_neg h₂, if_neg h₃] at h
          split at h
          · cases h
          · rename_i h₄
            rw [hordered, not_not] at h₄
            exact ⟨fun hi hn => h₁ ⟨hi, hn⟩, fun hp => by_contra fun hn => h₂ ⟨hp, hn⟩,
              fun hp hn => h₃ ⟨hp, hn⟩, h₄⟩
  · intro h
    have h₁ : ¬(r.indexStatus = .ready ∧ r.indexedAt = none) := fun hr => h.indexed hr.1 hr.2
    have h₂ : ¬(r.publicationStatus = .published ∧ r.indexStatus ≠ .ready) :=
      fun hr => hr.2 (h.ready hr.1)
    have h₃ : ¬(r.publicationStatus = .published ∧ r.publishedAt = none) :=
      fun hr => h.dated hr.1 hr.2
    have h₄ : ¬(r.indexedAt.any fun i => r.publishedAt.any fun p => decide (i < p)) = true := by
      rw [hordered, not_not]
      exact h.ordered
    simp only [recordFromRow, validatePublicReadyTimestamps, if_neg h₁, if_neg h₂, if_neg h₃, if_neg h₄]
    rfl

/-- A row that is neither public nor ready only has to keep its dates in order. -/
theorem Loadable.hidden {r : SharedGuideRecord Snapshot} (hp : r.publicationStatus ≠ .published)
    (hi : r.indexStatus ≠ .ready)
    (ho : ∀ i p, r.indexedAt = some i → r.publishedAt = some p → p ≤ i) : Loadable r :=
  ⟨fun h => absurd h hi, fun h => absurd h hp, fun h => absurd h hp, ho⟩

/-- Every share has a date of publication, under a unique identifier. -/
structure Dated (s : Store Snapshot) : Prop where
  unique : UniqueShares s
  dated : ∀ id r, s.share id = some r → r.publishedAt ≠ none

/-- Every stored share can be read back: no validator of the record rejects its row. -/
def AllLoadable (s : Store Snapshot) : Prop :=
  ∀ id r, s.share id = some r → recordFromRow r = .ok r ∧ 1 ≤ r.indexVersion

/-- The completion of an upsert: the version, the lease and the status of the share are right. -/
structure Completes (s : Store Snapshot) (p : Report) (now : Time) (r : SharedGuideRecord Snapshot) :
    Prop where
  upsert : p.operation = .upsert
  share : s.share p.shareId = some r
  version : r.indexVersion = p.indexVersion
  held : ∃ j, s.heldJob p now = some j
  expected : p.operation.expects r = true

/-- No upsert is completed before the date on which its version was published. -/
def OnTime (s : Store Snapshot) : Op Snapshot → Prop
  | .completeIndexOperation p now =>
    ∀ r t, Completes s p now r → r.publishedAt = some t → t ≤ now
  | _ => True

theorem move_dated {s : Store Snapshot} {op : Op Snapshot} {r r' : SharedGuideRecord Snapshot}
    (h : ShareMove s op r r') (hr : r.publishedAt ≠ none) : r'.publishedAt ≠ none := by
  cases h with
  | republished _ draft now shareId jobId guard => exact Option.some_ne_none now
  | updated _ author draft now allow expected jobId guard => exact Option.some_ne_none now
  | withdrawn _ author now jobId guard => exact hr
  | completed _ p now j at_share held version guard =>
    cases hop : p.operation with
    | upsert => exact hr
    | delete => exact hr
  | failed _ p error nextRetryAt terminal now j at_share held version guard => exact hr
  | expired _ worker now leaseSeconds maxAttempts locked op guard => exact hr
  | requeued _ hash now guard => exact hr
  | liked _ user now likeId guard => exact hr
  | unliked _ user guard => exact hr

theorem apply_dated {s : Store Snapshot} (h : Dated s) (op : Op Snapshot) : Dated (apply s op) := by
  refine ⟨apply_unique h.unique op, ?_⟩
  intro id r hr
  have hchange := (apply_effect h.unique op).change id
  generalize hafter : (apply s op).share id = after at hchange
  rw [hafter] at hr
  cases hchange with
  | kept => exact h.dated id r hr
  | created draft now jobId call absent =>
    cases hr
    exact Option.some_ne_none now
  | moved q q' found move =>
    cases hr
    exact move_dated move (h.dated id q found)

theorem expects_hidden {op : IndexOperation} {r : SharedGuideRecord Snapshot}
    (h : op.expects r = true) : r.publicationStatus ≠ .published := by
  cases op with
  | upsert =>
    rw [expects_upsert h]
    exact PublicationStatus.noConfusion
  | delete =>
    rw [expects_delete h]
    exact PublicationStatus.noConfusion

theorem failedWith_hidden (op : IndexOperation) (terminal : Bool) (error : String) (now : Time)
    (r : SharedGuideRecord Snapshot) :
    (SharedGuideRecord.failedWith r op error terminal now).indexStatus ≠ .ready := by
  cases op <;> cases terminal <;> simp [SharedGuideRecord.failedWith]

/-- The one write that sets a date of indexing beside an older date of publication
is the completion of an upsert; every other write keeps both dates or clears the first. -/
theorem move_loadable {s : Store Snapshot} {op : Op Snapshot} {r r' : SharedGuideRecord Snapshot}
    (hr : s.share r.shareId = some r) (h : ShareMove s op r r') (hl : Loadable r)
    (hd : r.publishedAt ≠ none) (hok : OnTime s op) : Loadable r' := by
  have hcleared : ∀ i p, (none : Option Time) = some i → r'.publishedAt = some p → p ≤ i :=
    fun i p hi => absurd hi.symm (Option.some_ne_none i)
  cases h with
  | republished _ draft now shareId jobId guard =>
    exact Loadable.hidden PublicationStatus.noConfusion ShareIndexStatus.noConfusion hcleared
  | updated _ author draft now allow expected jobId guard =>
    exact Loadable.hidden PublicationStatus.noConfusion ShareIndexStatus.noConfusion hcleared
  | withdrawn _ author now jobId guard =>
    exact Loadable.hidden PublicationStatus.noConfusion ShareIndexStatus.noConfusion hl.ordered
  | completed _ p now j at_share held version guard =>
    cases hop : p.operation with
    | upsert =>
      have hcompletes : Completes s p now r := by
        refine ⟨hop, ?_, version, ⟨j, held⟩, guard⟩
        rw [at_share]
        exact hr
      refine ⟨fun _ => Option.some_ne_none now, fun _ => rfl, fun _ => hd, ?_⟩
      intro i t hi ht
      cases hi
      exact hok r t hcompletes ht
    | delete =>
      exact Loadable.hidden PublicationStatus.noConfusion ShareIndexStatus.noConfusion hl.ordered
  | failed _ p error nextRetryAt terminal now j at_share held version guard =>
    exact Loadable.hidden (expects_hidden (r := r) guard) (failedWith_hidden _ _ _ _ _) hl.ordered
  | expired _ worker now leaseSeconds maxAttempts locked op guard =>
    exact Loadable.hidden (expects_hidden (r := r) guard) ShareIndexStatus.noConfusion hl.ordered
  | requeued _ hash now guard =>
    exact Loadable.hidden PublicationStatus.noConfusion ShareIndexStatus.noConfusion hcleared
  | liked _ user now likeId guard => exact ⟨hl.indexed, hl.ready, hl.dated, hl.ordered⟩
  | unliked _ user guard => exact ⟨hl.indexed, hl.ready, hl.dated, hl.ordered⟩

theorem apply_loadable {s : Store Snapshot} (hd : Dated s) (hl : AllLoadable s) {op : Op Snapshot}
    (hok : OnTime s op) : AllLoadable (apply s op) := by
  intro id r hr
  have hchange := (apply_effect hd.unique op).change id
  generalize hafter : (apply s op).share id = after at hchange
  rw [hafter] at hr
  cases hchange with
  | kept => exact hl id r hr
  | created draft now jobId call absent =>
    cases hr
    refine ⟨(recordFromRow_iff _).mpr ?_, Nat.le_refl 1⟩
    refine Loadable.hidden PublicationStatus.noConfusion ShareIndexStatus.noConfusion ?_
    intro i p hi
    cases hi
  | moved q q' found move =>
    cases hr
    obtain ⟨hq, hv⟩ := hl id q found
    refine ⟨(recordFromRow_iff _).mpr ?_, Nat.le_trans hv (move_version move)⟩
    apply move_loadable _ move ((recordFromRow_iff q).mp hq) (hd.dated id q found) hok
    rw [share_shareId found]
    exact found

/-- A completion writes its own time as the date of indexing. -/
theorem completes_share {s : Store Snapshot} {p : Report} {now : Time}
    {r : SharedGuideRecord Snapshot} (h : Completes s p now r) :
    (apply s (.completeIndexOperation p now)).share p.shareId =
      some (SharedGuideRecord.completed r .upsert now) := by
  obtain ⟨hop, hr, hv, ⟨j, hj⟩, hx⟩ := h
  have hkey : ∀ q : SharedGuideRecord Snapshot,
      (SharedGuideRecord.completed q p.operation now).shareId = q.shareId := by
    intro q
    rw [hop]
    rfl
  have hsettle : (s.share p.shareId).filter (fun q => decide (q.indexVersion = p.indexVersion)) =
      some r := by
    rw [hr]
    exact Option.filter_eq_some_iff.mpr ⟨rfl, decide_eq_true hv⟩
  simp only [apply, exec, completeIndexOperation, Store.settleReport, hsettle, hj, hx, if_true]
  have hset := setShare_share s p.shareId hkey p.shareId
  simp only [Store.share, Store.setJob] at hset hr ⊢
  rw [hset, hr, Option.map_some, if_pos (share_shareId hr), hop]

theorem apply_loadable_iff {s : Store Snapshot} (hd : Dated s) (hl : AllLoadable s)
    (op : Op Snapshot) : AllLoadable (apply s op) ↔ OnTime s op := by
  refine ⟨?_, apply_loadable hd hl⟩
  intro h
  cases op with
  | completeIndexOperation p now =>
    intro r t hc ht
    have hrow := (recordFromRow_iff _).mp (h _ _ (completes_share hc)).1
    exact hrow.ordered now t rfl ht
  | _ => trivial

theorem empty_dated : Dated (Store.empty : Store Snapshot) := by
  refine ⟨empty_unique, ?_⟩
  intro id r hr
  cases hr

theorem callStep_run (s : Store Snapshot) (ops : List (Op Snapshot)) :
    run callStep s ops = some (replay s ops) := by
  induction ops generalizing s with
  | nil => rfl
  | cons op ops ih => exact ih (apply s op)

/-- Throughout a run every share can be read back, exactly when no upsert is completed
at an earlier time than the one that its version was published at. -/
theorem shares_loadable_iff_on_time (ops : List (Op Snapshot)) :
    Always callStep AllLoadable (Store.empty : Store Snapshot) ops ↔
      Along callStep OnTime (Store.empty : Store Snapshot) ops := by
  refine always_iff_along (I := Dated) ?_ ?_ empty_dated ?_ (callStep_run _ ops)
  · intro s op t hd hl hok ht
    cases ht
    exact apply_dated hd op
  · intro s op t hd hl ht
    cases ht
    exact apply_loadable_iff hd hl op
  · intro id r hr
    cases hr

/-- The share is published by a host whose clock reads 100 and indexed by one
whose clock reads 60. -/
def slowIndexer : List (Op Unit) :=
  [.createPublishIntent (draftOf "h1") 100 "g1" "j1", .claimIndexJob "j1" "w" 50 60,
    .completeIndexOperation ⟨"j1", "g1", 1, .upsert, "w"⟩ 60]

/-- The completion succeeds, and reading the share fails from then on. -/
theorem slow_indexer_breaks_reads :
    (exec (replay Store.empty (slowIndexer.take 2)) (slowIndexer.get ⟨2, by decide⟩)).map
        (fun r => r.1) = .ok (.flag true) ∧
      ((replay Store.empty slowIndexer).share "g1").map recordFromRow =
        some (.error (.validationError "published_at cannot follow indexed_at")) ∧
      ¬Always callStep AllLoadable Store.empty slowIndexer := by
  have hread : ((replay Store.empty slowIndexer).share "g1").map recordFromRow =
      some (.error (.validationError "published_at cannot follow indexed_at")) := by
    decide +kernel
  refine ⟨by decide +kernel, hread, ?_⟩
  intro h
  have hlast := always_last h (callStep_run _ slowIndexer)
  obtain ⟨r, hr, hbad⟩ := Option.map_eq_some_iff.mp hread
  rw [(hlast "g1" r hr).1] at hbad
  cases hbad

end TravelAgent.ShareLoading
