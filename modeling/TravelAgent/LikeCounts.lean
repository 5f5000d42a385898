import TravelAgent.ShareLifecycle
import TravelAgent.ShareOutcomes

namespace TravelAgent.LikeCounts

open TravelAgent.Leasing TravelAgent.Rows TravelAgent.ShareRecord TravelAgent.ShareStore
open TravelAgent.ShareMoves TravelAgent.ShareLifecycle TravelAgent.ShareOutcomes
open TravelAgent.Attempts (bind_ok map_ok)

variable {Snapshot : Type}

def likeKey (l : SharedGuideLike) : ShareId × UserId := (l.shareId, l.userId)

/-- The number of like rows of a share. -/
def likeRows (s : Store Snapshot) (id : ShareId) : Nat :=
  s.likes.countP fun l => decide (l.shareId = id)

def Liked (s : Store Snapshot) (id : ShareId) (user : UserId) : Prop :=
  ∃ l ∈ s.likes, l.shareId = id ∧ l.userId = user

structure Counted (s : Store Snapshot) : Prop where
  unique : UniqueShares s
  once : (s.likes.map likeKey).Nodup
  counts : ∀ id r, s.share id = some r → r.likeCount = likeRows s id
  orphans : ∀ id, s.share id = none → likeRows s id = 0

/-- The calls that touch likes. -/
def Op.liking : Op Snapshot → Bool
  | .putLike .. => true
  | .deleteLike .. => true
  | _ => false

theorem empty_counted : Counted (Store.empty : Store Snapshot) := by
  refine ⟨empty_unique, List.nodup_nil, ?_, fun _ _ => rfl⟩
  intro id r hr
  cases hr

theorem move_likeCount {s : Store Snapshot} {op : Op Snapshot} {r r' : SharedGuideRecord Snapshot}
    (h : ShareMove s op r r') (hop : Op.liking op = false) : r'.likeCount = r.likeCount := by
  cases h with
  | completed _ p now j at_share held version guard =>
    cases hp : p.operation with
    | upsert => rfl
    | delete => rfl
  | liked _ user now likeId guard => cases hop
  | unliked _ user guard => cases hop
  | _ => rfl

/-- A call that leaves the likes alone leaves every counter alone. -/
theorem counted_of_frame {s s' : Store Snapshot} (h : Counted s) {op : Op Snapshot}
    (he : Effect s op s') (hs' : UniqueShares s') (hlikes : s'.likes = s.likes)
    (hop : Op.liking op = false) : Counted s' := by
  have hrows : ∀ id, likeRows s' id = likeRows s id := by
    intro id
    rw [likeRows, hlikes]
    rfl
  refine ⟨hs', ?_, ?_, ?_⟩
  · rw [hlikes]
    exact h.once
  · intro id r hr
    have hchange := he.change id
    generalize hafter : s'.share id = after at hchange
    rw [hafter] at hr
    rw [hrows]
    cases hchange with
    | kept => exact h.counts id r hr
    | created draft now jobId call absent =>
      cases hr
      exact (h.orphans id absent).symm
    | moved q q' found move =>
      cases hr
      rw [move_likeCount move hop]
      exact h.counts id q found
  · intro id hnone
    have hchange := he.change id
    rw [hnone] at hchange
    rw [hrows]
    generalize hafter : (none : Option (SharedGuideRecord Snapshot)) = after at hchange
    cases hchange with
    | kept => exact h.orphans id hafter.symm
    | created draft now jobId call absent => cases hafter
    | moved q q' found move => cases hafter

theorem terminalized_likes {s t : Store Snapshot} {now : Time} {maxAttempts : Nat}
    (h : Terminalized now maxAttempts s t) : t.likes = s.likes := by
  induction h with
  | done s => rfl
  | next j found expired spent rest ih => exact ih

theorem liked_key {s : Store Snapshot} {id : ShareId} {user : UserId}
    (h : ¬Liked s id user) : (id, user) ∉ s.likes.map likeKey := by
  intro hm
  obtain ⟨l, hl, hk⟩ := List.mem_map.mp hm
  exact h ⟨l, hl, congrArg Prod.fst hk, congrArg Prod.snd hk⟩

/-- At most one row belongs to a user and a share. -/
theorem once_countP {likes : List SharedGuideLike} (h : (likes.map likeKey).Nodup) (id : ShareId)
    (user : UserId) :
    likes.countP (fun l => decide (l.shareId = id) && decide (l.userId = user)) ≤ 1 := by
  induction likes with
  | nil => exact Nat.zero_le 1
  | cons a likes ih =>
    rw [List.map_cons, List.nodup_cons] at h
    rw [List.countP_cons]
    by_cases ha : a.shareId = id ∧ a.userId = user
    · have hzero : likes.countP (fun l => decide (l.shareId = id) && decide (l.userId = user)) = 0 := by
        refine List.countP_eq_zero.mpr ?_
        intro l hl hp
        simp only [Bool.and_eq_true, decide_eq_true_eq] at hp
        apply h.1
        rw [likeKey, ha.1, ha.2, ← hp.1, ← hp.2]
        exact List.mem_map_of_mem hl
      rw [hzero]
      split <;> omega
    · have hi := ih h.2
      simpa [ha] using hi

/-- The rows of a share split into those of one user and the others. -/
theorem likeRows_split (likes : List SharedGuideLike) (id : ShareId) (user : UserId) :
    likes.countP (fun l => decide (l.shareId = id)) =
      likes.countP (fun l => decide (l.shareId = id) && decide (l.userId = user)) +
        (likes.filter fun l => !(decide (l.shareId = id) && decide (l.userId = user))).countP
          fun l => decide (l.shareId = id) := by
  induction likes with
  | nil => rfl
  | cons a likes ih =>
    by_cases hid : a.shareId = id
    · by_cases hu : a.userId = user
      · simp [hid, hu, ih]
        omega
      · simp [hid, hu, ih]
        omega
    · simpa [hid] using ih

theorem likeRows_other (likes : List SharedGuideLike) {id other : ShareId} (user : UserId)
    (hne : other ≠ id) :
    (likes.filter fun l => !(decide (l.shareId = id) && decide (l.userId = user))).countP
        (fun l => decide (l.shareId = other)) =
      likes.countP fun l => decide (l.shareId = other) := by
  rw [List.countP_filter]
  apply List.countP_congr
  intro l _
  by_cases ho : l.shareId = other
  · have hid : l.shareId ≠ id := fun h => hne (ho.symm.trans h)
    simp [ho, hne]
  · simp [ho]

theorem setShare_likeCount {s : Store Snapshot} {i : ShareId} {f : Nat → Nat} {id : ShareId}
    {r : SharedGuideRecord Snapshot}
    (h : (s.setShare i fun r => { r with likeCount := f r.likeCount }).share id = some r) :
    ∃ q, s.share id = some q ∧ r.likeCount = if id = i then f q.likeCount else q.likeCount := by
  have hset := setShare_share s i (f := fun r => { r with likeCount := f r.likeCount })
    (fun _ => rfl) id
  rw [hset] at h
  obtain ⟨q, hq, hr⟩ := Option.map_eq_some_iff.mp h
  refine ⟨q, hq, ?_⟩
  rw [share_shareId hq] at hr
  rw [← hr]
  split <;> rfl

theorem setShare_none {s : Store Snapshot} {i : ShareId} {f : Nat → Nat} {id : ShareId}
    (h : (s.setShare i fun r => { r with likeCount := f r.likeCount }).share id = none) :
    s.share id = none := by
  have hset := setShare_share s i (f := fun r => { r with likeCount := f r.likeCount })
    (fun _ => rfl) id
  rw [hset] at h
  exact Option.map_eq_none_iff.mp h

theorem liked_counted {s : Store Snapshot} (h : Counted s) {r : SharedGuideRecord Snapshot}
    (found : s.share r.shareId = some r) (user : UserId) (now : Time) (likeId : String)
    (fresh : ∀ l ∈ s.likes, l.likeId ≠ likeId ∧ ¬(l.shareId = r.shareId ∧ l.userId = user))
    (hs' : UniqueShares (s.setShare r.shareId fun r => { r with likeCount := r.likeCount + 1 })) :
    Counted { s.setShare r.shareId fun r => { r with likeCount := r.likeCount + 1 } with
      likes := s.likes ++ [⟨likeId, r.shareId, user, now⟩] } := by
  have hrows : ∀ id, (s.likes ++ [(⟨likeId, r.shareId, user, now⟩ : SharedGuideLike)]).countP
      (fun l => decide (l.shareId = id)) = likeRows s id + if r.shareId = id then 1 else 0 := by
    intro id
    rw [List.countP_append, List.countP_singleton]
    by_cases hid : r.shareId = id
    · simp [likeRows, hid]
    · simp [likeRows, hid]
  refine ⟨hs', ?_, ?_, ?_⟩
  · rw [List.map_append]
    refine List.nodup_append.mpr ⟨h.once, List.nodup_singleton _, ?_⟩
    intro k hk k' hk' heq
    rw [List.map_singleton, List.mem_singleton] at hk'
    have hnot : ¬Liked s r.shareId user := fun ⟨l, hl, hlk⟩ => (fresh l hl).2 hlk
    apply liked_key hnot
    rw [heq.trans hk'] at hk
    exact hk
  · intro id q hq
    obtain ⟨q', hq', hcount⟩ := setShare_likeCount (f := fun n => n + 1) hq
    refine hcount.trans ((?_ : _ = _).trans (hrows id).symm)
    rw [h.counts id q' hq']
    by_cases hid : id = r.shareId
    · rw [if_pos hid, if_pos hid.symm]
    · rw [if_neg hid, if_neg fun he => hid he.symm]
      rfl
  · intro id hnone
    have hnone' := setShare_none (f := fun n => n + 1) hnone
    have hid : r.shareId ≠ id := by
      rintro rfl
      rw [found] at hnone'
      cases hnone'
    refine (hrows id).trans ?_
    rw [if_neg hid]
    exact h.orphans id hnone'

theorem unliked_counted {s t : Store Snapshot} (h : Counted s) {r : SharedGuideRecord Snapshot}
    (found : s.share r.shareId = some r) (user : UserId)
    (counted : t = if (s.likes.filter fun l =>
        decide (l.shareId = r.shareId) && decide (l.userId = user)).length = 1 then
      s.setShare r.shareId fun r => { r with likeCount := r.likeCount - 1 } else s)
    (hs' : UniqueShares t) :
    Counted { t with likes := s.likes.filter fun l =>
      !(decide (l.shareId = r.shareId) && decide (l.userId = user)) } := by
  have honce := once_countP h.once r.shareId user
  have hsplit := likeRows_split s.likes r.shareId user
  rw [← List.countP_eq_length_filter] at counted
  -- the row that the counter loses is the one that is deleted
  have hcount : ∀ id q, t.share id = some q → ∃ q', s.share id = some q' ∧
      q.likeCount + (if id = r.shareId then s.likes.countP (fun l =>
        decide (l.shareId = r.shareId) && decide (l.userId = user)) else 0) = q'.likeCount := by
    intro id q hq
    by_cases hone : s.likes.countP (fun l =>
        decide (l.shareId = r.shareId) && decide (l.userId = user)) = 1
    · rw [if_pos hone] at counted
      subst counted
      obtain ⟨q', hq', hc⟩ := setShare_likeCount (f := fun n => n - 1) hq
      refine ⟨q', hq', ?_⟩
      by_cases hid : id = r.shareId
      · have hrow := h.counts id q' hq'
        rw [hid, likeRows] at hrow
        rw [if_pos hid] at hc ⊢
        omega
      · rw [if_neg hid] at hc ⊢
        omega
    · rw [if_neg hone] at counted
      subst counted
      refine ⟨q, hq, ?_⟩
      split <;> omega
  have hnone : ∀ id, t.share id = none → s.share id = none := by
    intro id hn
    subst counted
    split at hn
    · exact setShare_none (f := fun n => n - 1) hn
    · exact hn
  refine ⟨hs', ?_, ?_, ?_⟩
  · exact h.once.sublist (List.filter_sublist.map likeKey)
  · intro id q hq
    obtain ⟨q', hq', hc⟩ := hcount id q hq
    have hrow := h.counts id q' hq'
    rw [likeRows] at hrow ⊢
    dsimp only
    by_cases hid : id = r.shareId
    · subst hid
      rw [if_pos rfl] at hc
      omega
    · rw [if_neg hid] at hc
      have hother := likeRows_other s.likes user hid
      omega
  · intro id hn
    have hzero := h.orphans id (hnone id hn)
    have hid : id ≠ r.shareId := by
      rintro rfl
      rw [hnone _ hn] at found
      cases found
    exact (likeRows_other s.likes user hid).trans hzero

theorem apply_counted {s : Store Snapshot} (h : Counted s) (op : Op Snapshot) :
    Counted (apply s op) := by
  have he := apply_effect h.unique op
  have hu := apply_unique h.unique op
  obtain hsame | ⟨a, _, hout⟩ := apply_outcome h.unique op
  · rw [hsame]
    exact h
  · generalize apply s op = s' at he hu hout
    cases hout with
    | idle op a quiet => exact h
    | polled worker now leaseSeconds maxAttempts locked t given_up =>
      exact counted_of_frame h he hu (terminalized_likes given_up) rfl
    | polledClaim worker now leaseSeconds maxAttempts locked w j t name given_up found due left =>
      exact counted_of_frame h he hu (terminalized_likes (t := t) given_up) rfl
    | liked r user now likeId m found guard fresh =>
      exact liked_counted h found user now likeId fresh hu
    | unliked r user m found guard t counted => exact unliked_counted h found user counted hu
    | _ => exact counted_of_frame h he hu rfl rfl

/-- Only the user of a like can take it back. -/
theorem liked_apply {s : Store Snapshot} (hs : UniqueShares s) {id : ShareId} {user : UserId}
    {op : Op Snapshot} (h : Liked s id user) (hop : op ≠ .deleteLike id user) :
    Liked (apply s op) id user := by
  obtain ⟨l, hl, hkey⟩ := h
  obtain hsame | ⟨a, _, hout⟩ := apply_outcome hs op
  · rw [hsame]
    exact ⟨l, hl, hkey⟩
  · generalize apply s op = s' at hout
    cases hout with
    | polled worker now leaseSeconds maxAttempts locked t given_up =>
      exact ⟨l, (terminalized_likes given_up) ▸ hl, hkey⟩
    | polledClaim worker now leaseSeconds maxAttempts locked w j t name given_up found due left =>
      exact ⟨l, (terminalized_likes given_up) ▸ hl, hkey⟩
    | liked r user' now likeId m found guard fresh =>
      exact ⟨l, List.mem_append_left _ hl, hkey⟩
    | unliked r user' m found guard t counted =>
      refine ⟨l, List.mem_filter.mpr ⟨hl, ?_⟩, hkey⟩
      rw [Bool.not_eq_true', Bool.eq_false_iff]
      intro hmine
      simp only [Bool.and_eq_true, decide_eq_true_eq] at hmine
      apply hop
      rw [← hmine.1, ← hmine.2, hkey.1, hkey.2]
    | _ => exact ⟨l, hl, hkey⟩

/-- Only the user of a like can give it. -/
theorem not_liked_apply {s : Store Snapshot} (hs : UniqueShares s) {id : ShareId} {user : UserId}
    {op : Op Snapshot} (h : ¬Liked s id user) (hop : ∀ now likeId, op ≠ .putLike id user now likeId) :
    ¬Liked (apply s op) id user := by
  rintro ⟨l, hl, hkey⟩
  apply h
  obtain hsame | ⟨a, _, hout⟩ := apply_outcome hs op
  · rw [hsame] at hl
    exact ⟨l, hl, hkey⟩
  · generalize apply s op = s' at hout hl
    cases hout with
    | polled worker now leaseSeconds maxAttempts locked t given_up =>
      exact ⟨l, (terminalized_likes given_up) ▸ hl, hkey⟩
    | polledClaim worker now leaseSeconds maxAttempts locked w j t name given_up found due left =>
      exact ⟨l, (terminalized_likes given_up) ▸ hl, hkey⟩
    | liked r user' now likeId m found guard fresh =>
      obtain hl | hl := List.mem_append.mp hl
      · exact ⟨l, hl, hkey⟩
      · rw [List.mem_singleton] at hl
        subst hl
        obtain ⟨rfl, rfl⟩ := hkey
        exact absurd rfl (hop now likeId)
    | unliked r user' m found guard t counted => exact ⟨l, List.mem_of_mem_filter hl, hkey⟩
    | _ => exact ⟨l, hl, hkey⟩

theorem replay_counted (ops : List (Op Snapshot)) :
    Counted (replay (Store.empty : Store Snapshot) ops) := by
  have hgen : ∀ s : Store Snapshot, Counted s → Counted (replay s ops) := by
    induction ops with
    | nil => exact fun s h => h
    | cons op ops ih => exact fun s h => ih (apply s op) (apply_counted h op)
  exact hgen _ empty_counted

theorem replay_liked {s : Store Snapshot} (hs : UniqueShares s) {id : ShareId} {user : UserId}
    (h : Liked s id user) {more : List (Op Snapshot)} (hmore : .deleteLike id user ∉ more) :
    Liked (replay s more) id user := by
  induction more generalizing s with
  | nil => exact h
  | cons op more ih =>
    rw [List.mem_cons, not_or] at hmore
    exact ih (apply_unique hs op) (liked_apply hs h fun he => hmore.1 he.symm) hmore.2

theorem replay_not_liked {s : Store Snapshot} (hs : UniqueShares s) {id : ShareId} {user : UserId}
    (h : ¬Liked s id user) {more : List (Op Snapshot)}
    (hmore : ∀ now likeId, .putLike id user now likeId ∉ more) : ¬Liked (replay s more) id user := by
  induction more generalizing s with
  | nil => exact h
  | cons op more ih =>
    refine ih (apply_unique hs op) ?_ fun now likeId hm => hmore now likeId (List.mem_cons_of_mem op hm)
    apply not_liked_apply hs h
    rintro now likeId rfl
    exact hmore now likeId List.mem_cons_self

/-- A like that is there already is not put again. -/
theorem putLike_again {s t : Store Snapshot} {id : ShareId} {user : UserId} (h : Liked s id user)
    {now : Time} {likeId : String} {m : LikeMutation}
    (hput : putLike s id user now likeId = .ok (m, t)) : t = s ∧ m = ⟨true, s.likeCountOf id⟩ := by
  obtain ⟨l, hl, hid, hu⟩ := h
  obtain ⟨r, _, hput⟩ := bind_ok hput
  have hignored : (s.likes.any fun l => decide (l.likeId = likeId) ||
      (decide (l.shareId = id) && decide (l.userId = user))) = true := by
    refine List.any_eq_true.mpr ⟨l, hl, ?_⟩
    simp [hid, hu]
  split at hput
  · cases hput
  · simp only [hignored, if_true] at hput
    cases hput
    exact ⟨rfl, rfl⟩

/-- A put under a new identifier leaves the like of its user. -/
theorem putLike_liked {s t : Store Snapshot} {id : ShareId} {user : UserId} {now : Time}
    {likeId : String} {m : LikeMutation} (hput : putLike s id user now likeId = .ok (m, t))
    (hfresh : ∀ l ∈ s.likes, l.likeId ≠ likeId) : Liked t id user := by
  by_cases h : Liked s id user
  · rw [(putLike_again h hput).1]
    exact h
  · obtain ⟨r, _, hput⟩ := bind_ok hput
    have hnot : ¬(s.likes.any fun l => decide (l.likeId = likeId) ||
        (decide (l.shareId = id) && decide (l.userId = user))) = true := by
      intro hany
      obtain ⟨l, hl, hp⟩ := List.any_eq_true.mp hany
      simp only [Bool.or_eq_true, Bool.and_eq_true, decide_eq_true_eq] at hp
      obtain hp | hp := hp
      · exact hfresh l hl hp
      · exact h ⟨l, hl, hp⟩
    split at hput
    · cases hput
    · simp only [hnot] at hput
      cases hput
      exact ⟨_, List.mem_append_right _ List.mem_cons_self, rfl, rfl⟩

theorem deleteLike_not_liked {s t : Store Snapshot} {id : ShareId} {user : UserId}
    {m : LikeMutation} (hdel : deleteLike s id user = .ok (m, t)) : ¬Liked t id user := by
  rintro ⟨l, hl, hid, hu⟩
  obtain ⟨r, _, hdel⟩ := bind_ok hdel
  split at hdel
  · cases hdel
  · cases hdel
    have hmem : l ∈ s.likes.filter fun l => !(decide (l.shareId = id) && decide (l.userId = user)) := by
      split at hl <;> exact hl
    have hkeep := (List.mem_filter.mp hmem).2
    simp [hid, hu] at hkeep

/-- A like that is not there is not taken back. -/
theorem deleteLike_again {s t : Store Snapshot} {id : ShareId} {user : UserId}
    (h : ¬Liked s id user) {m : LikeMutation} (hdel : deleteLike s id user = .ok (m, t)) :
    t = s ∧ m = ⟨false, s.likeCountOf id⟩ := by
  have hnone : ∀ l ∈ s.likes, ¬(decide (l.shareId = id) && decide (l.userId = user)) = true := by
    intro l hl hp
    simp only [Bool.and_eq_true, decide_eq_true_eq] at hp
    exact h ⟨l, hl, hp⟩
  have hmine : s.likes.filter (fun l => decide (l.shareId = id) && decide (l.userId = user)) = [] :=
    List.filter_eq_nil_iff.mpr hnone
  have hrest : s.likes.filter (fun l => !(decide (l.shareId = id) && decide (l.userId = user))) =
      s.likes := by
    refine List.filter_eq_self.mpr ?_
    intro l hl
    rw [Bool.not_eq_true', Bool.eq_false_iff]
    exact hnone l hl
  obtain ⟨r, _, hdel⟩ := bind_ok hdel
  split at hdel
  · cases hdel
  · simp only [hmine, hrest, List.length_nil] at hdel
    cases hdel
    exact ⟨rfl, rfl⟩

/-- The call of a user on a share that is public and not the user's own. -/
def MayLike (s : Store Snapshot) (id : ShareId) (user : UserId) : Prop :=
  ∃ r, s.share id = some r ∧ r.publicReady = true ∧ r.content.authorUserId ≠ user

theorem putLike_ok {s : Store Snapshot} {id : ShareId} {user : UserId} (hmay : MayLike s id user)
    (h : Liked s id user) (now : Time) (likeId : String) :
    putLike s id user now likeId = .ok (⟨true, s.likeCountOf id⟩, s) := by
  obtain ⟨r, hr, hp, ha⟩ := hmay
  have hready : s.publicReadyShare id = .ok r := by
    simp only [Store.publicReadyShare, hr, Option.filter, hp, if_true]
  cases hput : putLike s id user now likeId with
  | error e =>
    simp only [putLike, hready, bind, Except.bind, if_neg ha, pure, Except.pure] at hput
    cases hput
  | ok a =>
    obtain ⟨ht, hm⟩ := putLike_again h (m := a.1) (t := a.2) hput
    rw [← hm, ← ht]

theorem deleteLike_ok {s : Store Snapshot} {id : ShareId} {user : UserId} (hmay : MayLike s id user)
    (h : ¬Liked s id user) : deleteLike s id user = .ok (⟨false, s.likeCountOf id⟩, s) := by
  obtain ⟨r, hr, hp, ha⟩ := hmay
  have hready : s.publicReadyShare id = .ok r := by
    simp only [Store.publicReadyShare, hr, Option.filter, hp, if_true]
  cases hdel : deleteLike s id user with
  | error e =>
    simp only [deleteLike, hready, bind, Except.bind, if_neg ha, pure, Except.pure] at hdel
    cases hdel
  | ok a =>
    obtain ⟨ht, hm⟩ := deleteLike_again h (m := a.1) (t := a.2) hdel
    rw [← hm, ← ht]

theorem mayLike_setShare {s : Store Snapshot} {id : ShareId} {user : UserId}
    (h : MayLike s id user) (i : ShareId) (f : Nat → Nat) :
    MayLike (s.setShare i fun r => { r with likeCount := f r.likeCount }) id user := by
  obtain ⟨r, hr, hp, ha⟩ := h
  have hset := setShare_share s i (f := fun r => { r with likeCount := f r.likeCount })
    (fun _ => rfl) id
  rw [hr, Option.map_some] at hset
  refine ⟨_, hset, ?_, ?_⟩
  · split <;> exact hp
  · split <;> exact ha

theorem putLike_mayLike {s t : Store Snapshot} {id : ShareId} {user : UserId} {now : Time}
    {likeId : String} {m : LikeMutation} (h : putLike s id user now likeId = .ok (m, t)) :
    MayLike t id user ∧ m = ⟨true, t.likeCountOf id⟩ := by
  obtain ⟨r, hr, h⟩ := bind_ok h
  obtain ⟨hshare, hready⟩ := publicReadyShare_ok hr
  split at h
  · cases h
  · rename_i ha
    cases h
    refine ⟨?_, rfl⟩
    split
    · exact ⟨r, hshare, hready, ha⟩
    · exact mayLike_setShare ⟨r, hshare, hready, ha⟩ id fun n => n + 1

theorem deleteLike_mayLike {s t : Store Snapshot} {id : ShareId} {user : UserId}
    {m : LikeMutation} (h : deleteLike s id user = .ok (m, t)) :
    MayLike t id user ∧ m = ⟨false, t.likeCountOf id⟩ := by
  obtain ⟨r, hr, h⟩ := bind_ok h
  obtain ⟨hshare, hready⟩ := publicReadyShare_ok hr
  split at h
  · cases h
  · rename_i ha
    cases h
    refine ⟨?_, rfl⟩
    split
    · exact mayLike_setShare ⟨r, hshare, hready, ha⟩ id fun n => n - 1
    · exact ⟨r, hshare, hready, ha⟩

/-- Once a put went through, a repeated put of the same user answers the same and
changes nothing, and neither does one after any calls but the user's own deletion. -/
structure PutOnce (id : ShareId) (user : UserId) (m : LikeMutation) (t : Store Snapshot) :
    Prop where
  again : ∀ now likeId, putLike t id user now likeId = .ok (m, t)
  later : ∀ more : List (Op Snapshot), .deleteLike id user ∉ more → ∀ now likeId m' t',
    putLike (replay t more) id user now likeId = .ok (m', t') → t' = replay t more

/-- Once a deletion went through, a repeated deletion of the same user answers the same and
changes nothing, and neither does one after any calls but the user's own put. -/
structure DeletedOnce (id : ShareId) (user : UserId) (m : LikeMutation) (t : Store Snapshot) :
    Prop where
  again : deleteLike t id user = .ok (m, t)
  later : ∀ more : List (Op Snapshot), (∀ now likeId, .putLike id user now likeId ∉ more) →
    ∀ m' t', deleteLike (replay t more) id user = .ok (m', t') → t' = replay t more

theorem putLike_once {s t : Store Snapshot} (hs : UniqueShares s) {id : ShareId} {user : UserId}
    {now : Time} {likeId : String} {m : LikeMutation}
    (hput : putLike s id user now likeId = .ok (m, t)) (hfresh : ∀ l ∈ s.likes, l.likeId ≠ likeId) :
    PutOnce id user m t := by
  have ht : t = apply s (.putLike id user now likeId) := by
    simp only [apply, exec, hput]
    rfl
  have hunique : UniqueShares t := by
    rw [ht]
    exact apply_unique hs _
  have hliked := putLike_liked hput hfresh
  obtain ⟨hmay, hm⟩ := putLike_mayLike hput
  refine ⟨?_, ?_⟩
  · intro now' likeId'
    rw [hm]
    exact putLike_ok hmay hliked now' likeId'
  · intro more hmore now' likeId' m' t' hagain
    exact (putLike_again (replay_liked hunique hliked hmore) hagain).1

theorem deleteLike_once {s t : Store Snapshot} (hs : UniqueShares s) {id : ShareId} {user : UserId}
    {m : LikeMutation} (hdel : deleteLike s id user = .ok (m, t)) : DeletedOnce id user m t := by
  have ht : t = apply s (.deleteLike id user) := by
    simp only [apply, exec, hdel]
    rfl
  have hunique : UniqueShares t := by
    rw [ht]
    exact apply_unique hs _
  have hnot := deleteLike_not_liked hdel
  obtain ⟨hmay, hm⟩ := deleteLike_mayLike hdel
  refine ⟨?_, ?_⟩
  · rw [hm]
    exact deleteLike_ok hmay hnot
  · intro more hmore m' t' hagain
    exact (deleteLike_again (replay_not_liked hunique hnot hmore) hagain).1

/-- After any calls the counter of a share is the number of its like rows, and liking
and unliking are idempotent for each user. -/
theorem like_count_eq_rows (ops : List (Op Snapshot)) :
    (∀ id r, (replay Store.empty ops).share id = some r →
        r.likeCount = likeRows (replay Store.empty ops) id) ∧
      (∀ id user now likeId m t,
        putLike (replay Store.empty ops) id user now likeId = .ok (m, t) →
        (∀ l ∈ (replay (Store.empty : Store Snapshot) ops).likes, l.likeId ≠ likeId) →
        PutOnce id user m t) ∧
      ∀ id user m t, deleteLike (replay Store.empty ops) id user = .ok (m, t) →
        DeletedOnce id user m t := by
  have hcounted : Counted (replay (Store.empty : Store Snapshot) ops) := replay_counted ops
  refine ⟨hcounted.counts, ?_, ?_⟩
  · intro id user now likeId m t hput hfresh
    exact putLike_once hcounted.unique hput hfresh
  · intro id user m t hdel
    exact deleteLike_once hcounted.unique hdel

/-- A share that is published and indexed. -/
def readyShare : List (Op Unit) :=
  [.createPublishIntent (draftOf "h1") 0 "g1" "j1", .claimIndexJob "j1" "w" 1 100,
    .completeIndexOperation ⟨"j1", "g1", 1, .upsert, "w"⟩ 2]

theorem reader_likes_once :
    ∃ t, putLike (replay Store.empty readyShare) "g1" "reader" 3 "l1" = .ok (⟨true, 1⟩, t) ∧
      PutOnce "g1" "reader" ⟨true, 1⟩ t := by
  have hput : (putLike (replay Store.empty readyShare) "g1" "reader" 3 "l1").map
      (fun r => r.1) = .ok ⟨true, 1⟩ := by
    decide +kernel
  obtain ⟨⟨m, t⟩, hput, hm⟩ := map_ok hput
  cases hm
  refine ⟨t, hput, (like_count_eq_rows readyShare).2.1 "g1" "reader" 3 "l1" _ t hput ?_⟩
  intro l hl
  have hnone : (replay Store.empty readyShare).likes = [] := by decide +kernel
  rw [hnone] at hl
  cases hl

end TravelAgent.LikeCounts
