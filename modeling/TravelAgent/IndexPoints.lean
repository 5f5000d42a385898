import TravelAgent.ShareIndexing
import TravelAgent.ShareLifecycle

namespace TravelAgent.IndexPoints

open TravelAgent.Leasing TravelAgent.Rows TravelAgent.ShareRecord TravelAgent.ShareStore
open TravelAgent.ShareReads TravelAgent.ShareMoves TravelAgent.ShareLifecycle
open TravelAgent.ShareIndexing

variable {Snapshot : Type}

structure Agrees (x : World Snapshot) : Prop where
  ready : ∀ id r, x.store.share id = some r → r.publicReady = true →
    x.index id = some r.indexVersion
  deleted : ∀ id r, x.store.share id = some r → r.unpublished = true → r.indexStatus = .deleted →
    x.index id = none

/-- The share stands at this version and is not unpublished. -/
def World.current (x : World Snapshot) (id : ShareId) (version : Nat) : Bool :=
  (x.store.share id).any fun r => decide (r.indexVersion = version) && !r.unpublished

/-- The version was left behind: the share is beyond it or unpublished at it. -/
def Past (s : Store Snapshot) (id : ShareId) (version : Nat) : Prop :=
  ∃ r, s.share id = some r ∧
    (version < r.indexVersion ∨ r.indexVersion = version ∧ r.unpublished = true)

/-- The point of the version was written and stands as long as the version does. -/
structure Landed (x : World Snapshot) (id : ShareId) (version : Nat) : Prop where
  reached : ∃ r, x.store.share id = some r ∧ version ≤ r.indexVersion
  point : World.current x id version = true → x.index id = some version

/-- The point of the unpublished version was removed. -/
structure Erased (x : World Snapshot) (id : ShareId) (version : Nat) : Prop where
  past : Past x.store id version
  point : ∀ r, x.store.share id = some r → r.indexVersion = version → x.index id = none

def Pc.Good (x : World Snapshot) : Pc Snapshot → Prop
  | .claiming record job => job.operation = .delete → Past x.store record.shareId record.indexVersion
  | .completing _ record _ => Landed x record.shareId record.indexVersion
  | .erasing _ record _ => Past x.store record.shareId record.indexVersion
  | .closing _ record _ => Erased x record.shareId record.indexVersion
  | .embedding _ job target | .embedFailed _ job target | .writing _ job target =>
    target.shareId = job.shareId ∧ target.indexVersion = job.indexVersion
  | .verifying _ job _ | .finishing _ job _ => Landed x job.shareId job.indexVersion
  | .cleaning t => Past x.store t.job.shareId t.job.indexVersion
  | .sweeping _ job latest version _ =>
    latest.indexVersion = version ∧ Past x.store job.shareId version
  | .recheckingDelete _ job _ | .wiping _ job _ => Past x.store job.shareId job.indexVersion
  | .verifyingDelete _ job _ | .finishingDelete _ job _ => Erased x job.shareId job.indexVersion
  | _ => True

structure Sound (x : World Snapshot) : Prop where
  unique : UniqueShares x.store
  agrees : Agrees x
  withdrawn : ∀ id r, x.store.share id = some r → r.unpublished = true →
    ∀ version, x.index id = some version → version = r.indexVersion
  good : ∀ a, Pc.Good x (x.pc a)

theorem current_iff {x : World Snapshot} {id : ShareId} {version : Nat} :
    World.current x id version = true ↔
      ∃ r, x.store.share id = some r ∧ r.indexVersion = version ∧ r.unpublished = false := by
  simp [World.current, Option.any_eq_true]

theorem past_not_current {x : World Snapshot} {id : ShareId} {version : Nat}
    (h : Past x.store id version) : World.current x id version = false := by
  by_contra hc
  obtain ⟨r, hr, hv, hu⟩ := current_iff.mp (Bool.eq_true_of_not_eq_false hc)
  obtain ⟨q, hq, hpast⟩ := h
  cases hr.symm.trans hq
  obtain hlt | ⟨_, hu'⟩ := hpast
  · exact absurd hv (Nat.ne_of_gt hlt)
  · cases hu.symm.trans hu'

/-- Versions do not decrease, and an unpublished share leaves its status only
together with its version. -/
theorem change_mono {s : Store Snapshot} {op : Op Snapshot} {id : ShareId}
    {after : Option (SharedGuideRecord Snapshot)} (h : ShareChange s op id after)
    {r : SharedGuideRecord Snapshot} (hr : s.share id = some r) :
    ∃ r', after = some r' ∧ r.indexVersion ≤ r'.indexVersion ∧
      (r.unpublished = true → r'.indexVersion = r.indexVersion → r'.unpublished = true) := by
  cases h with
  | kept => exact ⟨r, hr, Nat.le_refl _, fun hu _ => hu⟩
  | created draft now jobId call absent => cases absent.symm.trans hr
  | moved q q' found move =>
    cases found.symm.trans hr
    refine ⟨q', rfl, move_version move, ?_⟩
    intro hu hv
    obtain ⟨hu', _⟩ | ⟨draft, now, _, _, _, rfl⟩ := move_unpublished move hu
    · exact hu'
    · exact absurd hv (Nat.succ_ne_self _)

theorem call_mono {s : Store Snapshot} (hs : UniqueShares s) (op : Op Snapshot) {id : ShareId}
    {r : SharedGuideRecord Snapshot} (hr : s.share id = some r) :
    ∃ r', (apply s op).share id = some r' ∧ r.indexVersion ≤ r'.indexVersion ∧
      (r.unpublished = true → r'.indexVersion = r.indexVersion → r'.unpublished = true) :=
  change_mono ((apply_effect hs op).change id) hr

theorem past_call {s : Store Snapshot} (hs : UniqueShares s) (op : Op Snapshot) {id : ShareId}
    {version : Nat} (h : Past s id version) : Past (apply s op) id version := by
  obtain ⟨r, hr, hpast⟩ := h
  obtain ⟨r', hr', hle, hu⟩ := call_mono hs op hr
  refine ⟨r', hr', ?_⟩
  obtain hlt | ⟨hv, hun⟩ := hpast
  · exact Or.inl (Nat.lt_of_lt_of_le hlt hle)
  · obtain hlt | heq := Nat.lt_or_eq_of_le hle
    · exact Or.inl (hv ▸ hlt)
    · exact Or.inr ⟨heq.symm.trans hv, hu hun heq.symm⟩

theorem landed_call {x : World Snapshot} (hs : UniqueShares x.store) (op : Op Snapshot)
    {id : ShareId} {version : Nat} (h : Landed x id version) : Landed (x.call op) id version := by
  obtain ⟨r, hr, hle⟩ := h.reached
  obtain ⟨r', hr', hle', hu⟩ := call_mono hs op hr
  refine ⟨⟨r', hr', Nat.le_trans hle hle'⟩, ?_⟩
  intro hc
  obtain ⟨q, hq, hv, hun⟩ := current_iff.mp hc
  cases hq.symm.trans hr'
  have hrv : r.indexVersion = version := Nat.le_antisymm (hv ▸ hle') hle
  refine h.point (current_iff.mpr ⟨r, hr, hrv, ?_⟩)
  by_contra hne
  have hu' := hu (Bool.eq_true_of_not_eq_false hne) (hv.trans hrv.symm)
  cases hun.symm.trans hu'

theorem erased_call {x : World Snapshot} (hs : UniqueShares x.store) (op : Op Snapshot)
    {id : ShareId} {version : Nat} (h : Erased x id version) : Erased (x.call op) id version := by
  refine ⟨past_call hs op h.past, ?_⟩
  intro q hq hv
  obtain ⟨r, hr, hpast⟩ := h.past
  obtain ⟨r', hr', hle, _⟩ := call_mono hs op hr
  cases hq.symm.trans hr'
  obtain hlt | ⟨hrv, _⟩ := hpast
  · exact absurd hv (Nat.ne_of_gt (Nat.lt_of_lt_of_le hlt hle))
  · exact h.point r hr hrv

/-- A step that keeps the three facts keeps what every position promises. -/
theorem good_transfer {x y : World Snapshot}
    (hp : ∀ id version, Past x.store id version → Past y.store id version)
    (hl : ∀ id version, Landed x id version → Landed y id version)
    (he : ∀ id version, Erased x id version → Erased y id version) {pc : Pc Snapshot}
    (h : Pc.Good x pc) : Pc.Good y pc := by
  cases pc with
  | claiming record job => exact fun hd => hp _ _ (h hd)
  | completing w record job => exact hl _ _ h
  | erasing w record job => exact hp _ _ h
  | closing w record job => exact he _ _ h
  | verifying w job target => exact hl _ _ h
  | finishing w job target => exact hl _ _ h
  | cleaning t => exact hp _ _ h
  | sweeping w job latest version rest => exact ⟨h.1, hp _ _ h.2⟩
  | recheckingDelete w job target => exact hp _ _ h
  | wiping w job target => exact hp _ _ h
  | verifyingDelete w job target => exact he _ _ h
  | finishingDelete w job target => exact he _ _ h
  | _ => exact h

theorem good_call {x : World Snapshot} (hs : UniqueShares x.store) (op : Op Snapshot)
    {pc : Pc Snapshot} (h : Pc.Good x pc) : Pc.Good (x.call op) pc :=
  good_transfer (fun _ _ => past_call hs op) (fun _ _ => landed_call hs op)
    (fun _ _ => erased_call hs op) h

theorem move_published {s : Store Snapshot} {op : Op Snapshot} {r r' : SharedGuideRecord Snapshot}
    (h : ShareMove s op r r') (hp : r'.publicReady = true) :
    r.publicReady = true ∧ r'.indexVersion = r.indexVersion ∨
      ∃ p now, op = .completeIndexOperation p now ∧ p.operation = .upsert ∧
        p.shareId = r.shareId ∧ p.indexVersion = r.indexVersion ∧ r.unpublished = false ∧
        r'.indexVersion = r.indexVersion := by
  obtain ⟨hr, hv⟩ | ⟨p, now, j, hc⟩ := move_ready h hp
  · exact Or.inl ⟨hr, hv.symm⟩
  · obtain rfl := hc.call
    have hrv : r'.indexVersion = p.indexVersion := hc.version.symm
    cases h with
    | completed _ _ _ j at_share held version guard =>
      refine Or.inr ⟨p, now, rfl, hc.upsert, at_share, version.symm, ?_, hrv.trans version.symm⟩
      rw [hc.upsert] at guard
      simp only [SharedGuideRecord.unpublished, expects_upsert guard, reduceCtorEq, decide_false]

theorem move_deleted {s : Store Snapshot} {op : Op Snapshot} {r r' : SharedGuideRecord Snapshot}
    (h : ShareMove s op r r') (hu : r'.unpublished = true) (hd : r'.indexStatus = .deleted) :
    r.unpublished = true ∧ r.indexStatus = .deleted ∨
      ∃ p now, op = .completeIndexOperation p now ∧ p.operation = .delete ∧
        p.shareId = r.shareId ∧ p.indexVersion = r.indexVersion := by
  cases h with
  | republished _ draft now shareId jobId guard => cases hd
  | updated _ author draft now allow expected jobId guard => cases hd
  | withdrawn _ author now jobId guard => cases hd
  | completed _ p now j at_share held version guard =>
    cases hop : p.operation with
    | upsert =>
      rw [hop] at hd
      cases hd
    | delete => exact Or.inr ⟨p, now, rfl, hop, at_share, version.symm⟩
  | failed _ p error nextRetryAt terminal now j at_share held version guard =>
    cases hop : p.operation <;> cases terminal <;>
      simp [SharedGuideRecord.failedWith, hop] at hd
  | expired _ worker now leaseSeconds maxAttempts locked op guard => cases hd
  | requeued _ hash now guard => cases hd
  | liked _ user now likeId guard => exact Or.inl ⟨hu, hd⟩
  | unliked _ user guard => exact Or.inl ⟨hu, hd⟩

theorem move_withdrawn {s : Store Snapshot} {op : Op Snapshot} {r r' : SharedGuideRecord Snapshot}
    (h : ShareMove s op r r') (hu : r'.unpublished = true) :
    r'.indexVersion = r.indexVersion ∧ (r.unpublished = true ∨
      ∃ author now jobId, op = .stageUnpublish r.shareId author now jobId) := by
  cases h with
  | republished _ draft now shareId jobId guard => cases hu
  | updated _ author draft now allow expected jobId guard => cases hu
  | withdrawn _ author now jobId guard => exact ⟨rfl, Or.inr ⟨author, now, jobId, rfl⟩⟩
  | completed _ p now j at_share held version guard =>
    cases hop : p.operation with
    | upsert =>
      rw [hop] at hu
      cases hu
    | delete =>
      rw [hop] at guard
      exact ⟨rfl, Or.inl (decide_eq_true (expects_delete guard))⟩
  | failed _ p error nextRetryAt terminal now j at_share held version guard => exact ⟨rfl, Or.inl hu⟩
  | expired _ worker now leaseSeconds maxAttempts locked op guard => exact ⟨rfl, Or.inl hu⟩
  | requeued _ hash now guard => cases hu
  | liked _ user now likeId guard => exact ⟨rfl, Or.inl hu⟩
  | unliked _ user guard => exact ⟨rfl, Or.inl hu⟩

/-- What a call must bring along so that the index keeps agreeing with the store. -/
structure Backed (x : World Snapshot) (op : Op Snapshot) : Prop where
  upsert : ∀ p now, op = .completeIndexOperation p now → p.operation = .upsert →
    Landed x p.shareId p.indexVersion
  delete : ∀ p now, op = .completeIndexOperation p now → p.operation = .delete →
    Erased x p.shareId p.indexVersion
  unpublish : ∀ id author now jobId, op = .stageUnpublish id author now jobId →
    ∀ r, x.store.share id = some r → r.unpublished = true ∨
      ∀ version, x.index id = some version → version = r.indexVersion

theorem call_sound {x : World Snapshot} (hx : Sound x) {op : Op Snapshot} (hb : Backed x op) :
    Sound (x.call op) := by
  have heffect := (apply_effect hx.unique op).change
  refine ⟨apply_unique hx.unique op, ⟨?_, ?_⟩, ?_, fun a => good_call hx.unique op (hx.good a)⟩
  · intro id r' hr' hp
    have hchange := heffect id
    rw [show (apply x.store op).share id = some r' from hr'] at hchange
    generalize hafter : some r' = after at hchange
    cases hchange with
    | kept => exact hx.agrees.ready id r' hafter.symm hp
    | created draft now jobId call absent =>
      cases hafter
      cases hp
    | moved q q' found move =>
      cases hafter
      obtain ⟨hq, hv⟩ | ⟨p, now, hop, hup, hs, hpv, hun, hv⟩ := move_published move hp
      · rw [hv]
        exact hx.agrees.ready id q found hq
      · have hl := hb.upsert p now hop hup
        rw [hs, share_shareId found, hpv] at hl
        rw [hv]
        exact hl.point (current_iff.mpr ⟨q, found, rfl, hun⟩)
  · intro id r' hr' hu hd
    have hchange := heffect id
    rw [show (apply x.store op).share id = some r' from hr'] at hchange
    generalize hafter : some r' = after at hchange
    cases hchange with
    | kept => exact hx.agrees.deleted id r' hafter.symm hu hd
    | created draft now jobId call absent =>
      cases hafter
      cases hu
    | moved q q' found move =>
      cases hafter
      obtain ⟨hq, hqd⟩ | ⟨p, now, hop, hdel, hs, hpv⟩ := move_deleted move hu hd
      · exact hx.agrees.deleted id q found hq hqd
      · have he := hb.delete p now hop hdel
        rw [hs, share_shareId found, hpv] at he
        exact he.point q found rfl
  · intro id r' hr' hu version hi
    have hchange := heffect id
    rw [show (apply x.store op).share id = some r' from hr'] at hchange
    generalize hafter : some r' = after at hchange
    cases hchange with
    | kept => exact hx.withdrawn id r' hafter.symm hu version hi
    | created draft now jobId call absent =>
      cases hafter
      cases hu
    | moved q q' found move =>
      cases hafter
      obtain ⟨hv, hq | ⟨author, now, jobId, hop⟩⟩ := move_withdrawn move hu
      · rw [hv]
        exact hx.withdrawn id q found hq version hi
      · rw [share_shareId found] at hop
        rw [hv]
        obtain hq | hq := hb.unpublish id author now jobId hop q found
        · exact hx.withdrawn id q found hq version hi
        · exact hq version hi

theorem pc_goto_self (x : World Snapshot) (a : ActorId) (pc : Pc Snapshot) :
    (x.goto a pc).pc a = pc := by
  simp [World.goto, World.pc, lookup]

theorem pc_goto_ne (x : World Snapshot) {a b : ActorId} (pc : Pc Snapshot) (h : b ≠ a) :
    (x.goto a pc).pc b = x.pc b := by
  have hfind : lookup Prod.fst b (x.actors.filter fun p => decide (p.1 ≠ a)) =
      lookup Prod.fst b x.actors := by
    simp only [lookup, List.find?_filter]
    congr 1
    funext p
    by_cases hp : p.1 = b
    · simp [hp, h]
    · simp [hp]
  have hcons : lookup Prod.fst b ((a, pc) :: x.actors.filter fun p => decide (p.1 ≠ a)) =
      lookup Prod.fst b (x.actors.filter fun p => decide (p.1 ≠ a)) := by
    simp [lookup, Ne.symm h]
  simp only [World.goto, World.pc, hcons, hfind]

theorem good_goto {x : World Snapshot} {a : ActorId} {pc pc' : Pc Snapshot} (h : Pc.Good x pc) :
    Pc.Good (x.goto a pc') pc :=
  good_transfer (x := x) (y := x.goto a pc') (fun _ _ h => h) (fun _ _ h => ⟨h.reached, h.point⟩)
    (fun _ _ h => ⟨h.past, h.point⟩) h

theorem goto_sound {x : World Snapshot} (hx : Sound x) (a : ActorId) {pc : Pc Snapshot}
    (hpc : Pc.Good x pc) : Sound (x.goto a pc) := by
  refine ⟨hx.unique, ⟨hx.agrees.ready, hx.agrees.deleted⟩, hx.withdrawn, ?_⟩
  intro b
  by_cases hb : b = a
  · subst hb
    rw [pc_goto_self]
    exact good_goto hpc
  · rw [pc_goto_ne x pc hb]
    exact good_goto (hx.good b)

theorem upsert_sound {x : World Snapshot} (hx : Sound x) {id : ShareId} {version : Nat}
    (hc : World.current x id version = true) :
    Sound (x.upsert id version) ∧ Landed (x.upsert id version) id version := by
  obtain ⟨r, hr, hv, hu⟩ := current_iff.mp hc
  have hself : (x.upsert id version).index id = some version := Function.update_self _ _ _
  have hother : ∀ i, i ≠ id → (x.upsert id version).index i = x.index i :=
    fun i hi => Function.update_of_ne hi _ _
  have hlanded : Landed (x.upsert id version) id version :=
    ⟨⟨r, hr, Nat.le_of_eq hv.symm⟩, fun _ => hself⟩
  refine ⟨⟨hx.unique, ⟨?_, ?_⟩, ?_, ?_⟩, hlanded⟩
  · intro i q hq hp
    by_cases hi : i = id
    · subst hi
      cases hq.symm.trans hr
      rw [hself, hv]
    · rw [hother i hi]
      exact hx.agrees.ready i q hq hp
  · intro i q hq hqu hd
    by_cases hi : i = id
    · subst hi
      cases hq.symm.trans hr
      cases hu.symm.trans hqu
    · rw [hother i hi]
      exact hx.agrees.deleted i q hq hqu hd
  · intro i q hq hqu
    by_cases hi : i = id
    · subst hi
      cases hq.symm.trans hr
      cases hu.symm.trans hqu
    · rw [hother i hi]
      exact hx.withdrawn i q hq hqu
  · intro a
    refine good_transfer (x := x) (y := x.upsert id version) (fun _ _ h => h) ?_ ?_ (hx.good a)
    · intro i v h
      refine ⟨h.reached, ?_⟩
      intro hcur
      by_cases hi : i = id
      · subst hi
        obtain ⟨q, hq, hqv, _⟩ := current_iff.mp hcur
        cases hq.symm.trans hr
        rw [hself, ← hv, hqv]
      · rw [hother i hi]
        exact h.point hcur
    · intro i v h
      refine ⟨h.past, ?_⟩
      intro q hq hqv
      by_cases hi : i = id
      · subst hi
        cases hq.symm.trans hr
        have hn := past_not_current (x := x) h.past
        rw [← hqv, hv, hc] at hn
        cases hn
      · rw [hother i hi]
        exact h.point q hq hqv

theorem delete_index (x : World Snapshot) (id : ShareId) (version : Nat) (i : ShareId) :
    (x.delete id version).index i = x.index i ∨
      i = id ∧ x.index id = some version ∧ (x.delete id version).index i = none := by
  simp only [World.delete]
  split
  · rename_i h
    by_cases hi : i = id
    · subst hi
      exact Or.inr ⟨rfl, h, Function.update_self _ _ _⟩
    · exact Or.inl (Function.update_of_ne hi _ _)
  · exact Or.inl rfl

theorem delete_store (x : World Snapshot) (id : ShareId) (version : Nat) :
    (x.delete id version).store = x.store ∧ (x.delete id version).actors = x.actors := by
  simp only [World.delete]
  split <;> exact ⟨rfl, rfl⟩

theorem delete_sound {x : World Snapshot} (hx : Sound x) {id : ShareId} {version : Nat}
    (hc : World.current x id version = false) : Sound (x.delete id version) := by
  obtain ⟨hstore, hactors⟩ := delete_store x id version
  have hcurrent : ∀ i v, World.current (x.delete id version) i v = World.current x i v := by
    intro i v
    simp only [World.current, hstore]
  have hkeep : ∀ i v, World.current x i v = true → x.index i = some v →
      (x.delete id version).index i = some v := by
    intro i v hcur hi
    obtain h | ⟨rfl, hv, _⟩ := delete_index x id version i
    · rw [h, hi]
    · rw [hv] at hi
      cases hi
      cases hc.symm.trans hcur
  have hnone : ∀ i, x.index i = none → (x.delete id version).index i = none := by
    intro i hi
    obtain h | ⟨_, _, h⟩ := delete_index x id version i
    · rw [h, hi]
    · exact h
  refine ⟨?_, ⟨?_, ?_⟩, ?_, ?_⟩
  · rw [hstore]
    exact hx.unique
  · rw [hstore]
    intro i r hr hp
    exact hkeep i _ (current_iff.mpr ⟨r, hr, rfl, publicReady_not_unpublished hp⟩)
      (hx.agrees.ready i r hr hp)
  · rw [hstore]
    intro i r hr hu hd
    exact hnone i (hx.agrees.deleted i r hr hu hd)
  · rw [hstore]
    intro i r hr hu v hi
    obtain h | ⟨_, _, h⟩ := delete_index x id version i
    · exact hx.withdrawn i r hr hu v (h.symm.trans hi)
    · cases h.symm.trans hi
  · intro a
    have hpc : (x.delete id version).pc a = x.pc a := by
      simp only [World.pc, hactors]
    rw [hpc]
    refine good_transfer (x := x) ?_ ?_ ?_ (hx.good a)
    · rw [hstore]
      exact fun _ _ h => h
    · intro i v h
      refine ⟨?_, ?_⟩
      · rw [hstore]
        exact h.reached
      · rw [hcurrent]
        exact fun hcur => hkeep i v hcur (h.point hcur)
    · intro i v h
      refine ⟨?_, ?_⟩
      · rw [hstore]
        exact h.past
      · rw [hstore]
        exact fun r hr hv => hnone i (h.point r hr hv)

/-- The delete of a version that was left behind removes its point. -/
theorem delete_erases {x : World Snapshot} (hx : Sound x) {id : ShareId} {version : Nat}
    (h : Past x.store id version) : Erased (x.delete id version) id version := by
  obtain ⟨hstore, _⟩ := delete_store x id version
  refine ⟨?_, ?_⟩
  · rw [hstore]
    exact h
  · rw [hstore]
    intro r hr hv
    obtain ⟨q, hq, hpast⟩ := h
    cases hq.symm.trans hr
    have hu : r.unpublished = true := by
      obtain hlt | ⟨_, hu⟩ := hpast
      · exact absurd hv (Nat.ne_of_gt hlt)
      · exact hu
    cases hi : x.index id with
    | none =>
      obtain hsame | ⟨_, _, hnone⟩ := delete_index x id version id
      · rw [hsame, hi]
      · exact hnone
    | some v =>
      cases (hx.withdrawn id r hr hu v hi).trans hv
      simp only [World.delete, hi, ↓reduceIte, Function.update_self]

end TravelAgent.IndexPoints
