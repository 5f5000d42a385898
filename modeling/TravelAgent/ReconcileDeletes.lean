import TravelAgent.IndexAgreement
import TravelAgent.ReconcileRun

namespace TravelAgent.Reconcile

open TravelAgent.Leasing TravelAgent.Rows TravelAgent.ShareRecord TravelAgent.ShareStore
open TravelAgent.ShareReads TravelAgent.ShareMoves TravelAgent.ShareCursors TravelAgent.ShareLifecycle
open TravelAgent.IndexPoints TravelAgent.Transition

variable {Snapshot : Type}

def StoredPoint.field (p : StoredPoint) (name : String) : Option Json.Value :=
  p.payload.bind fun fields => ShareCursors.field fields name

/-- Readers see the share, and the point is the one that stands for it. -/
structure Authoritative (p : StoredPoint) (r : SharedGuideRecord Snapshot) : Prop where
  live : r.publicReady = true
  id : uuidText p.id.print = some r.shareId
  shareId : StoredPoint.field p "share_id" = some (.str r.shareId)
  version : StoredPoint.field p "index_version" = some (.int r.indexVersion)
  hash : StoredPoint.field p "content_hash" = some (.str r.content.contentHash)

/-- A call of the script that removes a point with a condition spares the authoritative ones. -/
def SparesLive (cfg : Settings) (x : World Snapshot) (label : Label Snapshot) : Prop :=
  ∀ point rest reply now y, x.pc = .removing (.deleting point) rest → label = .script reply now →
    step cfg x label = some y → ∀ p ∈ x.points, p ∉ y.points →
      ∀ id r, x.store.share id = some r → ¬Authoritative p r

/-- A new share gets an identifier that no row and no point ever had. -/
def Fresh (x : World Snapshot) : Label Snapshot → Prop
  | .call op => ∀ id ∈ drawn op, id ∉ x.used
  | _ => True

def Known (used : List ShareId) (ps : List IndexedPoint) : Prop :=
  ∀ p ∈ ps, ∀ id, p.shareId = some id → id ∈ used

def Inventory.all (inv : Inventory) : List IndexedPoint := inv.points ++ inv.malformed ++ inv.wrongId

def Removal.point : Removal Snapshot → Option IndexedPoint
  | .checking p | .guarding p | .deleting p | .confirming p | .refetching p => some p
  | .requeuing _ => none

/-- The points that the script still remembers. -/
def Pc.remembered : Pc Snapshot → List IndexedPoint
  | .scrolling _ _ inv => inv.all
  | .repairing _ todo => todo.cleanup
  | .removing stage rest => (Removal.point stage).toList ++ rest
  | _ => []

/-- The point stands for no share that readers will see with its version. -/
def Dead (s : Store Snapshot) (p : IndexedPoint) : Prop :=
  ∀ id version, p.shareId = some id → p.indexVersion = some version →
    physicalIdMatches p = false ∨ s.share id = none ∨ Past s id version

structure Guarded (x : World Snapshot) : Prop where
  unique : UniqueShares x.store
  seen : Known x.used (x.points.map identity)
  kept : Known x.used x.pc.remembered
  dead : ∀ p rest, x.pc = .removing (.deleting p) rest → Dead x.store p

theorem known_mono {used used' : List ShareId} {ps ps' : List IndexedPoint} (h : Known used ps)
    (hused : ∀ id ∈ used, id ∈ used') (hps : ∀ p ∈ ps', p ∈ ps) : Known used' ps' :=
  fun p hp id hid => hused id (h p (hps p hp) id hid)

theorem known_append {used : List ShareId} {ps qs : List IndexedPoint} :
    Known used (ps ++ qs) ↔ Known used ps ∧ Known used qs := by
  constructor
  · intro h
    exact ⟨fun p hp => h p (List.mem_append_left qs hp), fun p hp => h p (List.mem_append_right ps hp)⟩
  · rintro ⟨hps, hqs⟩ p hp
    obtain hp | hp := List.mem_append.mp hp
    · exact hps p hp
    · exact hqs p hp

theorem known_cons {used : List ShareId} {p : IndexedPoint} {ps : List IndexedPoint} :
    Known used (p :: ps) ↔ (∀ id, p.shareId = some id → id ∈ used) ∧ Known used ps := by
  rw [Known, List.forall_mem_cons]
  exact Iff.rfl

theorem known_nil (used : List ShareId) : Known used [] := by
  intro p hp
  cases hp

theorem known_add {used : List ShareId} {inv : Inventory} {p : IndexedPoint}
    (hp : ∀ id, p.shareId = some id → id ∈ used) (h : Known used inv.all) :
    Known used (inv.add p).all := by
  obtain ⟨hrest, hwrong⟩ := known_append.mp h
  obtain ⟨hpoints, hmalformed⟩ := known_append.mp hrest
  have hone : ∀ q : IndexedPoint, q.shareId = p.shareId → Known used [q] := fun q hq =>
    known_cons.mpr ⟨fun id hid => hp id (hq.symm.trans hid), known_nil used⟩
  rw [Inventory.add, Inventory.all]
  split
  · exact known_append.mpr ⟨known_append.mpr
      ⟨hpoints, known_append.mpr ⟨hmalformed, hone p rfl⟩⟩, hwrong⟩
  · split
    · exact known_append.mpr ⟨known_append.mpr
        ⟨hpoints, known_append.mpr ⟨hmalformed, hone _ rfl⟩⟩, hwrong⟩
    · refine known_append.mpr ⟨known_append.mpr
        ⟨known_append.mpr ⟨hpoints, hone p rfl⟩, hmalformed⟩, ?_⟩
      dsimp only
      split
      · exact hwrong
      · exact known_append.mpr ⟨hwrong, hone p rfl⟩

theorem known_addAll {used : List ShareId} {ps : List IndexedPoint} {inv : Inventory}
    (hps : Known used ps) (h : Known used inv.all) : Known used (ps.foldl Inventory.add inv).all := by
  induction ps generalizing inv with
  | nil => exact h
  | cons p ps ih =>
    obtain ⟨hp, hps⟩ := known_cons.mp hps
    exact ih hps (known_add hp h)

theorem mem_uniquePoints {ps : List IndexedPoint} {p : IndexedPoint} (h : p ∈ uniquePoints ps) :
    p ∈ ps := by
  have hfold : ∀ (qs acc : List IndexedPoint),
      p ∈ qs.foldl (fun acc p =>
        if acc.any fun q => decide (q.pointId = p.pointId) then acc else acc ++ [p]) acc →
        p ∈ acc ∨ p ∈ qs := by
    intro qs
    induction qs with
    | nil => exact fun _ hp => Or.inl hp
    | cons q qs ih =>
      intro acc hp
      obtain hp | hp := ih _ hp
      · dsimp only at hp
        split at hp
        · exact Or.inl hp
        · obtain hp | hp := List.mem_append.mp hp
          · exact Or.inl hp
          · exact Or.inr (List.mem_cons.mpr (Or.inl (List.mem_singleton.mp hp)))
      · exact Or.inr (List.mem_cons_of_mem q hp)
  obtain hp | hp := hfold ps [] h
  · cases hp
  · exact hp

theorem cleanupCandidates_mem {records : List (SharedGuideRecord Snapshot)} {inv : Inventory}
    {p : IndexedPoint} (h : p ∈ cleanupCandidates records inv) : p ∈ inv.all := by
  have hmem := mem_uniquePoints h
  rw [List.mem_append, List.mem_append] at hmem
  rw [Inventory.all, List.mem_append, List.mem_append]
  obtain (hp | hp) | hp := hmem
  · exact Or.inl (Or.inr hp)
  · exact Or.inr hp
  · obtain ⟨id, _, hfind⟩ := List.mem_filterMap.mp hp
    exact Or.inl (Or.inl (List.mem_of_find?_eq_some hfind))

theorem remembered_nextRemoval (rest : List IndexedPoint) :
    (nextRemoval rest : Pc Snapshot).remembered = rest := by
  cases rest <;> rfl

theorem remembered_nextRepair (todo : Todo Snapshot) :
    (nextRepair todo).remembered = todo.cleanup := by
  obtain ⟨repairs, cleanup⟩ := todo
  cases repairs with
  | nil => exact remembered_nextRemoval cleanup
  | cons r rest => rfl

theorem nextRemoval_not_deleting {rest rest' : List IndexedPoint} {p : IndexedPoint}
    (h : (nextRemoval rest : Pc Snapshot) = .removing (.deleting p) rest') : False := by
  cases rest <;> simp [nextRemoval] at h

theorem nextRepair_not_deleting {todo : Todo Snapshot} {rest : List IndexedPoint} {p : IndexedPoint}
    (h : nextRepair todo = .removing (.deleting p) rest) : False := by
  obtain ⟨repairs, cleanup⟩ := todo
  cases repairs with
  | nil => exact nextRemoval_not_deleting h
  | cons r rest => cases h

theorem dead_call {s : Store Snapshot} (hs : UniqueShares s) {used : List ShareId} {op : Op Snapshot}
    (hfresh : ∀ id ∈ drawn op, id ∉ used) {p : IndexedPoint}
    (hp : ∀ id, p.shareId = some id → id ∈ used) (h : Dead s p) : Dead (apply s op) p := by
  intro id version hid hversion
  refine (h id version hid hversion).imp_right (Or.imp ?_ (past_call hs op))
  intro hnone
  have hchange := (apply_effect hs op).change id
  generalize (apply s op).share id = after at hchange
  cases hchange with
  | kept => exact hnone
  | created draft now jobId call absent =>
    -- a new share has an identifier that the point cannot have
    refine absurd (hp id hid) (hfresh id ?_)
    rw [call]
    exact List.mem_singleton.mpr rfl
  | moved r r' found move => cases hnone.symm.trans found

theorem guarded_call {x : World Snapshot} (h : Guarded x) {op : Op Snapshot}
    (hfresh : ∀ id ∈ drawn op, id ∉ x.used) : Guarded (x.call op) where
  unique := apply_unique h.unique op
  seen := known_mono h.seen (fun _ hid => List.mem_append_right _ hid) fun _ hp => hp
  kept := known_mono h.kept (fun _ hid => List.mem_append_right _ hid) fun _ hp => hp
  dead := by
    intro p rest hpc
    have hpc' : x.pc = .removing (.deleting p) rest := hpc
    refine dead_call h.unique hfresh ?_ (h.dead p rest hpc')
    have hkept := h.kept
    rw [hpc'] at hkept
    exact hkept p List.mem_cons_self

theorem guarded_put {x : World Snapshot} (h : Guarded x) (p : StoredPoint) : Guarded (x.put p) where
  unique := h.unique
  seen := by
    intro q hq id hid
    obtain ⟨c, hc, rfl⟩ := List.mem_map.mp hq
    obtain rfl | hc := List.mem_cons.mp hc
    · exact List.mem_append_left _ (List.mem_filterMap.mpr ⟨c, List.mem_singleton.mpr rfl, hid⟩)
    · exact List.mem_append_right _
        (h.seen _ (List.mem_map_of_mem (List.mem_filter.mp hc).1) id hid)
  kept := known_mono h.kept (fun _ hid => List.mem_append_right _ hid) fun _ hp => hp
  dead := h.dead

theorem guarded_erase {x : World Snapshot} (h : Guarded x) (conditions : List Condition) :
    Guarded (x.erase conditions) where
  unique := h.unique
  seen := by
    refine known_mono h.seen (fun _ hid => hid) ?_
    intro q hq
    obtain ⟨c, hc, rfl⟩ := List.mem_map.mp hq
    exact List.mem_map_of_mem (List.mem_filter.mp hc).1
  kept := h.kept
  dead := h.dead

theorem guarded_tell {x : World Snapshot} (h : Guarded x) (f : ReconcileReport → ReconcileReport) :
    Guarded (x.tell f) := ⟨h.unique, h.seen, h.kept, h.dead⟩

theorem guarded_goto {x : World Snapshot} (h : Guarded x) {pc : Pc Snapshot}
    (hkept : Known x.used pc.remembered)
    (hdead : ∀ p rest, pc = .removing (.deleting p) rest → Dead x.store p) : Guarded (x.goto pc) :=
  ⟨h.unique, h.seen, hkept, hdead⟩

theorem guarded_nextRemoval {x : World Snapshot} (h : Guarded x) {rest : List IndexedPoint}
    (hrest : Known x.used rest) : Guarded (x.goto (nextRemoval rest)) := by
  refine guarded_goto h ?_ fun p rest' hpc => (nextRemoval_not_deleting hpc).elim
  rw [remembered_nextRemoval]
  exact hrest

theorem guarded_nextRepair {x : World Snapshot} (h : Guarded x) {todo : Todo Snapshot}
    (htodo : Known x.used todo.cleanup) : Guarded (x.goto (nextRepair todo)) := by
  refine guarded_goto h ?_ fun p rest hpc => (nextRepair_not_deleting hpc).elim
  rw [remembered_nextRepair]
  exact htodo

theorem drawn_requeue (id : ShareId) (version : Nat) (hash : String) (now : Time)
    (used : List ShareId) :
    ∀ i ∈ drawn (.requeueCurrentUpsert id version hash now : Op Snapshot), i ∉ used := by
  intro i hi
  cases hi

theorem known_put {used : List ShareId} {ps : List IndexedPoint} (h : Known used ps) (ids : List ShareId) :
    Known (ids ++ used) ps :=
  known_mono h (fun _ hid => List.mem_append_right ids hid) fun _ hp => hp

theorem guarded_repairing {x : World Snapshot} (h : Guarded x) (stage : Repair Snapshot)
    {todo : Todo Snapshot} (htodo : Known x.used todo.cleanup) :
    Guarded (x.goto (.repairing stage todo)) := by
  refine guarded_goto h htodo ?_
  intro p rest hpc
  cases hpc

theorem guarded_repair {x : World Snapshot} (h : Guarded x) (now : Time) {todo : Todo Snapshot}
    (htodo : Known x.used todo.cleanup) (stage : Repair Snapshot) :
    Guarded (x.repair now todo stage) := by
  have hfailed : Guarded ((x.tell failedOnce).goto (nextRepair todo)) :=
    guarded_nextRepair (guarded_tell h failedOnce) htodo
  have hskipped : Guarded ((x.tell skippedOnce).goto (nextRepair todo)) :=
    guarded_nextRepair (guarded_tell h skippedOnce) htodo
  cases stage with
  | reading r =>
    simp only [World.repair]
    split
    · exact hfailed
    · split
      · exact guarded_repairing h _ htodo
      · exact hskipped
  | embedding r => exact guarded_repairing h _ htodo
  | rereading r =>
    simp only [World.repair]
    split
    · exact hfailed
    · split
      · exact hskipped
      · exact guarded_repairing h _ htodo
  | writing c =>
    simp only [World.repair]
    split
    · exact hfailed
    · exact guarded_repairing (guarded_put h _) _ (known_put htodo _)
  | verifying c =>
    simp only [World.repair]
    split
    · exact hfailed
    · split
      · exact guarded_nextRepair (guarded_tell h _) htodo
      · exact guarded_repairing h _ htodo
  | erasing c => exact guarded_repairing (guarded_erase h _) _ htodo
  | refetching c =>
    simp only [World.repair]
    split
    · exact hfailed
    · split
      · exact hfailed
      · exact guarded_repairing h _ htodo
  | requeuing r =>
    have hcall := guarded_call h (drawn_requeue r.shareId r.indexVersion r.content.contentHash now x.used)
    exact guarded_nextRepair (guarded_tell hcall failedOnce) htodo

theorem guarded_repairLost {x : World Snapshot} (h : Guarded x) (now : Time) {ps : List IndexedPoint}
    (hps : Known x.used ps) (stage : Repair Snapshot) :
    Guarded (x.repairLost now stage) ∧ Known (x.repairLost now stage).used ps := by
  cases stage with
  | writing c =>
    simp only [World.repairLost]
    cases pointOf c with
    | none => exact ⟨h, hps⟩
    | some p => exact ⟨guarded_put h p, known_put hps _⟩
  | erasing c => exact ⟨guarded_erase h _, hps⟩
  | requeuing r =>
    exact ⟨guarded_call h (drawn_requeue r.shareId r.indexVersion r.content.contentHash now x.used), hps⟩
  | _ => exact ⟨h, hps⟩

theorem getIndexRecord_none {s : Store Snapshot} {id : ShareId} (h : getIndexRecord s id = .ok none) :
    s.share id = none := by
  rw [getIndexRecord] at h
  split at h
  · assumption
  · rename_i r _
    cases hr : recordFromRow r with
    | error e =>
      rw [hr] at h
      cases h
    | ok q =>
      rw [hr] at h
      cases h

/-- What the guard lets through is dead. -/
theorem canDelete_dead {s : Store Snapshot} {p : IndexedPoint} {id : ShareId}
    {current : Option (SharedGuideRecord Snapshot)} (hid : p.shareId = some id)
    (hread : getIndexRecord s id = .ok current) (h : canDeleteExtra p current = true) : Dead s p := by
  intro id' version hid' hversion
  obtain rfl : id' = id := Option.some.inj (hid'.symm.trans hid)
  cases current with
  | none => exact Or.inr (Or.inl (getIndexRecord_none hread))
  | some r =>
    rw [canDeleteExtra] at h
    split at h
    · rename_i hgone
      simp only [pointMatchesRecord, Bool.and_eq_true, decide_eq_true_eq] at h
      have hsame : version = r.indexVersion := Option.some.inj (hversion.symm.trans h.1.2)
      exact Or.inr (Or.inr
        ⟨r, IndexAgreement.getIndexRecord_share hread, Or.inr ⟨hsame.symm, hgone.1⟩⟩)
    · split at h
      · rw [Bool.and_eq_true, Bool.not_eq_true'] at h
        exact Or.inl h.2
      · cases h

theorem guarded_removing {x : World Snapshot} (h : Guarded x) {stage : Removal Snapshot}
    {rest : List IndexedPoint} (hpoint : ∀ p, Removal.point stage = some p →
      ∀ id, p.shareId = some id → id ∈ x.used) (hrest : Known x.used rest)
    (hdead : ∀ p, stage = .deleting p → Dead x.store p) :
    Guarded (x.goto (.removing stage rest)) := by
  refine guarded_goto h (known_append.mpr ⟨?_, hrest⟩) ?_
  · intro p hp
    exact hpoint p (Option.mem_toList.mp hp)
  · intro p rest' hpc
    cases hpc
    exact hdead p rfl

theorem guarded_remove (cfg : Settings) {x : World Snapshot} (h : Guarded x) (now : Time)
    {rest : List IndexedPoint} {stage : Removal Snapshot} (hpoint : ∀ p, Removal.point stage = some p →
      ∀ id, p.shareId = some id → id ∈ x.used) (hrest : Known x.used rest) :
    Guarded (x.remove cfg now rest stage) := by
  have hfailed : Guarded ((x.tell failedOnce).goto (nextRemoval rest)) :=
    guarded_nextRemoval (guarded_tell h failedOnce) hrest
  have hskipped : Guarded ((x.tell skippedOnce).goto (nextRemoval rest)) :=
    guarded_nextRemoval (guarded_tell h skippedOnce) hrest
  cases stage with
  | checking p =>
    simp only [World.remove]
    split
    · exact guarded_removing h hpoint hrest nofun
    · exact hskipped
  | guarding p =>
    simp only [World.remove]
    split
    · rename_i hnone
      refine guarded_removing h hpoint hrest ?_
      intro q hq id version hid
      cases hq
      cases hnone.symm.trans hid
    · rename_i id hid
      split
      · exact hfailed
      · rename_i current hread
        split
        · rename_i hcan
          refine guarded_removing h hpoint hrest ?_
          intro q hq
          cases hq
          exact canDelete_dead hid hread hcan
        · exact hskipped
  | deleting p =>
    simp only [World.remove]
    split
    · exact hskipped
    · exact guarded_removing (guarded_erase h _) hpoint hrest nofun
  | confirming p =>
    simp only [World.remove]
    split
    · exact guarded_removing (guarded_tell h _) hpoint hrest nofun
    · split
      · exact hfailed
      · exact hskipped
  | refetching p =>
    simp only [World.remove]
    split
    · exact guarded_nextRemoval h hrest
    · split
      · exact hfailed
      · split
        · exact guarded_nextRemoval h hrest
        · exact guarded_removing h nofun hrest nofun
  | requeuing r =>
    have hcall := guarded_call h (drawn_requeue r.shareId r.indexVersion r.content.contentHash now x.used)
    exact guarded_nextRemoval (guarded_tell hcall _) hrest

theorem guarded_removeLost {x : World Snapshot} (h : Guarded x) (now : Time) {ps : List IndexedPoint}
    (hps : Known x.used ps) (stage : Removal Snapshot) :
    Guarded (x.removeLost now stage) ∧ Known (x.removeLost now stage).used ps := by
  cases stage with
  | deleting p =>
    simp only [World.removeLost]
    cases deleteConditions p with
    | none => exact ⟨h, hps⟩
    | some conditions => exact ⟨guarded_erase h conditions, hps⟩
  | requeuing r =>
    exact ⟨guarded_call h (drawn_requeue r.shareId r.indexVersion r.content.contentHash now x.used), hps⟩
  | _ => exact ⟨h, hps⟩

theorem guarded_finished {x : World Snapshot} (h : Guarded x) : Guarded (x.goto .finished) :=
  guarded_goto h (known_nil x.used) nofun

theorem guarded_listed {x : World Snapshot} (h : Guarded x)
    (records : List (SharedGuideRecord Snapshot)) : Guarded (x.listed records) :=
  guarded_goto (guarded_tell h _) (known_nil x.used) nofun

theorem guarded_listPage (cfg : Settings) {x : World Snapshot} (h : Guarded x) (after : Option ShareId)
    (records : List (SharedGuideRecord Snapshot)) : Guarded (x.listPage cfg after records) := by
  rw [World.listPage]
  split
  · exact guarded_finished h
  · rename_i page _
    dsimp only
    split
    · exact guarded_listed (guarded_tell h _) _
    · split
      · exact guarded_listed (guarded_tell h _) _
      · split
        · exact guarded_finished (guarded_tell h _)
        · exact guarded_goto (guarded_tell h _) (known_nil x.used) nofun

theorem guarded_classified (cfg : Settings) {x : World Snapshot} (h : Guarded x)
    (records : List (SharedGuideRecord Snapshot)) {inv : Inventory} (hinv : Known x.used inv.all) :
    Guarded (x.classified cfg records inv) := by
  rw [World.classified]
  split
  · refine guarded_nextRepair (guarded_tell h _) ?_
    split
    · exact known_mono hinv (fun _ hid => hid) fun _ hp => cleanupCandidates_mem hp
    · exact known_nil _
  · exact guarded_finished (guarded_tell h _)

theorem scroll_known (cfg : Settings) {x : World Snapshot} (h : Guarded x) (offset : Option PointId) :
    Known x.used ((scroll cfg x.points offset).1.map identity) := by
  refine known_mono h.seen (fun _ hid => hid) ?_
  intro q hq
  obtain ⟨p, hp, rfl⟩ := List.mem_map.mp hq
  exact List.mem_map_of_mem
    (List.mem_mergeSort.mp (List.mem_filter.mp (List.mem_of_mem_take hp)).1)

theorem guarded_scrollPage (cfg : Settings) {x : World Snapshot} (h : Guarded x)
    (offset : Option PointId) (records : List (SharedGuideRecord Snapshot)) {inv : Inventory}
    (hinv : Known x.used inv.all) : Guarded (x.scrollPage cfg offset records inv) := by
  have hall := known_addAll (scroll_known cfg h offset) hinv
  rw [World.scrollPage]
  split
  · exact guarded_classified cfg h records hall
  · split
    · exact guarded_finished h
    · exact guarded_goto h hall nofun

theorem guarded_step {cfg : Settings} {x y : World Snapshot} {label : Label Snapshot} (h : Guarded x)
    (hfresh : Fresh x label) (hstep : step cfg x label = some y) : Guarded y := by
  cases label with
  | call op =>
    cases hstep
    exact guarded_call h hfresh
  | upsert p =>
    cases hstep
    exact guarded_put h p
  | delete id version =>
    cases hstep
    exact guarded_erase h _
  | script reply now =>
    have hkept := h.kept
    simp only [step] at hstep
    cases hpc : x.pc with
    | finished =>
      rw [hpc] at hstep
      cases hstep
    | validating =>
      simp only [hpc] at hstep
      split at hstep
      · cases hstep
        exact guarded_goto h (known_nil x.used) nofun
      · cases hstep
        exact guarded_finished (guarded_tell h _)
    | listing after records =>
      simp only [hpc] at hstep
      split at hstep
      · cases hstep
        exact guarded_listPage cfg h after records
      · cases hstep
        exact guarded_finished h
    | scrolling offset records inv =>
      simp only [hpc] at hstep
      rw [hpc] at hkept
      split at hstep
      · cases hstep
        exact guarded_scrollPage cfg h offset records hkept
      · cases hstep
        exact guarded_finished h
    | repairing stage todo =>
      simp only [hpc] at hstep
      rw [hpc] at hkept
      cases reply with
      | ok =>
        cases hstep
        exact guarded_repair h now hkept stage
      | refused =>
        cases hstep
        exact guarded_nextRepair (guarded_tell h failedOnce) hkept
      | lost =>
        cases hstep
        obtain ⟨hlost, htodo⟩ := guarded_repairLost h now hkept stage
        exact guarded_nextRepair (guarded_tell hlost failedOnce) htodo
    | removing stage rest =>
      simp only [hpc] at hstep
      rw [hpc] at hkept
      obtain ⟨hpoint, hrest⟩ := known_append.mp hkept
      cases reply with
      | ok =>
        cases hstep
        exact guarded_remove cfg h now (fun p hp => hpoint p (Option.mem_toList.mpr hp)) hrest
      | refused =>
        cases hstep
        exact guarded_nextRemoval (guarded_tell h failedOnce) hrest
      | lost =>
        cases hstep
        obtain ⟨hlost, hrest⟩ := guarded_removeLost h now hrest stage
        exact guarded_nextRemoval (guarded_tell hlost failedOnce) hrest

/-- What the condition says of a point that it picks. -/
theorem meets_fields {point : IndexedPoint} {conditions : List Condition}
    (h : deleteConditions point = some conditions) {p : StoredPoint} (hmeets : meets conditions p = true) :
    ∃ shareId version, point.shareId = some shareId ∧ point.indexVersion = some version ∧
      Condition.holds p (.hasId point.pointId) = true ∧
      Condition.holds p (.matchText "share_id" shareId) = true ∧
      Condition.holds p (.matchNumber "index_version" version) = true := by
  have hall := List.all_eq_true.mp hmeets
  rw [deleteConditions.eq_def] at h
  split at h
  · rename_i shareId version hash hreason hshare hversion hhash
    refine ⟨shareId, version, hshare, hversion, ?_⟩
    dsimp only at h
    split at h
    · cases h
      exact ⟨hall _ (by simp), hall _ (by simp), hall _ (by simp)⟩
    · cases h
      exact ⟨hall _ (by simp), hall _ (by simp), hall _ (by simp)⟩
    · cases h
  · cases h

/-- A point that the condition picks is not authoritative when what was read of it is dead. -/
theorem dead_not_authoritative {s : Store Snapshot} {point : IndexedPoint}
    {conditions : List Condition} (hconditions : deleteConditions point = some conditions)
    (hdead : Dead s point) {p : StoredPoint} (hmeets : meets conditions p = true) {id : ShareId}
    {r : SharedGuideRecord Snapshot} (hr : s.share id = some r) : ¬Authoritative p r := by
  intro hauth
  obtain ⟨shareId, version, hshare, hversion, hid, htext, hnumber⟩ := meets_fields hconditions hmeets
  have hs := hauth.shareId
  have hv := hauth.version
  simp only [StoredPoint.field] at hs hv
  simp only [Condition.holds, hs, hv, fieldMatches, decide_eq_true_eq] at hid htext hnumber
  have hidr : shareId = id := htext.symm.trans (share_shareId hr)
  have hvr : version = r.indexVersion := Int.ofNat.inj hnumber.symm
  rw [hidr] at hshare
  obtain hwrong | hnone | ⟨q, hq, hpast⟩ := hdead _ _ hshare hversion
  · have hown : uuidText point.pointId.print = some id := by
      rw [← hid, hauth.id, share_shareId hr]
    simp only [physicalIdMatches, hshare, hown, Option.any_some, decide_true] at hwrong
    cases hwrong
  · rw [hnone] at hr
    cases hr
  · rw [hr, Option.some.injEq] at hq
    rw [← hq, hvr] at hpast
    obtain hlt | ⟨_, hun⟩ := hpast
    · exact absurd hlt (Nat.lt_irrefl _)
    · rw [publicReady_not_unpublished hauth.live] at hun
      cases hun

theorem guarded_spares (cfg : Settings) {x : World Snapshot} (h : Guarded x) (label : Label Snapshot) :
    SparesLive cfg x label := by
  intro point rest reply now y hpc hlabel hstep p hp hgone id r hr
  subst hlabel
  have hdead := h.dead point rest hpc
  simp only [step, hpc] at hstep
  have herased : ∃ conditions, deleteConditions point = some conditions ∧
      y.points = (x.erase conditions).points := by
    cases hconditions : deleteConditions point with
    | none =>
      exfalso
      cases reply <;> simp only [World.remove, World.removeLost, hconditions, Option.elim] at hstep <;>
        cases hstep <;> exact hgone hp
    | some conditions =>
      refine ⟨conditions, rfl, ?_⟩
      cases reply with
      | ok =>
        simp only [World.remove, hconditions] at hstep
        cases hstep
        rfl
      | refused =>
        cases hstep
        exact absurd hp hgone
      | lost =>
        simp only [World.removeLost, hconditions, Option.elim] at hstep
        cases hstep
        rfl
  obtain ⟨conditions, hconditions, hpoints⟩ := herased
  refine dead_not_authoritative hconditions hdead ?_ hr
  by_contra hno
  rw [Bool.not_eq_true] at hno
  apply hgone
  rw [hpoints]
  exact List.mem_filter.mpr ⟨hp, by rw [hno]; rfl⟩

theorem start_guarded (args : Args) {store : Store Snapshot} (hs : UniqueShares store)
    (points : List StoredPoint) : Guarded (World.start args store points) where
  unique := hs
  seen := by
    intro q hq id hid
    obtain ⟨p, hp, rfl⟩ := List.mem_map.mp hq
    exact List.mem_append_right _ (List.mem_filterMap.mpr ⟨p, hp, hid⟩)
  kept := known_nil _
  dead := nofun

/-- Whatever rows and points the script finds, and whatever requests and index workers do meanwhile,
its conditional deletes remove no point that stands for a share that readers see. -/
theorem deletes_spare_live (cfg : Settings) {store : Store Snapshot} (hs : UniqueShares store)
    (points : List StoredPoint) {labels : List (Label Snapshot)}
    (hfresh : Along (step cfg) Fresh (World.start cfg.args store points) labels) :
    Along (step cfg) (SparesLive cfg) (World.start cfg.args store points) labels :=
  along_of_guarded (fun _ _ _ h hf hstep => guarded_step h hf hstep)
    (fun _ label h _ => guarded_spares cfg h label) (start_guarded cfg.args hs points) hfresh

instance (x : World Snapshot) (label : Label Snapshot) : Decidable (Fresh x label) :=
  match label with
  | .call op => inferInstanceAs (Decidable (∀ id ∈ drawn op, id ∉ x.used))
  | .upsert _ => isTrue trivial
  | .delete _ _ => isTrue trivial
  | .script _ _ => isTrue trivial

def fullRun : Settings :=
  ⟨⟨true, true, 100, fun _ => rfl, by decide⟩, fun _ _ => true, fun _ _ => false⟩

/-- A point of a share that is gone. -/
def orphanPoint : StoredPoint :=
  ⟨.uuid (dashed 1), some [("share_id", .str (dashed 1)), ("index_version", .int 1),
    ("content_hash", .str (String.ofList (List.replicate 64 '0')))]⟩

/-- A share is created between the guard and the delete. -/
def orphanLabels : List (Label Unit) :=
  [.script .ok 0, .script .ok 0, .script .ok 0, .script .ok 0, .script .ok 0,
    .call (.createPublishIntent (draftOf "h") 0 (dashed 2) "j"), .script .ok 0, .script .ok 0,
    .script .ok 0]

theorem orphan_deleted_safely :
    Along (step fullRun) (SparesLive fullRun) (World.start fullRun.args Store.empty [orphanPoint])
      orphanLabels := by
  have hs : UniqueShares (Store.empty : Store Unit) := List.nodup_nil
  exact deletes_spare_live fullRun hs [orphanPoint] (by decide +kernel)

end TravelAgent.Reconcile
