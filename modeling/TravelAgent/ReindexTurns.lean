import Mathlib
import TravelAgent.Reindex

namespace TravelAgent.Reindex

open TravelAgent.Leasing TravelAgent.ShareRecord TravelAgent.ShareStore TravelAgent.ShareReads
open TravelAgent.ShareMoves

variable {Snapshot : Type}

/-- The script is at work on a record of the page. -/
def Pc.working : Pc Snapshot → Option (Todo Snapshot)
  | .rebuilding _ todo | .changing _ todo => some todo
  | _ => none

/-- The ways in which a record leaves the report, but for the two that `advance` decides. -/
inductive Settles : (ReindexReport → ReindexReport) → Prop
  | failed : Settles failedOnce
  | skipped : Settles skippedOnce
  | rebuilt : Settles rebuiltOnce
  | reindexed : Settles reindexedOnce

/-- What a call of the script does to its own position, report and selection. -/
inductive Turn (cfg : Settings Snapshot) (x : World Snapshot) : World Snapshot → Prop
  | listed (here : x.pc = .validating) : Turn cfg x (x.goto (.listing none))
  | mismatched (here : x.pc = .validating) :
      Turn cfg x ((x.tell fun r => { r with schemaMismatch := true, failed := r.failed + 1 }).goto
        .finished)
  | raised (here : x.pc.working = none) : Turn cfg x (x.goto .raised)
  | paged (after : Option ShareId) (here : x.pc = .listing after) :
      Turn cfg x (x.listPage cfg after)
  | worked (todo : Todo Snapshot) (y : World Snapshot) (here : x.pc.working = some todo)
      (there : y.pc.working = some todo) (report : y.report = x.report)
      (selected : y.selected = x.selected) : Turn cfg x y
  | settled (todo : Todo Snapshot) (y : World Snapshot) (f : ReindexReport → ReindexReport)
      (here : x.pc.working = some todo) (how : Settles f) (report : y.report = x.report)
      (selected : y.selected = x.selected) : Turn cfg x ((y.tell f).resume cfg todo)

theorem rebuild_turn (cfg : Settings Snapshot) {x : World Snapshot} (now : Time)
    {todo : Todo Snapshot} {stage : Reconcile.Repair Snapshot} (h : x.pc = .rebuilding stage todo) :
    Turn cfg x (x.rebuild cfg now todo stage) := by
  have here : x.pc.working = some todo := by
    rw [h]
    rfl
  cases stage with
  | reading r =>
    simp only [World.rebuild]
    split
    · exact Turn.settled todo x _ here .failed rfl rfl
    · split
      · exact Turn.worked todo _ here rfl (by simp) (by simp)
      · exact Turn.settled todo x _ here .skipped rfl rfl
  | embedding r => exact Turn.worked todo _ here rfl rfl rfl
  | rereading r =>
    simp only [World.rebuild]
    split
    · exact Turn.settled todo x _ here .failed rfl rfl
    · split
      · exact Turn.settled todo x _ here .skipped rfl rfl
      · exact Turn.worked todo _ here rfl (by simp) (by simp)
  | writing c =>
    simp only [World.rebuild]
    split
    · exact Turn.settled todo x _ here .failed rfl rfl
    · exact Turn.worked todo _ here rfl (by simp) (by simp)
  | verifying c =>
    simp only [World.rebuild]
    split
    · exact Turn.settled todo x _ here .failed rfl rfl
    · split
      · exact Turn.settled todo x _ here .rebuilt rfl rfl
      · exact Turn.worked todo _ here rfl (by simp) (by simp)
  | erasing c => exact Turn.worked todo _ here rfl rfl rfl
  | refetching c =>
    simp only [World.rebuild]
    split
    · exact Turn.settled todo x _ here .failed rfl rfl
    · split
      · exact Turn.settled todo x _ here .failed rfl rfl
      · exact Turn.worked todo _ here rfl (by simp) (by simp)
  | requeuing r =>
    exact Turn.settled todo (x.call _) _ here .failed (call_report x _) (call_selected x _)

theorem change_turn (cfg : Settings Snapshot) {x : World Snapshot} (now : Time) (drawn : String)
    {todo : Todo Snapshot} {stage : Change Snapshot} (h : x.pc = .changing stage todo) :
    Turn cfg x (x.change cfg now drawn todo stage) := by
  have here : x.pc.working = some todo := by
    rw [h]
    rfl
  cases stage with
  | staging r built =>
    simp only [World.change]
    split
    · split
      · exact Turn.settled todo x _ here .skipped rfl rfl
      · exact Turn.worked todo _ here rfl (by simp) (by simp)
      · exact Turn.settled todo (x.call _) _ here .failed (call_report x _) (call_selected x _)
    · exact Turn.settled todo x _ here .failed rfl rfl
  | claiming r job start =>
    simp only [World.change]
    split
    · exact Turn.worked todo _ here rfl (by simp) (by simp)
    · exact Turn.settled todo (x.call _) _ here .failed (call_report x _) (call_selected x _)
  | embedding r job worker start => exact Turn.worked todo _ here rfl rfl rfl
  | writing r job worker start =>
    simp only [World.change]
    split
    · exact Turn.worked todo _ here rfl (by simp) (by simp)
    · exact Turn.worked todo _ here rfl (by simp) (by simp)
  | completing r job worker start =>
    simp only [World.change]
    split
    · exact Turn.settled todo (x.call _) _ here .reindexed (call_report x _) (call_selected x _)
    · exact Turn.worked todo _ here rfl (by simp) (by simp)
  | failing r job worker start error =>
    exact Turn.settled todo (x.call _) _ here .failed (call_report x _) (call_selected x _)

theorem raised_turn (cfg : Settings Snapshot) {x y : World Snapshot} {error : String}
    {todo : Todo Snapshot} {stage : Change Snapshot} (h : x.pc = .changing stage todo)
    (hreport : y.report = x.report) (hselected : y.selected = x.selected) :
    Turn cfg x (y.changeRaised cfg error todo stage) := by
  have here : x.pc.working = some todo := by
    rw [h]
    rfl
  cases stage with
  | embedding r job worker start => exact Turn.worked todo _ here rfl hreport hselected
  | writing r job worker start => exact Turn.worked todo _ here rfl hreport hselected
  | completing r job worker start => exact Turn.worked todo _ here rfl hreport hselected
  | _ => exact Turn.settled todo y _ here .failed hreport hselected

theorem rebuildLost_kept (x : World Snapshot) (now : Time) (stage : Reconcile.Repair Snapshot) :
    (x.rebuildLost now stage).report = x.report ∧
      (x.rebuildLost now stage).selected = x.selected := by
  cases stage with
  | writing c =>
    simp only [World.rebuildLost]
    cases Reconcile.pointOf c <;> exact ⟨rfl, rfl⟩
  | _ => exact ⟨by simp [World.rebuildLost], by simp [World.rebuildLost]⟩

theorem changeLost_kept (cfg : Settings Snapshot) (x : World Snapshot) (now : Time) (drawn : String)
    (stage : Change Snapshot) :
    (x.changeLost cfg now drawn stage).report = x.report ∧
      (x.changeLost cfg now drawn stage).selected = x.selected := by
  cases stage with
  | writing r job worker start =>
    simp only [World.changeLost]
    cases Reconcile.pointOf r <;> exact ⟨rfl, rfl⟩
  | _ => exact ⟨by simp [World.changeLost], by simp [World.changeLost]⟩

theorem script_turn {cfg : Settings Snapshot} {x y : World Snapshot} {reply : Reconcile.Reply}
    {now : Time} {drawn error : String} (h : x.script cfg reply now drawn error = some y) :
    Turn cfg x y := by
  simp only [World.script] at h
  split at h
  · cases h
  · cases h
  · rename_i hpc
    cases reply with
    | ok =>
      cases h
      exact Turn.listed hpc
    | refused =>
      cases h
      exact Turn.mismatched hpc
    | lost =>
      cases h
      exact Turn.raised (by rw [hpc]; rfl)
  · rename_i after hpc
    split at h
    · cases h
      exact Turn.paged after hpc
    · cases h
      exact Turn.raised (by rw [hpc]; rfl)
  · rename_i stage todo hpc
    have here : x.pc.working = some todo := by
      rw [hpc]
      rfl
    cases reply with
    | ok =>
      cases h
      exact rebuild_turn cfg now hpc
    | refused =>
      cases h
      exact Turn.settled todo x _ here .failed rfl rfl
    | lost =>
      cases h
      obtain ⟨hreport, hselected⟩ := rebuildLost_kept x now stage
      exact Turn.settled todo _ _ here .failed hreport hselected
  · rename_i stage todo hpc
    cases reply with
    | ok =>
      cases h
      exact change_turn cfg now drawn hpc
    | refused =>
      cases h
      exact raised_turn cfg hpc rfl rfl
    | lost =>
      cases h
      obtain ⟨hreport, hselected⟩ := changeLost_kept cfg x now drawn stage
      exact raised_turn cfg hpc hreport hselected

/-- What the loop does with the records of a page up to its next call. -/
theorem advance_spec (cfg : Settings Snapshot) (x : World Snapshot) (next : Next)
    (rs : List (SharedGuideRecord Snapshot)) :
    ∃ seen todo, rs = seen ++ todo.rest ∧ todo.next = next ∧
      (x.advance cfg next rs).selected =
        (seen.map SharedGuideRecord.shareId).reverse ++ x.selected ∧
      (todo.rest = [] ∧ (x.advance cfg next rs).pc = next.pc ∨
        (x.advance cfg next rs).pc.working = some todo) := by
  induction rs generalizing x with
  | nil => exact ⟨[], ⟨[], next⟩, rfl, rfl, rfl, Or.inl ⟨rfl, rfl⟩⟩
  | cons r rest ih =>
    have hgo : ∀ y : World Snapshot, y.selected = r.shareId :: x.selected →
        ∃ seen todo, r :: rest = seen ++ todo.rest ∧ todo.next = next ∧
          (y.advance cfg next rest).selected =
            (seen.map SharedGuideRecord.shareId).reverse ++ x.selected ∧
          (todo.rest = [] ∧ (y.advance cfg next rest).pc = next.pc ∨
            (y.advance cfg next rest).pc.working = some todo) := by
      intro y hy
      obtain ⟨seen, todo, hrs, hnext, hselected, hpc⟩ := ih y
      refine ⟨r :: seen, todo, by rw [hrs, List.cons_append], hnext, ?_, hpc⟩
      rw [hselected, hy, List.map_cons, List.reverse_cons, List.append_assoc, List.singleton_append]
    simp only [World.advance]
    split
    · split
      · exact hgo _ rfl
      · split
        · split
          · exact ⟨[r], ⟨rest, next⟩, rfl, rfl, rfl, Or.inr rfl⟩
          · exact hgo _ rfl
        · split
          · exact ⟨[r], ⟨rest, next⟩, rfl, rfl, rfl, Or.inr rfl⟩
          · exact hgo _ rfl
    · exact hgo _ rfl

theorem advance_store (cfg : Settings Snapshot) (x : World Snapshot) (next : Next)
    (rs : List (SharedGuideRecord Snapshot)) :
    (x.advance cfg next rs).store = x.store ∧ (x.advance cfg next rs).points = x.points := by
  induction rs generalizing x with
  | nil => exact ⟨rfl, rfl⟩
  | cons r rest ih =>
    simp only [World.advance]
    split
    · split
      · exact ih _
      · split
        · split
          · exact ⟨rfl, rfl⟩
          · exact ih _
        · split
          · exact ⟨rfl, rfl⟩
          · exact ih _
    · exact ih _

/-- The parties other than the script leave it where it is. -/
theorem other_kept {cfg : Settings Snapshot} {x y : World Snapshot} {label : Label Snapshot}
    (hl : ∀ reply now drawn error, label ≠ .script reply now drawn error)
    (h : step cfg x label = some y) :
    y.report = x.report ∧ y.selected = x.selected ∧ y.pc = x.pc ∧
      (y.store = x.store ∨ ∃ op, y.store = apply x.store op) := by
  cases label with
  | call op =>
    cases h
    exact ⟨rfl, rfl, rfl, Or.inr ⟨op, rfl⟩⟩
  | upsert p =>
    cases h
    exact ⟨rfl, rfl, rfl, Or.inl rfl⟩
  | delete id version =>
    cases h
    exact ⟨rfl, rfl, rfl, Or.inl rfl⟩
  | script reply now drawn error => exact absurd rfl (hl reply now drawn error)

@[simp] theorem resume_store (cfg : Settings Snapshot) (x : World Snapshot) (todo : Todo Snapshot) :
    (x.resume cfg todo).store = x.store :=
  (advance_store cfg x todo.next todo.rest).1

/-- The transactions of the script itself. -/
inductive Own (cfg : Settings Snapshot) (x : World Snapshot) : Op Snapshot → Prop
  | staged (r : SharedGuideRecord Snapshot) (built : Built) (now : Time) (jobId : JobId)
      (todo : Todo Snapshot) (here : x.pc = .changing (.staging r built) todo) :
      Own cfg x (stageCall r built now jobId)
  | claimed (job : ShareIndexJob) (worker : WorkerId) (now : Time) :
      Own cfg x (claimCall cfg job worker now)
  | completed (r : SharedGuideRecord Snapshot) (job : ShareIndexJob) (worker : WorkerId)
      (now : Time) : Own cfg x (completeCall r job worker now)
  | failed (r : SharedGuideRecord Snapshot) (job : ShareIndexJob) (worker : WorkerId) (now : Time)
      (error : String) : Own cfg x (failCall cfg r job worker now error)
  | requeued (id : ShareId) (version : Nat) (hash : String) (now : Time) :
      Own cfg x (.requeueCurrentUpsert id version hash now)

/-- A step of the script leaves the database alone or is one of its transactions. -/
def Called (cfg : Settings Snapshot) (x y : World Snapshot) : Prop :=
  y.store = x.store ∨ ∃ op, Own cfg x op ∧ y.store = apply x.store op

theorem rebuild_called (cfg : Settings Snapshot) (x : World Snapshot) (now : Time)
    (todo : Todo Snapshot) (stage : Reconcile.Repair Snapshot) :
    Called cfg x (x.rebuild cfg now todo stage) := by
  cases stage with
  | requeuing r =>
    exact Or.inr ⟨_, .requeued r.shareId r.indexVersion r.content.contentHash now,
      by simp [World.rebuild]⟩
  | _ =>
    refine Or.inl ?_
    simp only [World.rebuild]
    repeat' split
    all_goals simp

theorem rebuildLost_called (cfg : Settings Snapshot) (x : World Snapshot) (now : Time)
    (stage : Reconcile.Repair Snapshot) : Called cfg x (x.rebuildLost now stage) := by
  cases stage with
  | requeuing r =>
    exact Or.inr ⟨_, .requeued r.shareId r.indexVersion r.content.contentHash now,
      by simp [World.rebuildLost]⟩
  | writing c =>
    refine Or.inl ?_
    simp only [World.rebuildLost]
    cases Reconcile.pointOf c <;> rfl
  | _ => exact Or.inl (by simp [World.rebuildLost])

theorem change_called (cfg : Settings Snapshot) {x : World Snapshot} (now : Time) (drawn : String)
    {todo : Todo Snapshot} {stage : Change Snapshot} (h : x.pc = .changing stage todo) :
    Called cfg x (x.change cfg now drawn todo stage) := by
  cases stage with
  | staging r built =>
    have hown : Own cfg x (stageCall r built now drawn) := .staged r built now drawn todo h
    simp only [World.change]
    split
    · split
      · exact Or.inl (by simp)
      · exact Or.inr ⟨_, hown, by simp⟩
      · exact Or.inr ⟨_, hown, by simp⟩
    · exact Or.inl (by simp)
  | claiming r job start =>
    simp only [World.change]
    split
    · exact Or.inr ⟨_, .claimed job (workerName drawn) start, by simp⟩
    · exact Or.inr ⟨_, .claimed job (workerName drawn) start, by simp⟩
  | embedding r job worker start => exact Or.inl rfl
  | writing r job worker start =>
    simp only [World.change]
    split <;> exact Or.inl (by simp)
  | completing r job worker start =>
    simp only [World.change]
    split
    · exact Or.inr ⟨_, .completed r job worker start, by simp⟩
    · exact Or.inr ⟨_, .completed r job worker start, by simp⟩
  | failing r job worker start error =>
    exact Or.inr ⟨_, .failed r job worker start error, by simp [World.change]⟩

theorem changeLost_called (cfg : Settings Snapshot) {x : World Snapshot} (now : Time)
    (drawn : String) {todo : Todo Snapshot} {stage : Change Snapshot}
    (h : x.pc = .changing stage todo) : Called cfg x (x.changeLost cfg now drawn stage) := by
  cases stage with
  | staging r built =>
    exact Or.inr ⟨_, .staged r built now drawn todo h, by simp [World.changeLost]⟩
  | claiming r job start =>
    exact Or.inr ⟨_, .claimed job (workerName drawn) start, by simp [World.changeLost]⟩
  | embedding r job worker start => exact Or.inl rfl
  | writing r job worker start =>
    refine Or.inl ?_
    simp only [World.changeLost]
    cases Reconcile.pointOf r <;> rfl
  | completing r job worker start =>
    exact Or.inr ⟨_, .completed r job worker start, by simp [World.changeLost]⟩
  | failing r job worker start error =>
    exact Or.inr ⟨_, .failed r job worker start error, by simp [World.changeLost]⟩

theorem changeRaised_store (cfg : Settings Snapshot) (x : World Snapshot) (error : String)
    (todo : Todo Snapshot) (stage : Change Snapshot) :
    (x.changeRaised cfg error todo stage).store = x.store := by
  cases stage with
  | _ => simp [World.changeRaised]

theorem script_called {cfg : Settings Snapshot} {x y : World Snapshot} {reply : Reconcile.Reply}
    {now : Time} {drawn error : String} (h : x.script cfg reply now drawn error = some y) :
    Called cfg x y := by
  simp only [World.script] at h
  split at h
  · cases h
  · cases h
  · cases reply <;> cases h <;> exact Or.inl rfl
  · split at h
    · cases h
      rw [Called, World.listPage]
      split
      · exact Or.inl rfl
      · exact Or.inl (advance_store cfg x _ _).1
    · cases h
      exact Or.inl rfl
  · rename_i stage todo hpc
    cases reply with
    | ok =>
      cases h
      exact rebuild_called cfg x now todo stage
    | refused =>
      cases h
      exact Or.inl (by simp)
    | lost =>
      cases h
      have hlost := rebuildLost_called cfg x now stage
      rw [Called] at hlost ⊢
      rwa [resume_store, tell_store]
  · rename_i stage todo hpc
    cases reply with
    | ok =>
      cases h
      exact change_called cfg now drawn hpc
    | refused =>
      cases h
      exact Or.inl (changeRaised_store cfg x error todo stage)
    | lost =>
      cases h
      have hlost := changeLost_called cfg now drawn hpc
      rw [Called] at hlost ⊢
      rwa [changeRaised_store]

theorem unique_apply {s t : Store Snapshot} (hs : UniqueShares s)
    (h : t = s ∨ ∃ op, t = apply s op) : UniqueShares t := by
  obtain rfl | ⟨op, rfl⟩ := h
  · exact hs
  · exact apply_unique hs op

theorem step_unique {cfg : Settings Snapshot} {x y : World Snapshot} {label : Label Snapshot}
    (hs : UniqueShares x.store) (h : step cfg x label = some y) : UniqueShares y.store := by
  cases label with
  | script reply now drawn error =>
    obtain hstore | ⟨op, -, hstore⟩ := script_called h
    · exact unique_apply hs (Or.inl hstore)
    · exact unique_apply hs (Or.inr ⟨op, hstore⟩)
  | _ => exact unique_apply hs (other_kept (by rintro _ _ _ _ ⟨⟩) h).2.2.2

end TravelAgent.Reindex
