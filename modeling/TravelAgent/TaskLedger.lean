import TravelAgent.Transition
import TravelAgent.TaskView

namespace TravelAgent.TaskLedger

open TravelAgent.Leasing TravelAgent.Rows TravelAgent.TaskRecord TravelAgent.TaskStore
open TravelAgent.TaskOps TravelAgent.TaskMoves TravelAgent.TaskView TravelAgent.Transition
open TravelAgent.MysqlTaskStore (Codec)

structure Call (Req : Type) where
  op : Op Req
  clock : Readings
deriving DecidableEq, Repr

/-- The store, the last reading of the clock, and the claims that were granted,
the latest first. -/
structure Ledger (Req : Type) where
  store : Store Req
  clock : Time
  claims : List (TaskId × WorkerId)
deriving DecidableEq, Repr

variable {Req : Type}

def Ledger.start : Ledger Req := ⟨Store.empty, 0, []⟩

def noteClaim (op : Op Req) (answer : Except StoreError (Answer Req))
    (claims : List (TaskId × WorkerId)) : List (TaskId × WorkerId) :=
  match op, answer with
  | .claimNext w _ _, .ok (.claimed (some t)) => (t.taskId, w) :: claims
  | _, _ => claims

def lastClaim (claims : List (TaskId × WorkerId)) (id : TaskId) : Option WorkerId :=
  (lookup Prod.fst id claims).map Prod.snd

/-- Calls take effect one after the other. The reading at the lease check is
taken under the row lock and therefore never runs backwards; the reading on
entry may be older. -/
def step (b : Backend) (c : Codec Req) (g : Ledger Req) (call : Call Req) : Option (Ledger Req) :=
  if call.clock.ordered ∧ g.clock ≤ call.clock.checked then
    let r := exec b c g.store call.op call.clock
    some ⟨r.2, call.clock.checked, noteClaim call.op r.1 g.claims⟩
  else none

def plainCodec : Codec Unit := ⟨fun _ => "fp", id⟩

theorem step_some {b : Backend} {c : Codec Req} {g g' : Ledger Req} {call : Call Req}
    (h : step b c g call = some g') :
    call.clock.ordered ∧ g.clock ≤ call.clock.checked ∧
      g'.store = (exec b c g.store call.op call.clock).2 ∧ g'.clock = call.clock.checked ∧
      g'.claims = noteClaim call.op (exec b c g.store call.op call.clock).1 g.claims := by
  simp only [step] at h
  split at h
  · rename_i hc
    cases h
    exact ⟨hc.1, hc.2, rfl, rfl, rfl⟩
  · cases h

theorem run_wellFormed {b : Backend} {c : Codec Req} {g g' : Ledger Req} {calls : List (Call Req)}
    (hg : WellFormed g.store) (h : run (step b c) g calls = some g') : WellFormed g'.store := by
  refine run_invariant (P := fun g => WellFormed g.store) ?_ hg h
  intro s call t hs hst
  rw [(step_some hst).2.2.1]
  exact exec_wellFormed b c hs call.op call.clock

theorem step_task {b : Backend} {c : Codec Req} {g g' : Ledger Req} {call : Call Req}
    (hg : WellFormed g.store) (h : step b c g call = some g') (id : TaskId) :
    g'.store.taskOf id = g.store.taskOf id ∨
    (g.store.taskOf id = none ∧ ∃ request idempotencyKey userId sessionId key fingerprint,
      call.op = .createTask request idempotencyKey userId id sessionId ∧
      g'.store.taskOf id =
        some (newTask id sessionId userId key fingerprint request call.clock.checked)) ∨
    ∃ t t' event, g.store.taskOf id = some t ∧ g'.store.taskOf id = some t' ∧ t.taskId = id ∧
      Move b call.clock call.op t t' event := by
  rw [(step_some h).2.2.1]
  exact leaves_task hg (exec_leaves b c hg call.op call.clock) id

/-- Only a claim that returned a task is noted, and then that task is stored. -/
theorem noteClaim_cases (b : Backend) (c : Codec Req) {s : Store Req} (hs : WellFormed s)
    (op : Op Req) (clock : Readings) (claims : List (TaskId × WorkerId)) :
    noteClaim op (exec b c s op clock).1 claims = claims ∧
        (∀ w l locked, op = .claimNext w l locked → (exec b c s op clock).2 = s) ∨
      ∃ w l locked, ∃ t : TripPlanningTask Req, op = .claimNext w l locked ∧
        noteClaim op (exec b c s op clock).1 claims = (t.taskId, w) :: claims ∧
        ∀ id, (exec b c s op clock).2.taskOf id =
          if id = t.taskId then some ((t.claimed w clock.entered l).stamp clock.stamped)
          else s.taskOf id := by
  cases op with
  | claimNext w l locked =>
    obtain ⟨h, _⟩ | ⟨row, hmem, _, h⟩ := claim_cases b c hs w l locked clock
    · refine Or.inl ⟨?_, ?_⟩
      · rw [h]
        rfl
      · intro _ _ _ _
        rw [h]
    · refine Or.inr ⟨w, l, locked, row.taskJson, rfl, ?_, ?_⟩
      · rw [h]
        rfl
      · intro id
        rw [h]
        exact commit_taskOf (t := (row.taskJson.claimed w clock.entered l).stamp clock.stamped)
          hs hmem rfl _ _ id
  | _ => exact Or.inl ⟨rfl, fun _ _ _ h => by cases h⟩

theorem run_claims {b : Backend} {c : Codec Req} {g g' : Ledger Req} {calls : List (Call Req)}
    (hg : WellFormed g.store) (h : run (step b c) g calls = some g') :
    ∃ made, g'.claims = made ++ g.claims := by
  induction calls generalizing g with
  | nil =>
    cases h
    exact ⟨[], rfl⟩
  | cons call calls ih =>
    obtain ⟨u, hu, hr⟩ := run_cons h
    obtain ⟨_, _, hstore, _, hclaims⟩ := step_some hu
    have hw : WellFormed u.store := by
      rw [hstore]
      exact exec_wellFormed b c hg call.op call.clock
    obtain ⟨made, hmade⟩ := ih hw hr
    rcases noteClaim_cases b c hg call.op call.clock g.claims with
      ⟨hn, _⟩ | ⟨w, _, _, t, _, hn, _⟩
    · exact ⟨made, by rw [hmade, hclaims, hn]⟩
    · exact ⟨made ++ [(t.taskId, w)], by rw [hmade, hclaims, hn, List.append_assoc]; rfl⟩

end TravelAgent.TaskLedger
