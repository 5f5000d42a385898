import Mathlib
import TravelAgent.CircuitBreaker

namespace TravelAgent.ToolBreakers

open TravelAgent.CircuitBreaker

/-- The settings that the constructor of `CircuitBreaker` lets through. -/
structure BreakerSettings extends Settings where
  positive : 1 ≤ failureThreshold
  nonneg : 0 ≤ recoveryTimeoutSeconds

/-- `_entries` -/
abbrev Entries := String → Option CircuitEntry

inductive Op
  | admission (tool : String) (now : Seconds)
  | result (tool : String) (r : ActionResult) (now : Seconds)
deriving DecidableEq, Repr

def Op.tool : Op → String
  | .admission tool _ => tool
  | .result tool _ _ => tool

def Op.time : Op → Seconds
  | .admission _ now => now
  | .result _ _ now => now

inductive Answer
  | permit (p : CircuitPermit)
  | state (s : CircuitState)
deriving DecidableEq, Repr

def Answer.admits : Answer → Bool
  | .permit p => p.allowed
  | .state _ => false

/-- `_entries.setdefault(tool_name, _CircuitEntry())` -/
def entryOf (x : Entries) (tool : String) : CircuitEntry := (x tool).getD .fresh

/-- `before_call` and `record_result` of the breaker of all tools. -/
def perform (cfg : Settings) (x : Entries) : Op → Answer × Entries
  | .admission tool now =>
    let p := beforeCall cfg (entryOf x tool) now
    (.permit p.1, Function.update x tool (some p.2))
  | .result tool r now =>
    let e := recordResult cfg (entryOf x tool) r now
    (.state e.state, Function.update x tool (some e))

def after (cfg : Settings) (x : Entries) (ops : List Op) : Entries :=
  ops.foldl (fun x op => (perform cfg x op).2) x

def answers (cfg : Settings) : Entries → List Op → List (String × Answer)
  | _, [] => []
  | x, op :: ops => (op.tool, (perform cfg x op).1) :: answers cfg (perform cfg x op).2 ops

def start : Entries := fun _ => none

/-- The clock does not go back. -/
def InOrder (ops : List Op) : Prop := (ops.map Op.time).Pairwise (· ≤ ·)

instance (ops : List Op) : Decidable (InOrder ops) :=
  inferInstanceAs (Decidable (List.Pairwise _ _))

/-- A result on which `record_result` calls `_open`. -/
def opens (cfg : Settings) (e : CircuitEntry) (r : ActionResult) : Bool :=
  !r.success && r.tracked &&
    (decide (e.state = .halfOpen) || decide (cfg.failureThreshold ≤ e.consecutiveFailures + 1))

structure Sound (cfg : Settings) (e : CircuitEntry) : Prop where
  closed : e.state = .closed → e.consecutiveFailures < cfg.failureThreshold ∧
    e.openedAt = none ∧ e.halfOpenInFlight = false
  opened : e.state = .opened → e.openedAt.isSome = true ∧ e.halfOpenInFlight = false
  halfOpen : e.state = .halfOpen → e.halfOpenInFlight = true

/-- What a result does to the entry of its tool. -/
inductive Recorded (cfg : Settings) (e : CircuitEntry) (r : ActionResult) (now : Seconds) :
    CircuitEntry → Prop
  | closes (h : r.success = true ∨ e.state = .halfOpen) (hn : opens cfg e r = false) :
      Recorded cfg e r now .fresh
  | opens (h : opens cfg e r = true) (n : Nat) : Recorded cfg e r now ⟨.opened, n, some now, false⟩
  | ignored (hs : r.success = false) (hn : opens cfg e r = false) : Recorded cfg e r now e
  | counted (hs : r.success = false) (hn : opens cfg e r = false) (hstate : e.state ≠ .halfOpen)
      (hlt : e.consecutiveFailures + 1 < cfg.failureThreshold) :
      Recorded cfg e r now { e with consecutiveFailures := e.consecutiveFailures + 1 }

theorem recorded (cfg : Settings) (e : CircuitEntry) (r : ActionResult) (now : Seconds) :
    Recorded cfg e r now (recordResult cfg e r now) := by
  by_cases hs : r.success = true
  · rw [recordResult, if_pos hs]
    exact .closes (Or.inl hs) (by rw [opens, hs]; rfl)
  · have hfail : r.success = false := by simpa using hs
    rw [recordResult, if_neg hs]
    by_cases hhalf : e.state = .halfOpen
    · rw [if_pos hhalf]
      by_cases ht : r.tracked = true
      · rw [if_pos ht]
        exact .opens (by rw [opens, hfail, ht, decide_eq_true hhalf]; rfl) _
      · rw [if_neg ht]
        exact .closes (Or.inr hhalf) (by simp [opens, ht])
    · rw [if_neg hhalf]
      by_cases ht : r.tracked = true
      · rw [if_neg (by simp [ht])]
        by_cases hle : cfg.failureThreshold ≤ e.consecutiveFailures + 1
        · simp only [if_pos hle]
          exact .opens (by rw [opens, hfail, ht, decide_eq_true hle, Bool.or_true]; rfl) _
        · simp only [if_neg hle]
          exact .counted hfail (by simp [opens, hhalf, hle]) hhalf (Nat.lt_of_not_le hle)
      · rw [if_pos (by simp [ht])]
        exact .ignored hfail (by simp [opens, ht])

theorem fresh_sound (cfg : BreakerSettings) : Sound cfg.toSettings CircuitEntry.fresh :=
  ⟨fun _ => ⟨cfg.positive, rfl, rfl⟩, CircuitState.noConfusion, CircuitState.noConfusion⟩

theorem recordResult_sound (cfg : BreakerSettings) {e : CircuitEntry} (h : Sound cfg.toSettings e)
    (r : ActionResult) (now : Seconds) :
    Sound cfg.toSettings (recordResult cfg.toSettings e r now) := by
  have hr := recorded cfg.toSettings e r now
  generalize recordResult cfg.toSettings e r now = e' at hr
  cases hr with
  | closes => exact fresh_sound cfg
  | opens => exact ⟨CircuitState.noConfusion, fun _ => ⟨rfl, rfl⟩, CircuitState.noConfusion⟩
  | ignored => exact h
  | counted hs hn hstate hlt => exact ⟨fun hc => ⟨hlt, (h.closed hc).2⟩, h.opened, h.halfOpen⟩

theorem beforeCall_sound {cfg : Settings} {e : CircuitEntry} (h : Sound cfg e) (now : Seconds) :
    Sound cfg (beforeCall cfg e now).2 := by
  obtain ⟨-, -, -, he⟩ | ⟨-, he⟩ | ⟨-, -, -, -, hstate, hflight⟩ := beforeCall_cases cfg e now
  · rwa [he]
  · rwa [he]
  · constructor
    · intro hc
      cases hstate.symm.trans hc
    · intro ho
      cases hstate.symm.trans ho
    · exact fun _ => hflight

theorem entryOf_sound {cfg : BreakerSettings} {x : Entries}
    (h : ∀ tool e, x tool = some e → Sound cfg.toSettings e) (tool : String) :
    Sound cfg.toSettings (entryOf x tool) := by
  rw [entryOf]
  cases he : x tool with
  | none => exact fresh_sound cfg
  | some e => exact h tool e he

theorem perform_sound {cfg : BreakerSettings} {x : Entries}
    (h : ∀ tool e, x tool = some e → Sound cfg.toSettings e) (op : Op) :
    ∀ tool e, (perform cfg.toSettings x op).2 tool = some e → Sound cfg.toSettings e := by
  have hop : ∃ e, Sound cfg.toSettings e ∧
      (perform cfg.toSettings x op).2 = Function.update x op.tool (some e) := by
    cases op with
    | admission tool now => exact ⟨_, beforeCall_sound (entryOf_sound h tool) now, rfl⟩
    | result tool r now => exact ⟨_, recordResult_sound cfg (entryOf_sound h tool) r now, rfl⟩
  obtain ⟨e', hsound, heq⟩ := hop
  intro tool e he
  rw [heq] at he
  by_cases ht : tool = op.tool
  · rw [ht, Function.update_self] at he
    exact Option.some.inj he ▸ hsound
  · rw [Function.update_of_ne ht] at he
    exact h tool e he

/-- In every state that a sequence of operations leads to, every entry is sound. -/
theorem after_sound (cfg : BreakerSettings) {x : Entries}
    (h : ∀ tool e, x tool = some e → Sound cfg.toSettings e) (ops : List Op) :
    ∀ tool e, after cfg.toSettings x ops tool = some e → Sound cfg.toSettings e := by
  induction ops generalizing x with
  | nil => exact h
  | cons op ops ih => exact ih (perform_sound h op)

/-- The breaker is open, and has opened at some time or later. -/
def Shut (t : Seconds) (e : CircuitEntry) : Prop :=
  e.state = .opened ∧ ∃ s, e.openedAt = some s ∧ t ≤ s

theorem shut_of_opens {cfg : Settings} {e : CircuitEntry} {r : ActionResult}
    (h : opens cfg e r = true) (t : Seconds) : Shut t (recordResult cfg e r t) := by
  have hr := recorded cfg e r t
  generalize recordResult cfg e r t = e' at hr
  cases hr with
  | closes _ hn => rw [h] at hn; cases hn
  | opens => exact ⟨rfl, t, rfl, le_refl t⟩
  | ignored _ hn => rw [h] at hn; cases hn
  | counted _ hn => rw [h] at hn; cases hn

theorem Shut.recordResult {cfg : Settings} {t : Seconds} {e : CircuitEntry} (h : Shut t e)
    {r : ActionResult} (hr : r.success = false) {now : Seconds} (hnow : t ≤ now) :
    Shut t (recordResult cfg e r now) := by
  have hrec := recorded cfg e r now
  generalize CircuitBreaker.recordResult cfg e r now = e' at hrec
  cases hrec with
  | closes hc =>
    obtain hs | hhalf := hc
    · rw [hr] at hs
      cases hs
    · cases h.1.symm.trans hhalf
  | opens => exact ⟨rfl, now, rfl, hnow⟩
  | ignored => exact h
  | counted => exact h

/-- Before its recovery timeout is over an open breaker turns every call away. -/
theorem Shut.beforeCall {cfg : Settings} {t : Seconds} {e : CircuitEntry} (h : Shut t e)
    {now : Seconds} (hnow : now < t + cfg.recoveryTimeoutSeconds) :
    (beforeCall cfg e now).1.allowed = false ∧ (CircuitBreaker.beforeCall cfg e now).2 = e := by
  obtain ⟨hstate, s, hs, hle⟩ := h
  have hremaining : 0 < max 0 (cfg.recoveryTimeoutSeconds - (now - e.openedAt.getD now)) := by
    rw [hs, Option.getD_some, lt_max_iff]
    right
    rw [sub_pos, sub_lt_iff_lt_add']
    exact hnow.trans_le (add_le_add_left hle _)
  simp only [CircuitBreaker.beforeCall, hstate, if_pos hremaining, and_self]

theorem perform_other (cfg : Settings) (x : Entries) (op : Op) {tool : String}
    (h : op.tool ≠ tool) : (perform cfg x op).2 tool = x tool := by
  cases op with
  | admission tool' now => exact Function.update_of_ne (Ne.symm h) _ _
  | result tool' r now => exact Function.update_of_ne (Ne.symm h) _ _

theorem entryOf_admission (cfg : Settings) (x : Entries) (tool : String) (now : Seconds) :
    entryOf (perform cfg x (.admission tool now)).2 tool =
      (beforeCall cfg (entryOf x tool) now).2 := by
  simp only [perform, entryOf, Function.update_self, Option.getD_some]

theorem entryOf_result (cfg : Settings) (x : Entries) (tool : String) (r : ActionResult)
    (now : Seconds) :
    entryOf (perform cfg x (.result tool r now)).2 tool =
      recordResult cfg (entryOf x tool) r now := by
  simp only [perform, entryOf, Function.update_self, Option.getD_some]

/-- An operation reads the entry of its own tool and writes no other. -/
theorem perform_congr (cfg : Settings) {x y : Entries} (op : Op) (h : x op.tool = y op.tool) :
    (perform cfg x op).1 = (perform cfg y op).1 ∧
      (perform cfg x op).2 op.tool = (perform cfg y op).2 op.tool := by
  cases op with
  | admission tool now =>
    have he : entryOf x tool = entryOf y tool := congrArg (·.getD CircuitEntry.fresh) h
    simp only [perform, he, Op.tool, Function.update_self, and_self]
  | result tool r now =>
    have he : entryOf x tool = entryOf y tool := congrArg (·.getD CircuitEntry.fresh) h
    simp only [perform, he, Op.tool, Function.update_self, and_self]

theorem isolated (cfg : Settings) (tool : String) {x y : Entries} (h : x tool = y tool)
    (ops : List Op) :
    after cfg x ops tool = after cfg y (ops.filter fun op => decide (op.tool = tool)) tool ∧
      (answers cfg x ops).filter (fun a => decide (a.1 = tool)) =
        answers cfg y (ops.filter fun op => decide (op.tool = tool)) := by
  induction ops generalizing x y with
  | nil => exact ⟨h, rfl⟩
  | cons op ops ih =>
    by_cases hop : op.tool = tool
    · subst hop
      obtain ⟨hanswer, hentry⟩ := perform_congr cfg op h
      obtain ⟨hafter, hanswers⟩ := ih hentry
      simp only [List.filter_cons, decide_true, ↓reduceIte, answers]
      exact ⟨hafter, by rw [hanswers, hanswer]⟩
    · simp only [List.filter_cons, decide_eq_true_eq, hop, ↓reduceIte, answers]
      exact ih ((perform_other cfg x op hop).trans h)

theorem Shut.perform {cfg : Settings} {t : Seconds} {x : Entries} {tool : String}
    (h : Shut t (entryOf x tool)) {op : Op}
    (hfail : ∀ r now, op = .result tool r now → r.success = false) (hge : t ≤ op.time)
    (hlt : op.time < t + cfg.recoveryTimeoutSeconds) :
    Shut t (entryOf (perform cfg x op).2 tool) := by
  by_cases hop : op.tool = tool
  · cases op with
    | admission tool' now =>
      cases hop
      change Shut t (entryOf (ToolBreakers.perform cfg x (.admission tool' now)).2 tool')
      have hkept : (CircuitBreaker.beforeCall cfg (entryOf x tool') now).2 = entryOf x tool' :=
        (h.beforeCall hlt).2
      rw [entryOf_admission, hkept]
      exact h
    | result tool' r now =>
      cases hop
      change Shut t (entryOf (ToolBreakers.perform cfg x (.result tool' r now)).2 tool')
      rw [entryOf_result]
      exact h.recordResult (hfail r now rfl) hge
  · rw [entryOf, perform_other cfg x op hop]
    exact h

theorem Shut.after {cfg : Settings} {t : Seconds} {x : Entries} {tool : String}
    (h : Shut t (entryOf x tool)) {ops : List Op}
    (hfail : ∀ r now, .result tool r now ∈ ops → r.success = false) (hge : ∀ op ∈ ops, t ≤ op.time)
    (hlt : ∀ op ∈ ops, op.time < t + cfg.recoveryTimeoutSeconds) :
    Shut t (entryOf (after cfg x ops) tool) := by
  induction ops generalizing x with
  | nil => exact h
  | cons op ops ih =>
    have hstep := h.perform (fun r now he => hfail r now (he ▸ List.mem_cons_self))
      (hge op List.mem_cons_self) (hlt op List.mem_cons_self)
    exact ih hstep (fun r now hm => hfail r now (List.mem_cons_of_mem _ hm))
      (fun o ho => hge o (List.mem_cons_of_mem _ ho))
      (fun o ho => hlt o (List.mem_cons_of_mem _ ho))

/-- From an opening on, until the recovery timeout is over or a result of the tool is a
success, no call of the tool is let through. -/
theorem denied_after_opening {cfg : Settings} {before between rest : List Op} {tool : String}
    {r : ActionResult} {t now : Seconds}
    (hord : InOrder (before ++ .result tool r t :: (between ++ .admission tool now :: rest)))
    (hopen : opens cfg (entryOf (after cfg start before) tool) r = true)
    (hfail : ∀ r t, .result tool r t ∈ between → r.success = false)
    (hnow : now < t + cfg.recoveryTimeoutSeconds) :
    (perform cfg (after cfg start (before ++ .result tool r t :: between))
      (.admission tool now)).1.admits = false := by
  have hlater : ((.result tool r t :: (between ++ .admission tool now :: rest)).map
      Op.time).Pairwise (· ≤ ·) := by
    rw [InOrder, List.map_append] at hord
    exact (List.pairwise_append.mp hord).2.1
  rw [List.map_cons, List.pairwise_cons] at hlater
  obtain ⟨hge, hlater⟩ := hlater
  rw [List.map_append, List.pairwise_append, List.map_cons] at hlater
  have hshut : Shut t (entryOf (after cfg start (before ++ .result tool r t :: between)) tool) := by
    rw [after, List.foldl_append, List.foldl_cons]
    apply Shut.after
    · rw [← after, entryOf_result]
      exact shut_of_opens hopen t
    · exact hfail
    · intro op hop
      exact hge _ (List.mem_map_of_mem (List.mem_append_left _ hop))
    · intro op hop
      exact (hlater.2.2 _ (List.mem_map_of_mem hop) now List.mem_cons_self).trans_lt hnow
  exact (hshut.beforeCall hnow).1

def oneFailure : BreakerSettings := ⟨⟨1, 10⟩, by decide, by decide⟩

/-- The weather tool opens its breaker while the hotel tool goes on. -/
def twoTools : List Op :=
  [.admission "weather" 0, .admission "hotel" 0, .result "weather" timedOut 1,
    .admission "weather" 5, .result "hotel" ⟨true, none, false⟩ 6, .admission "weather" 11,
    .result "weather" timedOut 12]

end TravelAgent.ToolBreakers
