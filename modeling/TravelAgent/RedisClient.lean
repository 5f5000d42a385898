import Mathlib
import TravelAgent.Interleaving
import TravelAgent.Transition

namespace TravelAgent.RedisClient

open TravelAgent.Interleaving TravelAgent.Transition

/-- Connection pools, numbered in the order in which `client_factory` makes them. -/
abbrev Client := ℕ

structure RedisConfig where
  enabled : Bool
  degradeCooldownSeconds : ℚ

structure RedisClientMetrics where
  operationRequests : ℕ
  operationSuccesses : ℕ
  operationFailures : ℕ
  operationBypasses : ℕ
  healthChecks : ℕ
  healthCheckFailures : ℕ
  degradedTransitions : ℕ
  recoveries : ℕ
deriving DecidableEq, Repr

structure RedisClientManager where
  client : Option Client
  degradedUntil : ℚ
  degraded : Bool
  degradedSince : ℚ
  metrics : RedisClientMetrics

/-- What is left of a call, cut where the manager's lock is free. -/
inductive Phase
  | requested
  | bypassed
  | holding (c : Client)
  | failed
  | succeeded
  | probing
  | pinging (c : Client)
  | unhealthy
  | fetching (forceRetry : Bool)
  | degrading
  | healing
  | closing (c : Client)
deriving DecidableEq, Repr

/-- What the manager decides, as its callers see it. -/
inductive Event
  | admitted (forceRetry : Bool) (now : ℚ)
  | refused (now : ℚ)
  | healthy
  | degraded (now : ℚ)
  | operationRaised
  | passed
  | probeRaised
deriving DecidableEq

/-- How the code outside answers: a factory, an operation or a PING. Every failure the manager
catches (`RedisError`, `OSError`, `TimeoutError`, a PING that is not `True`) is one. -/
inductive Reply
  | done
  | unreachable
  | raised
deriving DecidableEq, Repr

/-- The two readings of the clock that one turn may take, and the answer from outside. -/
structure World where
  now : ℚ
  later : ℚ
  reply : Reply

/-- The manager with the calls under way. The clients made and closed and the events, the latest
first, are kept for the statements. -/
structure System where
  config : RedisConfig
  manager : RedisClientManager
  threads : List Phase
  clock : ℚ
  made : ℕ
  closed : List Client
  log : List Event

namespace System

def count (s : System) (f : RedisClientMetrics → RedisClientMetrics) : System :=
  { s with manager := { s.manager with metrics := f s.manager.metrics } }

def note (s : System) (e : Event) : System := { s with log := e :: s.log }

/-- `_client_factory`, and the client it makes kept. -/
def make (s : System) : System :=
  { s with manager := { s.manager with client := some s.made }, made := s.made + 1 }

end System

inductive Fetched
  | none
  | client (c : Client)
  | unreachable
  | raised
deriving DecidableEq, Repr

def getClient (s : System) (forceRetry : Bool) (w : World) : Fetched × System :=
  if s.config.enabled = false then (.none, s)
  else if forceRetry = false ∧ w.now < s.manager.degradedUntil then
    (.none, s.note (.refused w.now))
  else
    match s.manager.client, w.reply with
    | some c, _ => (.client c, s.note (.admitted forceRetry w.now))
    | none, .done => (.client s.made, (s.note (.admitted forceRetry w.now)).make)
    | none, .unreachable => (.unreachable, s.note (.admitted forceRetry w.now))
    | none, .raised => (.raised, s.note (.admitted forceRetry w.now))

/-- `_mark_healthy` -/
def markHealthy (s : System) : System :=
  let m := s.manager
  { s with
    manager := { m with
      degraded := false
      degradedSince := 0
      degradedUntil := 0
      metrics := if m.degraded then { m.metrics with recoveries := m.metrics.recoveries + 1 }
        else m.metrics }
    log := .healthy :: s.log }

/-- `_mark_degraded` under the lock. The clock is read for the start of the first failure and for
the end of the cooldown. -/
def markDegraded (s : System) (w : World) : System :=
  let m := s.manager
  { s with
    manager :=
      { client := none
        degradedUntil := w.later + s.config.degradeCooldownSeconds
        degraded := true
        degradedSince := if m.degraded then m.degradedSince else w.now
        metrics := if m.degraded then m.metrics
          else { m.metrics with degradedTransitions := m.metrics.degradedTransitions + 1 } }
    log := .degraded w.later :: s.log }

/-- `execute` after `get_client`. -/
def operating : Fetched × System → Option Phase × System
  | (.none, s) => (some .bypassed, s)
  | (.client c, s) => (some (.holding c), s)
  | (.unreachable, s) => (some .failed, s)
  | (.raised, s) => (none, s.note .operationRaised)

/-- `check_health` after `get_client`. -/
def pinged : Fetched × System → Option Phase × System
  | (.none, s) => (some .unhealthy, s)
  | (.client c, s) => (some (.pinging c), s)
  | (.unreachable, s) => (some .unhealthy, s)
  | (.raised, s) => (none, s.note .probeRaised)

def turn (s : System) (w : World) : Phase → Option Phase × System
  | .requested => operating (getClient s false w)
  | .bypassed =>
    (none, s.count fun m => { m with operationBypasses := m.operationBypasses + 1 })
  | .holding _ =>
    match w.reply with
    | .done => (some .succeeded, s)
    | .unreachable => (some .failed, s)
    | .raised => (none, s.note .operationRaised)
  | .failed =>
    (some .degrading, s.count fun m => { m with operationFailures := m.operationFailures + 1 })
  | .succeeded =>
    (some .healing, s.count fun m => { m with operationSuccesses := m.operationSuccesses + 1 })
  | .probing => pinged (getClient s true w)
  | .pinging _ =>
    match w.reply with
    | .done => (some .healing, s.note .passed)
    | .unreachable => (some .unhealthy, s)
    | .raised => (none, s.note .probeRaised)
  | .unhealthy =>
    (some .degrading,
      s.count fun m => { m with healthCheckFailures := m.healthCheckFailures + 1 })
  | .fetching forceRetry => (none, (getClient s forceRetry w).2)
  | .degrading => (s.manager.client.map .closing, markDegraded s w)
  | .healing => (none, markHealthy s)
  | .closing c => (none, { s with closed := c :: s.closed })

inductive Call
  | execute
  | checkHealth
  | getClient (forceRetry : Bool)
  | reportHealthy
  | reportFailure
  | close
deriving DecidableEq, Repr

/-- What a call does before it first waits for the lock again. -/
def enter (s : System) : Call → Option Phase × System
  | .execute =>
    (some .requested, s.count fun m => { m with operationRequests := m.operationRequests + 1 })
  | .checkHealth =>
    if s.config.enabled = false then (none, s)
    else (some .probing, s.count fun m => { m with healthChecks := m.healthChecks + 1 })
  | .getClient forceRetry => (some (.fetching forceRetry), s)
  | .reportHealthy => (some .healing, s)
  | .reportFailure => (some .degrading, s)
  | .close =>
    (s.manager.client.map .closing, { s with manager := { s.manager with client := none } })

inductive Action
  | call (c : Call)
  | turn (i : ℕ) (w : World)

/-- The clock of a turn is never behind the clock of the turn before. -/
def step (s : System) : Action → Option System
  | .call c => some { (enter s c).2 with threads := (enter s c).1.toList ++ s.threads }
  | .turn i w =>
    if s.clock ≤ w.now ∧ w.now ≤ w.later then
      s.threads[i]?.map fun p =>
        { (turn s w p).2 with
          threads := (turn s w p).1.toList ++ s.threads.eraseIdx i
          clock := w.later }
    else none

def start (config : RedisConfig) : System where
  config := config
  manager :=
    { client := none
      degradedUntil := 0
      degraded := false
      degradedSince := 0
      metrics := ⟨0, 0, 0, 0, 0, 0, 0, 0⟩ }
  threads := []
  clock := 0
  made := 0
  closed := []
  log := []

/-- What `get_client` can come to. -/
inductive Got (s : System) (forceRetry : Bool) (w : World) : Fetched → System → Prop
  | disabled (h : s.config.enabled = false) : Got s forceRetry w .none s
  | refused (h : s.config.enabled = true) (hf : forceRetry = false)
      (hnow : w.now < s.manager.degradedUntil) :
      Got s forceRetry w .none (s.note (.refused w.now))
  | kept (h : forceRetry = false → s.manager.degradedUntil ≤ w.now) (c : Client)
      (hc : s.manager.client = some c) :
      Got s forceRetry w (.client c) (s.note (.admitted forceRetry w.now))
  | made (h : forceRetry = false → s.manager.degradedUntil ≤ w.now)
      (hc : s.manager.client = none) :
      Got s forceRetry w (.client s.made) (s.note (.admitted forceRetry w.now)).make
  | unreachable (h : forceRetry = false → s.manager.degradedUntil ≤ w.now)
      (hc : s.manager.client = none) :
      Got s forceRetry w .unreachable (s.note (.admitted forceRetry w.now))
  | raised (h : forceRetry = false → s.manager.degradedUntil ≤ w.now)
      (hc : s.manager.client = none) :
      Got s forceRetry w .raised (s.note (.admitted forceRetry w.now))

theorem getClient_got (s : System) (forceRetry : Bool) (w : World) :
    Got s forceRetry w (getClient s forceRetry w).1 (getClient s forceRetry w).2 := by
  rw [getClient]
  by_cases hd : s.config.enabled = false
  · rw [if_pos hd]
    exact .disabled hd
  · rw [if_neg hd]
    by_cases hr : forceRetry = false ∧ w.now < s.manager.degradedUntil
    · rw [if_pos hr]
      exact .refused (Bool.eq_true_of_not_eq_false hd) hr.1 hr.2
    · rw [if_neg hr]
      have h : forceRetry = false → s.manager.degradedUntil ≤ w.now :=
        fun hf => not_lt.mp fun hnow => hr ⟨hf, hnow⟩
      cases hc : s.manager.client with
      | some c => exact .kept h c hc
      | none =>
        cases w.reply with
        | done => exact .made h hc
        | unreachable => exact .unreachable h hc
        | raised => exact .raised h hc

/-- A counted `execute` that is not settled yet. -/
def Phase.operation : Phase → Bool
  | .requested | .bypassed | .holding _ | .failed | .succeeded => true
  | _ => false

/-- A counted `check_health` that is not settled yet. -/
def Phase.probe : Phase → Bool
  | .probing | .pinging _ | .unhealthy => true
  | _ => false

def Phase.closes : Phase → Option Client
  | .closing c => some c
  | _ => none

/-- The books of the manager, with the calls under way. -/
structure Balanced (s : System) (threads : List Phase) : Prop where
  operations : s.manager.metrics.operationRequests =
    s.manager.metrics.operationSuccesses + s.manager.metrics.operationFailures +
      s.manager.metrics.operationBypasses + s.log.count .operationRaised +
      threads.countP Phase.operation
  checks : s.manager.metrics.healthChecks =
    s.manager.metrics.healthCheckFailures + s.log.count .passed + s.log.count .probeRaised +
      threads.countP Phase.probe
  spells : s.manager.metrics.degradedTransitions =
    s.manager.metrics.recoveries + s.manager.degraded.toNat
  clients : (s.manager.client.toList ++ (threads.filterMap Phase.closes ++ s.closed)).Perm
    (List.range s.made)

theorem Balanced.perm {s : System} {l l' : List Phase} (h : Balanced s l) (hl : l.Perm l') :
    Balanced s l' where
  operations := by rw [h.operations, hl.countP_eq]
  checks := by rw [h.checks, hl.countP_eq]
  spells := h.spells
  clients := (((hl.symm.filterMap _).append_right _).append_left _).trans h.clients

theorem Got.balanced {s t : System} {forceRetry : Bool} {w : World} {f : Fetched}
    {l : List Phase} (hg : Got s forceRetry w f t) (h : Balanced s l) : Balanced t l := by
  obtain ⟨ho, hk, hs, hc⟩ := h
  cases hg with
  | disabled => exact ⟨ho, hk, hs, hc⟩
  | made _ hnone =>
    refine ⟨?_, ?_, hs, ?_⟩
    · simpa [System.make, System.note] using ho
    · simpa [System.make, System.note] using hk
    · rw [hnone] at hc
      show (s.made :: _).Perm (List.range (s.made + 1))
      rw [List.range_succ]
      exact (hc.cons s.made).trans (List.perm_append_singleton s.made _).symm
  | refused | kept | unreachable | raised =>
    refine ⟨?_, ?_, hs, hc⟩
    · simpa [System.note] using ho
    · simpa [System.note] using hk

/-- An exception that the manager does not catch ends an `execute`. -/
theorem Balanced.operationRaised {s : System} {p : Phase} {l : List Phase}
    (h : Balanced s (p :: l)) (ho : p.operation = true) (hp : p.probe = false)
    (hc : p.closes = none) : Balanced (s.note .operationRaised) l where
  operations := by
    have hs := h.operations
    simp [System.note, ho] at hs ⊢
    omega
  checks := by simpa [System.note, hp] using h.checks
  spells := h.spells
  clients := by simpa [System.note, hc] using h.clients

/-- An exception that the manager does not catch ends a `check_health`. -/
theorem Balanced.probeRaised {s : System} {p : Phase} {l : List Phase}
    (h : Balanced s (p :: l)) (ho : p.operation = false) (hp : p.probe = true)
    (hc : p.closes = none) : Balanced (s.note .probeRaised) l where
  operations := by simpa [System.note, ho] using h.operations
  checks := by
    have hs := h.checks
    simp [System.note, hp] at hs ⊢
    omega
  spells := h.spells
  clients := by simpa [System.note, hc] using h.clients

theorem operating_balanced {x : Fetched × System} {l : List Phase}
    (h : Balanced x.2 (.requested :: l)) :
    Balanced (operating x).2 ((operating x).1.toList ++ l) := by
  obtain ⟨f, s⟩ := x
  cases f with
  | none | client | unreachable => exact ⟨h.operations, h.checks, h.spells, h.clients⟩
  | raised => exact h.operationRaised rfl rfl rfl

theorem pinged_balanced {x : Fetched × System} {l : List Phase}
    (h : Balanced x.2 (.probing :: l)) : Balanced (pinged x).2 ((pinged x).1.toList ++ l) := by
  obtain ⟨f, s⟩ := x
  cases f with
  | none | client | unreachable => exact ⟨h.operations, h.checks, h.spells, h.clients⟩
  | raised => exact h.probeRaised rfl rfl rfl

theorem markHealthy_balanced {s : System} {l : List Phase} (h : Balanced s (.healing :: l)) :
    Balanced (markHealthy s) l := by
  obtain ⟨ho, hk, hs, hc⟩ := h
  cases hd : s.manager.degraded with
  | true =>
    refine ⟨?_, ?_, ?_, hc⟩
    · simpa [markHealthy, hd, Phase.operation] using ho
    · simpa [markHealthy, hd, Phase.probe] using hk
    · simpa [markHealthy, hd] using hs
  | false =>
    refine ⟨?_, ?_, ?_, hc⟩
    · simpa [markHealthy, hd, Phase.operation] using ho
    · simpa [markHealthy, hd, Phase.probe] using hk
    · simpa [markHealthy, hd] using hs

/-- A client that is taken out of use goes to the thread that closes it. -/
theorem handed_over (c : Option Client) (l : List Phase) :
    ((c.map Phase.closing).toList ++ l).countP Phase.operation = l.countP Phase.operation ∧
      ((c.map Phase.closing).toList ++ l).countP Phase.probe = l.countP Phase.probe ∧
      ((c.map Phase.closing).toList ++ l).filterMap Phase.closes =
        c.toList ++ l.filterMap Phase.closes := by
  cases c <;> exact ⟨rfl, rfl, rfl⟩

theorem markDegraded_balanced {s : System} (w : World) {l : List Phase}
    (h : Balanced s (.degrading :: l)) :
    Balanced (markDegraded s w) ((s.manager.client.map .closing).toList ++ l) := by
  obtain ⟨ho, hk, hs, hc⟩ := h
  obtain ⟨hoperation, hprobe, hcloses⟩ := handed_over s.manager.client l
  refine ⟨?_, ?_, ?_, ?_⟩
  · rw [hoperation]
    cases hd : s.manager.degraded <;> simpa [markDegraded, hd, Phase.operation] using ho
  · rw [hprobe]
    cases hd : s.manager.degraded <;> simpa [markDegraded, hd, Phase.probe] using hk
  · cases hd : s.manager.degraded <;> simpa [markDegraded, hd] using hs
  · rw [hcloses, List.append_assoc]
    exact hc

theorem turn_balanced {s : System} (w : World) {p : Phase} {l : List Phase}
    (h : Balanced s (p :: l)) :
    Balanced (turn s w p).2 ((turn s w p).1.toList ++ l) := by
  obtain ⟨ho, hk, hs, hc⟩ := id h
  cases p with
  | requested => exact operating_balanced ((getClient_got s false w).balanced h)
  | probing => exact pinged_balanced ((getClient_got s true w).balanced h)
  | fetching forceRetry =>
    obtain ⟨ho, hk, hs, hc⟩ := (getClient_got s forceRetry w).balanced h
    exact ⟨ho, hk, hs, hc⟩
  | holding c =>
    rw [turn]
    cases w.reply with
    | done | unreachable => exact ⟨ho, hk, hs, hc⟩
    | raised => exact h.operationRaised rfl rfl rfl
  | pinging c =>
    rw [turn]
    cases w.reply with
    | done =>
      refine ⟨?_, ?_, hs, hc⟩
      · simpa [System.note, Phase.operation] using ho
      · simp [System.note, Phase.probe, List.countP_cons] at hk ⊢
        omega
    | unreachable => exact ⟨ho, hk, hs, hc⟩
    | raised => exact h.probeRaised rfl rfl rfl
  | bypassed | failed | succeeded =>
    refine ⟨?_, hk, hs, hc⟩
    simp [turn, System.count, Phase.operation, List.countP_cons] at ho ⊢
    omega
  | unhealthy =>
    refine ⟨ho, ?_, hs, hc⟩
    simp [turn, System.count, Phase.probe, List.countP_cons] at hk ⊢
    omega
  | degrading => exact markDegraded_balanced w h
  | healing => exact markHealthy_balanced h
  | closing c =>
    refine ⟨ho, hk, hs, ?_⟩
    refine (List.Perm.append_left _ ?_).trans hc
    exact List.perm_middle

theorem enter_balanced {s : System} {l : List Phase} (h : Balanced s l) (c : Call) :
    Balanced (enter s c).2 ((enter s c).1.toList ++ l) := by
  obtain ⟨ho, hk, hs, hc⟩ := id h
  cases c with
  | execute =>
    refine ⟨?_, hk, hs, hc⟩
    simp [enter, System.count, Phase.operation, List.countP_cons] at ho ⊢
    omega
  | checkHealth =>
    rw [enter]
    by_cases hd : s.config.enabled = false
    · rw [if_pos hd]
      exact h
    · rw [if_neg hd]
      refine ⟨ho, ?_, hs, hc⟩
      simp [System.count, Phase.probe, List.countP_cons] at hk ⊢
      omega
  | getClient | reportHealthy | reportFailure => exact ⟨ho, hk, hs, hc⟩
  | close =>
    obtain ⟨hoperation, hprobe, hcloses⟩ := handed_over s.manager.client l
    refine ⟨?_, ?_, hs, ?_⟩
    · rw [enter, hoperation]
      exact ho
    · rw [enter, hprobe]
      exact hk
    · rw [enter, hcloses, List.append_assoc]
      exact hc

theorem step_balanced {s t : System} {a : Action} (h : Balanced s s.threads)
    (hs : step s a = some t) : Balanced t t.threads := by
  cases a with
  | call c =>
    cases hs
    obtain ⟨ho, hk, hd, hc⟩ := enter_balanced h c
    exact ⟨ho, hk, hd, hc⟩
  | turn i w =>
    rw [step] at hs
    by_cases hclock : s.clock ≤ w.now ∧ w.now ≤ w.later
    · rw [if_pos hclock] at hs
      obtain ⟨p, hp, rfl⟩ := Option.map_eq_some_iff.mp hs
      obtain ⟨ho, hk, hd, hc⟩ := turn_balanced w (h.perm (perm_of_getElem? hp))
      exact ⟨ho, hk, hd, hc⟩
    · rw [if_neg hclock] at hs
      cases hs

theorem start_balanced (config : RedisConfig) : Balanced (start config) [] :=
  ⟨rfl, rfl, rfl, List.Perm.refl _⟩

/-- In every order in which the calls of all threads take their turns, every request is a
success, a failure, a bypass, an exception of the caller's own or still under way. -/
theorem requests_accounted (config : RedisConfig) (actions : List Action) (s : System)
    (h : run step (start config) actions = some s) :
    s.manager.metrics.operationRequests =
        s.manager.metrics.operationSuccesses + s.manager.metrics.operationFailures +
          s.manager.metrics.operationBypasses + s.log.count .operationRaised +
          s.threads.countP Phase.operation ∧
      s.manager.metrics.healthChecks =
        s.manager.metrics.healthCheckFailures + s.log.count .passed +
          s.log.count .probeRaised + s.threads.countP Phase.probe ∧
      s.manager.metrics.degradedTransitions =
        s.manager.metrics.recoveries + s.manager.degraded.toNat := by
  have hb : Balanced s s.threads :=
    run_invariant (P := fun s => Balanced s s.threads) (fun _ _ _ => step_balanced)
      (start_balanced config) h
  exact ⟨hb.operations, hb.checks, hb.spells⟩

/-- A failure is reported, and the next call comes within the cooldown. -/
def outage : List Action :=
  [.call .reportFailure, .turn 0 ⟨3, 3, .done⟩, .call .execute, .turn 0 ⟨4, 4, .done⟩]

theorem outage_seen : (run step (start ⟨true, 5⟩) outage).map System.log =
    some [.refused 4, .degraded 3] := by
  norm_num [outage, run, step, start, enter, turn, getClient, markDegraded, operating,
    System.count, System.note]

theorem outage_accounted : ∃ s, run step (start ⟨true, 5⟩) outage = some s ∧
    s.manager.metrics.degradedTransitions =
      s.manager.metrics.recoveries + s.manager.degraded.toNat := by
  obtain ⟨s, hs, _⟩ := Option.map_eq_some_iff.mp outage_seen
  exact ⟨s, hs, (requests_accounted ⟨true, 5⟩ outage s hs).2.2⟩

/-- Every client ever made is kept, on its way to be closed by one thread, or closed once. -/
theorem clients_closed_once (config : RedisConfig) (actions : List Action) (s : System)
    (h : run step (start config) actions = some s) :
    (s.manager.client.toList ++ (s.threads.filterMap Phase.closes ++ s.closed)).Perm
      (List.range s.made) :=
  (run_invariant (P := fun s => Balanced s s.threads) (fun _ _ _ => step_balanced)
    (start_balanced config) h).clients

/-- The application ends while a command is under way. -/
theorem shutdown_closes : ∃ s, run step (start ⟨true, 5⟩)
      [.call .execute, .turn 0 ⟨1, 1, .done⟩, .call .close] = some s ∧
    (s.threads.filterMap Phase.closes ++ s.closed).Perm (List.range s.made) := by
  refine ⟨_, rfl, ?_⟩
  exact clients_closed_once ⟨true, 5⟩ [.call .execute, .turn 0 ⟨1, 1, .done⟩, .call .close] _ rfl

/-- When the last failure was, if nothing has gone well since. -/
def spell : List Event → Option ℚ
  | [] => none
  | .healthy :: _ => none
  | .degraded now :: _ => some now
  | _ :: log => spell log

def degradations : List Event → List ℚ :=
  List.filterMap fun e => match e with
    | .degraded now => some now
    | _ => none

def cooldownEnd (config : RedisConfig) (log : List Event) : ℚ :=
  match spell log with
  | none => 0
  | some now => now + config.degradeCooldownSeconds

/-- What a decision says of the events before it. -/
def Sound (config : RedisConfig) (log : List Event) : Event → Prop
  | .admitted false now => cooldownEnd config log ≤ now
  | .refused now => 0 ≤ now ∧ now < cooldownEnd config log
  | _ => True

/-- The end of the cooldown, the events that led to it and the clock. -/
structure Cooling (config : RedisConfig) (ending : ℚ) (log : List Event) (clock : ℚ) : Prop where
  ends : ending = cooldownEnd config log
  sound : Justified (Sound config) log
  ordered : (degradations log).Pairwise fun t u => u ≤ t
  past : ∀ t ∈ degradations log, t ≤ clock
  started : 0 ≤ clock

variable {config : RedisConfig} {ending clock clock' : ℚ} {log : List Event}

theorem Cooling.tick (h : Cooling config ending log clock) (hc : clock ≤ clock') :
    Cooling config ending log clock' :=
  { h with
    past := fun t ht => (h.past t ht).trans hc
    started := h.started.trans hc }

/-- A decision changes neither the cooldown nor the failures. -/
theorem Cooling.decided (h : Cooling config ending log clock) {e : Event}
    (hspell : spell (e :: log) = spell log) (hpast : degradations (e :: log) = degradations log)
    (he : Sound config log e) : Cooling config ending (e :: log) clock where
  ends := by rw [h.ends, cooldownEnd, cooldownEnd, hspell]
  sound := h.sound.cons he
  ordered := hpast ▸ h.ordered
  past := hpast ▸ h.past
  started := h.started

theorem Got.cooling {s t : System} {forceRetry : Bool} {w : World} {f : Fetched}
    (hg : Got s forceRetry w f t)
    (h : Cooling s.config s.manager.degradedUntil s.log clock) (hnow : clock ≤ w.now) :
    Cooling s.config t.manager.degradedUntil t.log clock := by
  have hadmitted : (forceRetry = false → s.manager.degradedUntil ≤ w.now) →
      Cooling s.config s.manager.degradedUntil (.admitted forceRetry w.now :: s.log) clock := by
    intro hopen
    refine h.decided rfl rfl ?_
    cases forceRetry with
    | true => trivial
    | false => exact h.ends.symm.trans_le (hopen rfl)
  cases hg with
  | disabled => exact h
  | refused _ _ hlt => exact h.decided rfl rfl ⟨h.started.trans hnow, h.ends ▸ hlt⟩
  | kept hopen | made hopen | unreachable hopen | raised hopen => exact hadmitted hopen

theorem turn_cooling {s : System} {w : World} (p : Phase)
    (h : Cooling s.config s.manager.degradedUntil s.log s.clock) (hnow : s.clock ≤ w.now)
    (hlater : w.now ≤ w.later) :
    Cooling s.config (turn s w p).2.manager.degradedUntil (turn s w p).2.log w.later := by
  have ht := h.tick (hnow.trans hlater)
  have hgot : ∀ forceRetry, Cooling s.config (getClient s forceRetry w).2.manager.degradedUntil
      (getClient s forceRetry w).2.log w.later := fun forceRetry =>
    ((getClient_got s forceRetry w).cooling h hnow).tick (hnow.trans hlater)
  cases p with
  | requested =>
    have hc := hgot false
    rw [turn]
    generalize getClient s false w = x at hc ⊢
    obtain ⟨f, t⟩ := x
    cases f with
    | none | client | unreachable => exact hc
    | raised => exact hc.decided rfl rfl trivial
  | probing =>
    have hc := hgot true
    rw [turn]
    generalize getClient s true w = x at hc ⊢
    obtain ⟨f, t⟩ := x
    cases f with
    | none | client | unreachable => exact hc
    | raised => exact hc.decided rfl rfl trivial
  | fetching forceRetry => exact hgot forceRetry
  | holding c =>
    rw [turn]
    cases w.reply with
    | done | unreachable => exact ht
    | raised => exact ht.decided rfl rfl trivial
  | pinging c =>
    rw [turn]
    cases w.reply with
    | done | raised => exact ht.decided rfl rfl trivial
    | unreachable => exact ht
  | bypassed | failed | succeeded | unhealthy | closing => exact ht
  | degrading =>
    refine ⟨rfl, h.sound.cons trivial, ?_, ?_, ht.started⟩
    · exact List.pairwise_cons.mpr ⟨fun t hmem => ht.past t hmem, h.ordered⟩
    · exact List.forall_mem_cons.mpr ⟨le_rfl, ht.past⟩
  | healing => exact ⟨rfl, h.sound.cons trivial, h.ordered, ht.past, ht.started⟩

theorem Got.keeps_config {s t : System} {forceRetry : Bool} {w : World} {f : Fetched}
    (hg : Got s forceRetry w f t) : t.config = s.config := by
  cases hg <;> rfl

theorem turn_config (s : System) (w : World) (p : Phase) : (turn s w p).2.config = s.config := by
  have hgot : ∀ forceRetry, (getClient s forceRetry w).2.config = s.config :=
    fun forceRetry => (getClient_got s forceRetry w).keeps_config
  cases p with
  | requested =>
    have hc := hgot false
    rw [turn]
    generalize getClient s false w = x at hc ⊢
    obtain ⟨f, t⟩ := x
    cases f <;> exact hc
  | probing =>
    have hc := hgot true
    rw [turn]
    generalize getClient s true w = x at hc ⊢
    obtain ⟨f, t⟩ := x
    cases f <;> exact hc
  | fetching forceRetry => exact hgot forceRetry
  | holding | pinging => rw [turn]; cases w.reply <;> rfl
  | bypassed | failed | succeeded | unhealthy | degrading | healing | closing => rfl

theorem enter_decides (s : System) (c : Call) : (enter s c).2.config = s.config ∧
    (enter s c).2.manager.degradedUntil = s.manager.degradedUntil ∧
    (enter s c).2.log = s.log ∧ (enter s c).2.clock = s.clock := by
  cases c with
  | checkHealth =>
    rw [enter]
    split <;> exact ⟨rfl, rfl, rfl, rfl⟩
  | execute | getClient | reportHealthy | reportFailure | close => exact ⟨rfl, rfl, rfl, rfl⟩

/-- The manager's cooldown is the one its configuration and its events make. -/
def Governed (config : RedisConfig) (s : System) : Prop :=
  s.config = config ∧ Cooling config s.manager.degradedUntil s.log s.clock

theorem step_governed {s t : System} {a : Action} (h : Governed config s)
    (hs : step s a = some t) : Governed config t := by
  obtain ⟨rfl, hcool⟩ := h
  cases a with
  | call c =>
    cases hs
    obtain ⟨hconfig, huntil, hlog, hclock⟩ := enter_decides s c
    refine ⟨hconfig, ?_⟩
    show Cooling s.config (enter s c).2.manager.degradedUntil (enter s c).2.log (enter s c).2.clock
    rwa [huntil, hlog, hclock]
  | turn i w =>
    rw [step] at hs
    by_cases hclock : s.clock ≤ w.now ∧ w.now ≤ w.later
    · rw [if_pos hclock] at hs
      obtain ⟨p, _, rfl⟩ := Option.map_eq_some_iff.mp hs
      exact ⟨turn_config s w p, turn_cooling p hcool hclock.1 hclock.2⟩
    · rw [if_neg hclock] at hs
      cases hs

/-- The failures since the last success are no later than the one the cooldown counts from. -/
theorem spell_since {mid older : List Event} {t : ℚ} (hmid : .healthy ∉ mid)
    (hordered : (degradations (mid ++ .degraded t :: older)).Pairwise fun t u => u ≤ t) :
    ∃ u, spell (mid ++ .degraded t :: older) = some u ∧ t ≤ u := by
  induction mid with
  | nil => exact ⟨t, rfl, le_rfl⟩
  | cons e mid ih =>
    have hrest : .healthy ∉ mid := fun h => hmid (List.mem_cons_of_mem e h)
    cases e with
    | healthy => exact absurd List.mem_cons_self hmid
    | degraded u =>
      refine ⟨u, rfl, (List.pairwise_cons.mp hordered).1 t ?_⟩
      exact List.mem_filterMap.mpr ⟨.degraded t, List.mem_append_right mid List.mem_cons_self, rfl⟩
    | admitted | refused | operationRaised | passed | probeRaised => exact ih hrest hordered

theorem exists_of_spell {log : List Event} {t : ℚ} (h : spell log = some t) :
    ∃ mid older, log = mid ++ .degraded t :: older ∧ .healthy ∉ mid := by
  induction log with
  | nil => cases h
  | cons e log ih =>
    have hskip : e ≠ .healthy → spell log = some t →
        ∃ mid older, e :: log = mid ++ .degraded t :: older ∧ .healthy ∉ mid := by
      intro he hlog
      obtain ⟨mid, older, rfl, hmid⟩ := ih hlog
      exact ⟨e :: mid, older, rfl, List.not_mem_cons_of_ne_of_not_mem (Ne.symm he) hmid⟩
    cases e with
    | healthy => cases h
    | degraded u =>
      cases h
      exact ⟨[], log, rfl, List.not_mem_nil⟩
    | admitted | refused | operationRaised | passed | probeRaised => exact hskip (by rintro ⟨⟩) h

end TravelAgent.RedisClient
