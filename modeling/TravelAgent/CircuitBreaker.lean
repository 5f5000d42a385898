import Mathlib
import TravelAgent.Rows
import TravelAgent.Transition

namespace TravelAgent.CircuitBreaker

open TravelAgent.Rows TravelAgent.Transition

/-- Seconds of the monotonic clock. -/
abbrev Seconds := Rat

abbrev CallId := Nat

inductive ToolErrorType
  | toolNotFound | invalidInput | invalidOutput | authorization | rateLimit | timeout | upstream
  | execution | circuitOpen | budgetExceeded | cancelled
deriving DecidableEq, Repr

/-- What the breaker reads of a tool's result. -/
structure ActionResult where
  success : Bool
  errorType : Option ToolErrorType
  retryable : Bool
deriving DecidableEq, Repr

inductive CircuitState
  | closed | opened | halfOpen
deriving DecidableEq, Repr

/-- `_CircuitEntry`, the part of the breaker that belongs to one tool. -/
structure CircuitEntry where
  state : CircuitState
  consecutiveFailures : Nat
  openedAt : Option Seconds
  halfOpenInFlight : Bool
deriving DecidableEq, Repr

def CircuitEntry.fresh : CircuitEntry := ⟨.closed, 0, none, false⟩

structure CircuitPermit where
  allowed : Bool
  state : CircuitState
  retryAfterSeconds : Seconds
deriving DecidableEq, Repr

structure Settings where
  failureThreshold : Nat
  recoveryTimeoutSeconds : Seconds
deriving DecidableEq, Repr

/-- `_TRACKED_ERRORS` -/
def trackedErrors : List ToolErrorType := [.rateLimit, .timeout, .upstream, .execution]

def ActionResult.tracked (r : ActionResult) : Bool :=
  r.retryable && r.errorType.any fun t => trackedErrors.contains t

/-- `_open` -/
def CircuitEntry.opens (e : CircuitEntry) (now : Seconds) : CircuitEntry :=
  { e with state := .opened, openedAt := some now, halfOpenInFlight := false }

/-- `_close` -/
def CircuitEntry.closes (_ : CircuitEntry) : CircuitEntry := ⟨.closed, 0, none, false⟩

/-- The last part of `before_call`: half open, one probe is let through. -/
def CircuitEntry.probe (cfg : Settings) (e : CircuitEntry) : CircuitPermit × CircuitEntry :=
  if e.halfOpenInFlight then (⟨false, .halfOpen, cfg.recoveryTimeoutSeconds⟩, e)
  else (⟨true, .halfOpen, 0⟩, { e with halfOpenInFlight := true })

def beforeCall (cfg : Settings) (e : CircuitEntry) (now : Seconds) : CircuitPermit × CircuitEntry :=
  match e.state with
  | .closed => (⟨true, .closed, 0⟩, e)
  | .opened =>
    let elapsed := now - e.openedAt.getD now
    let remaining := max 0 (cfg.recoveryTimeoutSeconds - elapsed)
    if 0 < remaining then (⟨false, .opened, remaining⟩, e)
    else CircuitEntry.probe cfg { e with state := .halfOpen, halfOpenInFlight := false }
  | .halfOpen => CircuitEntry.probe cfg e

def recordResult (cfg : Settings) (e : CircuitEntry) (r : ActionResult) (now : Seconds) :
    CircuitEntry :=
  if r.success then e.closes
  else if e.state = .halfOpen then if r.tracked then e.opens now else e.closes
  else if !r.tracked then e
  else
    let e := { e with consecutiveFailures := e.consecutiveFailures + 1 }
    if cfg.failureThreshold ≤ e.consecutiveFailures then e.opens now else e

/-- An admitted call, with the state it was admitted in and the number of times that the
breaker had opened by then. -/
structure Call where
  id : CallId
  state : CircuitState
  openings : Nat
deriving DecidableEq, Repr

/-- The breaker of one tool, its clock, how often it opened and the calls without a result. -/
structure Traffic where
  entry : CircuitEntry
  now : Seconds
  openings : Nat
  outstanding : List Call
deriving DecidableEq, Repr

def Traffic.start (now : Seconds) : Traffic := ⟨CircuitEntry.fresh, now, 0, []⟩

inductive Label
  | call (id : CallId) (now : Seconds)
  | result (id : CallId) (r : ActionResult) (now : Seconds)
deriving DecidableEq, Repr

/-- A call is admitted or refused, or the result of an outstanding call comes in, at a time
that does not go back. -/
def step (cfg : Settings) (x : Traffic) : Label → Option Traffic
  | .call id now =>
    if x.now ≤ now ∧ lookup Call.id id x.outstanding = none then
      let p := beforeCall cfg x.entry now
      some ⟨p.2, now, x.openings,
        if p.1.allowed then x.outstanding ++ [⟨id, p.1.state, x.openings⟩] else x.outstanding⟩
    else none
  | .result id r now =>
    if x.now ≤ now ∧ (lookup Call.id id x.outstanding).isSome = true then
      let e := recordResult cfg x.entry r now
      some ⟨e, now, if e.state = .opened then x.openings + 1 else x.openings,
        x.outstanding.filter fun c => decide (c.id ≠ id)⟩
    else none

/-- The outstanding calls that were admitted half open. -/
def Traffic.probes (x : Traffic) : List Call :=
  x.outstanding.filter fun c => decide (c.state = .halfOpen)

def AtMostOneProbe (x : Traffic) : Prop := x.probes.length ≤ 1

def Probing (e : CircuitEntry) : Prop := e.state = .halfOpen ∧ e.halfOpenInFlight = true

/-- The result of a call that was admitted before the breaker opened leaves the probe of
another call alone. -/
def KeepsProbe (cfg : Settings) (x : Traffic) : Label → Prop
  | .call _ _ => True
  | .result id r now =>
    ∀ c, lookup Call.id id x.outstanding = some c → c.openings < x.openings →
      ∀ p ∈ x.probes, p.id ≠ id → Probing x.entry → Probing (recordResult cfg x.entry r now)

/-- While the breaker is half open, no result comes in but the probe's. -/
def ProbeReports (x : Traffic) : Label → Prop
  | .call _ _ => True
  | .result id _ _ =>
    ∀ c, lookup Call.id id x.outstanding = some c → x.entry.state = .halfOpen → c.state = .halfOpen

/-- The breaker is half open exactly while its one probe is outstanding. -/
structure Exclusive (x : Traffic) : Prop where
  ids : (x.outstanding.map Call.id).Nodup
  probing : x.entry.state = .halfOpen → x.entry.halfOpenInFlight = true ∧ x.probes.length = 1
  idle : x.entry.state ≠ .halfOpen → x.probes = []
  stamps : ∀ c ∈ x.outstanding, c.openings ≤ x.openings
  earlier : x.entry.state ≠ .closed → ∀ c ∈ x.outstanding, c.state ≠ .halfOpen →
    c.openings < x.openings

theorem start_exclusive (now : Seconds) : Exclusive (Traffic.start now) := by
  refine ⟨List.nodup_nil, ?_, fun _ => rfl, ?_, ?_⟩
  · intro h
    cases h
  · intro c hc
    cases hc
  · intro h
    exact absurd rfl h

theorem recordResult_halfOpen (cfg : Settings) {e : CircuitEntry} (h : e.state = .halfOpen)
    (r : ActionResult) (now : Seconds) : (recordResult cfg e r now).state ≠ .halfOpen := by
  simp only [recordResult]
  split
  · exact CircuitState.noConfusion
  · split
    · exact CircuitState.noConfusion
    · exact CircuitState.noConfusion

/-- A result never opens a probe. -/
theorem recordResult_state (cfg : Settings) {e : CircuitEntry} (h : e.state ≠ .halfOpen)
    (r : ActionResult) (now : Seconds) :
    (recordResult cfg e r now).state = .closed ∨ (recordResult cfg e r now).state = .opened ∨
      (recordResult cfg e r now).state = e.state := by
  simp only [recordResult]
  by_cases hs : r.success = true
  · rw [if_pos hs]
    exact Or.inl rfl
  · rw [if_neg hs, if_neg h]
    split
    · exact Or.inr (Or.inr rfl)
    · split
      · exact Or.inr (Or.inl rfl)
      · exact Or.inr (Or.inr rfl)

/-- Three ways to be let through or turned away. -/
theorem beforeCall_cases (cfg : Settings) (e : CircuitEntry) (now : Seconds) :
    (e.state = .closed ∧ (beforeCall cfg e now).1.allowed = true ∧
      (beforeCall cfg e now).1.state = .closed ∧ (beforeCall cfg e now).2 = e) ∨
    ((beforeCall cfg e now).1.allowed = false ∧ (beforeCall cfg e now).2 = e) ∨
    (e.state ≠ .closed ∧ (e.state = .halfOpen → e.halfOpenInFlight = false) ∧
      (beforeCall cfg e now).1.allowed = true ∧ (beforeCall cfg e now).1.state = .halfOpen ∧
      (beforeCall cfg e now).2.state = .halfOpen ∧
      (beforeCall cfg e now).2.halfOpenInFlight = true) := by
  cases hs : e.state with
  | closed => simp [beforeCall, hs]
  | opened =>
    by_cases hr : 0 < max 0 (cfg.recoveryTimeoutSeconds - (now - e.openedAt.getD now))
    · simp only [beforeCall, hs, if_pos hr]
      simp
    · simp only [beforeCall, hs, if_neg hr, CircuitEntry.probe]
      simp
  | halfOpen =>
    cases hf : e.halfOpenInFlight with
    | true => simp [beforeCall, hs, CircuitEntry.probe, hf]
    | false => simp [beforeCall, hs, CircuitEntry.probe, hf]

theorem call_exclusive {cfg : Settings} {x y : Traffic} (h : Exclusive x) {id : CallId}
    {now : Seconds} (hstep : step cfg x (.call id now) = some y) : Exclusive y := by
  simp only [step] at hstep
  split at hstep
  · rename_i hguard
    cases hstep
    have hfresh : ∀ c : CircuitState,
        ((x.outstanding ++ [(⟨id, c, x.openings⟩ : Call)]).map Call.id).Nodup := by
      intro c
      rw [List.map_append]
      refine List.nodup_append.mpr ⟨h.ids, List.nodup_singleton _, ?_⟩
      intro i hi j hj heq
      obtain ⟨k, hk, rfl⟩ := List.mem_map.mp hi
      rw [List.map_singleton, List.mem_singleton] at hj
      exact List.find?_eq_none.mp hguard.2 k hk (decide_eq_true (heq.trans hj))
    have hstamps : ∀ s : CircuitState, ∀ c ∈ x.outstanding ++ [(⟨id, s, x.openings⟩ : Call)],
        c.openings ≤ x.openings := by
      intro s c hc
      obtain hc | hc := List.mem_append.mp hc
      · exact h.stamps c hc
      · rw [List.mem_singleton] at hc
        subst hc
        exact Nat.le_refl _
    rcases beforeCall_cases cfg x.entry now with ⟨hs, ha, hp, he⟩ | ⟨ha, he⟩ | ⟨hs, hf, ha, hp, he, hi⟩
    · rw [ha, he, if_pos rfl, hp]
      have hnone := h.idle (by rw [hs]; exact CircuitState.noConfusion)
      refine ⟨hfresh _, ?_, ?_, hstamps _, ?_⟩
      · intro hhalf
        cases hs.symm.trans hhalf
      · intro _
        simp only [Traffic.probes] at hnone ⊢
        rw [List.filter_append, hnone]
        rfl
      · intro hne
        exact absurd hs hne
    · rw [ha, he]
      exact ⟨h.ids, h.probing, h.idle, h.stamps, h.earlier⟩
    · rw [ha, if_pos rfl, hp]
      have hnone : x.probes = [] := by
        apply h.idle
        intro hhalf
        rw [(h.probing hhalf).1] at hf
        cases hf hhalf
      refine ⟨hfresh _, ?_, ?_, hstamps _, ?_⟩
      · intro _
        refine ⟨hi, ?_⟩
        simp only [Traffic.probes] at hnone ⊢
        rw [List.filter_append, hnone]
        rfl
      · intro hne
        exact absurd he hne
      · intro _ c hc hch
        obtain hc | hc := List.mem_append.mp hc
        · exact h.earlier hs c hc hch
        · rw [List.mem_singleton] at hc
          subst hc
          exact absurd rfl hch
  · cases hstep

theorem unique_call {calls : List Call} (h : (calls.map Call.id).Nodup) {c d : Call}
    (hc : c ∈ calls) (hd : d ∈ calls) (heq : c.id = d.id) : c = d := by
  have hrow := lookup_of_mem h hc
  rw [heq, lookup_of_mem h hd] at hrow
  exact (Option.some.inj hrow).symm

theorem probes_filter (x : Traffic) (id : CallId) :
    (x.outstanding.filter fun c => decide (c.id ≠ id)).filter (fun c => decide (c.state = .halfOpen)) =
      x.probes.filter fun c => decide (c.id ≠ id) := by
  rw [Traffic.probes, List.filter_filter, List.filter_filter]
  congr 1
  funext c
  exact Bool.and_comm _ _

theorem result_exclusive {cfg : Settings} {x y : Traffic} (h : Exclusive x) {id : CallId}
    {r : ActionResult} {now : Seconds} (hok : ProbeReports x (.result id r now))
    (hstep : step cfg x (.result id r now) = some y) : Exclusive y := by
  simp only [step] at hstep
  split at hstep
  · rename_i hguard
    cases hstep
    obtain ⟨c, hc⟩ := Option.isSome_iff_exists.mp hguard.2
    obtain ⟨hm, hid⟩ := lookup_mem hc
    have hids : ((x.outstanding.filter fun c => decide (c.id ≠ id)).map Call.id).Nodup :=
      h.ids.sublist (List.filter_sublist.map Call.id)
    have hnone : x.probes.filter (fun c => decide (c.id ≠ id)) = [] := by
      by_cases hhalf : x.entry.state = .halfOpen
      · -- the one probe is the call whose result came in
        have hstate := hok c hc hhalf
        have hmem : c ∈ x.probes := List.mem_filter.mpr ⟨hm, decide_eq_true hstate⟩
        obtain ⟨p, hp⟩ := List.length_eq_one_iff.mp (h.probing hhalf).2
        rw [hp] at hmem ⊢
        rw [List.mem_singleton] at hmem
        subst hmem
        rw [List.filter_cons, if_neg]
        · rfl
        · simp [hid]
      · rw [h.idle hhalf]
        rfl
    have hprobes : (x.outstanding.filter fun c => decide (c.id ≠ id)).filter
        (fun c => decide (c.state = .halfOpen)) = [] := by
      rw [probes_filter]
      exact hnone
    have hstate : (recordResult cfg x.entry r now).state ≠ .halfOpen := by
      by_cases hhalf : x.entry.state = .halfOpen
      · exact recordResult_halfOpen cfg hhalf r now
      · obtain hs | hs | hs := recordResult_state cfg hhalf r now
        · rw [hs]
          exact CircuitState.noConfusion
        · rw [hs]
          exact CircuitState.noConfusion
        · rw [hs]
          exact hhalf
    have hstamps : ∀ d ∈ x.outstanding.filter (fun c => decide (c.id ≠ id)), d.openings ≤ x.openings :=
      fun d hd => h.stamps d (List.mem_of_mem_filter hd)
    refine ⟨hids, fun hhalf => absurd hhalf hstate, fun _ => hprobes, ?_, ?_⟩
    · intro d hd
      have hle := hstamps d hd
      dsimp only
      split
      · omega
      · exact hle
    · intro hne d hd _
      have hle := hstamps d hd
      have hopen : (recordResult cfg x.entry r now).state = .opened := by
        cases hs : (recordResult cfg x.entry r now).state with
        | closed => exact absurd hs hne
        | opened => rfl
        | halfOpen => exact absurd hs hstate
      rw [if_pos hopen]
      exact Nat.lt_succ_of_le hle
  · cases hstep

theorem step_exclusive {cfg : Settings} {x y : Traffic} (h : Exclusive x) {label : Label}
    (hok : ProbeReports x label) (hstep : step cfg x label = some y) : Exclusive y := by
  cases label with
  | call id now => exact call_exclusive h hstep
  | result id r now => exact result_exclusive h hok hstep

theorem exclusive_atMostOne {x : Traffic} (h : Exclusive x) : AtMostOneProbe x := by
  by_cases hhalf : x.entry.state = .halfOpen
  · exact (h.probing hhalf).2.le
  · rw [AtMostOneProbe, h.idle hhalf]
    exact Nat.zero_le 1

/-- Any result that comes in while the breaker is half open ends the probing. -/
theorem keepsProbe_iff (cfg : Settings) {x : Traffic} (h : Exclusive x) (label : Label) :
    KeepsProbe cfg x label ↔ ProbeReports x label := by
  cases label with
  | call id now => exact Iff.rfl
  | result id r now =>
    constructor
    · intro hkeep c hc hhalf
      by_contra hstate
      obtain ⟨hm, hid⟩ := lookup_mem hc
      obtain ⟨p, hp⟩ := List.length_eq_one_iff.mp (h.probing hhalf).2
      have hmem : p ∈ x.probes := by
        rw [hp]
        exact List.mem_cons_self
      obtain ⟨hpm, hps⟩ := List.mem_filter.mp hmem
      have hne : p.id ≠ id := by
        intro heq
        rw [unique_call h.ids hpm hm (heq.trans hid.symm)] at hps
        exact hstate (of_decide_eq_true hps)
      have hearly := h.earlier (by rw [hhalf]; exact CircuitState.noConfusion) c hm hstate
      have hafter := hkeep c hc hearly p hmem hne ⟨hhalf, (h.probing hhalf).1⟩
      exact recordResult_halfOpen cfg hhalf r now hafter.1
    · intro hok c hc _ p hp hne hprobing
      obtain ⟨hm, hid⟩ := lookup_mem hc
      have hmem : c ∈ x.probes := List.mem_filter.mpr ⟨hm, decide_eq_true (hok c hc hprobing.1)⟩
      obtain ⟨q, hq⟩ := List.length_eq_one_iff.mp (h.probing hprobing.1).2
      rw [hq, List.mem_singleton] at hp hmem
      exact absurd ((congrArg Call.id (hp.trans hmem.symm)).trans hid) hne

/-- In every run at most one half-open call is outstanding and no result of an earlier call
touches the probe of another, exactly when no result but the probe's comes in while the
breaker is half open. -/
theorem probe_exclusive_iff (cfg : Settings) (start : Seconds) (labels : List Label) :
    Always (step cfg) AtMostOneProbe (Traffic.start start) labels ∧
        Along (step cfg) (KeepsProbe cfg) (Traffic.start start) labels ↔
      Along (step cfg) ProbeReports (Traffic.start start) labels := by
  have hiff : Along (step cfg) (KeepsProbe cfg) (Traffic.start start) labels ↔
      Along (step cfg) ProbeReports (Traffic.start start) labels :=
    along_iff_along (fun _ _ _ h hok ht => step_exclusive h hok ht)
      (fun _ label h => keepsProbe_iff cfg h label) (start_exclusive start)
  constructor
  · intro h
    exact hiff.mp h.2
  · intro h
    refine ⟨?_, hiff.mpr h⟩
    exact always_of_along (fun _ _ _ hx hok ht => step_exclusive hx hok ht)
      (fun _ hx => exclusive_atMostOne hx) (start_exclusive start) h

def settings : Settings := ⟨1, 10⟩

def timedOut : ActionResult := ⟨false, some .timeout, true⟩

/-- Two calls are let through; the first one opens the breaker, and the second one fails
only when the probe is on its way. -/
def lateFailure : List Label :=
  [.call 1 0, .call 2 0, .result 1 timedOut 1, .call 3 11, .result 2 timedOut 12, .call 4 22]

/-- The late failure releases the probe, and a second one is let through beside it. -/
theorem late_failure_lets_two_probes :
    (run (step settings) (Traffic.start 0) lateFailure).map (fun x => x.probes.map Call.id) =
        some [3, 4] ∧
      ¬(Always (step settings) AtMostOneProbe (Traffic.start 0) lateFailure ∧
        Along (step settings) (KeepsProbe settings) (Traffic.start 0) lateFailure) := by
  have hprobes : (run (step settings) (Traffic.start 0) lateFailure).map
      (fun x => x.probes.map Call.id) = some [3, 4] := by
    decide +kernel
  refine ⟨hprobes, ?_⟩
  intro h
  obtain ⟨x, hx, hids⟩ := Option.map_eq_some_iff.mp hprobes
  have hone : AtMostOneProbe x := always_last h.1 hx
  rw [AtMostOneProbe] at hone
  have htwo := congrArg List.length hids
  rw [List.length_map] at htwo
  simp only [List.length_cons, List.length_nil] at htwo
  omega

end TravelAgent.CircuitBreaker
