import Mathlib
import TravelAgent.RateLimit

namespace TravelAgent.RateBound

open TravelAgent.RateLimit TravelAgent.WindowCounters

structure Call where
  time : ℕ
  failOpen : Bool
  cost : ℤ
deriving DecidableEq, Repr

/-- The clock of the server does not go back. -/
def CallsInOrder (calls : List Call) : Prop := calls.Pairwise fun c c' => c.time ≤ c'.time

variable (undefined : ℤ) (policy : QuotaPolicy)

def answer (key : Option Counter) (c : Call) : Except String RateLimitDecision :=
  (acquire undefined c.failOpen policy c.cost key c.time).1

def next (key : Option Counter) (c : Call) : Option Counter :=
  (acquire undefined c.failOpen policy c.cost key c.time).2

def after (key : Option Counter) (calls : List Call) : Option Counter :=
  calls.foldl (next undefined policy) key

def admits (key : Option Counter) (c : Call) : Bool :=
  match answer undefined policy key c with
  | .ok d => d.allowed
  | .error _ => false

def event (key : Option Counter) (c : Call) : Event :=
  ⟨c.time, c.cost.toNat, admits undefined policy key c⟩

def events : Option Counter → List Call → List Event
  | _, [] => []
  | key, c :: calls => event undefined policy key c :: events (next undefined policy key c) calls

def limitOf : ℕ := policy.limit.toNat

def windowOf : ℕ := (policy.windowSeconds * 1000).toNat

/-- The script runs for the call. -/
structure Sent (c : Call) : Prop where
  positive : 0 < c.cost
  cost : printable c.cost = true
  window : printable (policy.windowSeconds * 1000) = true

/-- What the counter comes to by a call. -/
def sum (key : Option Counter) (c : Call) : ℕ := countAt key c.time + c.cost.toNat

/-- The script counts, compares and waits as it would with integers of any size. -/
structure Precise (key : Option Counter) (c : Call) : Prop where
  fits : sum key c < int64Bound
  restarts : luaNumber (sum key c) = luaNumber c.cost.toNat → present key c.time = none
  expires : present key c.time = none → c.time + windowOf policy < int64Bound
  admits : luaReply undefined (sum key c) ≤ policy.limit → sum key c ≤ limitOf policy
  opening : policy.limit < luaReply undefined (sum key c) → present key c.time = none →
    (windowOf policy : ℤ) ≤ luaReply undefined (windowOf policy)
  waiting : policy.limit < luaReply undefined (sum key c) →
    ∀ k ∈ present key c.time, ∀ expiry ∈ k.expiry,
      ((expiry - c.time : ℕ) : ℤ) ≤ luaReply undefined (expiry - c.time)

/-- A call for which the script runs fails at INCRBY on an instance that then rejects, or the script
is precise. -/
def Tame (key : Option Counter) (c : Call) : Prop :=
  Sent policy c →
    int64Bound ≤ sum key c ∧ c.failOpen = false ∨ Precise undefined policy key c

def TameRun : Option Counter → List Call → Prop
  | _, [] => True
  | key, c :: calls => Tame undefined policy key c ∧ TameRun (next undefined policy key c) calls

/-- Whatever is under the key disappears at some time. -/
def Expiring (key : Option Counter) : Prop := ∀ k ∈ key, k.expiry.isSome = true

/-- What a call does that is tame. -/
inductive Acquired (key : Option Counter) (c : Call) :
    Except String RateLimitDecision → Option Counter → Prop
  | unsent (text : String) : Acquired key c (.error text) key
  | failed (h : c.failOpen = false) :
      Acquired key c (.ok (degradedDecision false policy)) (present key c.time)
  | opened (hs : Sent policy c) (hk : present key c.time = none)
      (h : Precise undefined policy key c) :
      Acquired key c
        (.ok (countedDecision policy (luaReply undefined c.cost.toNat)
          (luaReply undefined (windowOf policy))))
        (some ⟨c.cost.toNat, some (c.time + windowOf policy)⟩)
  | counted (hs : Sent policy c) (k : Counter) (hk : present key c.time = some k)
      (h : Precise undefined policy key c) :
      Acquired key c
        (.ok (countedDecision policy (luaReply undefined (k.count + c.cost.toNat))
          (k.pttl undefined c.time)))
        (some ⟨k.count + c.cost.toNat, k.expiry⟩)

variable {undefined policy}

theorem acquired (he : policy.enabled = true) {key : Option Counter} {c : Call}
    (ht : Tame undefined policy key c) :
    Acquired undefined policy key c (answer undefined policy key c) (next undefined policy key c) := by
  rw [answer, next, acquire]
  by_cases hpos : c.cost ≤ 0
  · rw [if_pos hpos]
    exact .unsent _
  · rw [if_neg hpos, he, Bool.not_true, if_neg Bool.false_ne_true]
    by_cases hp : (printable c.cost && printable (policy.windowSeconds * 1000)) = true
    · rw [hp, Bool.not_true, if_neg Bool.false_ne_true, fixedWindowLua]
      obtain ⟨hcost, hwindow⟩ := Bool.and_eq_true_iff.mp hp
      have hsent : Sent policy c := ⟨not_le.mp hpos, hcost, hwindow⟩
      obtain ⟨hbig, hclosed⟩ | h := ht hsent
      · rw [if_pos (show int64Bound ≤ countAt key c.time + c.cost.toNat from hbig), hclosed]
        exact .failed hclosed
      · rw [if_neg (show ¬int64Bound ≤ countAt key c.time + c.cost.toNat from
          not_le.mpr h.fits)]
        cases hk : present key c.time with
        | none =>
          have hcount : countAt key c.time = 0 := by rw [countAt, hk]
          have hfits : c.time + (policy.windowSeconds * 1000).toNat < int64Bound := h.expires hk
          rw [hcount, Nat.zero_add, if_pos rfl, if_neg (not_le.mpr hfits)]
          have := Acquired.opened hsent hk h
          simpa [Counter.pttl, windowOf] using this
        | some k =>
          have hcount : countAt key c.time = k.count := by rw [countAt, hk]
          have hne : luaNumber (countAt key c.time + c.cost.toNat) ≠ luaNumber c.cost.toNat := by
            intro heq
            rw [h.restarts heq] at hk
            exact nomatch hk
          rw [if_neg hne, hcount]
          exact .counted hsent k hk h
    · rw [Bool.not_eq_true] at hp
      rw [hp, Bool.not_false, if_pos rfl]
      exact .unsent _

/-- The window that a counter is. -/
def window (k : Counter) : Window := ⟨k.count, k.expiry.getD 0⟩

theorem Expiring.alive {key : Option Counter} (h : Expiring key) {k : Counter} (hk : key = some k)
    (now : ℕ) : k.alive now = decide (now < (window k).expiry) := by
  have hsome := h k hk
  cases he : k.expiry with
  | none =>
    rw [he] at hsome
    exact nomatch hsome
  | some expiry => rw [Counter.alive, window, he, Option.getD_some]

theorem live_window {key : Option Counter} (h : Expiring key) (now : ℕ) :
    live (key.map window) now = (present key now).map window := by
  cases key with
  | none => rfl
  | some k =>
    rw [Option.map_some, live, present, Option.filter_some, Option.filter_some, h.alive rfl]
    cases decide (now < (window k).expiry) <;> rfl

theorem present_some {key : Option Counter} {now : ℕ} {k : Counter}
    (h : present key now = some k) : key = some k :=
  (Option.filter_eq_some_iff.mp h).1

theorem admits_of_counted {key : Option Counter} {c : Call} {current ttl : ℤ}
    (h : answer undefined policy key c = .ok (countedDecision policy current ttl)) :
    admits undefined policy key c = decide (current ≤ policy.limit) := by
  rw [admits, h]
  rfl

/-- Step: what a tame call does is what an event may do to a window. -/
theorem step_event (he : policy.enabled = true) {key : Option Counter} {c : Call}
    (hx : Expiring key) (ht : Tame undefined policy key c) :
    Expiring (next undefined policy key c) ∧
      Step (limitOf policy) (windowOf policy) (key.map window) (event undefined policy key c)
        ((next undefined policy key c).map window) := by
  have h := acquired he ht
  rw [event]
  generalize ha : answer undefined policy key c = a at h
  generalize next undefined policy key c = key' at h
  cases h with
  | unsent text =>
    have hadm : admits undefined policy key c = false := by rw [admits, ha]
    exact ⟨hx, .passes hadm⟩
  | failed hclosed =>
    have hadm : admits undefined policy key c = false := by rw [admits, ha]; rfl
    refine ⟨fun k hk => hx k (present_some hk), ?_⟩
    rw [← live_window hx]
    exact .expires hadm
  | opened _ hk hp =>
    refine ⟨fun k hk => by rw [← Option.some.inj hk]; rfl, ?_⟩
    refine .opens (by rw [live_window hx, hk]; rfl) ?_
    intro hadm
    rw [admits_of_counted ha, decide_eq_true_eq] at hadm
    have hsum : sum key c = c.cost.toNat := by rw [sum, countAt, hk, Nat.zero_add]
    have := hp.admits (by rw [hsum]; exact hadm)
    rwa [hsum] at this
  | counted _ k hk hp =>
    have hkey := present_some hk
    refine ⟨fun k' hk' => by rw [← Option.some.inj hk']; exact hx k hkey, ?_⟩
    refine Step.counts (k := window k) (by rw [live_window hx, hk]; rfl) ?_
    intro hadm
    rw [admits_of_counted ha, decide_eq_true_eq] at hadm
    have hsum : sum key c = k.count + c.cost.toNat := by rw [sum, countAt, hk]
    have := hp.admits (by rw [hsum]; exact hadm)
    rwa [hsum] at this

/-- Run: tame calls are a run of windows. -/
theorem run_events (he : policy.enabled = true) {key : Option Counter} {calls : List Call}
    (hx : Expiring key) (ht : TameRun undefined policy key calls) :
    Expiring (after undefined policy key calls) ∧
      Run (limitOf policy) (windowOf policy) (key.map window) (events undefined policy key calls)
        ((after undefined policy key calls).map window) := by
  induction calls generalizing key with
  | nil => exact ⟨hx, .nil _⟩
  | cons c calls ih =>
    obtain ⟨hx', hstep⟩ := step_event he hx ht.1
    obtain ⟨hend, hrun⟩ := ih hx' ht.2
    exact ⟨hend, .cons hstep hrun⟩

theorem after_append (key : Option Counter) (calls calls' : List Call) :
    after undefined policy key (calls ++ calls') =
      after undefined policy (after undefined policy key calls) calls' :=
  List.foldl_append

theorem tameRun_append {key : Option Counter} {calls calls' : List Call} :
    TameRun undefined policy key (calls ++ calls') ↔
      TameRun undefined policy key calls ∧
        TameRun undefined policy (after undefined policy key calls) calls' := by
  induction calls generalizing key with
  | nil => exact ⟨fun h => ⟨trivial, h⟩, fun h => h.2⟩
  | cons c calls ih =>
    rw [List.cons_append, TameRun, TameRun, ih, and_assoc]
    exact Iff.rfl

theorem events_forall {P : ℕ → Prop} {key : Option Counter} {calls : List Call}
    (h : ∀ c ∈ calls, P c.time) : ∀ e ∈ events undefined policy key calls, P e.time := by
  induction calls generalizing key with
  | nil => exact List.forall_mem_nil _
  | cons c calls ih =>
    rw [events, List.forall_mem_cons]
    exact ⟨h c List.mem_cons_self, ih fun c' hc' => h c' (List.mem_cons_of_mem c hc')⟩

theorem events_inOrder {key : Option Counter} {calls : List Call} (h : CallsInOrder calls) :
    InOrder (events undefined policy key calls) := by
  induction calls generalizing key with
  | nil => exact List.Pairwise.nil
  | cons c calls ih =>
    obtain ⟨hfirst, hrest⟩ := List.pairwise_cons.mp h
    exact List.pairwise_cons.mpr ⟨events_forall hfirst, ih hrest⟩

/-- A piece of a tame run of calls, seen as a run of windows. -/
theorem piece (he : policy.enabled = true) {calls before inside rest : List Call}
    (hord : CallsInOrder calls) (ht : TameRun undefined policy none calls)
    (hs : calls = before ++ inside ++ rest) :
    CallsInOrder inside ∧ Expiring (after undefined policy none before) ∧
      TameRun undefined policy (after undefined policy none before) inside := by
  subst hs
  obtain ⟨hleft, -⟩ := tameRun_append.mp ht
  obtain ⟨hbefore, hinside⟩ := tameRun_append.mp hleft
  obtain ⟨hord', -, -⟩ := List.pairwise_append.mp hord
  obtain ⟨-, hord'', -⟩ := List.pairwise_append.mp hord'
  have hx : Expiring none := fun k hk => nomatch hk
  exact ⟨hord'', (run_events he hx hbefore).1, hinside⟩

/-- A caller that was told to wait and did. -/
theorem waited {current ttl : ℤ} {time t : ℕ} (h : ¬current ≤ policy.limit)
    (hw : (time : ℚ) + 1000 * (countedDecision policy current ttl).retryAfterSeconds ≤ t) :
    (time : ℤ) + ttl ≤ t := by
  have hretry : (countedDecision policy current ttl).retryAfterSeconds = (max 0 ttl : ℤ) / 1000 := by
    simp [countedDecision, h]
  rw [hretry, mul_div_cancel₀ _ (by norm_num)] at hw
  have hle : (time : ℤ) + max 0 ttl ≤ t := by exact_mod_cast hw
  omega

variable (undefined policy)

/-- The bound of the limiter on a run of calls on a new key. -/
structure RateBounded (calls : List Call) : Prop where
  window : ∀ before c inside rest k expiry, calls = before ++ c :: inside ++ rest →
    present (after undefined policy none before) c.time = none →
    present (next undefined policy (after undefined policy none before) c) c.time = some k →
    k.expiry = some expiry → (∀ c' ∈ inside, c'.time < expiry) →
    admittedCost (events undefined policy (after undefined policy none before) (c :: inside)) ≤
      limitOf policy
  interval : ∀ before inside rest start, calls = before ++ inside ++ rest →
    (∀ c ∈ inside, start ≤ c.time ∧ c.time < start + windowOf policy) →
    admittedCost (events undefined policy (after undefined policy none before) inside) ≤
      2 * limitOf policy
  expiring : ∀ before rest, calls = before ++ rest → Expiring (after undefined policy none before)
  unmoved : ∀ before c rest k, calls = before ++ c :: rest →
    present (after undefined policy none before) c.time = some k →
    admits undefined policy (after undefined policy none before) c = false →
    ∃ k', next undefined policy (after undefined policy none before) c = some k' ∧
      k'.expiry = k.expiry
  waiting : ∀ before c between rest d t, calls = before ++ c :: between ++ rest →
    answer undefined policy (after undefined policy none before) c = .ok d →
    d.allowed = false → d.degraded = false → (∀ c' ∈ between, c'.time ≤ t) →
    (c.time : ℚ) + 1000 * d.retryAfterSeconds ≤ t →
    ∃ k expiry, next undefined policy (after undefined policy none before) c = some k ∧
      k.expiry = some expiry ∧
      ∀ k' ∈ present (after undefined policy none (before ++ c :: between)) t,
        ∃ expiry', k'.expiry = some expiry' ∧ expiry + windowOf policy ≤ expiry'

variable {undefined policy}

theorem window_bound (he : policy.enabled = true) {key : Option Counter} {c : Call}
    {inside : List Call} {k : Counter} {expiry : ℕ} (hord : CallsInOrder (c :: inside))
    (hx : Expiring key) (ht : TameRun undefined policy key (c :: inside))
    (hgone : present key c.time = none)
    (hk : present (next undefined policy key c) c.time = some k) (hexp : k.expiry = some expiry)
    (hin : ∀ c' ∈ inside, c'.time < expiry) :
    admittedCost (events undefined policy key (c :: inside)) ≤ limitOf policy := by
  have hopen : c.time < expiry ∧ expiry ≤ c.time + windowOf policy := by
    have h := acquired he ht.1
    generalize answer undefined policy key c = a at h
    generalize next undefined policy key c = key' at h hk
    have halive : c.time < expiry := by
      have := (Option.filter_eq_some_iff.mp hk).2
      rw [Counter.alive, hexp] at this
      exact of_decide_eq_true this
    refine ⟨halive, ?_⟩
    cases h with
    | unsent text =>
      rw [hgone] at hk
      exact nomatch hk
    | failed hclosed =>
      rw [hgone] at hk
      exact nomatch hk
    | opened _ _ hp =>
      have := Option.some.inj (present_some hk)
      subst this
      exact (Option.some.inj hexp).ge
    | counted _ k₁ hk₁ hp =>
      rw [hgone] at hk₁
      exact nomatch hk₁
  have hrun := (run_events he hx ht).2
  refine hrun.fresh (b := expiry) (events_inOrder hord) ?_ ?_ ?_
  · intro e hev
    obtain rfl := Option.some.inj hev
    rw [live_window hx]
    exact congrArg (Option.map RateBound.window) hgone
  · intro e hev
    obtain rfl := Option.some.inj hev
    exact hopen.2
  · exact events_forall (P := fun time => time < expiry)
      (List.forall_mem_cons.mpr ⟨hopen.1, hin⟩)

theorem interval_bound (he : policy.enabled = true) {key : Option Counter} {inside : List Call}
    {start : ℕ} (hord : CallsInOrder inside) (hx : Expiring key)
    (ht : TameRun undefined policy key inside)
    (hin : ∀ c ∈ inside, start ≤ c.time ∧ c.time < start + windowOf policy) :
    admittedCost (events undefined policy key inside) ≤ 2 * limitOf policy :=
  (run_events he hx ht).2.interval (events_inOrder hord)
    (events_forall (P := fun time => start ≤ time ∧ time < start + windowOf policy) hin)

theorem next_unmoved (he : policy.enabled = true) {key : Option Counter} {c : Call} {k : Counter}
    (ht : Tame undefined policy key c) (hk : present key c.time = some k) :
    ∃ k', next undefined policy key c = some k' ∧ k'.expiry = k.expiry := by
  have h := acquired he ht
  generalize answer undefined policy key c = a at h
  generalize next undefined policy key c = key' at h
  cases h with
  | unsent text => exact ⟨k, present_some hk, rfl⟩
  | failed hclosed => exact ⟨k, hk, rfl⟩
  | opened _ hk' hp =>
    rw [hk] at hk'
    exact nomatch hk'
  | counted _ k₁ hk₁ hp =>
    rw [hk] at hk₁
    obtain rfl := Option.some.inj hk₁
    exact ⟨_, rfl, rfl⟩

/-- The window that rejects a call is over when the caller has waited. -/
theorem rejected_expiry (he : policy.enabled = true) {key : Option Counter} {c : Call}
    {d : RateLimitDecision} {t : ℕ} (hx : Expiring key) (ht : Tame undefined policy key c)
    (hd : answer undefined policy key c = .ok d) (hrej : d.allowed = false)
    (hdeg : d.degraded = false) (hw : (c.time : ℚ) + 1000 * d.retryAfterSeconds ≤ t) :
    ∃ k expiry, next undefined policy key c = some k ∧ k.expiry = some expiry ∧ expiry ≤ t := by
  have h := acquired he ht
  generalize ha : answer undefined policy key c = a at h hd
  generalize next undefined policy key c = key' at h
  subst hd
  cases h with
  | failed hclosed => exact nomatch hdeg
  | opened _ hk hp =>
    have hover : ¬luaReply undefined c.cost.toNat ≤ policy.limit := of_decide_eq_false hrej
    have hsum : sum key c = c.cost.toNat := by rw [sum, countAt, hk, Nat.zero_add]
    have hlong := hp.opening (by rw [hsum]; exact not_le.mp hover) hk
    have := waited hover hw
    exact ⟨_, _, rfl, rfl, by omega⟩
  | counted _ k hk hp =>
    have hover : ¬luaReply undefined (k.count + c.cost.toNat) ≤ policy.limit :=
      of_decide_eq_false hrej
    have hsum : sum key c = k.count + c.cost.toNat := by rw [sum, countAt, hk]
    obtain ⟨expiry, hexp⟩ := Option.isSome_iff_exists.mp (hx k (present_some hk))
    have hlong := hp.waiting (by rw [hsum]; exact not_le.mp hover) k hk expiry hexp
    have httl := waited hover hw
    rw [Counter.pttl, hexp] at httl
    exact ⟨_, expiry, rfl, hexp, by dsimp only at httl; omega⟩

/-- What is under the key later belongs to the same window or to one opened after its expiry. -/
theorem later_expiry (he : policy.enabled = true) {key : Option Counter} {calls : List Call}
    {k : Counter} {expiry : ℕ} (hord : CallsInOrder calls) (hx : Expiring key)
    (ht : TameRun undefined policy key calls) (hk : key = some k) (hexp : k.expiry = some expiry)
    {k' : Counter} (hk' : after undefined policy key calls = some k') :
    ∃ expiry', k'.expiry = some expiry' ∧
      (expiry' = expiry ∨ expiry + windowOf policy ≤ expiry') := by
  obtain ⟨hx', hrun⟩ := run_events he hx ht
  obtain ⟨expiry', hexp'⟩ := Option.isSome_iff_exists.mp (hx' k' hk')
  have hwin : (window k).expiry = expiry := by rw [window, hexp, Option.getD_some]
  have hwin' : (window k').expiry = expiry' := by rw [window, hexp', Option.getD_some]
  have hlater := hrun.later (k := window k) (events_inOrder hord)
    (Or.inl ⟨k.count, by rw [hk]; rfl⟩) (window k') (by rw [hk']; rfl)
  rw [hwin, hwin'] at hlater
  exact ⟨expiry', hexp', hlater⟩

theorem waiting_bound (he : policy.enabled = true) {key : Option Counter} {c : Call}
    {between : List Call} {d : RateLimitDecision} {t : ℕ} (hord : CallsInOrder (c :: between))
    (hx : Expiring key) (ht : TameRun undefined policy key (c :: between))
    (hd : answer undefined policy key c = .ok d) (hrej : d.allowed = false)
    (hdeg : d.degraded = false) (hw : (c.time : ℚ) + 1000 * d.retryAfterSeconds ≤ t) :
    ∃ k expiry, next undefined policy key c = some k ∧ k.expiry = some expiry ∧
      ∀ k' ∈ present (after undefined policy key (c :: between)) t,
        ∃ expiry', k'.expiry = some expiry' ∧ expiry + windowOf policy ≤ expiry' := by
  obtain ⟨k, expiry, hk, hexp, hle⟩ := rejected_expiry he hx ht.1 hd hrej hdeg hw
  refine ⟨k, expiry, hk, hexp, ?_⟩
  intro k' hk'
  have hx' := (step_event he hx ht.1).1
  obtain ⟨expiry', hexp', hsame | hlater⟩ := later_expiry he (List.pairwise_cons.mp hord).2 hx'
    ht.2 hk hexp (present_some hk')
  · have halive := (Option.filter_eq_some_iff.mp hk').2
    rw [Counter.alive, hexp', hsame] at halive
    exact absurd (of_decide_eq_true halive) (Nat.not_lt.mpr hle)
  · exact ⟨expiry', hexp', hlater⟩

/-- Calls of any instances in any order keep the bound while each of them is tame. -/
theorem rate_bounded (undefined : ℤ) (policy : QuotaPolicy) (calls : List Call)
    (he : policy.enabled = true) (hord : CallsInOrder calls)
    (ht : TameRun undefined policy none calls) : RateBounded undefined policy calls where
  window := by
    intro before c inside rest k expiry hs hgone hk hexp hin
    obtain ⟨hord', hx, ht'⟩ := piece he hord ht hs
    exact window_bound he hord' hx ht' hgone hk hexp hin
  interval := by
    intro before inside rest start hs hin
    obtain ⟨hord', hx, ht'⟩ := piece he hord ht hs
    exact interval_bound he hord' hx ht' hin
  expiring := by
    intro before rest hs
    have hs' : calls = before ++ [] ++ rest := by rw [List.append_nil, hs]
    exact (piece he hord ht hs').2.1
  unmoved := by
    intro before c rest k hs hk _
    have hs' : calls = before ++ [c] ++ rest := by rw [hs, List.append_assoc]; rfl
    exact next_unmoved he (piece he hord ht hs').2.2.1 hk
  waiting := by
    intro before c between rest d t hs hd hrej hdeg _ hw
    obtain ⟨hord', hx, ht'⟩ := piece he hord ht hs
    rw [after_append]
    exact waiting_bound he hord' hx ht' hd hrej hdeg hw

theorem luaNumber_eq {n : ℕ} (h : n ≤ 2 ^ 53) : luaNumber n = n := by
  obtain rfl | hlt := Nat.eq_or_lt_of_le h
  · decide
  · have hlog : n.log2 - 52 = 0 := by
      rw [Nat.sub_eq_zero_iff_le]
      by_cases h0 : n = 0
      · subst h0
        decide
      · exact Nat.lt_succ_iff.mp ((Nat.log2_lt h0).mpr hlt)
    rw [luaNumber, hlog]
    simp [Nat.mod_one]

theorem luaReply_eq {n : ℕ} (h : n ≤ 2 ^ 53) : luaReply undefined n = n := by
  have hfits : n < int64Bound := lt_of_le_of_lt h (by decide)
  rw [luaReply, luaNumber_eq h, if_pos hfits]

/-- Numbers that doubles hold exactly. -/
def Small (spent : ℕ) (key : Option Counter) : Prop :=
  ∀ k ∈ key, 0 < k.count ∧ k.count ≤ spent ∧ ∀ expiry ∈ k.expiry, expiry ≤ 2 ^ 53

theorem precise_of_small {key : Option Counter} {c : Call} {spent : ℕ} (hs : Small spent key)
    (hsum : spent + c.cost.toNat ≤ 2 ^ 53) (htime : c.time + windowOf policy ≤ 2 ^ 53) :
    Precise undefined policy key c := by
  have hcount : countAt key c.time ≤ spent := by
    rw [countAt]
    cases hk : present key c.time with
    | none => exact Nat.zero_le _
    | some k => exact (hs k (present_some hk)).2.1
  have hle : sum key c ≤ 2 ^ 53 := (Nat.add_le_add_right hcount _).trans hsum
  refine ⟨lt_of_le_of_lt hle (by decide), ?_, ?_, ?_, ?_, ?_⟩
  · intro heq
    rw [luaNumber_eq hle, luaNumber_eq (by omega), sum] at heq
    cases hk : present key c.time with
    | none => rfl
    | some k =>
      have hpos := (hs k (present_some hk)).1
      rw [countAt, hk] at heq
      dsimp only at heq
      omega
  · intro _
    exact lt_of_le_of_lt htime (by decide)
  · intro h
    rw [luaReply_eq hle] at h
    exact Int.le_toNat (by omega) |>.mpr h
  · intro _ _
    rw [luaReply_eq (by omega)]
  · intro _ k hk expiry hexp
    have := (hs k (present_some hk)).2.2 expiry hexp
    rw [luaReply_eq (by omega)]

/-- As long as all costs together and all expiries are at most 2^53, every call is tame. -/
theorem tameRun_of_small (he : policy.enabled = true) {key : Option Counter} {calls : List Call}
    {n : ℕ} (hs : Small n key)
    (hsum : n + (calls.map fun c => c.cost.toNat).sum ≤ 2 ^ 53)
    (htime : ∀ c ∈ calls, c.time + windowOf policy ≤ 2 ^ 53) :
    TameRun undefined policy key calls := by
  induction calls generalizing key n with
  | nil => trivial
  | cons c calls ih =>
    rw [List.map_cons, List.sum_cons, ← Nat.add_assoc] at hsum
    obtain ⟨hfirst, hrest⟩ := List.forall_mem_cons.mp htime
    have ht : Tame undefined policy key c := fun _ =>
      Or.inr (precise_of_small hs (by omega) hfirst)
    refine ⟨ht, ih ?_ hsum hrest⟩
    have h := acquired he ht
    generalize answer undefined policy key c = a at h
    generalize next undefined policy key c = key' at h
    have hmono : Small (n + c.cost.toNat) key := fun k hk =>
      ⟨(hs k hk).1, by have := (hs k hk).2.1; omega, (hs k hk).2.2⟩
    cases h with
    | unsent text => exact hmono
    | failed hclosed => exact fun k hk => hmono k (present_some hk)
    | opened hsent hk hp =>
      have := hsent.positive
      intro k hk
      obtain rfl := Option.some.inj hk
      refine ⟨by dsimp only; omega, Nat.le_add_left _ _, ?_⟩
      intro expiry hexp
      obtain rfl := Option.some.inj hexp
      exact hfirst
    | counted hsent k hk hp =>
      obtain ⟨hpos, hle, hexp⟩ := hs k (present_some hk)
      intro k' hk'
      obtain rfl := Option.some.inj hk'
      exact ⟨by dsimp only; omega, Nat.add_le_add_right hle _, hexp⟩

def perMinute : QuotaPolicy := ⟨"per-minute", 10, 60⟩

theorem three_calls_bounded : RateBounded 0 perMinute [⟨0, true, 4⟩, ⟨5, false, 6⟩, ⟨9, true, 1⟩] := by
  have he : perMinute.enabled = true := by decide
  apply rate_bounded 0 perMinute _ he
  · simp [CallsInOrder]
  · refine tameRun_of_small he (n := 0) (fun k hk => nomatch hk) (by decide) ?_
    simp [windowOf, perMinute]

/-- 2^53 + 1 is rounded to 2^53, which is the cost of the second call. -/
def roundedCalls : List Call := [⟨0, true, 1⟩, ⟨30000, true, 2 ^ 53⟩]

theorem rejection_postpones :
    ¬ ∀ (undefined : ℤ) (policy : QuotaPolicy) (calls : List Call), policy.enabled = true →
      CallsInOrder calls → (∀ c ∈ calls, 0 < c.cost) → RateBounded undefined policy calls := by
  intro h
  have hb := h 0 perMinute roundedCalls (by decide) (by simp [CallsInOrder, roundedCalls])
    (by simp [roundedCalls])
  have hkey : present (after 0 perMinute none [⟨0, true, 1⟩]) 30000 = some ⟨1, some 60000⟩ := by
    decide +kernel
  have hrej : admits 0 perMinute (after 0 perMinute none [⟨0, true, 1⟩]) ⟨30000, true, 2 ^ 53⟩ =
      false := by
    decide +kernel
  have hmoved : next 0 perMinute (after 0 perMinute none [⟨0, true, 1⟩]) ⟨30000, true, 2 ^ 53⟩ =
      some ⟨2 ^ 53 + 1, some 90000⟩ := by
    decide +kernel
  obtain ⟨k', hk', hexp⟩ := hb.unmoved [⟨0, true, 1⟩] _ [] _ rfl hkey hrej
  obtain rfl := Option.some.inj (hmoved.symm.trans hk')
  exact nomatch hexp

/-- An instance that fails open admits a cost that INCRBY refuses. -/
example : admits 0 perMinute (some ⟨10, some 60000⟩) ⟨1, true, 2 ^ 63⟩ = true := by decide +kernel

end TravelAgent.RateBound
