import TravelAgent.EventStream

namespace TravelAgent.StreamCompleteness

open TravelAgent.Leasing TravelAgent.TaskRecord TravelAgent.TaskStore TravelAgent.TaskOps
open TravelAgent.TaskMoves TravelAgent.TaskView TravelAgent.TaskLedger TravelAgent.Transition
open TravelAgent.Cursors TravelAgent.EventStream
open TravelAgent.MysqlTaskStore (Codec)

variable {Req : Type}

/-- The connection has sent every event behind its initial cursor, once and in
order, and the last one says how the task ended. -/
def Complete (id : TaskId) (w : World Req) : Prop :=
  w.stream.yielded = eventsAfter w.ledger.store.events id w.stream.initialCursor ∧
    Ordered TaskEvent.eventId w.stream.yielded ∧
    ∀ e, w.stream.yielded.getLast? = some e → e.eventType.terminal = true

/-- At the last page read at most one page was outstanding, and nothing was
logged for the task since. -/
def Settled (id : TaskId) (w : World Req) : Prop :=
  (eventsAfter w.stream.pageEvents id w.stream.pageCursor).length ≤ 200 ∧
    eventsAfter w.ledger.store.events id w.stream.pageCursor =
      eventsAfter w.stream.pageEvents id w.stream.pageCursor

def Finished (s : Store Req) (id : TaskId) : Prop :=
  ∃ t, s.taskOf id = some t ∧ t.terminal = true

/-- A finished task has logged its end last. -/
def Logged (s : Store Req) (id : TaskId) : Prop :=
  Finished s id → ∃ e, (eventsOf s.events id).getLast? = some e ∧ e.eventType.terminal = true

theorem step_finished {b : Backend} {c : Codec Req} {g g' : Ledger Req} {call : Call Req}
    (hg : WellFormed g.store) (h : TaskLedger.step b c g call = some g') {id : TaskId}
    (hf : Finished g.store id) :
    Finished g'.store id ∧ eventsOf g'.store.events id = eventsOf g.store.events id := by
  obtain ⟨t, ht, hterm⟩ := hf
  rw [(step_some h).2.2.1]
  rcases leaves_log hg (exec_leaves b c hg call.op call.clock) id with ⟨hid, hev⟩ | ⟨hnone, _⟩ |
    ⟨q, q', event, hq, _, _, hmove, _⟩
  · exact ⟨⟨t, (congrArg (Option.map Row.taskJson) hid).trans ht, hterm⟩, hev⟩
  · rw [hnone] at ht
    cases ht
  · rw [ht] at hq
    cases hq
    rw [move_open hmove] at hterm
    cases hterm

theorem step_logged {b : Backend} {c : Codec Req} {g g' : Ledger Req} {call : Call Req}
    (hg : WellFormed g.store) (h : TaskLedger.step b c g call = some g') {id : TaskId}
    (hl : Logged g.store id) : Logged g'.store id := by
  rintro ⟨t, ht, hterm⟩
  rw [(step_some h).2.2.1] at ht ⊢
  rcases leaves_log hg (exec_leaves b c hg call.op call.clock) id with ⟨hid, hev⟩ |
    ⟨_, _, _, _, _, _, _, q, _, rfl, hq, _⟩ | ⟨q, q', event, _, hq', _, hmove, hev⟩
  · rw [hev]
    exact hl ⟨t, (congrArg (Option.map Row.taskJson) hid).symm.trans ht, hterm⟩
  · rw [hq] at ht
    cases ht
    cases hterm
  · rw [hq'] at ht
    cases ht
    obtain ⟨e, rfl, he⟩ := move_closing hmove hterm
    rw [hev]
    exact ⟨_, List.getLast?_concat, he⟩

/-- The log of a task grows at its end, under identifiers not used before. -/
theorem step_log {b : Backend} {c : Codec Req} {g g' : Ledger Req} {call : Call Req}
    (hg : WellFormed g.store) (h : TaskLedger.step b c g call = some g') (id : TaskId) :
    eventsOf g'.store.events id = eventsOf g.store.events id ∨
      ∃ e, eventsOf g'.store.events id = eventsOf g.store.events id ++ [e] ∧
        e.eventId = g.store.nextEventId := by
  rw [(step_some h).2.2.1]
  rcases leaves_log hg (exec_leaves b c hg call.op call.clock) id with ⟨_, hev⟩ |
    ⟨_, _, _, _, _, _, _, _, _, _, _, hev⟩ | ⟨q, q', event, _, _, _, _, hev⟩
  · exact Or.inl hev
  · exact Or.inr ⟨_, hev, rfl⟩
  · cases event with
    | none =>
      rw [eventOf, Option.map_none, Option.toList_none, List.append_nil] at hev
      exact Or.inl hev
    | some event => exact Or.inr ⟨_, hev, rfl⟩

theorem step_nextEventId {b : Backend} {c : Codec Req} {g g' : Ledger Req} {call : Call Req}
    (hg : WellFormed g.store) (h : TaskLedger.step b c g call = some g') :
    g.store.nextEventId ≤ g'.store.nextEventId := by
  rw [(step_some h).2.2.1]
  exact leaves_nextEventId (exec_leaves b c hg call.op call.clock)

theorem after_entry (cursor n : Nat) {e : TaskEvent} (he : e.eventId = n) :
    after TaskEvent.eventId cursor [e] = if cursor < n then [e] else [] := by
  simp only [after, List.filter_cons, he, decide_eq_true_eq, List.filter_nil]

/-- What holds of the connection and its surroundings at every moment. -/
structure Sound (id : TaskId) (w : World Req) : Prop where
  wellFormed : WellFormed w.ledger.store
  logged : Logged w.ledger.store id
  seen : ∀ t ∈ w.seen, t.terminal = true → Finished w.ledger.store id
  cache : ∀ t, w.cache = some t → t ∈ w.seen
  order : w.stream.initialCursor ≤ w.stream.pageCursor ∧ w.stream.pageCursor ≤ w.stream.cursor
  known : w.stream.cursor = w.stream.initialCursor ∨
    w.stream.cursor < w.ledger.store.nextEventId
  split : eventsAfter w.ledger.store.events id w.stream.initialCursor =
    w.stream.yielded ++ eventsAfter w.ledger.store.events id w.stream.cursor
  paged : w.stream.phase = .checking ∨ w.stream.phase = .ended →
    ∃ late, eventsAfter w.ledger.store.events id w.stream.pageCursor =
        eventsAfter w.stream.pageEvents id w.stream.pageCursor ++ late ∧
      eventsAfter w.ledger.store.events id w.stream.cursor =
        (eventsAfter w.stream.pageEvents id w.stream.pageCursor).drop 200 ++ late
  ended : w.stream.phase = .ended → Finished w.ledger.store id

theorem eventsOf_ordered {s : Store Req} (h : WellFormed s) (id : TaskId) :
    Ordered TaskEvent.eventId (eventsOf s.events id) :=
  List.Pairwise.filter _ h.ordered

/-- An event logged now lies behind both cursors or behind neither. -/
theorem append_behind {id : TaskId} {w : World Req} (hw : Sound id w) {e : TaskEvent}
    (he : e.eventId = w.ledger.store.nextEventId) {cursor : Nat}
    (hlow : w.stream.initialCursor ≤ cursor) (hhigh : cursor ≤ w.stream.cursor) :
    after TaskEvent.eventId cursor [e] = after TaskEvent.eventId w.stream.cursor [e] := by
  rw [after_entry cursor _ he, after_entry w.stream.cursor _ he]
  obtain hk | hk := hw.known
  · have hc : cursor = w.stream.cursor := by omega
    rw [hc]
  · rw [if_pos hk, if_pos (by omega)]

theorem write_sound {b : Backend} {c : Codec Req} {id : TaskId} {w : World Req} {g : Ledger Req}
    {call : Call Req} (hw : Sound id w) (h : TaskLedger.step b c w.ledger call = some g) :
    Sound id { w with ledger := g, seen := (g.store.taskOf id).toList ++ w.seen } := by
  have hwf : WellFormed g.store := by
    rw [(step_some h).2.2.1]
    exact exec_wellFormed b c hw.wellFormed call.op call.clock
  refine ⟨hwf, step_logged hw.wellFormed h hw.logged, ?_, ?_, hw.order, ?_, ?_, ?_, ?_⟩
  · intro t ht hterm
    obtain ht | ht := List.mem_append.mp ht
    · exact ⟨t, Option.mem_toList.mp ht, hterm⟩
    · exact (step_finished hw.wellFormed h (hw.seen t ht hterm)).1
  · intro t ht
    exact List.mem_append_right _ (hw.cache t ht)
  · obtain hk | hk := hw.known
    · exact Or.inl hk
    · exact Or.inr (Nat.lt_of_lt_of_le hk (step_nextEventId hw.wellFormed h))
  · have hsplit := hw.split
    simp only [eventsAfter] at hsplit ⊢
    obtain hev | ⟨e, hev, he⟩ := step_log hw.wellFormed h id
    · rw [hev]
      exact hsplit
    · rw [hev, after_append, after_append, hsplit, List.append_assoc,
        append_behind hw he (Nat.le_refl _) (Nat.le_trans hw.order.1 hw.order.2)]
  · intro hphase
    obtain ⟨late, hpage, hrest⟩ := hw.paged hphase
    simp only [eventsAfter] at hpage hrest ⊢
    obtain hev | ⟨e, hev, he⟩ := step_log hw.wellFormed h id
    · rw [hev]
      exact ⟨late, hpage, hrest⟩
    · refine ⟨late ++ after TaskEvent.eventId w.stream.cursor [e], ?_, ?_⟩
      · rw [hev, after_append, hpage, append_behind hw he hw.order.1 hw.order.2, List.append_assoc]
      · rw [hev, after_append, hrest, List.append_assoc]
  · intro hphase
    exact (step_finished hw.wellFormed h (hw.ended hphase)).1

theorem enter_sound {id : TaskId} {w : World Req} (hw : Sound id w) {phase : Phase}
    (hp : phase ≠ .checking) (he : phase = .ended →
      w.stream.phase = .checking ∧ Finished w.ledger.store id) : Sound id (w.enter phase) := by
  refine ⟨hw.wellFormed, hw.logged, hw.seen, hw.cache, hw.order, hw.known, hw.split, ?_, ?_⟩
  · intro hphase
    obtain hphase | hphase := hphase
    · exact absurd hphase hp
    · exact hw.paged (Or.inl (he hphase).1)
  · intro hphase
    exact (he hphase).2

theorem page_sound {id : TaskId} {w : World Req} (hw : Sound id w) :
    Sound id (w.send ((eventsAfter w.ledger.store.events id w.stream.cursor).take 200)) := by
  have ho := eventsOf_ordered hw.wellFormed id
  have hrest := after_page ho w.stream.cursor 200
  refine ⟨hw.wellFormed, hw.logged, hw.seen, hw.cache, ⟨?_, ?_⟩, ?_, ?_, ?_, ?_⟩
  · exact Nat.le_trans hw.order.1 hw.order.2
  · exact lastKey_ge w.stream.cursor 200
  · rcases lastKey_mem TaskEvent.eventId w.stream.cursor
      ((eventsAfter w.ledger.store.events id w.stream.cursor).take 200) with
      ⟨hk, _⟩ | ⟨e, hmem, hk⟩
    · simp only [World.send, hk]
      exact hw.known
    · refine Or.inr ?_
      simp only [World.send, hk]
      have hin := (mem_after.mp (List.mem_of_mem_take hmem)).1
      exact hw.wellFormed.bounded e (List.mem_filter.mp hin).1
  · simp only [World.send, eventsAfter] at hrest ⊢
    rw [hrest, List.append_assoc, List.take_append_drop]
    exact hw.split
  · intro _
    refine ⟨[], ?_, ?_⟩
    · simp only [World.send, List.append_nil]
    · simp only [World.send, List.append_nil]
      exact hrest
  · intro hphase
    cases hphase

theorem fetch_finished {b : Backend} {id : TaskId} {w : World Req} (hw : Sound id w)
    {userId : UserId} {t : TripPlanningTask Req} (h : w.fetch b id userId = .ok t)
    (ht : t.terminal = true) : Finished w.ledger.store id := by
  simp only [World.fetch] at h
  split at h
  · rename_i u hu
    cases h
    exact hw.seen t (hw.cache t hu) ht
  · refine ⟨t, ?_, ht⟩
    cases b with
    | mysql =>
      simp only [EventStream.getTask, MysqlTaskStore.getTask] at h
      split at h
      · cases h
      · rename_i row hrow
        split at h
        · cases h
        · cases h
          simp only [Store.taskOf, hrow, Option.map_some]
    | sqlite =>
      simp only [EventStream.getTask, SqliteTaskStore.getTask] at h
      split at h
      · cases h
      · rename_i row hrow
        split at h
        · cases h
        · cases h
          simp only [Store.taskOf, hrow, Option.map_some]

theorem step_sound {b : Backend} {c : Codec Req} {id : TaskId} {w w' : World Req}
    {label : Label Req} (hw : Sound id w) (h : EventStream.step b c id w label = some w') :
    Sound id w' := by
  cases label with
  | write call =>
    obtain ⟨g, hg, rfl⟩ := Option.map_eq_some_iff.mp h
    exact write_sound hw hg
  | cacheSet n =>
    obtain ⟨t, ht, rfl⟩ := Option.map_eq_some_iff.mp h
    refine ⟨hw.wellFormed, hw.logged, hw.seen, ?_, hw.order, hw.known, hw.split, hw.paged, hw.ended⟩
    intro u hu
    cases hu
    exact List.mem_of_getElem? ht
  | cacheDrop =>
    cases h
    refine ⟨hw.wellFormed, hw.logged, hw.seen, ?_, hw.order, hw.known, hw.split, hw.paged, hw.ended⟩
    intro t ht
    cases ht
  | connect userId afterEventId lastEventId =>
    simp only [EventStream.step] at h
    split at h
    · cases h
      refine ⟨hw.wellFormed, hw.logged, hw.seen, hw.cache, ⟨Nat.le_refl _, Nat.le_refl _⟩,
        Or.inl rfl, rfl, ?_, ?_⟩
      · intro hphase
        rcases hphase with hphase | hphase <;> cases hphase
      · intro hphase
        cases hphase
    · cases h
  | page =>
    simp only [EventStream.step] at h
    split at h
    · split at h
      · cases h
        exact enter_sound hw (by decide) (fun h => by cases h)
      · rename_i page hpage
        cases h
        have hp : page = (eventsAfter w.ledger.store.events id w.stream.cursor).take 200 := by
          simp only [listEvents] at hpage
          split at hpage
          · cases hpage
          · cases hpage
            rfl
        rw [hp]
        exact page_sound hw
    · cases h
  | check =>
    simp only [EventStream.step] at h
    split at h
    · rename_i hchecking
      split at h
      · cases h
        exact enter_sound hw (by decide) (fun h => by cases h)
      · rename_i t ht
        cases h
        split
        · rename_i hterm
          exact enter_sound hw (by decide) fun _ => ⟨hchecking, fetch_finished hw ht hterm⟩
        · exact enter_sound hw (by decide) (fun h => by cases h)
    · cases h
  | wake =>
    simp only [EventStream.step] at h
    split at h
    · cases h
      exact enter_sound hw (by decide) (fun h => by cases h)
    · cases h
  | disconnect =>
    simp only [EventStream.step] at h
    split at h
    · cases h
      exact enter_sound hw (by decide) (fun h => by cases h)
    · cases h

theorem start_sound (id : TaskId) : Sound id (World.start : World Req) := by
  refine ⟨empty_wellFormed, ?_, fun _ h => ?_, fun _ h => ?_, ⟨Nat.le_refl _, Nat.le_refl _⟩,
    Or.inl rfl, rfl, ?_, ?_⟩
  · rintro ⟨t, ht, _⟩
    cases ht
  · cases h
  · cases h
  · intro hphase
    rcases hphase with hphase | hphase <;> cases hphase
  · intro hphase
    cases hphase

/-- In every interleaving of the connection with the writers and the cache, a
stream that has ended is complete exactly when its last page was the last one
and nothing was logged between that page and the terminal check. -/
theorem ended_stream_complete_iff (b : Backend) (c : Codec Req) (id : TaskId)
    {labels : List (Label Req)} {w : World Req}
    (h : run (EventStream.step b c id) World.start labels = some w)
    (hended : w.stream.phase = .ended) : Complete id w ↔ Settled id w := by
  have hw := run_invariant (P := Sound id) (fun _ _ _ hs hst => step_sound hs hst)
    (start_sound id) h
  obtain ⟨late, hpage, hrest⟩ := hw.paged (Or.inr hended)
  have ho := eventsOf_ordered hw.wellFormed id
  have hdone : eventsAfter w.ledger.store.events id w.stream.cursor = [] ↔ Settled id w := by
    rw [hrest, List.append_eq_nil_iff, List.drop_eq_nil_iff]
    simp only [Settled, hpage, List.append_right_eq_self]
  rw [← hdone]
  constructor
  · rintro ⟨hall, _, _⟩
    have hs := hw.split
    rw [← hall] at hs
    exact List.self_eq_append_right.mp hs
  · intro hnil
    have hs := hw.split
    rw [hnil, List.append_nil] at hs
    refine ⟨hs.symm, ?_, ?_⟩
    · rw [← hs]
      exact after_ordered ho _
    · intro e he
      rw [← hs] at he
      obtain ⟨e', he', hterm⟩ := hw.logged (hw.ended hended)
      rw [getLast?_after ho he] at he'
      cases he'
      exact hterm

def queueAndClaim : List (Label Unit) :=
  [.write ⟨.createTask () "key" (some "u") "t1" "s1", ⟨0, 0, 0⟩⟩,
    .write ⟨.claimNext "A" 0 [], ⟨1, 1, 1⟩⟩]

def succeed : Label Unit := .write ⟨.markSucceeded "t1" "A" "s1", ⟨2, 2, 2⟩⟩

theorem late_reader_gets_all_events :
    ∃ w, run (EventStream.step .mysql plainCodec "t1") World.start
        (queueAndClaim ++ [succeed, .connect "u" 0 0, .page, .check]) = some w ∧
      w.stream.phase = .ended ∧ w.stream.yielded.map TaskEvent.eventId = [1, 2, 3] ∧
      Complete "t1" w := by
  have h : (run (EventStream.step .mysql plainCodec "t1") World.start
      (queueAndClaim ++ [succeed, .connect "u" 0 0, .page, .check])).any (fun w =>
        decide (w.stream.phase = .ended) &&
        decide (w.stream.yielded.map TaskEvent.eventId = [1, 2, 3]) &&
        decide ((eventsAfter w.stream.pageEvents "t1" w.stream.pageCursor).length ≤ 200) &&
        decide (eventsAfter w.ledger.store.events "t1" w.stream.pageCursor =
          eventsAfter w.stream.pageEvents "t1" w.stream.pageCursor)) = true := by
    decide +kernel
  obtain ⟨w, hrun, hw⟩ := Option.any_eq_true _ _ |>.mp h
  simp only [Bool.and_eq_true, decide_eq_true_eq] at hw
  obtain ⟨⟨⟨hended, hids⟩, hlen⟩, hsame⟩ := hw
  exact ⟨w, hrun, hended, hids,
    (ended_stream_complete_iff .mysql plainCodec "t1" hrun hended).mpr ⟨hlen, hsame⟩⟩

/-- The worker finishes between the page and the task read: the stream ends
without its closing event. -/
theorem stream_misses_closing_event :
    ∃ w, run (EventStream.step .mysql plainCodec "t1") World.start
        (queueAndClaim ++ [.connect "u" 0 0, .page, succeed, .check]) = some w ∧
      w.stream.phase = .ended ∧ w.stream.yielded.map TaskEvent.eventId = [1, 2] ∧
      (eventsAfter w.ledger.store.events "t1" 0).map TaskEvent.eventId = [1, 2, 3] ∧
      ¬ Complete "t1" w := by
  have h : (run (EventStream.step .mysql plainCodec "t1") World.start
      (queueAndClaim ++ [.connect "u" 0 0, .page, succeed, .check])).any (fun w =>
        decide (w.stream.phase = .ended) && decide (w.stream.initialCursor = 0) &&
        decide (w.stream.yielded.map TaskEvent.eventId = [1, 2]) &&
        decide ((eventsAfter w.ledger.store.events "t1" 0).map TaskEvent.eventId =
          [1, 2, 3])) = true := by
    decide +kernel
  obtain ⟨w, hrun, hw⟩ := Option.any_eq_true _ _ |>.mp h
  simp only [Bool.and_eq_true, decide_eq_true_eq] at hw
  obtain ⟨⟨⟨hended, hinitial⟩, hids⟩, hall⟩ := hw
  refine ⟨w, hrun, hended, hids, hall, ?_⟩
  rintro ⟨heq, _⟩
  rw [hinitial] at heq
  rw [← heq, hids] at hall
  exact absurd hall (by decide)

end TravelAgent.StreamCompleteness
