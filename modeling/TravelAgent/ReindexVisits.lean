import Mathlib
import TravelAgent.ReindexTurns
import TravelAgent.Transition

namespace TravelAgent.Reindex

open TravelAgent.Leasing TravelAgent.Rows TravelAgent.ShareRecord TravelAgent.ShareStore
open TravelAgent.ShareReads TravelAgent.ShareMoves TravelAgent.Transition
open TravelAgent.Attempts (mapM_ok mapM_each)
open TravelAgent.Reconcile (activePublic maintenanceRecord)

variable {Snapshot : Type}

theorem maintenanceRecord_ok {r q : SharedGuideRecord Snapshot} (h : maintenanceRecord r = .ok q) :
    q = r := by
  rw [maintenanceRecord] at h
  split at h
  · rename_i r' hr'
    rw [← Except.ok.inj h]
    exact recordFromRow_ok hr'
  · split at h
    · cases h
    · exact (Except.ok.inj h).symm

/-- What stands behind a full page comes after all of it. -/
theorem mem_take_or_after {α : Type} {R : α → α → Prop} {l : List α} (h : l.Pairwise R) {a : α}
    (ha : a ∈ l) (n : Nat) : a ∈ l.take n ∨ (l.take n).length = n ∧ ∀ b ∈ l.take n, R b a := by
  rw [← List.take_append_drop n l] at h ha
  obtain ha | ha := List.mem_append.mp ha
  · exact Or.inl ha
  · refine Or.inr ⟨?_, fun b hb => (List.pairwise_append.mp h).2.2 b hb a ha⟩
    have hn : n < l.length := by
      by_contra hle
      rw [List.drop_eq_nil_of_le (Nat.le_of_not_lt hle)] at ha
      cases ha
    rw [List.length_take, Nat.min_eq_left (Nat.le_of_lt hn)]

/-- The rows that a page is cut from. -/
def candidates (s : Store Snapshot) (after shareId : Option ShareId) :
    List (SharedGuideRecord Snapshot) :=
  (s.shares.filter fun r =>
      r.publicReady && (after.all fun a => decide (a < r.shareId)) &&
        shareId.all fun i => decide (r.shareId = i)).mergeSort
    fun r q => decide (r.shareId ≤ q.shareId)

theorem mem_candidates {s : Store Snapshot} {after shareId : Option ShareId}
    {r : SharedGuideRecord Snapshot} :
    r ∈ candidates s after shareId ↔ r ∈ s.shares ∧ r.publicReady = true ∧
      (∀ a, after = some a → a < r.shareId) ∧ ∀ i, shareId = some i → r.shareId = i := by
  simp only [candidates, List.mem_mergeSort, List.mem_filter, Bool.and_eq_true,
    Option.all_eq_true_iff_get, decide_eq_true_eq, and_assoc]
  refine and_congr_right fun _ => and_congr_right fun _ => and_congr ?_ ?_
  · cases after <;> simp
  · cases shareId <;> simp

theorem candidates_ascending {s : Store Snapshot} (hs : UniqueShares s)
    (after shareId : Option ShareId) :
    (candidates s after shareId).Pairwise fun r q => r.shareId < q.shareId := by
  have hsorted : (candidates s after shareId).Pairwise fun r q =>
      decide (r.shareId ≤ q.shareId) = true := by
    apply List.pairwise_mergeSort
    · intro a b c hab hbc
      exact decide_eq_true (le_trans (of_decide_eq_true hab) (of_decide_eq_true hbc))
    · intro a b
      rw [Bool.or_eq_true, decide_eq_true_eq, decide_eq_true_eq]
      exact le_total a.shareId b.shareId
  have hnodup : (candidates s after shareId).Pairwise fun r q => r.shareId ≠ q.shareId := by
    rw [← List.pairwise_map, ← List.nodup_iff_pairwise_ne]
    have hperm := (List.mergeSort_perm (s.shares.filter fun r =>
      r.publicReady && (after.all fun a => decide (a < r.shareId)) &&
        shareId.all fun i => decide (r.shareId = i))
      fun r q => decide (r.shareId ≤ q.shareId)).map SharedGuideRecord.shareId
    exact hperm.nodup_iff.mpr (List.Nodup.sublist (List.filter_sublist.map _) hs)
  exact (hsorted.and hnodup).imp fun h => lt_of_le_of_ne (of_decide_eq_true h.1) h.2

theorem listActivePublic_ok {s : Store Snapshot} {after shareId : Option ShareId} {limit : Nat}
    {page : List (SharedGuideRecord Snapshot)}
    (h : listActivePublic s after limit shareId = .ok page) :
    page = (candidates s after shareId).take limit := by
  have hall : ∀ r ∈ (candidates s after shareId).take limit, maintenanceRecord r = .ok (id r) := by
    intro r hr
    obtain ⟨q, hq⟩ := mapM_each h hr
    have hqr := maintenanceRecord_ok hq
    rw [hq, hqr]
    rfl
  have h' := mapM_ok hall
  rw [List.map_id] at h'
  exact Except.ok.inj (h.symm.trans h')

/-- The rest of a page stands behind everything selected, and before the next page. -/
structure Ahead (selected : List ShareId) (todo : Todo Snapshot) : Prop where
  ascending : todo.rest.Pairwise fun r q => r.shareId < q.shareId
  beyond : ∀ i ∈ selected, ∀ r ∈ todo.rest, i < r.shareId
  passed : ∀ a, todo.next = .page a → (∀ i ∈ selected, i ≤ a) ∧ ∀ r ∈ todo.rest, r.shareId ≤ a
  moving : todo.next ≠ .stuck

/-- The selection comes before everything that the script has yet to see. -/
def Placed (x : World Snapshot) : Prop :=
  match x.pc with
  | .validating | .listing none => x.selected = []
  | .listing (some a) => ∀ i ∈ x.selected, i ≤ a
  | .rebuilding _ todo | .changing _ todo => Ahead x.selected todo
  | .finished | .raised => True

structure Sorted (cfg : Settings Snapshot) (x : World Snapshot) : Prop where
  unique : UniqueShares x.store
  descending : x.selected.Pairwise fun i j => j < i
  asked : ∀ i ∈ x.selected, ∀ j, cfg.args.shareId = some j → i = j
  rest : ∀ todo, x.pc.working = some todo →
    ∀ r ∈ todo.rest, ∀ j, cfg.args.shareId = some j → r.shareId = j
  placed : Placed x

theorem placed_working {x : World Snapshot} {todo : Todo Snapshot} (h : x.pc.working = some todo) :
    Placed x ↔ Ahead x.selected todo := by
  rw [Placed]
  cases hpc : x.pc with
  | rebuilding stage t =>
    rw [hpc] at h
    cases h
    exact Iff.rfl
  | changing stage t =>
    rw [hpc] at h
    cases h
    exact Iff.rfl
  | _ =>
    rw [hpc] at h
    cases h

/-- The page that a listing goes on with. -/
theorem page_ahead {s : Store Snapshot} (hs : UniqueShares s) (args : Args)
    (after : Option ShareId) {selected : List ShareId}
    (hplaced : ∀ i ∈ selected, ∃ a, after = some a ∧ i ≤ a) :
    Ahead selected ⟨((candidates s after args.shareId).take args.batchSize).filter
        SharedGuideRecord.publicReady,
      nextPage args after ((candidates s after args.shareId).take args.batchSize)⟩ := by
  have hascending := (candidates_ascending hs after args.shareId).sublist
    (List.take_sublist args.batchSize _)
  have hafter : ∀ r ∈ (candidates s after args.shareId).take args.batchSize,
      ∀ a, after = some a → a < r.shareId := fun r hr =>
    (mem_candidates.mp (List.mem_of_mem_take hr)).2.2.1
  generalize hp : (candidates s after args.shareId).take args.batchSize = page at hascending hafter
  have hlast : ∀ last, page.getLast? = some last → ∀ r ∈ page, r.shareId ≤ last.shareId := by
    intro last hl r hr
    obtain ⟨init, rfl⟩ := List.getLast?_eq_some_iff.mp hl
    obtain hr | hr := List.mem_append.mp hr
    · have hcross := (List.pairwise_append.mp hascending).2.2
      exact le_of_lt (hcross r hr last (List.mem_singleton_self last))
    · rw [List.mem_singleton.mp hr]
  refine ⟨hascending.sublist List.filter_sublist, ?_, ?_, ?_⟩
  · intro i hi r hr
    obtain ⟨a, ha, hia⟩ := hplaced i hi
    exact lt_of_le_of_lt hia (hafter r (List.mem_of_mem_filter hr) a ha)
  · intro a ha
    rw [nextPage] at ha
    split at ha
    · cases ha
    · split at ha
      · cases ha
      · rename_i last hl
        split at ha
        · cases ha
        · cases ha
          refine ⟨fun i hi => ?_, fun r hr => hlast last hl r (List.mem_of_mem_filter hr)⟩
          obtain ⟨b, hb, hib⟩ := hplaced i hi
          exact le_of_lt (lt_of_le_of_lt hib (hafter last (List.mem_of_getLast? hl) b hb))
  · intro hstuck
    rw [nextPage] at hstuck
    split at hstuck
    · cases hstuck
    · split at hstuck
      · cases hstuck
      · rename_i last hl
        split at hstuck
        · rename_i heq
          exact lt_irrefl _ (hafter last (List.mem_of_getLast? hl) _ heq)
        · cases hstuck

/-- A record that is yielded takes its place behind the selection. -/
theorem ahead_yielded {selected : List ShareId} {next : Next}
    {seen rest : List (SharedGuideRecord Snapshot)}
    (h : Ahead selected ⟨seen ++ rest, next⟩) :
    Ahead ((seen.map SharedGuideRecord.shareId).reverse ++ selected) ⟨rest, next⟩ := by
  obtain ⟨hseen, hrest, hcross⟩ := List.pairwise_append.mp h.ascending
  refine ⟨hrest, ?_, ?_, h.moving⟩
  · intro i hi r hr
    obtain hi | hi := List.mem_append.mp hi
    · obtain ⟨q, hq, rfl⟩ := List.mem_map.mp (List.mem_reverse.mp hi)
      exact hcross q hq r hr
    · exact h.beyond i hi r (List.mem_append_right seen hr)
  · intro a ha
    obtain ⟨hselected, hpage⟩ := h.passed a ha
    refine ⟨fun i hi => ?_, fun r hr => hpage r (List.mem_append_right seen hr)⟩
    obtain hi | hi := List.mem_append.mp hi
    · obtain ⟨q, hq, rfl⟩ := List.mem_map.mp (List.mem_reverse.mp hi)
      exact hpage q (List.mem_append_left rest hq)
    · exact hselected i hi

theorem descending_yielded {selected : List ShareId} {next : Next}
    {seen rest : List (SharedGuideRecord Snapshot)} (h : Ahead selected ⟨seen ++ rest, next⟩)
    (hd : selected.Pairwise fun i j => j < i) :
    ((seen.map SharedGuideRecord.shareId).reverse ++ selected).Pairwise fun i j => j < i := by
  refine List.pairwise_append.mpr ⟨?_, hd, ?_⟩
  · rw [List.pairwise_reverse, List.pairwise_map]
    exact (List.pairwise_append.mp h.ascending).1
  · intro i hi j hj
    obtain ⟨q, hq, rfl⟩ := List.mem_map.mp (List.mem_reverse.mp hi)
    exact h.beyond j hj q (List.mem_append_left rest hq)

theorem sorted_advance {cfg : Settings Snapshot} {x : World Snapshot} {next : Next}
    {rs : List (SharedGuideRecord Snapshot)} (hs : UniqueShares x.store)
    (hd : x.selected.Pairwise fun i j => j < i)
    (hi : ∀ i ∈ x.selected, ∀ j, cfg.args.shareId = some j → i = j)
    (hr : ∀ r ∈ rs, ∀ j, cfg.args.shareId = some j → r.shareId = j)
    (ha : Ahead x.selected ⟨rs, next⟩) : Sorted cfg (x.advance cfg next rs) := by
  obtain ⟨seen, todo, rfl, rfl, hselected, hpc⟩ := advance_spec cfg x next rs
  have hahead := ahead_yielded ha
  refine ⟨by rw [(advance_store cfg x _ _).1]; exact hs, ?_, ?_, ?_, ?_⟩
  · rw [hselected]
    exact descending_yielded ha hd
  · rw [hselected]
    intro i hmem
    obtain hmem | hmem := List.mem_append.mp hmem
    · obtain ⟨q, hq, rfl⟩ := List.mem_map.mp (List.mem_reverse.mp hmem)
      exact hr q (List.mem_append_left _ hq)
    · exact hi i hmem
  · intro t ht r hmem
    obtain ⟨-, hpc⟩ | hpc := hpc
    · rw [hpc] at ht
      cases htodo : todo.next with
      | _ =>
        rw [htodo] at ht
        cases ht
    · cases hpc.symm.trans ht
      exact hr r (List.mem_append_right _ hmem)
  · obtain ⟨hempty, hpc⟩ | hpc := hpc
    · rw [Placed, hpc]
      cases hnext : todo.next with
      | stop => trivial
      | stuck => trivial
      | page a =>
        rw [hnext] at hselected
        change ∀ i ∈ _, i ≤ a
        rw [hselected]
        exact (hahead.passed a hnext).1
    · rw [placed_working hpc, hselected]
      exact hahead

theorem sorted_turn {cfg : Settings Snapshot} {x y : World Snapshot} (h : Sorted cfg x)
    (hs : UniqueShares y.store) (ht : Turn cfg x y) : Sorted cfg y := by
  cases ht with
  | listed here =>
    have hplaced := h.placed
    rw [Placed, here] at hplaced
    exact ⟨h.unique, h.descending, h.asked, by rintro todo ⟨⟩, hplaced⟩
  | mismatched here => exact ⟨h.unique, h.descending, h.asked, by rintro todo ⟨⟩, trivial⟩
  | raised here => exact ⟨h.unique, h.descending, h.asked, by rintro todo ⟨⟩, trivial⟩
  | paged after here =>
    have hplaced := h.placed
    rw [Placed, here] at hplaced
    rw [World.listPage]
    split
    · exact ⟨h.unique, h.descending, h.asked, by rintro todo ⟨⟩, trivial⟩
    · rename_i page hpage
      cases listActivePublic_ok hpage
      refine sorted_advance h.unique h.descending h.asked ?_ (page_ahead h.unique cfg.args after ?_)
      · intro r hr
        exact (mem_candidates.mp (List.mem_of_mem_take (List.mem_of_mem_filter hr))).2.2.2
      · intro i hi
        cases after with
        | none =>
          rw [hplaced] at hi
          cases hi
        | some a => exact ⟨a, rfl, hplaced i hi⟩
  | worked todo _ here there report selected =>
    have hplaced := (placed_working here).mp h.placed
    refine ⟨hs, selected ▸ h.descending, selected ▸ h.asked, ?_, ?_⟩
    · intro t ht
      cases there.symm.trans ht
      exact h.rest todo here
    · rw [placed_working there, selected]
      exact hplaced
  | settled todo z f here how report selected =>
    have hplaced := (placed_working here).mp h.placed
    rw [World.resume, (advance_store cfg _ _ _).1, tell_store] at hs
    have hz : (z.tell f).selected = x.selected := selected
    exact sorted_advance hs (hz ▸ h.descending) (hz ▸ h.asked) (h.rest todo here) (hz ▸ hplaced)

theorem sorted_step {cfg : Settings Snapshot} {x y : World Snapshot} {label : Label Snapshot}
    (h : Sorted cfg x) (hstep : step cfg x label = some y) : Sorted cfg y := by
  have hs := step_unique h.unique hstep
  cases label with
  | script reply now drawn error => exact sorted_turn h hs (script_turn hstep)
  | _ =>
    obtain ⟨-, hselected, hpc, -⟩ := other_kept (by rintro _ _ _ _ ⟨⟩) hstep
    have hplaced := h.placed
    refine ⟨hs, hselected ▸ h.descending, hselected ▸ h.asked, hpc ▸ h.rest, ?_⟩
    rw [Placed, hpc, hselected]
    exact hplaced

/-- The share is public and ready. -/
def Shown (id : ShareId) (x : World Snapshot) : Prop :=
  ∃ r, x.store.share id = some r ∧ r.publicReady = true

/-- The share is selected, or still ahead of the script. -/
def Covered (id : ShareId) (x : World Snapshot) : Prop :=
  match x.pc with
  | .listing (some a) => id ∈ x.selected ∨ a < id
  | .rebuilding _ todo | .changing _ todo =>
    id ∈ x.selected ∨ (∃ r ∈ todo.rest, r.shareId = id) ∨ ∃ a, todo.next = .page a ∧ a < id
  | .finished => x.report.schemaMismatch = false → id ∈ x.selected
  | _ => True

theorem covered_working {id : ShareId} {x : World Snapshot} {todo : Todo Snapshot}
    (h : x.pc.working = some todo) :
    Covered id x ↔
      id ∈ x.selected ∨ (∃ r ∈ todo.rest, r.shareId = id) ∨ ∃ a, todo.next = .page a ∧ a < id := by
  rw [Covered]
  cases hpc : x.pc with
  | rebuilding stage t =>
    rw [hpc] at h
    cases h
    exact Iff.rfl
  | changing stage t =>
    rw [hpc] at h
    cases h
    exact Iff.rfl
  | _ =>
    rw [hpc] at h
    cases h

theorem covered_advance {cfg : Settings Snapshot} {x : World Snapshot} {next : Next}
    {rs : List (SharedGuideRecord Snapshot)} {id : ShareId}
    (h : id ∈ x.selected ∨ (∃ r ∈ rs, r.shareId = id) ∨ ∃ a, next = .page a ∧ a < id) :
    Covered id (x.advance cfg next rs) := by
  obtain ⟨seen, todo, rfl, rfl, hselected, hpc⟩ := advance_spec cfg x next rs
  have hnow : id ∈ (x.advance cfg todo.next (seen ++ todo.rest)).selected ∨
      (∃ r ∈ todo.rest, r.shareId = id) ∨ ∃ a, todo.next = .page a ∧ a < id := by
    rw [hselected]
    obtain h | ⟨r, hr, hid⟩ | h := h
    · exact Or.inl (List.mem_append_right _ h)
    · obtain hr | hr := List.mem_append.mp hr
      · exact Or.inl (List.mem_append_left _
          (List.mem_reverse.mpr (List.mem_map.mpr ⟨r, hr, hid⟩)))
      · exact Or.inr (Or.inl ⟨r, hr, hid⟩)
    · exact Or.inr (Or.inr h)
  obtain ⟨hempty, hpc⟩ | hpc := hpc
  · have hpast : id ∈ (x.advance cfg todo.next (seen ++ todo.rest)).selected ∨
        ∃ a, todo.next = .page a ∧ a < id := by
      obtain hnow | ⟨r, hr, -⟩ | hnow := hnow
      · exact Or.inl hnow
      · rw [hempty] at hr
        cases hr
      · exact Or.inr hnow
    generalize x.advance cfg todo.next (seen ++ todo.rest) = y at hpc hpast
    rw [Covered, hpc]
    cases hnext : todo.next with
    | stop =>
      obtain hpast | ⟨a, ha, -⟩ := hpast
      · exact fun _ => hpast
      · cases hnext.symm.trans ha
    | stuck => trivial
    | page a =>
      obtain hpast | ⟨b, hb, hlt⟩ := hpast
      · exact Or.inl hpast
      · cases hnext.symm.trans hb
        exact Or.inr hlt
  · exact (covered_working hpc).mpr hnow

/-- A share that is shown when the page is read is on it, or behind it. -/
theorem covered_page {s : Store Snapshot} (hs : UniqueShares s) (args : Args)
    {after : Option ShareId} {id : ShareId} (hafter : ∀ a, after = some a → a < id)
    (hasked : ∀ i, args.shareId = some i → id = i) {r : SharedGuideRecord Snapshot}
    (hr : s.share id = some r) (hready : r.publicReady = true) :
    (∃ q ∈ ((candidates s after args.shareId).take args.batchSize).filter
        SharedGuideRecord.publicReady, q.shareId = id) ∨
      ∃ a, nextPage args after ((candidates s after args.shareId).take args.batchSize) = .page a ∧
        a < id := by
  have hid := share_shareId hr
  have hmem : r ∈ candidates s after args.shareId := by
    refine mem_candidates.mpr ⟨(lookup_mem hr).1, hready, ?_, ?_⟩
    · rw [hid]
      exact hafter
    · rw [hid]
      exact hasked
  have hpage : ∀ q ∈ (candidates s after args.shareId).take args.batchSize,
      (∀ a, after = some a → a < q.shareId) ∧ ∀ i, args.shareId = some i → q.shareId = i :=
    fun q hq => (mem_candidates.mp (List.mem_of_mem_take hq)).2.2
  obtain hin | ⟨hfull, hlater⟩ :=
    mem_take_or_after (candidates_ascending hs after args.shareId) hmem args.batchSize
  · exact Or.inl ⟨r, List.mem_filter.mpr ⟨hin, hready⟩, hid⟩
  · -- the page is full and all on it is smaller, so a single share is not asked for
    right
    generalize (candidates s after args.shareId).take args.batchSize = page at hpage hfull hlater
    have hne : page ≠ [] := by
      rintro rfl
      exact absurd args.batchBounds.1 (by rw [← hfull]; exact Nat.not_succ_le_zero 0)
    have hlast := List.getLast_mem hne
    have hlt := hlater _ hlast
    have hmany : ¬(args.shareId.isSome ∨ page.length < args.batchSize) := by
      rintro (hsome | hshort)
      · obtain ⟨i, hi⟩ := Option.isSome_iff_exists.mp hsome
        rw [(hpage _ hlast).2 i hi, hid, hasked i hi] at hlt
        exact lt_irrefl i hlt
      · exact absurd hfull (Nat.ne_of_lt hshort)
    refine ⟨(page.getLast hne).shareId, ?_, hid ▸ hlt⟩
    rw [nextPage, if_neg hmany, List.getLast?_eq_getLast_of_ne_nil hne]
    refine if_neg ?_
    intro heq
    exact lt_irrefl _ ((hpage _ hlast).1 _ heq)

end TravelAgent.Reindex
