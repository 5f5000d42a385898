import Mathlib

namespace TravelAgent.Attempts

variable {α β ε : Type}

theorem bind_ok {x : Except ε α} {f : α → Except ε β} {b : β} (h : (x >>= f) = .ok b) :
    ∃ a, x = .ok a ∧ f a = .ok b := by
  cases x with
  | error e => cases h
  | ok a => exact ⟨a, rfl, h⟩

theorem bind_of_ok {x : Except ε α} {a : α} (h : x = .ok a) (f : α → Except ε β) :
    x >>= f = f a := by
  rw [h]
  rfl

theorem map_ok {x : Except ε α} {f : α → β} {b : β} (h : x.map f = .ok b) :
    ∃ a, x = .ok a ∧ f a = b := by
  cases x with
  | error e => cases h
  | ok a => exact ⟨a, rfl, Except.ok.inj h⟩

variable {f : α → Except ε β}

theorem mapM_cons_ok {x : α} {xs : List α} {ys : List β} (h : (x :: xs).mapM f = .ok ys) :
    ∃ y rest, f x = .ok y ∧ xs.mapM f = .ok rest ∧ ys = y :: rest := by
  rw [List.mapM_cons] at h
  obtain ⟨y, hy, h⟩ := bind_ok h
  obtain ⟨rest, hrest, h⟩ := bind_ok h
  exact ⟨y, rest, hy, hrest, (Except.ok.inj h).symm⟩

/-- Every result comes from an element. -/
theorem mapM_mem {xs : List α} {ys : List β} (h : xs.mapM f = .ok ys) {y : β} (hy : y ∈ ys) :
    ∃ x ∈ xs, f x = .ok y := by
  induction xs generalizing ys with
  | nil =>
    cases h
    cases hy
  | cons x xs ih =>
    obtain ⟨z, rest, hz, hrest, rfl⟩ := mapM_cons_ok h
    obtain rfl | hy := List.mem_cons.mp hy
    · exact ⟨x, List.mem_cons_self, hz⟩
    · obtain ⟨x', hx', hf⟩ := ih hrest hy
      exact ⟨x', List.mem_cons_of_mem x hx', hf⟩

/-- Every element has a result. -/
theorem mapM_each {xs : List α} {ys : List β} (h : xs.mapM f = .ok ys) {x : α} (hx : x ∈ xs) :
    ∃ y, f x = .ok y := by
  induction xs generalizing ys with
  | nil => cases hx
  | cons z xs ih =>
    obtain ⟨y, rest, hy, hrest, rfl⟩ := mapM_cons_ok h
    obtain rfl | hx := List.mem_cons.mp hx
    · exact ⟨y, hy⟩
    · exact ih hrest hx

/-- Element by element. -/
theorem mapM_pairs {xs : List α} {ys : List β} (h : xs.mapM f = .ok ys) :
    List.Forall₂ (fun x y => f x = .ok y) xs ys := by
  induction xs generalizing ys with
  | nil =>
    cases h
    exact List.Forall₂.nil
  | cons x xs ih =>
    obtain ⟨y, rest, hy, hrest, rfl⟩ := mapM_cons_ok h
    exact List.Forall₂.cons hy (ih hrest)

/-- What sets the elements apart sets their results apart. -/
theorem mapM_pairwise {S : α → α → Prop} {T : β → β → Prop}
    (hf : ∀ x y x' y', f x = .ok y → f x' = .ok y' → S x x' → T y y') {xs : List α} {ys : List β}
    (h : xs.mapM f = .ok ys) (hs : xs.Pairwise S) : ys.Pairwise T := by
  induction xs generalizing ys with
  | nil =>
    cases h
    exact List.Pairwise.nil
  | cons x xs ih =>
    obtain ⟨y, rest, hy, hrest, rfl⟩ := mapM_cons_ok h
    obtain ⟨hx, hxs⟩ := List.pairwise_cons.mp hs
    refine List.pairwise_cons.mpr ⟨?_, ih hrest hxs⟩
    intro y' hy'
    obtain ⟨x', hx', hf'⟩ := mapM_mem hrest hy'
    exact hf x y x' y' hy hf' (hx x' hx')

theorem mapM_append_ok {xs ys : List α} {zs : List β} (h : (xs ++ ys).mapM f = .ok zs) :
    ∃ us vs, xs.mapM f = .ok us ∧ ys.mapM f = .ok vs ∧ us ++ vs = zs := by
  rw [List.mapM_append] at h
  obtain ⟨us, hus, h⟩ := bind_ok h
  obtain ⟨vs, hvs, h⟩ := bind_ok h
  exact ⟨us, vs, hus, hvs, Except.ok.inj h⟩

/-- The results fall into the groups of the elements. -/
theorem mapM_flatten_ok {xss : List (List α)} {zs : List β} (h : xss.flatten.mapM f = .ok zs) :
    ∃ zss, zss.flatten = zs ∧ List.Forall₂ (fun xs ys => xs.mapM f = .ok ys) xss zss := by
  induction xss generalizing zs with
  | nil =>
    cases h
    exact ⟨[], rfl, List.Forall₂.nil⟩
  | cons xs xss ih =>
    obtain ⟨us, vs, hus, hvs, rfl⟩ := mapM_append_ok h
    obtain ⟨zss, rfl, hall⟩ := ih hvs
    exact ⟨us :: zss, rfl, List.Forall₂.cons hus hall⟩

theorem mapM_total (xs : List α) (h : ∀ x ∈ xs, ∃ y, f x = .ok y) : ∃ ys, xs.mapM f = .ok ys := by
  induction xs with
  | nil => exact ⟨[], rfl⟩
  | cons x xs ih =>
    obtain ⟨y, hy⟩ := h x List.mem_cons_self
    obtain ⟨ys, hys⟩ := ih fun z hz => h z (List.mem_cons_of_mem x hz)
    rw [List.mapM_cons, hy, hys]
    exact ⟨_, rfl⟩

theorem mapM_ok {g : α → β} {xs : List α} (h : ∀ x ∈ xs, f x = .ok (g x)) :
    xs.mapM f = .ok (xs.map g) := by
  induction xs with
  | nil => rfl
  | cons x xs ih =>
    rw [List.mapM_cons, h x List.mem_cons_self, ih fun y hy => h y (List.mem_cons_of_mem x hy)]
    rfl

theorem foldlM_ok {f : β → α → Except ε β} {g : β → α → β} (h : ∀ b x, f b x = .ok (g b x))
    (b : β) (xs : List α) : xs.foldlM f b = .ok (xs.foldl g b) := by
  induction xs generalizing b with
  | nil => rfl
  | cons x xs ih =>
    rw [List.foldlM_cons, bind_of_ok (h b x), ih]
    rfl

theorem mapM_error {xs : List α} {e : ε} (h : xs.mapM f = .error e) :
    ∃ x ∈ xs, f x = .error e := by
  induction xs with
  | nil => cases h
  | cons a xs ih =>
    rw [List.mapM_cons] at h
    cases ha : f a with
    | error e' =>
      rw [ha] at h
      cases h
      exact ⟨a, List.mem_cons_self, ha⟩
    | ok b =>
      rw [ha] at h
      cases hxs : xs.mapM f with
      | error e' =>
        rw [hxs] at h
        cases h
        obtain ⟨x, hx, hf⟩ := ih hxs
        exact ⟨x, List.mem_cons_of_mem a hx, hf⟩
      | ok bs =>
        rw [hxs] at h
        cases h

theorem mapM_cons_error {x : α} {xs : List α} {e : ε} (h : f x = .error e) :
    (x :: xs).mapM f = .error e := by
  rw [List.mapM_cons, h]
  rfl

theorem mapM_cons_of_ok {x : α} {xs : List α} {y : β} (h : f x = .ok y) :
    (x :: xs).mapM f = (xs.mapM f).map (y :: ·) := by
  rw [List.mapM_cons, h]
  cases xs.mapM f with
  | error e => rfl
  | ok ys => rfl

theorem map_injective {f : α → β} (hf : Function.Injective f) {x y : Except ε α} :
    x.map f = y.map f ↔ x = y := by
  refine ⟨?_, fun h => congrArg _ h⟩
  intro h
  cases x with
  | error e =>
    cases y with
    | error e' => exact congrArg _ (Except.error.inj h)
    | ok b => cases h
  | ok a =>
    cases y with
    | error e' => cases h
    | ok b => exact congrArg _ (hf (Except.ok.inj h))

variable {γ : Type}

/-- Two attempts that fail with the same errors. -/
def FailAlike (x : Except ε β) (y : Except ε γ) : Prop := ∀ e, x = .error e ↔ y = .error e

theorem failAlike_cases {x : Except ε β} {y : Except ε γ} (h : FailAlike x y) :
    (∃ e, x = .error e ∧ y = .error e) ∨ ∃ b c, x = .ok b ∧ y = .ok c := by
  cases x with
  | error e => exact Or.inl ⟨e, rfl, (h e).mp rfl⟩
  | ok b =>
    cases y with
    | error e => cases (h e).mpr rfl
    | ok c => exact Or.inr ⟨b, c, rfl, rfl⟩

theorem failAlike_map (x : Except ε β) (f : β → γ) : FailAlike (x.map f) x := by
  cases x with
  | error e =>
    intro e'
    simp only [Except.map, Except.error.injEq]
  | ok b => exact fun e => ⟨nofun, nofun⟩

variable {g : α → Except ε γ}

theorem mapM_failAlike {xs : List α} (h : ∀ x ∈ xs, FailAlike (f x) (g x)) :
    FailAlike (xs.mapM f) (xs.mapM g) := by
  induction xs with
  | nil => exact fun e => ⟨nofun, nofun⟩
  | cons x xs ih =>
    have ih := ih fun y hy => h y (List.mem_cons_of_mem x hy)
    obtain ⟨e, hf, hg⟩ | ⟨b, c, hf, hg⟩ := failAlike_cases (h x List.mem_cons_self)
    · intro e'
      rw [mapM_cons_error hf, mapM_cons_error hg]
      simp only [Except.error.injEq]
    · intro e'
      rw [mapM_cons_of_ok hf, mapM_cons_of_ok hg, failAlike_map, failAlike_map, ih]

/-- Where two pairs of attempts fail alike and agree on each pair of inputs, they agree on
lists of inputs. -/
theorem mapM_agree {α' : Type} {f' : α' → Except ε β} {g' : α' → Except ε γ} {xs : List α}
    {ys : List α'} (hf : ∀ x ∈ xs, FailAlike (f x) (g x)) (hg : ∀ y ∈ ys, FailAlike (f' y) (g' y))
    (h : List.Forall₂ (fun x y => f x = f' y ↔ g x = g' y) xs ys) :
    xs.mapM f = ys.mapM f' ↔ xs.mapM g = ys.mapM g' := by
  induction h with
  | nil => exact ⟨fun _ => rfl, fun _ => rfl⟩
  | @cons x y xs ys h _ ih =>
    have hxs : ∀ z ∈ xs, FailAlike (f z) (g z) := fun z hz => hf z (List.mem_cons_of_mem x hz)
    have hys : ∀ z ∈ ys, FailAlike (f' z) (g' z) := fun z hz => hg z (List.mem_cons_of_mem y hz)
    obtain ⟨e, hfx, hgx⟩ | ⟨b, c, hfx, hgx⟩ := failAlike_cases (hf x List.mem_cons_self)
    · rw [mapM_cons_error hfx, mapM_cons_error hgx]
      exact eq_comm.trans ((mapM_failAlike hg e).trans eq_comm)
    · obtain ⟨e, hfy, hgy⟩ | ⟨b', c', hfy, hgy⟩ := failAlike_cases (hg y List.mem_cons_self)
      · rw [mapM_cons_error hfy, mapM_cons_error hgy]
        exact mapM_failAlike hf e
      · rw [hfx, hfy, hgx, hgy, Except.ok.injEq, Except.ok.injEq] at h
        rw [mapM_cons_of_ok hfx, mapM_cons_of_ok hgx, mapM_cons_of_ok hfy, mapM_cons_of_ok hgy]
        obtain ⟨e, hu, hv⟩ | ⟨bs, cs, hu, hv⟩ := failAlike_cases (mapM_failAlike hxs)
        · have hside := mapM_failAlike hys e
          rw [hu, hv]
          constructor
          · intro heq
            rw [(failAlike_map _ _ e).mpr (hside.mp ((failAlike_map _ _ e).mp heq.symm))]
            rfl
          · intro heq
            rw [(failAlike_map _ _ e).mpr (hside.mpr ((failAlike_map _ _ e).mp heq.symm))]
            rfl
        · have ih := ih hxs hys
          rw [hu, hv] at ih ⊢
          obtain ⟨e, hu', hv'⟩ | ⟨bs', cs', hu', hv'⟩ := failAlike_cases (mapM_failAlike hys)
          · rw [hu', hv']
            exact ⟨nofun, nofun⟩
          · rw [hu', hv', Except.ok.injEq, Except.ok.injEq] at ih
            rw [hu', hv']
            simp only [Except.map, Except.ok.injEq, List.cons.injEq, h, ih]

end TravelAgent.Attempts
