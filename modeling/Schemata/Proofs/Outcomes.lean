/-!
# Outcomes

How a sequence of attempts ends: well only if every attempt does.

    x >>= f = .ok b ↔ ∃ a, x = .ok a ∧ f a = .ok b                        (bind_eq_ok_iff)
    x >>= f = .error e ↔ x = .error e ∨ ∃ a, x = .ok a ∧ f a = .error e   (bind_eq_error_iff)
    what every attempt of a fold keeps holds in the end                   (foldlM_ok)
    a fold fails with the failure of one of its attempts                  (foldlM_error)
    a fold ends well only if every one of its attempts does               (foldlM_ok_of_mem)
    folds whose attempts are the same end in the same way                 (foldlM_congr)
    what ends well in a fold ends so in another one, attempt by attempt   (foldlM_ok_imp)
    attempts that all end well end well together                          (mapM_ok)
    attempts end alike in either order                                    (EndsAlike.symm)
    attempts that end alike and go on alike end alike                     (EndsAlike.bind)
-/

namespace Schemata

variable {ε α β : Type}

/-- Two attempts end alike: both with the same failure, or both well, with results that are
related. -/
inductive EndsAlike (related : α → β → Prop) : Except ε α → Except ε β → Prop
  | failed (e : ε) : EndsAlike related (.error e) (.error e)
  | ended {a : α} {b : β} (h : related a b) : EndsAlike related (.ok a) (.ok b)

@[simp] theorem ok_bind (a : α) (f : α → Except ε β) : (Except.ok a >>= f) = f a := rfl

@[simp] theorem error_bind (e : ε) (f : α → Except ε β) :
    ((Except.error e : Except ε α) >>= f) = .error e := rfl

@[simp] theorem pure_eq_ok (a : α) : (pure a : Except ε α) = .ok a := rfl

theorem bind_eq_ok_iff {x : Except ε α} {f : α → Except ε β} {b : β} :
    (x >>= f) = .ok b ↔ ∃ a, x = .ok a ∧ f a = .ok b := by
  cases x with
  | error e => simp
  | ok a => simp

theorem bind_eq_error_iff {x : Except ε α} {f : α → Except ε β} {e : ε} :
    (x >>= f) = .error e ↔ x = .error e ∨ ∃ a, x = .ok a ∧ f a = .error e := by
  cases x with
  | error e => simp
  | ok a => simp

theorem map_eq_error_iff {x : Except ε α} {f : α → β} {e : ε} :
    x.map f = .error e ↔ x = .error e := by
  cases x with
  | error e => simp [Except.map]
  | ok a => simp [Except.map]

theorem map_eq_ok_iff {x : Except ε α} {f : α → β} {b : β} :
    x.map f = .ok b ↔ ∃ a, x = .ok a ∧ f a = b := by
  cases x with
  | error e => simp [Except.map]
  | ok a => simp [Except.map]

theorem toOption_eq_some_iff {x : Except ε α} {a : α} : x.toOption = some a ↔ x = .ok a := by
  cases x with
  | error e => simp [Except.toOption]
  | ok a => simp [Except.toOption]

theorem foldlM_ok {f : β → α → Except ε β} {P : β → Prop} {attempts : List α}
    (hstep : ∀ b a b', P b → f b a = .ok b' → P b') {start result : β} (hstart : P start)
    (h : attempts.foldlM f start = .ok result) : P result := by
  induction attempts generalizing start with
  | nil => cases h; exact hstart
  | cons attempt attempts ih =>
    rw [List.foldlM_cons] at h
    obtain ⟨middle, hfirst, hrest⟩ := bind_eq_ok_iff.1 h
    exact ih (hstep start attempt middle hstart hfirst) hrest

theorem foldlM_error {f : β → α → Except ε β} {attempts : List α} {start : β} {e : ε}
    (h : attempts.foldlM f start = .error e) : ∃ attempt ∈ attempts, ∃ b, f b attempt = .error e := by
  induction attempts generalizing start with
  | nil => cases h
  | cons attempt attempts ih =>
    rw [List.foldlM_cons] at h
    cases hfirst : f start attempt with
    | error failure =>
      rw [hfirst] at h
      cases h
      exact ⟨attempt, List.mem_cons_self, start, hfirst⟩
    | ok middle =>
      rw [hfirst, ok_bind] at h
      obtain ⟨other, hmem, b, hother⟩ := ih h
      exact ⟨other, List.mem_cons_of_mem attempt hmem, b, hother⟩

theorem foldlM_ok_of_mem {f : β → α → Except ε β} {attempts : List α} {start result : β}
    (h : attempts.foldlM f start = .ok result) {attempt : α} (hmem : attempt ∈ attempts) :
    ∃ b b', f b attempt = .ok b' := by
  induction attempts generalizing start with
  | nil => cases hmem
  | cons first attempts ih =>
    rw [List.foldlM_cons] at h
    obtain ⟨middle, hfirst, hrest⟩ := bind_eq_ok_iff.1 h
    rcases List.mem_cons.1 hmem with rfl | hmem
    · exact ⟨start, middle, hfirst⟩
    · exact ih hrest hmem

theorem foldlM_congr {f g : β → α → Except ε β} {attempts : List α}
    (h : ∀ attempt ∈ attempts, ∀ b, f b attempt = g b attempt) (start : β) :
    attempts.foldlM f start = attempts.foldlM g start := by
  induction attempts generalizing start with
  | nil => rfl
  | cons attempt attempts ih =>
    rw [List.foldlM_cons, List.foldlM_cons, h attempt List.mem_cons_self]
    cases g start attempt with
    | error failure => rfl
    | ok middle => exact ih (fun other hmem => h other (List.mem_cons_of_mem attempt hmem)) middle

theorem foldlM_ok_imp {f g : β → α → Except ε β} {attempts : List α}
    (hstep : ∀ attempt ∈ attempts, ∀ b b', f b attempt = .ok b' → g b attempt = .ok b')
    {start result : β} (h : attempts.foldlM f start = .ok result) :
    attempts.foldlM g start = .ok result := by
  induction attempts generalizing start with
  | nil => exact h
  | cons attempt attempts ih =>
    rw [List.foldlM_cons] at h ⊢
    obtain ⟨middle, hfirst, hrest⟩ := bind_eq_ok_iff.1 h
    rw [hstep attempt List.mem_cons_self start middle hfirst, ok_bind]
    exact ih (fun other hmem => hstep other (List.mem_cons_of_mem attempt hmem)) hrest

theorem mapM_ok {f : α → Except ε β} {P : β → Prop} {attempts : List α}
    (h : ∀ attempt ∈ attempts, ∃ b, f attempt = .ok b ∧ P b) :
    ∃ results, attempts.mapM f = .ok results ∧ ∀ b ∈ results, P b := by
  induction attempts with
  | nil => exact ⟨[], rfl, List.forall_mem_nil _⟩
  | cons attempt attempts ih =>
    obtain ⟨b, hfirst, hb⟩ := h attempt List.mem_cons_self
    obtain ⟨results, hrest, hresults⟩ := ih fun other hmem => h other (List.mem_cons_of_mem _ hmem)
    refine ⟨b :: results, ?_, List.forall_mem_cons.2 ⟨hb, hresults⟩⟩
    rw [List.mapM_cons, hfirst, ok_bind, hrest]
    rfl

theorem EndsAlike.refl {related : α → α → Prop} (h : ∀ a, related a a) (x : Except ε α) :
    EndsAlike related x x := by
  cases x with
  | error e => exact .failed e
  | ok a => exact .ended (h a)

theorem EndsAlike.symm {related : α → β → Prop} {related' : β → α → Prop} {x : Except ε α}
    {y : Except ε β} (h : EndsAlike related x y) (hswap : ∀ a b, related a b → related' b a) :
    EndsAlike related' y x := by
  cases h with
  | failed e => exact .failed e
  | ended hrelated => exact .ended (hswap _ _ hrelated)

/-- Attempts that end alike, with attempts behind them that do so for related results. -/
theorem EndsAlike.bind {γ δ : Type} {related : α → β → Prop} {related' : γ → δ → Prop}
    {x : Except ε α} {y : Except ε β} {f : α → Except ε γ} {g : β → Except ε δ}
    (h : EndsAlike related x y) (hnext : ∀ a b, related a b → EndsAlike related' (f a) (g b)) :
    EndsAlike related' (x.bind f) (y.bind g) := by
  cases h with
  | failed e => exact .failed e
  | ended hrelated => exact hnext _ _ hrelated

end Schemata
