import Mathlib.Tactic

/-! Deterministic machines that answer every input, and the histories of their runs. -/

namespace Transducer

variable {σ ι ο : Type}

structure Entry (σ ι ο : Type) where
  before : σ
  input : ι
  output : ο

variable (step : σ → ι → ο × σ)

def run : σ → List ι → σ
  | s, [] => s
  | s, i :: is => run (step s i).2 is

def history : σ → List ι → List (Entry σ ι ο)
  | _, [] => []
  | s, i :: is => ⟨s, i, (step s i).1⟩ :: history (step s i).2 is

def outputs (s : σ) (is : List ι) : List ο := (history step s is).map Entry.output

@[simp] lemma run_nil (s : σ) : run step s [] = s := rfl

@[simp] lemma run_cons (s : σ) (i : ι) (is : List ι) :
    run step s (i :: is) = run step (step s i).2 is := rfl

@[simp] lemma history_nil (s : σ) : history step s [] = [] := rfl

@[simp] lemma history_cons (s : σ) (i : ι) (is : List ι) :
    history step s (i :: is) = ⟨s, i, (step s i).1⟩ :: history step (step s i).2 is := rfl

@[simp] lemma outputs_nil (s : σ) : outputs step s [] = [] := rfl

@[simp] lemma outputs_cons (s : σ) (i : ι) (is : List ι) :
    outputs step s (i :: is) = (step s i).1 :: outputs step (step s i).2 is := rfl

lemma run_append (s : σ) (is js : List ι) :
    run step s (is ++ js) = run step (run step s is) js := by
  induction is generalizing s with
  | nil => rfl
  | cons i is ih => exact ih _

lemma history_append (s : σ) (is js : List ι) :
    history step s (is ++ js) = history step s is ++ history step (run step s is) js := by
  induction is generalizing s with
  | nil => rfl
  | cons i is ih => simp [ih]

lemma outputs_append (s : σ) (is js : List ι) :
    outputs step s (is ++ js) = outputs step s is ++ outputs step (run step s is) js := by
  simp [outputs, history_append]

lemma history_split {s : σ} {is : List ι} {h₁ h₂ : List (Entry σ ι ο)} {e : Entry σ ι ο}
    (h : history step s is = h₁ ++ e :: h₂) :
    ∃ js j ks, is = js ++ j :: ks ∧ h₁ = history step s js ∧
      e = ⟨run step s js, j, (step (run step s js) j).1⟩ := by
  induction h₁ generalizing s is with
  | nil =>
    cases is with
    | nil => simp at h
    | cons i is =>
      simp only [history_cons, List.nil_append, List.cons.injEq] at h
      exact ⟨[], i, is, rfl, rfl, h.1.symm⟩
  | cons x h₁ ih =>
    cases is with
    | nil => simp at h
    | cons i is =>
      simp only [history_cons, List.cons_append, List.cons.injEq] at h
      obtain ⟨js, j, ks, rfl, hh, he⟩ := ih h.2
      exact ⟨i :: js, j, ks, rfl, by rw [history_cons, ← hh, ← h.1], he⟩

lemma history_invariant {Inv : List (Entry σ ι ο) → σ → Prop}
    (hstep : ∀ h s i, Inv h s → Inv (h ++ [⟨s, i, (step s i).1⟩]) (step s i).2)
    {s : σ} (h₀ : Inv [] s) (is : List ι) : Inv (history step s is) (run step s is) := by
  have hgen : ∀ (h : List (Entry σ ι ο)) (s : σ), Inv h s →
      Inv (h ++ history step s is) (run step s is) := by
    induction is with
    | nil => intro h s hs; simpa using hs
    | cons i is ih =>
      intro h s hs
      have hnext := ih _ _ (hstep h s i hs)
      simpa [List.append_assoc] using hnext
  simpa using hgen [] s h₀

section Insertions

variable {τ κ : Type} (own : τ → Bool) (Quiet : τ → ο → Prop)

def kept (is : List (τ × ι)) : List ι := (is.filter fun i => own i.1).map Prod.snd

/-- The inputs that are not `own` leave the state alone where they come, with a quiet output. -/
def Inert : σ → List (τ × ι) → Prop
  | _, [] => True
  | s, i :: is =>
    if own i.1 then Inert (step s i.2).2 is
    else (step s i.2).2 = s ∧ Quiet i.1 (step s i.2).1 ∧ Inert s is

variable {step own Quiet} {s : σ} {i : τ × ι} {is : List (τ × ι)}

lemma kept_own (h : own i.1 = true) : kept own (i :: is) = i.2 :: kept own is := by
  simp [kept, h]

lemma kept_inserted (h : own i.1 = false) : kept own (i :: is) = kept own is := by
  simp [kept, h]

lemma Inert.run_eq (h : Inert step own Quiet s is) :
    run step s (is.map Prod.snd) = run step s (kept own is) := by
  induction is generalizing s with
  | nil => rfl
  | cons i is ih =>
    rw [Inert] at h
    rw [List.map_cons, run_cons]
    cases ho : own i.1 with
    | true =>
      rw [if_pos ho] at h
      rw [ih h, kept_own ho, run_cons]
    | false =>
      rw [if_neg (by simp [ho])] at h
      obtain ⟨hs, -, hrest⟩ := h
      rw [hs, ih hrest, kept_inserted ho]

lemma Inert.outputs_eq (h : Inert step own Quiet s is) :
    ((is.zip (outputs step s (is.map Prod.snd))).filter fun x => own x.1.1).map Prod.snd =
      outputs step s (kept own is) := by
  induction is generalizing s with
  | nil => rfl
  | cons i is ih =>
    rw [Inert] at h
    rw [List.map_cons, outputs_cons, List.zip_cons_cons]
    cases ho : own i.1 with
    | true =>
      rw [if_pos ho] at h
      rw [List.filter_cons_of_pos (by simpa using ho), List.map_cons, ih h, kept_own ho, outputs_cons]
    | false =>
      rw [if_neg (by simp [ho])] at h
      obtain ⟨hs, -, hrest⟩ := h
      rw [List.filter_cons_of_neg (by simp [ho]), hs, ih hrest, kept_inserted ho]

lemma Inert.quiet (h : Inert step own Quiet s is) :
    ∀ x ∈ is.zip (outputs step s (is.map Prod.snd)), own x.1.1 = false → Quiet x.1.1 x.2 := by
  induction is generalizing s with
  | nil => simp
  | cons i is ih =>
    intro x hx hown
    rw [Inert] at h
    rw [List.map_cons, outputs_cons, List.zip_cons_cons, List.mem_cons] at hx
    cases ho : own i.1 with
    | true =>
      rw [if_pos ho] at h
      cases hx with
      | inl hx =>
        rw [hx, ho] at hown
        exact absurd hown (by simp)
      | inr hx => exact ih h x hx hown
    | false =>
      rw [if_neg (by simp [ho])] at h
      obtain ⟨hs, hq, hrest⟩ := h
      cases hx with
      | inl hx =>
        rw [hx]
        exact hq
      | inr hx =>
        rw [hs] at hx
        exact ih hrest x hx hown

lemma Inert.flatMap_eq {f : ο → List κ} (hf : ∀ o out, Quiet o out → f out = [])
    (h : Inert step own Quiet s is) :
    (outputs step s (is.map Prod.snd)).flatMap f = (outputs step s (kept own is)).flatMap f := by
  induction is generalizing s with
  | nil => rfl
  | cons i is ih =>
    rw [Inert] at h
    rw [List.map_cons, outputs_cons, List.flatMap_cons]
    cases ho : own i.1 with
    | true =>
      rw [if_pos ho] at h
      rw [ih h, kept_own ho, outputs_cons, List.flatMap_cons]
    | false =>
      rw [if_neg (by simp [ho])] at h
      obtain ⟨hs, hq, hrest⟩ := h
      rw [hs, ih hrest, hf _ _ hq, kept_inserted ho, List.nil_append]

end Insertions

end Transducer
