import LoraNetworking.Lib.Prog

/-! Two programs that run in step, each over states of its own. -/

namespace StateProg

variable {σ τ α β γ δ : Type}

/-- Both runs return, and `post` relates what they return, or both stop early in the same way. -/
inductive Lockstep (post : α → σ → β → τ → Prop) : Except Stop (α × σ) → Except Stop (β × τ) → Prop
  | done {a s b t} (h : post a s b t) : Lockstep post (.ok (a, s)) (.ok (b, t))
  | stopped (e : Stop) : Lockstep post (.error e) (.error e)

namespace Lockstep

variable {post : α → σ → β → τ → Prop} {post' : γ → σ → δ → τ → Prop} {x : Prog σ α} {y : Prog τ β}
  {f : α → Prog σ γ} {g : β → Prog τ δ} {s s' : σ} {t t' : τ} {a : α} {b : β}

lemma bind (hx : Lockstep post (x s) (y t))
    (hf : ∀ a s b t, post a s b t → Lockstep post' (f a s) (g b t)) :
    Lockstep post' ((x >>= f) s) ((y >>= g) t) := by
  rw [Prog.bind_apply, Prog.bind_apply]
  generalize x s = r at hx ⊢
  generalize y t = r' at hx ⊢
  cases hx with
  | done h => exact hf _ _ _ _ h
  | stopped e => exact stopped e

lemma left {r : Except Stop (δ × τ)} (hx : x s = .ok (a, s')) (hf : Lockstep post' (f a s') r) :
    Lockstep post' ((x >>= f) s) r := by
  rwa [Prog.bind_of_ok hx]

lemma right {r : Except Stop (γ × σ)} (hy : y t = .ok (b, t')) (hg : Lockstep post' r (g b t')) :
    Lockstep post' r ((y >>= g) t) := by
  rwa [Prog.bind_of_ok hy]

lemma mono {r : Except Stop (α × σ)} {r' : Except Stop (β × τ)} {post₂ : α → σ → β → τ → Prop}
    (h : Lockstep post r r') (himp : ∀ a s b t, post a s b t → post₂ a s b t) : Lockstep post₂ r r' := by
  cases h with
  | done h => exact done (himp _ _ _ _ h)
  | stopped e => exact stopped e

lemma ran {r : Except Stop (α × σ)} {r' : Except Stop (β × τ)} (h : Lockstep post r r') :
    Lockstep (fun a s b t => post a s b t ∧ r' = .ok (b, t)) r r' := by
  cases h with
  | done h => exact done ⟨h, rfl⟩
  | stopped e => exact stopped e

lemma of_ok {r : Except Stop (α × σ)} {r' : Except Stop (β × τ)} (h : Lockstep post r r') (hr : r = .ok (a, s)) :
    ∃ b t, r' = .ok (b, t) ∧ post a s b t := by
  subst hr
  cases h with
  | done h => exact ⟨_, _, rfl, h⟩

lemma ite {c : Prop} [Decidable c] {x' : Prog σ α} {y' : Prog τ β} (hx : c → Lockstep post (x s) (y t))
    (hy : ¬ c → Lockstep post (x' s) (y' t)) :
    Lockstep post ((if c then x else x') s) ((if c then y else y') t) := by
  split_ifs with hc
  · exact hx hc
  · exact hy hc

lemma zoomed {υ : Type} {get : υ → σ} {put : σ → υ → υ} {u : υ} {r : Except Stop (β × τ)}
    (h : Lockstep post (x (get u)) r) :
    Lockstep (fun a u' b t => ∃ s, post a s b t ∧ u' = put s u) (Prog.zoom get put x u) r := by
  rw [Prog.zoom]
  generalize x (get u) = r' at h ⊢
  cases h with
  | done h => exact done ⟨_, h, rfl⟩
  | stopped e => exact stopped e

lemma refl (r : Except Stop (α × σ)) : Lockstep (fun a s b t => a = b ∧ s = t) r r := by
  cases r with
  | error e => exact stopped e
  | ok r => exact done ⟨rfl, rfl⟩

end Lockstep

/-- From related states the two programs return the same, and end in related states. -/
def Agree (R : σ → τ → Prop) (x : Prog σ α) (y : Prog τ α) : Prop :=
  ∀ s t, R s t → Lockstep (fun a s b t => a = b ∧ R s t) (x s) (y t)

namespace Agree

variable {R : σ → τ → Prop} {x : Prog σ α} {y : Prog τ α} {f : α → Prog σ β} {g : α → Prog τ β}

lemma pure (a : α) : Agree R (Pure.pure a) (Pure.pure a) := fun _ _ h => .done ⟨rfl, h⟩

lemma stop (e : Stop) : Agree R (Prog.stop e : Prog σ α) (Prog.stop e) := fun _ _ _ => .stopped e

lemma ofExcept (r : Except Stop α) : Agree R (Prog.ofExcept r) (Prog.ofExcept r) := by
  cases r with
  | ok a => exact pure a
  | error e => exact stop e

lemma step {p : σ → α × σ} {q : τ → α × τ} (h : ∀ s t, R s t → (p s).1 = (q t).1 ∧ R (p s).2 (q t).2) :
    Agree R (Prog.step p) (Prog.step q) := fun s t hR => .done (h s t hR)

lemma update {p : σ → σ} {q : τ → τ} (h : ∀ s t, R s t → R (p s) (q t)) :
    Agree R (Prog.update p) (Prog.update q) := fun s t hR => .done ⟨rfl, h s t hR⟩

lemma bind (hx : Agree R x y) (hf : ∀ a, Agree R (f a) (g a)) : Agree R (x >>= f) (y >>= g) := by
  intro s t hR
  apply (hx s t hR).bind
  rintro a s' b t' ⟨rfl, hR'⟩
  exact hf a s' t' hR'

lemma read {k : σ → Prog σ α} {l : τ → Prog τ α} (h : ∀ s t, R s t → Agree R (k s) (l t)) :
    Agree R (Prog.read >>= k) (Prog.read >>= l) := fun s t hR => h s t hR s t hR

lemma ite {c : Prop} [Decidable c] {x' : Prog σ α} {y' : Prog τ α} (hx : c → Agree R x y)
    (hy : ¬ c → Agree R x' y') : Agree R (if c then x else x') (if c then y else y') := by
  split_ifs with hc
  · exact hx hc
  · exact hy hc

lemma forLoop {p : ℕ → α → Prog σ α} {q : ℕ → α → Prog τ α} (h : ∀ i a, Agree R (p i a) (q i a)) (rounds i : ℕ)
    (a : α) : Agree R (Prog.forLoop p rounds i a) (Prog.forLoop q rounds i a) := by
  induction rounds generalizing i a with
  | zero => exact pure a
  | succ rounds ih => exact (h i a).bind fun b => ih (i + 1) b

lemma zoom {σ' τ' : Type} {get : σ' → σ} {put : σ → σ' → σ'} {get' : τ' → τ} {put' : τ → τ' → τ'}
    {S : σ' → τ' → Prop} (hget : ∀ s t, S s t → R (get s) (get' t))
    (hput : ∀ s t s' t', S s t → R s' t' → S (put s' s) (put' t' t)) (h : Agree R x y) :
    Agree S (x.zoom get put) (y.zoom get' put') := by
  intro s t hS
  have hrun := h (get s) (get' t) (hget s t hS)
  rw [Prog.zoom, Prog.zoom]
  generalize x (get s) = r at hrun ⊢
  generalize y (get' t) = r' at hrun ⊢
  cases hrun with
  | done hdone => exact .done ⟨hdone.1, hput _ _ _ _ hS hdone.2⟩
  | stopped e => exact .stopped e

end Agree

end StateProg
