import Mathlib.Tactic

/-! Sequential programs over an explicit state. A run either returns a value and a
state, or stops early: it is still inside a loop, or it left defined behaviour. -/

namespace StateProg

inductive Stop
  | running
  | undefined
  deriving DecidableEq, Repr

def Prog (σ α : Type) : Type := σ → Except Stop (α × σ)

variable {σ τ α β : Type}

instance : Monad (Prog σ) where
  pure a := fun s => .ok (a, s)
  bind x f := fun s =>
    match x s with
    | .ok (a, s') => f a s'
    | .error e => .error e

namespace Prog

def read : Prog σ σ := fun s => .ok (s, s)

def update (f : σ → σ) : Prog σ Unit := fun s => .ok ((), f s)

def step (f : σ → α × σ) : Prog σ α := fun s => .ok (f s)

def stop (e : Stop) : Prog σ α := fun _ => .error e

def ofExcept : Except Stop α → Prog σ α
  | .ok a => pure a
  | .error e => stop e

def zoom (get : τ → σ) (put : σ → τ → τ) (x : Prog σ α) : Prog τ α := fun t =>
  match x (get t) with
  | .ok (a, s) => .ok (a, put s t)
  | .error e => .error e

def forLoop (body : ℕ → α → Prog σ α) : ℕ → ℕ → α → Prog σ α
  | 0, _, a => pure a
  | rounds + 1, i, a => do
    let a ← body i a
    forLoop body rounds (i + 1) a

lemma forLoop_zero (body : ℕ → α → Prog σ α) (i : ℕ) (a : α) : forLoop body 0 i a = pure a := rfl

lemma forLoop_succ (body : ℕ → α → Prog σ α) (rounds i : ℕ) (a : α) :
    forLoop body (rounds + 1) i a = body i a >>= fun a => forLoop body rounds (i + 1) a := rfl

@[simp] lemma pure_apply (a : α) (s : σ) : (pure a : Prog σ α) s = .ok (a, s) := rfl

@[simp] lemma read_apply (s : σ) : (read : Prog σ σ) s = .ok (s, s) := rfl

@[simp] lemma update_apply (f : σ → σ) (s : σ) : update f s = .ok ((), f s) := rfl

@[simp] lemma step_apply (f : σ → α × σ) (s : σ) : step f s = .ok (f s) := rfl

@[simp] lemma stop_apply (e : Stop) (s : σ) : (stop e : Prog σ α) s = .error e := rfl

@[simp] lemma ofExcept_ok (a : α) (s : σ) : (ofExcept (.ok a) : Prog σ α) s = .ok (a, s) := rfl

@[simp] lemma ofExcept_error (e : Stop) (s : σ) : (ofExcept (.error e) : Prog σ α) s = .error e := rfl

lemma bind_apply (x : Prog σ α) (f : α → Prog σ β) (s : σ) :
    (x >>= f) s = match x s with
      | .ok (a, s') => f a s'
      | .error e => .error e := rfl

lemma bind_of_ok {x : Prog σ α} {f : α → Prog σ β} {s s' : σ} {a : α} (h : x s = .ok (a, s')) :
    (x >>= f) s = f a s' := by
  rw [bind_apply, h]

lemma bind_ok {x : Prog σ α} {f : α → Prog σ β} {s t : σ} {b : β} :
    (x >>= f) s = .ok (b, t) ↔ ∃ a s', x s = .ok (a, s') ∧ f a s' = .ok (b, t) := by
  rw [bind_apply]
  cases x s with
  | error e => simp
  | ok r =>
    obtain ⟨a, s'⟩ := r
    simp

lemma checked_ok [DecidableEq α] {ok : α} {x rest : Prog σ α} {s t : σ} {a : α} :
    (x >>= fun r => if r ≠ ok then pure r else rest) s = .ok (a, t) ↔
      (x s = .ok (a, t) ∧ a ≠ ok) ∨ ∃ s', x s = .ok (ok, s') ∧ rest s' = .ok (a, t) := by
  rw [bind_ok]
  constructor
  · rintro ⟨r, s', hx, hrest⟩
    split_ifs at hrest with hr
    · obtain ⟨rfl, rfl⟩ : r = a ∧ s' = t := by simpa using hrest
      exact Or.inl ⟨hx, hr⟩
    · obtain rfl := not_not.mp hr
      exact Or.inr ⟨s', hx, hrest⟩
  · rintro (⟨hx, ha⟩ | ⟨s', hx, hrest⟩)
    · exact ⟨a, t, hx, by simp [ha]⟩
    · exact ⟨ok, s', hx, by simpa using hrest⟩

lemma zoom_ok {get : τ → σ} {put : σ → τ → τ} {x : Prog σ α} {t t' : τ} {a : α} :
    zoom get put x t = .ok (a, t') ↔ ∃ s, x (get t) = .ok (a, s) ∧ t' = put s t := by
  simp only [zoom]
  cases x (get t) with
  | error e => simp
  | ok r => simp [Prod.ext_iff, eq_comm, and_comm]

-- A closed run is evaluated only as far as `P` looks: the states need no decidable equality.
lemma returns {x : Prog σ α} {s : σ} (P : α → σ → Prop) [∀ a t, Decidable (P a t)]
    (h : (x s).toOption.any (fun r => decide (P r.1 r.2)) = true) : ∃ a t, x s = .ok (a, t) ∧ P a t := by
  cases hx : x s with
  | error e => simp [hx, Except.toOption] at h
  | ok r => exact ⟨r.1, r.2, rfl, by simpa [hx, Except.toOption] using h⟩

end Prog

def Projects (f : τ → σ) (x : Prog τ α) (y : Prog σ α) : Prop :=
  ∀ t, y (f t) = (x t).map fun r => (r.1, f r.2)

namespace Projects

variable {f : τ → σ} {x : Prog τ α} {y : Prog σ α}

lemma pure (a : α) : Projects f (Pure.pure a) (Pure.pure a) := fun _ => rfl

lemma stop (e : Stop) : Projects f (Prog.stop (α := α) e) (Prog.stop e) := fun _ => rfl

lemma ofExcept (r : Except Stop α) : Projects f (Prog.ofExcept r) (Prog.ofExcept r) := by
  cases r with
  | ok a => exact pure a
  | error e => exact stop e

lemma update {g : τ → τ} {h : σ → σ} (hf : ∀ t, h (f t) = f (g t)) :
    Projects f (Prog.update g) (Prog.update h) := fun t => by
  simp [hf, Except.map]

lemma bind {k : α → Prog τ β} {l : α → Prog σ β} (hx : Projects f x y)
    (hk : ∀ a, Projects f (k a) (l a)) : Projects f (x >>= k) (y >>= l) := by
  intro t
  rw [Prog.bind_apply, Prog.bind_apply, hx t]
  cases x t with
  | error e => rfl
  | ok r => exact hk r.1 r.2

lemma read {k : τ → Prog τ β} {l : σ → Prog σ β} (hk : ∀ t, Projects f (k t) (l (f t))) :
    Projects f (Prog.read >>= k) (Prog.read >>= l) := fun t => hk t t

lemma ite {c : Prop} [Decidable c] {x' : Prog τ α} {y' : Prog σ α} (hx : Projects f x y)
    (hy : Projects f x' y') : Projects f (if c then x else x') (if c then y else y') := by
  split_ifs
  · exact hx
  · exact hy

lemma erased (h : Projects f x y) {t t' : τ} {a : α} (hx : x t = .ok (a, t')) : y (f t) = .ok (a, f t') := by
  rw [h t, hx]
  rfl

lemma run (h : Projects f x y) {t : τ} {s : σ} {a : α} (hy : y (f t) = .ok (a, s)) :
    ∃ t', x t = .ok (a, t') ∧ f t' = s := by
  rw [h t] at hy
  cases hx : x t with
  | error e => simp [hx, Except.map] at hy
  | ok r =>
    obtain ⟨rfl, rfl⟩ : r.1 = a ∧ f r.2 = s := by simpa [hx, Except.map] using hy
    exact ⟨r.2, rfl, rfl⟩

end Projects

/-- `P` holds of every call of the run: of the state before it, the call, its result and the
state after it. -/
def Throughout {ι : Type} (call : ι → Prog σ α) (P : σ → ι → α → σ → Prop) : σ → List ι → Prop
  | _, [] => True
  | s, i :: is => ∀ a t, call i s = .ok (a, t) → P s i a t ∧ Throughout call P t is

namespace Throughout

variable {ι : Type} {call : ι → Prog σ α} {P Q : σ → ι → α → σ → Prop}

lemma of_invariant {Inv : σ → Prop}
    (hstep : ∀ s i a t, Inv s → call i s = .ok (a, t) → Q s i a t → P s i a t ∧ Inv t)
    {s : σ} (h : Inv s) {is : List ι} (hQ : Throughout call Q s is) : Throughout call P s is := by
  induction is generalizing s with
  | nil => trivial
  | cons i is ih =>
    intro a t hi
    obtain ⟨hq, hrest⟩ := hQ a t hi
    obtain ⟨hp, hinv⟩ := hstep s i a t h hi hq
    exact ⟨hp, ih hinv hrest⟩

lemma mono (himp : ∀ s i a t, P s i a t → Q s i a t) {s : σ} {is : List ι}
    (hP : Throughout call P s is) : Throughout call Q s is := by
  induction is generalizing s with
  | nil => trivial
  | cons i is ih =>
    intro a t hi
    exact ⟨himp s i a t (hP a t hi).1, ih (hP a t hi).2⟩

lemma and {s : σ} {is : List ι} (hP : Throughout call P s is) (hQ : Throughout call Q s is) :
    Throughout call (fun s i a t => P s i a t ∧ Q s i a t) s is := by
  induction is generalizing s with
  | nil => trivial
  | cons i is ih =>
    intro a t hi
    exact ⟨⟨(hP a t hi).1, (hQ a t hi).1⟩, ih (hP a t hi).2 (hQ a t hi).2⟩

end Throughout

def Triple (pre : σ → Prop) (x : Prog σ α) (post : α → σ → Prop) : Prop :=
  ∀ s a t, pre s → x s = .ok (a, t) → post a t

namespace Triple

variable {pre : σ → Prop} {x : Prog σ α} {post : α → σ → Prop}

lemma pure {a : α} (h : ∀ s, pre s → post a s) : Triple pre (Pure.pure a) post := by
  intro s b t hs ht
  obtain ⟨rfl, rfl⟩ : a = b ∧ s = t := by simpa using ht
  exact h s hs

lemma bind {mid : α → σ → Prop} {f : α → Prog σ β} {out : β → σ → Prop}
    (hx : Triple pre x mid) (hf : ∀ a, Triple (mid a) (f a) out) : Triple pre (x >>= f) out := by
  intro s b t hs ht
  obtain ⟨a, s', hxs, hfs⟩ := Prog.bind_ok.mp ht
  exact hf a s' b t (hx s a s' hs hxs) hfs

lemma ite {c : Prop} [Decidable c] {y : Prog σ α} (hx : c → Triple pre x post)
    (hy : ¬ c → Triple pre y post) : Triple pre (if c then x else y) post := by
  split_ifs with hc
  · exact hx hc
  · exact hy hc

lemma mono {pre' : σ → Prop} {post' : α → σ → Prop} (h : Triple pre' x post') (hpre : ∀ s, pre s → pre' s)
    (hpost : ∀ a t, post' a t → post a t) : Triple pre x post :=
  fun s a t hs ht => hpost a t (h s a t (hpre s hs) ht)

lemma stop {e : Stop} : Triple pre (Prog.stop e) post := fun s a t _ ht => by simp at ht

lemma ofExcept {r : Except Stop α} : Triple pre (Prog.ofExcept r) fun _ => pre := by
  cases r with
  | ok a => exact .pure fun s hs => hs
  | error e => exact .stop

lemma exists_pre {ι : Type} {pre : ι → σ → Prop} (h : ∀ i, Triple (pre i) x post) :
    Triple (fun s => ∃ i, pre i s) x post := by
  rintro s a t ⟨i, hs⟩ ht
  exact h i s a t hs ht

lemma or {pre' : σ → Prop} (h : Triple pre x post) (h' : Triple pre' x post) :
    Triple (fun s => pre s ∨ pre' s) x post :=
  fun s a t hs ht => hs.elim (fun hs => h s a t hs ht) fun hs => h' s a t hs ht

lemma given {P : Prop} (h : P → Triple pre x post) : Triple (fun s => P ∧ pre s) x post :=
  fun s a t hs ht => h hs.1 s a t hs.2 ht

lemma passed [DecidableEq α] {ok : α} {mid : σ → Prop} {other : α → Prog σ β} {rest : Prog σ β}
    {out : β → σ → Prop} (hx : Triple pre x fun a s => a = ok ∧ mid s) (hrest : Triple mid rest out) :
    Triple pre (x >>= fun a => if a ≠ ok then other a else rest) out :=
  .bind hx fun _ => .given fun ha => .ite (fun hne => absurd ha hne) fun _ => hrest

lemma zoom {get : τ → σ} {put : σ → τ → τ} (hput : ∀ s t, get (put s t) = s) {frame : τ → Prop}
    (hframe : ∀ s t, frame t → frame (put s t)) (h : Triple pre x post) :
    Triple (fun t => frame t ∧ pre (get t)) (x.zoom get put) fun a t => frame t ∧ post a (get t) := by
  intro t a t' ht hrun
  obtain ⟨s, hs, rfl⟩ := Prog.zoom_ok.mp hrun
  refine ⟨hframe s t ht.1, ?_⟩
  rw [hput]
  exact h _ _ _ ht.2 hs

end Triple

def Total (pre : σ → Prop) (x : Prog σ α) (post : α → σ → Prop) : Prop :=
  ∀ s, pre s → ∃ a t, x s = .ok (a, t) ∧ post a t

namespace Total

variable {pre : σ → Prop} {x : Prog σ α} {post : α → σ → Prop}

lemma pure {a : α} (h : ∀ s, pre s → post a s) : Total pre (Pure.pure a) post :=
  fun s hs => ⟨a, s, rfl, h s hs⟩

lemma bind {mid : α → σ → Prop} {f : α → Prog σ β} {out : β → σ → Prop} (hx : Total pre x mid)
    (hf : ∀ a, Total (mid a) (f a) out) : Total pre (x >>= f) out := by
  intro s hs
  obtain ⟨a, s', hxs, hmid⟩ := hx s hs
  obtain ⟨b, t, hfs, hout⟩ := hf a s' hmid
  exact ⟨b, t, (Prog.bind_of_ok hxs).trans hfs, hout⟩

lemma ite {c : Prop} [Decidable c] {y : Prog σ α} (hx : c → Total pre x post)
    (hy : ¬ c → Total pre y post) : Total pre (if c then x else y) post := by
  split_ifs with hc
  · exact hx hc
  · exact hy hc

end Total

/-- From `s` the program returns `a` exactly under the condition `C`, and then ends in `t`. -/
def ReturnsIff (x : Prog σ α) (s : σ) (a : α) (C : Prop) (t : σ) : Prop :=
  ∀ u, x s = .ok (a, u) ↔ C ∧ u = t

namespace ReturnsIff

variable {x rest : Prog σ α} {s s' t t' : σ} {a b : α} {C D : Prop}

lemma congr (h : ReturnsIff x s a C t) (hC : C ↔ D) (ht : t = t') : ReturnsIff x s a D t' := by
  intro u
  rw [h u, hC, ht]

lemma read {k : σ → Prog σ α} (h : ReturnsIff (k s) s a C t) : ReturnsIff (Prog.read >>= k) s a C t :=
  fun u => h u

lemma run (h : ReturnsIff x s a C t) (hC : C) : x s = .ok (a, t) := (h t).mpr ⟨hC, rfl⟩

lemma checked [DecidableEq α] (hx : ReturnsIff x s a C s') (hrest : C → ReturnsIff rest s' a D t) :
    ReturnsIff (x >>= fun r => if r ≠ a then Pure.pure r else rest) s a (C ∧ D) t := by
  intro u
  rw [Prog.checked_ok]
  constructor
  · rintro (⟨-, hne⟩ | ⟨v, hv, hu⟩)
    · exact absurd rfl hne
    · obtain ⟨hC, rfl⟩ := (hx v).mp hv
      obtain ⟨hD, rfl⟩ := (hrest hC u).mp hu
      exact ⟨⟨hC, hD⟩, rfl⟩
  · rintro ⟨⟨hC, hD⟩, rfl⟩
    exact Or.inr ⟨s', hx.run hC, (hrest hC).run hD⟩

lemma guarded {c : Prop} [Decidable c] (hb : b ≠ a) (hrest : ¬ c → ReturnsIff rest s a D t) :
    ReturnsIff (if c then Pure.pure b else rest) s a (¬ c ∧ D) t := by
  intro u
  split_ifs with hc
  · simp [hc, hb]
  · rw [hrest hc u, and_iff_right hc]

end ReturnsIff

end StateProg
