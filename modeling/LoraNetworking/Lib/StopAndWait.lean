import Mathlib.Tactic

/-! What the other side hears of a sender that repeats every message until it is
acknowledged, and then goes on with the next one. -/

namespace StopAndWait

variable {π : Type}

/-- The messages in order, each at least once before the next one. -/
inductive Stuttered : List π → List π → Prop
  | nil : Stuttered [] []
  | cons {p ps hs} (k : ℕ) : Stuttered ps hs → Stuttered (p :: ps) (List.replicate (k + 1) p ++ hs)

/-- What is heard of a sender that may give up at any message. -/
def Interrupted (ps hs : List π) : Prop := ∃ pre, pre <+: ps ∧ Stuttered pre hs

lemma Stuttered.single (p : π) (k : ℕ) : Stuttered [p] (List.replicate (k + 1) p) := by
  have h := Stuttered.cons (p := p) k .nil
  rwa [List.append_nil] at h

lemma Stuttered.interrupted {ps hs : List π} (h : Stuttered ps hs) : Interrupted ps hs :=
  ⟨ps, List.prefix_refl ps, h⟩

lemma Stuttered.cons_inv {p : π} {ps hs : List π} (h : Stuttered (p :: ps) hs) :
    ∃ k hs', hs = List.replicate (k + 1) p ++ hs' ∧ Stuttered ps hs' := by
  cases h with
  | cons k h => exact ⟨k, _, rfl, h⟩

lemma Stuttered.append_inv {ps qs hs : List π} (h : Stuttered (ps ++ qs) hs) :
    ∃ hs₁ hs₂, hs = hs₁ ++ hs₂ ∧ Stuttered ps hs₁ ∧ Stuttered qs hs₂ := by
  induction ps generalizing hs with
  | nil => exact ⟨[], hs, rfl, .nil, h⟩
  | cons p ps ih =>
    obtain ⟨k, hs', rfl, h'⟩ := h.cons_inv
    obtain ⟨hs₁, hs₂, rfl, h₁, h₂⟩ := ih h'
    exact ⟨_, hs₂, (List.append_assoc _ _ _).symm, .cons k h₁, h₂⟩

lemma Stuttered.single_inv {p : π} {hs : List π} (h : Stuttered [p] hs) :
    ∃ k, hs = List.replicate (k + 1) p := by
  obtain ⟨k, hs', rfl, h'⟩ := h.cons_inv
  cases h'
  exact ⟨k, List.append_nil _⟩

lemma Stuttered.mem {ps hs : List π} (h : Stuttered ps hs) {p : π} (hp : p ∈ hs) : p ∈ ps := by
  induction h with
  | nil => exact hp
  | cons k _ ih =>
    cases List.mem_append.mp hp with
    | inl hp =>
      rw [List.eq_of_mem_replicate hp]
      exact List.mem_cons_self
    | inr hp => exact List.mem_cons_of_mem _ (ih hp)

lemma Interrupted.mem {ps hs : List π} (h : Interrupted ps hs) {p : π} (hp : p ∈ hs) : p ∈ ps := by
  obtain ⟨pre, hpre, hs⟩ := h
  exact hpre.subset (hs.mem hp)

lemma interrupted_replicate (p : π) (ps : List π) (k : ℕ) :
    Interrupted (p :: ps) (List.replicate k p) := by
  cases k with
  | zero => exact ⟨[], List.nil_prefix, .nil⟩
  | succ k => exact ⟨[p], by simp, .single p k⟩

lemma Interrupted.cons {ps hs : List π} (p : π) (k : ℕ) (h : Interrupted ps hs) :
    Interrupted (p :: ps) (List.replicate (k + 1) p ++ hs) := by
  obtain ⟨pre, hpre, hs⟩ := h
  exact ⟨p :: pre, by simpa using hpre, .cons k hs⟩

lemma Interrupted.trans {ps qs hs : List π} (h : Interrupted ps hs) (hpq : ps <+: qs) : Interrupted qs hs := by
  obtain ⟨pre, hpre, hs⟩ := h
  exact ⟨pre, hpre.trans hpq, hs⟩

lemma Interrupted.of_prefix {ps hs hs' : List π} (h : Interrupted ps hs) (hpre : hs' <+: hs) : Interrupted ps hs' := by
  obtain ⟨pre, hps, hstut⟩ := h
  refine Interrupted.trans ?_ hps
  clear hps
  induction hstut generalizing hs' with
  | nil =>
    rw [List.prefix_nil.mp hpre]
    exact Stuttered.nil.interrupted
  | @cons p ps hs k hstut ih =>
    rcases List.prefix_or_prefix_of_prefix hpre (List.prefix_append _ hs) with hcut | ⟨rest, rfl⟩
    · rw [(List.prefix_replicate_iff.mp hcut).2]
      exact interrupted_replicate p ps _
    · exact (ih ((List.prefix_append_right_inj _).mp hpre)).cons p k

section Sublists

variable {blocks acked : List (π × ℕ)} {hs : List π} {p : π} {k : ℕ}

def spread (blocks : List (π × ℕ)) : List π := blocks.flatMap fun b => List.replicate b.2 b.1

lemma mem_of_mem_spread (h : p ∈ spread blocks) : p ∈ blocks.map Prod.fst := by
  obtain ⟨b, hb, hp⟩ := List.mem_flatMap.mp h
  rw [List.eq_of_mem_replicate hp]
  exact List.mem_map_of_mem hb

/-- Of a sender that goes on only after a message is heard, no message is missed. -/
lemma Stuttered.of_sublist (h : hs.Sublist (spread blocks)) (hnodup : (blocks.map Prod.fst).Nodup)
    (hall : ∀ b ∈ blocks, b.1 ∈ hs) : Stuttered (blocks.map Prod.fst) hs := by
  induction blocks generalizing hs with
  | nil =>
    rw [List.sublist_nil.mp h]
    exact .nil
  | cons b blocks ih =>
    obtain ⟨first, rest, rfl, hfirst, hrest⟩ := List.sublist_append_iff.mp h
    obtain ⟨j, -, rfl⟩ := List.sublist_replicate_iff.mp hfirst
    obtain ⟨hnot, hnodup'⟩ := List.nodup_cons.mp hnodup
    have hb : b.1 ∉ rest := fun hmem => hnot (mem_of_mem_spread (hrest.subset hmem))
    obtain ⟨i, rfl⟩ : ∃ i, j = i + 1 := by
      apply Nat.exists_eq_succ_of_ne_zero
      rintro rfl
      exact hb (by simpa using hall b List.mem_cons_self)
    refine .cons i (ih hrest hnodup' fun c hc => ?_)
    rcases List.mem_append.mp (hall c (List.mem_cons_of_mem _ hc)) with hmem | hmem
    · refine absurd (List.eq_of_mem_replicate hmem) fun he => hnot ?_
      rw [← he]
      exact List.mem_map_of_mem hc
    · exact hmem

lemma Interrupted.of_sublist (h : hs.Sublist (spread (acked ++ [(p, k)])))
    (hnodup : ((acked ++ [(p, k)]).map Prod.fst).Nodup) (hall : ∀ b ∈ acked, b.1 ∈ hs) :
    Interrupted ((acked ++ [(p, k)]).map Prod.fst) hs := by
  by_cases hp : p ∈ hs
  · refine (Stuttered.of_sublist h hnodup fun b hb => ?_).interrupted
    rcases List.mem_append.mp hb with hb | hb
    · exact hall b hb
    · rwa [List.mem_singleton.mp hb]
  · have hacked : hs.Sublist (spread acked) := by
      rw [spread, List.flatMap_append] at h
      obtain ⟨first, rest, rfl, hfirst, hrest⟩ := List.sublist_append_iff.mp h
      obtain ⟨j, -, rfl⟩ := List.sublist_replicate_iff.mp (by simpa using hrest)
      cases j with
      | zero => simpa [spread] using hfirst
      | succ j => exact absurd (by simp) hp
    rw [List.map_append] at hnodup ⊢
    exact (Stuttered.of_sublist hacked hnodup.of_append_left hall).interrupted.trans (List.prefix_append _ _)

end Sublists

end StopAndWait
