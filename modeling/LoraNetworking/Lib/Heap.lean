import LoraNetworking.Lib.Prog
import Mathlib.Data.Finmap

/-! A heap of blocks, the calls of a program that shares it with other code, and the account of the
blocks that are the program's own. -/

namespace Heap

open StateProg

variable {κ : Type}

abbrev Memory (κ : Type) : Type := Finmap fun _ : ℕ => κ

/-- Where the next block comes to lie: no call fails, and an address may be used again once its block is
freed. -/
structure Allocator (κ : Type) where
  pick : Memory κ → ℕ
  pick_notMem : ∀ m, pick m ∉ m

def Allocator.above (κ : Type) : Allocator κ where
  pick m := m.keys.sup id + 1
  pick_notMem _ h := absurd (Finset.le_sup (f := id) (Finmap.mem_keys.mpr h)) (Nat.not_succ_le_self _)

def malloc (A : Allocator κ) (c : κ) : Prog (Memory κ) ℕ :=
  Prog.step fun m => (A.pick m, m.insert (A.pick m) c)

def load (a : ℕ) : Prog (Memory κ) κ := fun m =>
  match m.lookup a with
  | some c => .ok (c, m)
  | none => .error .undefined

def store (a : ℕ) (c : κ) : Prog (Memory κ) Unit := fun m =>
  if a ∈ m then .ok ((), m.insert a c) else .error .undefined

def free (a : ℕ) : Prog (Memory κ) Unit := fun m =>
  if a ∈ m then .ok ((), m.erase a) else .error .undefined

def freePointer : Option ℕ → Prog (Memory κ) Unit
  | none => pure ()
  | some a => free a

section Calls

variable {A : Allocator κ} {m : Memory κ} {a : ℕ} {c : κ}

@[simp] lemma malloc_apply : malloc A c m = .ok (A.pick m, m.insert (A.pick m) c) := rfl

lemma load_of_lookup (h : m.lookup a = some c) : load a m = .ok (c, m) := by
  rw [load, h]

lemma store_of_mem (h : a ∈ m) (c : κ) : store a c m = .ok ((), m.insert a c) := if_pos h

lemma free_of_mem (h : a ∈ m) : free a m = .ok ((), m.erase a) := if_pos h

lemma pick_ne (A : Allocator κ) (h : a ∈ m) : a ≠ A.pick m := by
  rintro rfl
  exact A.pick_notMem m h

end Calls

/-- The blocks of `l` hold what they held. -/
def Keeps (l : List ℕ) (m m' : Memory κ) : Prop := ∀ a ∈ l, m'.lookup a = m.lookup a

/-- The live blocks that are not `owned` by the other code are those of `l`, each once. -/
structure Accounts (owned : Finset ℕ) (l : List ℕ) (m : Memory κ) : Prop where
  nodup : l.Nodup
  owned_live : ∀ a ∈ owned, a ∈ m
  mem_iff : ∀ a, a ∈ l ↔ a ∈ m ∧ a ∉ owned

section Account

variable {A : Allocator κ} {owned : Finset ℕ} {l l' : List ℕ} {m m' m'' : Memory κ} {a : ℕ} {c : κ}

lemma Keeps.refl (l : List ℕ) (m : Memory κ) : Keeps l m m := fun _ _ => rfl

lemma Keeps.trans (h : Keeps l m m') (h' : Keeps l m' m'') : Keeps l m m'' :=
  fun a ha => (h' a ha).trans (h a ha)

lemma Keeps.mono (h : Keeps l m m') (hl : ∀ a ∈ l', a ∈ l) : Keeps l' m m' := fun a ha => h a (hl a ha)

lemma Keeps.left (h : Keeps (l ++ l') m m') : Keeps l m m' := h.mono fun _ ha => List.mem_append_left _ ha

lemma Keeps.right (h : Keeps (l ++ l') m m') : Keeps l' m m' := h.mono fun _ ha => List.mem_append_right _ ha

lemma Keeps.tail (h : Keeps (a :: l) m m') : Keeps l m m' := h.mono fun _ ha => List.mem_cons_of_mem _ ha

lemma Keeps.live (h : Keeps l m m') (hl : ∀ a ∈ l, a ∈ m) : ∀ a ∈ l, a ∈ m' := by
  intro a ha
  rw [← Finmap.lookup_isSome, h a ha, Finmap.lookup_isSome]
  exact hl a ha

lemma keeps_insert (h : a ∉ l) (c : κ) : Keeps l m (m.insert a c) :=
  fun _ hb => Finmap.lookup_insert_of_ne m fun hba => h (hba ▸ hb)

lemma keeps_erase (h : a ∉ l) : Keeps l m (m.erase a) :=
  fun _ hb => Finmap.lookup_erase_ne fun hba => h (hba ▸ hb)

lemma pick_notMem_of_live (A : Allocator κ) (h : ∀ a ∈ l, a ∈ m) : A.pick m ∉ l :=
  fun hl => A.pick_notMem m (h _ hl)

lemma keeps_malloc (A : Allocator κ) (h : ∀ a ∈ l, a ∈ m) (c : κ) : Keeps l m (m.insert (A.pick m) c) :=
  keeps_insert (pick_notMem_of_live A h) c

lemma malloc_free (A : Allocator κ) (m : Memory κ) (c : κ) : (m.insert (A.pick m) c).erase (A.pick m) = m := by
  apply Finmap.ext_lookup
  intro a
  by_cases ha : a = A.pick m
  · rw [ha, Finmap.lookup_erase]
    exact (Finmap.lookup_eq_none.mpr (A.pick_notMem m)).symm
  · rw [Finmap.lookup_erase_ne ha, Finmap.lookup_insert_of_ne m ha]

lemma accounts_empty : Accounts ∅ [] (∅ : Memory κ) := ⟨List.nodup_nil, by simp, by simp [Finmap.notMem_empty]⟩

lemma Accounts.live (h : Accounts owned l m) : ∀ a ∈ l, a ∈ m := fun a ha => ((h.mem_iff a).mp ha).1

lemma Accounts.perm (h : Accounts owned l m) (hl : l.Perm l') : Accounts owned l' m :=
  ⟨hl.nodup_iff.mp h.nodup, h.owned_live, fun a => hl.mem_iff.symm.trans (h.mem_iff a)⟩

lemma Accounts.malloc (h : Accounts owned l m) (A : Allocator κ) (c : κ) :
    Accounts owned (A.pick m :: l) (m.insert (A.pick m) c) := by
  refine ⟨List.nodup_cons.mpr ⟨pick_notMem_of_live A h.live, h.nodup⟩,
    fun a ha => Finmap.mem_insert.mpr (Or.inr (h.owned_live a ha)), fun a => ?_⟩
  rw [List.mem_cons, h.mem_iff, Finmap.mem_insert, or_and_right]
  refine or_congr ⟨fun ha => ⟨ha, ?_⟩, And.left⟩ Iff.rfl
  subst ha
  exact fun howned => A.pick_notMem m (h.owned_live _ howned)

lemma Accounts.store (h : Accounts owned l m) (ha : a ∈ l) (c : κ) : Accounts owned l (m.insert a c) := by
  have hmem : ∀ b, b ∈ m.insert a c ↔ b ∈ m := by
    intro b
    rw [Finmap.mem_insert]
    exact or_iff_right_of_imp fun hb => hb ▸ h.live a ha
  refine ⟨h.nodup, fun b hb => (hmem b).mpr (h.owned_live b hb), fun b => ?_⟩
  rw [h.mem_iff, hmem]

lemma Accounts.free (h : Accounts owned (a :: l) m) : Accounts owned l (m.erase a) := by
  obtain ⟨hnotMem, hnodup⟩ := List.nodup_cons.mp h.nodup
  have hown : a ∉ owned := ((h.mem_iff a).mp List.mem_cons_self).2
  refine ⟨hnodup, fun b hb => ?_, fun b => ?_⟩
  · rw [Finmap.mem_erase]
    exact ⟨fun hba => hown (hba ▸ hb), h.owned_live b hb⟩
  · rw [Finmap.mem_erase, and_assoc, ← h.mem_iff, List.mem_cons]
    constructor
    · exact fun hb => ⟨fun hba => hnotMem (hba ▸ hb), Or.inr hb⟩
    · rintro ⟨hne, heq | hb⟩
      · exact absurd heq hne
      · exact hb

lemma Accounts.card (h : Accounts owned l m) : (m.keys \ owned).card = l.length := by
  have heq : m.keys \ owned = l.toFinset := by
    ext a
    rw [Finset.mem_sdiff, Finmap.mem_keys, List.mem_toFinset, h.mem_iff]
  rw [heq, List.toFinset_card_of_nodup h.nodup]

end Account

end Heap
