import Mathlib.Data.List.Perm.Subperm
import Mathlib.Data.List.Nodup

/-! Insertion-ordered Python dictionaries as association lists whose keys never repeat. `d[k] = v`
keeps a key already present in its place and puts a new key last; `dict(pairs)`, a comprehension
and `update` let a later pair overwrite an earlier one. The sub-permutation facts here are the
ones every later disjointness argument goes through. -/

namespace SlurmResume
open List

variable {α β : Type}

theorem Subperm.nodup_of {l₁ l₂ : List α} : l₁ <+~ l₂ → l₂.Nodup → l₁.Nodup
  | ⟨_, p, s⟩, h => p.nodup_iff.mp (h.sublist s)

theorem Subperm.map_of (f : α → β) {l₁ l₂ : List α} : l₁ <+~ l₂ → l₁.map f <+~ l₂.map f
  | ⟨l, p, s⟩ => ⟨l.map f, p.map f, s.map f⟩

theorem Sublist.flatMap_of (f : α → List β) {l₁ l₂ : List α} (s : l₁ <+ l₂) :
    l₁.flatMap f <+ l₂.flatMap f := by
  induction s with
  | slnil => exact Sublist.refl _
  | cons a _ ih => simpa only [flatMap_cons] using ih.trans (sublist_append_right _ _)
  | cons₂ a _ ih => simpa only [flatMap_cons] using ih.append_left (f a)

theorem Subperm.append_of {l₁ l₂ r₁ r₂ : List α} : l₁ <+~ l₂ → r₁ <+~ r₂ → l₁ ++ r₁ <+~ l₂ ++ r₂
  | ⟨l, p, s⟩, ⟨r, q, t⟩ => ⟨l ++ r, p.append q, s.append t⟩

theorem subperm_flatMap_congr {f g : α → List β} :
    ∀ {l : List α}, (∀ x ∈ l, f x <+~ g x) → l.flatMap f <+~ l.flatMap g
  | [], _ => Subperm.refl _
  | x :: l, h => by
    simp only [flatMap_cons]
    exact Subperm.append_of (h x (mem_cons_self _ _))
      (subperm_flatMap_congr fun y hy => h y (mem_cons_of_mem _ hy))

theorem Subperm.flatMap_of (f : α → List β) {l₁ l₂ : List α} : l₁ <+~ l₂ →
    l₁.flatMap f <+~ l₂.flatMap f
  | ⟨l, p, s⟩ => ⟨l.flatMap f, p.flatMap_right f, Sublist.flatMap_of f s⟩

theorem pairwise_flatMap_of_keys {κ γ : Type} {l : List (κ × β)} {f : κ × β → List γ} {R : γ → γ → Prop}
    (hk : (l.map Prod.fst).Nodup) (hin : ∀ p ∈ l, (f p).Pairwise R)
    (hout : ∀ p ∈ l, ∀ p' ∈ l, p.1 ≠ p'.1 → ∀ x ∈ f p, ∀ y ∈ f p', R x y) : (l.flatMap f).Pairwise R :=
  pairwise_flatMap.mpr ⟨hin, (pairwise_map.mp hk).imp_of_mem fun hp hp' hne => hout _ hp _ hp' hne⟩

def assocSet [DecidableEq α] : List (α × β) → α → β → List (α × β)
  | [], k, v => [(k, v)]
  | e :: es, k, v => if e.1 = k then (k, v) :: es else e :: assocSet es k v

section assocSet
variable [DecidableEq α]

theorem keys_assocSet_of_mem {es : List (α × β)} {k : α} (v : β) (h : k ∈ es.map Prod.fst) :
    (assocSet es k v).map Prod.fst = es.map Prod.fst := by
  induction es with
  | nil => simp at h
  | cons e es ih =>
    by_cases he : e.1 = k
    · simp [assocSet, he]
    · simp only [map_cons, mem_cons, Ne.symm he, false_or] at h
      simp [assocSet, he, ih h]

theorem keys_assocSet_of_not_mem {es : List (α × β)} {k : α} (v : β) (h : k ∉ es.map Prod.fst) :
    (assocSet es k v).map Prod.fst = es.map Prod.fst ++ [k] := by
  induction es with
  | nil => rfl
  | cons e es ih =>
    have he : e.1 ≠ k := fun he => h (he ▸ mem_cons_self _ _)
    simp only [map_cons, mem_cons, not_or] at h
    simp [assocSet, he, ih h.2]

theorem assocSet_of_not_mem {es : List (α × β)} {k : α} (v : β) (h : k ∉ es.map Prod.fst) :
    assocSet es k v = es ++ [(k, v)] := by
  induction es with
  | nil => rfl
  | cons e es ih =>
    simp only [map_cons, mem_cons, not_or] at h
    simp [assocSet, Ne.symm h.1, ih h.2]

theorem assocSet_subperm (es : List (α × β)) (k : α) (v : β) :
    assocSet es k v <+~ (k, v) :: es := by
  induction es with
  | nil => exact Subperm.refl _
  | cons e es ih =>
    unfold assocSet
    split
    · exact (sublist_cons_self e es).cons₂ _ |>.subperm
    · exact ((subperm_cons e).mpr ih).trans (Perm.swap _ _ _).subperm

theorem mem_assocSet_of_ne {es : List (α × β)} {k : α} (v : β) {e : α × β} (he : e ∈ es) (hk : e.1 ≠ k) :
    e ∈ assocSet es k v := by
  induction es with
  | nil => simp at he
  | cons e' es ih =>
    unfold assocSet
    split
    · exact mem_cons_of_mem _ ((mem_cons.mp he).resolve_left fun h => hk (h ▸ ‹_›))
    · rcases mem_cons.mp he with rfl | he
      · exact mem_cons_self _ _
      · exact mem_cons_of_mem _ (ih he)

theorem mem_assocSet_self (es : List (α × β)) (k : α) (v : β) : (k, v) ∈ assocSet es k v := by
  induction es with
  | nil => exact mem_singleton_self _
  | cons e es ih => unfold assocSet; split <;> simp [ih]

theorem find?_assocSet_self (es : List (α × β)) (k : α) (v : β) :
    (assocSet es k v).find? (·.1 = k) = some (k, v) := by
  induction es with
  | nil => simp [assocSet]
  | cons e es ih => unfold assocSet; split <;> simp_all

theorem find?_assocSet_of_ne (es : List (α × β)) {k k' : α} (v : β) (h : k' ≠ k) :
    (assocSet es k v).find? (·.1 = k') = es.find? (·.1 = k') := by
  induction es with
  | nil => simp [assocSet, Ne.symm h]
  | cons e es ih =>
    unfold assocSet
    split
    · simp_all [Ne.symm h]
    · simp only [find?_cons, ih]

end assocSet

structure PyDict (α β : Type) where
  entries : List (α × β)
  nodup_keys : (entries.map Prod.fst).Nodup

namespace PyDict

def keys (d : PyDict α β) : List α := d.entries.map Prod.fst

def values (d : PyDict α β) : List β := d.entries.map Prod.snd

def empty : PyDict α β := ⟨[], nodup_nil⟩

def mapValues {γ : Type} (d : PyDict α β) (f : α → β → γ) : PyDict α γ where
  entries := d.entries.map fun p => (p.1, f p.1 p.2)
  nodup_keys := by simpa [Function.comp_def] using d.nodup_keys

def someKeys (d : PyDict α β) : PyDict (Option α) β where
  entries := d.entries.map fun p => (some p.1, p.2)
  nodup_keys := by simpa [Function.comp_def] using d.nodup_keys.map (Option.some_injective α)

@[simp] theorem entries_empty : (empty : PyDict α β).entries = [] := rfl

@[simp] theorem values_mapValues {γ : Type} (d : PyDict α β) (f : α → β → γ) :
    (d.mapValues f).values = d.entries.map fun p => f p.1 p.2 := by
  simp [values, mapValues]

variable [DecidableEq α]

def set (d : PyDict α β) (k : α) (v : β) : PyDict α β where
  entries := assocSet d.entries k v
  nodup_keys := by
    by_cases h : k ∈ d.entries.map Prod.fst
    · rw [keys_assocSet_of_mem v h]; exact d.nodup_keys
    · rw [keys_assocSet_of_not_mem v h]; exact d.nodup_keys.append (nodup_singleton k) (disjoint_singleton.mpr h)

def ofList (l : List (α × β)) : PyDict α β := l.foldl (fun d p => d.set p.1 p.2) empty

def update (d e : PyDict α β) : PyDict α β := e.entries.foldl (fun d p => d.set p.1 p.2) d

def get? (d : PyDict α β) (k : α) : Option β := (d.entries.find? (·.1 = k)).map Prod.snd

theorem get?_set (d : PyDict α β) (k k' : α) (v : β) :
    (d.set k v).get? k' = if k' = k then some v else d.get? k' := by
  split
  · subst_vars; simp [get?, set, find?_assocSet_self]
  · simp only [get?, set, find?_assocSet_of_ne _ _ ‹_›]

theorem get?_ofList (l : List (α × β)) (k : α) :
    (ofList l).get? k = (l.reverse.find? (·.1 = k)).map Prod.snd := by
  suffices ∀ d : PyDict α β, (l.foldl (fun d p => d.set p.1 p.2) d).get? k =
      ((l.reverse.find? (·.1 = k)).map Prod.snd).or (d.get? k) by
    simpa [ofList, get?] using this empty
  induction l with
  | nil => simp
  | cons p l ih =>
    intro d
    rw [foldl_cons, ih, get?_set, reverse_cons, find?_append]
    by_cases hk : k = p.1
    · subst hk; cases l.reverse.find? (·.1 = p.1) <;> simp
    · simp [hk, Ne.symm hk]

instance [DecidableEq β] : DecidableEq (PyDict α β) := fun d e =>
  decidable_of_iff (d.entries = e.entries) (by cases d; cases e; simp)

theorem entries_set_subperm (d : PyDict α β) (k : α) (v : β) :
    (d.set k v).entries <+~ (k, v) :: d.entries := assocSet_subperm _ _ _

theorem mem_set_self (d : PyDict α β) (k : α) (v : β) : (k, v) ∈ (d.set k v).entries :=
  mem_assocSet_self _ _ _

theorem entries_foldl_set_subperm (l : List (α × β)) (d : PyDict α β) :
    (l.foldl (fun d p => d.set p.1 p.2) d).entries <+~ d.entries ++ l := by
  induction l generalizing d with
  | nil => simpa using Subperm.refl _
  | cons p l ih =>
    refine (ih _).trans ?_
    have h := (subperm_append_right l).mpr (d.entries_set_subperm p.1 p.2)
    exact h.trans perm_middle.symm.subperm

theorem entries_ofList_subperm (l : List (α × β)) : (ofList l).entries <+~ l := by
  simpa using entries_foldl_set_subperm l empty

theorem entries_update_subperm (d e : PyDict α β) : (d.update e).entries <+~ d.entries ++ e.entries :=
  entries_foldl_set_subperm _ _

theorem entries_foldl_update_subperm {γ : Type} (f : γ → PyDict α β) :
    ∀ (l : List γ) (d : PyDict α β),
      (l.foldl (fun d x => d.update (f x)) d).entries <+~ d.entries ++ l.flatMap fun x => (f x).entries
  | [], d => by simpa using Subperm.refl _
  | x :: l, d => by
    refine (entries_foldl_update_subperm f l _).trans ?_
    rw [flatMap_cons, ← List.append_assoc]
    exact (subperm_append_right _).mpr (entries_update_subperm d (f x))

theorem values_ofList_subperm (l : List (α × β)) : (ofList l).values <+~ l.map Prod.snd :=
  Subperm.map_of _ (entries_ofList_subperm l)

theorem mem_entries_set {d : PyDict α β} {k : α} {v : β} {e : α × β} (h : e ∈ (d.set k v).entries) :
    e = (k, v) ∨ e ∈ d.entries :=
  mem_cons.mp ((d.entries_set_subperm k v).subset h)

theorem mem_keys_set {d : PyDict α β} {k k' : α} {v : β} : k' ∈ (d.set k v).keys ↔ k' = k ∨ k' ∈ d.keys := by
  by_cases h : k ∈ d.keys
  · rw [keys, set, keys_assocSet_of_mem v h]
    exact ⟨Or.inr, fun h' => h'.elim (· ▸ h) id⟩
  · rw [keys, set, keys_assocSet_of_not_mem v h, mem_append, mem_singleton, or_comm]
    rfl

theorem mem_keys_ofList {l : List (α × β)} {k : α} : k ∈ (ofList l).keys ↔ k ∈ l.map Prod.fst := by
  suffices ∀ d : PyDict α β, k ∈ (l.foldl (fun d p => d.set p.1 p.2) d).keys ↔ k ∈ d.keys ∨ k ∈ l.map Prod.fst by
    simpa [keys] using this empty
  induction l with
  | nil => simp
  | cons p l ih => intro d; rw [foldl_cons, ih, mem_keys_set, map_cons, mem_cons]; tauto

theorem entries_foldl_set_of_nodup (l : List (α × β)) (d : PyDict α β)
    (h : (d.keys ++ l.map Prod.fst).Nodup) : (l.foldl (fun d p => d.set p.1 p.2) d).entries = d.entries ++ l := by
  induction l generalizing d with
  | nil => simp
  | cons p l ih =>
    have hp : p.1 ∉ d.keys := fun hp => (nodup_append.mp h).2.2 hp (mem_cons_self _ _)
    have hset : (d.set p.1 p.2).entries = d.entries ++ [p] := assocSet_of_not_mem _ hp
    rw [foldl_cons, ih _ (by simpa [keys, hset] using h), hset, append_assoc, singleton_append]

theorem entries_ofList_of_nodup {l : List (α × β)} (h : (l.map Prod.fst).Nodup) : (ofList l).entries = l :=
  entries_foldl_set_of_nodup l empty h

theorem get?_eq_some {d : PyDict α β} {k : α} {v : β} (h : (k, v) ∈ d.entries) : d.get? k = some v := by
  obtain ⟨e, he⟩ : ∃ e, d.entries.find? (·.1 = k) = some e :=
    Option.isSome_iff_exists.mp (find?_isSome.mpr ⟨_, h, by simp⟩)
  have hk : e.1 = k := by simpa using find?_some he
  have : e = (k, v) := inj_on_of_nodup_map d.nodup_keys (mem_of_find?_eq_some he) h hk
  simp [get?, he, this]

theorem mem_entries_of_get? {d : PyDict α β} {k : α} {v : β} (h : d.get? k = some v) : (k, v) ∈ d.entries := by
  obtain ⟨e, he, rfl⟩ := Option.map_eq_some'.mp h
  have hk : e.1 = k := by simpa using find?_some he
  rw [← hk]
  exact mem_of_find?_eq_some he

theorem exists_get?_of_mem_keys {d : PyDict α β} {k : α} (h : k ∈ d.keys) : ∃ v, d.get? k = some v :=
  let ⟨e, he, hk⟩ := mem_map.mp h
  ⟨e.2, get?_eq_some (hk ▸ he)⟩

theorem eq_of_mem_entries {d : PyDict α β} {k : α} {v v' : β} (h : (k, v) ∈ d.entries)
    (h' : (k, v') ∈ d.entries) : v = v' :=
  Option.some.inj ((get?_eq_some h).symm.trans (get?_eq_some h'))

theorem mem_entries_set_iff {d : PyDict α β} {k : α} {v : β} {e : α × β} :
    e ∈ (d.set k v).entries ↔ e = (k, v) ∨ (e.1 ≠ k ∧ e ∈ d.entries) := by
  refine ⟨fun h => ?_, ?_⟩
  · rcases mem_entries_set h with h' | h'
    · exact Or.inl h'
    · by_cases hk : e.1 = k
      · obtain ⟨k', v'⟩ := e
        cases hk
        exact Or.inl (by rw [eq_of_mem_entries h (mem_set_self d k' v)])
      · exact Or.inr ⟨hk, h'⟩
  · rintro (rfl | ⟨hk, h⟩)
    · exact mem_set_self d k v
    · exact mem_assocSet_of_ne v h hk

theorem mem_entries_foldl_set_iff {l : List (α × β)} (hl : (l.map Prod.fst).Nodup) (d : PyDict α β)
    {e : α × β} :
    e ∈ (l.foldl (fun d p => d.set p.1 p.2) d).entries ↔ e ∈ l ∨ (e.1 ∉ l.map Prod.fst ∧ e ∈ d.entries) := by
  induction l generalizing d with
  | nil => simp
  | cons p l ih =>
    rw [foldl_cons, ih (nodup_cons.mp hl).2, mem_entries_set_iff]
    have hp : p.1 ∉ l.map Prod.fst := (nodup_cons.mp hl).1
    constructor
    · rintro (h | ⟨hl', rfl | ⟨hk, h⟩⟩)
      · exact Or.inl (mem_cons_of_mem _ h)
      · exact Or.inl (mem_cons_self _ _)
      · exact Or.inr ⟨by simp [hk, hl'], h⟩
    · rintro (h | ⟨hk, h⟩)
      · rcases mem_cons.mp h with rfl | h
        · exact Or.inr ⟨hp, Or.inl rfl⟩
        · exact Or.inl h
      · simp only [map_cons, mem_cons, not_or] at hk
        exact Or.inr ⟨hk.2, Or.inr ⟨hk.1, h⟩⟩

theorem mem_entries_update_iff {d e : PyDict α β} {x : α × β} :
    x ∈ (d.update e).entries ↔ x ∈ e.entries ∨ (x.1 ∉ e.keys ∧ x ∈ d.entries) :=
  mem_entries_foldl_set_iff e.nodup_keys d

theorem mem_foldl_update {γ : Type} (f : γ → PyDict α β) {x : α × β} :
    ∀ (l : List γ) (d : PyDict α β), x ∈ d.entries → (∀ b ∈ l, x.1 ∉ (f b).keys) →
      x ∈ (l.foldl (fun d b => d.update (f b)) d).entries
  | [], _, h, _ => h
  | b :: l, _, h, hl =>
    mem_foldl_update f l _ (mem_entries_update_iff.mpr (Or.inr ⟨hl b (mem_cons_self _ _), h⟩))
      fun b' hb' => hl b' (mem_cons_of_mem _ hb')

end PyDict
end SlurmResume
