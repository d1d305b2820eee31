import Mathlib.Data.List.Dedup
import Mathlib.Data.List.Sort
import SlurmResume.Python.Dict

/-! The list helpers of `util` that `resume.py` calls, modelled from the spec since `util.py` is
not under the sources: `chunked` (`list(islice(it, n))` until it is empty, so a size of `0`
yields no slice), `groupby_unsorted` (groups in the order their key first occurs, each in the
order of the input), `separate` (the elements failing the test, then those passing it), and
Python's stable `sorted`, on strings in code-point order. Each comes with the facts the
grouping proofs use. -/

namespace SlurmResume
open List

variable {α κ : Type}

def chunkSlices (n : Nat) : Nat → List α → List (List α)
  | 0, _ => []
  | _ + 1, [] => []
  | fuel + 1, x :: xs => (x :: xs).take n :: chunkSlices n fuel ((x :: xs).drop n)

def chunked (l : List α) (n : Nat) : List (List α) :=
  if n = 0 then [] else chunkSlices n l.length l

theorem mem_chunkSlices {n fuel : Nat} {l c : List α} (hn : 0 < n) (h : c ∈ chunkSlices n fuel l) :
    c ≠ [] ∧ c.length ≤ n ∧ c <+ l := by
  induction fuel generalizing l with
  | zero => simp [chunkSlices] at h
  | succ fuel ih =>
    match l, h with
    | x :: xs, h =>
      rcases mem_cons.mp h with rfl | h
      · refine ⟨?_, length_take_le _ _, take_sublist _ _⟩
        obtain ⟨m, rfl⟩ := Nat.exists_eq_add_of_lt hn
        simp
      · obtain ⟨h1, h2, h3⟩ := ih h
        exact ⟨h1, h2, h3.trans (drop_sublist _ _)⟩

theorem flatten_chunkSlices {n fuel : Nat} {l : List α} (hn : 0 < n) (hl : l.length ≤ fuel) :
    (chunkSlices n fuel l).flatten = l := by
  induction fuel generalizing l with
  | zero => simp_all [chunkSlices]
  | succ fuel ih =>
    match l with
    | [] => rfl
    | x :: xs =>
      rw [chunkSlices, flatten_cons, ih (by simp at hl ⊢; omega), take_append_drop]

theorem mem_chunked {n : Nat} {l c : List α} (h : c ∈ chunked l n) :
    c ≠ [] ∧ c.length ≤ n ∧ c <+ l := by
  unfold chunked at h
  split at h
  · simp at h
  · exact mem_chunkSlices (Nat.pos_of_ne_zero ‹_›) h

theorem flatten_chunked {n : Nat} (l : List α) (hn : 0 < n) : (chunked l n).flatten = l := by
  rw [chunked, if_neg hn.ne', flatten_chunkSlices hn le_rfl]

theorem length_of_getElem?_chunkSlices {n : Nat} :
    ∀ {fuel i : Nat} {l a b : List α}, (chunkSlices n fuel l)[i]? = some a →
      (chunkSlices n fuel l)[i + 1]? = some b → a.length = n
  | 0, _, _, _, _, h, _ => by simp [chunkSlices] at h
  | _ + 1, _, [], _, _, h, _ => by simp [chunkSlices] at h
  | fuel + 1, 0, x :: xs, a, b, ha, hb => by
    simp only [chunkSlices, getElem?_cons_zero, getElem?_cons_succ, Option.some.injEq] at ha hb
    subst ha
    have hne : (x :: xs).drop n ≠ [] := by
      rintro hd
      rw [hd] at hb
      cases fuel <;> simp [chunkSlices] at hb
    exact length_take_of_le (by simp only [length_cons]; simp at hne; omega)
  | fuel + 1, i + 1, x :: xs, a, b, ha, hb => by
    simp only [chunkSlices, getElem?_cons_succ] at ha hb
    exact length_of_getElem?_chunkSlices ha hb

theorem length_of_mem_enum_chunked {n i : Nat} {l a b : List α} (ha : (i, a) ∈ (chunked l n).enum)
    (hb : (i + 1, b) ∈ (chunked l n).enum) : a.length = n := by
  rw [mem_enum_iff_getElem?] at ha hb
  unfold chunked at ha hb
  split at ha
  · simp at ha
  · rw [if_neg ‹_›] at hb
    exact length_of_getElem?_chunkSlices ha hb

theorem flatMap_snd_enum (l : List (List α)) : l.enum.flatMap Prod.snd = l.flatten := by
  conv_rhs => rw [← enum_map_snd l, flatten_eq_flatMap, flatMap_map]
  rfl

theorem flatten_chunked_sublist (l : List α) (n : Nat) : (chunked l n).flatten <+ l := by
  rcases Nat.eq_zero_or_pos n with rfl | hn
  · simp [chunked]
  · rw [flatten_chunked l hn]

section groupby
variable [DecidableEq κ]

def firstOccurrences [DecidableEq α] (l : List α) : List α := l.reverse.dedup.reverse

theorem mem_firstOccurrences [DecidableEq α] {l : List α} {a : α} :
    a ∈ firstOccurrences l ↔ a ∈ l := by simp [firstOccurrences]

theorem nodup_firstOccurrences [DecidableEq α] (l : List α) : (firstOccurrences l).Nodup :=
  nodup_reverse.mpr (nodup_dedup _)

def groupbyUnsorted (seq : List α) (key : α → κ) : List (κ × List α) :=
  (firstOccurrences (seq.map key)).map fun k => (k, seq.filter (key · = k))

variable {seq : List α} {key : α → κ}

theorem nodup_keys_groupbyUnsorted : ((groupbyUnsorted seq key).map Prod.fst).Nodup := by
  simpa [groupbyUnsorted, Function.comp_def] using nodup_firstOccurrences (seq.map key)

theorem mem_groupbyUnsorted {k : κ} {g : List α} (h : (k, g) ∈ groupbyUnsorted seq key) :
    g = seq.filter (key · = k) ∧ ∃ x ∈ seq, key x = k := by
  obtain ⟨k', hk, he⟩ := mem_map.mp h
  cases he
  simpa [mem_firstOccurrences] using hk

theorem mem_of_mem_groupbyUnsorted {p : κ × List α} (h : p ∈ groupbyUnsorted seq key) {y : α}
    (hy : y ∈ p.2) : y ∈ seq ∧ key y = p.1 := by
  obtain ⟨k, g⟩ := p
  obtain ⟨rfl, -⟩ := mem_groupbyUnsorted h
  simpa using mem_filter.mp hy

theorem ne_nil_of_mem_groupbyUnsorted {k : κ} {g : List α}
    (h : (k, g) ∈ groupbyUnsorted seq key) : g ≠ [] := by
  obtain ⟨rfl, x, hx, hk⟩ := mem_groupbyUnsorted h
  exact ne_nil_of_mem (mem_filter.mpr ⟨hx, by simpa using hk⟩)

theorem mem_groupbyUnsorted_of_mem {x : α} (hx : x ∈ seq) :
    (key x, seq.filter (key · = key x)) ∈ groupbyUnsorted seq key :=
  mem_map.mpr ⟨key x, mem_firstOccurrences.mpr (mem_map_of_mem _ hx), rfl⟩

theorem flatMap_filter_key_subperm (key : α → κ) :
    ∀ {ks : List κ} (seq : List α), ks.Nodup → ks.flatMap (fun k => seq.filter (key · = k)) <+~ seq
  | [], _, _ => nil_subperm
  | k :: ks, seq, hks => by
    have hk := (nodup_cons.mp hks).1
    have hrest : ks.flatMap (fun k' => seq.filter (key · = k')) =
        ks.flatMap (fun k' => (seq.filter fun x => !decide (key x = k)).filter (key · = k')) :=
      flatMap_congr fun k' hk' => by
        rw [filter_filter]
        refine filter_congr fun x _ => ?_
        by_cases hx : key x = k' <;> simp [hx, show k' ≠ k from fun h => hk (h ▸ hk')]
    rw [flatMap_cons, hrest]
    exact ((subperm_append_left _).mpr (flatMap_filter_key_subperm key _ (nodup_cons.mp hks).2)).trans
      (filter_append_perm _ seq).subperm

theorem flatMap_groupbyUnsorted_subperm : (groupbyUnsorted seq key).flatMap Prod.snd <+~ seq := by
  rw [groupbyUnsorted, flatMap_map]
  exact flatMap_filter_key_subperm key seq (nodup_firstOccurrences _)

end groupby

section except
variable {ε β : Type}

theorem except_bind_eq_ok {γ : Type} {x : Except ε β} {f : β → Except ε γ} {c : γ} :
    x >>= f = .ok c ↔ ∃ b, x = .ok b ∧ f b = .ok c := by
  cases x <;> simp [Bind.bind, Except.bind]

theorem foldlM_except_ok_eq {f : β → α → Except ε β} {g : β → α → β}
    (hf : ∀ b a r, f b a = .ok r → r = g b a) :
    ∀ (l : List α) (b r : β), l.foldlM f b = .ok r → r = l.foldl g b
  | [], _, _, h => by cases h; rfl
  | a :: l, b, r, h => by
    rw [foldlM_cons] at h
    cases hb : f b a with
    | error e => simp [hb] at h; cases h
    | ok b' =>
      simp only [hb] at h
      rw [foldl_cons, ← hf b a b' hb]
      exact foldlM_except_ok_eq hf l b' r h

theorem foldlM_except_eq_ok {f : β → α → Except ε β} {g : β → α → β} :
    ∀ {l : List α}, (∀ b, ∀ a ∈ l, f b a = .ok (g b a)) → ∀ b : β, l.foldlM f b = .ok (l.foldl g b)
  | [], _, _ => rfl
  | a :: l, hf, b => by
    rw [foldlM_cons, hf b a (mem_cons_self a l)]
    exact foldlM_except_eq_ok (fun b a' ha' => hf b a' (mem_cons_of_mem a ha')) (g b a)

theorem except_bind_eq_error {γ : Type} {x : Except ε β} {f : β → Except ε γ} {e : ε} :
    x >>= f = .error e ↔ x = .error e ∨ ∃ b, x = .ok b ∧ f b = .error e := by
  cases x <;> simp [Bind.bind, Except.bind]

theorem except_map_eq_ok {γ : Type} {x : Except ε β} {f : β → γ} {c : γ} :
    f <$> x = .ok c ↔ ∃ b, x = .ok b ∧ f b = c := by
  cases x <;> simp [Functor.map, Except.map]

theorem except_map_eq_error {γ : Type} {x : Except ε β} {f : β → γ} {e : ε} :
    f <$> x = .error e ↔ x = .error e := by
  cases x <;> simp [Functor.map, Except.map]

theorem foldlM_except_ok_pass {f : β → α → Except ε β} :
    ∀ {l : List α} {b r : β}, l.foldlM f b = .ok r → ∀ a ∈ l, ∃ b' c, f b' a = .ok c
  | [], _, _, _, _, ha => nomatch ha
  | a :: l, b, _, h, x, hx => by
    rw [foldlM_cons] at h
    obtain ⟨b', hb', h⟩ := except_bind_eq_ok.mp h
    rcases mem_cons.mp hx with rfl | hx
    · exact ⟨b, b', hb'⟩
    · exact foldlM_except_ok_pass h x hx

theorem foldlM_except_error {f : β → α → Except ε β} {e : ε} :
    ∀ {l : List α} {b : β}, l.foldlM f b = .error e → ∃ a ∈ l, ∃ b', f b' a = .error e
  | [], _, h => nomatch h
  | a :: l, b, h => by
    rw [foldlM_cons] at h
    rcases except_bind_eq_error.mp h with h | ⟨b', -, h⟩
    · exact ⟨a, mem_cons_self a l, b, h⟩
    · obtain ⟨x, hx, b'', hx'⟩ := foldlM_except_error h
      exact ⟨x, mem_cons_of_mem a hx, b'', hx'⟩

theorem mapM_except_ok {f : α → Except ε β} :
    ∀ {l : List α} {bs : List β}, l.mapM f = .ok bs → ∀ a ∈ l, ∃ b ∈ bs, f a = .ok b
  | [], _, _, _, ha => nomatch ha
  | a :: l, bs, h, x, hx => by
    rw [mapM_cons] at h
    obtain ⟨b, hb, h⟩ := except_bind_eq_ok.mp h
    obtain ⟨bs', hbs, h⟩ := except_bind_eq_ok.mp h
    cases h
    rcases mem_cons.mp hx with rfl | hx
    · exact ⟨b, mem_cons_self b bs', hb⟩
    · obtain ⟨c, hc, hfc⟩ := mapM_except_ok hbs x hx
      exact ⟨c, mem_cons_of_mem b hc, hfc⟩

theorem mapM_except_error {f : α → Except ε β} {e : ε} :
    ∀ {l : List α}, l.mapM f = .error e → ∃ a ∈ l, f a = .error e
  | [], h => nomatch h
  | a :: l, h => by
    rw [mapM_cons] at h
    rcases except_bind_eq_error.mp h with h | ⟨b, -, h⟩
    · exact ⟨a, mem_cons_self a l, h⟩
    · rcases except_bind_eq_error.mp h with h | ⟨_, -, h⟩
      · obtain ⟨x, hx, hfx⟩ := mapM_except_error h
        exact ⟨x, mem_cons_of_mem a hx, hfx⟩
      · cases h

end except

def separate (pred : α → Bool) (coll : List α) : List α × List α :=
  (coll.filter fun x => !pred x, coll.filter pred)

def charsLt : List Char → List Char → Bool
  | _, [] => false
  | [], _ :: _ => true
  | a :: as, b :: bs => if a.toNat = b.toNat then charsLt as bs else a.toNat < b.toNat

def strLt (s t : String) : Bool := charsLt s.data t.data

def sorted (l : List String) : List String := l.insertionSort fun a b => strLt b a = false

def sortedBy (key : α → String) (l : List α) : List α :=
  l.insertionSort fun a b => strLt (key b) (key a) = false

@[simp] theorem mem_sorted {l : List String} {a : String} : a ∈ sorted l ↔ a ∈ l :=
  mem_insertionSort _

theorem nodup_sorted {l : List String} (h : l.Nodup) : (sorted l).Nodup :=
  (perm_insertionSort _ l).nodup_iff.mpr h

@[simp] theorem mem_sortedBy {key : α → String} {l : List α} {a : α} :
    a ∈ sortedBy key l ↔ a ∈ l := mem_insertionSort _

theorem char_eq_of_toNat_eq {a b : Char} (h : a.toNat = b.toNat) : a = b := by
  rw [← Char.ofNat_toNat a, h, Char.ofNat_toNat]

theorem charsLt_asymm : ∀ {l m : List Char}, charsLt l m = true → charsLt m l = false
  | _, [], h => by simp [charsLt] at h
  | [], _ :: _, _ => rfl
  | a :: as, b :: bs, h => by
    unfold charsLt at h ⊢
    by_cases hab : a.toNat = b.toNat
    · rw [if_pos hab] at h
      rw [if_pos hab.symm]
      exact charsLt_asymm h
    · rw [if_neg hab] at h
      rw [if_neg (Ne.symm hab)]
      exact decide_eq_false (by simp at h; omega)

theorem charsLt_trans : ∀ {l m k : List Char}, charsLt l m = true → charsLt m k = true → charsLt l k = true
  | _, _, [], _, h₂ => by simp [charsLt] at h₂
  | _, [], _ :: _, h₁, _ => by simp [charsLt] at h₁
  | [], _ :: _, _ :: _, _, _ => rfl
  | a :: as, b :: bs, c :: cs, h₁, h₂ => by
    unfold charsLt at h₁ h₂ ⊢
    split at h₁ <;> split at h₂
    · rw [if_pos (by omega)]
      exact charsLt_trans h₁ h₂
    all_goals
      simp only [decide_eq_true_eq] at h₁ h₂
      rw [if_neg (by omega)]
      exact decide_eq_true (by omega)

theorem charsLt_total : ∀ l m : List Char, charsLt l m = true ∨ l = m ∨ charsLt m l = true
  | [], [] => .inr (.inl rfl)
  | [], _ :: _ => .inl rfl
  | _ :: _, [] => .inr (.inr rfl)
  | a :: as, b :: bs => by
    unfold charsLt
    by_cases hab : a.toNat = b.toNat
    · rw [if_pos hab, if_pos hab.symm, char_eq_of_toNat_eq hab, cons.injEq]
      simpa using charsLt_total as bs
    · rw [if_neg hab, if_neg (Ne.symm hab)]
      simp only [decide_eq_true_eq]
      omega

theorem sorted_eq_of_perm {l₁ l₂ : List String} (h : l₁ ~ l₂) : sorted l₁ = sorted l₂ := by
  let r : String → String → Prop := fun a b => strLt b a = false
  haveI : IsTotal String r := ⟨fun a b => by
    cases hba : strLt b a
    · exact .inl hba
    · exact .inr (charsLt_asymm hba)⟩
  haveI : IsTrans String r := ⟨fun a b c hab hbc => by
    rcases charsLt_total a.data b.data with h | h | h
    · cases hca : charsLt c.data a.data
      · exact hca
      · cases (charsLt_trans hca h).symm.trans hbc
    · exact (congrArg (charsLt c.data) h).trans hbc
    · cases h.symm.trans hab⟩
  haveI : IsAntisymm String r := ⟨fun a b hab hba => by
    rcases charsLt_total a.data b.data with h | h | h
    · cases h.symm.trans hba
    · exact String.ext h
    · cases h.symm.trans hab⟩
  exact eq_of_perm_of_sorted ((perm_insertionSort r l₁).trans (h.trans (perm_insertionSort r l₂).symm))
    (sorted_insertionSort r l₁) (sorted_insertionSort r l₂)

end SlurmResume
