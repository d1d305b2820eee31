import SlurmResume.Python.Dict

/-! Python values as request bodies hold them, with the attribute access and the `update` of
`util.NSDict` (addict's `Dict`). Reading a missing attribute gives a detached empty dict, which
an assignment through it attaches, so an assignment through a path of attributes creates the
dicts on its way; `update` merges a dict into a dict key by key, in depth. Where Python raises
(an attribute of a value that is not a dict), the model has no value. -/

namespace SlurmResume
open List

inductive Json where
  | str (s : String)
  | num (n : Nat)
  | arr (xs : List Json)
  | obj (fields : List (String × Json))

namespace Json

def isObj : Json → Bool
  | obj _ => true
  | _ => false

def get? : Json → String → Option Json
  | obj fields, k => (fields.find? (·.1 = k)).map Prod.snd
  | _, _ => none

def getPath : Json → List String → Option Json
  | j, [] => some j
  | j, k :: ks => (j.get? k).bind fun c => c.getPath ks

@[simp] theorem getPath_nil (j : Json) : j.getPath [] = some j := rfl

@[simp] theorem getPath_singleton (j : Json) (k : String) : j.getPath [k] = j.get? k := by
  simp [getPath]

def set : Json → String → Json → Option Json
  | obj fields, k, v => some (obj (assocSet fields k v))
  | _, _, _ => none

def setPath : Json → List String → Json → Option Json
  | _, [], v => some v
  | j, k :: ks, v => (setPath ((j.get? k).getD (obj [])) ks v).bind (j.set k)

mutual
def mergeFields : List (String × Json) → List (String × Json) → List (String × Json)
  | fields, [] => fields
  | fields, (k, v) :: e => mergeFields (assocSet fields k (mergeValue ((obj fields).get? k) v)) e
def mergeValue : Option Json → Json → Json
  | some (obj old), obj new => obj (mergeFields old new)
  | _, v => v
end

def update : Json → List (String × Json) → Option Json
  | obj fields, e => some (obj (mergeFields fields e))
  | _, _ => none

def setPaths (j : Json) (ws : List (List String × Json)) : Option Json := ws.foldlM (fun j w => j.setPath w.1 w.2) j

def PathOk : Json → List String → Prop
  | _, [] => True
  | j, k :: ks => j.isObj = true ∧ PathOk ((j.get? k).getD (obj [])) ks

@[simp] theorem set_obj (fields : List (String × Json)) (k : String) (v : Json) :
    (obj fields).set k v = some (obj (assocSet fields k v)) := rfl

@[simp] theorem get?_obj_assocSet_self (fields : List (String × Json)) (k : String) (v : Json) :
    (obj (assocSet fields k v)).get? k = some v := by
  simp [get?, find?_assocSet_self]

theorem get?_obj_assocSet_of_ne (fields : List (String × Json)) {k k' : String} (v : Json) (h : k' ≠ k) :
    (obj (assocSet fields k v)).get? k' = (obj fields).get? k' := by
  simp only [get?, find?_assocSet_of_ne _ _ h]

theorem get?_set {j j' : Json} {k : String} {v : Json} (h : j.set k v = some j') (k' : String) :
    j'.get? k' = if k' = k then some v else j.get? k' := by
  cases j <;> simp only [set, reduceCtorEq] at h
  cases h
  split
  · subst_vars; simp
  · exact get?_obj_assocSet_of_ne _ _ ‹_›

theorem isObj_of_set {j j' : Json} {k : String} {v : Json} (h : j.set k v = some j') : j'.isObj = true := by
  cases j <;> simp only [set, reduceCtorEq] at h
  cases h; rfl

theorem setPath_cons (j : Json) (k : String) (ks : List String) (v : Json) :
    j.setPath (k :: ks) v = (((j.get? k).getD (obj [])).setPath ks v).bind (j.set k) := rfl

theorem isObj_of_setPath {j j' v : Json} {p : List String} (hp : p ≠ []) (h : j.setPath p v = some j') :
    j'.isObj = true := by
  obtain ⟨k, ks, rfl⟩ := exists_cons_of_ne_nil hp
  obtain ⟨c, -, hc⟩ := Option.bind_eq_some.mp h
  exact isObj_of_set hc

theorem getPath_setPath_append {j j' v : Json} {p : List String} (h : j.setPath p v = some j')
    (r : List String) : j'.getPath (p ++ r) = v.getPath r := by
  induction p generalizing j j' with
  | nil => cases h; rfl
  | cons k ks ih =>
    obtain ⟨c, hc, hj⟩ := Option.bind_eq_some.mp h
    simp [getPath, get?_set hj, ih hc]

theorem getPath_setPath_self {j j' v : Json} {p : List String} (h : j.setPath p v = some j') :
    j'.getPath p = some v := by
  simpa using getPath_setPath_append h []

theorem getPath_setPath_of_diverge {j j' v : Json} {p q : List String} (h : j.setPath p v = some j')
    (hpq : ¬ p <+: q) (hqp : ¬ q <+: p) : j'.getPath q = j.getPath q := by
  induction p generalizing j j' q with
  | nil => exact absurd nil_prefix hpq
  | cons k ks ih =>
    obtain ⟨c, hc, hj⟩ := Option.bind_eq_some.mp h
    match q with
    | [] => exact absurd nil_prefix hqp
    | k' :: qs =>
      simp only [getPath, get?_set hj k']
      split
      · subst_vars
        have hqs : qs ≠ [] := by rintro rfl; exact hqp ((prefix_cons_inj _).mpr nil_prefix)
        rw [Option.some_bind, ih hc (fun h' => hpq ((prefix_cons_inj _).mpr h'))
          (fun h' => hqp ((prefix_cons_inj _).mpr h'))]
        cases j.get? k' with
        | none => obtain ⟨q', qs', rfl⟩ := exists_cons_of_ne_nil hqs; rfl
        | some c => rfl
      · rfl

theorem setPath_isSome {j v : Json} {p : List String} (h : PathOk j p) : ∃ j', j.setPath p v = some j' := by
  induction p generalizing j with
  | nil => exact ⟨v, rfl⟩
  | cons k ks ih =>
    obtain ⟨hj, hks⟩ := h
    obtain ⟨c, hc⟩ := ih hks
    cases j <;> simp only [isObj, reduceCtorEq] at hj
    exact ⟨_, by rw [setPath_cons, hc]; rfl⟩

theorem getPath_setPath_of_prefix {j j' v : Json} {p r : List String} (h : j.setPath p v = some j')
    (hr : r <+: p) (hne : r ≠ p) : ∃ c, j'.getPath r = some c ∧ c.isObj = true := by
  induction p generalizing j j' r with
  | nil => exact absurd (prefix_nil.mp hr) hne
  | cons k ks ih =>
    obtain ⟨c, hc, hj⟩ := Option.bind_eq_some.mp h
    match r, hr with
    | [], _ => exact ⟨j', rfl, isObj_of_set hj⟩
    | k' :: rs, hr =>
      obtain ⟨rfl, hrs⟩ := cons_prefix_cons.mp hr
      simpa [getPath, get?_set hj] using ih hc hrs fun h => hne (h ▸ rfl)

theorem pathOk_obj_nil : ∀ p : List String, PathOk (obj []) p
  | [] => trivial
  | _ :: ks => ⟨rfl, pathOk_obj_nil ks⟩

theorem pathOk_of_dicts {j : Json} {p : List String}
    (h : ∀ r, r <+: p → r ≠ p → ∀ c, j.getPath r = some c → c.isObj = true) : PathOk j p := by
  induction p generalizing j with
  | nil => trivial
  | cons k ks ih =>
    refine ⟨h [] nil_prefix (by simp) j rfl, ?_⟩
    cases hk : j.get? k with
    | none => exact pathOk_obj_nil ks
    | some c =>
      refine ih fun r hr hne c' hc' => h (k :: r) ((prefix_cons_inj k).mpr hr) (by simpa using hne) c' ?_
      simpa [getPath, hk] using hc'

@[simp] theorem setPaths_nil (j : Json) : j.setPaths [] = some j := rfl

theorem setPaths_append (j : Json) (ws ws' : List (List String × Json)) :
    j.setPaths (ws ++ ws') = (j.setPaths ws).bind fun j => j.setPaths ws' := by
  simp only [setPaths, foldlM_append]
  rfl

theorem getPath_setPaths {j j' : Json} {ws : List (List String × Json)} (h : j.setPaths ws = some j')
    {q : List String} (hq : ∀ w ∈ ws, q <+: w.1 → q = w.1) :
    j'.getPath q = match ws.reverse.find? (fun w => w.1 <+: q) with
      | some w => w.2.getPath (q.drop w.1.length)
      | none => j.getPath q := by
  induction ws generalizing j with
  | nil => cases h; rfl
  | cons w ws ih =>
    obtain ⟨j₁, h₁, h₂⟩ := Option.bind_eq_some.mp h
    rw [ih h₂ fun w' hw' => hq w' (mem_cons_of_mem _ hw'), reverse_cons, find?_append]
    cases ws.reverse.find? (fun w => w.1 <+: q) with
    | some w' => rfl
    | none =>
      by_cases hwq : w.1 <+: q
      · obtain ⟨t, rfl⟩ := hwq
        simp [getPath_setPath_append h₁]
      · have hqw : ¬ q <+: w.1 := fun h' => hwq (hq w (mem_cons_self _ _) h' ▸ prefix_refl _)
        simp [hwq, getPath_setPath_of_diverge h₁ hwq hqw]

theorem isObj_setPaths {j j' : Json} {ws : List (List String × Json)} (hj : j.isObj = true)
    (hws : ∀ w ∈ ws, w.1 ≠ []) (h : j.setPaths ws = some j') : j'.isObj = true := by
  induction ws generalizing j with
  | nil => cases h; exact hj
  | cons w ws ih =>
    obtain ⟨j₁, h₁, h₂⟩ := Option.bind_eq_some.mp h
    exact ih (isObj_of_setPath (hws w (mem_cons_self _ _)) h₁) (fun w' hw' => hws w' (mem_cons_of_mem _ hw')) h₂

theorem setPaths_isSome {j : Json} {ws : List (List String × Json)} (P : List (List String))
    (hj : ∀ r ∈ P, ∀ c, j.getPath r = some c → c.isObj = true)
    (hP : ∀ w ∈ ws, ∀ r, r <+: w.1 → r ≠ w.1 → r ∈ P)
    (hC : ∀ w ∈ ws, ∀ r ∈ P, w.1 <+: r → ∀ c, w.2.getPath (r.drop w.1.length) = some c → c.isObj = true) :
    ∃ j', j.setPaths ws = some j' := by
  induction ws generalizing j with
  | nil => exact ⟨j, rfl⟩
  | cons w ws ih =>
    obtain ⟨j₁, h₁⟩ := setPath_isSome (v := w.2)
      (pathOk_of_dicts fun r hr hne => hj r (hP w (mem_cons_self _ _) r hr hne))
    have hj₁ : ∀ r ∈ P, ∀ c, j₁.getPath r = some c → c.isObj = true := fun r hrP c hc => by
      by_cases hwr : w.1 <+: r
      · obtain ⟨t, rfl⟩ := hwr
        rw [getPath_setPath_append h₁] at hc
        exact hC w (mem_cons_self _ _) _ hrP (prefix_append _ _) c (by simpa using hc)
      · by_cases hrw : r <+: w.1
        · obtain ⟨c', hc', hobj⟩ := getPath_setPath_of_prefix h₁ hrw fun h => hwr (h ▸ prefix_refl _)
          exact (Option.some.inj (hc.symm.trans hc')) ▸ hobj
        · exact hj r hrP c (by rwa [getPath_setPath_of_diverge h₁ hwr hrw] at hc)
    obtain ⟨j', h'⟩ := ih hj₁ (fun w' hw' => hP w' (mem_cons_of_mem _ hw'))
      (fun w' hw' => hC w' (mem_cons_of_mem _ hw'))
    exact ⟨j', by simp only [setPaths, foldlM_cons, h₁]; exact h'⟩

theorem update_isSome {d : Json} (hd : d.isObj = true) (e : List (String × Json)) :
    ∃ d', d.update e = some d' ∧ d'.isObj = true := by
  cases d <;> simp_all [isObj, update]

theorem update_eq_none {d : Json} (hd : d.isObj = false) (e : List (String × Json)) : d.update e = none := by
  cases d <;> simp_all [isObj, update]

theorem mergeValue_of_not_isObj {o : Option Json} {v : Json} (hv : v.isObj = false) : mergeValue o v = v := by
  unfold mergeValue
  split
  · simp [isObj] at hv
  · rfl

theorem get?_update {d d' : Json} {e : List (String × Json)} (h : d.update e = some d') (k : String) :
    d'.get? k = (e.filter (·.1 = k)).foldl (fun o p => some (mergeValue o p.2)) (d.get? k) := by
  cases d <;> simp only [update, reduceCtorEq, Option.some.injEq] at h
  subst h
  rename_i fields
  induction e generalizing fields with
  | nil => rfl
  | cons p e ih =>
    obtain ⟨k', v⟩ := p
    rw [mergeFields, ih]
    by_cases hk : k' = k
    · subst hk
      simp
    · simp [hk, get?_obj_assocSet_of_ne _ _ (Ne.symm hk)]

theorem get?_update_of_not_mem {d d' : Json} {e : List (String × Json)} (h : d.update e = some d')
    {k : String} (hk : k ∉ e.map Prod.fst) : d'.get? k = d.get? k := by
  have : e.filter (·.1 = k) = [] := filter_eq_nil_iff.mpr fun p hp hpk =>
    hk (of_decide_eq_true hpk ▸ mem_map_of_mem Prod.fst hp)
  rw [get?_update h, this]
  rfl

theorem get?_update_of_leaves {d d' : Json} {e : List (String × Json)} (h : d.update e = some d')
    (he : ∀ p ∈ e, p.2.isObj = false) (k : String) :
    d'.get? k = ((e.reverse.find? (·.1 = k)).map Prod.snd).or (d.get? k) := by
  rw [get?_update h]
  clear h
  generalize d.get? k = o
  induction e generalizing o with
  | nil => simp
  | cons p e ih =>
    rw [forall_mem_cons] at he
    rw [reverse_cons, find?_append]
    by_cases hk : p.1 = k
    · simp only [filter_cons, hk, decide_True, ite_true, foldl_cons, ih he.2, mergeValue_of_not_isObj he.1]
      cases e.reverse.find? (·.1 = k) <;> simp [hk]
    · simp [filter_cons, hk, ih he.2]

end Json

end SlurmResume
