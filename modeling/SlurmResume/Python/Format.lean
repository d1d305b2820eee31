import Mathlib.Data.Nat.Digits
import Mathlib.Tactic.Ring

/-! Python's `str` of an integer in the f-strings of `resume.py`: its decimal digits, which read
back as the number, so two numbers never format alike and a formatted number holds no separator. -/

namespace SlurmResume
open List

def decimalValue : List Char → Nat
  | [] => 0
  | c :: cs => (c.toNat - 48) * 10 ^ cs.length + decimalValue cs

theorem digitChar_spec : ∀ k < 10, (Nat.digitChar k).toNat - 48 = k ∧ (Nat.digitChar k).isDigit = true := by
  decide

theorem toDigitsCore_spec : ∀ (fuel n : Nat) (ds : List Char), n < fuel →
    decimalValue (Nat.toDigitsCore 10 fuel n ds) = n * 10 ^ ds.length + decimalValue ds ∧
      ∀ c ∈ Nat.toDigitsCore 10 fuel n ds, c ∈ ds ∨ c.isDigit = true
  | 0, _, _, h => absurd h (Nat.not_lt_zero _)
  | fuel + 1, n, ds, h => by
    have hd := digitChar_spec (n % 10) (Nat.mod_lt _ (by decide))
    have hmem : ∀ c ∈ Nat.digitChar (n % 10) :: ds, c ∈ ds ∨ c.isDigit = true := fun c hc =>
      (mem_cons.mp hc).elim (fun h => Or.inr (h ▸ hd.2)) Or.inl
    simp only [Nat.toDigitsCore]
    split
    · exact ⟨by rw [decimalValue, hd.1, Nat.mod_eq_of_lt (by omega : n < 10)], hmem⟩
    · obtain ⟨ih₁, ih₂⟩ := toDigitsCore_spec fuel (n / 10) (Nat.digitChar (n % 10) :: ds) (by omega)
      refine ⟨?_, fun c hc => (ih₂ c hc).elim (hmem c) Or.inr⟩
      rw [ih₁, decimalValue, hd.1, length_cons]
      calc n / 10 * 10 ^ (ds.length + 1) + (n % 10 * 10 ^ ds.length + decimalValue ds)
          = (10 * (n / 10) + n % 10) * 10 ^ ds.length + decimalValue ds := by ring
        _ = n * 10 ^ ds.length + decimalValue ds := by rw [Nat.div_add_mod]

theorem decimalValue_toString (n : Nat) : decimalValue (toString n).data = n := by
  simpa [decimalValue] using (toDigitsCore_spec (n + 1) n [] (Nat.lt_succ_self n)).1

theorem isDigit_of_mem_toString {n : Nat} {c : Char} (h : c ∈ (toString n).data) : c.isDigit = true := by
  simpa using (toDigitsCore_spec (n + 1) n [] (Nat.lt_succ_self n)).2 c h

@[simp] theorem toString_data_inj {a b : Nat} : (toString a).data = (toString b).data ↔ a = b :=
  ⟨fun h => by simpa only [decimalValue_toString] using congrArg decimalValue h, fun h => h ▸ rfl⟩

@[simp] theorem None_ne_toString_data (n : Nat) : ['N', 'o', 'n', 'e'] ≠ (toString n).data :=
  fun h => absurd (isDigit_of_mem_toString (h ▸ mem_cons_self 'N' _)) (by decide)

theorem not_mem_toString {n : Nat} {c : Char} (hc : c.isDigit = false) : c ∉ (toString n).data :=
  fun h => absurd (isDigit_of_mem_toString h) (by simp [hc])

theorem append_cons_eq_of_not_mem_left {α : Type} {a : α} :
    ∀ {x₁ x₂ z₁ z₂ : List α}, a ∉ x₁ → a ∉ x₂ → x₁ ++ a :: z₁ = x₂ ++ a :: z₂ →
      x₁ = x₂ ∧ z₁ = z₂
  | [], [], _, _, _, _, h => ⟨rfl, (cons.inj h).2⟩
  | [], b :: x₂, _, _, _, h₂, h => absurd (by rw [(cons.inj h).1]; exact mem_cons_self b x₂) h₂
  | b :: x₁, [], _, _, h₁, _, h => absurd (by rw [← (cons.inj h).1]; exact mem_cons_self b x₁) h₁
  | b :: x₁, c :: x₂, _, _, h₁, h₂, h => by
    obtain ⟨hx, hz⟩ := append_cons_eq_of_not_mem_left (fun h' => h₁ (mem_cons_of_mem _ h'))
      (fun h' => h₂ (mem_cons_of_mem _ h')) (cons.inj h).2
    exact ⟨by rw [(cons.inj h).1, hx], hz⟩

theorem append_cons_eq_of_not_mem_right {α : Type} {a : α} {x₁ x₂ z₁ z₂ : List α} (h₁ : a ∉ z₁)
    (h₂ : a ∉ z₂) (h : x₁ ++ a :: z₁ = x₂ ++ a :: z₂) : x₁ = x₂ ∧ z₁ = z₂ := by
  have h' := congrArg reverse h
  simp only [reverse_append, reverse_cons, append_assoc, singleton_append] at h'
  obtain ⟨hz, hx⟩ := append_cons_eq_of_not_mem_left (by simpa using h₁) (by simpa using h₂) h'
  exact ⟨reverse_injective hx, reverse_injective hz⟩

end SlurmResume
