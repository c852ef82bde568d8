/-!
# Numbers and their digits

A number is determined by its digits in any base that has a character for each of them.
-/

set_option autoImplicit false

namespace Ecmascript

variable {base m n : Nat}

theorem digitChar_inj (less : m < 16) (less' : n < 16) (same : m.digitChar = n.digitChar) :
    m = n := by
  have all : ∀ m < 16, ∀ n < 16, m.digitChar = n.digitChar → m = n := by decide
  exact all m less n less' same

theorem toDigits_inj (more : 1 < base) (small : base ≤ 16) :
    Nat.toDigits base m = Nat.toDigits base n ↔ m = n := by
  refine ⟨fun same => ?_, fun same => same ▸ rfl⟩
  induction m using Nat.strongRecOn generalizing n with
  | ind m ih =>
      rw [Nat.toDigits_eq_if more (n := m), Nat.toDigits_eq_if more (n := n)] at same
      have last : m % base < base := Nat.mod_lt _ (by omega)
      have last' : n % base < base := Nat.mod_lt _ (by omega)
      split at same
      · split at same
        · injection same with digit
          exact digitChar_inj (by omega) (by omega) digit
        · have length := congrArg List.length same
          simp at length
      · split at same
        · have length := congrArg List.length same
          simp at length
        · obtain ⟨front, digit⟩ := List.append_inj' same rfl
          injection digit with digit
          have quotient := ih (m / base) (Nat.div_lt_self (by omega) more) front
          have remainder := digitChar_inj (by omega) (by omega) digit
          rw [← Nat.div_add_mod m base, ← Nat.div_add_mod n base, quotient, remainder]

theorem isAlphanum_digitChar (less : n < 16) : n.digitChar.isAlphanum = true := by
  have all : ∀ n < 16, n.digitChar.isAlphanum = true := by decide
  exact all n less

theorem isAlphanum_of_mem_toDigits (more : 1 < base) (small : base ≤ 16) {c : Char}
    (member : c ∈ Nat.toDigits base n) : c.isAlphanum = true := by
  induction n using Nat.strongRecOn with
  | ind n ih =>
      rw [Nat.toDigits_eq_if more] at member
      have last : n % base < base := Nat.mod_lt _ (by omega)
      split at member
      · obtain rfl := List.mem_singleton.1 member
        exact isAlphanum_digitChar (by omega)
      · rcases List.mem_append.1 member with front | back
        · exact ih (n / base) (Nat.div_lt_self (by omega) more) front
        · obtain rfl := List.mem_singleton.1 back
          exact isAlphanum_digitChar (by omega)

theorem toString_inj : toString m = toString n ↔ m = n := by
  rw [Nat.toString_eq_ofList_toDigits, Nat.toString_eq_ofList_toDigits, String.ofList_inj]
  exact toDigits_inj (by decide) (by decide)

end Ecmascript
