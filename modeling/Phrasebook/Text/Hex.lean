/-!
# Hexadecimal digits
-/

namespace Phrasebook.Text

def hexDigit (n : Nat) : Char := "0123456789abcdef".toList.getD n '0'

/-- The last digits of a number, a given count of them. -/
def hexDigits : (count : Nat) → Nat → List Char
  | 0, _ => []
  | n + 1, value => hexDigits n (value / 16) ++ [hexDigit (value % 16)]

theorem length_hexDigits (count value : Nat) : (hexDigits count value).length = count := by
  induction count generalizing value with
  | zero => rfl
  | succ n ih => simp [hexDigits, ih]

theorem mem_hexDigits {count value : Nat} {c : Char} (h : c ∈ hexDigits count value) : ∃ n < 16, c = hexDigit n := by
  induction count generalizing value with
  | zero => exact absurd h List.not_mem_nil
  | succ n ih =>
    rcases List.mem_append.mp h with h | h
    · exact ih h
    · exact ⟨_, Nat.mod_lt _ (by decide), List.mem_singleton.mp h⟩

end Phrasebook.Text
