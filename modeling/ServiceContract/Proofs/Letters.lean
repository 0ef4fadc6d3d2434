/-!
# Letters by their numbers

Capitals, small letters and digits are ranges of numbers, and changing the case of a letter moves it
from one range to another. What the rules for names and verbs need of characters follows from that.

* `toNat_toLower`, `toNat_toUpper`: what changing the case does.
* `toLower_ne_underscore`: no letter or digit turns into an underscore.
-/

namespace ServiceContract.Text

variable {c : Char}

theorem between_iff (a b : Char) :
    (a.val ≤ c.val ∧ c.val ≤ b.val) ↔ a.toNat ≤ c.toNat ∧ c.toNat ≤ b.toNat := by
  rw [UInt32.le_iff_toNat_le, UInt32.le_iff_toNat_le]
  rfl

theorem isUpper_iff : c.isUpper = true ↔ 65 ≤ c.toNat ∧ c.toNat ≤ 90 :=
  decide_eq_true_iff.trans (between_iff 'A' 'Z')

theorem isLower_iff : c.isLower = true ↔ 97 ≤ c.toNat ∧ c.toNat ≤ 122 := by
  have hdef : c.isLower = (decide ('a'.val ≤ c.val) && decide (c.val ≤ 'z'.val)) := rfl
  rw [hdef, Bool.and_eq_true, decide_eq_true_iff, decide_eq_true_iff]
  exact between_iff 'a' 'z'

theorem isDigit_iff : c.isDigit = true ↔ 48 ≤ c.toNat ∧ c.toNat ≤ 57 := by
  have hdef : c.isDigit = (decide ('0'.val ≤ c.val) && decide (c.val ≤ '9'.val)) := rfl
  rw [hdef, Bool.and_eq_true, decide_eq_true_iff, decide_eq_true_iff]
  exact between_iff '0' '9'

theorem isAlphanum_iff :
    c.isAlphanum = true ↔ c.isUpper = true ∨ c.isLower = true ∨ c.isDigit = true := by
  have hdef : c.isAlphanum = ((c.isUpper || c.isLower) || c.isDigit) := rfl
  rw [hdef, Bool.or_eq_true, Bool.or_eq_true, or_assoc]

/-! ## Changing the case -/

theorem toLower_of_not_isUpper (h : ¬ c.isUpper = true) : c.toLower = c :=
  dif_neg fun hrange => h (decide_eq_true hrange)

theorem toUpper_of_not_isLower (h : ¬ c.isLower = true) : c.toUpper = c := by
  refine dif_neg fun hrange => h ?_
  exact Bool.and_eq_true_iff.2 ⟨decide_eq_true hrange.1, decide_eq_true hrange.2⟩

/-- **A capital moves up by 32.** -/
theorem toNat_toLower (h : c.isUpper = true) : c.toLower.toNat = c.toNat + 32 := by
  have hlower : c.toLower.val = c.val + 32 := by
    have hdef : c.toLower = _ := dif_pos (of_decide_eq_true h)
    rw [hdef]
    rfl
  have hrange := isUpper_iff.1 h
  have hadd : (c.val + 32).toNat = (c.val.toNat + 32) % 4294967296 := UInt32.toNat_add _ _
  have hval : c.val.toNat = c.toNat := rfl
  rw [← Char.toNat_val, hlower, hadd]
  omega

/-- **A small letter moves down by 32.** -/
theorem toNat_toUpper (h : c.isLower = true) : c.toUpper.toNat + 32 = c.toNat := by
  have hupper : c.toUpper.val = c.val + 4294967264 := by
    obtain ⟨hge, hle⟩ := Bool.and_eq_true_iff.1 (show (decide _ && decide _) = true from h)
    have hdef : c.toUpper = _ := dif_pos ⟨of_decide_eq_true hge, of_decide_eq_true hle⟩
    rw [hdef]
    rfl
  have hrange := isLower_iff.1 h
  have hadd : (c.val + 4294967264).toNat = (c.val.toNat + 4294967264) % 4294967296 :=
    UInt32.toNat_add _ _
  have hval : c.val.toNat = c.toNat := rfl
  rw [← Char.toNat_val, hupper, hadd]
  omega

theorem isLower_toLower (h : c.isUpper = true) : c.toLower.isLower = true := by
  have hrange := isUpper_iff.1 h
  rw [isLower_iff, toNat_toLower h]
  omega

theorem isUpper_toUpper (h : c.isLower = true) : c.toUpper.isUpper = true := by
  have hrange := isLower_iff.1 h
  have hupper := toNat_toUpper h
  rw [isUpper_iff]
  omega

/-- A letter that was made small is no capital. -/
theorem isUpper_toLower (c : Char) : c.toLower.isUpper = false := by
  rw [Bool.eq_false_iff]
  intro hupper
  by_cases h : c.isUpper = true
  · have hrange := isLower_iff.1 (isLower_toLower h)
    have hrange' := isUpper_iff.1 hupper
    omega
  · rw [toLower_of_not_isUpper h] at hupper
    exact h hupper

/-- A capital is read back from its small letter. -/
theorem toUpper_toLower (h : c.isUpper = true) : c.toLower.toUpper = c := by
  have hupper := toNat_toUpper (isLower_toLower h)
  rw [toNat_toLower h] at hupper
  rw [← Char.toNat_inj]
  omega

/-- **No letter or digit turns into an underscore.** -/
theorem toLower_ne_underscore (h : c.isAlphanum = true) : c.toLower ≠ '_' := by
  intro heq
  have hnumber : c.toLower.toNat = 95 := by
    rw [heq]
    rfl
  by_cases hupper : c.isUpper = true
  · have hrange := isUpper_iff.1 hupper
    rw [toNat_toLower hupper] at hnumber
    omega
  · rw [toLower_of_not_isUpper hupper] at hnumber
    rcases isAlphanum_iff.1 h with hu | hl | hd
    · exact hupper hu
    · have hrange := isLower_iff.1 hl
      omega
    · have hrange := isDigit_iff.1 hd
      omega

end ServiceContract.Text
