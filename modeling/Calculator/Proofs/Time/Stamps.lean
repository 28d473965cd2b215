import Mathlib.Algebra.Group.Nat.Defs
import Calculator.Proofs.Time.Dates

/-!
Stamps are in the order of the times that they tell, as long as the years have four digits: every part
of one has a fixed number of digits, and the greater part stands before the smaller one.
-/

namespace Calculator.Time

/-- Of texts that begin with parts of one length the parts decide, unless they are the same. -/
theorem append_lt_append {cs ds : List Char} (h : cs < ds) (hl : cs.length = ds.length)
    (xs ys : List Char) : cs ++ xs < ds ++ ys := by
  induction h with
  | nil => cases hl
  | rel h => exact .rel h
  | cons _ ih => exact .cons (ih (Nat.succ.inj hl))

section Padded

variable {w m n : Nat}

theorem digitChar_lt_digitChar (h : m < n) (hn : n < 10) : m.digitChar < n.digitChar := by
  have hm : m.digitChar.toNat = 48 + m := Nat.toNat_digitChar_of_lt_ten (by omega)
  have hn : n.digitChar.toNat = 48 + n := Nat.toNat_digitChar_of_lt_ten hn
  have hlt : m.digitChar.toNat < n.digitChar.toNat := by omega
  exact hlt

theorem length_padded (hw : 0 < w) (hn : n < 10 ^ w) : (padded w n).length = w := by
  have hl := (Nat.length_toDigits_le_iff (b := 10) (by decide) hw).mpr hn
  rw [padded, List.length_append, List.length_replicate]
  omega

theorem padded_one (hn : n < 10) : padded 1 n = [n.digitChar] := by
  rw [padded, Nat.toDigits_of_lt_base hn]
  rfl

/-- The last digit of a padded number stands after the padded rest. -/
theorem padded_succ (hw : 0 < w) (n : Nat) :
    padded (w + 1) n = padded w (n / 10) ++ [(n % 10).digitChar] := by
  rcases Nat.lt_or_ge n 10 with hn | hn
  · obtain ⟨v, rfl⟩ : ∃ v, w = v + 1 := ⟨w - 1, by omega⟩
    rw [padded, padded, Nat.div_eq_of_lt hn, Nat.mod_eq_of_lt hn, Nat.toDigits_of_lt_base hn,
      Nat.toDigits_zero]
    simp [List.replicate_succ']
  · rw [padded, padded, Nat.toDigits_of_base_le (by decide) hn]
    simp

theorem padded_lt_padded (hw : 0 < w) (h : m < n) (hn : n < 10 ^ w) : padded w m < padded w n := by
  induction w generalizing m n with
  | zero => cases hw
  | succ w ih =>
    rcases Nat.eq_zero_or_pos w with rfl | hw
    · rw [padded_one (by omega), padded_one (by omega)]
      exact .rel (digitChar_lt_digitChar h (by omega))
    · have hpow : 10 ^ (w + 1) = 10 * 10 ^ w := Nat.pow_succ'
      rw [padded_succ hw, padded_succ hw]
      rcases Nat.lt_or_ge (m / 10) (n / 10) with hq | hq
      · refine append_lt_append (ih hw hq (by omega)) ?_ _ _
        rw [length_padded hw (by omega), length_padded hw (by omega)]
      · have he : m / 10 = n / 10 := by omega
        rw [he]
        exact List.append_left_lt (.rel (digitChar_lt_digitChar (by omega) (by omega)))

theorem padded_append_lt (hw : 0 < w) (h : m < n) (hn : n < 10 ^ w) (xs ys : List Char) :
    padded w m ++ xs < padded w n ++ ys := by
  refine append_lt_append (padded_lt_padded hw h hn) ?_ _ _
  rw [length_padded hw (by omega), length_padded hw hn]

end Padded

theorem yearText_append_lt {x y : Int} (hx : 0 ≤ x) (h : x < y) (hy : y ≤ 9999) (xs ys : List Char) :
    yearText x ++ xs < yearText y ++ ys := by
  have htext : ∀ z, 0 ≤ z → z ≤ 9999 → yearText z = padded 4 z.natAbs := fun z hz hle => by
    rw [yearText, if_neg (by omega), if_pos hle]
  rw [htext x hx (by omega), htext y (by omega) hy]
  exact padded_append_lt (by decide) (by omega) (by omega) xs ys

theorem Date.text_append_lt {x y : Date} (h : x.Before y) (hx : 0 ≤ x.year) (hy : y.year ≤ 9999)
    (hm : y.month ≤ 12) (hd : y.day ≤ 31) (xs ys : List Char) : x.text ++ xs < y.text ++ ys := by
  simp only [text, List.append_assoc, List.cons_append]
  rcases h with h | ⟨he, h⟩
  · exact yearText_append_lt hx h hy _ _
  · rw [he]
    refine List.append_left_lt (.cons ?_)
    rcases h with h | ⟨he, h⟩
    · exact padded_append_lt (by decide) h (by omega) _ _
    · rw [he]
      exact List.append_left_lt (.cons (padded_append_lt (by decide) h (by omega) _ _))

theorem timeOfDay_lt {a b : Int} (h : a % 86400 < b % 86400) : timeOfDay a < timeOfDay b := by
  unfold timeOfDay
  dsimp only
  have hlt : (a % 86400).toNat < (b % 86400).toNat := by omega
  have hday : (b % 86400).toNat < 86400 := by omega
  generalize (a % 86400).toNat = s at hlt
  generalize (b % 86400).toNat = t at hlt hday
  simp only [List.append_assoc, List.cons_append]
  rcases Nat.lt_or_ge (s / 3600) (t / 3600) with hhour | hhour
  · exact padded_append_lt (by decide) hhour (by omega) _ _
  · have he : s / 3600 = t / 3600 := by omega
    rw [he]
    refine List.append_left_lt (.cons ?_)
    rcases Nat.lt_or_ge (s / 60 % 60) (t / 60 % 60) with hminute | hminute
    · exact padded_append_lt (by decide) hminute (by omega) _ _
    · have he : s / 60 % 60 = t / 60 % 60 := by omega
      rw [he]
      exact List.append_left_lt (.cons (padded_lt_padded (by decide) (by omega) (by omega)))

/-- The year of a time. -/
def yearAt (seconds : Int) : Int := (Date.ofDays (seconds / 86400)).year

/-- Later times have later stamps, from the year 0 to the year 9999. -/
theorem stamp_lt_stamp {a b : Int} (h : a < b) (ha : 0 ≤ yearAt a) (hb : yearAt b ≤ 9999) :
    stamp a < stamp b := by
  rw [String.lt_iff, stamp, stamp, String.toList_ofList, String.toList_ofList]
  rcases Int.lt_or_le (a / 86400) (b / 86400) with hday | hday
  · obtain ⟨hm, hd⟩ := Date.bounds_ofDays (b / 86400)
    exact Date.text_append_lt (Date.before_of_lt hday) ha hb hm hd _ _
  · have he : a / 86400 = b / 86400 := by omega
    rw [he]
    exact List.append_left_lt (.cons (timeOfDay_lt (by omega)))

theorem stamp_le_stamp {a b : Int} (h : a ≤ b) (ha : 0 ≤ yearAt a) (hb : yearAt b ≤ 9999) :
    stamp a ≤ stamp b := by
  rcases Int.lt_or_eq_of_le h with h | rfl
  · exact String.not_lt.mp (String.lt_asymm (stamp_lt_stamp h ha hb))
  · exact String.le_refl _

/-- The last second before the years need a fifth digit. -/
example : stamp 253402300799 = "9999-12-31 23:59:59" := by decide

end Calculator.Time
