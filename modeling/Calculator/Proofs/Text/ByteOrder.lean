/-!
Texts are in the order of their bytes. UTF-8 keeps the order of the characters: of two characters the
greater one has the greater first byte where their encodings differ, whatever follows them.
-/

namespace Calculator.Text

/-- The order of bytes: the first byte that differs decides, and a text stands before all that go on
from it. -/
def BytesBefore (s t : String) : Prop :=
  List.Lex (· < ·) s.toUTF8.data.toList t.toUTF8.data.toList

theorem data_toUTF8 (text : String) :
    text.toUTF8.data.toList = text.toList.flatMap String.utf8EncodeChar := by
  rw [String.toUTF8, ← String.utf8Encode_toList, List.utf8Encode]
  simp

theorem lex_cons_of_le {m n : Nat} {xs ys : List UInt8} (hn : n < 256) (hle : m ≤ n)
    (h : m = n → List.Lex (· < ·) xs ys) :
    List.Lex (· < ·) (UInt8.ofNat m :: xs) (UInt8.ofNat n :: ys) := by
  rcases Nat.eq_or_lt_of_le hle with rfl | hlt
  · exact .cons (h rfl)
  · refine .rel ?_
    rw [UInt8.lt_iff_toNat_lt, UInt8.toNat_ofNat', UInt8.toNat_ofNat']
    omega

theorem lex_utf8EncodeChar {c d : Char} (h : c < d) (xs ys : List UInt8) :
    List.Lex (· < ·) (String.utf8EncodeChar c ++ xs) (String.utf8EncodeChar d ++ ys) := by
  have hlt : c.val.toNat < d.val.toNat := h
  have hd : d.val.toNat < 1114112 := by
    rcases d.valid with h | h <;> omega
  unfold String.utf8EncodeChar
  dsimp only
  generalize c.val.toNat = m at hlt
  generalize d.val.toNat = n at hlt hd
  -- encodings of unlike length differ in the first byte, those of one length where the numbers do
  repeat' split
  all_goals simp only [List.cons_append, List.nil_append]
  all_goals repeat' first | omega | refine lex_cons_of_le (by omega) (by omega) fun _ => ?_

theorem lex_flatMap_utf8EncodeChar {cs ds : List Char} (h : List.Lex (· < ·) cs ds) :
    List.Lex (· < ·) (cs.flatMap String.utf8EncodeChar) (ds.flatMap String.utf8EncodeChar) := by
  induction h with
  | @nil d ds =>
    obtain ⟨b, bs, hb⟩ := List.exists_cons_of_ne_nil (String.utf8EncodeChar_ne_nil (c := d))
    rw [List.flatMap_nil, List.flatMap_cons, hb]
    exact .nil
  | cons h ih =>
    rw [List.flatMap_cons, List.flatMap_cons]
    exact List.append_left_lt ih
  | rel h =>
    rw [List.flatMap_cons, List.flatMap_cons]
    exact lex_utf8EncodeChar h _ _

theorem bytesBefore_of_lt {s t : String} (h : s < t) : BytesBefore s t := by
  rw [BytesBefore, data_toUTF8, data_toUTF8]
  exact lex_flatMap_utf8EncodeChar (String.lt_iff.mp h)

/-- The order of the bytes is that of the texts. -/
theorem bytesBefore_iff {s t : String} : BytesBefore s t ↔ s < t := by
  refine ⟨fun h => Decidable.byContradiction fun hn => ?_, bytesBefore_of_lt⟩
  by_cases hle : s ≤ t
  · obtain rfl := String.le_antisymm hle (String.not_lt.mp hn)
    exact List.lt_irrefl _ h
  · exact List.lt_asymm h (bytesBefore_of_lt (String.not_le.mp hle))

end Calculator.Text
