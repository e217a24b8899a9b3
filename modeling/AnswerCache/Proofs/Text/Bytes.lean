import AnswerCache.CacheKey
import Mathlib.Logic.Function.Defs
import Mathlib.Tactic.SplitIfs

namespace AnswerCache

lemma toList_loop_eq (bytes : ByteArray) (i : Nat) (read : List UInt8) :
    ByteArray.toList.loop bytes i read = read.reverse ++ bytes.data.toList.drop i := by
  fun_induction ByteArray.toList.loop bytes i read with
  | case1 i read hi ih =>
    have hsize : i < bytes.data.toList.length := hi
    have hget : bytes.get! i = bytes.data.toList[i] := getElem!_pos bytes.data i hi
    rw [ih, List.reverse_cons, List.append_assoc, List.drop_eq_getElem_cons hsize, hget,
      List.singleton_append]
  | case2 i read hi =>
    have hsize : bytes.data.toList.length ≤ i := Nat.not_lt.mp hi
    rw [List.drop_eq_nil_of_le hsize, List.append_nil]

lemma utf8Bytes_eq (s : String) : utf8Bytes s = s.toList.flatMap String.utf8EncodeChar := by
  have hbytes : s.toUTF8 = (String.ofList s.toList).toByteArray := by rw [String.ofList_toList]; rfl
  rw [utf8Bytes, ByteArray.toList, toList_loop_eq, hbytes, String.toByteArray_ofList,
    List.utf8Encode, List.toList_data_toByteArray]
  rfl

lemma utf8Bytes_injective : Function.Injective utf8Bytes := by
  intro s t h
  simp only [utf8Bytes, ByteArray.toList, toList_loop_eq, List.reverse_nil, List.nil_append,
    List.drop_zero] at h
  exact String.toByteArray_inj.mp (ByteArray.ext (Array.toList_inj.mp h))

section Order

lemma cons_lt_cons_of_byte {a b : Nat} (ha : a < 256) (hb : b < 256) {l l' : List UInt8}
    (h : a < b ∨ a = b ∧ l < l') : UInt8.ofNat a :: l < UInt8.ofNat b :: l' := by
  rw [List.cons_lt_cons_iff, UInt8.lt_iff_toNat_lt, ← UInt8.toNat_inj, UInt8.toNat_ofNat',
    UInt8.toNat_ofNat', Nat.mod_eq_of_lt ha, Nat.mod_eq_of_lt hb]
  exact h

lemma before_of_continuation {m n : Nat} {l l' : List UInt8} (h : m < n ∨ m = n ∧ l < l') :
    m / 64 < n / 64 ∨ m / 64 = n / 64 ∧
      UInt8.ofNat (m % 64 + 128) :: l < UInt8.ofNat (n % 64 + 128) :: l' := by
  have hle : m / 64 ≤ n / 64 := Nat.div_le_div_right (by omega)
  rcases Nat.lt_or_eq_of_le hle with hlt | heq
  · exact Or.inl hlt
  · refine Or.inr ⟨heq, cons_lt_cons_of_byte (by omega) (by omega) ?_⟩
    exact h.imp (by omega) (And.imp (by omega) id)

lemma utf8EncodeChar_append_lt {c d : Char} (h : c < d) (rest rest' : List UInt8) :
    String.utf8EncodeChar c ++ rest < String.utf8EncodeChar d ++ rest' := by
  have hlt : c.val.toNat < d.val.toNat := h
  have hmax : d.val.toNat < 0x110000 := by
    rcases d.valid with hd | ⟨-, hd⟩
    · exact Nat.lt_trans hd (by decide)
    · exact hd
  have hdigits : ∀ n, n / 4096 = n / 64 / 64 ∧ n / 262144 = n / 64 / 64 / 64 := fun n =>
    ⟨by rw [Nat.div_div_eq_div_mul], by rw [Nat.div_div_eq_div_mul, Nat.div_div_eq_div_mul]⟩
  simp only [String.utf8EncodeChar, hdigits]
  generalize c.val.toNat = m at *
  generalize d.val.toNat = n at *
  have hone : m < n ∨ m = n ∧ rest < rest' := Or.inl hlt
  have htwo := before_of_continuation hone
  have hthree := before_of_continuation htwo
  have hfour := before_of_continuation hthree
  split_ifs
  -- in each pair of lengths: the first bytes differ, or they are equal and the digits behind decide
  all_goals
    simp only [List.cons_append, List.nil_append]
    apply cons_lt_cons_of_byte (by omega) (by omega)
  all_goals
    first
    | omega
    | exact htwo.imp (by omega) (And.imp (by omega) id)
    | exact hthree.imp (by omega) (And.imp (by omega) id)
    | exact hfour.imp (by omega) (And.imp (by omega) id)

lemma flatMap_utf8EncodeChar_lt {cs ds : List Char} (h : List.Lex (· < ·) cs ds) :
    cs.flatMap String.utf8EncodeChar < ds.flatMap String.utf8EncodeChar := by
  induction h with
  | @nil d ds =>
    obtain ⟨b, bs, hbytes⟩ := List.exists_cons_of_ne_nil (String.utf8EncodeChar_ne_nil (c := d))
    rw [List.flatMap_cons, hbytes]
    exact List.nil_lt_cons _ _
  | rel hlt =>
    rw [List.flatMap_cons, List.flatMap_cons]
    exact utf8EncodeChar_append_lt hlt _ _
  | cons _ ih =>
    rw [List.flatMap_cons, List.flatMap_cons]
    exact List.append_left_lt ih

lemma utf8Bytes_lt {s t : String} (h : s < t) : utf8Bytes s < utf8Bytes t := by
  rw [utf8Bytes_eq, utf8Bytes_eq]
  exact flatMap_utf8EncodeChar_lt (String.lt_iff.mp h)

end Order

end AnswerCache
