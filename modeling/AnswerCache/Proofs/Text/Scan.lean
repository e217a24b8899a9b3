import AnswerCache.Proofs.Text.Delimited
import AnswerCache.Text.Scan

namespace AnswerCache.Text

namespace Scan

lemma bind_of_eq {α β : Type} {scan : Scan α} {cs rest : List Char} {a : α}
    (h : scan cs = some (a, rest)) (next : α → Scan β) : (scan >>= next) cs = next a rest := by
  change (scan cs).bind (fun r => next r.1 r.2) = next a rest
  rw [h]
  rfl

lemma to_end {α : Type} {scan : Scan α} {cs : List Char} {a : α}
    (h : scan (cs ++ []) = some (a, [])) : scan cs = some (a, []) := by
  rwa [List.append_nil] at h

lemma char_cons (c : Char) (rest : List Char) : char c (c :: rest) = some ((), rest) :=
  if_pos rfl

lemma charIn_cons {p : Char → Bool} {c : Char} (h : p c = true) (rest : List Char) :
    charIn p (c :: rest) = some (c, rest) :=
  if_pos h

lemma peek_cons (c : Char) (rest : List Char) : peek (c :: rest) = some (some c, c :: rest) :=
  rfl

lemma digits_append {ds : List Char} (hne : ds ≠ []) (hds : ∀ c ∈ ds, c.isDigit = true)
    (rest : List Char) : digits ds.length (ds ++ rest) = some (ds, rest) := by
  have htaken : ds.takeWhile Char.isDigit = ds := List.takeWhile_eq_self_iff.mpr hds
  simp [digits, htaken, hne]

lemma allDigits_append {ds rest : List Char} (hne : ds ≠ []) (hds : ∀ c ∈ ds, c.isDigit = true)
    (hrest : Stops Char.isDigit rest) : allDigits (ds ++ rest) = some (ds, rest) := by
  have htaken : (ds ++ rest).takeWhile Char.isDigit = ds := (span_append hds hrest).1
  simp [allDigits, htaken, hne]

lemma digits_padded {width n : Nat} (hw : 0 < width) (hn : n < Nat.pow 10 width)
    (rest : List Char) :
    digits width (padded width n ++ rest) = some (padded width n, rest) := by
  have hlength := length_padded hw hn
  have hne : padded width n ≠ [] := List.ne_nil_of_length_pos (by omega)
  have hdigits := digits_append hne (fun _ => isDigit_of_mem_padded) rest
  rwa [hlength] at hdigits

lemma exactly_padded {width n : Nat} (hw : 0 < width) (hn : n < Nat.pow 10 width)
    (rest : List Char) : exactly width (padded width n ++ rest) = some (n, rest) := by
  rw [exactly, bind_of_eq (digits_padded hw hn rest), if_pos (length_padded hw hn),
    digitsValue_padded]
  rfl

lemma exactly_of_not_isDigit {width : Nat} {c : Char} (h : c.isDigit = false)
    (rest : List Char) : exactly width (c :: rest) = none := by
  have hnone : ((c :: rest).take width).takeWhile Char.isDigit = [] := by
    cases width <;> simp [h]
  change (digits width (c :: rest)).bind _ = none
  rw [digits, hnone]
  rfl

def Leaves {α : Type} (c : Char) (scan : Scan α) : Prop :=
  ∀ cs a rest, scan cs = some (a, rest) → c ∈ cs → c ∈ rest

section Leaves

variable {α β : Type} {c : Char}

lemma Leaves.bind {scan : Scan α} {next : α → Scan β} (h : Leaves c scan)
    (hnext : ∀ a, Leaves c (next a)) : Leaves c (scan >>= next) := by
  intro cs b rest hread hc
  obtain ⟨⟨a, middle⟩, hscan, hrest⟩ := Option.bind_eq_some_iff.mp hread
  exact hnext a middle b rest hrest (h cs a middle hscan hc)

lemma leaves_pure (a : α) : Leaves c (pure a : Scan α) := by
  intro cs b rest hread hc
  obtain ⟨-, rfl⟩ := Prod.mk.inj (Option.some.inj hread)
  exact hc

lemma leaves_peek : Leaves c peek := by
  intro cs b rest hread hc
  obtain ⟨-, rfl⟩ := Prod.mk.inj (Option.some.inj hread)
  exact hc

lemma leaves_char {d : Char} (hd : d ≠ c) : Leaves c (char d) := by
  intro cs u rest hread hc
  cases cs with
  | nil => contradiction
  | cons e cs =>
    simp only [char] at hread
    split at hread
    · rename_i he
      obtain ⟨-, rfl⟩ := Prod.mk.inj (Option.some.inj hread)
      exact (List.mem_cons.mp hc).resolve_left fun h => hd (he ▸ h.symm)
    · contradiction

lemma mem_drop_of_prefix {taken cs : List Char} (h : taken <+: cs) (hc : c ∈ cs)
    (htaken : c ∉ taken) : c ∈ cs.drop taken.length := by
  obtain ⟨rest, rfl⟩ := h
  rw [List.drop_left]
  exact (List.mem_append.mp hc).resolve_left htaken

lemma notMem_takeWhile {p : Char → Bool} (h : p c = false) (cs : List Char) :
    c ∉ cs.takeWhile p := by
  intro hc
  rw [List.mem_takeWhile_imp hc] at h
  contradiction

lemma leaves_blanks (h : isBlank c = false) : Leaves c blanks := by
  intro cs u rest hread hc
  obtain ⟨-, rfl⟩ := Prod.mk.inj (Option.some.inj hread)
  rw [← List.takeWhile_append_dropWhile (p := isBlank) (l := cs)] at hc
  exact (List.mem_append.mp hc).resolve_left (notMem_takeWhile h cs)

lemma leaves_digits (h : c.isDigit = false) (most : Nat) : Leaves c (digits most) := by
  intro cs ds rest hread hc
  simp only [digits] at hread
  split at hread
  · contradiction
  · obtain ⟨-, rfl⟩ := Prod.mk.inj (Option.some.inj hread)
    exact mem_drop_of_prefix ((List.takeWhile_prefix _).trans (List.take_prefix most cs)) hc
      (notMem_takeWhile h _)

lemma leaves_allDigits (h : c.isDigit = false) : Leaves c allDigits := by
  intro cs ds rest hread hc
  simp only [allDigits] at hread
  split at hread
  · contradiction
  · obtain ⟨-, rfl⟩ := Prod.mk.inj (Option.some.inj hread)
    exact mem_drop_of_prefix (List.takeWhile_prefix _) hc (notMem_takeWhile h _)

lemma Leaves.whole {scan : Scan α} (h : Leaves c scan) {cs : List Char} (hc : c ∈ cs) :
    scan.whole cs = none := by
  rw [Scan.whole]
  split
  · rename_i a hread
    exact absurd (h cs a [] hread hc) List.not_mem_nil
  · rfl

end Leaves

end Scan

lemma isBlank_of_isDigit {c : Char} (h : c.isDigit = true) : isBlank c = false := by
  obtain ⟨hmin, hmax⟩ : 48 ≤ c.toNat ∧ c.toNat ≤ 57 := Char.isDigit_iff_toNat.mp h
  simp [isBlank, within, blankRanges]
  omega

lemma skipBlanks_of_not_isBlank {cs : List Char} (h : ∀ c ∈ cs.head?, isBlank c = false) :
    skipBlanks cs = cs := by
  cases cs with
  | nil => rfl
  | cons c cs => simp [skipBlanks, h c rfl]

lemma trim_of_not_isBlank {cs : List Char} (hhead : ∀ c ∈ cs.head?, isBlank c = false)
    (hlast : ∀ c ∈ cs.getLast?, isBlank c = false) : trim cs = cs := by
  rw [trim, skipBlanks_of_not_isBlank hhead, skipBlanks_of_not_isBlank, List.reverse_reverse]
  rwa [List.head?_reverse]

lemma Scan.blanks_padded (width n : Nat) (rest : List Char) :
    blanks (padded width n ++ rest) = some ((), padded width n ++ rest) := by
  obtain ⟨c, tail, htext, hc⟩ := padded_eq_cons width n
  have hskipped : skipBlanks (padded width n ++ rest) = padded width n ++ rest := by
    apply skipBlanks_of_not_isBlank
    intro d hd
    rw [htext] at hd
    exact Option.some.inj hd ▸ isBlank_of_isDigit hc
  rw [blanks, hskipped]

end AnswerCache.Text
