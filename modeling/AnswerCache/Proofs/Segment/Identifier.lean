import AnswerCache.Proofs.Time.Written
import AnswerCache.Segment.Basic

namespace AnswerCache.Segment

open Text

lemma append_inj_of_size {s t : String} {rest rest' : List Char}
    (hsize : s.utf8ByteSize = t.utf8ByteSize) (h : s.toList ++ rest = t.toList ++ rest') :
    s = t ∧ rest = rest' := by
  have hprefix : ∀ {a b : String} {cs : List Char}, a.utf8ByteSize = b.utf8ByteSize →
      a.toList = b.toList ++ cs → cs = [] := by
    intro a b cs hab he
    have ha : a = b ++ String.ofList cs := by
      rw [← String.toList_inj, String.toList_append, String.toList_ofList, he]
    rw [ha, String.utf8ByteSize_append] at hab
    have hz : String.ofList cs = "" := String.utf8ByteSize_eq_zero_iff.mp (by omega)
    simpa using congrArg String.toList hz
  rcases List.append_eq_append_iff.mp h with ⟨cs, hc, hrest⟩ | ⟨cs, hc, hrest⟩
  · obtain rfl := hprefix hsize.symm hc
    exact ⟨String.toList_inj.mp (by simpa using hc.symm), by simpa using hrest⟩
  · obtain rfl := hprefix hsize hc
    exact ⟨String.toList_inj.mp (by simpa using hc), by simpa using hrest.symm⟩

lemma measured_append_inj {s t : String} {rest rest' : List Char}
    (h : measured s ++ rest = measured t ++ rest') : s = t ∧ rest = rest' := by
  simp only [measured, List.append_assoc, List.cons_append] at h
  obtain ⟨hsize, h⟩ := append_cons_inj ':' (notMem_decimal rfl _) (notMem_decimal rfl _) h
  exact append_inj_of_size (decimal_injective hsize) h

lemma identifier_append_inj {s t : Segment} {rest rest' : List Char}
    (hr : Stops Char.isDigit rest) (hr' : Stops Char.isDigit rest')
    (h : s.identifier.toList ++ rest = t.identifier.toList ++ rest') :
    s.identity = t.identity ∧ rest = rest' := by
  simp only [identifier, String.toList_ofList, List.append_assoc, List.cons_append] at h
  obtain ⟨hsource, h⟩ := measured_append_inj h
  obtain ⟨hstart, h⟩ := append_cons_inj '_' (Instant.underscore_notMem_identifying _)
    (Instant.underscore_notMem_identifying _) (List.tail_eq_of_cons_eq h)
  obtain ⟨hstop, h⟩ := append_cons_inj '_' (Instant.underscore_notMem_identifying _)
    (Instant.underscore_notMem_identifying _) h
  obtain ⟨hversion, h⟩ := measured_append_inj h
  obtain ⟨hpartition, hrest⟩ := append_inj_of_stops Char.isDigit
    (fun _ => isDigit_of_mem_decimal) (fun _ => isDigit_of_mem_decimal) hr hr'
    (List.tail_eq_of_cons_eq h)
  have hinterval : s.interval = t.interval := by
    have hs := Instant.identifying_inj s.interval.start_milli t.interval.start_milli hstart
    have ht := Instant.identifying_inj s.interval.stop_milli t.interval.stop_milli hstop
    cases hi : s.interval
    cases hj : t.interval
    simp_all
  have hnumber : s.partition = t.partition :=
    UInt32.toNat_inj.mp (decimal_injective hpartition)
  exact ⟨by simp only [identity, hsource, hinterval, hversion, hnumber], hrest⟩

theorem identity_eq_of_identifier_eq {s t : Segment} (h : s.identifier = t.identifier) :
    s.identity = t.identity :=
  (identifier_append_inj (stops_nil _) (stops_nil _) (by rw [h])).1

theorem identifier_eq_iff {s t : Segment} :
    s.identifier = t.identifier ↔ s.identity = t.identity := by
  constructor
  · exact identity_eq_of_identifier_eq
  · intro h
    simp only [identity, Prod.mk.injEq] at h
    obtain ⟨hsource, hinterval, hversion, hpartition⟩ := h
    simp only [identifier, hsource, hinterval, hversion, hpartition]

/-- Whatever the free texts hold, an identifier is read in one way only. -/
theorem identifiers_agree_iff (s t : Segment) :
    s.identifier = t.identifier ↔
      s.dataSource = t.dataSource ∧ s.interval = t.interval ∧ s.version = t.version ∧
        s.partition = t.partition := by
  rw [identifier_eq_iff]
  simp only [identity, Prod.mk.injEq]

theorem lines_injective {ss ts : List Segment}
    (h : (ss.map identifier).flatMap (fun id => id.toList ++ ['\n']) =
      (ts.map identifier).flatMap (fun id => id.toList ++ ['\n'])) :
    ss.map identifier = ts.map identifier := by
  induction ss generalizing ts with
  | nil => cases ts <;> simp_all
  | cons s ss ih =>
    cases ts with
    | nil => simp at h
    | cons t ts =>
      simp only [List.map_cons, List.flatMap_cons, List.append_assoc, List.singleton_append] at h
      obtain ⟨hid, h⟩ := identifier_append_inj (stops_cons rfl _) (stops_cons rfl _) h
      rw [List.map_cons, List.map_cons, identifier_eq_iff.mpr hid, ih (List.tail_eq_of_cons_eq h)]

end AnswerCache.Segment
