import AnswerCache.Execution.Segments
import AnswerCache.Proofs.Json.RoundTrip
import Mathlib.Data.String.Basic

namespace AnswerCache

open Json

lemma length_le_utf8ByteSize (cs : List Char) : cs.length ≤ (String.ofList cs).utf8ByteSize := by
  rw [String.utf8ByteSize_ofList]
  induction cs with
  | nil => exact Nat.zero_le _
  | cons c cs ih =>
    rw [String.utf8Len, List.length_cons]
    have hpos := c.utf8Size_pos
    omega

lemma length_le_compactMoreItems (items : List Json) :
    items.length ≤ (compactMoreItems items).length := by
  induction items with
  | nil => exact Nat.zero_le _
  | cons item rest ih =>
    simp only [compactMoreItems, List.length_cons, List.length_append]
    omega

lemma length_le_compact (items : List Json) : items.length ≤ (array items).compact.length := by
  have hitems : items.length ≤ (compactItems items).length := by
    cases items with
    | nil => exact Nat.zero_le _
    | cons item rest =>
      have hmore := length_le_compactMoreItems rest
      have hpos := item.length_compact_pos
      simp only [compactItems, List.length_cons, List.length_append]
      omega
  simp only [compact, List.length_cons, List.length_append]
  omega

lemma strings_cases (texts : List String) : WellFormed.All (texts.map Json.string) ∧
    numbersOfItems (texts.map Json.string) = [] ∧ nestingOfItems (texts.map Json.string) = 0 := by
  induction texts with
  | nil => exact ⟨trivial, rfl, rfl⟩
  | cons t rest ih =>
    obtain ⟨hformed, hnumbers, hnesting⟩ := ih
    refine ⟨⟨trivial, hformed⟩, hnumbers, ?_⟩
    rw [List.map_cons, nestingOfItems, hnesting]
    rfl

namespace Registry

lemma readable_payload {r : Registry} {q : Query} (h : (r.scanned q).length < UInt64.size) :
    (r.payload q).WellFormed ∧ (∀ x, .double x ∉ (r.payload q).numbers) ∧
      (r.payload q).nesting ≤ maxLevels := by
  obtain ⟨hformed, hnumbers, hnesting⟩ := strings_cases (r.scanned q)
  have hrange : (Number.whole (r.scanned q).length).InRange := by
    have hmin : Int64.minValue.toInt = -9223372036854775808 := rfl
    constructor <;> omega
  have hkeys : Increasing [("rows", Json.nat (r.scanned q).length),
      ("segments", array ((r.scanned q).map .string))] :=
    List.pairwise_pair.mpr (show "rows" < "segments" by decide)
  refine ⟨⟨⟨hkeys, hrange, hformed, trivial⟩, trivial⟩, ?_, ?_⟩
  · intro x hx
    simp [payload, nat, numbers, numbersOfItems, numbersOfFields, hnumbers] at hx
  · simp only [payload, nat, nesting, nestingOfItems, nestingOfFields, hnesting]
    decide

theorem parse?_payload {r : Registry} {q : Query} {limit : UInt64}
    (h : (r.payload q).compactText.utf8ByteSize ≤ limit.toNat) :
    parse? (r.payload q).compactText = some (r.payload q) := by
  have hlength : (r.scanned q).length < UInt64.size := by
    have hlimit := limit.toNat_lt_size
    have hbytes := length_le_utf8ByteSize (r.payload q).compact
    have hitems := length_le_compact ((r.scanned q).map Json.string)
    have hsub : (array ((r.scanned q).map Json.string)).compact.length ≤
        (r.payload q).compact.length := by
      simp only [payload, compact, compactItems, compactFields, compactMoreFields,
        compactMoreItems, List.length_cons, List.length_append]
      omega
    rw [List.length_map] at hitems
    rw [compactText] at h
    omega
  obtain ⟨hformed, hdoubles, hnesting⟩ := readable_payload hlength
  rw [parse?_compactText hformed fun x hx => absurd hx (hdoubles x), if_pos hnesting]

end Registry

end AnswerCache
