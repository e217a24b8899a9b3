import AnswerCache.Proofs.Canonical

namespace AnswerCache

lemma bind_eq_error {ε α β : Type} {x : Except ε α} {f : α → Except ε β} {e : ε} :
    (x >>= f) = .error e ↔ x = .error e ∨ ∃ a, x = .ok a ∧ f a = .error e := by
  cases x <;> simp [bind, Except.bind]

namespace Binary64

def fault? : Binary64 → Option EncodeError
  | finite _ => none
  | infinite negative => some (.infinite negative)
  | nan => some .notANumber

lemma toJson_error_iff (x : Binary64) (e : EncodeError) : x.toJson = .error e ↔ x.fault? = some e := by
  cases x <;> simp [toJson, fault?]

lemma isSome_fault?_iff (x : Binary64) :
    x.fault?.isSome = true ↔ x = .nan ∨ ∃ negative, x = .infinite negative := by
  cases x <;> simp [fault?]

end Binary64

namespace PostAggregation

mutual

def constants : PostAggregation → List Binary64
  | arithmetic _ _ fields => constantsOfList fields
  | fieldAccess _ _ => []
  | constant _ value => [value]

def constantsOfList : List PostAggregation → List Binary64
  | [] => []
  | p :: ps => p.constants ++ constantsOfList ps

end

mutual

lemma toJson_error_iff (p : PostAggregation) (e : EncodeError) :
    p.toJson = .error e ↔ p.constants.findSome? Binary64.fault? = some e := by
  match p with
  | arithmetic name f fields =>
    rw [toJson, bind_eq_error, listToJson_error_iff fields, constants]
    simp [pure, Except.pure]
  | fieldAccess name field => simp [toJson, constants, pure, Except.pure]
  | constant name x =>
    rw [toJson, bind_eq_error, x.toJson_error_iff, constants]
    cases hx : x.fault? <;> simp [pure, Except.pure, hx]

lemma listToJson_error_iff (ps : List PostAggregation) (e : EncodeError) :
    listToJson ps = .error e ↔ (constantsOfList ps).findSome? Binary64.fault? = some e := by
  match ps with
  | [] => simp [listToJson, constantsOfList, pure, Except.pure]
  | p :: ps =>
    rw [listToJson, bind_eq_error, constantsOfList, List.findSome?_append]
    cases hp : p.toJson with
    | error fault =>
      have hfirst := (toJson_error_iff p fault).mp hp
      simp [hfirst]
    | ok j =>
      have hnone : p.constants.findSome? Binary64.fault? = none := by
        rw [Option.eq_none_iff_forall_ne_some]
        intro fault hfault
        rw [(toJson_error_iff p fault).mpr hfault] at hp
        contradiction
      simp [hnone, bind_eq_error, listToJson_error_iff ps, pure, Except.pure]

end

end PostAggregation

namespace Query

def constants (q : Query) : List Binary64 :=
  PostAggregation.constantsOfList q.postAggregations

lemma toJson_error_iff (q : Query) (e : EncodeError) :
    q.toJson = .error e ↔ q.constants.findSome? Binary64.fault? = some e := by
  rw [toJson, bind_eq_error, PostAggregation.listToJson_error_iff, constants]
  simp [pure, Except.pure]

lemma exists_toJson_error_iff (q : Query) : (∃ e, q.toJson = .error e) ↔
    ∃ x ∈ q.constants, x = .nan ∨ ∃ negative, x = .infinite negative := by
  simp only [toJson_error_iff, ← Option.isSome_iff_exists, List.findSome?_isSome_iff,
    Binary64.isSome_fault?_iff]

end Query

end AnswerCache
