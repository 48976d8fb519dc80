import ClusterInventory.Api.Request

/-!
# Requests that can be made

A target without a fragment is read as a path and a query of its own, behind which pairs are written
(`Request.exists_parts`). A mere path is read as it stands (`Request.ofQuery_of_path`).
-/

namespace ClusterInventory.Api.Request

variable {path mark target : String} {pairs : List (String × String)}

theorem queryPairs_empty : Text.queryPairs "" = [] := by
  have hparts : "".splitOn "&" = [""] := by
    rw [String.splitOn, if_neg (by decide), String.splitOnAux, if_pos (by decide)]
    decide
  show ((("".splitOn "&").filter (· != "")).map _) = []
  rw [hparts]
  rfl

/-- All requests for one target without a fragment are at one path, and have the query of the target
and then their pairs. -/
theorem exists_parts (h : '#' ∉ target.toList) :
    ∃ path own, ∀ pairs r, ofQuery target pairs = .ok r → r = { path, query := own ++ pairs } := by
  have hmark : target.toList.contains '#' = false := by simpa using h
  cases hsplit : Http.splitTarget? target.toList with
  | none =>
    refine ⟨"", [], fun pairs r hr => ?_⟩
    simp only [ofQuery, hsplit] at hr
    split at hr <;> cases hr
  | some parts =>
    obtain ⟨path, own⟩ := parts
    refine ⟨String.ofList path, Text.queryPairs (String.ofList own), fun pairs r hr => ?_⟩
    simp only [ofQuery, hsplit, hmark] at hr
    split at hr <;> cases hr
    rfl

/-- A path, with or without the mark of a query behind it. -/
theorem ofQuery_of_path (hmark : mark = "" ∨ mark = "?")
    (hpath : path.toList.all Http.isPathChar = true)
    (hfit : (path ++ mark).utf8ByteSize + Text.pairsSize pairs ≤ Http.maxUriSize) :
    ofQuery (path ++ mark) pairs = .ok { path, query := pairs } := by
  have hplain (c : Char) (hc : c ∈ path.toList) : c ≠ '?' ∧ c ≠ '#' := by
    have hc := List.all_eq_true.1 hpath c hc
    constructor <;> rintro rfl <;> revert hc <;> decide
  have hfragment : (path ++ mark).toList.contains '#' = false := by
    have hnone : '#' ∉ path.toList := fun h => (hplain '#' h).2 rfl
    rcases hmark with rfl | rfl <;> simpa [String.toList_append] using hnone
  have htake : (path ++ mark).toList.takeWhile (fun c => c != '?' && c != '#') = path.toList := by
    rw [String.toList_append, List.takeWhile_append_of_pos]
    · rcases hmark with rfl | rfl <;> simp
    · intro c hc
      simp [hplain c hc]
  have hsplit : Http.splitTarget? (path ++ mark).toList = some (path.toList, []) := by
    simp only [Http.splitTarget?, htake, hpath, if_true]
    rcases hmark with rfl | rfl <;> simp
  have hown : Text.queryPairs (String.ofList []) = [] := queryPairs_empty
  simp only [ofQuery, hsplit, hfragment, hown, if_neg (Nat.not_lt.2 hfit), String.ofList_toList,
    List.nil_append]
  rfl

theorem ofTarget_of_path (hpath : path.toList.all Http.isPathChar = true)
    (hfit : path.utf8ByteSize ≤ Http.maxUriSize) : ofTarget path = .ok { path } := by
  have hfit : (path ++ "").utf8ByteSize + Text.pairsSize [] ≤ Http.maxUriSize := by
    simpa [Text.pairsSize] using hfit
  have h := ofQuery_of_path (.inl rfl) hpath hfit
  rwa [String.append_empty] at h

/-- A target is refused for a character only where it is not too long. -/
theorem ofTarget_of_badCharacter (hsplit : Http.splitTarget? target.toList = none)
    (hfit : target.utf8ByteSize ≤ Http.maxUriSize) :
    ofTarget target = .error .badCharacter := by
  have hfit : ¬target.utf8ByteSize + Text.pairsSize [] > Http.maxUriSize :=
    Nat.not_lt.2 (by simpa [Text.pairsSize] using hfit)
  rw [ofTarget, ofQuery, if_neg hfit, hsplit]

end ClusterInventory.Api.Request
