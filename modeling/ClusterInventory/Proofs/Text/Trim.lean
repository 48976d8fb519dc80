import ClusterInventory.Text.Blank
import Mathlib.Data.List.TakeWhile

/-!
# Blanks around a text

Trimming takes away the blanks at either end and nothing else (`exists_trim`); a text without blanks
is what is left of itself between blanks (`trim_append`).
-/

namespace ClusterInventory.Text

variable {front cs back : List Char}

/-- Dropping the blanks in front stops at a text without blanks. -/
theorem dropWhile_append_blanks (hfront : ∀ c ∈ front, isBlank c = true)
    (hcs : ∀ c ∈ cs, isBlank c = false) (hne : cs ≠ []) (rest : List Char) :
    (front ++ (cs ++ rest)).dropWhile isBlank = cs ++ rest := by
  obtain ⟨c, cs, rfl⟩ := List.exists_cons_of_ne_nil hne
  rw [List.dropWhile_append_of_pos hfront, List.cons_append,
    List.dropWhile_cons_of_neg (by simp [hcs c (.head _)])]

theorem trim_append (hfront : ∀ c ∈ front, isBlank c = true) (hback : ∀ c ∈ back, isBlank c = true)
    (hcs : ∀ c ∈ cs, isBlank c = false) (hne : cs ≠ []) : trim (front ++ cs ++ back) = cs := by
  have hback' : ∀ c ∈ back.reverse, isBlank c = true := fun c hc => hback c (List.mem_reverse.1 hc)
  have hcs' : ∀ c ∈ cs.reverse, isBlank c = false := fun c hc => hcs c (List.mem_reverse.1 hc)
  have hend := dropWhile_append_blanks hback' hcs' (List.reverse_ne_nil_iff.2 hne) []
  rw [List.append_nil] at hend
  rw [trim, trimStart, List.append_assoc, dropWhile_append_blanks hfront hcs hne, trimEnd,
    List.reverse_append, hend, List.reverse_reverse]

theorem exists_trim (cs : List Char) : ∃ front back : List Char,
    (∀ c ∈ front, isBlank c = true) ∧ (∀ c ∈ back, isBlank c = true) ∧
      cs = front ++ trim cs ++ back := by
  refine ⟨cs.takeWhile isBlank, ((trimStart cs).reverse.takeWhile isBlank).reverse,
    fun c hc => List.mem_takeWhile_imp hc,
    fun c hc => List.mem_takeWhile_imp (List.mem_reverse.1 hc), ?_⟩
  rw [trim, trimEnd, List.append_assoc, ← List.reverse_append, List.takeWhile_append_dropWhile,
    List.reverse_reverse, trimStart, List.takeWhile_append_dropWhile]

end ClusterInventory.Text
