import ClusterInventory.Text.Split
import Mathlib.Data.List.Infix

/-!
# Marks in a text

A text contains a mark where the mark is an infix of it (`contains_iff`), and begins with one that
is a prefix of it (`startsWith_iff`). A mark of one character cuts a text where it stands first
(`splitOnce_append`).
-/

namespace ClusterInventory.Text

variable {s t mark : String} {cs : List Char}

theorem isSome_splitAtMark_iff {mark : List Char} :
    (splitAtMark mark cs).isSome = true ↔ mark <:+: cs := by
  induction cs with
  | nil => cases mark <;> simp [splitAtMark]
  | cons c rest ih =>
    rw [List.infix_cons_iff, ← List.isPrefixOf_iff_prefix, splitAtMark]
    split
    · next hmark => simp [hmark]
    · next hmark => simp [hmark, ih]

theorem contains_iff : contains s mark = true ↔ mark.toList <:+: s.toList :=
  isSome_splitAtMark_iff

theorem startsWith_iff : startsWith s mark = true ↔ mark.toList <+: s.toList :=
  List.isPrefixOf_iff_prefix

/-! ## Marks of one character -/

variable {c : Char}

theorem splitAtMark_of_not_mem (h : c ∉ cs) : splitAtMark [c] cs = none := by
  rw [← Option.not_isSome_iff_eq_none, isSome_splitAtMark_iff]
  exact fun hmark => h (hmark.subset List.mem_cons_self)

theorem splitAtMark_append {before after : List Char} (h : c ∉ before) :
    splitAtMark [c] (before ++ c :: after) = some (before, after) := by
  induction before with
  | nil => simp [splitAtMark]
  | cons b before ih =>
    obtain ⟨hb, hbefore⟩ := not_or.1 (mt List.mem_cons.2 h)
    simp [splitAtMark, hb, ih hbefore]

theorem splitOnce_of_not_mem (hmark : mark.toList = [c]) (h : c ∉ s.toList) :
    splitOnce s mark = none := by
  rw [splitOnce, hmark, splitAtMark_of_not_mem h]
  rfl

theorem splitOnce_append (hmark : mark.toList = [c]) (h : c ∉ s.toList) :
    splitOnce (s ++ mark ++ t) mark = some (s, t) := by
  have hchars : (s ++ mark ++ t).toList = s.toList ++ c :: t.toList := by simp [hmark]
  rw [splitOnce, hchars, hmark, splitAtMark_append h]
  simp

end ClusterInventory.Text
