import IssueDesk.Text.Character
import Mathlib.Data.List.DropRight

/-! What is left of a text without the blanks around it, said without the way it is found: the text
is that part between two runs of blanks, and the part neither begins nor ends with a blank. Every
text has exactly one such part (`trims_iff`), so trimming a second time changes nothing. -/

namespace IssueDesk.Text

/-- A text is `inner` with nothing but blanks around it, and `inner` has none at its ends. -/
structure Trims (text inner : String) : Prop where
  surrounded : ∃ before after, text.toList = before ++ (inner.toList ++ after) ∧
    (∀ c ∈ before, isBlank c = true) ∧ ∀ c ∈ after, isBlank c = true
  first : ∀ c ∈ inner.toList.head?, isBlank c = false
  last : ∀ c ∈ inner.toList.getLast?, isBlank c = false

/-- Trimming drops blanks at the front, then at the back. -/
theorem trimChars_eq (cs : List Char) :
    trimChars cs = (cs.dropWhile isBlank).rdropWhile isBlank := rfl

theorem head?_dropWhile_isBlank {cs : List Char} {c : Char}
    (h : c ∈ (cs.dropWhile isBlank).head?) : isBlank c = false := by
  have hhead := List.head?_dropWhile_not isBlank cs
  rw [Option.mem_def.1 h] at hhead
  exact hhead

theorem getLast?_rdropWhile_isBlank {cs : List Char} {c : Char}
    (h : c ∈ (cs.rdropWhile isBlank).getLast?) : isBlank c = false := by
  obtain ⟨hnonempty, rfl⟩ := List.mem_getLast?_eq_getLast h
  exact Bool.eq_false_iff.2 (List.rdropWhile_last_not isBlank cs hnonempty)

theorem trims_trim (text : String) : Trims text (trim text) := by
  have hinner : (trim text).toList = (text.toList.dropWhile isBlank).rdropWhile isBlank :=
    String.toList_ofList
  refine ⟨⟨text.toList.takeWhile isBlank, (text.toList.dropWhile isBlank).rtakeWhile isBlank,
    ?_, ?_, ?_⟩, ?_, ?_⟩
  · rw [hinner, List.rdropWhile_append_rtakeWhile, List.takeWhile_append_dropWhile]
  · exact fun c hc => List.mem_takeWhile_imp hc
  · exact fun c hc => List.mem_rtakeWhile_imp hc
  · intro c hc
    rw [hinner] at hc
    -- What is kept begins where the text without its leading blanks does.
    obtain ⟨rest, hrest⟩ := List.rdropWhile_prefix isBlank (text.toList.dropWhile isBlank)
    have hhead : c ∈ (text.toList.dropWhile isBlank).head? := by
      rw [← hrest, List.head?_append, Option.mem_def.1 hc]
      rfl
    exact head?_dropWhile_isBlank hhead
  · intro c hc
    rw [hinner] at hc
    exact getLast?_rdropWhile_isBlank hc

theorem rdropWhile_surrounded {inner after : List Char} (hafter : ∀ c ∈ after, isBlank c = true)
    (hlast : ∀ c ∈ inner.getLast?, isBlank c = false) :
    (inner ++ after).rdropWhile isBlank = inner := by
  have hblank : ∀ c ∈ after.reverse, isBlank c = true := fun c hc => hafter c (List.mem_reverse.1 hc)
  calc (inner ++ after).rdropWhile isBlank
      = ((after.reverse ++ inner.reverse).dropWhile isBlank).reverse := by
        rw [List.rdropWhile, List.reverse_append]
    _ = inner.rdropWhile isBlank := by
        rw [List.dropWhile_append_of_pos hblank, List.rdropWhile]
    _ = inner := by
        rw [List.rdropWhile_eq_self_iff]
        intro hnonempty
        rw [hlast _ (List.getLast_mem_getLast? hnonempty)]
        exact Bool.false_ne_true

theorem trimChars_surrounded {before inner after : List Char}
    (hbefore : ∀ c ∈ before, isBlank c = true) (hafter : ∀ c ∈ after, isBlank c = true)
    (hfirst : ∀ c ∈ inner.head?, isBlank c = false)
    (hlast : ∀ c ∈ inner.getLast?, isBlank c = false) :
    trimChars (before ++ (inner ++ after)) = inner := by
  rw [trimChars_eq, List.dropWhile_append_of_pos hbefore]
  cases inner with
  | nil =>
      have hnone : after.dropWhile isBlank = [] := List.dropWhile_eq_nil_iff.2 hafter
      rw [List.nil_append, hnone, List.rdropWhile_nil]
  | cons c rest =>
      have hc : ¬isBlank c = true := Bool.eq_false_iff.1 (hfirst c rfl)
      rw [List.cons_append, List.dropWhile_cons_of_neg hc, ← List.cons_append]
      exact rdropWhile_surrounded hafter hlast

theorem trims_iff {text inner : String} : Trims text inner ↔ inner = trim text := by
  constructor
  · rintro ⟨⟨before, after, htext, hbefore, hafter⟩, hfirst, hlast⟩
    rw [trim, htext, trimChars_surrounded hbefore hafter hfirst hlast, String.ofList_toList]
  · rintro rfl
    exact trims_trim text

/-- A text without blanks around it is what is left of itself. -/
theorem trim_trim (text : String) : trim (trim text) = trim text := by
  have htrim := trims_trim text
  have hself : Trims (trim text) (trim text) :=
    ⟨⟨[], [], by simp, nofun, nofun⟩, htrim.first, htrim.last⟩
  exact (trims_iff.1 hself).symm

end IssueDesk.Text
