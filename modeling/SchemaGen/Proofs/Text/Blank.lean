import Mathlib.Data.List.TakeWhile
import SchemaGen.Text.Blank

/-! # Trimmed texts

Trimming takes characters from the ends of a text only, and nothing from a text that has none of
them at its ends (`trimBy_eq_self_iff`).
-/

namespace SchemaGen.Text

set_option autoImplicit false

variable {p : Char → Bool} {cs : List Char}

theorem dropWhile_eq_self_iff : cs.dropWhile p = cs ↔ ∀ c ∈ cs.head?, p c = false := by
  cases cs with
  | nil => simp
  | cons c rest =>
    constructor
    · intro h
      have hhead := List.head?_dropWhile_not p (c :: rest)
      rw [h] at hhead
      simpa using hhead
    · intro h
      have hc : ¬p c = true := by simpa using h
      exact List.dropWhile_cons_of_neg hc

theorem dropWhile_eq_self_of_length (h : cs.length ≤ (cs.dropWhile p).length) :
    cs.dropWhile p = cs := by
  have hsuffix := List.dropWhile_suffix (l := cs) p
  exact hsuffix.eq_of_length (Nat.le_antisymm hsuffix.length_le h)

theorem length_trimBy_le (p : Char → Bool) (cs : List Char) :
    (trimBy p cs).length ≤ (cs.dropWhile p).length := by
  have hback := List.length_dropWhile_le p (cs.dropWhile p).reverse
  rw [List.length_reverse] at hback
  rw [trimBy, List.length_reverse]
  exact hback

theorem trimBy_eq_self_iff : trimBy p cs = cs ↔
    (∀ c ∈ cs.head?, p c = false) ∧ ∀ c ∈ cs.getLast?, p c = false := by
  rw [← List.head?_reverse, ← dropWhile_eq_self_iff, ← dropWhile_eq_self_iff]
  constructor
  · intro h
    have hlength := length_trimBy_le p cs
    rw [h] at hlength
    have hfront : cs.dropWhile p = cs := dropWhile_eq_self_of_length hlength
    refine ⟨hfront, ?_⟩
    rw [trimBy, hfront] at h
    rw [← List.reverse_reverse (cs.reverse.dropWhile p), h]
  · rintro ⟨hfront, hback⟩
    rw [trimBy, hfront, hback, List.reverse_reverse]

theorem trimBy_eq_self (h : ∀ c ∈ cs, p c = false) : trimBy p cs = cs :=
  trimBy_eq_self_iff.mpr ⟨fun c hc => h c (List.mem_of_head? hc),
    fun c hc => h c (List.mem_of_getLast? hc)⟩

theorem isBlank_of_isAsciiBlank {c : Char} (h : isAsciiBlank c = true) : isBlank c = true := by
  simp only [isAsciiBlank, Bool.or_eq_true, beq_iff_eq] at h
  rcases h with (((rfl | rfl) | rfl) | rfl) | rfl <;> decide

end SchemaGen.Text
