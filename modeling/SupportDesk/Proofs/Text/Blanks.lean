/-
# Blanks around a text

A text with blanks around it has a core that neither begins nor ends with one.  There is exactly
one such core, the empty text being that of a text of blanks, and trimming leaves it.
-/

import Mathlib.Data.List.DropRight
import SupportDesk.Text.Blank

namespace SupportDesk.Blank

variable {before cs core after : List Char}

/-- There is nothing but blanks. -/
def AllBlank (cs : List Char) : Prop := ∀ c ∈ cs, isBlank c = true

-- Not by instance search, which may decide this for every character there is.
instance (cs : List Char) : Decidable (AllBlank cs) :=
  decidable_of_iff (cs.all isBlank = true) List.all_eq_true

/-- A text is a core with blanks around it, and the core neither begins nor ends with one. -/
structure HasCore (cs core : List Char) : Prop where
  surrounded : ∃ before after, AllBlank before ∧ AllBlank after ∧ cs = before ++ core ++ after
  head : ∀ c ∈ core.head?, isBlank c = false
  last : ∀ c ∈ core.getLast?, isBlank c = false

/-! ## At one side -/

theorem trimLeft_append (hbefore : AllBlank before) (cs : List Char) :
    trimLeft (before ++ cs) = trimLeft cs := List.dropWhile_append_of_pos hbefore

theorem trimLeft_of_head (h : ∀ c ∈ cs.head?, isBlank c = false) : trimLeft cs = cs := by
  cases cs with
  | nil => rfl
  | cons c cs => exact List.dropWhile_cons_of_neg (by simp [h c rfl])

/-- Trimming at the end is trimming in front of the text read backward. -/
theorem trimRight_eq (cs : List Char) : trimRight cs = (trimLeft cs.reverse).reverse := rfl

theorem trimRight_append (cs : List Char) (hafter : AllBlank after) :
    trimRight (cs ++ after) = trimRight cs := by
  have hreverse : AllBlank after.reverse := fun c hc => hafter c (List.mem_reverse.mp hc)
  rw [trimRight_eq, List.reverse_append, trimLeft_append hreverse, trimRight_eq]

theorem trimRight_of_last (h : ∀ c ∈ cs.getLast?, isBlank c = false) : trimRight cs = cs := by
  have hhead : ∀ c ∈ cs.reverse.head?, isBlank c = false := by simpa using h
  rw [trimRight_eq, trimLeft_of_head hhead, List.reverse_reverse]

/-- What trimming takes away in front are blanks. -/
theorem exists_trimLeft (cs : List Char) :
    ∃ before, AllBlank before ∧ cs = before ++ trimLeft cs :=
  ⟨cs.takeWhile isBlank, fun _ => List.mem_takeWhile_imp, List.takeWhile_append_dropWhile.symm⟩

theorem exists_trimRight (cs : List Char) :
    ∃ after, AllBlank after ∧ cs = trimRight cs ++ after :=
  ⟨cs.rtakeWhile isBlank, fun _ => List.mem_rtakeWhile_imp, List.rdropWhile_append_rtakeWhile.symm⟩

theorem isBlank_of_head_trimLeft {c : Char} (hc : c ∈ (trimLeft cs).head?) : isBlank c = false := by
  obtain ⟨rest, hrest⟩ := List.head?_eq_some_iff.mp hc
  exact isBlank_head_trimLeft hrest

/-! ## At both sides -/

theorem hasCore_trim (cs : List Char) : HasCore cs (trim cs) := by
  obtain ⟨before, hbefore, hleft⟩ := exists_trimLeft cs
  obtain ⟨after, hafter, hright⟩ := exists_trimRight (trimLeft cs)
  refine ⟨⟨before, after, hbefore, hafter, ?_⟩, ?_, ?_⟩
  · rw [List.append_assoc, trim, ← hright, ← hleft]
  · intro c hc
    obtain ⟨rest, hrest⟩ := List.head?_eq_some_iff.mp hc
    rw [trim] at hrest
    rw [hrest] at hright
    exact isBlank_head_trimLeft hright
  · intro c hc
    rw [trim, trimRight_eq, List.getLast?_reverse] at hc
    exact isBlank_of_head_trimLeft hc

/-- Trimming leaves the core of a text. -/
theorem trim_eq_iff : trim cs = core ↔ HasCore cs core := by
  constructor
  · rintro rfl
    exact hasCore_trim cs
  · rintro ⟨⟨before, after, hbefore, hafter, rfl⟩, hhead, hlast⟩
    rw [trim, List.append_assoc, trimLeft_append hbefore]
    cases core with
    | nil =>
        have hempty : trimLeft after = [] := by simpa [trimLeft] using trimLeft_append hafter []
        rw [List.nil_append, hempty]
        rfl
    | cons c core =>
        have hkept : trimLeft (c :: core ++ after) = c :: core ++ after := trimLeft_of_head hhead
        rw [hkept, trimRight_append _ hafter, trimRight_of_last hlast]

end SupportDesk.Blank
