import Mathlib.Data.List.DropRight
import Turnstile.Proofs.Text.Bars

/-! # Texts with blanks around them, and their parts

* **`Text.IsPadded`** puts blank units around a text. Every text is its trimmed form with blanks
  around it (**`isPadded_trim`**), and whatever trims first sees no difference
  (**`IsPadded.trim_eq`**).
* **`Text.split_join`** and **`Text.join_split`** say that cutting a text at a unit and joining parts
  with that unit undo each other, on parts that do not contain the unit. -/

namespace Turnstile.Text

variable {u separator : UInt16} {t core part before after : Text} {parts : List Text}

/-! ## Blanks around a text -/

/-- **A text with blank units around it**, maybe none. -/
def IsPadded (core t : Text) : Prop :=
  ∃ before after, before.isBlankText = true ∧ after.isBlankText = true ∧ t = before ++ core ++ after

theorem isBlankText_append (a b : Text) :
    (a ++ b).isBlankText = (a.isBlankText && b.isBlankText) :=
  List.all_append

/-- A text is not blank when one of its units is not. -/
theorem isBlankText_eq_false_iff : t.isBlankText = false ↔ ∃ u ∈ t, isBlank u = false := by
  simp [isBlankText]

theorem trim_blank_append (h : before.isBlankText = true) (t : Text) :
    trim (before ++ t) = trim t := by
  induction before with
  | nil => rfl
  | cons u before ih =>
    rw [isBlankText, List.all_cons, Bool.and_eq_true] at h
    rw [List.cons_append, trim_blank_cons h.1, ih h.2]

theorem trim_append_blanks (h : after.isBlankText = true) (t : Text) :
    trim (t ++ after) = trim t := by
  induction after generalizing t with
  | nil => rw [List.append_nil]
  | cons u after ih =>
    rw [isBlankText, List.all_cons, Bool.and_eq_true] at h
    -- The first blank is put behind the text, which then has fewer blanks after it.
    rw [← List.singleton_append, ← List.append_assoc, ih h.2, trim_append_blank h.1]

/-- **Blanks around a text are trimmed away.** -/
theorem IsPadded.trim_eq (h : IsPadded core t) : trim t = trim core := by
  obtain ⟨before, after, hbefore, hafter, rfl⟩ := h
  rw [trim_append_blanks hafter, trim_blank_append hbefore]

/-- **A text is its trimmed form with blanks around it.** -/
theorem isPadded_trim (t : Text) : IsPadded (trim t) t := by
  refine ⟨t.takeWhile isBlank, (t.dropWhile isBlank).rtakeWhile isBlank, ?_, ?_, ?_⟩
  · rw [isBlankText, List.all_eq_true]
    exact fun u hu => List.mem_takeWhile_imp hu
  · rw [isBlankText, List.all_eq_true]
    exact fun u hu => List.mem_rtakeWhile_imp hu
  · have hend : trim t = (t.dropWhile isBlank).rdropWhile isBlank := rfl
    rw [hend, List.append_assoc, List.rdropWhile_append_rtakeWhile, List.takeWhile_append_dropWhile]

/-- Only blanks around a blank text make a blank text. -/
theorem IsPadded.isBlankText_eq (h : IsPadded core t) : t.isBlankText = core.isBlankText := by
  obtain ⟨before, after, hbefore, hafter, rfl⟩ := h
  rw [isBlankText_append, isBlankText_append, hbefore, hafter, Bool.true_and, Bool.and_true]

/-- Units that are not blank are those of the text in between. -/
theorem IsPadded.mem_iff (h : IsPadded core t) (hblank : isBlank u = false) : u ∈ t ↔ u ∈ core := by
  obtain ⟨before, after, hbefore, hafter, rfl⟩ := h
  have hnone : ∀ blank : Text, blank.isBlankText = true → u ∉ blank := by
    intro blank hall hu
    rw [isBlankText, List.all_eq_true] at hall
    rw [hall u hu] at hblank
    exact Bool.noConfusion hblank
  simp [hnone before hbefore, hnone after hafter]

/-! ## The parts of a text -/

theorem split_eq_splitOn (separator : UInt16) (t : Text) :
    split separator t = t.splitOn separator := by
  induction t with
  | nil => rfl
  | cons u t ih =>
    rw [List.splitOn_cons_eq_if_modifyHead, split, ih]
    by_cases hu : u = separator
    · rw [if_pos hu, if_pos (beq_iff_eq.mpr hu)]
    · rw [if_neg hu, if_neg (mt beq_iff_eq.mp hu)]
      cases hparts : t.splitOn separator with
      | nil => exact absurd hparts (List.splitOn_ne_nil _ _)
      | cons part parts => rfl

/-- **Joined parts are cut into what they were.** -/
theorem split_join (hne : parts ≠ []) (h : ∀ part ∈ parts, separator ∉ part) :
    split separator (join [separator] parts) = parts := by
  rw [split_eq_splitOn, join, List.splitOn_intercalate separator h hne]

/-- **The parts of a text give the text back.** -/
theorem join_split (separator : UInt16) (t : Text) : join [separator] (split separator t) = t := by
  rw [split_eq_splitOn, join, List.intercalate_splitOn]

/-- No part of a text contains the unit that it is cut at. -/
theorem not_mem_of_mem_split (h : part ∈ split separator t) : separator ∉ part := by
  induction t generalizing part with
  | nil =>
    rw [split, List.mem_singleton] at h
    rw [h]
    exact List.not_mem_nil
  | cons u t ih =>
    rw [split] at h
    by_cases hu : u = separator
    · rw [if_pos hu] at h
      rcases List.mem_cons.mp h with rfl | hrest
      · exact List.not_mem_nil
      · exact ih hrest
    · -- The unit goes to the front of the first part and is not the separator.
      rw [if_neg hu] at h
      cases hparts : split separator t with
      | nil => exact absurd hparts (split_ne_nil separator t)
      | cons first rest =>
        simp only [hparts] at h
        rcases List.mem_cons.mp h with rfl | hrest
        · have hfirst : separator ∉ first := ih (by rw [hparts]; exact List.mem_cons_self)
          exact List.mem_cons.not.mpr (not_or.mpr ⟨Ne.symm hu, hfirst⟩)
        · exact ih (by rw [hparts]; exact List.mem_cons_of_mem _ hrest)

/-- What is in a part is in the joined text. -/
theorem mem_join_of_mem (hu : u ∈ part) (h : part ∈ parts) (between : Text) :
    u ∈ join between parts := by
  induction parts with
  | nil => exact absurd h List.not_mem_nil
  | cons first rest ih =>
    cases rest with
    | nil =>
      rw [List.mem_singleton] at h
      rw [join, List.intercalate_singleton, ← h]
      exact hu
    | cons second rest =>
      rw [join_cons_cons, List.append_assoc, List.mem_append, List.mem_append]
      rcases List.mem_cons.mp h with rfl | hrest
      · exact Or.inl hu
      · exact Or.inr (Or.inr (ih hrest))

end Turnstile.Text
