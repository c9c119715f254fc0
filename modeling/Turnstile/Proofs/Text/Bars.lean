import Mathlib.Data.List.Basic
import Mathlib.Data.List.TakeWhile
import Turnstile.Text

/-! # Texts between bars

Where `undefined` stands alone between two bars of a text, blank units around it aside.

* **`Text.ShowsUndefined`** says so of a text inside a longer one: there may be a bar in front of the
  text and one behind it.
* **`Text.showsUndefined_bar`** cuts a text at a bar, and **`Text.showsUndefined_mark`** at a word that
  cannot be a part of `undefined` (`Text.isMark`).
* **`Text.showsUndefined_join_comma`**, **`Text.showsUndefined_join_closed`** do so for a list of
  texts. -/

namespace Turnstile.Text

/-- The unit between the members of a union. -/
def bar : UInt16 := unit '|'

/-- The parts of a text that have a bar on both sides, where `before` and `after` say whether there is
one in front of the text and behind it. -/
def partsIn (before after : Bool) (t : Text) : List Text :=
  let parts := if before then split bar t else (split bar t).tail
  if after then parts else parts.dropLast

/-- **Whether `undefined` stands between two bars** of a text, or between one and an end of the text
at which there is a bar. -/
def ShowsUndefined (before after : Bool) (t : Text) : Prop :=
  ∃ part ∈ partsIn before after t, part.trim = "undefined"

instance (before after : Bool) (t : Text) : Decidable (ShowsUndefined before after t) :=
  inferInstanceAs (Decidable (∃ part ∈ _, _))

/-- Words without a bar that are no part of `undefined`. -/
def isMark (word : Text) : Bool :=
  !word.contains bar && word.any fun u => !isBlank u && !("undefined" : Text).contains u

variable {a b t word : Text} {before after : Bool}

/-! ## Cutting at bars -/

theorem split_ne_nil (separator : UInt16) (t : Text) : split separator t ≠ [] := by
  induction t with
  | nil => exact List.cons_ne_nil _ _
  | cons u t ih =>
    rw [split]
    split
    · exact List.cons_ne_nil _ _
    · split <;> exact List.cons_ne_nil _ _

/-- A text without separators is its only part. -/
theorem split_of_not_mem {separator : UInt16} (h : separator ∉ t) : split separator t = [t] := by
  induction t with
  | nil => rfl
  | cons u t ih =>
    obtain ⟨hu, ht⟩ := not_or.mp (List.mem_cons.not.mp h)
    rw [split, if_neg (Ne.symm hu), ih ht]

/-- Two texts with a separator between them have the parts of both. -/
theorem split_append_cons (separator : UInt16) (a b : Text) :
    split separator (a ++ separator :: b) = split separator a ++ split separator b := by
  induction a with
  | nil => rw [List.nil_append, split.eq_2, if_pos rfl, split.eq_1, List.singleton_append]
  | cons u a ih =>
    rw [List.cons_append, split, split, ih]
    by_cases hu : u = separator
    · rw [if_pos hu, if_pos hu, List.cons_append]
    · rw [if_neg hu, if_neg hu]
      cases ha : split separator a with
      | nil => exact absurd ha (split_ne_nil separator a)
      | cons part parts => rfl

/-- A text is cut at each of its bars, the first one first. -/
theorem bars_induction {P : Text → Prop} (single : ∀ t, bar ∉ t → P t)
    (cut : ∀ a b, bar ∉ a → P b → P (a ++ bar :: b)) (t : Text) : P t := by
  by_cases hbar : bar ∈ t
  · obtain ⟨a, b, ht, ha⟩ := List.eq_append_cons_of_mem hbar
    have hshorter : b.length < t.length := by
      rw [ht, List.length_append, List.length_cons]
      omega
    rw [ht]
    exact cut a b ha (bars_induction single cut b)
  · exact single t hbar
termination_by t.length

/-! ## Undefined between bars -/

/-- A bar in a text closes what is in front of it and opens what is behind it. -/
theorem showsUndefined_cut :
    ShowsUndefined before after (a ++ bar :: b)
      ↔ ShowsUndefined before true a ∨ ShowsUndefined true after b := by
  have ha := split_ne_nil bar a
  have hb := split_ne_nil bar b
  have hparts : partsIn before after (a ++ bar :: b)
      = partsIn before true a ++ partsIn true after b := by
    cases before <;> cases after <;>
      simp [partsIn, split_append_cons, List.tail_append_of_ne_nil ha,
        List.dropLast_append_of_ne_nil hb]
  simp only [ShowsUndefined, hparts, List.mem_append, or_and_right, exists_or]

/-- A text without bars has to be `undefined` itself, with a bar on both sides. -/
theorem showsUndefined_of_not_mem (h : bar ∉ t) :
    ShowsUndefined before after t
      ↔ before = true ∧ after = true ∧ t.trim = "undefined" := by
  cases before <;> cases after <;> simp [ShowsUndefined, partsIn, split_of_not_mem h]

theorem not_showsUndefined_of_not_mem (h : bar ∉ t) : ¬ ShowsUndefined false false t := by
  simp [showsUndefined_of_not_mem h]

/-- A text of no units shows nothing. -/
@[simp] theorem not_showsUndefined_nil : ¬ ShowsUndefined before after [] := by
  rw [showsUndefined_of_not_mem List.not_mem_nil]
  exact fun h => absurd h.2.2 (by decide)

/-! ## Trimming -/

/-- A text that differs from another by a blank unit in front is trimmed alike. -/
theorem trim_blank_cons {u : UInt16} (hblank : isBlank u = true) (t : Text) :
    trim (u :: t) = trim t := by
  rw [trim, trim, List.dropWhile_cons_of_pos hblank]

theorem trim_append_blank {u : UInt16} (hblank : isBlank u = true) (t : Text) :
    trim (t ++ [u]) = trim t := by
  rw [trim, trim, List.dropWhile_append]
  split
  · next hempty =>
    rw [List.isEmpty_iff.mp hempty, List.dropWhile_cons_of_pos hblank, List.dropWhile_nil]
  · rw [trimEnd, trimEnd, List.reverse_append, List.reverse_singleton, List.singleton_append,
      List.dropWhile_cons_of_pos hblank]

/-- A unit that is not blank is never dropped from the front. -/
theorem mem_dropWhile_isBlank {u : UInt16} (hu : u ∈ t) (hblank : isBlank u = false) :
    u ∈ t.dropWhile isBlank := by
  rw [← List.takeWhile_append_dropWhile (p := isBlank) (l := t), List.mem_append] at hu
  refine hu.resolve_left fun hfront => ?_
  rw [List.mem_takeWhile_imp hfront] at hblank
  exact Bool.noConfusion hblank

/-- Trimming drops no unit that is not blank. -/
theorem mem_trim {u : UInt16} (hu : u ∈ t) (hblank : isBlank u = false) : u ∈ t.trim := by
  have hfront := mem_dropWhile_isBlank hu hblank
  rw [trim, trimEnd, List.mem_reverse]
  exact mem_dropWhile_isBlank (List.mem_reverse.mpr hfront) hblank

/-! ## Marks and blanks -/

theorem isMark_iff :
    isMark word = true
      ↔ bar ∉ word ∧ ∃ u ∈ word, isBlank u = false ∧ u ∉ ("undefined" : Text) := by
  simp [isMark]

theorem trim_ne_undefined (hmark : isMark word = true) : (a ++ word ++ b).trim ≠ "undefined" := by
  obtain ⟨-, u, hu, hblank, hletter⟩ := isMark_iff.mp hmark
  intro htrim
  have hmem : u ∈ a ++ word ++ b := List.mem_append_left _ (List.mem_append_right _ hu)
  exact hletter (htrim ▸ mem_trim hmem hblank)

/-- **A mark separates**: no part of a text reaches across it. -/
theorem showsUndefined_mark (hmark : isMark word = true) :
    ShowsUndefined before after (a ++ word ++ b)
      ↔ ShowsUndefined before false a ∨ ShowsUndefined false after b := by
  have hword := (isMark_iff.mp hmark).1
  -- The induction is on the bars in front of the word; behind it only the first bar matters, for the
  -- part that the word stands in ends there.
  induction a using bars_induction generalizing before with
  | single a ha =>
    rw [showsUndefined_of_not_mem ha]
    by_cases hb : bar ∈ b
    · obtain ⟨b₁, b₂, rfl, hb₁⟩ := List.eq_append_cons_of_mem hb
      have hfront : bar ∉ a ++ word ++ b₁ := by simp [ha, hword, hb₁]
      have hne : (a ++ word ++ b₁).trim ≠ "undefined" := trim_ne_undefined hmark
      rw [← List.append_assoc, showsUndefined_cut, showsUndefined_cut,
        showsUndefined_of_not_mem hfront, showsUndefined_of_not_mem hb₁]
      simp [hne, -List.append_assoc]
    · have hwhole : bar ∉ a ++ word ++ b := by simp [ha, hword, hb]
      have hne : (a ++ word ++ b).trim ≠ "undefined" := trim_ne_undefined hmark
      rw [showsUndefined_of_not_mem hwhole, showsUndefined_of_not_mem hb]
      simp [hne, -List.append_assoc]
  | cut a₁ a₂ ha₁ ih =>
    rw [List.append_assoc, List.append_assoc, List.cons_append, showsUndefined_cut,
      showsUndefined_cut, ← List.append_assoc, propext ih, or_assoc]

/-- What is in front of a mark at the end of a text. -/
theorem showsUndefined_append_mark (hmark : isMark word = true) :
    ShowsUndefined before after (a ++ word) ↔ ShowsUndefined before false a := by
  rw [← List.append_nil (a ++ word), showsUndefined_mark hmark,
    or_iff_left not_showsUndefined_nil]

/-- What is behind a mark at the start of a text. -/
theorem showsUndefined_mark_append (hmark : isMark word = true) :
    ShowsUndefined before after (word ++ b) ↔ ShowsUndefined false after b := by
  rw [← List.nil_append (word ++ b), ← List.append_assoc, showsUndefined_mark hmark,
    or_iff_right not_showsUndefined_nil]

theorem showsUndefined_blank_cons {u : UInt16} (hblank : isBlank u = true) :
    ShowsUndefined before after (u :: t) ↔ ShowsUndefined before after t := by
  have hu : bar ≠ u := by
    rintro rfl
    exact absurd hblank (by decide)
  by_cases ht : bar ∈ t
  · obtain ⟨a, b, rfl, ha⟩ := List.eq_append_cons_of_mem ht
    have hfront : bar ∉ u :: a := List.mem_cons.not.mpr (not_or.mpr ⟨hu, ha⟩)
    rw [← List.cons_append, showsUndefined_cut, showsUndefined_cut,
      showsUndefined_of_not_mem hfront, showsUndefined_of_not_mem ha, trim_blank_cons hblank]
  · have hwhole : bar ∉ u :: t := List.mem_cons.not.mpr (not_or.mpr ⟨hu, ht⟩)
    rw [showsUndefined_of_not_mem hwhole, showsUndefined_of_not_mem ht, trim_blank_cons hblank]

theorem showsUndefined_append_blank {u : UInt16} (hblank : isBlank u = true) :
    ShowsUndefined before after (t ++ [u]) ↔ ShowsUndefined before after t := by
  have hu : bar ≠ u := by
    rintro rfl
    exact absurd hblank (by decide)
  induction t using bars_induction generalizing before with
  | single t ht =>
    have hwhole : bar ∉ t ++ [u] := by simp [ht, hu]
    rw [showsUndefined_of_not_mem hwhole, showsUndefined_of_not_mem ht, trim_append_blank hblank]
  | cut a b _ ih =>
    rw [List.append_assoc, List.cons_append, showsUndefined_cut, showsUndefined_cut, propext ih]

/-- **The bar of a union**, with a blank on both sides. -/
theorem showsUndefined_bar :
    ShowsUndefined before after (a ++ (" | " : Text) ++ b)
      ↔ ShowsUndefined before true a ∨ ShowsUndefined true after b := by
  have hblank : isBlank 0x20 = true := by decide
  have hbar : a ++ (" | " : Text) ++ b = (a ++ [0x20]) ++ bar :: (0x20 :: b) := by
    rw [List.append_assoc, List.append_assoc]
    rfl
  rw [hbar, showsUndefined_cut, showsUndefined_append_blank hblank,
    showsUndefined_blank_cons hblank]

/-! ## Lists of texts -/

theorem join_cons_cons (separator first second : Text) (rest : List Text) :
    join separator (first :: second :: rest)
      = first ++ separator ++ join separator (second :: rest) := by
  simp [join, List.intercalate, List.append_assoc]

/-- Texts behind one another, separated by commas. -/
theorem showsUndefined_join_comma (ts : List Text) :
    ShowsUndefined false false (join ", " ts) ↔ ∃ t ∈ ts, ShowsUndefined false false t := by
  have hcomma : isMark ", " = true := by decide
  induction ts with
  | nil => simp [join]
  | cons first rest ih =>
    cases rest with
    | nil => simp [join]
    | cons second rest =>
      rw [join_cons_cons, showsUndefined_mark hcomma, propext ih, List.exists_mem_cons_iff _ first]

/-- Texts behind one another, each closed by a semicolon. -/
theorem showsUndefined_join_closed (ts : List Text) :
    ShowsUndefined false false (join " " (ts.map (· ++ ";")))
      ↔ ∃ t ∈ ts, ShowsUndefined false false t := by
  have hclose : isMark ";" = true := by decide
  have hnext : isMark "; " = true := by decide
  induction ts with
  | nil => simp [join]
  | cons first rest ih =>
    cases rest with
    | nil => simp [join, showsUndefined_append_mark hclose]
    | cons second rest =>
      have hjoin : join " " ((first :: second :: rest).map (· ++ ";"))
          = first ++ ("; " : Text) ++ join " " ((second :: rest).map (· ++ ";")) := by
        rw [List.map_cons, List.map_cons, join_cons_cons, List.append_assoc first]
        rfl
      rw [hjoin, showsUndefined_mark hnext, propext ih, List.exists_mem_cons_iff _ first]

end Turnstile.Text
