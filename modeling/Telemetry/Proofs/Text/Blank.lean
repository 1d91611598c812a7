/-
Blanks around a text.

Trimming drops the blanks at either end and nothing else: what it leaves of a text between
blanks is the text (`trimChars_surrounded`). What is left ends in no blank (`getLast?_rdropWhile`), and
something is left of any text but a blank one (`trimChars_eq_nil_iff`).
-/
import Mathlib.Data.List.DropRight
import Telemetry.Text.Blank

namespace Telemetry.Text

/-- Blanks before a text without blanks are dropped, and nothing of the text. -/
theorem dropWhile_blanks {bs cs : List Char} (blank : ∀ c ∈ bs, isBlank c = true)
    (solid : ∀ c ∈ cs, isBlank c = false) : (bs ++ cs).dropWhile isBlank = cs := by
  rw [List.dropWhile_append_of_pos blank]
  cases cs with
  | nil => rfl
  | cons c rest => rw [List.dropWhile_cons, solid c List.mem_cons_self]; rfl

/-- Blanks around a text without blanks are dropped, and nothing of the text. -/
theorem trimChars_surrounded {cs before after : List Char} (opens : ∀ c ∈ before, isBlank c = true)
    (closes : ∀ c ∈ after, isBlank c = true) (solid : ∀ c ∈ cs, isBlank c = false) :
    trimChars (before ++ cs ++ after) = cs := by
  have first : (before ++ (cs ++ after)).dropWhile isBlank = cs ++ after ∨
      cs = [] ∧ (before ++ (cs ++ after)).dropWhile isBlank = [] := by
    rw [List.dropWhile_append_of_pos opens]
    cases cs with
    | nil =>
      have none : (after ++ []).dropWhile isBlank = [] := dropWhile_blanks closes (by simp)
      rw [List.append_nil] at none
      exact .inr ⟨rfl, none⟩
    | cons c rest =>
      rw [List.cons_append, List.dropWhile_cons, solid c List.mem_cons_self]
      exact .inl rfl
  rw [trimChars, List.append_assoc]
  rcases first with some | ⟨rfl, none⟩
  · rw [some, dropBlankEnd, List.reverse_append,
      dropWhile_blanks (fun c mem => closes c (List.mem_reverse.1 mem))
        fun c mem => solid c (List.mem_reverse.1 mem), List.reverse_reverse]
  · rw [none]
    rfl

theorem trimChars_of_no_blank {cs : List Char} (h : ∀ c ∈ cs, isBlank c = false) :
    trimChars cs = cs := by
  have trimmed : trimChars ([] ++ cs ++ []) = cs := trimChars_surrounded (by simp) (by simp) h
  rwa [List.nil_append, List.append_nil] at trimmed

theorem dropBlankEnd_eq (cs : List Char) : dropBlankEnd cs = cs.rdropWhile isBlank := rfl

theorem getLast?_rdropWhile {p : Char → Bool} {cs : List Char} {c : Char}
    (last : (cs.rdropWhile p).getLast? = some c) : p c = false := by
  obtain ⟨any, rfl⟩ := List.mem_getLast?_eq_getLast last
  exact Bool.eq_false_iff.2 (List.rdropWhile_last_not _ _ any)

theorem rdropWhile_of_getLast? {p : Char → Bool} {cs : List Char} {c : Char}
    (last : cs.getLast? = some c) (other : p c = false) : cs.rdropWhile p = cs := by
  refine List.rdropWhile_eq_self_iff.2 fun any => ?_
  rw [List.getLast_of_mem_getLast? last, other]
  exact Bool.false_ne_true

theorem trimChars_cons {c : Char} (solid : isBlank c = false) (rest : List Char) :
    trimChars (c :: rest) = (c :: rest).rdropWhile isBlank := by
  rw [trimChars, List.dropWhile_cons, solid, dropBlankEnd_eq]
  rfl

theorem trimChars_eq_nil_iff {s : String} : trimChars s.toList = [] ↔ isBlankText s = true := by
  rw [trimChars, dropBlankEnd_eq, List.rdropWhile_eq_nil_iff, isBlankText, List.all_eq_true]
  constructor
  · intro blank c mem
    rw [← List.takeWhile_append_dropWhile (p := isBlank) (l := s.toList)] at mem
    rcases List.mem_append.1 mem with before | after
    · exact List.mem_takeWhile_imp before
    · exact blank c after
  · exact fun blank c mem => blank c ((List.dropWhile_suffix _).mem mem)

end Telemetry.Text
