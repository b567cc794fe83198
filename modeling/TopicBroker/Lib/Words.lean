import Mathlib

/-!
# Words

The words of a text are its maximal runs without a separator. A reader that
skips separators, takes the run behind them and goes on behind the separator
that ended it meets the words one by one.
-/

namespace TopicBroker

universe u

variable {α : Type u} {separator : α → Bool}

def words (separator : α → Bool) (text : List α) : List (List α) :=
  (text.splitOnP separator).filter fun word => !word.isEmpty

@[simp] theorem words_nil : words separator [] = [] := by
  simp [words]

/-- No word goes across a separator. -/
theorem words_append_separator (first : List α) {between : α} (found : separator between = true)
    (second : List α) :
    words separator (first ++ between :: second) =
      words separator first ++ words separator second := by
  rw [words, List.splitOnP_append_cons _ _ found, List.filter_append]
  rfl

theorem words_of_run {run : List α} (nonempty : run ≠ [])
    (clear : ∀ letter ∈ run, separator letter = false) : words separator run = [run] := by
  rw [words, List.splitOnP_eq_singleton clear]
  simp [nonempty]

theorem words_dropWhile (text : List α) :
    words separator (text.dropWhile separator) = words separator text := by
  induction text with
  | nil => rfl
  | cons letter text ih =>
      by_cases found : separator letter = true
      · rw [List.dropWhile_cons_of_pos found, ih]
        simpa using (words_append_separator [] found text).symm
      · rw [List.dropWhile_cons_of_neg found]

/-- The first word and what is behind the separator that ends it. -/
theorem words_takeWhile {text : List α} (front : text.takeWhile (fun c => !separator c) ≠ []) :
    words separator text = text.takeWhile (fun c => !separator c) ::
      words separator ((text.dropWhile fun c => !separator c).drop 1) := by
  have clear : ∀ letter ∈ text.takeWhile (fun c => !separator c), separator letter = false := by
    intro letter member
    simpa using List.mem_takeWhile_imp member
  conv_lhs => rw [← List.takeWhile_append_dropWhile (p := fun c => !separator c) (l := text)]
  cases behind : text.dropWhile (fun c => !separator c) with
  | nil => simpa using words_of_run front clear
  | cons between rest =>
      have found : separator between = true := by
        have stopped := List.head?_dropWhile_not (fun c => !separator c) text
        simpa [behind] using stopped
      rw [words_append_separator _ found, words_of_run front clear]
      rfl

theorem sublist_of_mem_splitOnP {text part : List α} (member : part ∈ text.splitOnP separator) :
    part.Sublist text := by
  induction text generalizing part with
  | nil => simp_all
  | cons letter text ih =>
      obtain ⟨first, rest, parts⟩ :=
        List.exists_cons_of_ne_nil (List.splitOnP_ne_nil separator text)
      rw [parts] at ih
      rw [List.splitOnP_cons_eq_if_modifyHead, parts] at member
      split at member
      · rcases List.mem_cons.mp member with rfl | later
        · exact List.nil_sublist _
        · exact (ih later).cons _
      · rw [List.modifyHead_cons] at member
        rcases List.mem_cons.mp member with rfl | later
        · exact (ih List.mem_cons_self).cons_cons _
        · exact (ih (List.mem_cons_of_mem _ later)).cons _

theorem sublist_of_mem_words {text word : List α} (member : word ∈ words separator text) :
    word.Sublist text :=
  sublist_of_mem_splitOnP (List.mem_filter.mp member).1

end TopicBroker
