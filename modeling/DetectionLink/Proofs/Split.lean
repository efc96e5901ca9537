/-!
# Splitting a list that grows

`List.splitOnP` cuts a list at its separators. Streams and traces grow at their end, so what is
needed of it is what one more element does: a separator opens a new, empty part, anything else
joins the last part.

* `parts`, `lastPart`: all parts but the last, and the last;
* `parts_append`, `lastPart_append`: elements that are no separators;
* `parts_concat`, `lastPart_concat`: a separator.
-/

namespace DetectionLink

variable {α : Type} (p : α → Bool)

/-- The parts of a list that a separator closed. -/
def parts (xs : List α) : List (List α) := (xs.splitOnP p).dropLast

/-- What stands behind the last separator. -/
def lastPart (xs : List α) : List α := (xs.splitOnP p).getLast (List.splitOnP_ne_nil p xs)

theorem parts_concat_lastPart (xs : List α) : parts p xs ++ [lastPart p xs] = xs.splitOnP p :=
  List.dropLast_concat_getLast (List.splitOnP_ne_nil p xs)

theorem parts_nil : parts p [] = [] := rfl

theorem lastPart_nil : lastPart p [] = [] := rfl

theorem splitOnP_append_of_forall {xs ys : List α} (noSep : ∀ y ∈ ys, p y = false) :
    (xs ++ ys).splitOnP p = parts p xs ++ [lastPart p xs ++ ys] := by
  induction xs with
  | nil => exact List.splitOnP_eq_singleton noSep
  | cons x xs ih =>
    have tail := parts_concat_lastPart p xs
    have whole := parts_concat_lastPart p (x :: xs)
    rw [List.cons_append, List.splitOnP_cons_eq_if_modifyHead, ih]
    rw [List.splitOnP_cons_eq_if_modifyHead, ← tail] at whole
    -- a separator opens a part of its own, anything else joins the first part of the rest
    split at whole
    · rw [← List.cons_append] at whole
      obtain ⟨hp, hl⟩ := List.append_inj' whole rfl
      rw [hp, List.singleton_inj.mp hl, List.cons_append, if_pos ‹_›]
    · rw [if_neg ‹_›]
      cases h : parts p xs with
      | nil =>
        rw [h] at whole
        have only : parts p (x :: xs) ++ [lastPart p (x :: xs)] =
            [] ++ [x :: lastPart p xs] := whole
        obtain ⟨hp, hl⟩ := List.append_inj' only rfl
        rw [hp, List.singleton_inj.mp hl]
        rfl
      | cons part rest =>
        rw [h] at whole
        have front : parts p (x :: xs) ++ [lastPart p (x :: xs)] =
            (x :: part) :: rest ++ [lastPart p xs] := whole
        obtain ⟨hp, hl⟩ := List.append_inj' front rfl
        rw [hp, List.singleton_inj.mp hl]
        rfl

theorem parts_append {xs ys : List α} (noSep : ∀ y ∈ ys, p y = false) :
    parts p (xs ++ ys) = parts p xs := by
  rw [parts, splitOnP_append_of_forall p noSep, List.dropLast_concat]

theorem lastPart_append {xs ys : List α} (noSep : ∀ y ∈ ys, p y = false) :
    lastPart p (xs ++ ys) = lastPart p xs ++ ys := by
  simp only [lastPart, splitOnP_append_of_forall p noSep, List.getLast_concat]

theorem parts_concat {xs : List α} {sep : α} (isSep : p sep = true) :
    parts p (xs ++ [sep]) = parts p xs ++ [lastPart p xs] := by
  rw [parts, List.splitOnP_append_cons xs [] isSep, parts_concat_lastPart]
  exact List.dropLast_concat

theorem lastPart_concat {xs : List α} {sep : α} (isSep : p sep = true) :
    lastPart p (xs ++ [sep]) = [] := by
  simp only [lastPart, List.splitOnP_append_cons xs [] isSep, List.splitOnP_nil,
    List.getLast_concat]

end DetectionLink
