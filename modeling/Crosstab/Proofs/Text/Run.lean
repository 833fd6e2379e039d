import Mathlib.Data.List.TakeWhile

/-!
The longest run of characters of one kind at the front of a text. It ends where the text does or at
the first character of another kind, and wherever a run ends so, taking and dropping cut the text
there.
-/

namespace Crosstab.Text

variable {α : Type} {p : α → Bool} {xs ys : List α}

/-- What is behind a run either ends the text or begins with something else. -/
def Stops (p : α → Bool) (ys : List α) : Prop := ∀ y ∈ ys.head?, ¬p y

/-- Behind the longest run, something else begins. -/
theorem stops_dropWhile (p : α → Bool) (xs : List α) : Stops p (xs.dropWhile p) := by
  intro y hMem
  have hHead := List.head?_dropWhile_not p xs
  rw [Option.mem_def] at hMem
  simpa [hMem] using hHead

theorem takeWhile_of_stops (hStop : Stops p ys) : ys.takeWhile p = [] := by
  cases ys with
  | nil => rfl
  | cons y ys => exact List.takeWhile_cons_of_neg (hStop y rfl)

/-- A run is taken up to where it stops. -/
theorem takeWhile_run (hRun : ∀ x ∈ xs, p x) (hStop : Stops p ys) :
    (xs ++ ys).takeWhile p = xs := by
  rw [List.takeWhile_append_of_pos hRun, takeWhile_of_stops hStop, List.append_nil]

/-- What is behind a run is left. -/
theorem dropWhile_run (hRun : ∀ x ∈ xs, p x) (hStop : Stops p ys) :
    (xs ++ ys).dropWhile p = ys := by
  rw [List.dropWhile_append_of_pos hRun]
  cases ys with
  | nil => rfl
  | cons y ys => rw [List.dropWhile_cons_of_neg (hStop y rfl)]

end Crosstab.Text
