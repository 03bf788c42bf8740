/-! Cutting a text into the maximal runs of characters of one class, or at a separator. -/

namespace DocSections.Text

/-- Whether `n` lies in one of the closed ranges, which ascend. -/
def inRanges (n : Nat) : List (Nat × Nat) → Bool
  | [] => false
  | (first, last) :: rest => if n < first then false else n ≤ last || inRanges n rest

/-- Puts a finished run before the others; an empty run is none. -/
def closeRun (run : List Char) (runs : List (List Char)) : List (List Char) :=
  if run = [] then runs else run :: runs

/-- The run that a text begins with, which may be empty, and the runs after it. -/
def openRuns (p : Char → Bool) : List Char → List Char × List (List Char)
  | [] => ([], [])
  | c :: rest =>
    let r := openRuns p rest
    if p c then (c :: r.1, r.2) else ([], closeRun r.1 r.2)

/-- The maximal runs of characters that satisfy `p`, in order. -/
def runs (p : Char → Bool) (cs : List Char) : List (List Char) :=
  let r := openRuns p cs
  closeRun r.1 r.2

variable {α : Type}

def consFirst (c : α) : List (List α) → List (List α)
  | [] => [[c]]
  | piece :: rest => (c :: piece) :: rest

/-- The pieces between the separators, which may be empty. -/
def split [DecidableEq α] (separator : α) : List α → List (List α)
  | [] => [[]]
  | c :: rest =>
    if c = separator then [] :: split separator rest else consFirst c (split separator rest)

@[simp] theorem runs_nil (p : Char → Bool) : runs p [] = [] := rfl

theorem runs_cons_of_not {p : Char → Bool} {c : Char} (h : p c = false) (rest : List Char) :
    runs p (c :: rest) = runs p rest := by
  simp [runs, openRuns, h, closeRun]

theorem openRuns_of_all {p : Char → Bool} {w : List Char} (h : ∀ c ∈ w, p c = true)
    (rest : List Char) :
    openRuns p (w ++ rest) = (w ++ (openRuns p rest).1, (openRuns p rest).2) := by
  induction w with
  | nil => rfl
  | cons c w ih =>
    rw [List.cons_append, openRuns, ih fun d hd => h d (List.mem_cons_of_mem _ hd)]
    simp [h c]

theorem openRuns_append_of_not {p : Char → Bool} {c : Char} (h : p c = false)
    (a b : List Char) :
    openRuns p (a ++ c :: b) = ((openRuns p a).1, (openRuns p a).2 ++ runs p b) := by
  induction a with
  | nil => simp [openRuns, h, runs]
  | cons d a ih =>
    rw [List.cons_append, openRuns, ih, openRuns]
    split
    · rfl
    · simp only [closeRun]
      split <;> rfl

/-- A character outside the class parts a text into two that are cut on their own. -/
theorem runs_append_of_not {p : Char → Bool} {c : Char} (h : p c = false) (a b : List Char) :
    runs p (a ++ c :: b) = runs p a ++ runs p b := by
  simp only [runs, openRuns_append_of_not h, closeRun]
  split <;> simp

theorem mem_openRuns {p : Char → Bool} (cs : List Char) :
    (∀ c ∈ (openRuns p cs).1, p c = true) ∧
      ∀ w ∈ (openRuns p cs).2, w ≠ [] ∧ ∀ c ∈ w, p c = true := by
  induction cs with
  | nil => simp [openRuns]
  | cons c cs ih =>
    rw [openRuns]
    split
    · rename_i hc
      exact ⟨fun d hd => (List.mem_cons.mp hd).elim (fun e => e ▸ hc) (ih.1 d), ih.2⟩
    · refine ⟨by simp, fun w hw => ?_⟩
      simp only [closeRun] at hw
      split at hw
      · exact ih.2 w hw
      · rename_i hne
        rcases List.mem_cons.mp hw with rfl | hw
        · exact ⟨hne, ih.1⟩
        · exact ih.2 w hw

/-- A run is not empty and holds characters of the class only. -/
theorem mem_runs {p : Char → Bool} {cs w : List Char} (h : w ∈ runs p cs) :
    w ≠ [] ∧ ∀ c ∈ w, p c = true := by
  have hm := mem_openRuns (p := p) cs
  simp only [runs, closeRun] at h
  split at h
  · exact hm.2 w h
  · rename_i hne
    rcases List.mem_cons.mp h with rfl | h
    · exact ⟨hne, hm.1⟩
    · exact hm.2 w h

end DocSections.Text
