import DashboardKit.Text.CodePoint

/-!
# Text: searching, splitting and joining

Plain operations on lists of code points: the rest after a known start, the first place of a piece,
replacing every piece in one pass from the left, and cutting a text at a separator.
-/

set_option autoImplicit false

namespace DashboardKit.Text

/-- The rest of a text after a given start, if it begins so. -/
def after? : Text → Text → Option Text
  | [], t => some t
  | _ :: _, [] => none
  | p :: s, q :: t => if p = q then after? s t else none

/-- A text begins with `s` exactly when it is `s` followed by the rest. -/
theorem after?_eq_some_iff {s t r : Text} : after? s t = some r ↔ t = s ++ r := by
  induction s generalizing t with
  | nil => simp [after?, eq_comm]
  | cons p s ih =>
    cases t with
    | nil => simp [after?]
    | cons q t =>
      by_cases h : p = q
      · subst h; simp [after?, ih]
      · simp [after?, h, Ne.symm h]

/-- Whether a text begins with another. -/
def startsWith (t start : Text) : Bool := (after? start t).isSome

/-- Whether a text ends with another. -/
def endsWith (t suffix : Text) : Bool := (after? suffix.reverse t.reverse).isSome

/-- Whether a text holds a piece anywhere. -/
def includes (piece : Text) : Text → Bool
  | [] => piece.isEmpty
  | p :: t => startsWith (p :: t) piece || includes piece t

/-- Every occurrence of `piece` becomes `new`, taken leftmost first without overlap; an empty
`piece` occurs nowhere. -/
def replace (piece new : Text) (t : Text) : Text :=
  match t with
  | [] => []
  | p :: t =>
    if piece ≠ [] ∧ startsWith (p :: t) piece = true then
      new ++ replace piece new ((p :: t).drop piece.length)
    else p :: replace piece new t
  termination_by t.length
  decreasing_by
    · rename_i h
      have := List.length_pos_iff.2 h.1
      simp only [List.length_drop, List.length_cons]
      omega
    · simp

/-- A text does not get longer where what is put in is no longer than the piece. -/
theorem length_replace_le {piece new : Text} (h : new.length ≤ piece.length) (t : Text) :
    (replace piece new t).length ≤ t.length := by
  fun_induction replace piece new t with
  | case1 => exact Nat.le_refl 0
  | case2 p t hhit ih =>
    obtain ⟨rest, hrest⟩ := Option.isSome_iff_exists.1 hhit.2
    rw [after?_eq_some_iff.1 hrest, List.drop_left] at ih
    rw [after?_eq_some_iff.1 hrest, List.drop_left, List.length_append, List.length_append]
    omega
  | case3 p t hmiss ih => exact Nat.succ_le_succ ih

/-- A text that holds a piece gets shorter when something shorter takes its place. -/
theorem length_replace_lt {piece new t : Text} (h : new.length < piece.length)
    (hholds : includes piece t = true) : (replace piece new t).length < t.length := by
  have hpiece : piece ≠ [] := List.ne_nil_of_length_pos (Nat.zero_lt_of_lt h)
  fun_induction replace piece new t with
  | case1 => exact absurd (List.isEmpty_iff.1 hholds) hpiece
  | case2 p t hhit ih =>
    obtain ⟨rest, hrest⟩ := Option.isSome_iff_exists.1 hhit.2
    have hle := length_replace_le (Nat.le_of_lt h) rest
    rw [after?_eq_some_iff.1 hrest, List.drop_left, List.length_append, List.length_append]
    omega
  | case3 p t hmiss ih =>
    rw [includes, Bool.or_eq_true] at hholds
    exact Nat.succ_lt_succ (ih (hholds.resolve_left fun hfront => hmiss ⟨hpiece, hfront⟩))

/-- The pieces of a text between the separators; there is always at least one. -/
def splitOn (sep : CodePoint) : Text → List Text
  | [] => [[]]
  | p :: t =>
    if p = sep then [] :: splitOn sep t
    else
      match splitOn sep t with
      | [] => [[p]]
      | first :: rest => (p :: first) :: rest

/-- The texts one after the other with a separator in between. -/
def join (sep : Text) : List Text → Text
  | [] => []
  | [t] => t
  | t :: rest => t ++ sep ++ join sep rest

theorem splitOn_ne_nil (sep : CodePoint) (t : Text) : splitOn sep t ≠ [] := by
  induction t with
  | nil => simp [splitOn]
  | cons p t ih =>
    by_cases h : p = sep
    · simp [splitOn, h]
    · simp only [splitOn, h, if_false]
      split <;> simp

/-- Joining the pieces with the separator gives the text back. -/
theorem join_splitOn (sep : CodePoint) (t : Text) : join [sep] (splitOn sep t) = t := by
  induction t with
  | nil => rfl
  | cons p t ih =>
    by_cases h : p = sep
    · subst h
      simp only [splitOn, if_true]
      cases hs : splitOn p t with
      | nil => exact absurd hs (splitOn_ne_nil p t)
      | cons a r => simpa [join, hs] using ih
    · simp only [splitOn, h, if_false]
      cases hs : splitOn sep t with
      | nil => exact absurd hs (splitOn_ne_nil sep t)
      | cons a r =>
        cases r with
        | nil => simpa [join, hs] using ih
        | cons b r => simpa [join, hs] using ih

/-- A text without the separator is one piece. -/
theorem splitOn_of_not_mem {sep : CodePoint} {s : Text} (h : sep ∉ s) : splitOn sep s = [s] := by
  induction s with
  | nil => rfl
  | cons p s ih =>
    simp only [List.mem_cons, not_or] at h
    simp [splitOn, Ne.symm h.1, ih h.2]

/-- The first separator ends the first piece. -/
theorem splitOn_append_cons {sep : CodePoint} {s t : Text} (h : sep ∉ s) :
    splitOn sep (s ++ sep :: t) = s :: splitOn sep t := by
  induction s with
  | nil => simp [splitOn]
  | cons p s ih =>
    simp only [List.mem_cons, not_or] at h
    simp [splitOn, Ne.symm h.1, ih h.2]

/-- Splitting gives back pieces that were joined, if no piece holds the separator. -/
theorem splitOn_join {sep : CodePoint} {ps : List Text} (hne : ps ≠ [])
    (h : ∀ s ∈ ps, sep ∉ s) : splitOn sep (join [sep] ps) = ps := by
  induction ps with
  | nil => exact absurd rfl hne
  | cons s ps ih =>
    cases ps with
    | nil => exact splitOn_of_not_mem (h s (List.mem_cons_self ..))
    | cons t ps =>
      have hs : sep ∉ s := h s (List.mem_cons_self ..)
      have hrest := ih (by simp) fun u hu => h u (List.mem_cons_of_mem _ hu)
      simp only [join, List.append_assoc, List.singleton_append]
      rw [splitOn_append_cons hs, hrest]

/-- A text without the leading code points that satisfy `drop`. -/
def trimStart (drop : CodePoint → Bool) (t : Text) : Text := t.dropWhile drop

/-- A text without the trailing code points that satisfy `drop`. -/
def trimEnd (drop : CodePoint → Bool) (t : Text) : Text := (t.reverse.dropWhile drop).reverse

/-- A text without the code points at either end that satisfy `drop`. -/
def trim (drop : CodePoint → Bool) (t : Text) : Text := trimEnd drop (trimStart drop t)

end DashboardKit.Text
