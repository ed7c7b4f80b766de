import DashboardKit.Text.Search
import DashboardKit.Value.Shown

/-!
# Templates: placeholders

A placeholder is an identifier between two delimiters.  A template is cut into literal text and
placeholders from the left, each placeholder with the longest identifier that a delimiter follows,
and then every placeholder is replaced by the text of its value.  What is put in is not looked at
again.

Main statement: `flatMap_source_pieces`, the pieces put together give the template.
-/

set_option autoImplicit false

namespace DashboardKit.Template

/-- A piece of a template. -/
inductive Piece where
  | literal (t : Text)
  | placeholder (id : Text)
  deriving DecidableEq, Repr

/-- Whether a code point can begin an identifier: an ASCII letter or an underline. -/
def beginsIdentifier (p : CodePoint) : Bool :=
  match p with
  | .scalar c => ('A' ≤ c && c ≤ 'Z') || ('a' ≤ c && c ≤ 'z') || c == '_'
  | .surrogate _ => false

/-- Whether a code point can stand inside an identifier. -/
def inIdentifier (p : CodePoint) : Bool :=
  beginsIdentifier p || (match p with | .scalar c => '0' ≤ c && c ≤ '9' | .surrogate _ => false)

/-- The length of the longest identifier at the front. -/
def identifierLength : Text → Nat
  | [] => 0
  | p :: t => if beginsIdentifier p then 1 + (t.takeWhile inIdentifier).length else 0

/-- The longest start of a text, of at most `n` and at least one code point, that a delimiter
follows, and what comes after the delimiter. -/
def closedStart? (d t : Text) : (n : Nat) → Option (Text × Text)
  | 0 => none
  | n + 1 =>
    match Text.after? d (t.drop (n + 1)) with
    | some rest => some (t.take (n + 1), rest)
    | none => closedStart? d t n

/-- The identifier of the placeholder at the front, if there is one, and what comes after it. -/
def placeholder? (d t : Text) : Option (Text × Text) :=
  match Text.after? d t with
  | none => none
  | some rest => closedStart? d rest (identifierLength rest)

theorem closedStart?_eq_some {d t id rest : Text} {n : Nat} (hn : n ≤ t.length)
    (h : closedStart? d t n = some (id, rest)) : id ≠ [] ∧ t = id ++ d ++ rest := by
  induction n with
  | zero => simp [closedStart?] at h
  | succ n ih =>
    simp only [closedStart?] at h
    split at h
    · rename_i rest' hr
      simp only [Option.some.injEq, Prod.mk.injEq] at h
      obtain ⟨rfl, rfl⟩ := h
      rw [Text.after?_eq_some_iff] at hr
      refine ⟨?_, ?_⟩
      · intro he
        have := congrArg List.length he
        simp only [List.length_take, List.length_nil] at this
        omega
      · rw [List.append_assoc, ← hr, List.take_append_drop]
    · exact ih (by omega) h

theorem identifierLength_le (t : Text) : identifierLength t ≤ t.length := by
  cases t with
  | nil => simp [identifierLength]
  | cons p t =>
    simp only [identifierLength]
    split
    · have := (List.takeWhile_sublist inIdentifier (l := t)).length_le
      simp only [List.length_cons]
      omega
    · simp

/-- A placeholder at the front is its identifier between delimiters. -/
theorem placeholder?_eq_some {d t id rest : Text} (h : placeholder? d t = some (id, rest)) :
    id ≠ [] ∧ t = d ++ id ++ d ++ rest := by
  unfold placeholder? at h
  split at h
  · simp at h
  · rename_i r hr
    rw [Text.after?_eq_some_iff] at hr
    obtain ⟨hne, hr'⟩ := closedStart?_eq_some (identifierLength_le r) h
    exact ⟨hne, by rw [hr, hr']; simp⟩

theorem length_of_placeholder? {d t id rest : Text} (h : placeholder? d t = some (id, rest)) :
    rest.length < t.length := by
  obtain ⟨hne, rfl⟩ := placeholder?_eq_some h
  have := List.length_pos_iff.2 hne
  simp only [List.length_append]
  omega

/-- A code point in front of pieces; literal text in front takes it up. -/
def consLiteral (p : CodePoint) : List Piece → List Piece
  | .literal t :: rest => .literal (p :: t) :: rest
  | pieces => .literal [p] :: pieces

/-- The pieces of a template. -/
def pieces (d : Text) (t : Text) : List Piece :=
  match t with
  | [] => []
  | p :: t =>
    match _h : placeholder? d (p :: t) with
    | some (id, rest) => .placeholder id :: pieces d rest
    | none => consLiteral p (pieces d t)
  termination_by t.length
  decreasing_by
    · exact length_of_placeholder? _h
    · simp

/-- How a piece is written in a template. -/
def Piece.source (d : Text) : Piece → Text
  | literal t => t
  | placeholder id => d ++ id ++ d

theorem flatMap_source_consLiteral (d : Text) (p : CodePoint) (ps : List Piece) :
    (consLiteral p ps).flatMap (Piece.source d) = p :: ps.flatMap (Piece.source d) := by
  cases ps with
  | nil => simp [consLiteral, Piece.source]
  | cons a ps => cases a <;> simp [consLiteral, Piece.source]

/-- The pieces put together give the template. -/
theorem flatMap_source_pieces (d t : Text) : (pieces d t).flatMap (Piece.source d) = t := by
  fun_induction pieces d t with
  | case1 => rfl
  | case2 p t id rest h ih =>
    simp only [List.flatMap_cons, Piece.source, ih]
    exact (placeholder?_eq_some h).2.symm
  | case3 p t h ih => rw [flatMap_source_consLiteral, ih]

/-! ## Values in templates -/

/-- The text that stands for a value: nothing for no value, the words of the generated language for
truth values, and the printed form otherwise. -/
def valueText : Value → Except DigitOverflow Text
  | .atom .null => .ok []
  | .atom (.bool b) => .ok (if b then "true" else "false")
  | v => v.printed

/-- Why a template cannot be rendered. -/
inductive RenderFault where
  | emptyDelimiter
  /-- a value holds an integer with too many digits -/
  | digits
  deriving DecidableEq, Repr

/-- The text of a piece, given the values of placeholders. -/
def Piece.rendered (context : Entries) : Piece → Except RenderFault Text
  | literal t => .ok t
  | placeholder id =>
    match valueText ((context.get? id).getD .null) with
    | .ok t => .ok t
    | .error _ => .error .digits

/-- The texts of pieces, one after the other. -/
def renderedPieces (context : Entries) : List Piece → Except RenderFault Text
  | [] => .ok []
  | piece :: rest =>
    match piece.rendered context with
    | .error e => .error e
    | .ok t => (renderedPieces context rest).map (t ++ ·)

/-- A template with every placeholder replaced by the text of its value. -/
def render (d : Text) (context : Entries) (t : Text) : Except RenderFault Text :=
  if d = [] then .error .emptyDelimiter else renderedPieces context (pieces d t)

/-- The identifier of a piece that is a placeholder. -/
def Piece.id? : Piece → Option Text
  | literal _ => none
  | placeholder id => some id

/-- A list without the elements that came before. -/
def withoutRepeats : List Text → List Text
  | [] => []
  | t :: rest => t :: (withoutRepeats rest).filter (· ≠ t)

/-- The identifiers of the placeholders in a template, each once, in the order of first use. -/
def identifiers (d : Text) (t : Text) : Except RenderFault (List Text) :=
  if d = [] then .error .emptyDelimiter
  else .ok (withoutRepeats ((pieces d t).filterMap Piece.id?))

/-- The wording of a fault. -/
def RenderFault.message : RenderFault → Text
  | .emptyDelimiter => "delimiter must not be empty"
  | .digits => DigitOverflow.message

end DashboardKit.Template
