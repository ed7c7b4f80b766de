import Mathlib.Data.List.Infix
import DashboardKit.Proofs.Text.Replacing
import DashboardKit.Template.Packaged

/-!
# The calls in the packaged page components

A page component fetches its data from an address that stands in quotes behind the word `fetch(`.
In the packaged templates this address has a fixed part, the placeholder for the name of the route,
and for a statistics component one more segment.

Main statement: `fetchesOnly_component`, every packaged page component but the layout container has
such calls, and none that fetches from another address.
-/

set_option autoImplicit false

namespace DashboardKit.Template

variable {word t r address : Text} {kind : ComponentKind}

/-! ## Calls -/

/-- What comes behind the places where a word stands in a text. -/
def behindEach (word t : Text) : List Text := t.tails.filterMap (Text.after? word)

theorem mem_behindEach : r ∈ behindEach word t ↔ ∃ before, t = before ++ (word ++ r) := by
  simp only [behindEach, List.mem_filterMap, List.mem_tails, Text.after?_eq_some_iff]
  constructor
  · rintro ⟨_, ⟨before, rfl⟩, rfl⟩
    exact ⟨before, rfl⟩
  · rintro ⟨before, rfl⟩
    exact ⟨word ++ r, ⟨before, rfl⟩, rfl⟩

/-- The word in front of the address that is fetched. -/
def fetchWord : Text := "fetch("

/-- What stands in front of an address and behind it: quotes, or a quote of a text with values in
it, in which the address ends with its query. -/
def addressMarks : List (Text × Text) := [("'", "'"), ("`", "?")]

/-- A text that begins with an address between its marks. -/
def Quotes (address t : Text) : Prop := ∃ m ∈ addressMarks, m.1 ++ address ++ m.2 <+: t

/-- There are calls in a text, and each of them fetches from this address. -/
def FetchesOnly (address t : Text) : Prop :=
  behindEach fetchWord t ≠ [] ∧ ∀ r ∈ behindEach fetchWord t, Quotes address r

instance (address t : Text) : Decidable (Quotes address t) :=
  inferInstanceAs (Decidable (∃ m ∈ addressMarks, _))

instance (address t : Text) : Decidable (FetchesOnly address t) :=
  inferInstanceAs (Decidable (_ ∧ _))

/-! ## Lines as characters -/

/-- The characters of each line.  To take a line apart against `String.ofList` is much less work
than to decode it, so that the characters of a whole template can be had in this way. -/
inductive Spelled : List String → List (List Char) → Prop where
  | nil : Spelled [] []
  | cons {cs : List Char} {lines : List String} {spelling : List (List Char)}
      (rest : Spelled lines spelling) : Spelled (String.ofList cs :: lines) (cs :: spelling)

variable {lines : List String} {spelling : List (List Char)}

theorem Spelled.map_toList (h : Spelled lines spelling) : lines.map String.toList = spelling := by
  induction h with
  | nil => rfl
  | cons rest ih => rw [List.map_cons, String.toList_ofList, ih]

/-- What holds of all lines that are spelled out holds of the lines. -/
theorem Spelled.forall_mem {P : List Char → Prop} (h : Spelled lines spelling)
    (hspelled : ∀ cs ∈ spelling, P cs) : ∀ line ∈ lines, P line.toList := by
  rw [← h.map_toList] at hspelled
  exact List.forall_mem_map.1 hspelled

/-- Calls in lines that are spelled out. -/
theorem fetchesOnly_of_spelled (hlines : Spelled (Packaged.lines kind .component) spelling)
    (h : FetchesOnly address (Text.ofChars (spelling.intersperse ['\n']).flatten)) :
    FetchesOnly address (Text.ofChars (Packaged.text kind .component)) := by
  rw [← hlines.map_toList] at h
  exact h

/-! ## The packaged page components -/

/-- What comes behind the name of a route in its address. -/
def routeEnd (kind : ComponentKind) : Text := if kind = .stats then "/statistics" else []

/-- The address that a page component fetches from, given the text that names the route. -/
def fetchAddress (kind : ComponentKind) (name : Text) : Text :=
  ("/api/microlab/" : Text) ++ name ++ routeEnd kind

set_option maxRecDepth 8000 in
/-- Every packaged page component fetches from the address that the placeholder for the route
names, and from no other. -/
theorem fetchesOnly_component (hkind : kind ≠ .dashtable) :
    FetchesOnly (fetchAddress kind "$&componentApi$&")
      (Text.ofChars (Packaged.text kind .component)) := by
  cases kind with
  | dashtable => exact absurd rfl hkind
  | _ =>
    apply fetchesOnly_of_spelled
    · simp only [Packaged.lines, Packaged.chartComponent, Packaged.deviationComponent,
        Packaged.stateComponent, Packaged.statsComponent, Packaged.toggleComponent]
      repeat apply Spelled.cons
      exact .nil
    · decide +kernel

end DashboardKit.Template
