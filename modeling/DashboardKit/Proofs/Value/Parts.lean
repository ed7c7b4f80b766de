import DashboardKit.Proofs.Text.Whole
import DashboardKit.Value.Shown

/-!
# Values and their parts

Induction over values: what holds of the items of a list holds of the list, and so for maps.  Two
properties of values are told through their parts: whether all texts in a value are whole, and
whether all integers in an atom can be written.
-/

set_option autoImplicit false

namespace DashboardKit

/-- Induction over the parts of a value. -/
@[elab_as_elim]
theorem Value.byParts {motive : Value → Prop}
    (atom : ∀ a, motive (.atom a))
    (list : ∀ items, (∀ v ∈ items, motive v) → motive (.list items))
    (map : ∀ entries, (∀ e ∈ entries, motive e.2) → motive (.map entries))
    (set : ∀ members, motive (.set members))
    (cycle : motive .cycle) (v : Value) : motive v :=
  @Value.rec motive (fun items => ∀ v ∈ items, motive v) (fun entries => ∀ e ∈ entries, motive e.2)
    (fun e => motive e.2) atom list map set cycle
    (fun _ hv => absurd hv List.not_mem_nil)
    (fun _ _ hv hrest => List.forall_mem_cons.2 ⟨hv, hrest⟩)
    (fun _ he => absurd he List.not_mem_nil)
    (fun _ _ he hrest => List.forall_mem_cons.2 ⟨he, hrest⟩)
    (fun _ _ hv => hv) v

/-! ## Texts -/

/-- The text that an atom is, if it is one, is whole. -/
def Atom.Whole : Atom → Prop
  | .text t => t.Whole
  | _ => True

/-- All texts in a value are whole, those in keys as well. -/
inductive Value.Whole : Value → Prop where
  | atom {a : Atom} : a.Whole → Whole (.atom a)
  | list {items : List Value} : (∀ v ∈ items, Whole v) → Whole (.list items)
  | map {entries : List (Atom × Value)} :
      (∀ e ∈ entries, e.1.Whole) → (∀ e ∈ entries, Whole e.2) → Whole (.map entries)
  | set {members : List Atom} : (∀ a ∈ members, a.Whole) → Whole (.set members)
  | cycle : Whole .cycle

theorem Value.whole_atom {a : Atom} : Whole (.atom a) ↔ a.Whole :=
  ⟨fun h => by cases h; assumption, .atom⟩

theorem Value.whole_list {items : List Value} : Whole (.list items) ↔ ∀ v ∈ items, v.Whole :=
  ⟨fun h => by cases h; assumption, .list⟩

theorem Value.whole_map {entries : List (Atom × Value)} :
    Whole (.map entries) ↔ ∀ e ∈ entries, e.1.Whole ∧ e.2.Whole := by
  constructor
  · rintro (_ | _ | ⟨hkeys, hvalues⟩)
    exact fun e he => ⟨hkeys e he, hvalues e he⟩
  · exact fun h => .map (fun e he => (h e he).1) fun e he => (h e he).2

/-! ## Integers -/

/-- An atom is no integer with more digits than can be written. -/
def Atom.WithinDigits : Atom → Prop
  | .int n => Decimal.exceedsLimit n = false
  | _ => True

theorem exists_showInt_iff {n : Int} :
    (∃ t, showInt n = .ok t) ↔ Decimal.exceedsLimit n = false := by
  unfold showInt
  cases Decimal.exceedsLimit n <;> simp

theorem whole_showInt {n : Int} {t : Text} (h : showInt n = .ok t) : t.Whole := by
  unfold showInt at h
  split at h
  · simp at h
  · obtain rfl := Except.ok.inj h
    exact Text.whole_ofChars _

/-- An atom can be shown exactly if it is within the digits. -/
theorem Atom.exists_shown_iff {a : Atom} : (∃ t, a.shown = .ok t) ↔ a.WithinDigits := by
  cases a with
  | int n => exact exists_showInt_iff
  | _ => exact ⟨fun _ => trivial, fun _ => ⟨_, rfl⟩⟩

/-- An atom that is shown in a collection is spelled with characters. -/
theorem Atom.whole_shown {a : Atom} {t : Text} (h : a.shown = .ok t) : t.Whole := by
  cases a with
  | null => cases h; exact Text.whole_ofString _
  | bool b => cases h; cases b <;> exact Text.whole_ofString _
  | int n => exact whole_showInt h
  | float x => cases h; exact Text.whole_ofChars _
  | text t => cases h; exact Text.whole_quoted _
  | date d => cases h; exact Text.whole_ofChars _
  | moment m => cases h; exact Text.whole_ofChars _
  | bytes b => cases h; exact Text.whole_ofChars _

end DashboardKit
