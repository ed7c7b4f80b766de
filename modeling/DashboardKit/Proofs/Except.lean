/-!
# Results

What succeeds after its result or its failure was changed, and lists of which every member succeeds.
-/

set_option autoImplicit false

namespace DashboardKit

variable {α β ε ε' : Type}

/-- Another wording of failures lets the same results through. -/
theorem mapError_eq_ok {f : ε → ε'} {x : Except ε α} {a : α} :
    x.mapError f = .ok a ↔ x = .ok a := by
  cases x with
  | error e => exact iff_of_false nofun nofun
  | ok b => constructor <;> (rintro ⟨⟩; rfl)

theorem map_eq_ok {f : α → β} {x : Except ε α} {b : β} :
    x.map f = .ok b ↔ ∃ a, x = .ok a ∧ f a = b := by
  cases x <;> simp [Except.map]

theorem exists_map_eq_ok {f : α → β} {x : Except ε α} :
    (∃ b, x.map f = .ok b) ↔ ∃ a, x = .ok a := by
  cases x <;> simp [Except.map]

/-- What is told of a result tells that there is one. -/
theorem exists_eq_ok_of_toOption_map {f : α → β} {x : Except ε α} {b : β}
    (h : x.toOption.map f = some b) : ∃ a, x = .ok a ∧ f a = b := by
  cases x with
  | error e => cases h
  | ok a => exact ⟨a, rfl, Option.some.inj h⟩

/-- A list succeeds as a whole exactly if every member does. -/
theorem exists_mapM_eq_ok {f : α → Except ε β} {l : List α} :
    (∃ bs, l.mapM f = .ok bs) ↔ ∀ a ∈ l, ∃ b, f a = .ok b := by
  induction l with
  | nil => exact ⟨fun _ _ ha => absurd ha List.not_mem_nil, fun _ => ⟨[], rfl⟩⟩
  | cons a l ih =>
    rw [List.forall_mem_cons, ← ih, List.mapM_cons]
    cases f a with
    | error e => simp [bind, Except.bind]
    | ok b => cases l.mapM f <;> simp [bind, Except.bind, pure, Except.pure]

/-- Where every member succeeds, the list is mapped to what comes of its members. -/
theorem mapM_eq_ok_map {f : α → Except ε β} {g : α → β} {l : List α}
    (h : ∀ a ∈ l, f a = .ok (g a)) : l.mapM f = .ok (l.map g) := by
  induction l with
  | nil => rfl
  | cons a l ih =>
    rw [List.mapM_cons, h a List.mem_cons_self, ih fun b hb => h b (List.mem_cons_of_mem a hb)]
    rfl

/-- Members that come to the same come to the same as a list. -/
theorem mapM_congr {f g : α → Except ε β} {l : List α} (h : ∀ a ∈ l, f a = g a) :
    l.mapM f = l.mapM g := by
  induction l with
  | nil => rfl
  | cons a l ih =>
    rw [List.mapM_cons, List.mapM_cons, h a List.mem_cons_self,
      ih fun b hb => h b (List.mem_cons_of_mem a hb)]

/-- What the results of a list are like is settled by its members. -/
theorem forall_mem_of_mapM_eq_ok {f : α → Except ε β} {P : α → Prop} {Q : β → Prop} {l : List α}
    {bs : List β} (h : l.mapM f = .ok bs) (hmember : ∀ a ∈ l, ∀ b, f a = .ok b → (Q b ↔ P a)) :
    (∀ b ∈ bs, Q b) ↔ ∀ a ∈ l, P a := by
  induction l generalizing bs with
  | nil =>
    obtain rfl := Except.ok.inj h
    exact ⟨fun _ _ ha => absurd ha List.not_mem_nil, fun _ _ hb => absurd hb List.not_mem_nil⟩
  | cons a l ih =>
    rw [List.mapM_cons] at h
    cases hb : f a with
    | error e => simp [hb, bind, Except.bind] at h
    | ok b =>
      cases hrest : l.mapM f with
      | error e => simp [hb, hrest, bind, Except.bind] at h
      | ok rest =>
        obtain rfl : b :: rest = bs := by
          simpa [hb, hrest, bind, Except.bind, pure, Except.pure] using h
        have hhead : Q b ↔ P a := hmember a List.mem_cons_self b hb
        have htail : (∀ b ∈ rest, Q b) ↔ ∀ a ∈ l, P a :=
          ih hrest fun a' ha' => hmember a' (List.mem_cons_of_mem a ha')
        rw [List.forall_mem_cons, List.forall_mem_cons, hhead, htail]

/-- Every result of a list is that of a member. -/
theorem exists_mem_of_mapM_eq_ok {f : α → Except ε β} {l : List α} {bs : List β}
    (h : l.mapM f = .ok bs) : ∀ b ∈ bs, ∃ a ∈ l, f a = .ok b := by
  have hmember : ∀ a ∈ l, ∀ b, f a = .ok b → ((∃ a ∈ l, f a = .ok b) ↔ True) :=
    fun a ha b hb => iff_of_true ⟨a, ha, hb⟩ trivial
  exact (forall_mem_of_mapM_eq_ok h hmember).2 fun _ _ => trivial

end DashboardKit
