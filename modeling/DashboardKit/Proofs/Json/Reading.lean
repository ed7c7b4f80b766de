import DashboardKit.Json.Reader
import DashboardKit.Proofs.Json.Writable
import DashboardKit.Proofs.Value.Entries
import Mathlib.Algebra.Group.Nat.Defs

/-!
# What is read from JSON

A document that was read holds lists and maps over atoms that JSON has a form for, its integers are
within the digit limit, and the keys of a map are texts and all different: it is a
`Value.Document`.  Such a value can be written.

Main statement: `document_of_read`.
-/

set_option autoImplicit false

namespace DashboardKit

/-! ## Digits -/

namespace Decimal

theorem digitValue_lt {c : Char} (h : isDigit c = true) : digitValue c < 10 := by
  rw [isDigit, Bool.and_eq_true, decide_eq_true_eq, decide_eq_true_eq] at h
  have hlast : c.toNat ≤ '9'.toNat := h.2
  have hnine : '9'.toNat = 57 := rfl
  rw [digitValue]
  omega

theorem valueFrom_lt {ds : List Char} (hds : ∀ c ∈ ds, isDigit c = true) {start bound : Nat}
    (hstart : start < bound) : valueFrom start ds < bound * 10 ^ ds.length := by
  induction ds generalizing start bound with
  | nil => simpa [valueFrom] using hstart
  | cons c ds ih =>
    rw [List.forall_mem_cons] at hds
    have hvalue := digitValue_lt hds.1
    have hnext := ih hds.2 (show start * 10 + digitValue c < bound * 10 by omega)
    rwa [List.length_cons, Nat.pow_succ', ← Nat.mul_assoc]

/-- A number has no more digits than it is spelled with. -/
theorem value_lt {ds : List Char} (hds : ∀ c ∈ ds, isDigit c = true) :
    value ds < 10 ^ ds.length := by
  have hvalue := valueFrom_lt hds Nat.zero_lt_one
  rwa [Nat.one_mul] at hvalue

theorem exceedsLimit_eq_false {n : Int} (h : n.natAbs < Nat.pow 10 digitLimit) :
    exceedsLimit n = false := decide_eq_false (Nat.not_le.2 h)

end Decimal

attribute [local irreducible] Decimal.exceedsLimit Decimal.digitLimit

/-! ## Documents -/

/-- JSON has a form of its own for an atom, and if it is a text, the text has a property. -/
def Atom.Document (P : Text → Prop) : Atom → Prop
  | .text t => P t
  | a => a.Writable

/-- What a JSON document holds, its texts having a property: lists and maps over atoms, each map
under texts that are all different. -/
inductive Value.Document (P : Text → Prop) : Value → Prop where
  | atom {a : Atom} : a.Document P → Document P (.atom a)
  | list {items : List Value} : (∀ v ∈ items, Document P v) → Document P (.list items)
  | map {entries : List (Atom × Value)} : (entries.map (·.1)).Nodup →
      (∀ e ∈ entries, ∃ t, e.1 = .text t ∧ P t) → (∀ e ∈ entries, Document P e.2) →
      Document P (.map entries)

namespace Value

variable {P : Text → Prop} {v : Value}

theorem document_map {entries : List (Atom × Value)} :
    Document P (.map entries) ↔ (entries.map (·.1)).Nodup ∧
      ∀ e ∈ entries, (∃ t, e.1 = .text t ∧ P t) ∧ e.2.Document P := by
  constructor
  · rintro (_ | _ | ⟨hnodup, hkeys, hvalues⟩)
    exact ⟨hnodup, fun e he => ⟨hkeys e he, hvalues e he⟩⟩
  · rintro ⟨hnodup, hentries⟩
    exact .map hnodup (fun e he => (hentries e he).1) fun e he => (hentries e he).2

theorem document_nil : Document P (.map []) :=
  document_map.2 ⟨List.nodup_nil, fun _ he => absurd he List.not_mem_nil⟩

theorem Document.mono {Q : Text → Prop} (h : v.Document P) (hsub : ∀ t, P t → Q t) :
    v.Document Q := by
  induction h with
  | @atom a ha =>
    refine .atom ?_
    cases a with
    | text t => exact hsub t ha
    | _ => exact ha
  | list _ ih => exact .list ih
  | map hnodup hkeys _ ih =>
    exact .map hnodup (fun e he => (hkeys e he).imp fun t ht => ⟨ht.1, hsub t ht.2⟩) ih

/-- A document can be written. -/
theorem Document.writable (h : v.Document P) : v.Writable := by
  induction h with
  | @atom a ha =>
    refine .atom ?_
    cases a with
    | text t => trivial
    | _ => exact ha
  | list _ ih => exact .list ih
  | map _ hkeys _ ih =>
    refine .map (fun e he => ?_) ih
    obtain ⟨t, ht, -⟩ := hkeys e he
    rw [ht]
    trivial

/-- The texts in a whole document are whole. -/
theorem Document.of_whole (h : v.Document P) (hwhole : v.Whole) : v.Document Text.Whole := by
  induction h with
  | @atom a ha =>
    have hatom := whole_atom.1 hwhole
    refine .atom ?_
    cases a with
    | text t => exact hatom
    | _ => exact ha
  | list _ ih => exact .list fun v hv => ih v hv (whole_list.1 hwhole v hv)
  | map hnodup hkeys _ ih =>
    have hentries := whole_map.1 hwhole
    refine .map hnodup (fun e he => ?_) fun e he => ih e he (hentries e he).2
    obtain ⟨t, ht, -⟩ := hkeys e he
    have hkey := (hentries e he).1
    rw [ht] at hkey
    exact ⟨t, ht, hkey⟩

/-- A document with whole texts is whole. -/
theorem Document.whole (h : v.Document Text.Whole) : v.Whole := by
  induction h with
  | @atom a ha =>
    refine .atom ?_
    cases a with
    | text t => exact ha
    | _ => trivial
  | list _ ih => exact .list ih
  | map _ hkeys _ ih =>
    refine .map (fun e he => ?_) ih
    obtain ⟨t, ht, hwhole⟩ := hkeys e he
    rw [ht]
    exact hwhole

end Value

namespace Json

variable {cs rest : List Char} {v : Value} {a : Atom}

/-! ## Atoms -/

theorem isDigit_of_splitWhole (cs : List Char) :
    ∀ c ∈ (splitWhole cs).1, Decimal.isDigit c = true := by
  intro c hc
  unfold splitWhole at hc
  split at hc
  · obtain rfl := List.mem_singleton.1 hc
    rfl
  · exact List.all_eq_true.1 List.all_takeWhile c hc

theorem document_of_readNumber (h : readNumber cs = .ok (a, rest)) {P : Text → Prop} :
    a.Document P := by
  unfold readNumber at h
  have hdigits := isDigit_of_splitWhole (if cs.head? == some '-' then cs.tail else cs)
  rcases hsplit : splitWhole (if cs.head? == some '-' then cs.tail else cs) with ⟨whole, rest₁⟩
  rw [hsplit] at hdigits
  simp only [hsplit] at h
  split at h
  · cases h
  split at h
  · split at h
    · cases h
    · rename_i hlimit
      cases h
      refine Decimal.exceedsLimit_eq_false ?_
      have hvalue : Decimal.value whole < 10 ^ Decimal.digitLimit :=
        Nat.lt_of_lt_of_le (Decimal.value_lt hdigits)
          (Nat.pow_le_pow_right (by decide) (Nat.not_lt.1 hlimit))
      split
      · rwa [Int.natAbs_neg, Int.natAbs_natCast]
      · rwa [Int.natAbs_natCast]
  · cases h
    trivial

/-- A name or a number is read as one. -/
theorem document_of_readWord (h : readWord cs = .ok (a, rest)) {P : Text → Prop} :
    a.Document P := by
  unfold readWord at h
  split at h
  · rename_i found hfound
    obtain ⟨⟨name, a'⟩, hname, hmap⟩ := List.exists_of_findSome?_eq_some hfound
    obtain ⟨rest', -, rfl⟩ := Option.map_eq_some_iff.1 hmap
    obtain ⟨rfl, -⟩ : a' = a ∧ rest' = rest := by simpa using h
    have hall : ∀ n ∈ names, n.2.Document P := by simp [names, Atom.Document, Atom.Writable]
    exact hall _ hname
  · exact document_of_readNumber h

/-! ## Values -/

/-- What the three readers of values give with so much fuel belongs to a document. -/
structure ReadsDocuments (fuel : Nat) : Prop where
  value : ∀ cs v rest, readValue fuel cs = .ok (v, rest) → v.Document fun _ => True
  items : ∀ cs vs rest, readItems fuel cs = .ok (vs, rest) → ∀ v ∈ vs, v.Document fun _ => True
  members : ∀ cs es rest, readMembers fuel cs = .ok (es, rest) →
    ∀ e ∈ es, (∃ t, e.1 = .text t) ∧ e.2.Document fun _ => True

theorem readsDocuments_zero : ReadsDocuments 0 where
  value _ _ _ h := by simp [readValue] at h
  items _ _ _ h := by simp [readItems] at h
  members _ _ _ h := by simp [readMembers] at h

theorem ReadsDocuments.value_succ {fuel : Nat} (ih : ReadsDocuments fuel)
    (h : readValue (fuel + 1) cs = .ok (v, rest)) : v.Document fun _ => True := by
  unfold readValue at h
  split at h
  · split at h
    · cases h
    · cases h
      exact .atom trivial
  · split at h
    · cases h
      exact .list fun _ hv => absurd hv List.not_mem_nil
    · split at h
      · cases h
      · rename_i hitems
        cases h
        exact .list (ih.items _ _ _ hitems)
  · split at h
    · cases h
      exact .map List.nodup_nil (fun _ he => absurd he List.not_mem_nil)
        fun _ he => absurd he List.not_mem_nil
    · split at h
      · cases h
      · rename_i hmembers
        cases h
        have hall := ih.members _ _ _ hmembers
        have hentries := @Entries.forall_ofPairs (fun a => ∃ t, a = .text t)
          (Value.Document fun _ => True) _ hall
        refine .map (Entries.nodup_keys_ofPairs fun p hp => (hall p hp).1) (fun e he => ?_)
          fun e he => (hentries e he).2
        obtain ⟨t, ht⟩ := (hentries e he).1
        exact ⟨t, ht, trivial⟩
  · split at h
    · cases h
    · rename_i hword
      cases h
      exact .atom (document_of_readWord hword)

theorem ReadsDocuments.items_succ {fuel : Nat} (ih : ReadsDocuments fuel) {vs : List Value}
    (h : readItems (fuel + 1) cs = .ok (vs, rest)) : ∀ v ∈ vs, v.Document fun _ => True := by
  unfold readItems at h
  split at h
  · cases h
  rename_i v rest₁ hvalue
  have hv := ih.value _ _ _ hvalue
  split at h
  · cases h
    exact List.forall_mem_singleton.2 hv
  · split at h
    · cases h
    · rename_i hitems
      cases h
      exact List.forall_mem_cons.2 ⟨hv, ih.items _ _ _ hitems⟩
  · cases h

theorem ReadsDocuments.members_succ {fuel : Nat} (ih : ReadsDocuments fuel)
    {es : List (Atom × Value)} (h : readMembers (fuel + 1) cs = .ok (es, rest)) :
    ∀ e ∈ es, (∃ t, e.1 = .text t) ∧ e.2.Document fun _ => True := by
  unfold readMembers at h
  split at h
  · split at h
    · cases h
    split at h
    · split at h
      · cases h
      rename_i v rest₁ hvalue
      have hv := ih.value _ _ _ hvalue
      split at h
      · cases h
        exact List.forall_mem_singleton.2 ⟨⟨_, rfl⟩, hv⟩
      · split at h
        · cases h
        · rename_i hmembers
          cases h
          exact List.forall_mem_cons.2 ⟨⟨⟨_, rfl⟩, hv⟩, ih.members _ _ _ hmembers⟩
      · cases h
    · cases h
  · cases h

theorem readsDocuments (fuel : Nat) : ReadsDocuments fuel := by
  induction fuel with
  | zero => exact readsDocuments_zero
  | succ fuel ih =>
    exact ⟨fun _ _ _ => ih.value_succ, fun _ _ _ => ih.items_succ, fun _ _ _ => ih.members_succ⟩

/-- Blanks in front and behind apart, a document is one value. -/
theorem exists_readValue_of_read (h : read cs = .ok v) :
    ∃ rest, readValue (2 * cs.length + 2) (skipBlanks cs) = .ok (v, rest) ∧
      skipBlanks rest = [] := by
  unfold read at h
  split at h
  · cases h
  split at h
  · rename_i hdocument
    cases h
    unfold readDocument at hdocument
    split at hdocument
    · cases hdocument
    rename_i hvalue
    split at hdocument
    · rename_i hblanks
      cases hdocument
      exact ⟨_, hvalue, hblanks⟩
    · cases hdocument
  · cases h
  · cases h

/-- What is read is a document. -/
theorem document_of_read (h : read cs = .ok v) : v.Document fun _ => True := by
  obtain ⟨rest, hvalue, -⟩ := exists_readValue_of_read h
  exact (readsDocuments _).value _ _ _ hvalue

end Json

end DashboardKit
