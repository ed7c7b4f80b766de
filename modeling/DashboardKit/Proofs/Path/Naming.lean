import DashboardKit.Proofs.Path.Joining
import DashboardKit.FileTree.Basic

/-!
# Names and suffixes

The name of a path is its last segment: what the text of the path ends in, as far back as no slash
is met.  Resolving a path keeps its name.  A name has the suffix that it ends in, unless it is that
suffix and nothing else.

Main statements: `suffixOf_append`, `exists_name_ofText_append` and `name_resolve`.
-/

set_option autoImplicit false

namespace DashboardKit.Path

variable {p : Path} {w : Text}

@[simp] theorem name_concat (a : Anchor) (segments : List Text) (n : Text) :
    name ⟨a, segments ++ [n]⟩ = n := by
  rw [name, List.getLast?_concat, Option.getD_some]

/-- A path with a name ends in it. -/
theorem exists_segments_of_name (h : p.name ≠ []) : ∃ init, p.segments = init ++ [p.name] := by
  obtain ⟨anchor, segments⟩ := p
  rcases List.eq_nil_or_concat segments with rfl | ⟨init, n, rfl⟩
  · exact absurd rfl h
  · rw [List.concat_eq_append, name_concat]
    exact ⟨init, rfl⟩

/-- A name is kept behind other segments. -/
theorem name_append (a b : Anchor) (front : List Text) {rest : List Text} (h : rest ≠ []) :
    name ⟨a, front ++ rest⟩ = name ⟨b, rest⟩ := by
  obtain ⟨init, n, rfl⟩ := (List.eq_nil_or_concat rest).resolve_left h
  rw [List.concat_eq_append, ← List.append_assoc, name_concat, name_concat]

/-- The suffix of a name is its last dot with what stands behind, if something stands on either side
of the dot. -/
theorem suffixOf_append (hne : w ≠ []) (hdot : .scalar '.' ∉ w) (front : Text) :
    suffixOf (front ++ .scalar '.' :: w) = if front = [] then [] else .scalar '.' :: w := by
  have hbehind : ∀ p ∈ w.reverse, decide (p ≠ CodePoint.scalar '.') = true := by
    intro p hp
    rw [decide_eq_true_eq]
    rintro rfl
    exact hdot (List.mem_reverse.1 hp)
  have htail : (front ++ .scalar '.' :: w).reverse.takeWhile (· ≠ .scalar '.') = w.reverse := by
    rw [List.reverse_append, List.reverse_cons, List.append_assoc, List.singleton_append,
      List.takeWhile_append_of_pos hbehind, List.takeWhile_cons_of_neg (by simp), List.append_nil]
  have hstem : (front ++ .scalar '.' :: w).length - w.reverse.length - 1 = front.length := by
    simp only [List.length_append, List.length_cons, List.length_reverse]
    omega
  have hlength : w.reverse.length ≠ (front ++ .scalar '.' :: w).length := by
    simp only [List.length_append, List.length_cons, List.length_reverse]
    omega
  unfold suffixOf
  rw [htail]
  simp only [hstem, hlength, List.reverse_reverse, List.isEmpty_iff, List.reverse_eq_nil_iff,
    Bool.or_eq_true, List.length_eq_zero_iff, decide_eq_true_eq, hne, false_or, or_false]

/-- What ends in a dot and a word does not lead up. -/
theorem append_ne_dotDot (hne : w ≠ []) (hdot : .scalar '.' ∉ w) (front : Text) :
    front ++ .scalar '.' :: w ≠ dotDot := by
  intro h
  have hsuffix := suffixOf_append hne hdot front
  rw [h] at hsuffix
  split at hsuffix
  · rename_i hfront
    rw [hfront, List.nil_append] at h
    exact hdot ((List.cons.inj h).2 ▸ List.mem_singleton_self _)
  · cases hsuffix

/-- A text that ends in a dot and a word spells a path whose name ends so. -/
theorem exists_name_ofText_append (hne : w ≠ []) (hslash : slash ∉ w) (front : Text) :
    ∃ last, (ofText (front ++ .scalar '.' :: w)).name = last ++ .scalar '.' :: w := by
  obtain ⟨init, last, hpieces⟩ := (List.eq_nil_or_concat (Text.splitOn slash front)).resolve_left
    (Text.splitOn_ne_nil slash front)
  rw [List.concat_eq_append] at hpieces
  have hfree : ∀ s ∈ init ++ [last], slash ∉ s := by
    rw [← hpieces]
    exact fun s hs => not_mem_of_mem_splitOn hs
  obtain ⟨hinit, hlast⟩ := List.forall_mem_append.1 hfree
  have hname : slash ∉ last ++ .scalar '.' :: w := by
    rw [List.mem_append, List.mem_cons, not_or, not_or]
    exact ⟨hlast last (List.mem_singleton_self last), by decide, hslash⟩
  have hsplit : Text.splitOn slash (front ++ .scalar '.' :: w)
      = init ++ [last ++ .scalar '.' :: w] := by
    rw [← Text.join_splitOn slash front, hpieces, Text.join_concat_append,
      Text.splitOn_join_concat hinit, Text.splitOn_of_not_mem hname]
  have hkept : last ++ .scalar '.' :: w ≠ [] ∧ last ++ .scalar '.' :: w ≠ dot := by
    refine ⟨by simp, fun h => hne ?_⟩
    have hlength := congrArg List.length h
    simp only [List.length_append, List.length_cons, dot, List.length_nil] at hlength
    exact List.length_eq_zero_iff.1 (by omega)
  refine ⟨last, ?_⟩
  rw [ofText, hsplit, List.filter_append, List.filter_cons_of_pos (by simpa using hkept),
    List.filter_nil, name_concat]

/-- Resolving a path keeps its name, unless this leads up. -/
theorem name_resolve (cwd : Location) (hne : p.name ≠ []) (h : p.name ≠ dotDot) :
    (FileTree.resolve cwd p).path.name = p.name := by
  obtain ⟨init, hsegments⟩ := exists_segments_of_name hne
  rw [FileTree.resolve, hsegments, List.foldl_append, List.foldl_cons, List.foldl_nil, if_neg h,
    Location.path, name_concat]

end DashboardKit.Path
