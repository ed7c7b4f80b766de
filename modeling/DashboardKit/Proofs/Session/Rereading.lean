import DashboardKit.Proofs.Json.Prefixes
import DashboardKit.Proofs.Json.Written
import DashboardKit.Proofs.Session.Documents
import DashboardKit.Proofs.Text.Encoding

/-!
# Saved documents read back

No carriage return is ever written: inside texts it is escaped, and nothing else brings one in.  So
reading a file, which makes line breaks of carriage returns, gives the text that was written to it,
and with that the document.  From a file that holds no more than a beginning of that text no other
map is read.

Main statements: `Session.HoldsDocument.holdsJson` and `Session.HoldsJson.eq_of_take`.
-/

set_option autoImplicit false

namespace DashboardKit

/-! ## Carriage returns -/

/-- There is no carriage return in a text. -/
def Text.NoReturn (t : Text) : Prop := ∀ p ∈ t, p ≠ .scalar '\r'

instance (t : Text) : Decidable t.NoReturn := inferInstanceAs (Decidable (∀ p ∈ t, _))

namespace Text

variable {s t : Text}

theorem noReturn_append : NoReturn (s ++ t) ↔ s.NoReturn ∧ t.NoReturn := List.forall_mem_append

theorem not_mem_scalars (h : t.NoReturn) : '\r' ∉ scalars t := by
  intro hmem
  obtain ⟨p, hp, hchar⟩ := List.mem_filterMap.1 hmem
  cases p with
  | scalar c =>
    obtain rfl := Option.some.inj hchar
    exact h _ hp rfl
  | surrogate n => cases hchar

end Text

/-- No carriage return is written. -/
theorem Json.noReturn_writeAt {s : Style} {depth : Nat} {v : Value} {t : Text}
    (h : writeAt s depth v = .ok t) : t.NoReturn := by
  rintro p hp rfl
  have hnone : ∀ asciiOnly, ¬ Written asciiOnly (.scalar '\r') := by decide
  exact hnone s.asciiOnly (written_writeAt h _ hp)

/-! ## Files -/

/-- The octets of a text are those of its characters. -/
theorem Utf8.encode_eq_ok {t : Text} {octets : Octets} (h : encode t = .ok octets) :
    octets = encodeChars (Text.scalars t) := by
  unfold encode at h
  split at h
  · cases h
  · exact (Except.ok.inj h).symm

/-- A document as it is written: the octets of characters without a carriage return, which are read
as this document. -/
theorem Value.Document.read_fileText {v : Value} {t : Text} (hv : v.Document Text.Whole)
    (h : Action.fileText v = .ok t) :
    '\r' ∉ Text.scalars t ∧ Json.read (Text.scalars t) = .ok v.reread := by
  obtain ⟨written, hwrite, rfl⟩ := map_eq_ok.1 h
  have hreturn : Text.NoReturn (written ++ [.scalar '\n']) :=
    Text.noReturn_append.2 ⟨Json.noReturn_writeAt hwrite, by decide⟩
  have hlegible : v.Document (Text.Legible false) := hv.mono fun t ht => ht.legible false
  refine ⟨Text.not_mem_scalars hreturn, ?_⟩
  rw [Text.scalars_append]
  exact @Json.read_write .file _ ['\n'] _ hlegible hwrite (List.forall_mem_singleton.2 rfl)

namespace Session

variable {s : Session} {p : Path} {v : Value}

/-- A file with a document as it is written is read as this document. -/
theorem HoldsDocument.holdsJson (h : s.HoldsDocument p v) (hp : Action.isUsable p = true)
    (hv : v.Document Text.Whole) : s.HoldsJson p (.ok v.reread) := by
  obtain ⟨t, octets, htext, hencode, hread⟩ := h
  obtain ⟨hreturn, hjson⟩ := hv.read_fileText htext
  refine ⟨hp, octets, Text.scalars t, hread, ?_, hjson⟩
  rw [Utf8.encode_eq_ok hencode]
  exact Utf8.read_encodeChars hreturn

/-- If a map is read from a file that holds no more than a beginning of a document as it is written,
it is this document. -/
theorem HoldsJson.eq_of_take {count : Nat} {m : List (Atom × Value)}
    (h : s.HoldsJson p (.ok (.map m)))
    (hv : v.Document Text.Whole)
    (hread : s.tree.readFile s.workingDir p = .ok ((Action.documentOctets v).take count)) :
    Value.map m = v.reread := by
  obtain ⟨t, htext, hwhole⟩ := Action.exists_fileText hv.writable
  obtain ⟨octets, hencode⟩ := Text.exists_encode_iff.2 (hwhole.2 hv.whole)
  obtain ⟨hreturn, hjson⟩ := hv.read_fileText htext
  rw [Action.documentOctets_of_text htext, Action.textOctets_of_encode hencode,
    Utf8.encode_eq_ok hencode] at hread
  obtain ⟨-, octets', cs, hread', hdecode, hfront⟩ := h
  rw [hread, Except.ok.injEq] at hread'
  subst hread'
  obtain ⟨front, hchars, rfl⟩ := map_eq_ok.1 hdecode
  obtain ⟨behind, hbehind⟩ :=
    Utf8.exists_append_of_decode_take (Utf8.decode_encodeChars (Text.scalars t)) hchars
  have hplain : Utf8.unifyNewlines front = front := by
    refine Utf8.unifyNewlines_of_not_mem fun hmem => hreturn ?_
    rw [hbehind]
    exact List.mem_append_left behind hmem
  rw [hplain] at hfront
  rw [hbehind] at hjson
  exact (Json.eq_of_read_append hfront hjson).symm

end Session

end DashboardKit
