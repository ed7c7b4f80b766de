import DashboardKit.Prompt
import DashboardKit.Proofs.Component.Outcomes
import DashboardKit.Proofs.Path.Naming
import DashboardKit.Proofs.Session.Failing
import DashboardKit.Proofs.Text.LowerCase
import DashboardKit.Proofs.Text.Replacing

/-!
# Answers that name config files

The question for a config file looks at the end of the answer, the loader at the suffix of the file
that the answer leads to.  An answer that will do always leads to a file.  Its type is one that the
loader knows, unless the file is named by a suffix and nothing else: such a name has no suffix.  An
answer that names a user's home directory and nothing in it does not end in the name of the file.

Main statement: `load_of_accepted`.
-/

set_option autoImplicit false

namespace DashboardKit

/-! ## Suffixes of config files -/

/-- The text is a suffix of config files, in letters of either case. -/
def IsConfigSuffix (t : Text) : Prop := Text.lower t ∈ configSuffixes

instance (t : Text) : Decidable (IsConfigSuffix t) := inferInstanceAs (Decidable (_ ∈ _))

variable {t x : Text}

/-- A suffix is a dot and a word, of letters that nothing else becomes in lower case. -/
theorem exists_word_of_mem_configSuffixes (h : t ∈ configSuffixes) :
    ∃ word : List Char, t = Text.ofChars ('.' :: word) ∧ (∀ c ∈ '.' :: word, Text.OwnLetter c) ∧
      word ≠ [] ∧ '.' ∉ word ∧ '/' ∉ word := by
  simp only [configSuffixes, List.mem_cons, List.not_mem_nil, or_false] at h
  have hown {word : List Char} (hall : word.all (fun c => decide (Text.OwnLetter c)) = true) :
      ∀ c ∈ word, Text.OwnLetter c := by simpa using hall
  rcases h with rfl | rfl | rfl
  · exact ⟨['j', 's', 'o', 'n'], rfl, hown (by decide), by decide⟩
  · exact ⟨['y', 'a', 'm', 'l'], rfl, hown (by decide), by decide⟩
  · exact ⟨['y', 'm', 'l'], rfl, hown (by decide), by decide⟩

/-- Only a dot becomes a dot in lower case. -/
theorem eq_dot_of_toLower {c : Char} (h : c.toNat < 0x80) : c.toLower = '.' → c = '.' :=
  Text.of_ascii (by decide) c h

/-- In either case of its letters a suffix is a dot and a word that holds neither dot nor slash. -/
theorem IsConfigSuffix.exists_word (h : IsConfigSuffix x) :
    ∃ w, x = .scalar '.' :: w ∧ w ≠ [] ∧ .scalar '.' ∉ w ∧ Path.slash ∉ w := by
  obtain ⟨word, hlower, hown, hne, hdot, hslash⟩ := exists_word_of_mem_configSuffixes h
  obtain ⟨v, rfl, hascii, hv⟩ := Text.exists_word_of_lower hown hlower
  obtain ⟨d, v, rfl, hd, rfl⟩ := List.map_eq_cons_iff.1 hv
  obtain rfl := eq_dot_of_toLower (hascii d List.mem_cons_self) hd
  have hfree {c : Char} (hc : c ∉ v.map Char.toLower) (hsign : c.toLower = c) :
      CodePoint.scalar c ∉ Text.ofChars v := by
    intro hin
    obtain ⟨c', hc', ⟨⟩⟩ := List.mem_map.1 hin
    exact hc (List.mem_map.2 ⟨c, hc', hsign⟩)
  refine ⟨Text.ofChars v, rfl, fun hnil => hne ?_, hfree hdot rfl, hfree hslash rfl⟩
  rw [List.map_eq_nil_iff.1 hnil, List.map_nil]

/-- A text that ends in a suffix in lower case ends in this suffix in letters of either case. -/
theorem exists_isConfigSuffix (h : configSuffixes.any (Text.endsWith (Text.lower t)) = true) :
    ∃ front x, t = front ++ x ∧ IsConfigSuffix x := by
  obtain ⟨suffix, hsuffix, hends⟩ := List.any_eq_true.1 h
  obtain ⟨word, rfl, hown, -⟩ := exists_word_of_mem_configSuffixes hsuffix
  obtain ⟨front, v, rfl, hascii, hv⟩ := Text.exists_cut_of_lower hown (Text.endsWith_iff.1 hends)
  refine ⟨front, Text.ofChars v, rfl, ?_⟩
  rw [IsConfigSuffix, Text.lower_ofChars_of_ascii hascii, hv]
  exact hsuffix

theorem not_isConfigSuffix_nil : ¬ IsConfigSuffix [] := by decide

/-- A name that is a suffix and nothing else has none. -/
theorem IsConfigSuffix.suffixOf_eq_nil (h : IsConfigSuffix x) : Path.suffixOf x = [] := by
  obtain ⟨w, rfl, hne, hdot, -⟩ := h.exists_word
  exact (Path.suffixOf_append hne hdot []).trans (if_pos rfl)

/-- A name that ends in a suffix has one of config files, unless it is such a suffix itself. -/
theorem IsConfigSuffix.suffixOf_append_iff (h : IsConfigSuffix x) (front : Text) :
    IsConfigSuffix (Path.suffixOf (front ++ x)) ↔ ¬ IsConfigSuffix (front ++ x) := by
  constructor
  · intro hsuffix hname
    rw [hname.suffixOf_eq_nil] at hsuffix
    exact not_isConfigSuffix_nil hsuffix
  · intro hname
    obtain ⟨w, rfl, hne, hdot, -⟩ := h.exists_word
    rw [Path.suffixOf_append hne hdot, if_neg]
    · exact h
    · rintro rfl
      exact hname h

/-! ## What an answer leads to -/

namespace Action

variable {s s' : Session} {p q : Path}

/-- A path names the home directory of a user and nothing in it. -/
def NamesHome (p : Path) : Prop :=
  p.anchor = .here ∧ ∃ user, p.segments = [.scalar '~' :: user]

/-- A home takes the place of a first segment and leaves the name as it is, if there is one. -/
theorem name_expandHome (h : (expandHome p).outcome s = (.ok q, s')) (hhome : ¬ NamesHome p) :
    q.name = p.name := by
  obtain ⟨anchor, segments⟩ := p
  unfold expandHome at h
  split at h
  · rename_i first rest hanchor hsegments
    obtain rfl : anchor = .here := hanchor
    obtain rfl : segments = first :: rest := hsegments
    split at h
    · rename_i htilde
      obtain ⟨user, rfl⟩ := List.head?_eq_some_iff.1 htilde
      have hrest : rest ≠ [] := by
        rintro rfl
        exact hhome ⟨rfl, user, rfl⟩
      obtain ⟨home, mid, -, h⟩ := outcome_bind_eq_ok.1 h
      obtain ⟨rfl, -⟩ := outcome_pure_eq_ok.1 h
      have hname := Path.name_append .here .here [.scalar '~' :: user] hrest
      exact (Path.name_append _ .here _ hrest).trans hname.symm
    · rw [(outcome_pure_eq_ok.1 h).1]
  · rw [(outcome_pure_eq_ok.1 h).1]

end Action

/-- Whether the failure refuses a source before anything is read from it: there is no file, or its
type is not known. -/
def Failure.refusesSource : Failure → Bool
  | .configNotFound _ => true
  | .configInvalid _ (.unsupportedSuffix _) => true
  | _ => false

/-- The failure is about what a file holds. -/
def Failure.OfContent (f : Failure) : Prop := f.refusesSource = false

theorem Failure.OfWork.ofContent {f : Failure} (h : f.OfWork) : f.OfContent := by
  cases f with
  | configNotFound => cases h.noInput
  | configInvalid => cases h.noInput
  | _ => rfl

namespace ConfigFile

open DashboardKit.Action

variable {s : Session} {source path : Path} {octets : Utf8.Octets}

/-- What an answer has passed that will do. -/
theorem checks_of_accepted (h : ((Prompt.configPathProblem t).outcome s).1 = .ok none) :
    configSuffixes.any (Text.endsWith (Text.lower t)) = true ∧
      ∃ home path, (expandHome (Path.ofText t)).outcome s = (.ok home, s) ∧
        (resolve home).outcome s = (.ok path, s) ∧ (isFile path).outcome s = (.ok true, s) := by
  obtain ⟨r, s', hrun⟩ : ∃ r s', (Prompt.configPathProblem t).outcome s = (r, s') := ⟨_, _, rfl⟩
  obtain rfl : r = .ok none := by rwa [hrun] at h
  unfold Prompt.configPathProblem at hrun
  split at hrun
  · cases (outcome_pure_eq_ok.1 hrun).1
  split at hrun
  · cases (outcome_pure_eq_ok.1 hrun).1
  rename_i hends
  obtain ⟨home, mid, hhome, hrun⟩ := outcome_bind_eq_ok.1 hrun
  obtain rfl := (keeps_expandHome _).of_outcome hhome
  obtain ⟨path, mid, hresolve, hrun⟩ := outcome_bind_eq_ok.1 hrun
  obtain rfl := (keeps_resolve home).of_outcome hresolve
  obtain ⟨found, mid, hfile, hrun⟩ := outcome_bind_eq_ok.1 hrun
  obtain rfl := (keeps_isFile path).of_outcome hfile
  cases found with
  | false => cases (outcome_pure_eq_ok.1 hrun).1
  | true => exact ⟨by simpa using hends, home, path, hhome, hresolve, hfile⟩

/-- The place of a path has the name that the path ends in. -/
theorem name_of_resolves {p home : Path} {last w : Text}
    (hhome : (expandHome p).outcome s = (.ok home, s))
    (hresolve : (resolve home).outcome s = (.ok path, s)) (hnames : ¬ NamesHome p) (hne : w ≠ [])
    (hdot : .scalar '.' ∉ w) (hname : p.name = last ++ .scalar '.' :: w) : path.name = p.name := by
  have hhomeName : home.name = p.name := name_expandHome hhome hnames
  rw [eq_of_resolve hresolve, ← hhomeName]
  refine Path.name_resolve _ (by simp [hhomeName, hname]) ?_
  rw [hhomeName, hname]
  exact Path.append_ne_dotDot hne hdot last

/-- An answer that will do leads to a file. -/
theorem exists_file_of_accepted (h : ((Prompt.configPathProblem t).outcome s).1 = .ok none) :
    ∃ path octets, (expandHome (Path.ofText t) >>= resolve).outcome s = (.ok path, s) ∧
      isUsable path = true ∧ s.tree.readFile s.workingDir path = .ok octets := by
  obtain ⟨-, home, path, hhome, hresolve, hfile⟩ := checks_of_accepted h
  obtain ⟨husable, octets, hreads⟩ := outcome_isFile_eq_true_iff.1 hfile
  exact ⟨path, octets, (outcome_bind_of_ok hhome _).trans hresolve, husable, hreads⟩

/-- An answer that will do names something and a suffix, and so does the file that it leads to,
unless this is a home directory's place. -/
theorem name_of_accepted (h : ((Prompt.configPathProblem t).outcome s).1 = .ok none)
    (hresolves : (expandHome (Path.ofText t) >>= resolve).outcome s = (.ok path, s))
    (hnames : ¬ NamesHome (Path.ofText t)) :
    ∃ front x, IsConfigSuffix x ∧ (Path.ofText t).name = front ++ x ∧ path.name = front ++ x := by
  obtain ⟨hends, home, path', hhome, hresolve, -⟩ := checks_of_accepted h
  rw [outcome_bind_of_ok hhome, hresolve] at hresolves
  cases hresolves
  obtain ⟨front, x, rfl, hx⟩ := exists_isConfigSuffix hends
  obtain ⟨w, rfl, hne, hdot, hslash⟩ := hx.exists_word
  obtain ⟨last, hname⟩ := Path.exists_name_ofText_append hne hslash front
  have hpath := name_of_resolves hhome hresolve hnames hne hdot hname
  exact ⟨last, _, hx, hname, hpath.trans hname⟩

/-- Why the file that a path leads to has no suffix of config files: a suffix is all its name, or it
lies where a user has the home directory, under another name. -/
inductive Unsuffixed (s : Session) (p : Path) : Prop where
  | bare : ¬ NamesHome p → IsConfigSuffix p.name → Unsuffixed s p
  | home {path : Path} : NamesHome p → (expandHome p >>= resolve).outcome s = (.ok path, s) →
      ¬ IsConfigSuffix path.suffix → Unsuffixed s p

theorem unsuffixed_iff (h : ((Prompt.configPathProblem t).outcome s).1 = .ok none)
    (hresolves : (expandHome (Path.ofText t) >>= resolve).outcome s = (.ok path, s)) :
    Unsuffixed s (Path.ofText t) ↔ ¬ IsConfigSuffix path.suffix := by
  by_cases hnames : NamesHome (Path.ofText t)
  · constructor
    · rintro (⟨hother, -⟩ | ⟨-, hresolves', hsuffix⟩)
      · exact absurd hnames hother
      · rw [hresolves] at hresolves'
        cases hresolves'
        exact hsuffix
    · exact .home hnames hresolves
  · obtain ⟨front, x, hx, hname, hpath⟩ := name_of_accepted h hresolves hnames
    rw [Path.suffix, hpath, hx.suffixOf_append_iff, not_not, ← hname]
    constructor
    · rintro (⟨-, hbare⟩ | ⟨hother, -⟩)
      · exact hbare
      · exact absurd hother hnames
    · exact .bare hnames

/-! ## What the loader makes of it -/

theorem failsWith_readDocument (path : Path) : (readDocument path).FailsWith Failure.OfContent := by
  refine ((failsWith_readFile path).mono fun _ => Failure.OfWork.ofContent).bind fun octets => ?_
  split
  · exact failsWith_throw rfl
  · split
    · split
      · exact failsWith_pure _
      · exact failsWith_throw rfl
      · exact failsWith_throw rfl
    · split
      · exact failsWith_pure _
      · exact failsWith_throw rfl
      · exact failsWith_throw rfl

theorem failsWith_interpret (path : Path) (echo : Bool) (document : Value) :
    (interpret path echo document).FailsWith Failure.OfContent := by
  cases document with
  | map raw =>
    cases hname : givesName raw with
    | false =>
      simp only [interpret, hname]
      exact failsWith_throw rfl
    | true =>
      cases hconfig : ComponentConfig.ofEntries raw with
      | error problems =>
        simp only [interpret, hname, hconfig]
        exact failsWith_throw rfl
      | ok config =>
        intro s f s' hrun
        have hresult : ((interpret path echo (.map raw)).outcome s).1 = _ :=
          outcome_interpret hname hconfig s
        rw [hrun] at hresult
        split at hresult
        · cases hresult
          exact rfl
        · cases hresult
  | _ => exact failsWith_throw rfl

/-- A file that is read from is neither missing nor of an unknown type. -/
theorem ofContent_of_leadsTo {f : Failure} (h : LeadsTo source s path octets) (echo : Bool)
    (hfails : ((load source echo).outcome s).1 = .error f) : f.OfContent := by
  obtain ⟨s₁, -, hload⟩ := outcome_load h echo
  rw [hload] at hfails
  have hread := (failsWith_readDocument path).bind (failsWith_interpret path echo)
  exact hread s₁ f _ (Prod.ext hfails rfl)

/-- A file without a suffix of config files is refused. -/
theorem outcome_load_of_suffix
    (hresolves : (expandHome source >>= resolve).outcome s = (.ok path, s))
    (husable : isUsable path = true) (hreads : s.tree.readFile s.workingDir path = .ok octets)
    (hsuffix : ¬ IsConfigSuffix path.suffix) (echo : Bool) :
    (load source echo).outcome s
      = (.error (.configInvalid path (.unsupportedSuffix path.suffix)), s) := by
  obtain ⟨home, mid, hhome, hresolve⟩ := outcome_bind_eq_ok.1 hresolves
  have hunknown : configSuffixes.contains (Text.lower path.suffix) = false := by
    simpa [IsConfigSuffix] using hsuffix
  rw [load_eq, outcome_bind_of_ok hhome, outcome_bind_of_ok hresolve,
    outcome_bind_of_ok (outcome_isFile_of_reads husable hreads)]
  simp only [hunknown]
  rfl

/-- An answer that will do leads to a file, whose type is known unless a suffix is all its name or
it lies where a user has the home directory. -/
theorem load_of_accepted (h : ((Prompt.configPathProblem t).outcome s).1 = .ok none) (echo : Bool) :
    (∀ source, ((load (Path.ofText t) echo).outcome s).1 ≠ .error (.configNotFound source)) ∧
      ((∃ path suffix, ((load (Path.ofText t) echo).outcome s).1
          = .error (.configInvalid path (.unsupportedSuffix suffix))) ↔
        Unsuffixed s (Path.ofText t)) := by
  obtain ⟨path, octets, hresolves, husable, hreads⟩ := exists_file_of_accepted h
  rw [unsuffixed_iff h hresolves]
  by_cases hsuffix : IsConfigSuffix path.suffix
  · have hleads : LeadsTo (Path.ofText t) s path octets :=
      ⟨hresolves, husable, hreads, List.contains_iff_mem.2 hsuffix⟩
    refine ⟨fun source hfails => ?_, iff_of_false ?_ (not_not_intro hsuffix)⟩
    · cases ofContent_of_leadsTo hleads echo hfails
    · rintro ⟨path', suffix, hfails⟩
      cases ofContent_of_leadsTo hleads echo hfails
  · have hload := outcome_load_of_suffix hresolves husable hreads hsuffix echo
    rw [hload]
    exact ⟨nofun, iff_of_true ⟨path, _, rfl⟩ hsuffix⟩

/-- A session with two config files in the home directory, one of them named by a suffix alone. -/
def homeSession : Session :=
  .start ⟨[
      (["root"], .dir),
      (["root", "Pump.v2.Json"], .file (Utf8.encodeChars "\x7b\x7d".toList)),
      (["root", ".json"], .file (Utf8.encodeChars "\x7b\x7d".toList))]⟩
    ["root"] ⟨.root, ["templates"]⟩ []

/-- Both files will do as answers; the loader knows the type of one of them. -/
theorem load_of_accepted_homeSession :
    ((Prompt.configPathProblem "~/./Pump.v2.Json").outcome homeSession).1 = .ok none ∧
      (¬ ∃ path suffix, ((load (Path.ofText "~/./Pump.v2.Json") true).outcome homeSession).1
        = .error (.configInvalid path (.unsupportedSuffix suffix))) ∧
      ((Prompt.configPathProblem ".json").outcome homeSession).1 = .ok none ∧
      (∃ path suffix, ((load (Path.ofText ".json") true).outcome homeSession).1
        = .error (.configInvalid path (.unsupportedSuffix suffix))) := by
  have hknown :
      ((Prompt.configPathProblem "~/./Pump.v2.Json").outcome homeSession).1 = .ok none := rfl
  have hunknown : ((Prompt.configPathProblem ".json").outcome homeSession).1 = .ok none := rfl
  refine ⟨hknown, fun hrefused => ?_, hunknown, ?_⟩
  · rcases (load_of_accepted hknown true).2.1 hrefused with ⟨-, hbare⟩ | ⟨⟨-, user, hhome⟩, -⟩
    · exact absurd hbare (by decide +kernel)
    · cases hhome
  · refine (load_of_accepted hunknown true).2.2 (.bare ?_ (by decide +kernel))
    rintro ⟨-, user, hhome⟩
    cases hhome

/-- Not every answer that will do names a file of a type that the loader knows. -/
theorem exists_accepted_unsupported :
    ¬ ∀ (t : Text) (s : Session) (echo : Bool),
      ((Prompt.configPathProblem t).outcome s).1 = .ok none →
        ∀ path suffix, ((load (Path.ofText t) echo).outcome s).1
          ≠ .error (.configInvalid path (.unsupportedSuffix suffix)) := by
  intro hall
  exact hall ".json" homeSession true rfl _ _ rfl

end ConfigFile

end DashboardKit
