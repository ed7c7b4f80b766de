import DashboardKit.Proofs.Generation.Artifacts

/-!
# Artifacts made in order

`Made` says what making artifacts one after the other comes to, artifact by artifact.  A run of the
generator is such a sequence (`foldlM_make_eq_ok`).

No artifact is written over a template, and nothing is written at all before a template was found,
so that every template is found as the session held it when the sequence began
(`TemplatesKept.templateText_eq`).  What was written and what was skipped is therefore settled by
that session (`Made.keys_eq_filter`, `Made.comesTo`).
-/

set_option autoImplicit false

namespace DashboardKit.Generator

open Session

variable {st : Settings} {kind : ComponentKind} {key : ArtifactKey} {keys : List ArtifactKey}
  {name : Text} {context : Entries} {s₀ s mid s' : Session} {written : Written}
  {skipped : List Text}

/-- What making artifacts in order comes to: what was written, what was skipped, and the session
afterwards. -/
inductive Made (st : Settings) (kind : ComponentKind) (name : Text) (context : Entries) :
    List ArtifactKey → Session → Written → List Text → Session → Prop where
  | done (s : Session) : Made st kind name context [] s [] [] s
  | skip {key : ArtifactKey} {f : Failure} {keys : List ArtifactKey} {s mid s' : Session}
      {written : Written} {skipped : List Text} :
      templateText st kind s key = .error f → PrintsTo s mid →
      Made st kind name context keys mid written skipped s' →
      Made st kind name context (key :: keys) s written (Text.ofString key.name :: skipped) s'
  | write {key : ArtifactKey} {path : Path} {octets : Utf8.Octets} {keys : List ArtifactKey}
      {s mid s' : Session} {written : Written} {skipped : List Text} :
      ComesTo st kind name context s key path octets → GrowsAt (· = path) s mid →
      mid.tree.readFile mid.workingDir path = .ok octets →
      Made st kind name context keys mid written skipped s' →
      Made st kind name context (key :: keys) s ((Text.ofString key.name, path) :: written)
        skipped s'

/-- A run over keys that are not noted yet makes their artifacts in order. -/
theorem foldlM_make_eq_ok {p p' : Progress} (hnodup : keys.Nodup)
    (hfresh : ∀ key ∈ keys, Text.ofString key.name ∉ p.written.map (·.1))
    (h : (keys.foldlM (make st kind name context) p).outcome s = (.ok p', s')) :
    ∃ written skipped, Made st kind name context keys s written skipped s' ∧
      p'.written = p.written ++ written ∧ p'.skipped = p.skipped ++ skipped := by
  induction keys generalizing p s with
  | nil =>
    obtain ⟨rfl, rfl⟩ := Action.outcome_pure_eq_ok.1 h
    exact ⟨[], [], .done _, (List.append_nil _).symm, (List.append_nil _).symm⟩
  | cons key keys ih =>
    rw [List.foldlM_cons] at h
    obtain ⟨p₁, mid, hmake, hrest⟩ := Action.outcome_bind_eq_ok.1 h
    rw [List.nodup_cons] at hnodup
    have hfresh' := fun k hk => hfresh k (List.mem_cons_of_mem key hk)
    rcases make_eq_ok hmake with ⟨⟨f, htext⟩, hwritten, hskipped, hprint⟩ |
      ⟨path, octets, hcomes, hwritten, hskipped, hgrows, hread⟩
    · obtain ⟨written, skipped, hmade, hw, hs⟩ := ih hnodup.2 (by rwa [hwritten]) hrest
      refine ⟨written, _, .skip htext hprint hmade, by rw [hw, hwritten], ?_⟩
      rw [hs, hskipped, List.append_assoc]
      rfl
    · rw [Written.note_of_not_mem (hfresh key List.mem_cons_self)] at hwritten
      -- the key that was noted is none of those that follow
      have hfresh₁ : ∀ k ∈ keys, Text.ofString k.name ∉ p₁.written.map (·.1) := by
        intro k hk
        rw [hwritten, List.map_append, List.mem_append, not_or]
        refine ⟨hfresh' k hk, ?_⟩
        intro hmem
        obtain rfl := ArtifactKey.eq_of_name (List.mem_singleton.1 hmem)
        exact hnodup.1 hk
      obtain ⟨written, skipped, hmade, hw, hs⟩ := ih hnodup.2 hfresh₁ hrest
      refine ⟨_, skipped, .write hcomes hgrows hread hmade, ?_, by rw [hs, hskipped]⟩
      rw [hw, hwritten, List.append_assoc]
      rfl

/-! ## What a sequence changes -/

/-- Files are written where the noted paths lead, and nowhere else. -/
theorem Made.growsAt (h : Made st kind name context keys s written skipped s') :
    GrowsAt (fun q => ∃ e ∈ written, e.2 = q) s s' := by
  induction h with
  | done s => exact refl_of _ s
  | skip _ hprint _ ih => exact trans_of _ (hprint.growsAt _) ih
  | write _ hgrows _ _ ih =>
    refine trans_of _ (hgrows.mono ?_) (ih.mono ?_)
    · rintro q rfl
      exact ⟨_, List.mem_cons_self, rfl⟩
    · rintro q ⟨e, he, rfl⟩
      exact ⟨e, List.mem_cons_of_mem _ he, rfl⟩

/-- Since a session, files were written at most where artifacts go, and if any was, the directory of
the templates could be entered. -/
def TemplatesKept (st : Settings) (s₀ s : Session) : Prop :=
  GrowsAt (LeadsToArtifact st.fileExtension) s₀ s ∧
    (s.tree = s₀.tree ∨ (TemplateStore.ofSettings st).DirReached s₀)

theorem TemplatesKept.refl (st : Settings) (s : Session) : TemplatesKept st s s :=
  ⟨refl_of _ s, .inl rfl⟩

/-- The templates are found as they were. -/
theorem TemplatesKept.templateText_eq (hs : s₀.tree.Consistent) (h : TemplatesKept st s₀ s)
    (kind : ComponentKind) (key : ArtifactKey) :
    templateText st kind s key = templateText st kind s₀ key := by
  rw [templateText_eq_textIn, templateText_eq_textIn]
  obtain ⟨hgrows, htree | hdir⟩ := h
  · have hoctets : s.octetsAt? = s₀.octetsAt? := by
      funext p
      rw [octetsAt?, octetsAt?, htree, hgrows.1]
    unfold TemplateStore.textIn
    rw [hoctets]
  · refine TemplateStore.textIn_of_growsAt hs (beginsFileName_templateId kind key) hdir hgrows ?_
    rintro q ⟨stem, anchor, before, hstem, rfl⟩
    refine ⟨stem, anchor, before, hstem.toBeginsFileName, ?_, rfl⟩
    rintro rfl
    exact hstem.no_hyphen (hyphen_mem_templateId kind key)

theorem TemplatesKept.skip (h : TemplatesKept st s₀ s) (hprint : PrintsTo s mid) :
    TemplatesKept st s₀ mid := by
  refine ⟨trans_of _ h.1 (hprint.growsAt _), ?_⟩
  unfold PrintsTo at hprint
  rw [hprint]
  exact h.2

/-- What an artifact's place comes to in the project is a file with the name of an artifact. -/
theorem leadsToArtifact_joinParts {place : Path} (hname : ComponentConfig.isName name = true)
    (hplace : st.layout.place kind key name = .ok place) :
    LeadsToArtifact st.fileExtension (st.projectRoot.joinParts place.parts) := by
  have hproper := Layout.proper_place (fun _ => Path.ofText_segments_proper)
    (fun _ => Path.ofText_segments_proper) hplace
  rw [Path.joinParts_parts _ hproper]
  exact (Layout.leadsToArtifact_place hname hplace).join st.projectRoot

theorem leadsToArtifact_of_comesTo {path : Path} {octets : Utf8.Octets}
    (hname : ComponentConfig.isName name = true)
    (h : ComesTo st kind name context s key path octets) :
    LeadsToArtifact st.fileExtension path := by
  obtain ⟨t, place, content, -, hplace, rfl, -, -⟩ := h
  exact leadsToArtifact_joinParts hname hplace

theorem TemplatesKept.write (hs : s₀.tree.Consistent) (h : TemplatesKept st s₀ s) {path : Path}
    {octets : Utf8.Octets} (hname : ComponentConfig.isName name = true)
    (hcomes : ComesTo st kind name context s key path octets) (hgrows : GrowsAt (· = path) s mid) :
    TemplatesKept st s₀ mid := by
  refine ⟨trans_of _ h.1 (hgrows.mono ?_), .inr ?_⟩
  · rintro q rfl
    exact leadsToArtifact_of_comesTo hname hcomes
  · obtain ⟨t, -, -, htext, -⟩ := hcomes
    rw [h.templateText_eq hs, templateText_eq_textIn] at htext
    exact (TemplateStore.dirReached_of_textIn (beginsFileName_templateId kind key) htext).1

/-- Making one artifact keeps the templates. -/
theorem TemplatesKept.make {p p' : Progress} (hs : s₀.tree.Consistent) (h : TemplatesKept st s₀ s)
    (hname : ComponentConfig.isName name = true)
    (hmake : (make st kind name context p key).outcome s = (.ok p', mid)) :
    TemplatesKept st s₀ mid := by
  rcases make_eq_ok hmake with ⟨-, -, -, hprint⟩ | ⟨path, octets, hcomes, -, -, hgrows, -⟩
  · exact h.skip hprint
  · exact h.write hs hname hcomes hgrows

/-! ## What a sequence comes to -/

/-- Whether the template of an artifact can be loaded in a session. -/
def loads (st : Settings) (kind : ComponentKind) (s : Session) (key : ArtifactKey) : Bool :=
  (templateText st kind s key).isOk

/-- In the order of the keys, those whose template can be loaded were written and the others were
skipped. -/
theorem Made.keys_eq_filter (hs : s₀.tree.Consistent) (hname : ComponentConfig.isName name = true)
    (h : Made st kind name context keys s written skipped s') (hkept : TemplatesKept st s₀ s) :
    written.map (·.1) = (keys.filter (loads st kind s₀)).map (fun key => Text.ofString key.name) ∧
      skipped = (keys.filter fun key => !loads st kind s₀ key).map
        (fun key => Text.ofString key.name) := by
  induction h with
  | done s => exact ⟨rfl, rfl⟩
  | @skip key f keys s mid s' written skipped htext hprint _ ih =>
    obtain ⟨hwritten, hskipped⟩ := ih (hkept.skip hprint)
    rw [hkept.templateText_eq hs] at htext
    have hloads : loads st kind s₀ key = false := by rw [loads, htext]; rfl
    rw [List.filter_cons_of_neg (by simp [hloads]), List.filter_cons_of_pos (by simp [hloads])]
    exact ⟨hwritten, by rw [List.map_cons, hskipped]⟩
  | @write key path octets keys s mid s' written skipped hcomes hgrows _ _ ih =>
    obtain ⟨hwritten, hskipped⟩ := ih (hkept.write hs hname hcomes hgrows)
    obtain ⟨t, -, -, htext, -⟩ := hcomes
    rw [hkept.templateText_eq hs] at htext
    have hloads : loads st kind s₀ key = true := by rw [loads, htext]; rfl
    rw [List.filter_cons_of_pos (by simp [hloads]), List.filter_cons_of_neg (by simp [hloads])]
    exact ⟨by rw [List.map_cons, List.map_cons, hwritten], hskipped⟩

/-- Every file that was noted is what its artifact comes to; and it is there afterwards, unless
another noted path leads to the same place. -/
theorem Made.comesTo (hs : s₀.tree.Consistent) (hname : ComponentConfig.isName name = true)
    (h : Made st kind name context keys s written skipped s') (hkept : TemplatesKept st s₀ s) :
    ∀ e ∈ written, ∃ key ∈ keys, e.1 = Text.ofString key.name ∧
      ∃ octets, ComesTo st kind name context s₀ key e.2 octets ∧
        (written.Pairwise (fun a b => ¬ s'.SamePlace a.2 b.2) →
          s'.tree.readFile s'.workingDir e.2 = .ok octets) := by
  induction h with
  | done s => simp
  | @skip key f keys s mid s' written skipped _ hprint _ ih =>
    intro e he
    obtain ⟨k, hk, hrest⟩ := ih (hkept.skip hprint) e he
    exact ⟨k, List.mem_cons_of_mem key hk, hrest⟩
  | @write key path octets keys s mid s' written skipped hcomes hgrows hread hrest ih =>
    intro e he
    rcases List.mem_cons.1 he with rfl | he
    · obtain ⟨t, place, content, htext, hothers⟩ := hcomes
      rw [hkept.templateText_eq hs] at htext
      refine ⟨key, List.mem_cons_self, rfl, octets, ⟨t, place, content, htext, hothers⟩, ?_⟩
      intro hdistinct
      refine hrest.growsAt.readFile hread ?_
      rintro q ⟨e', he', rfl⟩ ⟨l, hl, hl'⟩
      exact (List.pairwise_cons.1 hdistinct).1 e' he' ⟨l, hl', hl⟩
    · obtain ⟨k, hk, hname', octets', hcomes', hthere⟩ :=
        ih (hkept.write hs hname hcomes hgrows) e he
      exact ⟨k, List.mem_cons_of_mem key hk, hname', octets', hcomes',
        fun hdistinct => hthere (List.pairwise_cons.1 hdistinct).2⟩

end DashboardKit.Generator
