import DashboardKit.Proofs.Component.Respelling
import DashboardKit.Proofs.Json.Reading
import DashboardKit.Proofs.Session.Asking
import DashboardKit.Proofs.Session.Files
import DashboardKit.Proofs.Session.Printing

/-!
# What reading a config file comes to

A source that leads to a file gives a config, or a failure that names the file and what is wrong
with it, with three exceptions: an integer in JSON with too many digits, a scalar of YAML that looks
like a number, a date or a truth value and is none, and a polling interval that is shown and has too
many digits for that.  An interval in JSON never has; in YAML it can be spelled to another base than
ten, where digits are not limited.

Main statement: `load_settles_iff`.
-/

set_option autoImplicit false

namespace DashboardKit

/-! ## Intervals -/

theorem Decimal.le_digitLimit : 63 ≤ Decimal.digitLimit := by decide

attribute [local irreducible] Decimal.exceedsLimit Decimal.digitLimit

/-- A machine word is within the digit limit. -/
theorem Decimal.exceedsLimit_of_lt {n : Int} (h : n.natAbs < 2 ^ 63) :
    Decimal.exceedsLimit n = false := by
  refine Decimal.exceedsLimit_eq_false (Nat.lt_of_lt_of_le h ?_)
  exact Nat.le_trans (Nat.pow_le_pow_left (by decide) 63)
    (Nat.pow_le_pow_right (by decide) Decimal.le_digitLimit)

namespace Validation

variable {v : Value} {n : Int}

/-- The integer that so many digits as can be read spell, if they spell one. -/
theorem written_within {ds : List Char} {m : Int}
    (h : ((if ds.isEmpty || !ds.all Decimal.isDigit || Decimal.digitLimit < ds.length then none
      else if ds.head? == some '0' && ds != ['0'] then none
      else some (Decimal.value ds)).bind fun k => some (k : Int)) = some m) :
    m.natAbs < Nat.pow 10 Decimal.digitLimit := by
  obtain ⟨k, hk, hm⟩ := Option.bind_eq_some_iff.1 h
  obtain rfl := Option.some.inj hm
  split at hk
  · cases hk
  rename_i hshape
  split at hk
  · cases hk
  simp only [Bool.or_eq_true, Bool.not_eq_true', not_or, decide_eq_true_eq, Nat.not_lt,
    Bool.not_eq_false, List.all_eq_true] at hshape
  rw [Int.natAbs_natCast, ← Option.some.inj hk]
  exact Nat.lt_of_lt_of_le (Decimal.value_lt hshape.1.2)
    (Nat.pow_le_pow_right (by decide) hshape.2)

theorem writtenInteger?_within {cs : List Char} (h : writtenInteger? cs = some n) :
    Decimal.exceedsLimit n = false := by
  unfold writtenInteger? at h
  split at h
  · obtain ⟨m, hm, rfl⟩ := Option.map_eq_some_iff.1 h
    refine Decimal.exceedsLimit_eq_false ?_
    rw [Int.natAbs_neg]
    exact written_within hm
  · obtain ⟨m, hm, rfl⟩ := Option.map_eq_some_iff.1 h
    exact Decimal.exceedsLimit_eq_false (written_within hm)

theorem integerOfChars_within {cs : List Char} (h : integerOfChars cs = .ok n) :
    Decimal.exceedsLimit n = false := by
  unfold integerOfChars at h
  split at h
  · cases h
  split at h
  · rename_i m hlenient
    obtain rfl := Except.ok.inj h
    obtain ⟨unsigned, -, hlenient⟩ := Option.bind_eq_some_iff.1 hlenient
    obtain ⟨body, -, hlenient⟩ := Option.bind_eq_some_iff.1 hlenient
    obtain ⟨digits, -, hwritten⟩ := Option.bind_eq_some_iff.1 hlenient
    exact writtenInteger?_within hwritten
  · cases h

theorem integerOfFloat_within {x : Binary64} (h : integerOfFloat x = .ok n) :
    Decimal.exceedsLimit n = false := by
  unfold integerOfFloat at h
  split at h
  · cases h
  split at h
  · cases h
  split at h
  · rename_i hbits
    rw [← Except.ok.inj h]
    exact Decimal.exceedsLimit_of_lt hbits
  · cases h

/-- What is read as an integer is within the digit limit, unless it was an integer before. -/
theorem integer_within (h : integer v = .ok n) :
    v = .int n ∨ Decimal.exceedsLimit n = false := by
  unfold integer at h
  split at h
  · rw [Except.ok.inj h]
    exact .inl rfl
  · rename_i b
    rw [← Except.ok.inj h]
    exact .inr (Decimal.exceedsLimit_of_lt (by cases b <;> decide))
  · exact .inr (integerOfFloat_within h)
  · split at h
    · cases h
    · cases h
    · exact .inr (integerOfChars_within h)

end Validation

namespace ComponentConfig

variable {raw : Entries} {c : ComponentConfig}

/-- A polling interval with too many digits was given as an integer. -/
theorem Describes.pollingInterval_within (h : Describes raw c) :
    (∃ key, pollingIntervalKey.find? raw = some (key, .int c.pollingInterval)) ∨
      Decimal.exceedsLimit c.pollingInterval = false := by
  have hstandard : Decimal.exceedsLimit standardPollingInterval = false :=
    Decimal.exceedsLimit_of_lt (by decide)
  rcases optional_eq_ok h.pollingInterval with ⟨-, hinterval⟩ | ⟨key, v, hfind, hread⟩
  · rw [hinterval]
    exact .inr hstandard
  unfold readPollingInterval at hread
  split at hread
  · rw [← Except.ok.inj hread]
    exact .inr hstandard
  unfold Validation.positiveInteger at hread
  split at hread
  · cases hread
  rename_i n hinteger
  split at hread
  · obtain rfl := Except.ok.inj hread
    rcases Validation.integer_within hinteger with hv | hwithin
    · exact .inl ⟨key, hfind.trans (by rw [hv])⟩
    · exact .inr hwithin
  · cases hread

/-- The polling interval of a config in JSON is within the digit limit. -/
theorem pollingInterval_within_of_json {cs : List Char} (hread : Json.read cs = .ok (.map raw))
    (h : Describes raw c) : Decimal.exceedsLimit c.pollingInterval = false := by
  rcases h.pollingInterval_within with ⟨key, hfind⟩ | hwithin
  · have hdocument := (Value.document_map.1 (Json.document_of_read hread)).2
    have hvalue := (hdocument _ (mem_of_find? hfind).2).2
    cases hvalue with
    | atom hinteger => exact hinteger
  · exact hwithin

end ComponentConfig

namespace ConfigFile

open DashboardKit.Action

variable {source path : Path} {s : Session} {octets : Utf8.Octets} {echo : Bool} {f : Failure}
  {raw : Entries} {config : ComponentConfig}

/-! ## What is told of a file -/

/-- A source leads to a file with the suffix of a config file, which holds these octets. -/
structure LeadsTo (source : Path) (s : Session) (path : Path) (octets : Utf8.Octets) : Prop where
  resolves : (expandHome source >>= resolve).outcome s = (.ok path, s)
  usable : isUsable path = true
  reads : s.tree.readFile s.workingDir path = .ok octets
  suffix : configSuffixes.contains (Text.lower path.suffix) = true

/-- A config came of a file, or what is wrong with the file was told. -/
inductive Settled (path : Path) : Except Failure ComponentConfig → Prop where
  | config (c : ComponentConfig) : Settled path (.ok c)
  | invalid (reason : ConfigReason) : Settled path (.error (.configInvalid path reason))
  | missingField : Settled path (.error (.configMissingField "componentName" (some path)))

/-- A failure that octets of a file raise and that does not tell of the file. -/
inductive Escapes (path : Path) (octets : Utf8.Octets) (echo : Bool) : Failure → Prop where
  /-- an integer in JSON has more digits than can be read -/
  | digits {cs : List Char} {count : Nat} (hsuffix : Text.lower path.suffix = (".json" : Text))
      (hcs : Utf8.read octets = .ok cs) (hread : Json.read cs = .error (.digits count)) :
      Escapes path octets echo (.digitsRead count)
  /-- a scalar in YAML is not what it looks like -/
  | scalar {cs : List Char} {fault : Yaml.ReadFault}
      (hsuffix : Text.lower path.suffix ≠ (".json" : Text)) (hcs : Utf8.read octets = .ok cs)
      (hread : Yaml.read cs = .error fault) (hfault : fault ≠ .malformed) :
      Escapes path octets echo (.yaml fault)
  /-- a config is shown whose polling interval has more digits than can be written -/
  | interval {cs : List Char} {raw : Entries} {config : ComponentConfig} (hecho : echo = true)
      (hsuffix : Text.lower path.suffix ≠ (".json" : Text)) (hcs : Utf8.read octets = .ok cs)
      (hread : Yaml.read cs = .ok (.map raw)) (hname : givesName raw = true)
      (hconfig : ComponentConfig.ofEntries raw = .ok config)
      (hlong : Decimal.exceedsLimit config.pollingInterval = true) :
      Escapes path octets echo .digitsWritten

theorem Escapes.not_settled (h : Escapes path octets echo f) : ¬ Settled path (.error f) := by
  intro hsettled
  cases h <;> cases hsettled

/-! ## Reading the document -/

/-- How a fault of a JSON file is told. -/
def jsonFailure (path : Path) : Json.ReadFault → Failure
  | .malformed fault => .configInvalid path (.json fault)
  | .digits count => .digitsRead count

/-- How a fault of a YAML file is told. -/
def yamlFailure (path : Path) : Yaml.ReadFault → Failure
  | .malformed => .configInvalid path .yaml
  | fault => .yaml fault

theorem outcome_readDocument_of_undecodable {fault : Utf8.DecodeFault}
    (husable : isUsable path = true) (hreads : s.tree.readFile s.workingDir path = .ok octets)
    (hdecode : Utf8.read octets = .error fault) :
    (readDocument path).outcome s
      = (.error (.configInvalid path (.undecodable ⟨fault, octets⟩)), s) := by
  have hfile := outcome_readFile_eq_ok_iff.2 ⟨husable, hreads, rfl⟩
  rw [readDocument, outcome_bind_of_ok hfile, hdecode]
  rfl

theorem outcome_readDocument_of_json {cs : List Char} (husable : isUsable path = true)
    (hreads : s.tree.readFile s.workingDir path = .ok octets)
    (hsuffix : Text.lower path.suffix = (".json" : Text)) (hcs : Utf8.read octets = .ok cs) :
    (readDocument path).outcome s = ((Json.read cs).mapError (jsonFailure path), s) := by
  have hfile := outcome_readFile_eq_ok_iff.2 ⟨husable, hreads, rfl⟩
  rw [readDocument, outcome_bind_of_ok hfile, hcs]
  simp only [if_pos hsuffix]
  rcases Json.read cs with fault | v
  · cases fault <;> rfl
  · rfl

theorem outcome_readDocument_of_yaml {cs : List Char} (husable : isUsable path = true)
    (hreads : s.tree.readFile s.workingDir path = .ok octets)
    (hsuffix : Text.lower path.suffix ≠ (".json" : Text)) (hcs : Utf8.read octets = .ok cs) :
    (readDocument path).outcome s = ((Yaml.read cs).mapError (yamlFailure path), s) := by
  have hfile := outcome_readFile_eq_ok_iff.2 ⟨husable, hreads, rfl⟩
  rw [readDocument, outcome_bind_of_ok hfile, hcs]
  simp only [if_neg hsuffix]
  rcases Yaml.read cs with fault | v
  · cases fault <;> rfl
  · rfl

/-! ## Making the config -/

/-- The config that a document describes, shown if `echo` holds. -/
def interpret (path : Path) (echo : Bool) (document : Value) : Action ComponentConfig := do
  match document with
  | .map raw =>
    if !givesName raw then throw (.configMissingField "componentName" (some path))
    match ComponentConfig.ofEntries raw with
    | .error ps => throw (.configInvalid path (.problems ps))
    | .ok config =>
      if echo then
        Action.printSummary "Component config" (← Action.ofExcept (fun f => f) (summary config))
      return config
  | _ => throw (.configInvalid path .notMap)

theorem load_eq (source : Path) (echo : Bool) : load source echo = (do
    let path ← resolve (← expandHome source)
    if !(← isFile path) then throw (.configNotFound source)
    if !configSuffixes.contains (Text.lower path.suffix) then
      throw (.configInvalid path (.unsupportedSuffix path.suffix))
    if echo then Action.print (("Reading config from: " : Text) ++ path.text)
    interpret path echo (← readDocument path)) := rfl

/-- A source that leads to a file is read from there. -/
theorem outcome_load (h : LeadsTo source s path octets) (echo : Bool) :
    ∃ s', s'.tree.readFile s'.workingDir path = .ok octets ∧
      (load source echo).outcome s = (readDocument path >>= interpret path echo).outcome s' := by
  have hopened : (load source echo).outcome s = (do
      if echo then Action.print (("Reading config from: " : Text) ++ path.text)
      interpret path echo (← readDocument path) : Action ComponentConfig).outcome s := by
    obtain ⟨p, mid, hhome, hresolve⟩ := outcome_bind_eq_ok.1 h.resolves
    rw [load_eq, outcome_bind_of_ok hhome, outcome_bind_of_ok hresolve,
      outcome_bind_of_ok (outcome_isFile_of_reads h.usable h.reads), h.suffix]
    rfl
  rw [hopened]
  cases echo with
  | false => exact ⟨s, h.reads, rfl⟩
  | true =>
    exact ⟨{ s with events := s.events ++ [.line (("Reading config from: " : Text) ++ path.text)] },
      h.reads, rfl⟩

theorem summary_eq (config : ComponentConfig) :
    summary config = if Decimal.exceedsLimit config.pollingInterval then .error .digitsWritten
      else .ok [("Component", config.name), ("MQTT Topic", config.topic), ("Label", config.label),
        ("Unit", config.unit),
        ("Polling Interval", Text.ofChars (Decimal.intDigits config.pollingInterval)
          ++ ("ms" : Text))] := by
  unfold summary showInt
  cases Decimal.exceedsLimit config.pollingInterval <;> rfl

/-- The labels of a summary are shown as they are. -/
theorem succeeds_printSummary_summary {rows : List (Text × Text)}
    (h : summary config = .ok rows) (title : Text) : (Action.printSummary title rows).Succeeds := by
  refine succeeds_printSummary ?_ title
  rw [summary_eq] at h
  split at h
  · cases h
  · obtain rfl := Except.ok.inj h
    simp only [List.forall_mem_cons, List.not_mem_nil, false_implies, implies_true, and_true]
    exact ⟨⟨_, rfl⟩, ⟨_, rfl⟩, ⟨_, rfl⟩, ⟨_, rfl⟩, ⟨_, rfl⟩⟩

/-- What a map comes to that describes a config. -/
theorem outcome_interpret (hname : givesName raw = true)
    (hconfig : ComponentConfig.ofEntries raw = .ok config) (s : Session) :
    ((interpret path echo (.map raw)).outcome s).1
      = if echo = true ∧ Decimal.exceedsLimit config.pollingInterval = true
        then .error .digitsWritten else .ok config := by
  have hinterpret : interpret path echo (.map raw) = if echo then (do
      Action.printSummary "Component config" (← Action.ofExcept (fun f => f) (summary config))
      return config) else return config := by
    simp only [interpret, hname, hconfig]
    rfl
  rw [hinterpret]
  by_cases hlong : echo = true ∧ Decimal.exceedsLimit config.pollingInterval = true
  · have hsummary : (Action.ofExcept (fun f => f) (summary config)).outcome s
        = (.error .digitsWritten, s) := by
      rw [outcome_ofExcept, summary_eq, if_pos hlong.2]
      rfl
    rw [if_pos hlong, if_pos hlong.1, outcome_bind_of_error hsummary]
  · rw [if_neg hlong]
    split
    · rename_i hecho
      obtain ⟨rows, hrows⟩ : ∃ rows, summary config = .ok rows :=
        ⟨_, (summary_eq config).trans (if_neg fun hlimit => hlong ⟨hecho, hlimit⟩)⟩
      have hsummary : (Action.ofExcept (fun f => f) (summary config)).outcome s
          = (.ok rows, s) := by
        rw [outcome_ofExcept, hrows]
        rfl
      obtain ⟨_, s', hprint⟩ := succeeds_printSummary_summary hrows "Component config" s
      rw [outcome_bind_of_ok hsummary, outcome_bind_of_ok hprint]
      rfl
    · rfl

/-- A document comes to a config or tells of the file, unless a config is shown whose polling
interval is too long for that. -/
theorem settled_interpret (document : Value) (s : Session) :
    Settled path ((interpret path echo document).outcome s).1 ∨
      ∃ raw config, document = .map raw ∧ givesName raw = true ∧
        ComponentConfig.ofEntries raw = .ok config ∧ echo = true ∧
        Decimal.exceedsLimit config.pollingInterval = true := by
  cases document with
  | map raw =>
    cases hname : givesName raw with
    | false =>
      refine .inl ?_
      simp only [interpret, hname]
      exact .missingField
    | true =>
      cases hconfig : ComponentConfig.ofEntries raw with
      | error ps =>
        refine .inl ?_
        simp only [interpret, hname, hconfig]
        exact .invalid _
      | ok config =>
        rw [outcome_interpret hname hconfig]
        split
        · rename_i hlong
          exact .inr ⟨raw, config, rfl, hname, hconfig, hlong⟩
        · exact .inl (.config config)
  | _ => exact .inl (.invalid _)

/-! ## The whole -/

theorem outcome_of_escapes (h : LeadsTo source s path octets) (hf : Escapes path octets echo f) :
    ((load source echo).outcome s).1 = .error f := by
  obtain ⟨s', hreads, hload⟩ := outcome_load h echo
  rw [hload]
  cases hf with
  | digits hsuffix hcs hread =>
    have hdocument := outcome_readDocument_of_json h.usable hreads hsuffix hcs
    rw [hread] at hdocument
    exact congrArg Prod.fst (outcome_bind_of_error hdocument _)
  | @scalar cs fault hsuffix hcs hread hfault =>
    have hdocument := outcome_readDocument_of_yaml h.usable hreads hsuffix hcs
    have htold : yamlFailure path fault = .yaml fault := by
      cases fault with
      | malformed => exact absurd rfl hfault
      | _ => rfl
    rw [hread, Except.mapError, htold] at hdocument
    exact congrArg Prod.fst (outcome_bind_of_error hdocument _)
  | interval hecho hsuffix hcs hread hname hconfig hlong =>
    have hdocument := outcome_readDocument_of_yaml h.usable hreads hsuffix hcs
    rw [hread] at hdocument
    rw [outcome_bind_of_ok hdocument, outcome_interpret hname hconfig, if_pos ⟨hecho, hlong⟩]

theorem settled_or_escapes_of_json {cs : List Char} (husable : isUsable path = true)
    (hreads : s.tree.readFile s.workingDir path = .ok octets)
    (hsuffix : Text.lower path.suffix = (".json" : Text)) (hcs : Utf8.read octets = .ok cs) :
    Settled path ((readDocument path >>= interpret path echo).outcome s).1 ∨
      ∃ f, Escapes path octets echo f := by
  have hdocument := outcome_readDocument_of_json husable hreads hsuffix hcs
  rcases hread : Json.read cs with (fault | count) | document
  · rw [hread] at hdocument
    rw [outcome_bind_of_error hdocument]
    exact .inl (.invalid _)
  · exact .inr ⟨_, .digits hsuffix hcs hread⟩
  · rw [hread] at hdocument
    rw [outcome_bind_of_ok hdocument]
    refine (settled_interpret document s).imp_right fun hlong => ?_
    -- no interval in JSON is too long
    obtain ⟨raw, config, rfl, -, hconfig, -, hlimit⟩ := hlong
    have hwithin := ComponentConfig.pollingInterval_within_of_json hread
      (ComponentConfig.describes_of_ofEntries hconfig)
    rw [hwithin] at hlimit
    cases hlimit

theorem settled_or_escapes_of_yaml {cs : List Char} (husable : isUsable path = true)
    (hreads : s.tree.readFile s.workingDir path = .ok octets)
    (hsuffix : Text.lower path.suffix ≠ (".json" : Text)) (hcs : Utf8.read octets = .ok cs) :
    Settled path ((readDocument path >>= interpret path echo).outcome s).1 ∨
      ∃ f, Escapes path octets echo f := by
  have hdocument := outcome_readDocument_of_yaml husable hreads hsuffix hcs
  rcases hread : Yaml.read cs with fault | document
  · by_cases hfault : fault = .malformed
    · rw [hread, hfault] at hdocument
      rw [outcome_bind_of_error hdocument]
      exact .inl (.invalid _)
    · exact .inr ⟨_, .scalar hsuffix hcs hread hfault⟩
  · rw [hread] at hdocument
    rw [outcome_bind_of_ok hdocument]
    refine (settled_interpret document s).imp_right fun hlong => ?_
    obtain ⟨raw, config, rfl, hname, hconfig, hecho, hlimit⟩ := hlong
    exact ⟨_, .interval hecho hsuffix hcs hread hname hconfig hlimit⟩

/-- What comes of a file tells of it, or octets of the file are to blame. -/
theorem settled_or_escapes (h : LeadsTo source s path octets) (echo : Bool) :
    Settled path ((load source echo).outcome s).1 ∨ ∃ f, Escapes path octets echo f := by
  obtain ⟨s', hreads, hload⟩ := outcome_load h echo
  rw [hload]
  cases hcs : Utf8.read octets with
  | error fault =>
    rw [outcome_bind_of_error (outcome_readDocument_of_undecodable h.usable hreads hcs)]
    exact .inl (.invalid _)
  | ok cs =>
    by_cases hsuffix : Text.lower path.suffix = (".json" : Text)
    · exact settled_or_escapes_of_json h.usable hreads hsuffix hcs
    · exact settled_or_escapes_of_yaml h.usable hreads hsuffix hcs

/-- What octets of a file come to: unless a number or another scalar cannot be read or written, a
config or a failure that tells of the file. -/
theorem load_settles_iff (h : LeadsTo source s path octets) (echo : Bool) :
    (Settled path ((load source echo).outcome s).1 ↔ ∀ f, ¬ Escapes path octets echo f) ∧
      ∀ f, Escapes path octets echo f → ((load source echo).outcome s).1 = .error f := by
  refine ⟨⟨fun hsettled f hf => ?_, fun hnone => ?_⟩, fun f hf => outcome_of_escapes h hf⟩
  · rw [outcome_of_escapes h hf] at hsettled
    exact hf.not_settled hsettled
  · exact (settled_or_escapes h echo).resolve_right fun ⟨f, hf⟩ => hnone f hf

/-- A config whose label looks like a date and is none. -/
def misdatedYaml : List Char := "componentName: Pump\nlabel: 2024-13-45\n".toList

/-- The same config with the label in quotes. -/
def misdatedJson : List Char :=
  "\x7b\"componentName\": \"Pump\", \"label\": \"2024-13-45\"\x7d".toList

/-- A session with both configs in files. -/
def misdatedSession : Session :=
  .start ⟨[
      (["project"], .dir),
      (["project", "pump.yaml"], .file (Utf8.encodeChars misdatedYaml)),
      (["project", "pump.json"], .file (Utf8.encodeChars misdatedJson))]⟩
    ["project"] ⟨.root, ["templates"]⟩ []

theorem leadsTo_misdatedYaml :
    LeadsTo ⟨.here, ["pump.yaml"]⟩ misdatedSession ⟨.root, ["project", "pump.yaml"]⟩
      (Utf8.encodeChars misdatedYaml) where
  resolves := rfl
  usable := by decide +kernel
  reads := by decide +kernel
  suffix := by decide +kernel

theorem escapes_misdatedYaml : Escapes ⟨.root, ["project", "pump.yaml"]⟩
    (Utf8.encodeChars misdatedYaml) true (.yaml (.calendar .month)) := by
  have hcs : Utf8.read (Utf8.encodeChars misdatedYaml) = .ok misdatedYaml := by decide +kernel
  have hfault : (match Yaml.read misdatedYaml with
      | .error fault => some fault
      | .ok _ => none) = some (.calendar .month) := by decide +kernel
  split at hfault
  · rename_i fault hread
    rw [Option.some.inj hfault] at hread
    exact .scalar (by decide +kernel) hcs hread (by decide)
  · cases hfault

theorem leadsTo_misdatedJson :
    LeadsTo ⟨.here, ["pump.json"]⟩ misdatedSession ⟨.root, ["project", "pump.json"]⟩
      (Utf8.encodeChars misdatedJson) where
  resolves := rfl
  usable := by decide +kernel
  reads := by decide +kernel
  suffix := by decide +kernel

theorem not_escapes_misdatedJson (f : Failure) : ¬ Escapes ⟨.root, ["project", "pump.json"]⟩
    (Utf8.encodeChars misdatedJson) true f := by
  have hcs : Utf8.read (Utf8.encodeChars misdatedJson) = .ok misdatedJson := by decide +kernel
  have hdocument : (Json.read misdatedJson).toOption.isSome = true := by decide +kernel
  have hjson : Text.lower (Path.suffix ⟨.root, ["project", "pump.json"]⟩) = (".json" : Text) := by
    decide +kernel
  intro hf
  cases hf with
  | digits hsuffix hcs' hread =>
    obtain rfl := Except.ok.inj (hcs.symm.trans hcs')
    rw [hread] at hdocument
    cases hdocument
  | scalar hsuffix => exact hsuffix hjson
  | interval hecho hsuffix => exact hsuffix hjson

/-- The label is no date and is told so, without the file; in quotes it is a label. -/
theorem load_settles_iff_misdatedSession :
    LeadsTo ⟨.here, ["pump.yaml"]⟩ misdatedSession ⟨.root, ["project", "pump.yaml"]⟩
        (Utf8.encodeChars misdatedYaml) ∧
      ((load ⟨.here, ["pump.yaml"]⟩ true).outcome misdatedSession).1
        = .error (.yaml (.calendar .month)) ∧
      LeadsTo ⟨.here, ["pump.json"]⟩ misdatedSession ⟨.root, ["project", "pump.json"]⟩
        (Utf8.encodeChars misdatedJson) ∧
      Settled ⟨.root, ["project", "pump.json"]⟩
        ((load ⟨.here, ["pump.json"]⟩ true).outcome misdatedSession).1 := by
  have hyaml := load_settles_iff leadsTo_misdatedYaml true
  have hjson := load_settles_iff leadsTo_misdatedJson true
  exact ⟨leadsTo_misdatedYaml, hyaml.2 _ escapes_misdatedYaml, leadsTo_misdatedJson,
    hjson.1.2 not_escapes_misdatedJson⟩

/-- Not all that octets of a config file raise tells of the file. -/
theorem exists_file_unsettled :
    ¬ ∀ (source path : Path) (s : Session) (octets : Utf8.Octets) (echo : Bool),
      LeadsTo source s path octets → Settled path ((load source echo).outcome s).1 := by
  intro hall
  have hsettled := hall _ _ _ _ true leadsTo_misdatedYaml
  rw [outcome_of_escapes leadsTo_misdatedYaml escapes_misdatedYaml] at hsettled
  cases hsettled

end ConfigFile

end DashboardKit
