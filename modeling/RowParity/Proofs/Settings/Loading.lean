import Mathlib.Data.List.Basic
import Mathlib.Data.List.Find
import RowParity.Proofs.Settings.Layers

/-!
# Settings are overridden one by one, then validated

The lower layers take one file at most (`ReadsOneFile`), and what other files hold does not count
(`load_congr`). An option of the command line changes its own setting alone (`IsOverridden`), and
what comes out is accepted exactly if the pool and the probability are within their bounds
(`load_eq_ok_iff`).
-/

namespace RowParity.Settings

/-! ## Files -/

/-- The document of a settings file in one of the usual places, where a folder has to be
completed. -/
def usualFileAt (s : Surroundings) (path : String) : Decode Tree :=
  match s.content? path with
  | some content => readDocument .toml content
  | none => completed s [.toml] path

/-- The document of the first file that completes a path, in the notation that completes it. -/
inductive ReadsCompletion (s : Surroundings) (formats : List Notation) (path : String) :
    Decode Tree → Prop
  | found {missing later : List (Notation × String)} {format : Notation} {other content : String}
    (hcompletions : completions formats path = missing ++ (format, other) :: later)
    (hmissing : ∀ entry ∈ missing, s.content? entry.2 = none)
    (hfound : s.content? other = some content) :
    ReadsCompletion s formats path (readDocument format content)
  | nothing (hmissing : ∀ entry ∈ completions formats path, s.content? entry.2 = none) :
    ReadsCompletion s formats path (.error .unreadable)

/-- The document of the settings file that the command line names. A file of that very path is read
in the notation that the ending of the path tells, and in no other; if there is none, the path is
completed. -/
inductive ReadsNamed (s : Surroundings) (path : String) : Decode Tree → Prop
  | file {content : String} {format : Notation} (hcontent : s.content? path = some content)
    (hending : ending? path = some format.extension) :
    ReadsNamed s path (readDocument format content)
  | unknown {content : String} (hcontent : s.content? path = some content)
    (hending : ∀ format : Notation, ending? path ≠ some format.extension) :
    ReadsNamed s path (.error .unreadable)
  | completed {document : Decode Tree} (hcontent : s.content? path = none)
    (hreads : ReadsCompletion s Notation.all path document) : ReadsNamed s path document

/-- Settings are read from one file: the one that the command line names, else the first of the
usual ones that exists, if one does. -/
inductive ReadsOneFile (places : Places) (s : Surroundings) (o : Overrides) : Decode Tree → Prop
  | named {path : String} {document : Decode Tree} (hoption : o.settingsFile = some path)
    (hreads : ReadsNamed s path document) : ReadsOneFile places s o document
  | usual {missing later : List String} {path : String} (hoption : o.settingsFile = none)
    (hfiles : places.files = missing ++ path :: later)
    (hmissing : ∀ other ∈ missing, s.entry? other = none) (hfound : s.entry? path ≠ none) :
    ReadsOneFile places s o (usualFileAt s path)
  | nothing (hoption : o.settingsFile = none)
    (hmissing : ∀ path ∈ places.files, s.entry? path = none) :
    ReadsOneFile places s o (.ok (.table []))

variable {places : Places} {s s' : Surroundings} {o : Overrides} {below settings : Settings}

theorem completed_readsCompletion (s : Surroundings) (formats : List Notation) (path : String) :
    ReadsCompletion s formats path (completed s formats path) := by
  unfold completed
  split
  · next format content hfirst =>
    obtain ⟨missing, ⟨format', other⟩, later, hcompletions, hfound, hmissing⟩ :=
      List.findSome?_eq_some_iff.1 hfirst
    obtain ⟨found, hcontent, hentry⟩ := Option.map_eq_some_iff.1 hfound
    cases hentry
    refine .found hcompletions (fun entry hentry => ?_) hcontent
    simpa using hmissing entry hentry
  · next hnone =>
    refine .nothing fun entry hentry => ?_
    simpa using List.findSome?_eq_none_iff.1 hnone entry hentry

theorem namedFile_readsNamed (s : Surroundings) (path : String) :
    ReadsNamed s path (namedFile s path) := by
  unfold namedFile
  split
  · next content hcontent =>
    split
    · next format hformat =>
      have hending := List.find?_some hformat
      exact .file hcontent (by simpa using hending)
    · next hnone =>
      refine .unknown hcontent fun format hending => ?_
      exact List.find?_eq_none.1 hnone format (Notation.mem_all format) (beq_iff_eq.2 hending)
  · next hnone => exact .completed hnone (completed_readsCompletion s Notation.all path)

/-- The content and the ending of a named file leave no choice of the document. -/
theorem ReadsNamed.eq_readDocument {s : Surroundings} {path content : String} {format : Notation}
    {document : Decode Tree} (h : ReadsNamed s path document)
    (hcontent : s.content? path = some content) (hending : ending? path = some format.extension) :
    document = readDocument format content := by
  cases h with
  | @file content' format' hcontent' hending' =>
    obtain rfl : content' = content := Option.some.inj (hcontent'.symm.trans hcontent)
    obtain rfl : format' = format :=
      Notation.extension_injective (Option.some.inj (hending'.symm.trans hending))
    rfl
  | unknown _ hending' => exact absurd hending (hending' format)
  | completed hnone _ => cases hnone.symm.trans hcontent

theorem ReadsOneFile.readsNamed {places : Places} {s : Surroundings} {o : Overrides}
    {path : String} {document : Decode Tree} (h : ReadsOneFile places s o document)
    (hoption : o.settingsFile = some path) : ReadsNamed s path document := by
  cases h with
  | @named path' _ hoption' hreads =>
    obtain rfl : path' = path := Option.some.inj (hoption'.symm.trans hoption)
    exact hreads
  | usual hnone _ _ _ => cases hnone.symm.trans hoption
  | nothing hnone _ => cases hnone.symm.trans hoption

theorem fileLayer_readsOneFile (places : Places) (s : Surroundings) (o : Overrides) :
    ReadsOneFile places s o (fileLayer places s o) := by
  unfold fileLayer
  split
  · next path hoption => exact .named hoption (namedFile_readsNamed s path)
  · next hoption =>
    unfold usualFile
    split
    · next hnone =>
      refine .nothing hoption fun path hpath => ?_
      simpa using List.find?_eq_none.1 hnone path hpath
    · next path hfound =>
      obtain ⟨hpath, missing, later, hfiles, hmissing⟩ := List.find?_eq_some_iff_append.1 hfound
      exact .usual hoption hfiles (fun other hother => by simpa using hmissing other hother)
        (Option.isSome_iff_ne_none.1 hpath)

theorem content?_congr {path : String} (h : s'.entry? path = s.entry? path) :
    s'.content? path = s.content? path := by
  rw [Surroundings.content?, Surroundings.content?, h]

theorem completed_congr {formats : List Notation} {path : String}
    (h : ∀ other ∈ (completions formats path).map (·.2), s'.entry? other = s.entry? other) :
    completed s' formats path = completed s formats path := by
  have hfirst : (completions formats path).findSome?
        (fun entry => (s'.content? entry.2).map (entry.1, ·)) =
      (completions formats path).findSome? fun entry => (s.content? entry.2).map (entry.1, ·) := by
    rw [← List.head?_filterMap, ← List.head?_filterMap]
    refine congrArg List.head? (List.filterMap_congr fun entry hentry => ?_)
    rw [content?_congr (h entry.2 (List.mem_map_of_mem hentry))]
  rw [completed, completed, hfirst]

theorem namedFile_congr {path : String} (hpath : s'.entry? path = s.entry? path)
    (h : ∀ other ∈ (completions Notation.all path).map (·.2), s'.entry? other = s.entry? other) :
    namedFile s' path = namedFile s path := by
  rw [namedFile, namedFile, content?_congr hpath, completed_congr h]

theorem usualFile_congr (hfiles : ∀ path ∈ places.files, s'.entry? path = s.entry? path)
    (h : ∀ path ∈ places.files, ∀ other ∈ (completions [.toml] path).map (·.2),
      s'.entry? other = s.entry? other) :
    usualFile s' places = usualFile s places := by
  have hfirst : (places.files.find? fun path => (s'.entry? path).isSome) =
      places.files.find? fun path => (s.entry? path).isSome :=
    List.find?_congr fun path hpath => by rw [hfiles path hpath]
  rw [usualFile, usualFile, hfirst]
  cases hfound : places.files.find? fun path => (s.entry? path).isSome with
  | none => rfl
  | some path =>
    have hpath := List.mem_of_find?_eq_some hfound
    simp only [content?_congr (hfiles path hpath), completed_congr (h path hpath)]

/-- No file counts but the candidates. If the command line names one, these are that file and its
completions. -/
theorem load_congr (henvironment : s'.environment = s.environment)
    (h : ∀ path ∈ candidates places o, s'.entry? path = s.entry? path) :
    load places s' o = load places s o := by
  have hfile : fileLayer places s' o = fileLayer places s o := by
    unfold fileLayer candidates at *
    cases hoption : o.settingsFile with
    | some path =>
      rw [hoption] at h
      obtain ⟨hpath, h⟩ := List.forall_mem_cons.1 h
      exact namedFile_congr hpath h
    | none =>
      rw [hoption] at h
      obtain ⟨hfiles, h⟩ := List.forall_mem_append.1 h
      exact usualFile_congr hfiles fun path hpath other hother =>
        h other (List.mem_flatMap.2 ⟨path, hpath, hother⟩)
  rw [load, load, lower, lower, upperLayer, upperLayer, variableLayer, variableLayer, hfile,
    henvironment]

/-! ## Overrides -/

/-- A value is the given one, or else the one below. -/
def Takes {α : Type} (given : Option α) (below value : α) : Prop :=
  (∀ a, given = some a → value = a) ∧ (given = none → value = below)

theorem takes_iff {α : Type} {given : Option α} {below value : α} :
    Takes given below value ↔ value = given.getD below := by
  cases given <;> simp [Takes]

theorem takes_some_iff {α : Type} {given below value : Option α} :
    Takes (given.map some) below value ↔ value = given.or below := by
  cases given <;> simp [Takes]

/-- The settings are those below, but for what the command line gives: its value is taken for each
setting that has an option, a list of oracles as a whole, and logs in JSON can only be switched
on. -/
structure IsOverridden (o : Overrides) (below settings : Settings) : Prop where
  connection : Takes o.connection below.database.connection settings.database.connection
  poolSize : settings.database.poolSize = below.database.poolSize
  seed : Takes (o.seed.map some) below.fuzz.seed settings.fuzz.seed
  databases : Takes o.databases below.fuzz.databases settings.fuzz.databases
  queriesPerDatabase : Takes o.queriesPerDatabase below.fuzz.queriesPerDatabase
    settings.fuzz.queriesPerDatabase
  timeoutSeconds : Takes (o.timeoutSeconds.map some) below.fuzz.timeoutSeconds
    settings.fuzz.timeoutSeconds
  oracles : Takes (if o.oracles = [] then none else some o.oracles) below.fuzz.oracles
    settings.fuzz.oracles
  mutationProbability : settings.fuzz.mutationProbability = below.fuzz.mutationProbability
  requireRows : settings.fuzz.requireRows = below.fuzz.requireRows
  errorLogFile : Takes (o.errorLogFile.map some) below.logging.errorLogFile
    settings.logging.errorLogFile
  json : settings.logging.json = true ↔ o.jsonLogs = true ∨ below.logging.json = true
  reportPath : Takes (o.reportPath.map some) below.reportPath settings.reportPath

theorem override_isOverridden (o : Overrides) (below : Settings) :
    IsOverridden o below (below.override o) where
  connection := takes_iff.2 rfl
  poolSize := rfl
  seed := takes_some_iff.2 rfl
  databases := takes_iff.2 rfl
  queriesPerDatabase := takes_iff.2 rfl
  timeoutSeconds := takes_some_iff.2 rfl
  oracles := by
    rw [takes_iff, Settings.override]
    cases o.oracles <;> rfl
  mutationProbability := rfl
  requireRows := rfl
  errorLogFile := takes_some_iff.2 rfl
  json := Bool.or_eq_true_iff
  reportPath := takes_some_iff.2 rfl

/-- Options and the settings below leave no choice. -/
theorem IsOverridden.unique {settings' : Settings} (h : IsOverridden o below settings)
    (h' : IsOverridden o below settings') : settings = settings' := by
  have htakes {α : Type} {given : Option α} {below value value' : α}
      (h : Takes given below value) (h' : Takes given below value') : value = value' :=
    (takes_iff.1 h).trans (takes_iff.1 h').symm
  obtain ⟨⟨_, _⟩, ⟨_, _, _, _, _, _, _⟩, ⟨_, _⟩, _⟩ := settings
  obtain ⟨⟨_, _⟩, ⟨_, _, _, _, _, _, _⟩, ⟨_, _⟩, _⟩ := settings'
  rw [Settings.mk.injEq, DatabaseSettings.mk.injEq, FuzzSettings.mk.injEq,
    LoggingSettings.mk.injEq]
  exact ⟨⟨htakes h.connection h'.connection, h.poolSize.trans h'.poolSize.symm⟩,
    ⟨htakes h.seed h'.seed, htakes h.databases h'.databases,
      htakes h.queriesPerDatabase h'.queriesPerDatabase,
      htakes h.timeoutSeconds h'.timeoutSeconds, htakes h.oracles h'.oracles,
      h.mutationProbability.trans h'.mutationProbability.symm,
      h.requireRows.trans h'.requireRows.symm⟩,
    ⟨htakes h.errorLogFile h'.errorLogFile, Bool.eq_iff_iff.2 (h.json.trans h'.json.symm)⟩,
    htakes h.reportPath h'.reportPath⟩

theorem isOverridden_iff : IsOverridden o below settings ↔ settings = below.override o :=
  ⟨fun h => h.unique (override_isOverridden o below), fun h => h ▸ override_isOverridden o below⟩

/-! ## Acceptance -/

/-- There is a connection in the pool, and the probability is a number from zero to one. -/
structure IsAcceptable (settings : Settings) : Prop where
  poolSize : 1 ≤ settings.database.poolSize
  number : settings.fuzz.mutationProbability.datum ≠ .nan
  bounds : ∃ p, settings.fuzz.mutationProbability.value? = some p ∧ 0 ≤ p ∧ p ≤ 1

theorem isProbability_iff {p : Number.Double} :
    isProbability p = true ↔ p.datum ≠ .nan ∧ ∃ q, p.value? = some q ∧ 0 ≤ q ∧ q ≤ 1 := by
  unfold isProbability
  cases hvalue : p.value? with
  | none => simp
  | some q =>
    have hnumber : p.datum ≠ .nan := by
      intro hnan
      rw [Number.Binary.value?, hnan] at hvalue
      cases hvalue
    simp [hnumber]

theorem validated_eq_ok_iff {settings' : Settings} :
    settings.validated = .ok settings' ↔ settings' = settings ∧ IsAcceptable settings := by
  unfold validated validate
  dsimp only
  split
  · next hpool =>
    simp only [Except.map, reduceCtorEq, false_iff, not_and]
    intro _ h
    exact absurd h.poolSize (by omega)
  · next hpool =>
    split
    · next hprobability =>
      simp only [Except.map, reduceCtorEq, false_iff, not_and]
      intro _ h
      rw [isProbability_iff.2 ⟨h.number, h.bounds⟩] at hprobability
      cases hprobability
    · next hprobability =>
      have hprobability : isProbability settings.fuzz.mutationProbability = true := by
        simpa using hprobability
      obtain ⟨hnumber, hbounds⟩ := isProbability_iff.1 hprobability
      have haccepted : IsAcceptable settings := ⟨by omega, hnumber, hbounds⟩
      simp [Except.map, haccepted, eq_comm]

theorem load_eq_ok_iff (h : lower places s o = .ok below) :
    load places s o = .ok settings ↔ IsOverridden o below settings ∧ IsAcceptable settings := by
  have hload : load places s o = (below.override o).validated := by
    rw [load, h]
    rfl
  rw [hload, validated_eq_ok_iff, isOverridden_iff]
  exact and_congr_right fun hsettings => by rw [hsettings]

theorem isAcceptable_of_load (h : load places s o = .ok settings) : IsAcceptable settings := by
  obtain ⟨below, hbelow, -⟩ := bind_eq_ok.1 h
  exact ((load_eq_ok_iff hbelow).1 h).2

/-- **Settings are overridden exactly and always validated.** The layers below the command line
are the defaults, one file, and the environment; no other file counts, and of several layers that
speak of a setting the last is believed. Once they are read, what is loaded is what the command line
makes of them, provided that the pool and the probability are within their bounds; settings outside
of these never come out, whatever layer they are from. -/
theorem load_laws (places : Places) (s : Surroundings) (o : Overrides) :
    ReadsOneFile places s o (fileLayer places s o) ∧
    (∀ s' : Surroundings, s'.environment = s.environment →
      (∀ path ∈ candidates places o, s'.entry? path = s.entry? path) →
        load places s' o = load places s o) ∧
    (∀ file below, fileLayer places s o = .ok file → lower places s o = .ok below →
      IsLayered places s file below) ∧
    (∀ e, lower places s o = .error e → load places s o = .error e) ∧
    (∀ below, lower places s o = .ok below →
      (∃! settings, IsOverridden o below settings) ∧
      ∀ settings, load places s o = .ok settings ↔
        IsOverridden o below settings ∧ IsAcceptable settings) ∧
    ∀ settings, load places s o = .ok settings → IsAcceptable settings := by
  refine ⟨fileLayer_readsOneFile places s o, fun s' => load_congr,
    fun file below => isLayered_of_lower, fun e he => ?_, fun below hbelow => ⟨?_, fun settings =>
      load_eq_ok_iff hbelow⟩, fun settings => isAcceptable_of_load⟩
  · rw [load, he]
    rfl
  · exact ⟨below.override o, override_isOverridden o below, fun settings => isOverridden_iff.1⟩

/-- A file in the second of the usual places, below variables for the pool and the probability. -/
def sampleSurroundings (probability : String) : Surroundings where
  entry? path :=
    if path = "config/row-parity.toml" then
      some (.file "[database]\npool_size = 3\n[fuzz]\nseed = 1\nnum_databases = 7\n")
    else none
  environment :=
    [("Row_Parity__Database__Pool_Size", "2"),
      ("ROW_PARITY__FUZZ__MUTATION_PROBABILITY", probability)]

def samplePlaces : Places where
  files := ["row-parity.toml", "config/row-parity.toml"]
  variableOpening := "row_parity__"

def sampleOptions : Overrides where
  seed := some 9

/-- What the sample comes to below the command line. -/
def sampleBelow : Settings where
  database := { poolSize := 2 }
  fuzz := { seed := some 1, databases := 7, mutationProbability := .ofRatio false 1 2 }

def sampleContent : String :=
  "\x7b\"database\": \x7b\"pool_size\": 4\x7d, \"fuzz\": \x7b\"mutation_probability\": 0.5\x7d\x7d"

/-- A file in JSON beside one in the first of the usual places. -/
def namedSurroundings : Surroundings where
  entry? path :=
    if path = "sample.json" then some (.file sampleContent)
    else if path = "row-parity.toml" then some (.file "[database]\npool_size = 3\n")
    else none

def namedOptions : Overrides where
  settingsFile := some "sample.json"

/-- What the sample with a named file comes to below the command line. -/
def namedBelow : Settings where
  database := { poolSize := 4 }
  fuzz := { mutationProbability := .ofRatio false 1 2 }

theorem exists_ok_of_any {α : Type} {d : Decode α} {p : α → Bool}
    (h : d.toOption.any p = true) : ∃ a, d = .ok a ∧ p a = true := by
  cases d with
  | ok a => exact ⟨a, rfl, h⟩
  | error e => cases h

theorem exists_lower_of_any {places : Places} {s : Surroundings} {o : Overrides}
    {below : Settings} (h : (lower places s o).toOption.any (fun b => decide (b = below)) = true) :
    lower places s o = .ok below := by
  obtain ⟨below', hbelow, hvalue⟩ := exists_ok_of_any h
  rw [hbelow, of_decide_eq_true hvalue]

theorem isAcceptable_half {settings : Settings} (hpool : 1 ≤ settings.database.poolSize)
    (hhalf : settings.fuzz.mutationProbability = .ofRatio false 1 2) : IsAcceptable settings where
  poolSize := hpool
  number := by
    rw [hhalf]
    decide +kernel
  bounds := by
    rw [hhalf]
    exact ⟨1 / 2, by decide +kernel, by decide +kernel, by decide +kernel⟩

/-- The variable is believed about the pool, the file about the number of databases and the command
line about the seed. A probability that is no number is not accepted from a variable either. If the
command line names a file, that is read by its ending, and the one in the usual place does not
count. -/
theorem load_laws_sample :
    (∃ file, fileLayer samplePlaces (sampleSurroundings "0.5") sampleOptions = .ok file ∧
      IsProper samplePlaces (sampleSurroundings "0.5") file "database" "pool_size" ∧
      readRequired Tree.toWord32?
        (source? samplePlaces (sampleSurroundings "0.5") file "database" "pool_size") = some 2) ∧
    (lower samplePlaces (sampleSurroundings "0.5") sampleOptions = .ok sampleBelow ∧
      load samplePlaces (sampleSurroundings "0.5") sampleOptions =
        .ok { sampleBelow with fuzz := { sampleBelow.fuzz with seed := some 9 } }) ∧
    (∀ settings, load samplePlaces (sampleSurroundings "nan") sampleOptions ≠ .ok settings) ∧
    fileLayer samplePlaces namedSurroundings namedOptions = readDocument .json sampleContent ∧
      load samplePlaces namedSurroundings namedOptions = .ok namedBelow := by
  obtain ⟨-, -, hlayered, -, hlower, -⟩ :=
    load_laws samplePlaces (sampleSurroundings "0.5") sampleOptions
  obtain ⟨-, -, -, -, hlower', -⟩ := load_laws samplePlaces (sampleSurroundings "nan") sampleOptions
  obtain ⟨hnamed, -, -, -, hlowerNamed, -⟩ :=
    load_laws samplePlaces namedSurroundings namedOptions
  obtain ⟨file, hfile, hproper⟩ :=
    exists_ok_of_any (d := fileLayer samplePlaces (sampleSurroundings "0.5") sampleOptions)
      (p := fun file => decide (IsProper samplePlaces (sampleSurroundings "0.5") file "database"
        "pool_size")) (by decide +kernel)
  have hproper := of_decide_eq_true hproper
  have hbelow : lower samplePlaces (sampleSurroundings "0.5") sampleOptions = .ok sampleBelow :=
    exists_lower_of_any (by decide +kernel)
  have haccepted :
      IsAcceptable { sampleBelow with fuzz := { sampleBelow.fuzz with seed := some 9 } } :=
    isAcceptable_half (by decide) rfl
  refine ⟨⟨file, hfile, hproper, (hlayered file sampleBelow hfile hbelow).poolSize hproper⟩,
    ⟨hbelow, ((hlower sampleBelow hbelow).2 _).2 ⟨isOverridden_iff.2 rfl, haccepted⟩⟩,
    fun settings hsettings => ?_, ?_, ?_⟩
  · obtain ⟨below, hbelow', hnan⟩ :=
      exists_ok_of_any (d := lower samplePlaces (sampleSurroundings "nan") sampleOptions)
        (p := fun below => decide (below.fuzz.mutationProbability.datum = .nan))
        (by decide +kernel)
    obtain ⟨hoverridden, haccepted'⟩ := ((hlower' below hbelow').2 settings).1 hsettings
    refine haccepted'.number ?_
    rw [hoverridden.mutationProbability]
    exact of_decide_eq_true hnan
  · exact (hnamed.readsNamed rfl).eq_readDocument rfl (by decide)
  · have hbelowNamed : lower samplePlaces namedSurroundings namedOptions = .ok namedBelow :=
      exists_lower_of_any (by decide +kernel)
    have haccepted' : IsAcceptable namedBelow := isAcceptable_half (by decide) rfl
    exact ((hlowerNamed namedBelow hbelowNamed).2 _).2 ⟨isOverridden_iff.2 rfl, haccepted'⟩

end RowParity.Settings
