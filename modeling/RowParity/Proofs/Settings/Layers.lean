import RowParity.Proofs.Document.Layers
import RowParity.Settings.Load

/-!
# The layers below the command line

Each setting comes from the last source that says something of it: a variable of the environment,
else the file, else the defaults (`IsLayered`). What the sources say is looked up in the document
that they make (`at?_layered`), and each setting is read from its own place there.
-/

namespace RowParity.Settings

/-- The tree that named values make, laid over each other in order. -/
def treeOf (values : List (String × Tree)) : Tree :=
  (Tree.table []).setAll values

variable (places : Places) (s : Surroundings) (file : Tree)

/-- The document of the file with the environment laid over it. -/
def upperTree : Tree :=
  (treeOf file.entries).setAll (variableLayer places s)

/-- The document of all layers below the command line. -/
def layered : Tree :=
  (treeOf defaultLayer).overlay (upperTree places s file)

/-- What is said of a setting above the defaults: by the last variable for it, else by the file. -/
def upperSource? (group name : String) : Option Tree :=
  (Tree.named? [group, name] (variableLayer places s)).or
    ((treeOf file.entries).at? [group, name])

/-- What the last source that speaks of a setting says. -/
def source? (group name : String) : Option Tree :=
  (upperSource? places s file group name).or ((treeOf defaultLayer).at? [group, name])

/-- The sources speak of a setting as a whole: no variable stands for a part of it or for all of its
section, and in the file its section is a table and the setting itself none. -/
structure IsProper (group name : String) : Prop where
  whole : ∀ entry ∈ variableLayer places s,
    Tree.Touches (PathStep.ofName entry.1) [group, name] →
      PathStep.ofName entry.1 = [.key group, .key name]
  table : ∀ sub ∈ (treeOf file.entries).at? [group], sub.IsTable
  leaf : ∀ leaf ∈ (treeOf file.entries).at? [group, name], ¬leaf.IsTable

instance (group name : String) : Decidable (IsProper places s file group name) :=
  decidable_of_iff
    ((∀ entry ∈ variableLayer places s,
        Tree.Touches (PathStep.ofName entry.1) [group, name] →
          PathStep.ofName entry.1 = [.key group, .key name]) ∧
      (∀ sub ∈ (treeOf file.entries).at? [group], sub.IsTable) ∧
      ∀ leaf ∈ (treeOf file.entries).at? [group, name], ¬leaf.IsTable)
    ⟨fun ⟨hwhole, htable, hleaf⟩ => ⟨hwhole, htable, hleaf⟩,
      fun h => ⟨h.whole, h.table, h.leaf⟩⟩

/-- The value of a setting is what it is read as from what the sources say. -/
def Says {α : Type} (group name : String) (read : Option Tree → Option α) (value : α) : Prop :=
  IsProper places s file group name → read (source? places s file group name) = some value

def readRequired {α : Type} (read : Tree → Option α) (leaf : Option Tree) : Option α :=
  leaf.bind read

/-- Reads a setting that may be left out, or stand there without a value. -/
def readOptional {α : Type} (read : Tree → Option α) (leaf : Option Tree) : Option (Option α) :=
  match leaf.getD .nil with
  | .nil => some none
  | leaf => (read leaf).map some

def readOracles? : Tree → Option (List OracleKind)
  | .list items => items.mapM oracle?
  | _ => none

/-- Each setting is what the last source that says something of it makes it. -/
structure IsLayered (below : Settings) : Prop where
  connection : Says places s file "database" "connection_string" (readRequired Tree.toText?)
    below.database.connection
  poolSize : Says places s file "database" "pool_size" (readRequired Tree.toWord32?)
    below.database.poolSize
  seed : Says places s file "fuzz" "seed" (readOptional Tree.toWord64?) below.fuzz.seed
  databases : Says places s file "fuzz" "num_databases" (readRequired Tree.toWord64?)
    below.fuzz.databases
  queriesPerDatabase : Says places s file "fuzz" "queries_per_database"
    (readRequired Tree.toWord64?) below.fuzz.queriesPerDatabase
  timeoutSeconds : Says places s file "fuzz" "timeout_secs" (readOptional Tree.toWord64?)
    below.fuzz.timeoutSeconds
  oracles : Says places s file "fuzz" "oracles" (readRequired readOracles?) below.fuzz.oracles
  mutationProbability : Says places s file "fuzz" "mutation_probability"
    (readRequired Tree.toDouble?) below.fuzz.mutationProbability
  requireRows : Says places s file "fuzz" "require_rows" (readRequired Tree.toBoolean?)
    below.fuzz.requireRows
  errorLogFile : Says places s file "logging" "error_log_file" (readOptional Tree.toText?)
    below.logging.errorLogFile
  json : Says places s file "logging" "json"
    (fun leaf => (leaf.getD (.boolean false)).toBoolean?) below.logging.json
  reportPath : Says places s file "report" "path" (readOptional Tree.toText?) below.reportPath

variable {places s file} {group name : String}

/-! ## The document of the layers -/

theorem treeOf_isKeyed (values : List (String × Tree)) : (treeOf values).IsKeyed :=
  (Tree.isKeyed_of_entries_eq_nil rfl).setAll values

theorem treeOf_isTable (values : List (String × Tree)) : (treeOf values).IsTable :=
  Tree.IsTable.setAll ⟨[], rfl⟩ values

theorem treeOf_isPlain (values : List (String × Tree)) : (treeOf values).IsPlain :=
  Tree.IsPlain.setAll (fun _ hname => absurd hname List.not_mem_nil) values

theorem not_isTable_of_mem_variableLayer {entry : String × Tree}
    (h : entry ∈ variableLayer places s) : ¬entry.2.IsTable := by
  obtain ⟨variableEntry, -, hentry⟩ := List.mem_filterMap.1 h
  unfold ofVariable? at hentry
  dsimp only at hentry
  split at hentry
  · rw [← Option.some.inj hentry]
    rintro ⟨entries, hentries⟩
    cases hentries
  · cases hentry

theorem upperTree_isKeyed : (upperTree places s file).IsKeyed :=
  (treeOf_isKeyed file.entries).setAll (variableLayer places s)

theorem upperTree_isTable : (upperTree places s file).IsTable :=
  (treeOf_isTable file.entries).setAll (variableLayer places s)

theorem upperTree_isPlain : (upperTree places s file).IsPlain :=
  (treeOf_isPlain file.entries).setAll (variableLayer places s)

theorem lower_eq {o : Overrides} (h : fileLayer places s o = .ok file) :
    lower places s o = decode (layered places s file).entries := by
  obtain ⟨base, hbase⟩ := treeOf_isTable defaultLayer
  have hplain : (upperTree places s file).IsPlain := upperTree_isPlain
  obtain ⟨upper, hupper⟩ : (upperTree places s file).IsTable := upperTree_isTable
  have hlayered : (treeOf defaultLayer).setAll upper = layered places s file := by
    rw [layered, hbase, hupper]
    exact Tree.setAll_eq_overlay (hupper ▸ hplain)
  have hlayer : upperLayer places s o = .ok (.table upper) := by
    rw [upperLayer, h, ← hupper]
    rfl
  rw [lower, hlayer, ← hlayered]
  rfl

theorem at?_upperTree (h : IsProper places s file group name) :
    (upperTree places s file).at? [group, name] = upperSource? places s file group name :=
  Tree.at?_setAll (fun entry hentry htouches =>
    ⟨h.whole entry hentry htouches, not_isTable_of_mem_variableLayer hentry⟩) _

theorem isTable_at?_upperTree (h : IsProper places s file group name) {sub : Tree}
    (hsub : (upperTree places s file).at? [group] = some sub) : sub.IsTable :=
  Tree.isTable_at?_setAll h.whole h.table sub hsub

theorem upperTree_isPassable (h : IsProper places s file group name) :
    (upperTree places s file).IsPassable [group, name] := by
  refine ⟨upperTree_isTable, fun sub hsub => ⟨?_, fun _ _ => trivial⟩⟩
  rw [← Tree.at?_singleton] at hsub
  exact isTable_at?_upperTree h hsub

theorem not_isTable_upperSource? (h : IsProper places s file group name) {leaf : Tree}
    (hleaf : upperSource? places s file group name = some leaf) : ¬leaf.IsTable := by
  rcases Option.or_eq_some_iff.1 hleaf with hnamed | ⟨-, hfile⟩
  · obtain ⟨entry, hentry, rfl⟩ := Tree.exists_of_named? hnamed
    exact not_isTable_of_mem_variableLayer hentry
  · exact h.leaf leaf hfile

theorem at?_layered (h : IsProper places s file group name) :
    (layered places s file).at? [group, name] = source? places s file group name := by
  have hupper := at?_upperTree h
  rw [layered, source?]
  cases hleaf : upperSource? places s file group name with
  | some leaf =>
    rw [Tree.at?_overlay _ upperTree_isKeyed (hupper.trans hleaf),
      Tree.overlay_of_not_isTable _ (not_isTable_upperSource? h hleaf), Option.some_or]
  | none =>
    rw [Option.none_or, Tree.at?_overlay_of_none _ upperTree_isKeyed (upperTree_isPassable h)
      (hupper.trans hleaf)]

/-- Each default stands under two keys. -/
theorem exists_ofName_of_mem_defaultLayer :
    ∀ entry ∈ defaultLayer, ∃ group name,
      PathStep.ofName entry.1 = [.key group, .key name] := by
  simp only [defaultLayer, List.forall_mem_cons, List.not_mem_nil, false_imp_iff, implies_true,
    and_true]
  exact ⟨⟨"database", "connection_string", by decide⟩, ⟨"database", "pool_size", by decide⟩,
    ⟨"fuzz", "num_databases", by decide⟩, ⟨"fuzz", "queries_per_database", by decide⟩,
    ⟨"fuzz", "oracles", by decide⟩, ⟨"fuzz", "mutation_probability", by decide⟩,
    ⟨"fuzz", "require_rows", by decide⟩, ⟨"logging", "json", by decide⟩⟩

theorem isTable_defaults (group : String) :
    ∀ sub, (treeOf defaultLayer).at? [group] = some sub → sub.IsTable := by
  have hnames : ∀ entry ∈ defaultLayer, Tree.Touches (PathStep.ofName entry.1) [group, ""] →
      PathStep.ofName entry.1 = [.key group, .key ""] := by
    intro entry hentry htouches
    obtain ⟨group', name', hname⟩ := exists_ofName_of_mem_defaultLayer entry hentry
    rw [hname] at htouches ⊢
    obtain ⟨rfl, rfl, -⟩ := htouches
    rfl
  refine Tree.isTable_at?_setAll hnames fun sub hsub => ?_
  rw [Tree.at?_singleton] at hsub
  cases hsub

theorem isTable_layered (h : IsProper places s file group name) {sub : Tree}
    (hsub : (layered places s file).at? [group] = some sub) : sub.IsTable := by
  rw [layered] at hsub
  cases hupper : (upperTree places s file).at? [group] with
  | some upper =>
    rw [Tree.at?_overlay _ upperTree_isKeyed hupper] at hsub
    obtain ⟨entries, rfl⟩ := isTable_at?_upperTree h hupper
    cases hsub
    exact ⟨_, rfl⟩
  | none =>
    have hway : (upperTree places s file).IsPassable [group] :=
      ⟨upperTree_isTable, fun _ _ => trivial⟩
    rw [Tree.at?_overlay_of_none _ upperTree_isKeyed hway hupper] at hsub
    exact isTable_defaults group sub hsub

/-! ## Reading the document -/

variable {α β : Type}

theorem bind_eq_ok {d : Decode α} {next : α → Decode β} {b : β} :
    d >>= next = .ok b ↔ ∃ a, d = .ok a ∧ next a = .ok b := by
  cases d with
  | ok a => simp [bind, Except.bind]
  | error e => simp [bind, Except.bind]

theorem map_eq_ok {d : Decode α} {f : α → β} {b : β} :
    d.map f = .ok b ↔ ∃ a, d = .ok a ∧ f a = b := by
  cases d with
  | ok a => simp [Except.map]
  | error e => simp [Except.map]

namespace Fields

variable {fields : Fields} {field : Field} {read : Tree → Option α} {tree : Tree}

theorem convert_eq_ok {a : α} : fields.convert field read tree = .ok a ↔ read tree = some a := by
  unfold convert
  cases read tree <;> simp

theorem convertOptional_eq_ok {a : Option α} :
    fields.convertOptional field read tree = .ok a ↔ readOptional read (some tree) = some a := by
  cases tree with
  | nil => simp [convertOptional, readOptional]
  | _ => simp [convertOptional, readOptional, map_eq_ok, convert_eq_ok]

end Fields

namespace Field

variable {field : Field} {read : Tree → Option α} {entries : List (String × Tree)}

theorem required_eq_ok {a : α} (h : field.required read (.named entries) = .ok a) :
    readRequired read (Tree.entry? field.name entries) = some a := by
  obtain ⟨tree, htree, h⟩ := bind_eq_ok.1 h
  unfold Fields.required at htree
  split at htree
  · next hentry =>
    cases htree
    exact Option.bind_eq_some_iff.2 ⟨tree, hentry, Fields.convert_eq_ok.1 h⟩
  · cases htree

theorem optional_eq_ok {a : Option α} (h : field.optional read (.named entries) = .ok a) :
    readOptional read (Tree.entry? field.name entries) = some a := by
  obtain ⟨tree, htree, h⟩ := bind_eq_ok.1 h
  cases htree
  exact Fields.convertOptional_eq_ok.1 h

end Field

theorem oraclesFrom_eq_ok {key : String} {i : Nat} {trees : List Tree} {kinds : List OracleKind}
    (h : oraclesFrom key i trees = .ok kinds) : trees.mapM oracle? = some kinds := by
  induction trees generalizing i kinds with
  | nil => cases h; rfl
  | cons tree trees ih =>
    unfold oraclesFrom at h
    split at h
    · cases h
    · next kind hkind =>
      obtain ⟨rest, hrest, rfl⟩ := map_eq_ok.1 h
      rw [List.mapM_cons, hkind, ih hrest]
      rfl

theorem oracles_eq_ok {field : Field} {entries : List (String × Tree)} {kinds : List OracleKind}
    (h : oracles field (.named entries) = .ok kinds) :
    readRequired readOracles? (Tree.entry? field.name entries) = some kinds := by
  obtain ⟨tree, htree, h⟩ := bind_eq_ok.1 h
  unfold Fields.required at htree
  split at htree
  · next hentry =>
    cases htree
    refine Option.bind_eq_some_iff.2 ⟨tree, hentry, ?_⟩
    cases tree with
    | list trees => exact oraclesFrom_eq_ok h
    | _ => cases h
  · cases htree

/-! ### Sections -/

variable {entries : List (String × Tree)}

theorem decodeDatabase_eq_ok {database : DatabaseSettings}
    (h : decodeDatabase (.table entries) = .ok database) :
    readRequired Tree.toText? (Tree.entry? "connection_string" entries) =
        some database.connection ∧
      readRequired Tree.toWord32? (Tree.entry? "pool_size" entries) = some database.poolSize := by
  obtain ⟨fields, hfields, h⟩ := bind_eq_ok.1 h
  cases hfields
  obtain ⟨connection, hconnection, h⟩ := bind_eq_ok.1 h
  obtain ⟨poolSize, hpoolSize, h⟩ := bind_eq_ok.1 h
  cases h
  exact ⟨Field.required_eq_ok hconnection, Field.required_eq_ok hpoolSize⟩

/-- The settings of a campaign are read from a table, each from under its own name. -/
structure FuzzIsRead (entries : List (String × Tree)) (fuzz : FuzzSettings) : Prop where
  seed : readOptional Tree.toWord64? (Tree.entry? "seed" entries) = some fuzz.seed
  databases : readRequired Tree.toWord64? (Tree.entry? "num_databases" entries) =
    some fuzz.databases
  queriesPerDatabase : readRequired Tree.toWord64? (Tree.entry? "queries_per_database" entries) =
    some fuzz.queriesPerDatabase
  timeoutSeconds : readOptional Tree.toWord64? (Tree.entry? "timeout_secs" entries) =
    some fuzz.timeoutSeconds
  oracles : readRequired readOracles? (Tree.entry? "oracles" entries) = some fuzz.oracles
  mutationProbability : readRequired Tree.toDouble? (Tree.entry? "mutation_probability" entries) =
    some fuzz.mutationProbability
  requireRows : readRequired Tree.toBoolean? (Tree.entry? "require_rows" entries) =
    some fuzz.requireRows

theorem decodeFuzz_eq_ok {fuzz : FuzzSettings} (h : decodeFuzz (.table entries) = .ok fuzz) :
    FuzzIsRead entries fuzz := by
  obtain ⟨fields, hfields, h⟩ := bind_eq_ok.1 h
  cases hfields
  obtain ⟨seed, hseed, h⟩ := bind_eq_ok.1 h
  obtain ⟨databases, hdatabases, h⟩ := bind_eq_ok.1 h
  obtain ⟨queries, hqueries, h⟩ := bind_eq_ok.1 h
  obtain ⟨timeout, htimeout, h⟩ := bind_eq_ok.1 h
  obtain ⟨kinds, hkinds, h⟩ := bind_eq_ok.1 h
  obtain ⟨probability, hprobability, h⟩ := bind_eq_ok.1 h
  obtain ⟨rows, hrows, h⟩ := bind_eq_ok.1 h
  cases h
  exact {
    seed := Field.optional_eq_ok hseed
    databases := Field.required_eq_ok hdatabases
    queriesPerDatabase := Field.required_eq_ok hqueries
    timeoutSeconds := Field.optional_eq_ok htimeout
    oracles := oracles_eq_ok hkinds
    mutationProbability := Field.required_eq_ok hprobability
    requireRows := Field.required_eq_ok hrows }

theorem decodeLogging_eq_ok {logging : LoggingSettings}
    (h : decodeLogging (.table entries) = .ok logging) :
    readOptional Tree.toText? (Tree.entry? "error_log_file" entries) = some logging.errorLogFile ∧
      ((Tree.entry? "json" entries).getD (.boolean false)).toBoolean? = some logging.json := by
  obtain ⟨fields, hfields, h⟩ := bind_eq_ok.1 h
  cases hfields
  obtain ⟨errorLogFile, hfile, h⟩ := bind_eq_ok.1 h
  obtain ⟨json, hjson, h⟩ := bind_eq_ok.1 h
  cases h
  exact ⟨Fields.convertOptional_eq_ok.1 hfile, Fields.convert_eq_ok.1 hjson⟩

theorem decodeReport_eq_ok {path : Option String}
    (h : decodeReport (.table entries) = .ok path) :
    readOptional Tree.toText? (Tree.entry? "path" entries) = some path := by
  obtain ⟨fields, hfields, h⟩ := bind_eq_ok.1 h
  cases hfields
  exact Field.optional_eq_ok h

variable {read : Option Tree → Option α} {decodeGroup : Tree → Decode β} {a : α} {b default : β}

theorem says_of_requiredSection
    (h : requiredSection (layered places s file).entries group decodeGroup = .ok b)
    (hread : ∀ entries, decodeGroup (.table entries) = .ok b →
      read (Tree.entry? name entries) = some a) : Says places s file group name read a := by
  intro hproper
  rw [← at?_layered hproper, Tree.at?_cons]
  unfold requiredSection at h
  split at h
  · cases h
  · next sub hsub =>
    obtain ⟨entries, rfl⟩ := isTable_layered hproper ((Tree.at?_singleton _ _).trans hsub)
    rw [hsub, Option.bind_some, Tree.at?_singleton]
    exact hread entries h

theorem says_of_optionalSection
    (h : optionalSection (layered places s file).entries group default decodeGroup = .ok b)
    (hread : ∀ entries, decodeGroup (.table entries) = .ok b →
      read (Tree.entry? name entries) = some a)
    (hdefault : b = default → read none = some a) : Says places s file group name read a := by
  intro hproper
  rw [← at?_layered hproper, Tree.at?_cons]
  unfold optionalSection at h
  split at h
  · next hsub =>
    cases h
    rw [hsub]
    exact hdefault rfl
  · next sub hsub =>
    obtain ⟨entries, rfl⟩ := isTable_layered hproper ((Tree.at?_singleton _ _).trans hsub)
    rw [hsub, Option.bind_some, Tree.at?_singleton]
    exact hread entries h

theorem isLayered_of_lower {o : Overrides} {below : Settings}
    (hfile : fileLayer places s o = .ok file) (h : lower places s o = .ok below) :
    IsLayered places s file below := by
  rw [lower_eq hfile] at h
  obtain ⟨database, hdatabase, h⟩ := bind_eq_ok.1 h
  obtain ⟨fuzz, hfuzz, h⟩ := bind_eq_ok.1 h
  obtain ⟨logging, hlogging, h⟩ := bind_eq_ok.1 h
  obtain ⟨reportPath, hreport, h⟩ := bind_eq_ok.1 h
  cases h
  exact {
    connection := says_of_requiredSection hdatabase fun _ h => (decodeDatabase_eq_ok h).1
    poolSize := says_of_requiredSection hdatabase fun _ h => (decodeDatabase_eq_ok h).2
    seed := says_of_requiredSection hfuzz fun _ h => (decodeFuzz_eq_ok h).seed
    databases := says_of_requiredSection hfuzz fun _ h => (decodeFuzz_eq_ok h).databases
    queriesPerDatabase :=
      says_of_requiredSection hfuzz fun _ h => (decodeFuzz_eq_ok h).queriesPerDatabase
    timeoutSeconds := says_of_requiredSection hfuzz fun _ h => (decodeFuzz_eq_ok h).timeoutSeconds
    oracles := says_of_requiredSection hfuzz fun _ h => (decodeFuzz_eq_ok h).oracles
    mutationProbability :=
      says_of_requiredSection hfuzz fun _ h => (decodeFuzz_eq_ok h).mutationProbability
    requireRows := says_of_requiredSection hfuzz fun _ h => (decodeFuzz_eq_ok h).requireRows
    errorLogFile := says_of_optionalSection hlogging (fun _ h => (decodeLogging_eq_ok h).1)
      (by rintro rfl; rfl)
    json := says_of_optionalSection hlogging (fun _ h => (decodeLogging_eq_ok h).2)
      (by rintro rfl; rfl)
    reportPath := says_of_optionalSection hreport (fun _ h => decodeReport_eq_ok h)
      (by rintro rfl; rfl) }

end RowParity.Settings
