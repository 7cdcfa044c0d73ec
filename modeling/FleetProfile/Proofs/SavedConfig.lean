import FleetProfile.CommandLine.Desk
import FleetProfile.Proofs.Toml.Assembly
import FleetProfile.Proofs.ValidConfig

/-! A configuration that is saved and loaded again. What is usable is written, whatever texts stand
in it, and what is read back is the same and as usable. -/
namespace FleetProfile
open Toml (Value Scalar Written entryLines)

namespace Settings

variable {entries : List (String × String)} {name text : String}

theorem insertEntry_of_forall_lt (h : ∀ e ∈ entries, e.1 < name) :
    insertEntry name text entries = entries ++ [(name, text)] := by
  induction entries with
  | nil => rfl
  | cons e entries ih =>
    obtain ⟨he, hrest⟩ := List.forall_mem_cons.1 h
    rw [insertEntry, if_neg (String.lt_asymm he), if_pos he, ih hrest, List.cons_append]

/-- Settings are those of their names and texts. -/
theorem ofList_entries (s : Settings) : ofList s.entries = s := by
  have hfold : ∀ (es : List (String × String)) (acc : Settings),
      (acc.entries ++ es).Pairwise (fun a b => a.1 < b.1) →
        (es.foldl (fun s e => s.insert e.1 e.2) acc).entries = acc.entries ++ es := by
    intro es
    induction es with
    | nil => exact fun acc _ => (List.append_nil _).symm
    | cons e es ih =>
      intro acc hordered
      have hlast : ∀ d ∈ acc.entries, d.1 < e.1 := fun d hd =>
        (List.pairwise_append.1 hordered).2.2 d hd e List.mem_cons_self
      have hinsert : (acc.insert e.1 e.2).entries = acc.entries ++ [e] :=
        insertEntry_of_forall_lt hlast
      rw [List.foldl_cons, ih _ (by rw [hinsert]; simpa using hordered), hinsert]
      simp
  have hentries : (ofList s.entries).entries = s.entries := hfold s.entries empty s.ordered
  generalize ofList s.entries = t at hentries
  cases s
  cases t
  cases hentries
  rfl

end Settings

namespace Config

variable {entries : List (String × Value)} {α : Type} {read : Value → Option α} {key : String}

theorem optionalField_of_lookup {v : Value} {a : α} (h : Toml.lookup entries key = some v)
    (back : read v = some a) : optionalField entries read key = .ok (some a) := by
  simp only [optionalField, h, back]

theorem optionalField_of_none (h : Toml.lookup entries key = none) :
    optionalField entries read key = .ok none := by
  simp only [optionalField, h]

theorem requiredField_of_lookup {v : Value} {a : α} (h : Toml.lookup entries key = some v)
    (back : read v = some a) : requiredField entries read key = .ok a := by
  rw [requiredField, optionalField_of_lookup h back]
  rfl

theorem settings?_entries (s : Settings) :
    settings? (.table (s.entries.map fun e => (e.1, .string e.2))) = some s := by
  have hall : ∀ entries : List (String × String),
      (entries.map fun e => (e.1, Value.string e.2)).mapM
        (fun e : String × Value => (text? e.2).map (e.1, ·)) = some entries := by
    intro entries
    induction entries with
    | nil => rfl
    | cons e entries ih =>
      rw [List.map_cons, List.mapM_cons, ih]
      rfl
  rw [settings?, hall, Option.map_some, Settings.ofList_entries]

theorem source_of_lookups {s : SourceConfig}
    (name : Toml.lookup entries "name" = some (.string s.name))
    (kind : Toml.lookup entries "kind" = some (.string s.kind.name))
    (utcOffset : Toml.lookup entries "utc_offset" = s.utcOffset.map .string)
    (incremental : Toml.lookup entries "incremental" = some (.boolean s.incremental))
    (connection : Toml.lookup entries "connection" =
      some (.table (s.connection.entries.map fun e => (e.1, .string e.2)))) :
    source entries = .ok s := by
  have hname : requiredField entries text? "name" = .ok s.name :=
    requiredField_of_lookup name rfl
  have hkind : requiredField entries kind? "kind" = .ok s.kind :=
    requiredField_of_lookup kind (Source.Kind.ofName?_name s.kind)
  have hoffset : optionalField entries text? "utc_offset" = .ok s.utcOffset := by
    cases hgiven : s.utcOffset with
    | none => exact optionalField_of_none (by rw [utcOffset, hgiven, Option.map_none])
    | some text => exact optionalField_of_lookup (by rw [utcOffset, hgiven, Option.map_some]) rfl
  have hincremental : optionalField entries flag? "incremental" = .ok (some s.incremental) :=
    optionalField_of_lookup incremental rfl
  have hconnection : optionalField entries settings? "connection" = .ok (some s.connection) :=
    optionalField_of_lookup connection (settings?_entries s.connection)
  simp only [source, hname, hkind, hoffset, hincremental, hconnection, bind, Except.bind,
    Option.getD_some]

end Config

namespace SourceConfig

/-- The element that a source is written as. -/
def element (s : SourceConfig) : Toml.Element where
  own := ("name", .string s.name) :: ("kind", .string s.kind.name) ::
    s.utcOffset.toList.map (fun text => ("utc_offset", .string text)) ++
      [("incremental", .boolean s.incremental)]
  inner := s.connection.entries.map fun e => (e.1, .string e.2)

theorem sourceLines_eq (s : SourceConfig) :
    Config.sourceLines s = s.element.lines "sources" "connection" := by
  obtain ⟨name, kind, utcOffset, incremental, connection⟩ := s
  have hinner : (connection.entries.map fun e => Config.entry e.1 (.string e.2)) =
      entryLines (connection.entries.map fun e => (e.1, .string e.2)) := by
    rw [entryLines, List.map_map]
    rfl
  cases utcOffset with
  | none => simp only [Config.sourceLines, hinner]; rfl
  | some text => simp only [Config.sourceLines, hinner]; rfl

theorem distinct_element (s : SourceConfig) : s.element.Distinct "connection" := by
  have hinner : (s.element.inner.map Prod.fst).Nodup := by
    have hordered := s.connection.ordered.imp fun {a b} hlt (heq : a.1 = b.1) =>
      String.lt_irrefl _ (heq ▸ hlt)
    rw [element, List.map_map]
    exact List.pairwise_map.2 hordered
  cases hoffset : s.utcOffset with
  | none => exact ⟨by simp [element, hoffset], hinner, by simp [element, hoffset]⟩
  | some text => exact ⟨by simp [element, hoffset], hinner, by simp [element, hoffset]⟩

theorem written_element (s : SourceConfig) :
    ∀ line ∈ s.element.lines "sources" "connection", Written line := by
  refine Toml.Element.written_lines ?_ (List.forall_mem_map.2 fun e _ => .string e.2)
  obtain ⟨name, kind, utcOffset, incremental, connection⟩ := s
  have hlast : ∀ f ∈ [("incremental", Value.boolean incremental)], Scalar f.2 :=
    List.forall_mem_singleton.2 (.boolean incremental)
  refine List.forall_mem_cons.2 ⟨.string name, List.forall_mem_cons.2 ⟨.string kind.name, ?_⟩⟩
  exact List.forall_mem_append.2 ⟨List.forall_mem_map.2 fun text _ => .string text, hlast⟩

/-- A source is read back from its element. -/
theorem source?_element (s : SourceConfig) :
    Config.source? (s.element.value "connection") = some s := by
  have hsource : Config.source (s.element.own ++ [("connection", .table s.element.inner)]) =
      .ok s := by
    apply Config.source_of_lookups
    all_goals cases hoffset : s.utcOffset <;> simp [element, hoffset, Toml.lookup]
  rw [Toml.Element.value, Config.source?, hsource]
  rfl

end SourceConfig

namespace Config

variable {c : Config}

/-- The fields of a configuration other than its sources. -/
def fields (c : Config) : List (String × Value) :=
  [("pipeline_name", .string c.pipeline), ("version", .string c.version),
    ("extract_folder", .string c.extractFolder), ("run_timeout_secs", .integer c.runTimeoutSecs),
    ("retry_limit", .integer c.retryLimit),
    ("retry_base_delay_ms", .integer c.retryBaseDelayMs),
    ("connector_timeout_secs", .integer c.connectorTimeoutSecs),
    ("batch_size", .integer c.batchSize), ("max_workers", .integer c.maxWorkers)]

/-- The table that a configuration is written as. -/
def table (c : Config) : List (String × Value) :=
  c.fields ++ [("sources",
    .array ((c.sources.map SourceConfig.element).map (Toml.Element.value "connection")))]

theorem lines_eq (ne : c.sources ≠ []) :
    c.lines = entryLines c.fields ++
      (c.sources.map SourceConfig.element).flatMap (Toml.Element.lines "sources" "connection") := by
  have hsources : sourcesLines c.sources = c.sources.flatMap sourceLines := by
    rw [sourcesLines]
    exact ne
  rw [lines, hsources, List.flatMap_map]
  simp only [← SourceConfig.sourceLines_eq]
  rfl

theorem le_maxInt64 (writable : c.isWritable = true) :
    ∀ n ∈ c.numbers, (n : Int) ≤ Number.maxInt64 := by
  intro n hn
  have hfits := List.all_eq_true.1 writable n hn
  simp only [Number.fitsInt64, Bool.and_eq_true, decide_eq_true_eq] at hfits
  exact hfits.2

theorem scalar_fields (writable : c.isWritable = true) : ∀ f ∈ c.fields, Scalar f.2 := by
  have hfits := le_maxInt64 writable
  simp only [numbers, fields, List.forall_mem_cons] at hfits ⊢
  obtain ⟨htimeout, hlimit, hdelay, hconnector, hbatch, hworkers, hnone⟩ := hfits
  exact ⟨.string _, .string _, .string _, .integer htimeout, .integer hlimit, .integer hdelay,
    .integer hconnector, .integer hbatch, .integer hworkers, by simp⟩

theorem written_lines (ne : c.sources ≠ []) (writable : c.isWritable = true) :
    ∀ line ∈ c.lines, Written line := by
  rw [lines_eq ne]
  refine List.forall_mem_append.2 ⟨Toml.written_entryLines (scalar_fields writable), ?_⟩
  exact List.forall_mem_flatMap.2 (List.forall_mem_map.2 fun s _ => s.written_element)

theorem parse?_lines (ne : c.sources ≠ []) (writable : c.isWritable = true) :
    Toml.parse? (Toml.documentText c.lines) = some c.table := by
  rw [Toml.parse?, Toml.parseLines?_documentText (written_lines ne writable), Option.bind_some,
    lines_eq ne]
  refine Toml.assemble_elements (by simp [fields]) (by simp [fields]) (by simpa using ne) ?_
  exact List.forall_mem_map.2 fun s _ => s.distinct_element

theorem natural?_of_le {n most : Nat} (h : n ≤ most) : natural? most (.integer n) = some n := by
  have hbounds : 0 ≤ (n : Int) ∧ (n : Int) ≤ most := by omega
  rw [natural?, if_pos hbounds, Int.toNat_natCast]

theorem sources?_elements (sources : List SourceConfig) :
    sources? (.array ((sources.map SourceConfig.element).map (Toml.Element.value "connection"))) =
      some sources := by
  rw [sources?]
  induction sources with
  | nil => rfl
  | cons s sources ih =>
    rw [List.map_cons, List.map_cons, List.mapM_cons, s.source?_element, ih]
    rfl

theorem ofTable_table (writable : c.isWritable = true) (retries : c.retryLimit ≤ maxRetries) :
    ofTable c.table = .ok c := by
  have hword : ∀ n ∈ c.numbers, n ≤ Json.maxWord := by
    intro n hn
    have hle := le_maxInt64 writable n hn
    unfold Number.maxInt64 at hle
    unfold Json.maxWord
    omega
  simp only [numbers, List.forall_mem_cons] at hword
  obtain ⟨htimeout, -, hdelay, hconnector, hbatch, hworkers, -⟩ := hword
  have hpipeline : requiredField c.table text? "pipeline_name" = .ok c.pipeline :=
    requiredField_of_lookup rfl rfl
  have hversion : optionalField c.table text? "version" = .ok (some c.version) :=
    optionalField_of_lookup rfl rfl
  have hfolder : optionalField c.table text? "extract_folder" = .ok (some c.extractFolder) :=
    optionalField_of_lookup rfl rfl
  have htimeout : optionalField c.table (natural? Json.maxWord) "run_timeout_secs" =
      .ok (some c.runTimeoutSecs) :=
    optionalField_of_lookup rfl (natural?_of_le htimeout)
  have hlimit : optionalField c.table (natural? maxRetries) "retry_limit" =
      .ok (some c.retryLimit) := optionalField_of_lookup rfl (natural?_of_le retries)
  have hdelay : optionalField c.table (natural? Json.maxWord) "retry_base_delay_ms" =
      .ok (some c.retryBaseDelayMs) :=
    optionalField_of_lookup rfl (natural?_of_le hdelay)
  have hconnector : optionalField c.table (natural? Json.maxWord) "connector_timeout_secs" =
      .ok (some c.connectorTimeoutSecs) :=
    optionalField_of_lookup rfl (natural?_of_le hconnector)
  have hbatch : optionalField c.table (natural? Json.maxWord) "batch_size" =
      .ok (some c.batchSize) := optionalField_of_lookup rfl (natural?_of_le hbatch)
  have hworkers : optionalField c.table (natural? Json.maxWord) "max_workers" =
      .ok (some c.maxWorkers) := optionalField_of_lookup rfl (natural?_of_le hworkers)
  have hsources : optionalField c.table sources? "sources" = .ok (some c.sources) :=
    optionalField_of_lookup rfl (sources?_elements c.sources)
  simp only [ofTable, hpipeline, hversion, hfolder, htimeout, hlimit, hdelay, hconnector, hbatch,
    hworkers, hsources, bind, Except.bind, Option.getD_some]

/-- A configuration that is usable and whose numbers can be written is saved, and loading what was
saved gives it back. -/
theorem load_save (valid : c.validate = .ok ()) (writable : c.isWritable = true)
    (retries : c.retryLimit ≤ maxRetries) : ∃ text, c.save = .ok text ∧ load text = .ok c := by
  have ne := sources_ne_nil_of_validate valid
  refine ⟨String.ofList (Toml.documentText c.lines), ?_, ?_⟩
  · rw [save, if_pos writable]
  · have hread : read (Toml.documentText c.lines) = .ok c := by
      rw [read, parse?_lines ne writable]
      exact ofTable_table writable retries
    simp only [load, String.toList_ofList, hread, valid, bind, Except.bind]

end Config

/-! ### Files -/

namespace Files.Tree

variable {tree tree' : Tree} {place : List String} {text : String}

theorem fromUTF8?_toUTF8 (text : String) : String.fromUTF8? text.toUTF8 = some text :=
  dif_pos text.isValidUTF8

/-- A file that was written is read as its text. -/
theorem readText?_of_writeText (h : tree.writeText place text = .ok tree') :
    tree'.readText? place = .ok (some text) := by
  obtain ⟨made, -, h⟩ := bind_eq_ok.1 h
  split_ifs at h
  obtain rfl := Except.ok.inj h
  have hplace : (made.filter fun e => e.1 != place).find? (fun e => e.1 == place) = none := by
    rw [List.find?_eq_none]
    intro e he hsame
    have hne := (List.mem_filter.1 he).2
    rw [bne, hsame] at hne
    exact absurd hne (by decide)
  have hat : at? ((made.filter fun e => e.1 != place) ++ [(place, .ofText text)]) place =
      some (.ofText text) := by
    simp [at?, List.find?_append, hplace]
  rw [readText?, hat, Entry.ofText]
  simp only [fromUTF8?_toUTF8]

end Files.Tree

namespace CommandLine

variable {c : Config} {text : String} {caller : Caller} {path : Files.Path} {d : Desk}
  {files : Files.Tree}

theorem run_get_bind {α : Type} (f : Desk → Action α) :
    (get >>= f).run.run d = (f d).run.run d := rfl

theorem run_orObstacle_bind {α β : Type} {result : Except Files.Obstacle α} {a : α}
    (h : result = .ok a) (f : α → Action β) :
    (orObstacle result >>= f).run.run d = (f a).run.run d := by
  rw [h]
  rfl

theorem run_writeConfig (hsave : c.save = .ok text)
    (hwrite : d.files.writeText (caller.resolve path) text = .ok files) :
    (writeConfig caller path c).run.run d = (.ok (), { d with files }) := by
  rw [writeConfig, hsave]
  simp only [pure_bind]
  rw [run_get_bind, run_orObstacle_bind hwrite]
  rfl

theorem run_readConfig (hread : d.files.readText? (caller.resolve path) = .ok (some text))
    (hload : Config.load text = .ok c) :
    (readConfig caller (some path)).run.run d = (.ok c, d) := by
  rw [readConfig, Caller.configPath, Option.getD_some, run_get_bind, run_orObstacle_bind hread]
  simp only [hload]
  rfl

/-- A configuration that is usable and whose numbers can be written is saved, wherever the files let
it be, and read back as it was. -/
theorem readConfig_of_writeConfig (valid : c.validate = .ok ()) (writable : c.isWritable = true)
    (retries : c.retryLimit ≤ Config.maxRetries) :
    ∃ text, c.save = .ok text ∧ Config.load text = .ok c ∧
      ∀ (caller : Caller) (path : Files.Path) (d : Desk) (files : Files.Tree),
        d.files.writeText (caller.resolve path) text = .ok files →
          (writeConfig caller path c).run.run d = (.ok (), { d with files }) ∧
            (readConfig caller (some path)).run.run { d with files } =
              (.ok c, { d with files }) := by
  obtain ⟨text, hsave, hload⟩ := Config.load_save valid writable retries
  refine ⟨text, hsave, hload, fun caller path d files hwrite => ?_⟩
  exact ⟨run_writeConfig hsave hwrite,
    run_readConfig (Files.Tree.readText?_of_writeText hwrite) hload⟩

/-- Texts with quotes, backslashes, ends of lines and control characters, under an empty name and
one that no bare key can be, and a source without settings. -/
def quotedConfig : Config where
  pipeline := "fleet"
  version := "it's \"\"\" and '''\\"
  extractFolder := "\n~/a\tb\r\n\\u0041\u0000"
  retryLimit := 4294967295
  batchSize := 9223372036854775807
  sources :=
    [{ name := "a", kind := .synapse, utcOffset := some " +02:00\n", incremental := false,
       connection := .ofList [("", "#'\n\u0001"), ("key = [\"é\"]", "'\""), ("plain", "")] },
     { name := "b", kind := .snowflake }]

theorem readConfig_of_writeConfig_quotes :
    let caller : Caller := ⟨"/root", ["root"], none, none, "host:1"⟩
    let d : Desk := { files := [], stores := [], now := ⟨0, 0⟩ }
    ∃ files, (writeConfig caller "a.toml" quotedConfig).run.run d = (.ok (), { d with files }) ∧
      (readConfig caller (some "a.toml")).run.run { d with files } =
        (.ok quotedConfig, { d with files }) := by
  intro caller d
  obtain ⟨text, -, -, hfile⟩ := readConfig_of_writeConfig (c := quotedConfig)
    (by decide +kernel) (by decide +kernel) (by decide +kernel)
  have hplace : caller.resolve "a.toml" = ["root", "a.toml"] := by decide +kernel
  have hwrite : d.files.writeText ["root", "a.toml"] text =
      .ok [(["root"], .folder), (["root", "a.toml"], .ofText text)] := rfl
  exact ⟨_, hfile caller "a.toml" d _ (by rw [hplace, hwrite])⟩

end CommandLine

end FleetProfile
