import BenchReport.Proofs.ChangedFile
import BenchReport.Proofs.CollectedLogs
import BenchReport.Proofs.ResponseTimes
import BenchReport.Proofs.StoreRows
import BenchReport.Proofs.Throughput

/-!
# One log affects one configuration

Two trees may differ in one file.  The file can be a log of one run only, because different logs have
different places, so at most the rows of that run differ.  They stand together in either collection,
and what is before and behind them is the same (`SameAround`).

A collection of response times or of store rows has at most one row of a run.  The throughput of a
sequential run decides whether that on the tree library is looked for, so there the rows of two runs
may come and go with one log, but these runs have the same protocol and replicas.

`collect_sameElsewhere` states this for collections that succeed.  Whether they do may depend on files
that are no logs, such as one that stands where the directory of the logs should be, but not on one that
no path of a log meets.
-/

namespace BenchReport

/-! ## Lists that differ in one stretch -/

section

variable {β κ : Type}

/-- Whether two lists of rows are the same but for one stretch, in which both have only rows of one
kind. -/
def SameAround (kind : β → Prop) (part part' rows rows' : List β) : Prop :=
  (∀ row ∈ part ++ part', kind row) ∧
    ∃ before after, rows = before ++ part ++ after ∧ rows' = before ++ part' ++ after

variable {configs : List κ} {rowsOf rowsOf' : κ → List β}

/-- Where the rows of one configuration differ, the rows around them are the same. -/
lemma sameAround_flatMap {kind : β → Prop} {config : κ} (hnodup : configs.Nodup)
    (hconfig : config ∈ configs)
    (hsame : ∀ other ∈ configs, other ≠ config → rowsOf' other = rowsOf other)
    (hkind : ∀ row ∈ rowsOf config ++ rowsOf' config, kind row) :
    SameAround kind (rowsOf config) (rowsOf' config) (configs.flatMap rowsOf)
      (configs.flatMap rowsOf') := by
  obtain ⟨before, after, rfl⟩ := List.append_of_mem hconfig
  obtain ⟨-, hafter, hdisjoint⟩ := List.nodup_append'.mp hnodup
  have hbefore : before.flatMap rowsOf' = before.flatMap rowsOf := by
    refine List.flatMap_congr fun other hother => hsame other (by simp [hother]) ?_
    rintro rfl
    exact hdisjoint hother List.mem_cons_self
  have hrest : after.flatMap rowsOf' = after.flatMap rowsOf := by
    refine List.flatMap_congr fun other hother => hsame other (by simp [hother]) ?_
    rintro rfl
    exact (List.nodup_cons.mp hafter).1 hother
  refine ⟨hkind, before.flatMap rowsOf, after.flatMap rowsOf, ?_, ?_⟩
  · rw [List.flatMap_append, List.flatMap_cons, List.append_assoc]
  · rw [List.flatMap_append, List.flatMap_cons, hbefore, hrest, List.append_assoc]

/-- If there is at most one configuration whose rows can differ, the rows are the same or the same
around those of this configuration. -/
lemma sameAround_or_eq {kind : κ → β → Prop} {touched : κ → Prop} (hnodup : configs.Nodup)
    (hmem : ∀ config, touched config → config ∈ configs)
    (hunique : ∀ config other, touched config → touched other → config = other)
    (hsame : ∀ config ∈ configs, ¬ touched config → rowsOf' config = rowsOf config)
    (hkind : ∀ config, ∀ row ∈ rowsOf config ++ rowsOf' config, kind config row) :
    (∃ config, touched config ∧ SameAround (kind config) (rowsOf config) (rowsOf' config)
      (configs.flatMap rowsOf) (configs.flatMap rowsOf')) ∨
    (∀ config, ¬ touched config) ∧ configs.flatMap rowsOf = configs.flatMap rowsOf' := by
  by_cases h : ∃ config, touched config
  · obtain ⟨config, hconfig⟩ := h
    refine .inl ⟨config, hconfig, sameAround_flatMap hnodup (hmem config hconfig) ?_ (hkind config)⟩
    exact fun other hother hne =>
      hsame other hother fun htouched => hne (hunique other config htouched hconfig)
  · push Not at h
    exact .inr ⟨h, List.flatMap_congr fun config hconfig => (hsame config hconfig (h config)).symm⟩

end

variable {files others : FileTree} {location : Location}

/-! ## Store runs -/

namespace StoreScan

variable (scan : StoreScan)

/-- Whether a log of a run that is looked for stands, or would stand, at a location. -/
def HasLogAt (files : FileTree) (location : Location) (key : StoreKey) : Prop :=
  scan.Covers key ∧ ∃ client < key.clients, files.place? (scan.clientPath key client) = some location

lemma slashFree_of_mem_treeOf (hfree : SlashFree scan.tree) (variant : Variant) :
    ∀ text ∈ scan.treeOf variant, SlashFree text :=
  fun _ htext => scan.eq_tree_of_mem_treeOf htext ▸ hfree

lemma treeOf_injOn {variant variant' : Variant} (hvariant : variant ∈ variants)
    (hvariant' : variant' ∈ variants) (h : scan.treeOf variant = scan.treeOf variant') :
    variant = variant' := by
  cases variant <;> cases variant' <;> first | rfl | simp_all [variants, treeOf]

/-- A location belongs to one run at most. -/
lemma hasLogAt_unique (hfree : SlashFree scan.tree) {key key' : StoreKey}
    (h : scan.HasLogAt files location key) (h' : scan.HasLogAt files location key') : key = key' := by
  obtain ⟨⟨hvariant, -⟩, client, -, hplace⟩ := h
  obtain ⟨⟨hvariant', -⟩, client', -, hplace'⟩ := h'
  obtain ⟨-, hclients, htree⟩ := LogName.storeClient.inj
    (LogName.eq_of_place?_eq (scan.slashFree_of_mem_treeOf hfree _)
      (scan.slashFree_of_mem_treeOf hfree _) hplace hplace')
  obtain ⟨variant, clients⟩ := key
  obtain ⟨variant', clients'⟩ := key'
  obtain rfl := scan.treeOf_injOn hvariant hvariant' htree
  obtain rfl : clients = clients' := hclients
  rfl

/-- The row of a run depends on the samples of its logs. -/
lemma runRow_congr {metric : Metric} {key : StoreKey}
    (h : ∀ client < key.clients, Log.sampleAt others (.store metric) (scan.clientPath key client) =
      Log.sampleAt files (.store metric) (scan.clientPath key client)) :
    scan.runRow metric others key = scan.runRow metric files key := by
  have hsamples : ∀ path ∈ (countsBelow key.clients).map (scan.clientPath key),
      Log.sampleAt others (.store metric) path = Log.sampleAt files (.store metric) path := by
    intro path hpath
    obtain ⟨client, hclient, rfl⟩ := List.mem_map.mp hpath
    exact h client (mem_countsBelow.mp hclient)
  rw [runRow, runRow, figuresOf, figuresOf, List.filterMap_congr hsamples]

/-- Runs without a log at the location have the same row. -/
lemma runRow_eq_of_not_hasLogAt (h : files.SameElsewhere others location) {metric : Metric}
    {key : StoreKey} (hkey : scan.Covers key) (hlog : ¬ scan.HasLogAt files location key) :
    scan.runRow metric others key = scan.runRow metric files key :=
  scan.runRow_congr fun client hclient =>
    h.sampleAt_log _ _ _ fun hplace => hlog ⟨hkey, client, hclient, hplace⟩

lemma collect_around (h : files.SameElsewhere others location) (hfree : SlashFree scan.tree)
    (metric : Metric) {rows rows' : List StoreRow}
    (hrows : (scan.collect metric files).outcome = .ok rows)
    (hrows' : (scan.collect metric others).outcome = .ok rows') :
    (∃ key, scan.HasLogAt files location key ∧
      SameAround (fun row => row.key = key) (scan.runRow metric files key).toList
        (scan.runRow metric others key).toList rows rows') ∨
    (∀ key, ¬ scan.HasLogAt files location key) ∧ rows = rows' := by
  obtain ⟨-, rfl⟩ := (scan.scans_collect metric files).eq_ok_iff.mp hrows
  obtain ⟨-, rfl⟩ := (scan.scans_collect metric others).eq_ok_iff.mp hrows'
  rw [List.filterMap_eq_flatMap_toList, List.filterMap_eq_flatMap_toList]
  refine sameAround_or_eq (nodup_of_ascending scan.ascending_runs)
    (fun key hkey => scan.mem_runs.mpr hkey.1) (fun key other => scan.hasLogAt_unique hfree) ?_ ?_
  · intro key hkey hlog
    rw [scan.runRow_eq_of_not_hasLogAt h (scan.mem_runs.mp hkey) hlog]
  · intro key row hrow
    rcases List.mem_append.mp hrow with hrow | hrow
    · exact scan.key_runRow metric files key row (Option.mem_toList.mp hrow)
    · exact scan.key_runRow metric others key row (Option.mem_toList.mp hrow)

end StoreScan

/-! ## Response times -/

namespace AgreementScan

variable (scan : AgreementScan)

/-- Whether a client log of a run that is looked for stands, or would stand, at a location. -/
def HasClientLogAt (files : FileTree) (location : Location) (run : ClientRun) : Prop :=
  scan.Covers run ∧
    ∃ client < scan.clients, files.place? (scan.clientPath run client) = some location

lemma slashFree_of_mem_treeOf (hfree : SlashFree scan.tree) (variant : Variant) :
    ∀ text ∈ scan.treeOf variant, SlashFree text :=
  fun _ htext => scan.eq_tree_of_mem_treeOf htext ▸ hfree

lemma treeOf_injOn {run run' : ClientRun} (hrun : scan.Covers run) (hrun' : scan.Covers run')
    (h : scan.treeOf run.variant = scan.treeOf run'.variant) : run.variant = run'.variant := by
  obtain ⟨-, hlayer⟩ := hrun
  obtain ⟨-, hlayer'⟩ := hrun'
  cases hvariant : run.variant <;> cases hvariant' : run'.variant <;>
    first | rfl | simp_all [layersOf, treeOf]

/-- A location belongs to one run at most. -/
lemma hasClientLogAt_unique (hfree : SlashFree scan.tree) {run run' : ClientRun}
    (h : scan.HasClientLogAt files location run) (h' : scan.HasClientLogAt files location run') :
    run = run' := by
  obtain ⟨hcovers, client, -, hplace⟩ := h
  obtain ⟨hcovers', client', -, hplace'⟩ := h'
  obtain ⟨hreplicas, -, hprotocol, hlayer, -, htree⟩ := LogName.agreementClient.inj
    (LogName.eq_of_place?_eq (scan.slashFree_of_mem_treeOf hfree _)
      (scan.slashFree_of_mem_treeOf hfree _) hplace hplace')
  have hvariant := scan.treeOf_injOn hcovers hcovers' htree
  cases run
  cases run'
  simp_all

/-- The row of a run depends on the samples of its logs. -/
lemma clientRunRow_congr {run : ClientRun}
    (h : ∀ client < scan.clients, Log.sampleAt others .agreement (scan.clientPath run client) =
      Log.sampleAt files .agreement (scan.clientPath run client)) :
    scan.clientRunRow others run = scan.clientRunRow files run := by
  have hsamples : ∀ path ∈ (countsBelow scan.clients).map (scan.clientPath run),
      Log.sampleAt others .agreement path = Log.sampleAt files .agreement path := by
    intro path hpath
    obtain ⟨client, hclient, rfl⟩ := List.mem_map.mp hpath
    exact h client (mem_countsBelow.mp hclient)
  rw [clientRunRow, clientRunRow, clientStats, clientStats, samplesAt, samplesAt,
    List.filterMap_congr hsamples]

/-- Runs without a log at the location have the same row. -/
lemma clientRunRow_eq_of_not_hasClientLogAt (h : files.SameElsewhere others location)
    {run : ClientRun} (hrun : scan.Covers run) (hlog : ¬ scan.HasClientLogAt files location run) :
    scan.clientRunRow others run = scan.clientRunRow files run :=
  scan.clientRunRow_congr fun client hclient =>
    h.sampleAt_log _ _ _ fun hplace => hlog ⟨hrun, client, hclient, hplace⟩

lemma responseTimes_around (h : files.SameElsewhere others location) (hfree : SlashFree scan.tree)
    {rows rows' : List AgreementRow}
    (hrows : (scan.collect .responseTime files).outcome = .ok rows)
    (hrows' : (scan.collect .responseTime others).outcome = .ok rows') :
    (∃ run, scan.HasClientLogAt files location run ∧
      SameAround (fun row => row.key = run.key) (scan.clientRunRow files run).toList
        (scan.clientRunRow others run).toList rows rows') ∨
    (∀ run, ¬ scan.HasClientLogAt files location run) ∧ rows = rows' := by
  obtain ⟨-, rfl⟩ := (scan.scans_responseTimes files).eq_ok_iff.mp hrows
  obtain ⟨-, rfl⟩ := (scan.scans_responseTimes others).eq_ok_iff.mp hrows'
  rw [List.filterMap_eq_flatMap_toList, List.filterMap_eq_flatMap_toList]
  refine sameAround_or_eq (nodup_of_ascending scan.ascending_clientRuns)
    (fun run hrun => scan.mem_clientRuns.mpr hrun.1)
    (fun run other => scan.hasClientLogAt_unique hfree) ?_ ?_
  · intro run hrun hlog
    rw [scan.clientRunRow_eq_of_not_hasClientLogAt h (scan.mem_clientRuns.mp hrun) hlog]
  · intro run row hrow
    rcases List.mem_append.mp hrow with hrow | hrow
    · exact ((scan.clientRunRow_eq_some files).mp (Option.mem_toList.mp hrow)).1
    · exact ((scan.clientRunRow_eq_some others).mp (Option.mem_toList.mp hrow)).1

/-! ## Throughput -/

/-- Whether the replica log of a run stands, or would stand, at a location. -/
def HasReplicaLogAt (files : FileTree) (location : Location) (key : AgreementKey) : Prop :=
  key.replicas ≤ scan.maxReplicas ∧ files.place? (scan.throughputPath key) = some location

lemma throughputLog_injective : Function.Injective scan.throughputLog := by
  rintro ⟨replicas, protocol, variant⟩ ⟨replicas', protocol', variant'⟩ h
  cases variant <;> cases variant' <;> simp_all [throughputLog]

/-- The replica log of a run is of no other tree. -/
lemma eq_tree_of_mem_throughputLog {key : AgreementKey} {text : String}
    (h : text ∈ (scan.throughputLog key).tree?) : text = scan.tree := by
  obtain ⟨replicas, protocol, variant⟩ := key
  cases variant with
  | smelt => exact (Option.some.inj h).symm
  | hybrid => cases h
  | sequential => cases h

/-- A location belongs to one run at most. -/
lemma hasReplicaLogAt_unique (hfree : SlashFree scan.tree) {key key' : AgreementKey}
    (h : scan.HasReplicaLogAt files location key) (h' : scan.HasReplicaLogAt files location key') :
    key = key' :=
  scan.throughputLog_injective (LogName.eq_of_place?_eq
    (fun _ htext => scan.eq_tree_of_mem_throughputLog htext ▸ hfree)
    (fun _ htext => scan.eq_tree_of_mem_throughputLog htext ▸ hfree) h.2 h'.2)

/-- The row of a run depends on the sample of its log. -/
lemma throughputRow_congr {key : AgreementKey}
    (h : Log.sampleAt others .agreement (scan.throughputPath key) =
      Log.sampleAt files .agreement (scan.throughputPath key)) :
    scan.throughputRow others key = scan.throughputRow files key := by
  rw [throughputRow, throughputRow, samplesAt, samplesAt, List.filterMap_cons, List.filterMap_cons, h]
  rfl

/-- What the throughput of a run is looked for with: its protocol, its layer and its replicas. -/
def placing (key : AgreementKey) : Protocol × Layer × UInt32 :=
  (key.protocol, if key.variant = .hybrid then .sharedMemory else .direct, key.replicas)

/-- The rows of a protocol on a layer with some replicas. -/
def layerRows (files : FileTree) (config : Protocol × Layer × UInt32) : List AgreementRow :=
  (scan.layerKeys files config.1 config.2.1 config.2.2).filterMap (scan.throughputRow files)

/-- Everything that replica logs are looked for with, in order. -/
def placings : List (Protocol × Layer × UInt32) :=
  Protocol.all ×ˢ Layer.all ×ˢ countsUpTo scan.maxReplicas

lemma filterMap_throughputKeys (files : FileTree) :
    (scan.throughputKeys files).filterMap (scan.throughputRow files) =
      scan.placings.flatMap (scan.layerRows files) := by
  simp only [throughputKeys, placings, SProd.sprod, List.product, List.filterMap_flatMap,
    List.flatMap_assoc, List.flatMap_map, layerRows]

lemma nodup_placings : scan.placings.Nodup :=
  List.Nodup.product (by decide) (List.Nodup.product (by decide)
    (nodup_of_ascending (ascending_countsUpTo scan.maxReplicas)))

/-- Whether a log that can have a row of a protocol on a layer stands at a location. -/
def Touches (files : FileTree) (location : Location) (config : Protocol × Layer × UInt32) : Prop :=
  ∃ key, scan.HasReplicaLogAt files location key ∧ placing key = config

lemma placing_mem_placings {key : AgreementKey} (h : key.replicas ≤ scan.maxReplicas) :
    placing key ∈ scan.placings :=
  List.mem_product.mpr ⟨Protocol.mem_all _,
    List.mem_product.mpr ⟨Layer.mem_all _, mem_countsUpTo.mpr h⟩⟩

lemma placing_of_mem_layerKeys {files : FileTree} {config : Protocol × Layer × UInt32}
    {key : AgreementKey} (h : key ∈ scan.layerKeys files config.1 config.2.1 config.2.2) :
    placing key = config := by
  obtain ⟨protocol, layer, replicas⟩ := config
  rcases (scan.mem_layerKeys files).mp h with rfl | ⟨rfl, hlayer, -⟩
  · cases layer <;> rfl
  · obtain rfl : layer = .direct := hlayer
    rfl

/-- The rows of a protocol on a layer tell the protocol and the replicas. -/
lemma of_mem_layerRows {config : Protocol × Layer × UInt32} {row : AgreementRow}
    (h : row ∈ scan.layerRows files config) : row.protocol = config.1 ∧ row.replicas = config.2.2 := by
  obtain ⟨key, hkey, hrow⟩ := List.mem_filterMap.mp h
  obtain rfl := scan.placing_of_mem_layerKeys hkey
  obtain rfl := scan.key_throughputRow files key row hrow
  exact ⟨rfl, rfl⟩

/-- Where no log of them stands at the location, the rows of a protocol on a layer are the same.  This
includes whether the run on the tree library is looked for. -/
lemma layerRows_eq (h : files.SameElsewhere others location)
    {config : Protocol × Layer × UInt32} (hconfig : config ∈ scan.placings)
    (hlog : ¬ scan.Touches files location config) :
    scan.layerRows others config = scan.layerRows files config := by
  have hreplicas : config.2.2 ≤ scan.maxReplicas :=
    mem_countsUpTo.mp (List.mem_product.mp (List.mem_product.mp hconfig).2).2
  have hrow : ∀ key, placing key = config →
      scan.throughputRow others key = scan.throughputRow files key := by
    rintro key rfl
    exact scan.throughputRow_congr
      (h.sampleAt_log _ _ _ fun hplace => hlog ⟨key, ⟨hreplicas, hplace⟩, rfl⟩)
  obtain ⟨protocol, layer, replicas⟩ := config
  have hown : placing ⟨replicas, protocol, replicaVariant layer⟩ = (protocol, layer, replicas) := by
    cases layer <;> rfl
  have hkeys : scan.layerKeys others protocol layer replicas =
      scan.layerKeys files protocol layer replicas := by
    rw [layerKeys, layerKeys, hrow _ hown]
  rw [layerRows, layerRows]
  dsimp only
  rw [hkeys]
  exact List.filterMap_congr fun key hkey => hrow key (scan.placing_of_mem_layerKeys hkey)

lemma throughput_around (h : files.SameElsewhere others location) (hfree : SlashFree scan.tree)
    {rows rows' : List AgreementRow}
    (hrows : (scan.collect .throughput files).outcome = .ok rows)
    (hrows' : (scan.collect .throughput others).outcome = .ok rows') :
    (∃ key part part', scan.HasReplicaLogAt files location key ∧
      SameAround (fun row => row.protocol = key.protocol ∧ row.replicas = key.replicas) part part'
        rows rows') ∨
    (∀ key, ¬ scan.HasReplicaLogAt files location key) ∧ rows = rows' := by
  obtain ⟨-, rfl⟩ := (scan.scans_throughput files).eq_ok_iff.mp hrows
  obtain ⟨-, rfl⟩ := (scan.scans_throughput others).eq_ok_iff.mp hrows'
  rw [filterMap_throughputKeys, filterMap_throughputKeys]
  have hmem : ∀ config, scan.Touches files location config → config ∈ scan.placings := by
    rintro _ ⟨key, ⟨hreplicas, -⟩, rfl⟩
    exact scan.placing_mem_placings hreplicas
  have hunique : ∀ config other, scan.Touches files location config →
      scan.Touches files location other → config = other := by
    rintro _ _ ⟨key, hkey, rfl⟩ ⟨key', hkey', rfl⟩
    rw [scan.hasReplicaLogAt_unique hfree hkey hkey']
  have hkind : ∀ config, ∀ row ∈ scan.layerRows files config ++ scan.layerRows others config,
      row.protocol = config.1 ∧ row.replicas = config.2.2 := fun config row hrow =>
    (List.mem_append.mp hrow).elim scan.of_mem_layerRows scan.of_mem_layerRows
  rcases sameAround_or_eq scan.nodup_placings hmem hunique (fun _ => scan.layerRows_eq h) hkind with
    ⟨_, ⟨key, hkey, rfl⟩, haround⟩ | ⟨hnone, heq⟩
  · exact .inl ⟨key, _, _, hkey, haround⟩
  · exact .inr ⟨fun key hkey => hnone _ ⟨key, hkey, rfl⟩, heq⟩

end AgreementScan

/-! ## One log, one configuration -/

/-- **One log affects one configuration.**  If two trees differ in one file, collections that succeed
in both give the same rows, but for those of the run of which the file is a log: at most one row of
store figures or response times, and of throughput only rows with the same protocol and replicas.
Where no path of a log meets the file, the collections are the same, with their notes and errors. -/
theorem collect_sameElsewhere {files others : FileTree} {location : Location}
    (h : files.SameElsewhere others location) :
    (∀ (scan : StoreScan) (metric : Metric) (rows rows' : List StoreRow), SlashFree scan.tree →
      (scan.collect metric files).outcome = .ok rows →
      (scan.collect metric others).outcome = .ok rows' →
        (∃ key, scan.HasLogAt files location key ∧
          SameAround (fun row => row.key = key) (scan.runRow metric files key).toList
            (scan.runRow metric others key).toList rows rows') ∨
        (∀ key, ¬ scan.HasLogAt files location key) ∧ rows = rows') ∧
    (∀ (scan : AgreementScan) (rows rows' : List AgreementRow), SlashFree scan.tree →
      (scan.collect .responseTime files).outcome = .ok rows →
      (scan.collect .responseTime others).outcome = .ok rows' →
        (∃ run, scan.HasClientLogAt files location run ∧
          SameAround (fun row => row.key = run.key) (scan.clientRunRow files run).toList
            (scan.clientRunRow others run).toList rows rows') ∨
        (∀ run, ¬ scan.HasClientLogAt files location run) ∧ rows = rows') ∧
    (∀ (scan : AgreementScan) (rows rows' : List AgreementRow), SlashFree scan.tree →
      (scan.collect .throughput files).outcome = .ok rows →
      (scan.collect .throughput others).outcome = .ok rows' →
        (∃ key part part', scan.HasReplicaLogAt files location key ∧
          SameAround (fun row => row.protocol = key.protocol ∧ row.replicas = key.replicas) part part'
            rows rows') ∨
        (∀ key, ¬ scan.HasReplicaLogAt files location key) ∧ rows = rows') ∧
    (∀ (scan : StoreScan) (metric : Metric),
      (∀ path ∈ scan.logPaths, location ∉ FileTree.trail files.home path) →
        scan.collect metric files = scan.collect metric others) ∧
    (∀ (scan : AgreementScan) (metric : Metric),
      (∀ path ∈ scan.logPaths, location ∉ FileTree.trail files.home path) →
        scan.collect metric files = scan.collect metric others) :=
  ⟨fun scan metric _ _ hfree => scan.collect_around h hfree metric,
    fun scan _ _ hfree => scan.responseTimes_around h hfree,
    fun scan _ _ hfree => scan.throughput_around h hfree,
    fun scan metric hoff => scan.collect_congr_of_logPaths
      (fun path hpath => (h.lookup_eq (hoff path hpath)).symm) metric,
    fun scan metric hoff => scan.collect_congr_of_logPaths
      (fun path hpath => (h.lookup_eq (hoff path hpath)).symm) metric⟩

/-- A sequential log comes up next to one of the tree library, and then both have rows, between the old
ones.  A scan of the store passes it by. -/
theorem collect_sameElsewhere_gating_log :
    let scan : AgreementScan := ⟨⟨"logs"⟩, 1, 2, "mst"⟩
    let store : StoreScan := ⟨⟨"logs"⟩, 2, "mst", false⟩
    let log : String → String → Location × Entry := fun name text =>
      (["w", "logs", name], .file (.bytes (Utf8.ofString text)))
    let files : FileTree := ⟨["w"], [(["w"], .directory), (["w", "logs"], .directory),
      log "tp_one_below_4_num_1_numc_2" "||\t9000\t1000\n",
      log "tp_mst_one_num_0_numc_2" "||\t8000\t1000\n",
      log "tp_one_below_5_num_1_numc_2" "||\t7000\t1000\n"]⟩
    let location : Location := ["w", "logs", "tp_one_below_5_num_0_numc_2"]
    let others := files.put location (.file (.bytes (Utf8.ofString "||\t6000\t1000\n")))
    files.SameElsewhere others location ∧
      ∃ rows rows', (scan.collect .throughput files).outcome = .ok rows ∧
        rows.map AgreementRow.key = [⟨1, .onePaxos, .hybrid⟩, ⟨1, .onePaxos, .sequential⟩] ∧
        (scan.collect .throughput others).outcome = .ok rows' ∧
        rows'.map AgreementRow.key = [⟨1, .onePaxos, .hybrid⟩, ⟨0, .onePaxos, .sequential⟩,
          ⟨0, .onePaxos, .smelt⟩, ⟨1, .onePaxos, .sequential⟩] ∧
        (∃ key part part', scan.HasReplicaLogAt files location key ∧
          SameAround (fun row => row.protocol = key.protocol ∧ row.replicas = key.replicas) part part'
            rows rows') ∧
        store.collect .throughput files = store.collect .throughput others := by
  intro scan store log files location others
  have helsewhere : files.SameElsewhere others location :=
    FileTree.sameElsewhere_put _ (by decide +kernel)
  have hkeys : (scan.collect .throughput files).outcome.map (·.map AgreementRow.key) =
      .ok [⟨1, .onePaxos, .hybrid⟩, ⟨1, .onePaxos, .sequential⟩] := by
    decide +kernel
  have hkeys' : (scan.collect .throughput others).outcome.map (·.map AgreementRow.key) =
      .ok [⟨1, .onePaxos, .hybrid⟩, ⟨0, .onePaxos, .sequential⟩, ⟨0, .onePaxos, .smelt⟩,
        ⟨1, .onePaxos, .sequential⟩] := by
    decide +kernel
  have hlog : scan.HasReplicaLogAt files location ⟨0, .onePaxos, .sequential⟩ :=
    ⟨by decide, by decide +kernel⟩
  obtain ⟨rows, hrows, hkeys⟩ := Log.map_eq_ok.mp hkeys
  obtain ⟨rows', hrows', hkeys'⟩ := Log.map_eq_ok.mp hkeys'
  obtain ⟨-, -, hthroughput, hstore, -⟩ := collect_sameElsewhere helsewhere
  have haround := hthroughput scan rows rows' (by decide) hrows hrows'
  exact ⟨helsewhere, rows, rows', hrows, hkeys, hrows', hkeys',
    haround.resolve_right fun hnone => hnone.1 _ hlog, hstore store .throughput (by decide +kernel)⟩

end BenchReport
