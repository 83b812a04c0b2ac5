import BenchReport.Proofs.ClientLogs
import BenchReport.Proofs.ReportNames

/-!
# What a collection depends on

A collection reads logs and nothing else, so it gives the same in two file trees in which the logs that
it looks for are found in the same state (`AgreementScan.collect_congr_of_logPaths`,
`StoreScan.collect_congr_of_logPaths`).  It is enough that all logs of its tree are
(`AgreementScan.collect_congr`, `StoreScan.collect_congr`), and the logs of runs without the tree
library count for every tree.

This covers the notes that are taken as well as the rows and errors.
-/

namespace BenchReport

/-- A loop over the same steps is the same. -/
lemma Noted.gather_congr {ε α β : Type} {find other : α → Noted ε (List β)} {items : List α}
    (h : ∀ item ∈ items, find item = other item) : gather find items = gather other items := by
  induction items with
  | nil => rfl
  | cons item rest ih =>
    rw [gather, gather, h item List.mem_cons_self,
      ih fun next hnext => h next (List.mem_cons_of_mem _ hnext)]

variable {files others : FileTree}

/-- The samples of logs depend on what is read of these logs. -/
lemma Clients.aggregate_congr_of_read (clients : Clients) {paths : List Path}
    (h : ∀ path ∈ paths, Log.read files clients.columns path = Log.read others clients.columns path) :
    clients.aggregate files paths = clients.aggregate others paths := by
  have hsamples : clients.samples files paths = clients.samples others paths :=
    Noted.gather_congr fun path hpath => by rw [h path hpath]
  rw [aggregate, aggregate, hsamples]

/-- The samples of logs depend on these logs only. -/
lemma Clients.aggregate_congr (clients : Clients) {paths : List Path}
    (h : ∀ path ∈ paths, files.lookup path = others.lookup path) :
    clients.aggregate files paths = clients.aggregate others paths :=
  clients.aggregate_congr_of_read fun path hpath => by rw [Log.read, Log.read, h path hpath]

/-- Whether all logs in a directory that are of no other tree are found in the same state. -/
def SameLogs (files others : FileTree) (dir : Path) (tree : String) : Prop :=
  ∀ log : LogName, (∀ text ∈ log.tree?, text = tree) →
    files.lookup (log.path dir) = others.lookup (log.path dir)

/-! ## Agreement runs -/

namespace AgreementScan

variable (scan : AgreementScan)

lemma clientRow_congr {replicas : UInt32} {protocol : Protocol} {layer : Layer} {variant : Variant}
    (h : ∀ path ∈ scan.clientPaths replicas protocol layer variant,
      files.lookup path = others.lookup path) :
    scan.clientRow files protocol layer variant replicas =
      scan.clientRow others protocol layer variant replicas := by
  rw [clientRow, clientRow, rowFrom, rowFrom, Clients.aggregate_congr _ h]

lemma replicaRow_congr {log : LogName}
    (h : files.lookup (log.path scan.directory) = others.lookup (log.path scan.directory)) :
    scan.replicaRow files log = scan.replicaRow others log := by
  funext replicas protocol variant
  have hlocate : log.locate files scan.directory = log.locate others scan.directory := by
    rw [LogName.locate, LogName.locate, FileTree.isFile, FileTree.isFile, h]
  rw [replicaRow, replicaRow, hlocate]
  cases hfound : log.locate others scan.directory with
  | none => rfl
  | some path =>
    obtain rfl := LogName.path_eq_of_locate hfound
    dsimp only
    rw [rowFrom, rowFrom, Clients.aggregate_congr _ (by simpa using h)]

/-! ### The logs that are looked for -/

lemma mem_logPaths {path : Path} : path ∈ scan.logPaths ↔
    ∃ replicas ≤ scan.maxReplicas, ∃ protocol,
      path ∈ scan.clientPaths replicas protocol .direct .smelt ∨
      path = (LogName.treeReplica replicas protocol scan.tree scan.clients).path scan.directory ∨
      ∃ layer, path = (LogName.replica replicas protocol layer scan.clients).path scan.directory ∨
        path ∈ scan.clientPaths replicas protocol layer .sequential := by
  simp only [logPaths, logPathsFor, List.mem_flatMap, mem_countsUpTo, List.mem_append, List.mem_cons,
    Protocol.mem_all, Layer.mem_all, true_and]

/-- The client logs of no variant are of another tree. -/
lemma eq_tree_of_mem_treeOf {variant : Variant} {text : String} (h : text ∈ scan.treeOf variant) :
    text = scan.tree :=
  (Option.some.inj (Option.mem_ite_none_right.mp h).2).symm

lemma exists_log_of_mem_clientPaths {replicas : UInt32} {protocol : Protocol} {layer : Layer}
    {variant : Variant} {path : Path} (h : path ∈ scan.clientPaths replicas protocol layer variant) :
    ∃ log : LogName, (∀ text ∈ log.tree?, text = scan.tree) ∧ log.path scan.directory = path := by
  obtain ⟨client, -, rfl⟩ := List.mem_map.mp h
  refine ⟨_, fun text htext => ?_, rfl⟩
  exact scan.eq_tree_of_mem_treeOf htext

lemma exists_log_of_mem_logPaths {path : Path} (h : path ∈ scan.logPaths) :
    ∃ log : LogName, (∀ text ∈ log.tree?, text = scan.tree) ∧ log.path scan.directory = path := by
  obtain ⟨replicas, -, protocol, hclient | rfl | ⟨layer, rfl | hclient⟩⟩ := scan.mem_logPaths.mp h
  · exact scan.exists_log_of_mem_clientPaths hclient
  · exact ⟨.treeReplica replicas protocol scan.tree scan.clients,
      fun _ htext => (Option.some.inj htext).symm, rfl⟩
  · exact ⟨.replica replicas protocol layer scan.clients, (fun _ htext => by cases htext), rfl⟩
  · exact scan.exists_log_of_mem_clientPaths hclient

/-- What is collected of agreement runs depends on the logs that are looked for. -/
lemma collect_congr_of_logPaths
    (h : ∀ path ∈ scan.logPaths, files.lookup path = others.lookup path) (metric : Metric) :
    scan.collect metric files = scan.collect metric others := by
  cases metric with
  | responseTime =>
    have hsequential : ∀ protocol layer, scan.clientRows files protocol layer .sequential =
        scan.clientRows others protocol layer .sequential := fun protocol layer =>
      Noted.gather_congr fun replicas hreplicas => scan.clientRow_congr fun path hpath =>
        h path (scan.mem_logPaths.mpr ⟨replicas, mem_countsUpTo.mp hreplicas, protocol,
          .inr (.inr ⟨layer, .inr hpath⟩)⟩)
    have hsmelt : ∀ protocol, scan.clientRows files protocol .direct .smelt =
        scan.clientRows others protocol .direct .smelt := fun protocol =>
      Noted.gather_congr fun replicas hreplicas => scan.clientRow_congr fun path hpath =>
        h path (scan.mem_logPaths.mpr ⟨replicas, mem_countsUpTo.mp hreplicas, protocol, .inl hpath⟩)
    simp only [collect, responseTimes, hsequential, hsmelt]
  | throughput =>
    have hrows : ∀ protocol layer,
        Noted.gather (scan.replicaRows files protocol layer) (countsUpTo scan.maxReplicas) =
          Noted.gather (scan.replicaRows others protocol layer) (countsUpTo scan.maxReplicas) := by
      refine fun protocol layer => Noted.gather_congr fun replicas hreplicas => ?_
      have hreplicas := mem_countsUpTo.mp hreplicas
      have hown := scan.replicaRow_congr
        (h _ (scan.mem_logPaths.mpr ⟨replicas, hreplicas, protocol, .inr (.inr ⟨layer, .inl rfl⟩)⟩))
      have htree := scan.replicaRow_congr
        (h _ (scan.mem_logPaths.mpr ⟨replicas, hreplicas, protocol, .inr (.inl rfl)⟩))
      rw [replicaRows, replicaRows, hown, htree]
    simp only [collect, throughput, hrows]

/-- What is collected of agreement runs depends on the logs only. -/
theorem collect_congr (h : SameLogs files others scan.directory scan.tree) (metric : Metric) :
    scan.collect metric files = scan.collect metric others := by
  refine scan.collect_congr_of_logPaths (fun path hpath => ?_) metric
  obtain ⟨log, htree, rfl⟩ := scan.exists_log_of_mem_logPaths hpath
  exact h log htree

end AgreementScan

/-! ## Store runs -/

namespace StoreScan

variable (scan : StoreScan)

/-- The logs of no variant are of another tree. -/
lemma eq_tree_of_mem_treeOf {variant : Variant} {text : String} (h : text ∈ scan.treeOf variant) :
    text = scan.tree :=
  (Option.some.inj (Option.mem_ite_none_right.mp h).2).symm

lemma mem_logPaths {path : Path} : path ∈ scan.logPaths ↔
    ∃ variant ∈ variants, ∃ clients ≤ scan.maxClients, path ∈ scan.clientPaths variant clients := by
  simp only [logPaths, List.mem_flatMap, mem_countsUpTo]

/-- What is collected of store runs for a metric depends on what is read of its columns in the logs
that are looked for. -/
lemma collect_congr_of_read {metric : Metric}
    (h : ∀ path ∈ scan.logPaths,
      Log.read files (.store metric) path = Log.read others (.store metric) path) :
    scan.collect metric files = scan.collect metric others := by
  refine Noted.gather_congr fun variant hvariant => Noted.gather_congr fun clients hclients => ?_
  have hpaths : ∀ path ∈ scan.clientPaths variant clients,
      Log.read files (.store metric) path = Log.read others (.store metric) path := fun path hpath =>
    h path (scan.mem_logPaths.mpr ⟨variant, hvariant, clients, mem_countsUpTo.mp hclients, hpath⟩)
  rw [clientRow, clientRow, Clients.aggregate_congr_of_read _ hpaths]

/-- What is collected of store runs depends on the logs that are looked for. -/
lemma collect_congr_of_logPaths
    (h : ∀ path ∈ scan.logPaths, files.lookup path = others.lookup path) (metric : Metric) :
    scan.collect metric files = scan.collect metric others :=
  scan.collect_congr_of_read fun path hpath => by rw [Log.read, Log.read, h path hpath]

/-- What is collected of store runs depends on the logs only. -/
theorem collect_congr (h : SameLogs files others scan.directory scan.tree) (metric : Metric) :
    scan.collect metric files = scan.collect metric others := by
  refine scan.collect_congr_of_logPaths (fun path hpath => ?_) metric
  obtain ⟨variant, -, clients, -, hpath⟩ := scan.mem_logPaths.mp hpath
  obtain ⟨client, -, rfl⟩ := List.mem_map.mp hpath
  refine h _ fun text htext => ?_
  exact scan.eq_tree_of_mem_treeOf htext

end StoreScan

/-! ## Reports among logs -/

/-- A report that is written where there is no directory leaves all logs as they were. -/
theorem sameLogs_put {location : Location} (entry : Entry) {name : String}
    (hname : Report.IsReportName name) (hlast : location.getLast? = some name)
    (hplace : files.find? location ≠ some .directory) {dir : Path}
    (hdir : files.isDirectory dir = true) {tree : String} (htree : SlashFree tree) :
    SameLogs (files.put location entry) files dir tree := by
  intro log hlog
  have hfree : ∀ text ∈ log.tree?, SlashFree text := fun text htext => hlog text htext ▸ htree
  obtain ⟨hsteps, habsolute⟩ := LogName.steps_path hfree dir
  obtain ⟨there, hresolve⟩ := FileTree.isDirectory_iff.mp hdir
  obtain ⟨-, hleads⟩ := FileTree.resolve_eq_ok.mp hresolve
  refine FileTree.lookup_congr
    (FileTree.resolve_put_of_names entry hplace hleads hsteps habsolute fun found hfound => ?_)
  obtain ⟨hfile, hlogCount⟩ := LogName.names_spec hfree found hfound
  refine ⟨hfile, fun heq => ?_⟩
  obtain rfl := Option.some.inj (hlast.symm.trans heq)
  obtain ⟨c, hdigit, hne, hcount⟩ := hname.endsInCount
  exact hne (hcount.unique hlogCount hdigit (by decide))

end BenchReport
