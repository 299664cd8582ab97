import Moshwatch.History.Store

namespace Moshwatch

/-- `after` lacks some of the entries of `before` and has no others. -/
def Removes (before after : HistoryDir) : Prop :=
  ∀ path, after.lookup path = before.lookup path ∨ after.lookup path = none

theorem Removes.refl (files : HistoryDir) : Removes files files := fun _ => .inl rfl

theorem Removes.trans {first second third : HistoryDir} (left : Removes first second)
    (right : Removes second third) : Removes first third := by
  intro path
  rcases right path with same | gone
  · rw [same]
    exact left path
  · exact .inr gone

theorem removes_erase (files : HistoryDir) (path : String) : Removes files (files.erase path) := by
  intro other
  by_cases same : other = path
  · rw [same]
    exact .inr (AList.lookup_erase path files)
  · exact .inl (AList.lookup_erase_ne same)

def entryBytes (path : String) (entry : DirEntry) : Nat :=
  ((historyFile path entry).map HistoryFile.size).getD 0

theorem historyDirBytes_eq (files : HistoryDir) :
    historyDirBytes files = KeyedStore.total entryBytes files := by
  unfold historyDirBytes historyFilesWithSizesInDir KeyedStore.total
  induction files.entries with
  | nil => rfl
  | cons entry entries ih =>
    rw [List.filterMap_cons, List.map_cons, List.sum_cons, ← ih]
    cases listed : historyFile entry.1 entry.2 with
    | none => simp [entryBytes, listed]
    | some file => simp [entryBytes, listed]

theorem historyDirBytes_erase_le (files : HistoryDir) (path : String) :
    historyDirBytes (files.erase path) ≤ historyDirBytes files := by
  simp only [historyDirBytes_eq]
  cases found : files.lookup path with
  | none => rw [KeyedStore.total_erase_of_absent entryBytes found]
  | some entry =>
    have split := KeyedStore.total_erase entryBytes found
    omega

structure Listed (files : HistoryDir) (file : HistoryFile) : Prop where
  day : fileDayBucket file.path = some file.day
  content : ∃ content, files.lookup file.path = some (.file content) ∧ file.size = content.length

theorem historyFile_eq_some {path : String} {entry : DirEntry} {file : HistoryFile} :
    historyFile path entry = some file ↔
      ∃ content, entry = .file content ∧ fileDayBucket path = some file.day ∧ file.path = path ∧
        file.size = content.length := by
  obtain ⟨day, filePath, size⟩ := file
  cases entry with
  | other => simp [historyFile]
  | file content =>
    simp only [historyFile, Option.map_eq_some_iff, HistoryFile.mk.injEq, DirEntry.file.injEq,
      exists_eq_left']
    constructor
    · rintro ⟨_, found, rfl, rfl, rfl⟩
      exact ⟨found, rfl, rfl⟩
    · rintro ⟨found, rfl, rfl⟩
      exact ⟨_, found, rfl, rfl, rfl⟩

theorem mem_historyFiles {files : HistoryDir} {file : HistoryFile} :
    file ∈ historyFilesWithSizesInDir files ↔ Listed files file := by
  unfold historyFilesWithSizesInDir
  rw [List.mem_filterMap]
  constructor
  · rintro ⟨⟨path, entry⟩, member, listed⟩
    obtain ⟨content, rfl, day, rfl, size⟩ := historyFile_eq_some.mp listed
    exact ⟨day, content, KeyedStore.mem_entries_iff.mp member, size⟩
  · rintro ⟨day, content, found, size⟩
    exact ⟨⟨file.path, .file content⟩, KeyedStore.mem_entries_iff.mpr found,
      historyFile_eq_some.mpr ⟨content, rfl, day, rfl, size⟩⟩

theorem historyFiles_paths_nodup (files : HistoryDir) :
    (historyFilesWithSizesInDir files).Pairwise fun file other => file.path ≠ other.path := by
  unfold historyFilesWithSizesInDir
  rw [List.pairwise_filterMap]
  have distinct := List.pairwise_map.mp files.nodupKeys
  refine distinct.imp ?_
  intro entry other differ file shown otherFile otherShown
  obtain ⟨-, -, -, path, -⟩ := historyFile_eq_some.mp shown
  obtain ⟨-, -, -, otherPath, -⟩ := historyFile_eq_some.mp otherShown
  rw [path, otherPath]
  exact differ

namespace Listed

variable {files : HistoryDir} {file other : HistoryFile}

theorem bytes_erase (listed : Listed files file) :
    historyDirBytes (files.erase file.path) + file.size = historyDirBytes files := by
  obtain ⟨day, content, found, size⟩ := listed
  have weight : entryBytes file.path (.file content) = file.size := by
    simp [entryBytes, historyFile, day, size]
  rw [historyDirBytes_eq, historyDirBytes_eq, ← KeyedStore.total_erase entryBytes found, weight]

theorem erase (listed : Listed files other) (differ : file.path ≠ other.path) :
    Listed (files.erase file.path) other := by
  obtain ⟨day, content, found, size⟩ := listed
  exact ⟨day, content, by rw [AList.lookup_erase_ne differ.symm]; exact found, size⟩

end Listed

/-- A listing, in some order, of a part of the directory. -/
structure Listing (files : HistoryDir) (listing : List HistoryFile) : Prop where
  listed : ∀ file ∈ listing, Listed files file
  distinct : listing.Pairwise fun file other => file.path ≠ other.path

theorem listing_historyFiles (files : HistoryDir) :
    Listing files (historyFilesWithSizesInDir files) :=
  ⟨fun _ => mem_historyFiles.mp, historyFiles_paths_nodup files⟩

theorem Listing.perm {files : HistoryDir} {listing other : List HistoryFile}
    (listed : Listing files listing) (perm : other.Perm listing) : Listing files other :=
  ⟨fun file member => listed.listed file (perm.subset member),
    listed.distinct.perm perm.symm fun differ => differ.symm⟩

theorem Listing.tail {files : HistoryDir} {file : HistoryFile} {rest : List HistoryFile}
    (listed : Listing files (file :: rest)) : Listing files rest :=
  ⟨fun other member => listed.listed other (List.mem_cons_of_mem _ member), listed.distinct.tail⟩

theorem Listing.erase {files : HistoryDir} {file : HistoryFile} {rest : List HistoryFile}
    (listed : Listing files (file :: rest)) : Listing (files.erase file.path) rest :=
  ⟨fun other member => (listed.listed other (List.mem_cons_of_mem _ member)).erase
    (List.rel_of_pairwise_cons listed.distinct member), listed.distinct.tail⟩

structure Removal (before after : HistoryState) : Prop where
  files : Removes before.files after.files
  bytes : historyDirBytes after.files ≤ historyDirBytes before.files
  written : after.writtenBytesTotal = before.writtenBytesTotal
  writeFailures : after.writeFailuresTotal = before.writeFailuresTotal
  dropped : after.droppedSamplesTotal = before.droppedSamplesTotal

theorem Removal.refl (state : HistoryState) : Removal state state :=
  ⟨Removes.refl _, le_refl _, rfl, rfl, rfl⟩

theorem Removal.trans {first second third : HistoryState} (left : Removal first second)
    (right : Removal second third) : Removal first third :=
  ⟨left.files.trans right.files, right.bytes.trans left.bytes, right.written.trans left.written,
    right.writeFailures.trans left.writeFailures, right.dropped.trans left.dropped⟩

theorem removal_erase (state : HistoryState) (path : String) :
    Removal state { state with files := state.files.erase path } :=
  ⟨removes_erase _ _, historyDirBytes_erase_le _ _, rfl, rfl, rfl⟩

def bytesFrom (day : Int) (files : HistoryDir) : Nat :=
  (((historyFilesWithSizesInDir files).filter fun file => day ≤ file.day).map HistoryFile.size).sum

theorem bytesFrom_removes {before after : HistoryDir} (removes : Removes before after) (day : Int) :
    bytesFrom day after ≤ bytesFrom day before := by
  have distinct : (historyFilesWithSizesInDir after).Nodup :=
    (historyFiles_paths_nodup after).imp fun differ same => differ (by rw [same])
  have inside : historyFilesWithSizesInDir after ⊆ historyFilesWithSizesInDir before := by
    intro file member
    obtain ⟨named, content, found, size⟩ := mem_historyFiles.mp member
    rcases removes file.path with same | gone
    · exact mem_historyFiles.mpr ⟨named, content, same ▸ found, size⟩
    · rw [gone] at found
      cases found
  obtain ⟨part, perm, sublist⟩ := (List.subperm_of_subset distinct inside).filter
    fun file => decide (day ≤ file.day)
  unfold bytesFrom
  rw [← (perm.map HistoryFile.size).sum_eq]
  exact (sublist.map HistoryFile.size).sum_le_sum fun size _ => Nat.zero_le size

namespace HistoryStore

theorem removal_pruneFile (oldestDay : Int) (fails : String → Bool) (loop : HistoryState × Nat)
    (file : HistoryFile) :
    Removal loop.1 (pruneFile oldestDay fails loop file).1 ∧
      (pruneFile oldestDay fails loop file).1.currentBytes = loop.1.currentBytes := by
  obtain ⟨state, removedBytes⟩ := loop
  by_cases expired : file.day < oldestDay
  · by_cases failed : fails file.path = true
    · simp only [pruneFile, expired, failed, if_true]
      exact ⟨⟨Removes.refl _, le_refl _, rfl, rfl, rfl⟩, trivial⟩
    · simp only [pruneFile, expired, failed, if_true]
      exact ⟨removal_erase state file.path, rfl⟩
  · simp only [pruneFile, expired, if_false]
    exact ⟨Removal.refl state, trivial⟩

theorem removal_foldl_pruneFile (oldestDay : Int) (fails : String → Bool)
    (listing : List HistoryFile) (loop : HistoryState × Nat) :
    Removal loop.1 (listing.foldl (pruneFile oldestDay fails) loop).1 ∧
      (listing.foldl (pruneFile oldestDay fails) loop).1.currentBytes = loop.1.currentBytes := by
  induction listing generalizing loop with
  | nil => exact ⟨Removal.refl _, rfl⟩
  | cons file rest ih =>
    obtain ⟨first, gauge⟩ := removal_pruneFile oldestDay fails loop file
    obtain ⟨later, same⟩ := ih (pruneFile oldestDay fails loop file)
    exact ⟨first.trans later, same.trans gauge⟩

/-- What the loop of `prune_old_files` counts are the bytes it removes. -/
theorem foldl_pruneFile_bytes (oldestDay : Int) (fails : String → Bool)
    (listing : List HistoryFile) :
    ∀ (state : HistoryState) (removedBytes : Nat), Listing state.files listing →
      removedBytes + historyDirBytes state.files ≤ u64Max →
      let loop := listing.foldl (pruneFile oldestDay fails) (state, removedBytes)
      historyDirBytes loop.1.files + loop.2 = historyDirBytes state.files + removedBytes := by
  induction listing with
  | nil => exact fun state removedBytes _ _ => rfl
  | cons file rest ih =>
    intro state removedBytes listed fits
    rw [List.foldl_cons]
    by_cases expired : file.day < oldestDay
    · by_cases failed : fails file.path = true
      · have step : pruneFile oldestDay fails (state, removedBytes) file =
            ({ state with pruneFailuresTotal := state.pruneFailuresTotal + 1 }, removedBytes) := by
          simp [pruneFile, expired, failed]
        rw [step]
        exact ih { state with pruneFailuresTotal := state.pruneFailuresTotal + 1 } removedBytes
          listed.tail fits
      · have erased := (listed.listed file List.mem_cons_self).bytes_erase
        have step : pruneFile oldestDay fails (state, removedBytes) file =
            ({ state with files := state.files.erase file.path }, removedBytes + file.size) := by
          simp only [pruneFile, expired, failed, if_true]
          rw [satAdd_of_le (by omega)]
          rfl
        rw [step]
        have bytes := ih { state with files := state.files.erase file.path }
          (removedBytes + file.size) listed.erase (by simp only; omega)
        simp only at bytes ⊢
        omega
    · have step : pruneFile oldestDay fails (state, removedBytes) file = (state, removedBytes) := by
        simp [pruneFile, expired]
      rw [step]
      exact ih state removedBytes listed.tail fits

variable {store : HistoryStore} {recordedAtUnixMs : Int} {faults : Faults}

theorem pruneOldFiles_removal {before after : HistoryState}
    (pruned : store.pruneOldFiles recordedAtUnixMs faults before = some after) :
    Removal before after := by
  unfold pruneOldFiles at pruned
  split at pruned
  · cases pruned
  · cases pruned
    have removal := (removal_foldl_pruneFile
      (dayBucket recordedAtUnixMs - asI64 store.retentionDays + 1) faults.pruneRemoval
      (historyFilesWithSizesInDir before.files) (before, 0)).1
    exact ⟨removal.files, removal.bytes, removal.written, removal.writeFailures, removal.dropped⟩

theorem pruneOldFiles_gauge {before after : HistoryState}
    (pruned : store.pruneOldFiles recordedAtUnixMs faults before = some after)
    (fits : historyDirBytes before.files ≤ u64Max)
    (exact : before.currentBytes = historyDirBytes before.files) :
    after.currentBytes = historyDirBytes after.files := by
  unfold pruneOldFiles at pruned
  split at pruned
  · cases pruned
  · cases pruned
    have bytes := foldl_pruneFile_bytes
      (dayBucket recordedAtUnixMs - asI64 store.retentionDays + 1) faults.pruneRemoval
      (historyFilesWithSizesInDir before.files) before 0 (listing_historyFiles _) (by omega)
    have gauge := (removal_foldl_pruneFile
      (dayBucket recordedAtUnixMs - asI64 store.retentionDays + 1) faults.pruneRemoval
      (historyFilesWithSizesInDir before.files) (before, 0)).2
    simp only at bytes gauge ⊢
    omega

theorem removal_evict (currentDay : Int) (incomingBytes : Nat) (fails : String → Bool)
    (listing : List HistoryFile) (totalBytes : Nat) (state : HistoryState) :
    Removal state (store.evict currentDay incomingBytes fails listing totalBytes state).2 := by
  induction listing generalizing totalBytes state with
  | nil =>
    unfold evict
    simp only
    split <;> exact ⟨Removes.refl _, le_refl _, rfl, rfl, rfl⟩
  | cons file rest ih =>
    unfold evict
    split
    · exact ih totalBytes state
    · split
      · exact Removal.refl state
      · split
        · exact ⟨Removes.refl _, le_refl _, rfl, rfl, rfl⟩
        · exact (removal_erase state file.path).trans (ih _ _)

theorem evict_spec (currentDay : Int) (incomingBytes : Nat) (fails : String → Bool)
    (listing : List HistoryFile) :
    ∀ (totalBytes : Nat) (state : HistoryState), Listing state.files listing →
      totalBytes = historyDirBytes state.files →
      let result := store.evict currentDay incomingBytes fails listing totalBytes state
      (∀ projected, result.1 = some projected →
        projected = historyDirBytes result.2.files + incomingBytes ∧
          projected ≤ store.maxDiskBytes) ∧
      (result.1 = none → result.2.currentBytes = historyDirBytes result.2.files) := by
  have exact_of_le : ∀ total : Nat, satAdd total incomingBytes ≤ store.maxDiskBytes →
      satAdd total incomingBytes = total + incomingBytes := by
    intro total bound
    have limit := store.bounded
    unfold satAdd u64Max at *
    omega
  induction listing with
  | nil =>
    intro totalBytes state listed total
    unfold evict
    simp only
    split
    · exact ⟨fun _ granted => (by cases granted), fun _ => total⟩
    · rename_i room
      refine ⟨?_, fun refused => (by cases refused)⟩
      intro projected granted
      cases granted
      have same := exact_of_le totalBytes (by omega)
      exact ⟨by rw [same, total], by omega⟩
  | cons file rest ih =>
    intro totalBytes state listed total
    unfold evict
    split
    · exact ih totalBytes state listed.tail total
    · split
      · rename_i room
        refine ⟨?_, fun refused => (by cases refused)⟩
        intro projected granted
        cases granted
        exact ⟨by rw [exact_of_le totalBytes room, total], room⟩
      · split
        · exact ⟨fun _ granted => (by cases granted), fun _ => total⟩
        · have erased := (listed.listed file List.mem_cons_self).bytes_erase
          exact ih (totalBytes - file.size) { state with files := state.files.erase file.path }
            listed.erase (by simp only; omega)

/-- If every removal works, the loop makes room for what fits beside the files it may not remove. -/
theorem evict_granted {currentDay : Int} {incomingBytes kept : Nat} {fails : String → Bool}
    (works : ∀ path, fails path = false) {listing : List HistoryFile}
    (room : kept + ((listing.filter fun file => currentDay ≤ file.day).map HistoryFile.size).sum +
      incomingBytes ≤ store.maxDiskBytes) {totalBytes : Nat}
    (total : totalBytes ≤ kept + (listing.map HistoryFile.size).sum) (state : HistoryState) :
    ∃ projected,
      (store.evict currentDay incomingBytes fails listing totalBytes state).1 = some projected := by
  induction listing generalizing kept totalBytes state with
  | nil =>
    have fits : ¬store.maxDiskBytes < satAdd totalBytes incomingBytes := by
      unfold satAdd
      simp only [List.filter_nil, List.map_nil, List.sum_nil] at room total
      omega
    simp only [evict, if_neg fits]
    exact ⟨_, rfl⟩
  | cons file rest ih =>
    rw [List.map_cons, List.sum_cons] at total
    unfold evict
    by_cases later : currentDay ≤ file.day
    · rw [if_pos later]
      rw [List.filter_cons_of_pos (by simpa using later), List.map_cons, List.sum_cons] at room
      exact @ih (kept + file.size) (by omega) _ (by omega) state
    · rw [if_neg later]
      rw [List.filter_cons_of_neg (by simpa using later)] at room
      by_cases fits : satAdd totalBytes incomingBytes ≤ store.maxDiskBytes
      · exact ⟨_, by rw [if_pos fits]⟩
      · rw [if_neg fits, works, if_neg (by decide)]
        exact @ih kept room _ (by omega) _

theorem removal_ensureDiskBudget {incomingBytes : Nat} {decision : Option Nat}
    {before after : HistoryState}
    (budget : store.ensureDiskBudget recordedAtUnixMs incomingBytes faults before =
      some (decision, after)) : Removal before after := by
  unfold ensureDiskBudget at budget
  split at budget
  · cases budget
    exact Removal.refl before
  · split at budget
    · cases budget
      exact Removal.refl before
    · split at budget
      · cases budget
      · simp only at budget
        split at budget
        · cases budget
          exact ⟨Removes.refl _, le_refl _, rfl, rfl, rfl⟩
        · rw [Option.some.injEq] at budget
          have removal := @removal_evict store (dayBucket recordedAtUnixMs) incomingBytes
            faults.budgetRemoval (sortHistoryFiles (historyFilesWithSizesInDir before.files))
            (historyDirBytes before.files)
            { before with currentBytes := historyDirBytes before.files }
          change store.evict _ _ _ _ (historyDirBytes before.files)
            { before with currentBytes := historyDirBytes before.files } = _ at budget
          rw [budget] at removal
          exact ⟨removal.files, removal.bytes, removal.written, removal.writeFailures,
            removal.dropped⟩

theorem ensureDiskBudget_granted {incomingBytes : Nat}
    (works : ∀ path, faults.budgetRemoval path = false) {before : HistoryState}
    (room : bytesFrom (dayBucket recordedAtUnixMs) before.files + incomingBytes ≤
      store.maxDiskBytes) {decision : Option Nat × HistoryState}
    (made : store.ensureDiskBudget recordedAtUnixMs incomingBytes faults before = some decision) :
    ∃ projected, decision.1 = some projected := by
  have sorted := List.mergeSort_perm (historyFilesWithSizesInDir before.files)
    fun left right => compareHistoryFiles left right ≠ .gt
  unfold ensureDiskBudget at made
  rw [if_neg (by omega : ¬store.maxDiskBytes < incomingBytes)] at made
  split at made
  · cases made
    exact ⟨_, rfl⟩
  · split at made
    · cases made
    · simp only at made
      split at made
      · cases made
        exact ⟨_, rfl⟩
      · rw [← Option.some.inj made]
        apply @evict_granted store _ _ 0 _ works
        · rw [sortHistoryFiles, ((sorted.filter _).map HistoryFile.size).sum_eq, Nat.zero_add]
          exact room
        · rw [sortHistoryFiles, (sorted.map HistoryFile.size).sum_eq, Nat.zero_add]

theorem makeRoom_granted {payloadBytes : Nat} {call : RecordCall} {before : HistoryState}
    (works : ∀ path, call.faults.budgetRemoval path = false)
    (room : bytesFrom (dayBucket call.recordedAtUnixMs) before.files + payloadBytes ≤
      store.maxDiskBytes) (succeeds : (store.makeRoom payloadBytes call before).1 ≠ .failed) :
    ∃ projected, (store.makeRoom payloadBytes call before).1 = .granted projected := by
  unfold makeRoom at succeeds ⊢
  split at succeeds
  · exact absurd rfl succeeds
  · rename_i created
    rw [if_neg created]
    cases pruned : store.pruneOldFiles call.recordedAtUnixMs call.faults before with
    | none => simp [pruned] at succeeds
    | some after =>
      have kept := bytesFrom_removes (pruneOldFiles_removal pruned).files
        (dayBucket call.recordedAtUnixMs)
      simp only [pruned] at succeeds ⊢
      cases made : store.ensureDiskBudget call.recordedAtUnixMs payloadBytes call.faults after with
      | none => simp [made] at succeeds
      | some decision =>
        obtain ⟨projected, granted⟩ := ensureDiskBudget_granted works (by omega) made
        obtain ⟨decided, state⟩ := decision
        cases granted
        exact ⟨projected, rfl⟩

theorem removal_makeRoom (payloadBytes : Nat) (call : RecordCall) (before : HistoryState) :
    Removal before (store.makeRoom payloadBytes call before).2 := by
  unfold makeRoom
  split
  · exact Removal.refl before
  · split
    · exact Removal.refl before
    · rename_i pruned pruneWorks
      have first := pruneOldFiles_removal pruneWorks
      split
      · exact first
      · rename_i budget
        exact first.trans (removal_ensureDiskBudget budget)
      · rename_i budget
        exact first.trans (removal_ensureDiskBudget budget)

end HistoryStore

end Moshwatch
