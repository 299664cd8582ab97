import Moshwatch.History.Budget

namespace Moshwatch

def without (files : HistoryDir) (deleted : List HistoryFile) : HistoryDir :=
  deleted.foldl (fun files file => files.erase file.path) files

/-- The files of the days before that of a sample, in the order of their days and paths. -/
def earlierFiles (recordedAtUnixMs : Int) (files : HistoryDir) : List HistoryFile :=
  (HistoryStore.sortHistoryFiles (historyFilesWithSizesInDir files)).filter fun file =>
    file.day < dayBucket recordedAtUnixMs

/-- The bytes of the files that are never evicted for a sample. -/
def keptBytes (recordedAtUnixMs : Int) (files : HistoryDir) : Nat :=
  (((historyFilesWithSizesInDir files).filter fun file =>
    dayBucket recordedAtUnixMs ≤ file.day).map HistoryFile.size).sum

theorem mem_earlierFiles {recordedAtUnixMs : Int} {files : HistoryDir} {file : HistoryFile} :
    file ∈ earlierFiles recordedAtUnixMs files ↔
      Listed files file ∧ file.day < dayBucket recordedAtUnixMs := by
  rw [earlierFiles, HistoryStore.sortHistoryFiles, List.mem_filter, List.mem_mergeSort,
    mem_historyFiles, decide_eq_true_eq]

theorem without_append (files : HistoryDir) (first second : List HistoryFile) :
    without files (first ++ second) = without (without files first) second := by
  simp [without, List.foldl_append]

namespace Listing

variable {files : HistoryDir} {listing : List HistoryFile}

theorem filter (listed : Listing files listing) (keep : HistoryFile → Bool) :
    Listing files (listing.filter keep) :=
  ⟨fun file member => listed.listed file (List.mem_of_mem_filter member),
    listed.distinct.sublist List.filter_sublist⟩

theorem bytes_without (listed : Listing files listing) :
    historyDirBytes (without files listing) + (listing.map HistoryFile.size).sum =
      historyDirBytes files := by
  induction listing generalizing files with
  | nil => rfl
  | cons file rest ih =>
    have deleted := ih listed.erase
    have erased := (listed.listed file List.mem_cons_self).bytes_erase
    rw [List.map_cons, List.sum_cons]
    change historyDirBytes (without (files.erase file.path) rest) + _ = _
    omega

theorem lookup_without {path : String} (among : path ∈ listing.map HistoryFile.path) :
    (without files listing).lookup path = none := by
  have removed : ∀ (rest : List HistoryFile) (kept : HistoryDir),
      kept.lookup path = none → (without kept rest).lookup path = none := by
    intro rest
    induction rest with
    | nil => exact fun kept absent => absent
    | cons file rest ih =>
      intro kept absent
      refine ih (kept.erase file.path) ?_
      by_cases same : path = file.path
      · rw [same, AList.lookup_erase]
      · rw [AList.lookup_erase_ne same, absent]
  induction listing generalizing files with
  | nil => simp at among
  | cons file rest ih =>
    rcases List.mem_cons.mp among with rfl | among
    · exact removed rest _ (AList.lookup_erase _ _)
    · exact ih among

end Listing

theorem listing_earlierFiles (recordedAtUnixMs : Int) (files : HistoryDir) :
    Listing files (earlierFiles recordedAtUnixMs files) :=
  ((listing_historyFiles files).perm (List.mergeSort_perm _ _)).filter _

theorem bytes_without_earlierFiles (recordedAtUnixMs : Int) (files : HistoryDir) :
    historyDirBytes (without files (earlierFiles recordedAtUnixMs files)) =
      keptBytes recordedAtUnixMs files := by
  have deleted := (listing_earlierFiles recordedAtUnixMs files).bytes_without
  have split : ∀ listing : List HistoryFile,
      ((listing.filter fun file => dayBucket recordedAtUnixMs ≤ file.day).map HistoryFile.size).sum +
        ((listing.filter fun file => file.day < dayBucket recordedAtUnixMs).map
          HistoryFile.size).sum = (listing.map HistoryFile.size).sum := by
    intro listing
    induction listing with
    | nil => rfl
    | cons file rest ih =>
      by_cases kept : dayBucket recordedAtUnixMs ≤ file.day
      · simp only [List.filter_cons, kept, not_lt.mpr kept, decide_true, decide_false, if_true,
          Bool.false_eq_true, if_false, List.map_cons, List.sum_cons]
        omega
      · simp only [List.filter_cons, kept, not_le.mp kept, decide_true, decide_false, if_true,
          Bool.false_eq_true, if_false, List.map_cons, List.sum_cons]
        omega
  have sorted : ((earlierFiles recordedAtUnixMs files).map HistoryFile.size).sum =
      (((historyFilesWithSizesInDir files).filter fun file =>
        file.day < dayBucket recordedAtUnixMs).map HistoryFile.size).sum :=
    (((List.mergeSort_perm _ _).filter _).map _).sum_eq
  have whole := split (historyFilesWithSizesInDir files)
  unfold keptBytes
  unfold historyDirBytes at *
  omega

namespace HistoryStore

variable {store : HistoryStore}

theorem satAdd_le_maxDiskBytes {totalBytes incomingBytes : Nat} :
    satAdd totalBytes incomingBytes ≤ store.maxDiskBytes ↔
      totalBytes + incomingBytes ≤ store.maxDiskBytes := by
  have limit := store.bounded
  unfold satAdd u64Max
  omega

/-- The files that were deleted were the oldest, and each of them was in the way. -/
structure EvictsInOrder (store : HistoryStore) (incomingBytes : Nat) (files : HistoryDir)
    (earlier deleted : List HistoryFile) : Prop where
  front : deleted <+: earlier
  needed : ∀ shorter, shorter <+: deleted → shorter ≠ deleted →
    store.maxDiskBytes < historyDirBytes (without files shorter) + incomingBytes

theorem EvictsInOrder.nil {incomingBytes : Nat} {files : HistoryDir} {earlier : List HistoryFile} :
    EvictsInOrder store incomingBytes files earlier [] :=
  ⟨List.nil_prefix, fun _ front other => absurd (List.prefix_nil.mp front) other⟩

theorem EvictsInOrder.cons {incomingBytes : Nat} {files : HistoryDir} {file : HistoryFile}
    {earlier deleted : List HistoryFile}
    (full : store.maxDiskBytes < historyDirBytes files + incomingBytes)
    (rest : EvictsInOrder store incomingBytes (files.erase file.path) earlier deleted) :
    EvictsInOrder store incomingBytes files (file :: earlier) (file :: deleted) := by
  constructor
  · exact (List.prefix_cons_inj file).mpr rest.front
  · intro shorter prefixes other
    cases shorter with
    | nil => exact full
    | cons first shorter =>
      obtain ⟨rfl, inner⟩ := List.cons_prefix_cons.mp prefixes
      exact rest.needed shorter inner fun same => other (by rw [same])

/-- The loop stops with room, or when there is nothing left that it may delete. -/
theorem evict_deletes (recordedAtUnixMs : Int) (incomingBytes : Nat) (listing : List HistoryFile) :
    ∀ (totalBytes : Nat) (state : HistoryState), Listing state.files listing →
      totalBytes = historyDirBytes state.files →
      let earlier := listing.filter fun file => file.day < dayBucket recordedAtUnixMs
      let result := store.evict (dayBucket recordedAtUnixMs) incomingBytes (fun _ => false) listing
        totalBytes state
      ∃ deleted, result.2.files = without state.files deleted ∧
        EvictsInOrder store incomingBytes state.files earlier deleted ∧
        ((result.1 ≠ none ∧ historyDirBytes result.2.files + incomingBytes ≤ store.maxDiskBytes) ∨
          (result.1 = none ∧ deleted = earlier ∧
            store.maxDiskBytes < historyDirBytes result.2.files + incomingBytes)) := by
  induction listing with
  | nil =>
    intro totalBytes state _ total
    refine ⟨[], ?_, EvictsInOrder.nil, ?_⟩
    · unfold evict
      simp only
      split <;> rfl
    · unfold evict
      simp only
      split
      · rename_i full
        right
        refine ⟨rfl, rfl, ?_⟩
        rw [← not_le, satAdd_le_maxDiskBytes, not_le] at full
        exact total ▸ full
      · rename_i room
        left
        refine ⟨by simp, ?_⟩
        rw [not_lt, satAdd_le_maxDiskBytes] at room
        exact total ▸ room
  | cons file rest ih =>
    intro totalBytes state listed total
    unfold evict
    by_cases kept : dayBucket recordedAtUnixMs ≤ file.day
    · simp only [List.filter_cons, not_lt.mpr kept, decide_false, Bool.false_eq_true, if_false, kept,
        if_true]
      exact ih totalBytes state listed.tail total
    · simp only [List.filter_cons, not_le.mp kept, decide_true, if_true, kept, if_false,
        Bool.false_eq_true]
      split
      · rename_i room
        rw [satAdd_le_maxDiskBytes, total] at room
        exact ⟨[], rfl, EvictsInOrder.nil, .inl ⟨by simp, room⟩⟩
      · rename_i full
        rw [satAdd_le_maxDiskBytes, not_le, total] at full
        have erased := (listed.listed file List.mem_cons_self).bytes_erase
        obtain ⟨deleted, files, inOrder, outcome⟩ := ih (totalBytes - file.size)
          { state with files := state.files.erase file.path } listed.erase (by simp only; omega)
        refine ⟨file :: deleted, files, EvictsInOrder.cons full inOrder, ?_⟩
        rcases outcome with granted | ⟨refused, all, full⟩
        · exact .inl granted
        · exact .inr ⟨refused, by rw [all], full⟩

/-- Files are deleted only to make room that is then used, oldest first and no more than it takes. -/
def NotFutile (store : HistoryStore) (recordedAtUnixMs : Int) (incomingBytes : Nat)
    (before : HistoryDir) (decision : Option Nat) (after : HistoryDir) : Prop :=
  ∃ deleted, after = without before deleted ∧
    EvictsInOrder store incomingBytes before (earlierFiles recordedAtUnixMs before) deleted ∧
    (deleted ≠ [] → historyDirBytes after + incomingBytes ≤ store.maxDiskBytes) ∧
    (decision = none → deleted = [])

/-- The payload is refused by itself, or there is nothing to delete, or deleting can make room. -/
def RoomInReach (store : HistoryStore) (recordedAtUnixMs : Int) (incomingBytes : Nat)
    (files : HistoryDir) : Prop :=
  incomingBytes = 0 ∨ store.maxDiskBytes < incomingBytes ∨
    earlierFiles recordedAtUnixMs files = [] ∨
    keptBytes recordedAtUnixMs files + incomingBytes ≤ store.maxDiskBytes

theorem notFutile_unchanged {recordedAtUnixMs : Int} {incomingBytes : Nat} {files : HistoryDir}
    (decision : Option Nat) :
    NotFutile store recordedAtUnixMs incomingBytes files decision files :=
  ⟨[], rfl, EvictsInOrder.nil, fun some => absurd rfl some, fun _ => rfl⟩

theorem kept_of_granted {recordedAtUnixMs : Int} {incomingBytes : Nat} {files : HistoryDir}
    {deleted : List HistoryFile}
    (inOrder : EvictsInOrder store incomingBytes files (earlierFiles recordedAtUnixMs files) deleted)
    (room : historyDirBytes (without files deleted) + incomingBytes ≤ store.maxDiskBytes) :
    RoomInReach store recordedAtUnixMs incomingBytes files := by
  have kept := bytes_without_earlierFiles recordedAtUnixMs files
  -- What is never evicted is part of what was left.
  right; right; right
  obtain ⟨rest, whole⟩ := inOrder.front
  rw [← whole, without_append] at kept
  have part : Listing files (deleted ++ rest) := by
    rw [whole]
    exact listing_earlierFiles recordedAtUnixMs files
  have total := part.bytes_without
  have front : Listing files deleted :=
    ⟨fun file member => part.listed file (List.mem_append_left _ member),
      part.distinct.sublist (List.sublist_append_left _ _)⟩
  have deletedBytes := front.bytes_without
  rw [without_append, List.map_append, List.sum_append] at total
  omega

theorem without_earlierFiles_ne {recordedAtUnixMs : Int} {files : HistoryDir}
    (some : earlierFiles recordedAtUnixMs files ≠ []) :
    without files (earlierFiles recordedAtUnixMs files) ≠ files := by
  intro same
  obtain ⟨first, member⟩ := List.exists_mem_of_ne_nil _ some
  obtain ⟨content, present, -⟩ := ((mem_earlierFiles.mp member).1).content
  have absent := @Listing.lookup_without files _ first.path (List.mem_map_of_mem member)
  rw [same] at absent
  exact absurd (absent.symm.trans present) (by simp)

theorem notFutile_evict_iff {recordedAtUnixMs : Int} {incomingBytes : Nat} (state : HistoryState)
    (incoming : incomingBytes ≠ 0) (small : incomingBytes ≤ store.maxDiskBytes) :
    let result := store.evict (dayBucket recordedAtUnixMs) incomingBytes (fun _ => false)
      (sortHistoryFiles (historyFilesWithSizesInDir state.files)) (historyDirBytes state.files) state
    NotFutile store recordedAtUnixMs incomingBytes state.files result.1 result.2.files ↔
      RoomInReach store recordedAtUnixMs incomingBytes state.files := by
  have sorted : Listing state.files
      (sortHistoryFiles (historyFilesWithSizesInDir state.files)) :=
    (listing_historyFiles state.files).perm (List.mergeSort_perm _ _)
  obtain ⟨deleted, files, inOrder, outcome⟩ := @evict_deletes store recordedAtUnixMs
    incomingBytes _ _ state sorted rfl
  change EvictsInOrder _ _ _ (earlierFiles recordedAtUnixMs state.files) _ at inOrder
  have kept := bytes_without_earlierFiles recordedAtUnixMs state.files
  rcases outcome with ⟨granted, room⟩ | ⟨refused, all, full⟩
  · rw [files] at room
    refine iff_of_true ⟨deleted, files, inOrder, fun _ => ?_, fun none => absurd none granted⟩
      (kept_of_granted inOrder room)
    rw [files]
    exact room
  · change deleted = earlierFiles recordedAtUnixMs state.files at all
    rw [files, all, kept] at full
    by_cases none : earlierFiles recordedAtUnixMs state.files = []
    · refine iff_of_true ?_ (.inr (.inr (.inl none)))
      rw [files, all, none]
      exact notFutile_unchanged _
    · refine iff_of_false ?_ ?_
      · rintro ⟨other, same, -, -, nothing⟩
        rw [nothing refused, files, all] at same
        exact without_earlierFiles_ne none same
      · rintro (zero | large | empty | room)
        · exact incoming zero
        · omega
        · exact none empty
        · omega

theorem ensureDiskBudget_full {recordedAtUnixMs : Int} {incomingBytes : Nat}
    {state : HistoryState} (incoming : incomingBytes ≠ 0)
    (small : incomingBytes ≤ store.maxDiskBytes)
    (full : store.maxDiskBytes < historyDirBytes state.files + incomingBytes) :
    store.ensureDiskBudget recordedAtUnixMs incomingBytes {} state =
      some (store.evict (dayBucket recordedAtUnixMs) incomingBytes (fun _ => false)
        (sortHistoryFiles (historyFilesWithSizesInDir state.files)) (historyDirBytes state.files)
        { state with currentBytes := historyDirBytes state.files }) := by
  have noRoom : ¬ satAdd (historyDirBytes state.files) incomingBytes ≤ store.maxDiskBytes := by
    rw [satAdd_le_maxDiskBytes]
    omega
  unfold ensureDiskBudget
  rw [if_neg incoming, if_neg (by omega), if_neg (by simp)]
  exact if_neg noRoom

theorem ensureDiskBudget_keeps {recordedAtUnixMs : Int} {incomingBytes : Nat}
    {before after : HistoryState} {decision : Option Nat}
    (idle : incomingBytes = 0 ∨ store.maxDiskBytes < incomingBytes ∨
      historyDirBytes before.files + incomingBytes ≤ store.maxDiskBytes)
    (made : store.ensureDiskBudget recordedAtUnixMs incomingBytes {} before =
      some (decision, after)) : after.files = before.files := by
  unfold ensureDiskBudget at made
  split at made
  · cases made
    rfl
  · rename_i incoming
    split at made
    · cases made
      rfl
    · rename_i small
      rw [if_neg (by simp)] at made
      simp only at made
      rw [if_pos] at made
      · cases made
        rfl
      · rcases idle with zero | large | room
        · exact absurd zero incoming
        · exact absurd large small
        · exact satAdd_le_maxDiskBytes.mpr room

/-- While removals succeed, making room deletes nothing in vain exactly if room is in reach. -/
theorem no_futile_eviction_iff (store : HistoryStore) (recordedAtUnixMs : Int)
    (incomingBytes : Nat) (disk : HistoryDisk) (state : HistoryState) :
    (∀ decision after, store.ensureDiskBudget recordedAtUnixMs incomingBytes {}
        { state with files := disk.files } = some (decision, after) →
      NotFutile store recordedAtUnixMs incomingBytes disk.files decision after.files) ↔
    RoomInReach store recordedAtUnixMs incomingBytes disk.files := by
  by_cases idle : incomingBytes = 0 ∨ store.maxDiskBytes < incomingBytes ∨
      historyDirBytes disk.files + incomingBytes ≤ store.maxDiskBytes
  · refine iff_of_true ?_ ?_
    · intro decision after made
      rw [ensureDiskBudget_keeps idle made]
      exact notFutile_unchanged decision
    · rcases idle with zero | large | room
      · exact .inl zero
      · exact .inr (.inl large)
      · have kept := bytes_without_earlierFiles recordedAtUnixMs disk.files
        have deleted := (listing_earlierFiles recordedAtUnixMs disk.files).bytes_without
        exact .inr (.inr (.inr (by omega)))
  · simp only [not_or, not_lt, not_le] at idle
    obtain ⟨incoming, small, full⟩ := idle
    have evicted := @notFutile_evict_iff store recordedAtUnixMs _
      { state with files := disk.files, currentBytes := historyDirBytes disk.files } incoming small
    rw [ensureDiskBudget_full incoming small full]
    refine Iff.trans ?_ evicted
    constructor
    · exact fun sound => sound _ _ rfl
    · intro sound decision after made
      have same := congrArg (fun result => NotFutile store recordedAtUnixMs incomingBytes disk.files
        result.1 result.2.files) (Option.some.inj made)
      exact same.mp sound

/-- Ten bytes of today fill the budget, five of yesterday are older. -/
def fullDir : HistoryDir :=
  (AList.singleton "day-0.jsonl" (.file (List.replicate 5 0))).insert "day-1.jsonl"
    (.file (List.replicate 10 0))

def tightStore : HistoryStore :=
  { observer := ⟨"n", "s"⟩
    retentionDays := 7
    maxQuerySamples := 128
    maxDiskBytes := 10
    bounded := by decide }

/-- Yesterday is deleted for a byte of today, which is then dropped. -/
theorem fullDir_evicts_in_vain :
    ¬ ∀ decision after, tightStore.ensureDiskBudget 86400000 1 {}
        { new fullDir with files := fullDir } = some (decision, after) →
      NotFutile tightStore 86400000 1 fullDir decision after.files := by
  intro sound
  rw [ensureDiskBudget_full (by decide) (by decide) (by decide +kernel)] at sound
  have evicted := (@notFutile_evict_iff tightStore 86400000 _
    { new fullDir with files := fullDir, currentBytes := historyDirBytes fullDir }
    (by decide) (by decide)).mp (sound _ _ rfl)
  have yesterday : Listed fullDir ⟨0, "day-0.jsonl", 5⟩ :=
    ⟨by decide +kernel, List.replicate 5 0, by decide +kernel, rfl⟩
  rcases evicted with zero | large | none | room
  · exact absurd zero (by decide)
  · exact absurd large (by decide)
  · have member : _ ∈ earlierFiles 86400000 fullDir :=
      mem_earlierFiles.mpr ⟨yesterday, by decide +kernel⟩
    rw [none] at member
    cases member
  · exact absurd room (by decide +kernel)

end HistoryStore

end Moshwatch
