import Mathlib

namespace TimeSeries

variable {α : Type*} (time : α → Int)

/-- Replace the newest entry when it has the same time, append otherwise. -/
def upsert (entries : List α) (entry : α) : List α :=
  if entries.getLast?.any fun newest => time newest = time entry then entries.dropLast ++ [entry]
  else entries ++ [entry]

/-- Drop the oldest entries while they are more than `span` older than the newest one. -/
def trim (span : Int) (entries : List α) : List α :=
  match entries.getLast? with
  | none => entries
  | some newest => entries.dropWhile fun entry => time entry < time newest - span

/-- Entries of equal time that follow one another coalesced to the last of them. -/
def coalesce (entries : List α) : List α := entries.foldl (upsert time) []

def Increasing (entries : List α) : Prop := entries.Pairwise fun left right => time left < time right

def UpTo (bound : Int) (entries : List α) : Prop := ∀ entry ∈ entries, time entry ≤ bound

structure Past (now : Int) (entries : List α) : Prop where
  increasing : Increasing time entries
  older : UpTo time now entries

/-- An increasing series whose newest entry has the time `now`, and that reaches no further
    back than `span`. -/
structure EndsAt (span now : Int) (entries : List α) : Prop where
  increasing : Increasing time entries
  last : entries.getLast?.map time = some now
  within : ∀ entry ∈ entries, now - time entry ≤ span

variable {time}

theorem getLast?_upsert (entries : List α) (entry : α) :
    (upsert time entries entry).getLast? = some entry := by
  unfold upsert
  split <;> simp

theorem mem_of_mem_upsert {entries : List α} {entry item : α}
    (member : item ∈ upsert time entries entry) : item ∈ entries ∨ item = entry := by
  unfold upsert at member
  split at member
  · rcases List.mem_append.mp member with old | new
    · exact .inl (List.mem_of_mem_dropLast old)
    · exact .inr (List.mem_singleton.mp new)
  · rcases List.mem_append.mp member with old | new
    · exact .inl old
    · exact .inr (List.mem_singleton.mp new)

theorem Increasing.upTo_last {entries : List α} {newest : α} (increasing : Increasing time entries)
    (last : entries.getLast? = some newest) : UpTo time (time newest) entries := by
  obtain ⟨front, rfl⟩ := List.getLast?_eq_some_iff.mp last
  intro entry member
  rcases List.mem_append.mp member with old | new
  · exact ((List.pairwise_append.mp increasing).2.2 entry old newest (by simp)).le
  · rw [List.mem_singleton.mp new]

theorem Increasing.eq_of_time_eq {entries : List α} (increasing : Increasing time entries)
    {left right : α} (leftMember : left ∈ entries) (rightMember : right ∈ entries)
    (same : time left = time right) : left = right := by
  have distinct : (entries.map time).Nodup :=
    List.pairwise_map.mpr (increasing.imp fun earlier => ne_of_lt earlier)
  exact List.inj_on_of_nodup_map distinct leftMember rightMember same

theorem upsert_eq_filter {entries : List α} {entry : α} (increasing : Increasing time entries)
    (older : UpTo time (time entry) entries) :
    upsert time entries entry = (entries.filter fun item => time item ≠ time entry) ++ [entry] := by
  cases last : entries.getLast? with
  | none =>
    rw [List.getLast?_eq_none_iff] at last
    subst last
    rfl
  | some newest =>
    obtain ⟨front, rfl⟩ := List.getLast?_eq_some_iff.mp last
    have below : ∀ item ∈ front, time item < time newest := fun item member =>
      (List.pairwise_append.mp increasing).2.2 item member newest (by simp)
    have bound : time newest ≤ time entry := older newest (by simp)
    have kept : front.filter (fun item => time item ≠ time entry) = front := by
      rw [List.filter_eq_self]
      intro item member
      have := below item member
      simp only [ne_eq, decide_not, Bool.not_eq_eq_eq_not, Bool.not_true, decide_eq_false_iff_not]
      omega
    by_cases same : time newest = time entry
    · simp only [upsert, last, Option.any_some, same, decide_true, ↓reduceIte,
        List.dropLast_concat, List.filter_append, kept, List.filter_singleton]
      simp
    · simp only [upsert, last, Option.any_some, same, decide_false, Bool.false_eq_true, ↓reduceIte,
        List.filter_append, kept, List.filter_singleton, ne_eq, not_false_eq_true, decide_true]
      rfl

theorem Increasing.filter {entries : List α} (increasing : Increasing time entries)
    (keep : α → Bool) : Increasing time (entries.filter keep) :=
  increasing.sublist List.filter_sublist

theorem Increasing.upsert {entries : List α} {entry : α} (increasing : Increasing time entries)
    (older : UpTo time (time entry) entries) : Increasing time (upsert time entries entry) := by
  rw [upsert_eq_filter increasing older]
  refine List.pairwise_append.mpr ⟨increasing.filter _, List.pairwise_singleton _ _, ?_⟩
  intro item member new present
  rw [List.mem_singleton.mp present]
  obtain ⟨member, different⟩ := List.mem_filter.mp member
  have bound := older item member
  simp only [ne_eq, decide_not, Bool.not_eq_eq_eq_not, Bool.not_true, decide_eq_false_iff_not]
    at different
  omega

theorem UpTo.upsert {entries : List α} {entry : α} (older : UpTo time (time entry) entries) :
    UpTo time (time entry) (upsert time entries entry) := by
  intro item member
  rcases mem_of_mem_upsert member with old | rfl
  · exact older item old
  · exact le_refl _

theorem trim_sublist (span : Int) (entries : List α) : (trim time span entries).Sublist entries := by
  unfold trim
  split
  · exact List.Sublist.refl _
  · exact List.dropWhile_sublist _

theorem Increasing.trim {entries : List α} (increasing : Increasing time entries) (span : Int) :
    Increasing time (trim time span entries) := increasing.sublist (trim_sublist span entries)

theorem dropWhile_eq_filter {entries : List α} (increasing : Increasing time entries)
    (cutoff : Int) :
    (entries.dropWhile fun entry => time entry < cutoff) =
      entries.filter fun entry => cutoff ≤ time entry := by
  induction entries with
  | nil => rfl
  | cons entry rest ih =>
    obtain ⟨below, tail⟩ := List.pairwise_cons.mp increasing
    by_cases old : time entry < cutoff
    · rw [List.dropWhile_cons_of_pos (by simpa using old), ih tail,
        List.filter_cons_of_neg (by simpa using old)]
    · rw [List.dropWhile_cons_of_neg (by simpa using old), eq_comm, List.filter_eq_self]
      intro item member
      rcases List.mem_cons.mp member with rfl | member
      · simpa using old
      · have := below item member
        simp only [decide_eq_true_eq]
        omega

theorem trim_eq_filter {entries : List α} {newest : α} (increasing : Increasing time entries)
    (last : entries.getLast? = some newest) (span : Int) :
    trim time span entries = entries.filter fun entry => time newest - span ≤ time entry := by
  simp only [trim, last]
  exact dropWhile_eq_filter increasing _

theorem getLast?_trim {entries : List α} {newest : α} (increasing : Increasing time entries)
    (last : entries.getLast? = some newest) {span : Int} (positive : 0 ≤ span) :
    (trim time span entries).getLast? = some newest := by
  rw [trim_eq_filter increasing last]
  obtain ⟨front, rfl⟩ := List.getLast?_eq_some_iff.mp last
  have kept : decide (time newest - span ≤ time newest) = true := by
    simp only [decide_eq_true_eq]
    omega
  rw [List.filter_append, List.filter_singleton, kept]
  exact List.getLast?_concat

theorem trim_upsert_eq_filter {entries : List α} {entry : α} (increasing : Increasing time entries)
    (older : UpTo time (time entry) entries) {span : Int} (positive : 0 ≤ span) :
    trim time span (upsert time entries entry) =
      (entries.filter fun item => time item ≠ time entry ∧ time entry - span ≤ time item) ++
        [entry] := by
  rw [trim_eq_filter (increasing.upsert older) (getLast?_upsert entries entry),
    upsert_eq_filter increasing older, List.filter_append, List.filter_filter,
    List.filter_singleton]
  have kept : decide (time entry - span ≤ time entry) = true := by
    simp only [decide_eq_true_eq]
    omega
  rw [kept]
  congr 2
  funext item
  rw [Bool.and_comm, ← Bool.decide_and]

theorem trim_upsert_trim {entries : List α} {entry : α} (increasing : Increasing time entries)
    (older : UpTo time (time entry) entries) {span : Int} (positive : 0 ≤ span) :
    trim time span (upsert time (trim time span entries) entry) =
      trim time span (upsert time entries entry) := by
  have sub : (trim time span entries).Sublist entries := trim_sublist span entries
  have olderTrim : UpTo time (time entry) (trim time span entries) := fun item member =>
    older item (sub.subset member)
  rw [trim_upsert_eq_filter (increasing.trim span) olderTrim positive,
    trim_upsert_eq_filter increasing older positive]
  congr 1
  cases last : entries.getLast? with
  | none =>
    rw [List.getLast?_eq_none_iff] at last
    subst last
    rfl
  | some newest =>
    have bound : time newest ≤ time entry := older newest (List.mem_of_getLast? last)
    rw [trim_eq_filter increasing last, List.filter_filter]
    apply List.filter_congr
    intro item _
    simp only [← Bool.decide_and, decide_eq_decide]
    constructor
    · intro inside
      exact inside.1
    · intro inside
      exact ⟨inside, by omega⟩

theorem trim_concat (front : List α) (entry : α) {span : Int} (positive : 0 ≤ span) :
    trim time span (front ++ [entry]) =
      (front.dropWhile fun item => time item < time entry - span) ++ [entry] := by
  have kept : ([entry].dropWhile fun item => time item < time entry - span) = [entry] := by
    rw [List.dropWhile_cons_of_neg]
    simp only [decide_eq_true_eq]
    omega
  simp only [trim, List.getLast?_concat, List.dropWhile_append]
  split
  · rename_i allDropped
    rw [kept, List.isEmpty_iff.mp allDropped, List.nil_append]
  · rfl

theorem trim_upsert_eq_concat (entries : List α) (entry : α) {span : Int} (positive : 0 ≤ span) :
    trim time span (upsert time entries entry) =
      ((if entries.getLast?.any fun newest => time newest = time entry then entries.dropLast
        else entries).dropWhile fun item => time item < time entry - span) ++ [entry] := by
  have front : upsert time entries entry =
      (if entries.getLast?.any fun newest => time newest = time entry then entries.dropLast
        else entries) ++ [entry] := by
    unfold upsert
    split <;> rfl
  rw [front, trim_concat _ _ positive]

theorem Past.nil (now : Int) : Past time now [] :=
  ⟨List.Pairwise.nil, fun _ member => by cases member⟩

theorem Past.mono {early late : Int} {entries : List α} (past : Past time early entries)
    (later : early ≤ late) : Past time late entries :=
  ⟨past.increasing, fun entry member => (past.older entry member).trans later⟩

theorem EndsAt.within_last {span now : Int} {entries : List α} (ends : EndsAt time span now entries)
    {entry newest : α} (member : entry ∈ entries) (last : entries.getLast? = some newest) :
    time newest - time entry ≤ span := by
  have newestTime := ends.last
  rw [last, Option.map_some, Option.some.injEq] at newestTime
  rw [newestTime]
  exact ends.within entry member

theorem EndsAt.past {span now : Int} {entries : List α} (ends : EndsAt time span now entries) :
    Past time now entries := by
  obtain ⟨newest, last, same⟩ := Option.map_eq_some_iff.mp ends.last
  rw [← same]
  exact ⟨ends.increasing, ends.increasing.upTo_last last⟩

theorem Past.endsAt {now : Int} {entries : List α} {entry : α} (past : Past time now entries)
    (present : time entry = now) {span : Int} (positive : 0 ≤ span) :
    EndsAt time span now (trim time span (upsert time entries entry)) := by
  subst present
  have increasing := past.increasing.upsert past.older
  refine ⟨increasing.trim span, ?_, ?_⟩
  · rw [getLast?_trim increasing (getLast?_upsert entries entry) positive]
    rfl
  · intro item member
    rw [trim_eq_filter increasing (getLast?_upsert entries entry)] at member
    have kept := (List.mem_filter.mp member).2
    simp only [decide_eq_true_eq] at kept
    omega

theorem Past.mem_trim_upsert {now : Int} {entries : List α} {entry item : α}
    (past : Past time now entries) (present : time entry = now) {span : Int} (positive : 0 ≤ span) :
    item ∈ trim time span (upsert time entries entry) ↔
      (item ∈ entries ∧ time item ≠ now ∧ now - time item ≤ span) ∨ item = entry := by
  subst present
  rw [trim_upsert_eq_filter past.increasing past.older positive, List.mem_append,
    List.mem_filter, List.mem_singleton, decide_eq_true_eq]
  have bound : time entry - span ≤ time item ↔ time entry - time item ≤ span := by omega
  rw [bound]

theorem coalesce_concat (entries : List α) (entry : α) :
    coalesce time (entries ++ [entry]) = upsert time (coalesce time entries) entry := by
  simp [coalesce, List.foldl_append]

theorem mem_of_mem_coalesce {entries : List α} {item : α} (member : item ∈ coalesce time entries) :
    item ∈ entries := by
  induction entries using List.reverseRecOn with
  | nil => cases member
  | append_singleton entries entry ih =>
    rw [coalesce_concat] at member
    rcases mem_of_mem_upsert member with old | rfl
    · exact List.mem_append_left _ (ih old)
    · simp

theorem find?_reverse_eq_some {entries : List α} (increasing : Increasing time entries)
    {found : α → Bool} {entry : α} :
    entries.reverse.find? found = some entry ↔
      entry ∈ entries ∧ found entry = true ∧
        ∀ item ∈ entries, found item = true → time item ≤ time entry := by
  induction entries using List.reverseRecOn with
  | nil => simp
  | append_singleton entries newest ih =>
    obtain ⟨front, -, below⟩ := List.pairwise_append.mp increasing
    rw [List.reverse_append, List.reverse_singleton, List.singleton_append]
    by_cases hit : found newest = true
    · rw [List.find?_cons_of_pos hit]
      constructor
      · intro same
        rw [Option.some.injEq] at same
        subst same
        refine ⟨by simp, hit, ?_⟩
        intro item member _
        exact increasing.upTo_last List.getLast?_concat item member
      · intro ⟨member, _, latest⟩
        rcases List.mem_append.mp member with old | new
        · have := below entry old newest (by simp)
          have := latest newest (by simp) hit
          omega
        · rw [List.mem_singleton.mp new]
    · rw [List.find?_cons_of_neg hit, ih front]
      constructor
      · intro ⟨member, satisfied, latest⟩
        refine ⟨List.mem_append_left _ member, satisfied, ?_⟩
        intro item present holds
        rcases List.mem_append.mp present with old | new
        · exact latest item old holds
        · rw [List.mem_singleton.mp new] at holds
          exact absurd holds hit
      · intro ⟨member, satisfied, latest⟩
        rcases List.mem_append.mp member with old | new
        · exact ⟨old, satisfied, fun item present holds =>
            latest item (List.mem_append_left _ present) holds⟩
        · rw [List.mem_singleton.mp new] at satisfied
          exact absurd satisfied hit

end TimeSeries
