import Moshwatch.Metrics.Exposition

namespace Moshwatch

def MetricId.seriesName (id : MetricId) : String :=
  ((metricCatalog.find? fun descriptor => descriptor.id = id).map MetricDescriptor.name).getD ""

theorem metricCatalog_ids_nodup : (metricCatalog.map MetricDescriptor.id).Nodup := by
  decide +kernel

theorem mem_metricCatalog_ids (id : MetricId) : id ∈ metricCatalog.map MetricDescriptor.id := by
  cases id <;> decide +kernel

theorem seriesName_of_mem {descriptor : MetricDescriptor} (listed : descriptor ∈ metricCatalog) :
    descriptor.id.seriesName = descriptor.name := by
  have checked : (metricCatalog.all fun descriptor =>
      descriptor.id.seriesName == descriptor.name) = true := by decide +kernel
  exact beq_iff_eq.mp (List.all_eq_true.mp checked descriptor listed)

theorem seriesName_injective : Function.Injective MetricId.seriesName := by
  intro first second same
  obtain ⟨descriptor, listed, rfl⟩ := List.mem_map.mp (mem_metricCatalog_ids first)
  obtain ⟨other, otherListed, rfl⟩ := List.mem_map.mp (mem_metricCatalog_ids second)
  rw [seriesName_of_mem listed, seriesName_of_mem otherListed] at same
  rw [List.inj_on_of_nodup_map metricCatalog_names_nodup listed otherListed same]

def readSampleOf (entry : MetricId × MetricSample) : ReadSample :=
  { name := entry.1.seriesName, labels := entry.2.labels, value := entry.2.value }

theorem mapM_eq_some {α β : Type} {f : α → Option β} {g : α → β} {items : List α}
    (defined : ∀ item ∈ items, f item = some (g item)) : items.mapM f = some (items.map g) := by
  induction items with
  | nil => rfl
  | cons item items ih =>
    rw [List.mapM_cons, defined item List.mem_cons_self,
      ih fun other member => defined other (List.mem_cons_of_mem _ member)]
    rfl

def inCatalogOrder (samples : MetricSamples) : MetricSamples :=
  metricCatalog.flatMap fun descriptor => samples.filter fun entry => entry.1 = descriptor.id

theorem inCatalogOrder_perm (samples : MetricSamples) : (inCatalogOrder samples).Perm samples := by
  have covered := @Buckets.perm_flatMap_filter _ _ _ (Prod.fst : MetricId × MetricSample → MetricId)
    _ metricCatalog_ids_nodup samples fun entry _ => mem_metricCatalog_ids entry.1
  rw [List.flatMap_map] at covered
  exact covered

theorem series_eq_filter (samples : MetricSamples) (id : MetricId) :
    samples.series id = (samples.filter fun entry => entry.1 = id).map Prod.snd := by
  unfold MetricSamples.series
  induction samples with
  | nil => rfl
  | cons entry samples ih =>
    by_cases same : entry.1 = id <;> simp [same, ih]

section Render

variable {display : F64 → String} {parse : String → Option F64} {samples : MetricSamples}

theorem sampleLines_eq (readable : Readable display parse samples) (format : MetricsTextFormat) :
    sampleLines (renderMetricSamples display samples format).toList =
      (inCatalogOrder samples).map fun entry =>
        sampleLineChars display entry.1.seriesName entry.2 := by
  rw [sampleLines_render readable, inCatalogOrder, List.map_flatMap]
  refine List.flatMap_congr fun descriptor listed => ?_
  rw [series_eq_filter, List.map_map]
  refine List.map_congr_left fun entry member => ?_
  have same : entry.1 = descriptor.id := by simpa using (List.mem_filter.mp member).2
  rw [Function.comp_apply, same, seriesName_of_mem listed]

theorem readExposition_render (readable : Readable display parse samples)
    (format : MetricsTextFormat) :
    readExposition parse (renderMetricSamples display samples format) =
      some ((inCatalogOrder samples).map readSampleOf) := by
  rw [readExposition, sampleLines_eq readable, List.mapM_map]
  refine mapM_eq_some fun entry member => ?_
  have collected := (inCatalogOrder_perm samples).subset member
  obtain ⟨descriptor, listed, named⟩ := List.mem_map.mp (mem_metricCatalog_ids entry.1)
  have plainName : ∀ ch ∈ entry.1.seriesName.toList, isNameChar ch = true := by
    rw [← named, seriesName_of_mem listed]
    exact (metricCatalog_plain descriptor listed).named
  exact readSample_sampleLineChars plainName (readable.plain entry collected)
    (readable.shown entry collected)

end Render

end Moshwatch
