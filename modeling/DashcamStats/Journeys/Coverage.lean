import DashcamStats.Journeys.Cluster

namespace DashcamStats.Journeys

open Grouping Relation

def Near (gap : ℤ) (a b : Recording) : Prop :=
  a.startedAt ≤ b.ends + gap ∧ b.startedAt ≤ a.ends + gap

structure Components (gap : ℤ) (recordings : List Recording) (clusters : List (List Recording)) :
    Prop where
  whole : clusters.flatten = recordings
  filled : ∀ among ∈ clusters, among ≠ []
  boundary : ∀ before r after, recordings = before ++ r :: after → before ≠ [] →
    (Boundary clusters before ↔ ∀ earlier ∈ before, gap < r.startedAt - earlier.ends)
  connected : ∀ among ∈ clusters, ∀ a ∈ among, ∀ b ∈ among,
    ReflTransGen (fun x y => x ∈ among ∧ y ∈ among ∧ Near gap x y) a b
  apart : clusters.Pairwise fun earlier later => ∀ a ∈ earlier, ∀ b ∈ later, ¬ Near gap a b

variable {haversineM : ℚ → ℚ → ℚ → ℚ → ℚ} {clustering : Clustering} {recordings : List Recording}

theorem blocks_empty (availableEnd availableStart : ℤ) :
    (⟨[], []⟩ : IntentionalGapBarriers ℤ).blocks availableEnd availableStart = false := by
  simp [IntentionalGapBarriers.blocks, Bisect.bisectLeft, Bisect.bisectLoop]

theorem sameJourney_of_coverage (noGps : clustering.useGps = false)
    (noBarriers : ∀ barriers ∈ clustering.intentionalGaps, barriers = ⟨[], []⟩)
    (previous candidate : Recording) : sameJourney haversineM clustering previous candidate = false ↔
      clustering.gap < candidate.startedAt - previous.ends := by
  have passed : clustering.intentionalGaps.any (·.blocks previous.ends candidate.startedAt) = false := by
    cases barriers : clustering.intentionalGaps with
    | none => rfl
    | some given => rw [Option.any_some, noBarriers given barriers, blocks_empty]
  simp [sameJourney, passed, noGps]

theorem cluster_components (sorted : recordings.Pairwise fun a b => a.startedAt ≤ b.startedAt)
    (ended : ∀ r ∈ recordings, r.startedAt ≤ r.ends) (nonneg : 0 ≤ clustering.gap)
    (noGps : clustering.useGps = false)
    (noBarriers : ∀ barriers ∈ clustering.intentionalGaps, barriers = ⟨[], []⟩) :
    Components clustering.gap recordings (cluster haversineM clustering recordings) := by
  have apart := @sameJourney_of_coverage haversineM _ noGps noBarriers
  have flat : (cluster haversineM clustering recordings).flatten = recordings := groups_flatten _
  have boundary : ∀ before r after, recordings = before ++ r :: after → before ≠ [] →
      (Boundary (cluster haversineM clustering recordings) before ↔
        ∀ earlier ∈ before, clustering.gap < r.startedAt - earlier.ends) := by
    intro before r after split nonempty
    obtain ⟨f, remembered⟩ := @exists_furthest _ (latest Recording.ends) _ nonempty
    obtain ⟨member, last⟩ := furthest_mem remembered
    rw [cluster, boundary_iff split remembered, apart]
    constructor
    · intro late earlier among
      have before := last earlier among
      omega
    · exact fun late => late f member
  have founded : Founded (sameJourney haversineM clustering)
      (cluster haversineM clustering recordings) := by
    refine founded_iff.mpr fun older x newer r after f split remembered cut early _ _ => ?_
    -- one that is apart begins, and so ends, after all before it
    have late := (apart f x).mp cut
    have short := early x List.mem_cons_self
    have proper := ended x (by simp [split])
    omega
  have filled : ∀ among ∈ cluster haversineM clustering recordings, among ≠ [] :=
    fun among => ne_nil_of_mem_groups
  refine ⟨flat, filled, boundary, ?_, ?_⟩
  · intro among member
    have inside : ∀ x ∈ among, x ∈ recordings := fun x h => flat ▸ List.mem_flatten_of_mem member h
    have ordered : among.Pairwise fun a b => a.startedAt ≤ b.startedAt :=
      sorted.sublist (flat ▸ List.sublist_flatten_of_mem member)
    refine fun a first b second => founded_connected (founded among member) ?_ ?_ first second
    · exact fun x y ⟨first, second, near⟩ => ⟨second, first, near.2, near.1⟩
    · intro before r after split e early joined
      have close : ¬ clustering.gap < r.startedAt - e.ends := by
        rw [← apart, joined]
        decide
      have order : e.startedAt ≤ r.startedAt := by
        rw [split] at ordered
        exact (List.pairwise_append.mp ordered).2.2 e early r List.mem_cons_self
      have proper := ended r (inside r (by simp [split]))
      refine ⟨by simp [split, early], by simp [split], ?_, ?_⟩ <;> omega
  · refine List.pairwise_iff_getElem.mpr fun i j first second order a early b late near => ?_
    generalize whole : cluster haversineM clustering recordings = clusters at *
    obtain ⟨x, rest, begins⟩ := List.exists_cons_of_ne_nil
      (filled clusters[j] (List.getElem_mem second))
    have split : recordings = (clusters.take j).flatten ++ x :: (rest ++
        (clusters.drop (j + 1)).flatten) := by
      have parts := congrArg List.flatten (List.take_append_drop j clusters)
      rw [List.flatten_append, List.drop_eq_getElem_cons second, List.flatten_cons, begins,
        flat] at parts
      simpa using parts.symm
    have among : a ∈ (clusters.take j).flatten := by
      refine List.mem_flatten_of_mem ?_ early
      exact List.mem_take_iff_getElem.mpr ⟨i, by omega, rfl⟩
    have beyond := (boundary _ x _ split (List.ne_nil_of_mem among)).mp ⟨j, rfl⟩ a among
    have after : x.startedAt ≤ b.startedAt := by
      rw [begins] at late
      obtain rfl | later := List.mem_cons.mp late
      · exact le_rfl
      · rw [split] at sorted
        have tail := (List.pairwise_append.mp sorted).2.1
        exact (List.pairwise_cons.mp tail).1 b (List.mem_append_left _ later)
    have close := near.2
    omega

-- A front and a rear camera, and a clip within the hour of the first
theorem cluster_components_pair :
    Components 60 [⟨0, some 100, none, none⟩, ⟨10, none, none, none⟩, ⟨150, some 170, none, none⟩]
      (cluster (fun _ _ _ _ => 0) ⟨60, false, 0, none⟩
        [⟨0, some 100, none, none⟩, ⟨10, none, none, none⟩, ⟨150, some 170, none, none⟩]) :=
  @cluster_components (fun _ _ _ _ => 0) ⟨60, false, 0, none⟩ _ (by decide) (by decide) (by decide)
    rfl (by simp)

/-- A cluster goes on only with recordings close to one of its own, exactly if after a split whoever
is close to the recording that still extends furthest is close to one since. -/
theorem cluster_founded_iff :
    Founded (sameJourney haversineM clustering) (cluster haversineM clustering recordings) ↔
      Rejoins (sameJourney haversineM clustering) Recording.ends recordings :=
  founded_iff

def alongMeridian (lat₁ _ lat₂ _ : ℚ) : ℚ := max (lat₁ - lat₂) (lat₂ - lat₁) * 111195

/-- A long clip, then two shorter ones within it: the first of them begins some 105 m from the long
one, and the other where that one did. -/
theorem cluster_strays : ¬ ∀ (haversineM : ℚ → ℚ → ℚ → ℚ → ℚ) (clustering : Clustering)
    (recordings : List Recording), (clustering.useGps = true ∨ clustering.intentionalGaps.isSome) →
    (recordings.Pairwise fun a b => a.startedAt ≤ b.startedAt) →
      Founded (sameJourney haversineM clustering) (cluster haversineM clustering recordings) := by
  intro claim
  have founded := claim alongMeridian ⟨300000000, true, 100, none⟩
    [⟨0, some 180000000, some 0, some 0⟩, ⟨10000000, some 100000000, some (19 / 20000), some 0⟩,
      ⟨20000000, some 90000000, some 0, some 0⟩] (.inl rfl) (by decide)
    [⟨10000000, some 100000000, some (19 / 20000), some 0⟩,
      ⟨20000000, some 90000000, some 0, some 0⟩] (by decide +kernel)
    [⟨10000000, some 100000000, some (19 / 20000), some 0⟩] _ [] rfl (by simp)
  obtain ⟨e, member, joined⟩ := founded
  obtain rfl := List.mem_singleton.mp member
  revert joined
  decide +kernel

end DashcamStats.Journeys
