import AbrChin.Storefront.Dominance

/-!
# The public catalog is the undominated plans

What `filterDominatedPlans` keeps, without its loops: a plan is kept exactly when no plan of its
market dominates it and it comes first among the plans that are equal to it.  This says nothing
about the order of the input, and sorting what is kept leaves no trace of it either, because the
comparators tell plans with distinct ids apart.
-/

namespace AbrChin.Storefront.Dominance

open Lib

variable {Number Rest : Type} [LinearOrder Number] [Zero Number]
  {localeCompare : String → String → Ordering}
  {candidates : List (DominanceCandidate Number Rest)} {a b : DominanceCandidate Number Rest}

/-- The ids are told apart. -/
def DistinctIds (localeCompare : String → String → Ordering)
    (candidates : List (DominanceCandidate Number Rest)) : Prop :=
  candidates.Pairwise fun a b => localeCompare a.id b.id ≠ .eq

/-- Of two plans that are equal in resources and price, the first is fresher, or has the smaller
id. -/
def Preferred (localeCompare : String → String → Ordering) (a b : DominanceCandidate Number Rest) :
    Prop :=
  b.checkedAtMs < a.checkedAtMs ∨
    a.checkedAtMs = b.checkedAtMs ∧ localeCompare a.id b.id = .lt

/-! ## One market -/

omit [LinearOrder Number] [Zero Number] in
theorem preference_lt_iff (hprice : a.finalMonthlyPriceRial = b.finalMonthlyPriceRial) :
    compareDominancePreference localeCompare a b = .lt ↔ Preferred localeCompare a b := by
  unfold compareDominancePreference Preferred
  rw [compare_eq_iff_eq.2 hprice, Ordering.eq_then, Ordering.then_eq_lt, compare_lt_iff_lt,
    compare_eq_iff_eq, eq_comm]

section Collation

variable [Std.TransCmp localeCompare]

omit [LinearOrder Number] [Zero Number] in
theorem preferred_asymm (h : Preferred localeCompare a b) : ¬ Preferred localeCompare b a := by
  rintro (hfresh | ⟨htime, hid⟩)
  · rcases h with hfresh' | ⟨htime', -⟩
    · exact lt_asymm hfresh hfresh'
    · exact hfresh.ne htime'
  · rcases h with hfresh' | ⟨-, hid'⟩
    · exact hfresh'.ne htime
    · exact Std.OrientedCmp.not_lt_of_lt hid hid'

omit [LinearOrder Number] [Zero Number] in
theorem pairwise_preference {bucket : List (DominanceCandidate Number Rest)}
    (hids : DistinctIds localeCompare bucket) :
    (sortBy (compareDominancePreference localeCompare) bucket).Pairwise fun a b =>
      compareDominancePreference localeCompare a b = .lt := by
  have hsymm : Std.Symm fun a b : DominanceCandidate Number Rest =>
      localeCompare a.id b.id ≠ .eq := ⟨fun a b hne heq =>
    hne (by rw [@Std.OrientedCmp.eq_swap _ localeCompare _ a.id b.id, heq]; rfl)⟩
  have hids := ((sortBy_perm (compareDominancePreference localeCompare) bucket).pairwise_iff
    fun h => hsymm.symm _ _ h).2 hids
  refine (pairwise_sortBy (compareDominancePreference localeCompare) bucket).imp₂
    (fun a b hle hne => ?_) hids
  cases hcompare : compareDominancePreference localeCompare a b with
  | lt => rfl
  | eq =>
      unfold compareDominancePreference at hcompare
      exact absurd (Ordering.then_eq_eq.1 (Ordering.then_eq_eq.1 hcompare).2).2 hne
  | gt =>
      rw [hcompare] at hle
      cases hle

/-- The survivors of a market, without the pass. -/
theorem mem_marketSurvivors {bucket : List (DominanceCandidate Number Rest)}
    (hids : DistinctIds localeCompare bucket) :
    a ∈ marketSurvivors localeCompare bucket ↔ a ∈ bucket ∧ ∀ b ∈ bucket, AsGood a b →
      AsGood b a ∧ (b = a ∨ compareDominancePreference localeCompare a b = .lt) := by
  have hmem {b : DominanceCandidate Number Rest} :
      b ∈ sortBy (compareDominancePreference localeCompare) bucket ↔ b ∈ bucket :=
    (sortBy_perm (compareDominancePreference localeCompare) bucket).mem_iff
  have hasymm {a b : DominanceCandidate Number Rest}
      (h : compareDominancePreference localeCompare a b = .lt) :
      ¬ compareDominancePreference localeCompare b a = .lt :=
    @Std.OrientedCmp.not_lt_of_lt _ (fun a b => compareDominancePreference localeCompare a b)
      _ _ _ h
  have hfrontier := frontier_foldl AsGood.refl AsGood.trans (pairwise_preference hids)
  rw [marketSurvivors, hfrontier.mem_iff AsGood.trans hasymm]
  simp only [hmem]

/-! ## All markets -/

/-- The plans that a plan is compared with. -/
def market (candidates : List (DominanceCandidate Number Rest))
    (plan : DominanceCandidate Number Rest) : List (DominanceCandidate Number Rest) :=
  (eligiblePlans candidates).filter (dominanceMarketKey · = dominanceMarketKey plan)

theorem mem_market : b ∈ market candidates a ↔
    b ∈ candidates ∧ Eligible b ∧ dominanceMarketKey b = dominanceMarketKey a := by
  rw [market, List.mem_filter, mem_eligiblePlans, decide_eq_true_iff, and_assoc]

omit [Std.TransCmp localeCompare] in
theorem distinctIds_market (hids : DistinctIds localeCompare candidates) :
    DistinctIds localeCompare (market candidates a) :=
  hids.sublist (List.filter_sublist.trans List.filter_sublist)

omit [Std.TransCmp localeCompare] in
theorem mem_kept_iff_survives : a ∈ (filterDominatedPlans localeCompare candidates).kept ↔
    ∃ plan ∈ eligiblePlans candidates,
      a ∈ marketSurvivors localeCompare (market candidates plan) := by
  rw [kept_filterDominatedPlans, (sortBy_perm _ _).mem_iff, accounts_filtering.kept,
    List.nil_append, List.mem_flatMap]
  constructor
  · rintro ⟨bucket, hbucket, hmem⟩
    obtain ⟨plan, hplan, rfl⟩ := mem_groups.1 hbucket
    exact ⟨plan, hplan, hmem⟩
  · rintro ⟨plan, hplan, hmem⟩
    exact ⟨_, mem_groups.2 ⟨plan, hplan, rfl⟩, hmem⟩

/-- **What is kept, in terms of the order.** -/
theorem mem_kept_iff (hids : DistinctIds localeCompare candidates) :
    a ∈ (filterDominatedPlans localeCompare candidates).kept ↔
      a ∈ candidates ∧ Eligible a ∧ ∀ b ∈ market candidates a, AsGood a b →
        AsGood b a ∧ (b = a ∨ compareDominancePreference localeCompare a b = .lt) := by
  rw [mem_kept_iff_survives]
  constructor
  · rintro ⟨plan, -, hmem⟩
    obtain ⟨hplan, hbest⟩ := (mem_marketSurvivors (distinctIds_market hids)).1 hmem
    obtain ⟨ha, heligible, hkey⟩ := mem_market.1 hplan
    have hmarket : market candidates plan = market candidates a := by rw [market, market, hkey]
    exact ⟨ha, heligible, hmarket ▸ hbest⟩
  · rintro ⟨ha, heligible, hbest⟩
    exact ⟨a, mem_eligiblePlans.2 ⟨ha, heligible⟩, (mem_marketSurvivors
      (distinctIds_market hids)).2 ⟨mem_market.2 ⟨ha, heligible, rfl⟩, hbest⟩⟩

/-- **What is kept, in terms of the plans.** -/
theorem mem_kept_iff_undominated (hids : DistinctIds localeCompare candidates) :
    a ∈ (filterDominatedPlans localeCompare candidates).kept ↔
      a ∈ candidates ∧ Eligible a ∧ ∀ b ∈ market candidates a, planDominates b a = false ∧
        (resourcesEqual b a = true → b = a ∨ Preferred localeCompare a b) := by
  rw [mem_kept_iff hids]
  refine and_congr_right fun ha => and_congr_right fun heligible => ?_
  refine forall₂_congr fun b hb => ?_
  have hcomplete := (mem_market.1 hb).2.1.2
  rw [← equal_or_dominates_iff heligible.2 hcomplete, Bool.eq_false_iff, ne_eq,
    planDominates_iff hcomplete heligible.2]
  constructor
  · intro h
    refine ⟨fun hdominates => hdominates.2 (h (.inr hdominates)).1, fun hequal => ?_⟩
    have hprice := (resourcesEqual_iff hcomplete heligible.2).1 hequal
    exact (h (.inl hequal)).2.imp_right
      (preference_lt_iff (le_antisymm hprice.1.2.2.2 hprice.2.2.2.2)).1
  · rintro ⟨hnot, hfirst⟩ (hequal | hdominates)
    · have hboth := (resourcesEqual_iff hcomplete heligible.2).1 hequal
      exact ⟨hboth.1, (hfirst hequal).imp_right
        (preference_lt_iff (le_antisymm hboth.1.2.2.2 hboth.2.2.2.2)).2⟩
    · exact absurd hdominates hnot

/-- Every plan that takes part has a plan that is kept and is as good. -/
theorem exists_kept_asGood (hids : DistinctIds localeCompare candidates) (ha : a ∈ candidates)
    (heligible : Eligible a) : ∃ s ∈ (filterDominatedPlans localeCompare candidates).kept,
      dominanceMarketKey s = dominanceMarketKey a ∧ AsGood a s := by
  have hmem : a ∈ sortBy (compareDominancePreference localeCompare) (market candidates a) :=
    (sortBy_perm _ _).mem_iff.2 (mem_market.2 ⟨ha, heligible, rfl⟩)
  have hfrontier := frontier_foldl AsGood.refl AsGood.trans
    (pairwise_preference (distinctIds_market (a := a) hids))
  obtain ⟨s, hs, hgood⟩ := hfrontier.covered a hmem
  have hmarket := (sortBy_perm _ _).mem_iff.1 (hfrontier.subset s hs)
  exact ⟨s, mem_kept_iff_survives.2 ⟨a, mem_eligiblePlans.2 ⟨ha, heligible⟩, hs⟩,
    (mem_market.1 hmarket).2.2, hgood⟩

/-! ## The order of the input -/

omit [LinearOrder Number] [Zero Number] in
/-- Ids that are distinct are so in any order, and so are some of them. -/
theorem DistinctIds.perm {others : List (DominanceCandidate Number Rest)}
    (hids : DistinctIds localeCompare candidates) (rest : List String)
    (h : (others.map (·.id) ++ rest).Perm (candidates.map (·.id))) :
    DistinctIds localeCompare others := by
  have hsymm {first second : String} (hne : localeCompare first second ≠ .eq) :
      localeCompare second first ≠ .eq := fun heq =>
    hne (by rw [@Std.OrientedCmp.eq_swap _ localeCompare _ first second, heq]; rfl)
  have hmap : (candidates.map (·.id)).Pairwise fun first second =>
      localeCompare first second ≠ .eq := List.pairwise_map.2 hids
  exact List.pairwise_map.1 (List.pairwise_append.1 ((h.pairwise_iff hsymm).2 hmap)).1

omit [LinearOrder Number] [Zero Number] in
/-- The ids of the plans are distinct strings. -/
theorem nodup_ids (hids : DistinctIds localeCompare candidates) :
    (candidates.map (·.id)).Nodup :=
  List.pairwise_map.2 (hids.imp fun hne heq => hne (by rw [heq]; exact Std.ReflCmp.compare_self))

/-- The ids of what is kept and of what is removed are distinct. -/
theorem nodup_kept_removed (hids : DistinctIds localeCompare candidates) :
    ((filterDominatedPlans localeCompare candidates).kept.map (·.id) ++
      (filterDominatedPlans localeCompare candidates).removed.map (·.candidateId)).Nodup :=
  kept_removed_perm.nodup_iff.2 (nodup_ids hids)

/-- What is kept is sorted, so that the same plans come in the same order. -/
theorem kept_eq_of_mem_iff {others : List (DominanceCandidate Number Rest)}
    (hids : DistinctIds localeCompare candidates) (hids' : DistinctIds localeCompare others)
    (h : ∀ a, a ∈ (filterDominatedPlans localeCompare others).kept ↔
      a ∈ (filterDominatedPlans localeCompare candidates).kept) :
    (filterDominatedPlans localeCompare others).kept =
      (filterDominatedPlans localeCompare candidates).kept := by
  have hnodup {plans : List (DominanceCandidate Number Rest)}
      (hids : DistinctIds localeCompare plans) :
      (filterDominatedPlans localeCompare plans).kept.Nodup :=
    List.Nodup.of_map (·.id) (List.nodup_append.1 (nodup_kept_removed hids)).1
  have hsame : (filterDominatedPlans localeCompare others).kept.Perm
      (filterDominatedPlans localeCompare candidates).kept :=
    (List.perm_ext_iff_of_nodup (hnodup hids') (hnodup hids)).2 h
  -- what is kept has distinct ids, hence one sorted order
  have hkept : (filtering localeCompare others).kept.Perm
      (filtering localeCompare candidates).kept :=
    ((sortBy_perm (comparePublicCatalogOffers localeCompare) _).symm.trans hsame).trans
      (sortBy_perm _ _)
  rw [kept_filterDominatedPlans, kept_filterDominatedPlans]
  refine sortBy_eq_of_perm (fun a b => comparePublicCatalogOffers localeCompare a b) ?_ hkept
  have hdistinct : DistinctIds localeCompare (filtering localeCompare others).kept := by
    have hids : DistinctIds localeCompare (filterDominatedPlans localeCompare others).kept :=
      hids'.perm _ kept_removed_perm
    refine hids.perm [] ?_
    rw [List.append_nil]
    exact ((sortBy_perm (comparePublicCatalogOffers localeCompare)
      (filtering localeCompare others).kept).map (·.id)).symm
  refine hdistinct.imp fun hne heq => hne ?_
  unfold comparePublicCatalogOffers at heq
  simp only [Ordering.then_eq_eq] at heq
  exact heq.2.2.2.2

theorem kept_eq_of_perm {others : List (DominanceCandidate Number Rest)}
    (hids : DistinctIds localeCompare candidates) (h : candidates.Perm others) :
    (filterDominatedPlans localeCompare others).kept =
      (filterDominatedPlans localeCompare candidates).kept := by
  have hids' : DistinctIds localeCompare others :=
    hids.perm [] (by rw [List.append_nil]; exact (h.map (·.id)).symm)
  refine kept_eq_of_mem_iff hids hids' fun a => ?_
  simp only [mem_kept_iff hids', mem_kept_iff hids, mem_market, h.mem_iff]

/-- **Plans that are not kept may be left out**: what is kept stays as it is, whichever of the
others take part.  In particular the catalog of what is kept is what is kept. -/
theorem kept_eq_of_subset {others : List (DominanceCandidate Number Rest)}
    (hids : DistinctIds localeCompare candidates) (hids' : DistinctIds localeCompare others)
    (h : others ⊆ candidates)
    (hkept : (filterDominatedPlans localeCompare candidates).kept ⊆ others) :
    (filterDominatedPlans localeCompare others).kept =
      (filterDominatedPlans localeCompare candidates).kept := by
  refine kept_eq_of_mem_iff hids hids' fun a => ⟨fun ha => ?_, fun ha => ?_⟩
  · obtain ⟨hother, heligible, hbest⟩ := (mem_kept_iff hids').1 ha
    -- the plan that is kept for this one takes part
    obtain ⟨s, hs, hkey, hgood⟩ := exists_kept_asGood hids (h hother) heligible
    obtain ⟨-, hse, htop⟩ := (mem_kept_iff hids).1 hs
    obtain ⟨hback, rfl | hbefore⟩ := hbest s (mem_market.2 ⟨hkept hs, hse, hkey⟩) hgood
    · exact hs
    · obtain ⟨-, rfl | hafter⟩ := htop a (mem_market.2 ⟨h hother, heligible, hkey.symm⟩) hback
      · exact hs
      · exact absurd hafter (@Std.OrientedCmp.not_lt_of_lt _
          (fun a b => compareDominancePreference localeCompare a b) _ _ _ hbefore)
  · obtain ⟨-, heligible, hbest⟩ := (mem_kept_iff hids).1 ha
    refine (mem_kept_iff hids').2 ⟨hkept ha, heligible, fun b hb => hbest b ?_⟩
    obtain ⟨hb, hrest⟩ := mem_market.1 hb
    exact mem_market.2 ⟨h hb, hrest⟩

/-! ## The catalog -/

/-- **The public catalog is the undominated plans.**

Each candidate is kept or removed, once.  Kept plans of one market are neither equal nor does one
dominate another.  Kept is what no plan of its market dominates, and of plans that are equal in
resources and price exactly the preferred one.  What is removed as dominated or as a duplicate has a
kept plan that dominates it or is equal to it.  The order of the input does not matter. -/
theorem public_catalog_undominated (hids : DistinctIds localeCompare candidates) :
    ((filterDominatedPlans localeCompare candidates).kept.map (·.id) ++
      (filterDominatedPlans localeCompare candidates).removed.map (·.candidateId)).Perm
        (candidates.map (·.id)) ∧
    (∀ a ∈ (filterDominatedPlans localeCompare candidates).kept,
      ∀ b ∈ (filterDominatedPlans localeCompare candidates).kept,
        dominanceMarketKey a = dominanceMarketKey b → a ≠ b →
          resourcesEqual a b = false ∧ planDominates a b = false) ∧
    (∀ a, a ∈ (filterDominatedPlans localeCompare candidates).kept ↔
      a ∈ candidates ∧ Eligible a ∧ ∀ b ∈ candidates, Eligible b →
        dominanceMarketKey b = dominanceMarketKey a → planDominates b a = false ∧
          (resourcesEqual b a = true → b = a ∨ Preferred localeCompare a b)) ∧
    (∀ a ∈ candidates, Eligible a →
      (∀ b ∈ candidates, Eligible b → dominanceMarketKey b = dominanceMarketKey a →
        planDominates b a = false) →
      ∃ s ∈ (filterDominatedPlans localeCompare candidates).kept,
        dominanceMarketKey s = dominanceMarketKey a ∧ resourcesEqual s a = true) ∧
    (∀ removal ∈ (filterDominatedPlans localeCompare candidates).removed,
      removal.reason = .dominated ∨ removal.reason = .duplicateEqual →
      ∃ a ∈ candidates, a.id = removal.candidateId ∧ Eligible a ∧
        ∃ s ∈ (filterDominatedPlans localeCompare candidates).kept, s ≠ a ∧
          dominanceMarketKey s = dominanceMarketKey a ∧
          (planDominates s a = true ∨ resourcesEqual s a = true)) ∧
    ∀ others : List (DominanceCandidate Number Rest), candidates.Perm others →
      (filterDominatedPlans localeCompare others).kept =
        (filterDominatedPlans localeCompare candidates).kept := by
  have hundominated (a : DominanceCandidate Number Rest) :
      a ∈ (filterDominatedPlans localeCompare candidates).kept ↔
        a ∈ candidates ∧ Eligible a ∧ ∀ b ∈ candidates, Eligible b →
          dominanceMarketKey b = dominanceMarketKey a → planDominates b a = false ∧
            (resourcesEqual b a = true → b = a ∨ Preferred localeCompare a b) := by
    simp only [mem_kept_iff_undominated hids, mem_market, and_imp]
  refine ⟨kept_removed_perm, ?_, hundominated, ?_, ?_, fun others h => kept_eq_of_perm hids h⟩
  · intro a ha b hb hkey hne
    obtain ⟨ha', hae, hatop⟩ := (hundominated a).1 ha
    obtain ⟨hb', hbe, hbtop⟩ := (hundominated b).1 hb
    refine ⟨?_, (hbtop a ha' hae hkey).1⟩
    rw [Bool.eq_false_iff]
    intro hequal
    have hback := (resourcesEqual_iff hbe.2 hae.2).2
      ((resourcesEqual_iff hae.2 hbe.2).1 hequal).symm
    exact preferred_asymm (((hatop b hb' hbe hkey.symm).2 hback).resolve_left (Ne.symm hne))
      (((hbtop a ha' hae hkey).2 hequal).resolve_left hne)
  · intro a ha heligible htop
    obtain ⟨s, hs, hkey, hgood⟩ := exists_kept_asGood hids ha heligible
    obtain ⟨hs', hse, -⟩ := (hundominated s).1 hs
    refine ⟨s, hs, hkey, ?_⟩
    rcases (equal_or_dominates_iff heligible.2 hse.2).2 hgood with h | h
    · exact h
    · rw [htop s hs' hse hkey] at h
      cases h
  · intro removal hremoval hreason
    rcases accounts_filtering.removed removal hremoval with h | ⟨a, ha, hid⟩
    · -- what is screened has another reason
      obtain ⟨candidate, -, hscreen⟩ := List.mem_filterMap.1 h
      have hother := (screen_candidateId hscreen).2
      exact absurd hreason (not_or.2 hother)
    · obtain ⟨ha, heligible⟩ :=
        mem_eligiblePlans.1 ((flatten_groups_perm (eligiblePlans candidates)).mem_iff.1 ha)
      obtain ⟨s, hs, hkey, hgood⟩ := exists_kept_asGood hids ha heligible
      obtain ⟨-, hse, -⟩ := (hundominated s).1 hs
      refine ⟨a, ha, hid.symm, heligible, s, hs, ?_, hkey,
        ((equal_or_dominates_iff heligible.2 hse.2).2 hgood).symm⟩
      rintro rfl
      exact (List.nodup_append.1 (nodup_kept_removed hids)).2.2 _ (List.mem_map_of_mem hs) _
        (List.mem_map_of_mem hremoval) hid.symm

end Collation

def samplePlan (id : String) (vcpu : ℕ) (price checkedAtMs : ℤ) : DominanceCandidate ℕ Unit where
  id
  locationKey := "tehran"
  productKind := "CLOUD_SERVER"
  deliveryMode := "MANAGED"
  purchasable := true
  vcpu := some vcpu
  ramGb := some 4
  diskGb := some 50
  finalMonthlyPriceRial := price
  checkedAtMs
  rest := ()

/-- Two equal plans, one that they dominate, and one that is stronger and dearer. -/
def samplePlans : List (DominanceCandidate ℕ Unit) :=
  [samplePlan "a" 2 1000 1, samplePlan "b" 2 1000 2, samplePlan "c" 1 1200 3,
    samplePlan "d" 4 2000 1]

theorem kept_eq_of_subset_sample : (filterDominatedPlans compare
    (filterDominatedPlans compare samplePlans).kept).kept =
      (filterDominatedPlans compare samplePlans).kept := by
  have hids : DistinctIds compare samplePlans := by
    unfold DistinctIds
    decide +kernel
  exact kept_eq_of_subset hids (hids.perm _ kept_removed_perm)
    (fun _ ha => ((mem_kept_iff hids).1 ha).1) (List.Subset.refl _)

theorem public_catalog_undominated_sample :
    (filterDominatedPlans compare samplePlans).kept.map (·.id) = ["b", "d"] ∧
    (filterDominatedPlans compare samplePlans.reverse).kept =
      (filterDominatedPlans compare samplePlans).kept := by
  have hids : DistinctIds compare samplePlans := by
    unfold DistinctIds
    decide +kernel
  exact ⟨by decide +kernel,
    (public_catalog_undominated hids).2.2.2.2.2 _ (List.reverse_perm samplePlans).symm⟩

end AbrChin.Storefront.Dominance
