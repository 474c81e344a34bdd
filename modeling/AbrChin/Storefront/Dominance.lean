import AbrChin.Lib.Frontier
import AbrChin.Lib.Groups
import Mathlib.Data.List.Sort
import Mathlib.Algebra.Order.Group.Multiset
import Mathlib.Data.String.Basic
import Mathlib.Tactic.Abel

/-!
# Dominated plans

`lib/storefront/dominance.ts`: of the plans of one market, the public catalog shows those that no
other plan beats in resources and price.

A plan that is sorted later may drive out survivors of the same price, and plans may have been
removed as dominated by these, or as equal to them.  Each such plan is then dominated by the one
that drove them out; this is what `Frontier` carries through the pass.

The resources of a plan are numbers, of which only the order matters; the fields that the filter
does not read are `rest`.
-/

namespace AbrChin.Storefront.Dominance

open Lib

variable {Number Rest : Type} [LinearOrder Number] [Zero Number]

structure DominanceCandidate (Number Rest : Type) where
  id : String
  locationKey : String
  productKind : String
  deliveryMode : String
  purchasable : Bool
  vcpu : Option Number
  ramGb : Option Number
  diskGb : Option Number
  finalMonthlyPriceRial : ℤ
  checkedAtMs : ℤ
  rest : Rest

inductive DominanceRemovalReason where
  | dominated
  | duplicateEqual
  | incompleteResources
  | notPurchasable
  deriving DecidableEq

structure ComparedPlan (Number : Type) where
  vcpu : Option Number
  ramGb : Option Number
  diskGb : Option Number
  finalMonthlyPriceRial : String

structure Comparison (Number : Type) where
  survivorId : String
  removedId : String
  survivor : ComparedPlan Number
  removed : ComparedPlan Number

structure DominanceRemoval (Number : Type) where
  candidateId : String
  reason : DominanceRemovalReason
  dominatedById : Option String := none
  detail : String
  comparison : Option (Comparison Number) := none

structure Stats where
  rawCount : ℕ
  incompleteCount : ℕ
  notPurchasableCount : ℕ
  duplicateCount : ℕ
  dominatedCount : ℕ
  finalCount : ℕ

structure DominanceFilterResult (Number Rest : Type) where
  kept : List (DominanceCandidate Number Rest)
  removed : List (DominanceRemoval Number)
  stats : Stats

/-! ## Two plans -/

def dominanceMarketKey (candidate : DominanceCandidate Number Rest) : String :=
  "|".intercalate [candidate.locationKey, candidate.productKind, candidate.deliveryMode]

def hasCompleteResources (candidate : DominanceCandidate Number Rest) : Bool :=
  candidate.vcpu.any (0 < ·) && candidate.ramGb.any (0 < ·) && candidate.diskGb.any (0 < ·)

/-- In one market.  Resources that are not known are only read of complete plans. -/
def planDominates (a b : DominanceCandidate Number Rest) : Bool :=
  if !hasCompleteResources a || !hasCompleteResources b then false
  else
    let vcpuGe := b.vcpu.getD 0 ≤ a.vcpu.getD 0
    let ramGe := b.ramGb.getD 0 ≤ a.ramGb.getD 0
    let diskGe := b.diskGb.getD 0 ≤ a.diskGb.getD 0
    let priceLe := a.finalMonthlyPriceRial ≤ b.finalMonthlyPriceRial
    if ¬ (vcpuGe ∧ ramGe ∧ diskGe ∧ priceLe) then false
    else
      b.vcpu.getD 0 < a.vcpu.getD 0 || b.ramGb.getD 0 < a.ramGb.getD 0 ||
        b.diskGb.getD 0 < a.diskGb.getD 0 || a.finalMonthlyPriceRial < b.finalMonthlyPriceRial

def resourcesEqual (a b : DominanceCandidate Number Rest) : Bool :=
  a.vcpu = b.vcpu && a.ramGb = b.ramGb && a.diskGb = b.diskGb &&
    a.finalMonthlyPriceRial = b.finalMonthlyPriceRial

section Sorting

-- `a.localeCompare(b)`, in the locale of the process
variable (localeCompare : String → String → Ordering)

/-- Cheaper, then fresher, then by id. -/
def compareDominancePreference (a b : DominanceCandidate Number Rest) : Ordering :=
  (compare a.finalMonthlyPriceRial b.finalMonthlyPriceRial).then <|
    (compare b.checkedAtMs a.checkedAtMs).then (localeCompare a.id b.id)

/-- By price, memory, cores, disk and id. -/
def comparePublicCatalogOffers (a b : DominanceCandidate Number Rest) : Ordering :=
  (compare a.finalMonthlyPriceRial b.finalMonthlyPriceRial).then <|
    (compare (a.ramGb.getD 0) (b.ramGb.getD 0)).then <|
      (compare (a.vcpu.getD 0) (b.vcpu.getD 0)).then <|
        (compare (a.diskGb.getD 0) (b.diskGb.getD 0)).then (localeCompare a.id b.id)

/-- `Array.prototype.sort` is stable. -/
def sortBy {α : Type} (compare : α → α → Ordering) (elements : List α) : List α :=
  elements.insertionSort fun a b => (compare a b).isLE

/-! ## The filter -/

def ComparedPlan.of (plan : DominanceCandidate Number Rest) : ComparedPlan Number where
  vcpu := plan.vcpu
  ramGb := plan.ramGb
  diskGb := plan.diskGb
  finalMonthlyPriceRial := toString plan.finalMonthlyPriceRial

def comparisonPayload (survivor removed : DominanceCandidate Number Rest) : Comparison Number where
  survivorId := survivor.id
  removedId := removed.id
  survivor := .of survivor
  removed := .of removed

def notPurchasableRemoval (candidate : DominanceCandidate Number Rest) :
    DominanceRemoval Number where
  candidateId := candidate.id
  reason := .notPurchasable
  detail := "پلن برای فروش عمومی قابل خرید نیست."

def incompleteRemoval (candidate : DominanceCandidate Number Rest) : DominanceRemoval Number where
  candidateId := candidate.id
  reason := .incompleteResources
  detail := "منبع ناقص است و وارد Dominance نمی‌شود."

def duplicateRemoval (equalSurvivor candidate : DominanceCandidate Number Rest) :
    DominanceRemoval Number where
  candidateId := candidate.id
  reason := .duplicateEqual
  dominatedById := some equalSurvivor.id
  detail := "پلن کاملاً یکسان؛ ارزان‌ترین و تازه‌ترین قابل‌خرید نگه داشته شد."
  comparison := some (comparisonPayload equalSurvivor candidate)

def dominatedRemoval (dominator candidate : DominanceCandidate Number Rest) :
    DominanceRemoval Number where
  candidateId := candidate.id
  reason := .dominated
  dominatedById := some dominator.id
  detail := "پلن مغلوب: منابع برابر/ضعیف‌تر با قیمت نهایی برابر/گران‌تر."
  comparison := some (comparisonPayload dominator candidate)

/-- The variables of the loops: `survivors` are those of a market, `kept` those of the markets
before. -/
structure Filtering (Number Rest : Type) where
  survivors : List (DominanceCandidate Number Rest)
  kept : List (DominanceCandidate Number Rest)
  removed : List (DominanceRemoval Number)
  duplicateCount : ℕ
  dominatedCount : ℕ

/-- A candidate that purchasers cannot buy or that is not complete is removed. -/
def screen (candidate : DominanceCandidate Number Rest) : Option (DominanceRemoval Number) :=
  if !candidate.purchasable then some (notPurchasableRemoval candidate)
  else if !hasCompleteResources candidate then some (incompleteRemoval candidate)
  else none

/-- The candidate of one iteration. -/
def consider (state : Filtering Number Rest) (candidate : DominanceCandidate Number Rest) :
    Filtering Number Rest :=
  match state.survivors.find? fun s => resourcesEqual s candidate with
  | some equalSurvivor =>
      { state with
        removed := state.removed ++ [duplicateRemoval equalSurvivor candidate]
        duplicateCount := state.duplicateCount + 1 }
  | none =>
      match state.survivors.find? fun s => planDominates s candidate with
      | some dominator =>
          { state with
            removed := state.removed ++ [dominatedRemoval dominator candidate]
            dominatedCount := state.dominatedCount + 1 }
      | none =>
          -- the survivors that it dominates, from the last to the first
          let previous := (state.survivors.filter (planDominates candidate ·)).reverse
          { state with
            survivors := state.survivors.filter (!planDominates candidate ·) ++ [candidate]
            removed := state.removed ++ previous.map (dominatedRemoval candidate)
            dominatedCount := state.dominatedCount + previous.length }

/-- The candidates of one market. -/
def considerMarket (state : Filtering Number Rest)
    (bucket : List (DominanceCandidate Number Rest)) : Filtering Number Rest :=
  let filtered := (sortBy (compareDominancePreference localeCompare) bucket).foldl consider
    { state with survivors := [] }
  { filtered with kept := filtered.kept ++ filtered.survivors }

def filterDominatedPlans (candidates : List (DominanceCandidate Number Rest)) :
    DominanceFilterResult Number Rest :=
  let eligible := candidates.filter fun candidate => (screen candidate).isNone
  let filtered := (groups dominanceMarketKey eligible).foldl (considerMarket localeCompare)
    ⟨[], [], candidates.filterMap screen, 0, 0⟩
  { kept := sortBy (comparePublicCatalogOffers localeCompare) filtered.kept
    removed := filtered.removed
    stats := {
      rawCount := candidates.length
      incompleteCount := (candidates.filter fun candidate =>
        candidate.purchasable && !hasCompleteResources candidate).length
      notPurchasableCount := (candidates.filter fun candidate => !candidate.purchasable).length
      duplicateCount := filtered.duplicateCount
      dominatedCount := filtered.dominatedCount
      finalCount := filtered.kept.length } }

end Sorting

variable {a b c candidate : DominanceCandidate Number Rest}

/-! ## The order of plans -/

/-- `b` has at least the resources of `a`, and costs at most as much. -/
def AsGood (a b : DominanceCandidate Number Rest) : Prop :=
  a.vcpu.getD 0 ≤ b.vcpu.getD 0 ∧ a.ramGb.getD 0 ≤ b.ramGb.getD 0 ∧
    a.diskGb.getD 0 ≤ b.diskGb.getD 0 ∧ b.finalMonthlyPriceRial ≤ a.finalMonthlyPriceRial

instance : DecidableRel fun a b : DominanceCandidate Number Rest => AsGood a b :=
  fun _ _ => inferInstanceAs (Decidable (_ ∧ _))

theorem AsGood.refl (a : DominanceCandidate Number Rest) : AsGood a a :=
  ⟨le_rfl, le_rfl, le_rfl, le_rfl⟩

theorem AsGood.trans (hab : AsGood a b) (hbc : AsGood b c) : AsGood a c :=
  ⟨hab.1.trans hbc.1, hab.2.1.trans hbc.2.1, hab.2.2.1.trans hbc.2.2.1, hbc.2.2.2.trans hab.2.2.2⟩

/-- To dominate is to be as good and not only equally good. -/
theorem planDominates_iff (ha : hasCompleteResources a = true)
    (hb : hasCompleteResources b = true) :
    planDominates a b = true ↔ AsGood b a ∧ ¬ AsGood a b := by
  unfold planDominates AsGood
  simp only [ha, hb, Bool.not_true, Bool.or_self, Bool.false_eq_true, if_false]
  split_ifs with hgood
  · simp only [Bool.or_eq_true, decide_eq_true_eq, hgood, true_and, and_self, not_and_or, not_le,
      or_assoc]
  · simp only [false_iff]
    exact fun h => hgood h.1

/-- Complete plans have their resources. -/
theorem eq_getD_of_complete (h : hasCompleteResources a = true) :
    a.vcpu = some (a.vcpu.getD 0) ∧ a.ramGb = some (a.ramGb.getD 0) ∧
      a.diskGb = some (a.diskGb.getD 0) := by
  have hsome {value : Option Number} (h : value.any (0 < ·) = true) :
      value = some (value.getD 0) := by
    cases value with
    | none => cases h
    | some value => rfl
  unfold hasCompleteResources at h
  rw [Bool.and_eq_true, Bool.and_eq_true] at h
  exact ⟨hsome h.1.1, hsome h.1.2, hsome h.2⟩

theorem resourcesEqual_iff (ha : hasCompleteResources a = true)
    (hb : hasCompleteResources b = true) :
    resourcesEqual a b = true ↔ AsGood a b ∧ AsGood b a := by
  obtain ⟨hvcpu, hram, hdisk⟩ := eq_getD_of_complete ha
  obtain ⟨hvcpu', hram', hdisk'⟩ := eq_getD_of_complete hb
  unfold resourcesEqual AsGood
  rw [hvcpu, hram, hdisk, hvcpu', hram', hdisk']
  simp only [Bool.and_eq_true, decide_eq_true_eq, Option.some.injEq, Option.getD_some]
  constructor
  · rintro ⟨⟨⟨h1, h2⟩, h3⟩, h4⟩
    exact ⟨⟨h1.le, h2.le, h3.le, h4.ge⟩, ⟨h1.ge, h2.ge, h3.ge, h4.le⟩⟩
  · rintro ⟨⟨h1, h2, h3, h4⟩, ⟨h1', h2', h3', h4'⟩⟩
    exact ⟨⟨⟨le_antisymm h1 h1', le_antisymm h2 h2'⟩, le_antisymm h3 h3'⟩, le_antisymm h4' h4⟩

/-- A plan that is as good is equal or dominates. -/
theorem equal_or_dominates_iff (ha : hasCompleteResources a = true)
    (hb : hasCompleteResources b = true) :
    resourcesEqual b a = true ∨ planDominates b a = true ↔ AsGood a b := by
  rw [resourcesEqual_iff hb ha, planDominates_iff hb ha]
  constructor
  · rintro (h | h)
    · exact h.2
    · exact h.1
  · intro h
    by_cases hback : AsGood b a
    · exact .inl ⟨hback, h⟩
    · exact .inr ⟨h, hback⟩

/-! ## Sorting -/

section Collation

variable {localeCompare : String → String → Ordering} [Std.TransCmp localeCompare]

theorem transCmp_on {α β : Type} {cmp : β → β → Ordering} [Std.TransCmp cmp] (f : α → β) :
    Std.TransCmp fun a b => cmp (f a) (f b) where
  eq_swap {a b} := @Std.OrientedCmp.eq_swap _ cmp _ (f a) (f b)
  isLE_trans {a b c} := @Std.TransCmp.isLE_trans _ cmp _ (f a) (f b) (f c)

instance : Std.TransCmp fun a b : DominanceCandidate Number Rest =>
    compareDominancePreference localeCompare a b :=
  have _hid := @transCmp_on _ _ localeCompare _ fun a : DominanceCandidate Number Rest => a.id
  have _hfresh : Std.TransCmp fun a b : DominanceCandidate Number Rest =>
      compare b.checkedAtMs a.checkedAtMs :=
    @Std.TransCmp.opposite _ (compareOn DominanceCandidate.checkedAtMs) _
  inferInstanceAs (Std.TransCmp (compareLex (compareOn DominanceCandidate.finalMonthlyPriceRial)
    (compareLex (fun a b => compare b.checkedAtMs a.checkedAtMs)
      fun a b => localeCompare a.id b.id)))

instance : Std.TransCmp fun a b : DominanceCandidate Number Rest =>
    comparePublicCatalogOffers localeCompare a b :=
  have _hid := @transCmp_on _ _ localeCompare _ fun a : DominanceCandidate Number Rest => a.id
  inferInstanceAs (Std.TransCmp (compareLex (compareOn DominanceCandidate.finalMonthlyPriceRial)
    (compareLex (compareOn fun a => a.ramGb.getD 0) (compareLex (compareOn fun a => a.vcpu.getD 0)
      (compareLex (compareOn fun a => a.diskGb.getD 0) fun a b => localeCompare a.id b.id)))))

theorem sortBy_perm {α : Type} (cmp : α → α → Ordering) (elements : List α) :
    (sortBy cmp elements).Perm elements :=
  List.perm_insertionSort _ _

theorem pairwise_sortBy {α : Type} (cmp : α → α → Ordering) [Std.TransCmp cmp]
    (elements : List α) : (sortBy cmp elements).Pairwise fun a b => (cmp a b).isLE := by
  have htotal : Std.Total fun a b => ((cmp a b).isLE : Prop) := ⟨fun a b => by
    rw [@Std.OrientedCmp.eq_swap _ cmp _ b a]
    cases cmp a b with
    | lt => exact .inl rfl
    | eq => exact .inl rfl
    | gt => exact .inr rfl⟩
  have htrans : IsTrans α fun a b => ((cmp a b).isLE : Prop) :=
    ⟨fun a b c => Std.TransCmp.isLE_trans⟩
  exact List.pairwise_insertionSort (fun a b => ((cmp a b).isLE : Prop)) elements

/-- Elements that the comparison tells apart have only one sorted order. -/
theorem sortBy_eq_of_perm {α : Type} (cmp : α → α → Ordering) [Std.TransCmp cmp]
    {elements elements' : List α} (hdistinct : elements.Pairwise fun a b => cmp a b ≠ .eq)
    (h : elements.Perm elements') : sortBy cmp elements = sortBy cmp elements' := by
  have hsymm : Std.Symm fun a b => cmp a b ≠ .eq := ⟨fun a b hne heq =>
    hne (by rw [@Std.OrientedCmp.eq_swap _ cmp _ a b, heq]; rfl)⟩
  refine List.Perm.eq_of_pairwise (fun a b ha hb hab hba => ?_) (pairwise_sortBy cmp elements)
    (pairwise_sortBy cmp elements') (((sortBy_perm cmp elements).trans h).trans
      (sortBy_perm cmp elements').symm)
  by_contra hne
  refine hdistinct.forall ((sortBy_perm cmp elements).mem_iff.1 ha)
    (h.mem_iff.2 ((sortBy_perm cmp elements').mem_iff.1 hb)) hne ?_
  exact Std.OrientedCmp.isLE_antisymm hab hba

end Collation

/-! ## One market -/

variable {state : Filtering Number Rest}

/-- **The pass is the pass over a preorder.** -/
theorem survivors_consider (hcandidate : hasCompleteResources candidate = true)
    (hsurvivors : ∀ s ∈ state.survivors, hasCompleteResources s = true) :
    (consider state candidate).survivors =
      keepBest (fun a b => AsGood a b) state.survivors candidate := by
  unfold consider keepBest
  cases hequal : state.survivors.find? fun s => resourcesEqual s candidate with
  | some equalSurvivor =>
      have hmem := List.mem_of_find?_eq_some hequal
      have hholds := List.find?_some hequal
      have hgood := (equal_or_dominates_iff hcandidate (hsurvivors _ hmem)).1
        (.inl hholds)
      rw [if_pos ⟨equalSurvivor, hmem, hgood⟩]
  | none =>
      cases hdominator : state.survivors.find? fun s => planDominates s candidate with
      | some dominator =>
          have hmem := List.mem_of_find?_eq_some hdominator
          have hholds := List.find?_some hdominator
          have hgood := (equal_or_dominates_iff hcandidate (hsurvivors _ hmem)).1
            (.inr hholds)
          rw [if_pos ⟨dominator, hmem, hgood⟩]
      | none =>
          have hnone : ∀ s ∈ state.survivors, ¬ AsGood candidate s := by
            intro s hs hgood
            rcases (equal_or_dominates_iff hcandidate (hsurvivors s hs)).2 hgood with h | h
            · exact List.find?_eq_none.1 hequal s hs h
            · exact List.find?_eq_none.1 hdominator s hs h
          rw [if_neg fun ⟨s, hs, hgood⟩ => hnone s hs hgood]
          show state.survivors.filter (!planDominates candidate ·) ++ [candidate] = _
          congr 1
          refine List.filter_congr fun s hs => ?_
          rw [Bool.eq_iff_iff, Bool.not_eq_true', decide_eq_true_iff, Bool.eq_false_iff, ne_eq,
            planDominates_iff hcandidate (hsurvivors s hs)]
          exact not_congr (and_iff_left (hnone s hs))

/-- Every candidate is a survivor or removed, once. -/
structure Accounts (processed : List (DominanceCandidate Number Rest))
    (state final : Filtering Number Rest) : Prop where
  kept : final.kept = state.kept
  once : (final.survivors.map (·.id) ++ final.removed.map (·.candidateId)).Perm
    (processed.map (·.id) ++ (state.survivors.map (·.id) ++ state.removed.map (·.candidateId)))
  removed : ∀ removal ∈ final.removed, removal ∈ state.removed ∨
    ∃ plan ∈ processed ++ state.survivors, removal.candidateId = plan.id

theorem accounts_consider (state : Filtering Number Rest)
    (candidate : DominanceCandidate Number Rest) :
    Accounts [candidate] state (consider state candidate) := by
  unfold consider
  split
  · rename_i equalSurvivor _
    refine ⟨rfl, ?_, fun removal hremoval => ?_⟩
    · simp only [List.map_append, List.map_cons, List.map_nil, ← List.append_assoc]
      exact List.perm_append_comm
    · rcases List.mem_append.1 hremoval with hremoval | hremoval
      · exact .inl hremoval
      · rw [List.mem_singleton.1 hremoval]
        exact .inr ⟨candidate, by simp, rfl⟩
  · split
    · rename_i dominator _
      refine ⟨rfl, ?_, fun removal hremoval => ?_⟩
      · simp only [List.map_append, List.map_cons, List.map_nil, ← List.append_assoc]
        exact List.perm_append_comm
      · rcases List.mem_append.1 hremoval with hremoval | hremoval
        · exact .inl hremoval
        · rw [List.mem_singleton.1 hremoval]
          exact .inr ⟨candidate, by simp, rfl⟩
    · refine ⟨rfl, ?_, fun removal hremoval => ?_⟩
      · have hsplit := (List.filter_append_perm (planDominates candidate ·) state.survivors).map
          (·.id)
        have hids : (((state.survivors.filter (planDominates candidate ·)).reverse.map
            (dominatedRemoval candidate)).map (·.candidateId)).Perm
            ((state.survivors.filter (planDominates candidate ·)).map (·.id)) := by
          rw [List.map_map]
          exact (List.reverse_perm _).map _
        rw [← Multiset.coe_eq_coe] at hsplit hids ⊢
        simp only [List.map_append, List.map_cons, List.map_nil, ← Multiset.coe_add]
          at hsplit hids ⊢
        rw [hids, ← hsplit]
        abel
      · rcases List.mem_append.1 hremoval with hremoval | hremoval
        · exact .inl hremoval
        · obtain ⟨previous, hprevious, rfl⟩ := List.mem_map.1 hremoval
          have hmem := (List.mem_filter.1 (List.mem_reverse.1 hprevious)).1
          exact .inr ⟨previous, List.mem_append_right _ hmem, rfl⟩

omit [LinearOrder Number] [Zero Number] in
theorem Accounts.trans {first second : List (DominanceCandidate Number Rest)}
    {middle final : Filtering Number Rest} (h : Accounts first state middle)
    (h' : Accounts second middle final)
    (hsurvivors : ∀ s ∈ middle.survivors, s ∈ first ++ state.survivors) :
    Accounts (first ++ second) state final := by
  refine ⟨h'.kept.trans h.kept, h'.once.trans ?_, fun removal hremoval => ?_⟩
  · have honce := h.once
    rw [← Multiset.coe_eq_coe] at honce ⊢
    simp only [List.map_append, ← Multiset.coe_add] at honce ⊢
    rw [honce]
    abel
  · rcases h'.removed removal hremoval with hremoval | ⟨plan, hplan, hid⟩
    · rcases h.removed removal hremoval with hremoval | ⟨plan, hplan, hid⟩
      · exact .inl hremoval
      · exact .inr ⟨plan, by grind, hid⟩
    · exact .inr ⟨plan, by grind, hid⟩

theorem mem_survivors_consider {plan : DominanceCandidate Number Rest}
    (h : plan ∈ (consider state candidate).survivors) : plan ∈ [candidate] ++ state.survivors := by
  unfold consider at h
  split at h
  · exact List.mem_append_right _ h
  · split at h
    · exact List.mem_append_right _ h
    · rcases List.mem_append.1 h with h | h
      · exact List.mem_append_right _ (List.mem_filter.1 h).1
      · exact List.mem_append_left _ h

/-- The loop over the candidates of a market. -/
theorem accounts_foldl (plans : List (DominanceCandidate Number Rest)) :
    ∀ state : Filtering Number Rest, Accounts plans state (plans.foldl consider state) := by
  induction plans with
  | nil =>
      intro state
      exact ⟨rfl, .rfl, fun removal hremoval => .inl hremoval⟩
  | cons plan plans ih =>
      intro state
      exact (accounts_consider state plan).trans (ih (consider state plan))
        fun s hs => mem_survivors_consider hs

theorem survivors_foldl (plans : List (DominanceCandidate Number Rest)) :
    ∀ state : Filtering Number Rest, (∀ plan ∈ plans, hasCompleteResources plan = true) →
      (∀ s ∈ state.survivors, hasCompleteResources s = true) →
      (plans.foldl consider state).survivors =
        plans.foldl (keepBest fun a b => AsGood a b) state.survivors := by
  induction plans with
  | nil => exact fun _ _ _ => rfl
  | cons plan plans ih =>
      intro state hplans hsurvivors
      have hplan := hplans plan List.mem_cons_self
      rw [List.foldl_cons, List.foldl_cons, ← survivors_consider hplan hsurvivors]
      refine ih (consider state plan) (fun other hother => hplans other
        (List.mem_cons_of_mem _ hother)) fun s hs => ?_
      rcases List.mem_append.1 (mem_survivors_consider hs) with hs | hs
      · rw [List.mem_singleton.1 hs]
        exact hplan
      · exact hsurvivors s hs

section Markets

variable (localeCompare : String → String → Ordering)

/-- What survives of one market. -/
def marketSurvivors (bucket : List (DominanceCandidate Number Rest)) :
    List (DominanceCandidate Number Rest) :=
  (sortBy (compareDominancePreference localeCompare) bucket).foldl
    (keepBest fun a b => AsGood a b) []

/-- After some markets: what survives of them is kept, and everything else of them is removed. -/
structure MarketAccounts (buckets : List (List (DominanceCandidate Number Rest)))
    (state final : Filtering Number Rest) : Prop where
  kept : final.kept = state.kept ++ buckets.flatMap (marketSurvivors localeCompare)
  once : (final.kept.map (·.id) ++ final.removed.map (·.candidateId)).Perm
    (buckets.flatten.map (·.id) ++ (state.kept.map (·.id) ++ state.removed.map (·.candidateId)))
  removed : ∀ removal ∈ final.removed, removal ∈ state.removed ∨
    ∃ plan ∈ buckets.flatten, removal.candidateId = plan.id

theorem accounts_considerMarket (state : Filtering Number Rest)
    {bucket : List (DominanceCandidate Number Rest)}
    (hbucket : ∀ plan ∈ bucket, hasCompleteResources plan = true) :
    MarketAccounts localeCompare [bucket] state (considerMarket localeCompare state bucket) := by
  have hperm := sortBy_perm (compareDominancePreference localeCompare) bucket
  have haccounts := accounts_foldl (sortBy (compareDominancePreference localeCompare) bucket)
    { state with survivors := [] }
  have hsurvivors := survivors_foldl (sortBy (compareDominancePreference localeCompare) bucket)
    { state with survivors := [] } (fun plan hplan => hbucket plan (hperm.mem_iff.1 hplan))
    fun s hs => nomatch hs
  refine ⟨?_, ?_, fun removal hremoval => ?_⟩
  · unfold considerMarket
    simp only [haccounts.kept, hsurvivors, List.flatMap_cons, List.flatMap_nil, List.append_nil]
    rfl
  · have honce := haccounts.once
    have hids := hperm.map (·.id)
    unfold considerMarket
    simp only [haccounts.kept, List.flatten_cons, List.flatten_nil, List.append_nil]
    rw [← Multiset.coe_eq_coe] at honce hids ⊢
    simp only [List.map_append, List.map_nil, List.nil_append, ← Multiset.coe_add] at honce hids ⊢
    rw [add_assoc, honce, hids]
    abel
  · rcases haccounts.removed removal hremoval with h | ⟨plan, hplan, hid⟩
    · exact .inl h
    · rw [List.append_nil] at hplan
      exact .inr ⟨plan, by simpa using hperm.mem_iff.1 hplan, hid⟩

/-- The loop over the markets. -/
theorem accounts_markets (buckets : List (List (DominanceCandidate Number Rest))) :
    ∀ state : Filtering Number Rest,
      (∀ bucket ∈ buckets, ∀ plan ∈ bucket, hasCompleteResources plan = true) →
      MarketAccounts localeCompare buckets state
        (buckets.foldl (considerMarket localeCompare) state) := by
  induction buckets with
  | nil =>
      intro state _
      exact ⟨(List.append_nil _).symm, .rfl, fun removal hremoval => .inl hremoval⟩
  | cons bucket buckets ih =>
      intro state hbuckets
      have hfirst := accounts_considerMarket localeCompare state
        (hbuckets bucket List.mem_cons_self)
      have hrest := ih (considerMarket localeCompare state bucket)
        fun other hother => hbuckets other (List.mem_cons_of_mem _ hother)
      refine ⟨?_, ?_, fun removal hremoval => ?_⟩
      · rw [List.foldl_cons, hrest.kept, hfirst.kept, List.flatMap_cons, List.flatMap_cons,
          List.flatMap_nil, List.append_nil, List.append_assoc]
      · have honce := hfirst.once
        refine hrest.once.trans ?_
        rw [← Multiset.coe_eq_coe] at honce ⊢
        simp only [List.flatten_cons, List.flatten_nil, List.append_nil, List.map_append,
          ← Multiset.coe_add] at honce ⊢
        rw [honce]
        abel
      · rcases hrest.removed removal hremoval with h | ⟨plan, hplan, hid⟩
        · rcases hfirst.removed removal h with h | ⟨plan, hplan, hid⟩
          · exact .inl h
          · exact .inr ⟨plan, List.mem_append_left _ (by simpa using hplan), hid⟩
        · exact .inr ⟨plan, List.mem_append_right _ hplan, hid⟩

/-! ## All markets -/

variable {localeCompare : String → String → Ordering}
  {candidates : List (DominanceCandidate Number Rest)}

/-- A plan that takes part in the comparison. -/
def Eligible (plan : DominanceCandidate Number Rest) : Prop :=
  plan.purchasable = true ∧ hasCompleteResources plan = true

theorem screen_isNone_iff : (screen candidate).isNone = true ↔ Eligible candidate := by
  unfold screen Eligible
  cases candidate.purchasable with
  | false => simp
  | true =>
      cases hasCompleteResources candidate with
      | false => simp
      | true => simp

theorem screen_candidateId {removal : DominanceRemoval Number}
    (h : screen candidate = some removal) : removal.candidateId = candidate.id ∧
      removal.reason ≠ .dominated ∧ removal.reason ≠ .duplicateEqual := by
  unfold screen at h
  split_ifs at h
  · cases h
    exact ⟨rfl, DominanceRemovalReason.noConfusion, DominanceRemovalReason.noConfusion⟩
  · cases h
    exact ⟨rfl, DominanceRemovalReason.noConfusion, DominanceRemovalReason.noConfusion⟩

/-- The plans that take part. -/
def eligiblePlans (candidates : List (DominanceCandidate Number Rest)) :
    List (DominanceCandidate Number Rest) :=
  candidates.filter fun candidate => (screen candidate).isNone

theorem mem_eligiblePlans : a ∈ eligiblePlans candidates ↔ a ∈ candidates ∧ Eligible a := by
  rw [eligiblePlans, List.mem_filter, screen_isNone_iff]

/-- What the loops leave. -/
def filtering (localeCompare : String → String → Ordering)
    (candidates : List (DominanceCandidate Number Rest)) : Filtering Number Rest :=
  (groups dominanceMarketKey (eligiblePlans candidates)).foldl (considerMarket localeCompare)
    ⟨[], [], candidates.filterMap screen, 0, 0⟩

theorem kept_filterDominatedPlans : (filterDominatedPlans localeCompare candidates).kept =
    sortBy (comparePublicCatalogOffers localeCompare) (filtering localeCompare candidates).kept :=
  rfl

theorem removed_filterDominatedPlans : (filterDominatedPlans localeCompare candidates).removed =
    (filtering localeCompare candidates).removed :=
  rfl

theorem accounts_filtering : MarketAccounts localeCompare
    (groups dominanceMarketKey (eligiblePlans candidates))
    ⟨[], [], candidates.filterMap screen, 0, 0⟩ (filtering localeCompare candidates) := by
  refine accounts_markets localeCompare _ _ fun bucket hbucket plan hplan => ?_
  obtain ⟨first, -, rfl⟩ := mem_groups.1 hbucket
  exact (mem_eligiblePlans.1 (List.mem_filter.1 hplan).1).2.2

theorem screened_perm : ((eligiblePlans candidates).map (·.id) ++
    (candidates.filterMap screen).map (·.candidateId)).Perm (candidates.map (·.id)) := by
  induction candidates with
  | nil => rfl
  | cons candidate candidates ih =>
      cases hscreen : screen candidate with
      | none =>
          rw [eligiblePlans, List.filter_cons_of_pos (by rw [hscreen]; rfl),
            List.filterMap_cons_none hscreen]
          exact ih.cons candidate.id
      | some removal =>
          rw [eligiblePlans, List.filter_cons_of_neg (by rw [hscreen]; exact Bool.false_ne_true),
            List.filterMap_cons_some hscreen, List.map_cons, (screen_candidateId hscreen).1]
          exact List.perm_middle.trans (ih.cons candidate.id)

/-- **Each candidate is kept or removed, once.** -/
theorem kept_removed_perm : ((filterDominatedPlans localeCompare candidates).kept.map (·.id) ++
    (filterDominatedPlans localeCompare candidates).removed.map (·.candidateId)).Perm
      (candidates.map (·.id)) := by
  have hsorted := (sortBy_perm (comparePublicCatalogOffers localeCompare)
    (filtering localeCompare candidates).kept).map (·.id)
  have hflatten := (@flatten_groups_perm _ _ _ dominanceMarketKey
    (eligiblePlans candidates)).map (·.id)
  rw [kept_filterDominatedPlans, removed_filterDominatedPlans]
  refine (hsorted.append_right _).trans (accounts_filtering.once.trans ?_)
  exact (hflatten.append_right _).trans screened_perm

end Markets

end AbrChin.Storefront.Dominance
