import AbrChin.Dispatch.Outcomes

/-!
# The worker cycles and the queue

A cycle looks at the oldest approved order only.  When its dispatch returns without a change, or throws, the
next cycle finds the same order, and the orders behind it are never looked at (`starved`).

`everybody_dispatched` is about cycles whose oldest order moves, or keeps nobody from being dispatched: a
moved order is no candidate any more, so that as many cycles as there are orders get to every one of them.
-/

namespace AbrChin.Dispatch

open Lib Orders Pricing ProductFlow Inventory

/-- What holds of the cycles of a worker, for the orders that are approved before them. -/
structure EverybodyDispatched (env : DispatchEnv) (db : DispatchDb) (cycles : List Cycle) : Prop where
  /-- An order that `dispatchApprovedProvision` alone would dispatch is dispatched. -/
  dispatched : ∀ order ∈ approvedOrders db,
    (∀ cycle ∈ cycles, (Tx.transaction (dispatchApprovedProvision env order.id cycle.now) db).1 =
      .ok .dispatched) →
    ∃ later ∈ (run (runProvisioningWorkerCycle env) db cycles).orders.rows,
      later.id = order.id ∧ later.hasDispatchJob = true
  /-- A cycle that fails has been at the only order there is. -/
  unbroken : ∀ entry ∈ trace (runProvisioningWorkerCycle env) db cycles, ∀ e,
    entry.result = .error e → ∀ order ∈ approvedOrders db,
      (approvedOrders entry.before).head? = some order

/-! ## The candidates -/

section Candidates

variable {env : DispatchEnv} {db later : DispatchDb} {order : DispatchOrder} {id : String} {now : ℤ}
  {cycle : Cycle}

theorem mem_approvedOrders :
    order ∈ approvedOrders db ↔ order ∈ db.orders.rows ∧ order.isCandidate = true := by
  rw [approvedOrders, List.mem_insertionSort, List.mem_filter]

theorem nodup_approvedOrders : (approvedOrders db).Nodup := by
  have hrows : db.orders.rows.Nodup := List.Nodup.of_map _ db.orders.table.nodup
  exact (List.perm_insertionSort _ _).nodup_iff.2 (hrows.filter _)

theorem find?_of_mem_approved (h : order ∈ approvedOrders db) : db.orders.find? order.id = some order :=
  IndexedTable.find?_eq_some.2 ⟨(mem_approvedOrders.1 h).1, rfl⟩

section Modify

variable {f : DispatchOrder → DispatchOrder} {hf : ∀ row, (f row).id = row.id}
  (hmodify : db.orders.modify? id f hf = some later.orders)
include hmodify

/-- A row that is changed into one that is no candidate is the only one that may leave the queue. -/
theorem mem_approved_later (hout : ∀ row, (f row).isCandidate = false) :
    order ∈ approvedOrders later ↔ order ∈ approvedOrders db ∧ order.id ≠ id := by
  simp only [mem_approvedOrders]
  rw [IndexedTable.rows_of_modify? hmodify, List.mem_map]
  constructor
  · rintro ⟨⟨row, hrow, rfl⟩, hcandidate⟩
    by_cases hid : row.id = id
    · rw [if_pos hid, hout] at hcandidate
      cases hcandidate
    · rw [if_neg hid] at hcandidate ⊢
      exact ⟨⟨hrow, hcandidate⟩, hid⟩
  · rintro ⟨⟨hrow, hcandidate⟩, hid⟩
    exact ⟨⟨order, hrow, if_neg hid⟩, hcandidate⟩

/-- An order with a job keeps it, unless the change is of an order without one. -/
theorem hasJob_later {row : DispatchOrder} (hrow : db.orders.find? order.id = some row)
    (hjob : row.hasDispatchJob = true)
    (hkeeps : order.id = id → (f row).hasDispatchJob = true) :
    ∃ row, later.orders.find? order.id = some row ∧ row.hasDispatchJob = true := by
  by_cases hid : order.id = id
  · refine ⟨f row, ?_, hkeeps hid⟩
    rw [IndexedTable.find?_modify? hmodify, if_pos hid, ← hid, hrow]
    rfl
  · refine ⟨row, ?_, hjob⟩
    rw [IndexedTable.find?_modify? hmodify, if_neg hid]
    exact hrow

end Modify

theorem length_approved_le (h : ∀ order ∈ approvedOrders later, order ∈ approvedOrders db) :
    (approvedOrders later).length ≤ (approvedOrders db).length :=
  (List.subperm_of_subset nodup_approvedOrders h).length_le

/-- The queue gets shorter when an order leaves it. -/
theorem length_approved_lt (hmem : order ∈ approvedOrders db)
    (h : ∀ other ∈ approvedOrders later, other ∈ approvedOrders db ∧ other.id ≠ order.id) :
    (approvedOrders later).length < (approvedOrders db).length := by
  have hsub : approvedOrders later ⊆ (approvedOrders db).erase order := by
    intro other hother
    obtain ⟨hold, hne⟩ := h other hother
    exact (List.mem_erase_of_ne fun heq => hne (congrArg DispatchOrder.id heq)).2 hold
  have hle := (List.subperm_of_subset nodup_approvedOrders hsub).length_le
  rw [List.length_erase_of_mem hmem] at hle
  have hpos := List.length_pos_of_mem hmem
  omega

theorem commits_unique {α : Type} {body : DispatchTx α} {a a' : α} {mid mid' : DispatchDb}
    (h : Tx.Commits body db a mid) (h' : Tx.Commits body db a' mid') : a = a' ∧ mid = mid' := by
  obtain ⟨hvalue, hmid⟩ := Prod.mk.inj (h.symm.trans h')
  exact ⟨Except.ok.inj hvalue, hmid⟩

/-- An order that is submitted has a job. -/
theorem DispatchOrder.hasDispatchJob_submit (order : DispatchOrder) :
    (order.submit now).hasDispatchJob = true := by
  rw [DispatchOrder.hasDispatchJob, DispatchOrder.submit, List.any_append]
  by_cases hsource : order.offerSource = .preprovisionedInventory
  · simp [DispatchOrder.operation, hsource]
  · simp [DispatchOrder.operation, hsource]

/-! ## A cycle -/

/-- The claim of a job keeps its operation. -/
theorem startFirst_any (p : String → Bool) (jobs : List DispatchJob) :
    (startFirst jobs).any (fun job => p job.operation) = jobs.any fun job => p job.operation := by
  induction jobs with
  | nil => rfl
  | cons job rest ih =>
      unfold startFirst
      split
      · rfl
      · rw [List.any_cons, List.any_cons, ih]

theorem DispatchOrder.id_claim (now : ℤ) (order : DispatchOrder) : (order.claim now).id = order.id :=
  rfl

/-- A worker has claimed a job, or found none. -/
def Claims (cycle : Cycle) (db later : DispatchDb) : Prop :=
  later = db ∨ ∃ order orders, db.orders.find? order.id = some order ∧ order.isClaimable = true ∧
    db.orders.modify? order.id (·.claim cycle.now) (DispatchOrder.id_claim cycle.now) = some orders ∧
    later = { db with orders }

/-- The claim of a job never fails. -/
theorem claim_spec (db : DispatchDb) (cycle : Cycle) :
    ∃ claimed later, Tx.transaction (claimNextProvisioningJob cycle) db = (.ok claimed, later) ∧
      Claims cycle db later := by
  cases hfind : (cycle.claim.bind db.orders.find?).filter DispatchOrder.isClaimable with
  | none =>
      refine ⟨false, db, Tx.transaction_ok.2 ?_, .inl rfl⟩
      refine Tx.commits_bind.2 ⟨db, db, Tx.commits_get.2 ⟨rfl, rfl⟩, ?_⟩
      rw [hfind]
      exact Tx.commits_pure.2 ⟨rfl, rfl⟩
  | some order =>
      obtain ⟨horder, hclaimable⟩ := Option.filter_eq_some_iff.1 hfind
      obtain ⟨id, -, horder⟩ := Option.bind_eq_some_iff.1 horder
      obtain rfl : order.id = id := (IndexedTable.find?_eq_some.1 horder).2
      obtain ⟨orders, hmodify, hupdate⟩ := commits_updateOrder db order.id (·.claim cycle.now)
        (fun _ => rfl) fun _ => ⟨rfl, rfl⟩
      refine ⟨true, { db with orders }, Tx.transaction_ok.2 ?_,
        .inr ⟨order, orders, horder, hclaimable, hmodify, rfl⟩⟩
      refine Tx.commits_bind.2 ⟨db, db, Tx.commits_get.2 ⟨rfl, rfl⟩, ?_⟩
      rw [hfind]
      exact Tx.commits_bind.2 ⟨(), _, hupdate, Tx.commits_pure.2 ⟨rfl, rfl⟩⟩

/-- A cycle without candidates claims, one whose dispatch returns claims after it, and one whose dispatch
throws fails and changes nothing. -/
theorem cycle_cases (env : DispatchEnv) (db : DispatchDb) (cycle : Cycle) :
    (approvedOrders db = [] ∧ Claims cycle db (runProvisioningWorkerCycle env db cycle).1 ∧
        ∃ claimed, (runProvisioningWorkerCycle env db cycle).2 = .ok claimed) ∨
      ∃ first rest, approvedOrders db = first :: rest ∧
        ((∃ state mid, Tx.Commits (dispatchApprovedProvision env first.id cycle.now) db state mid ∧
            Claims cycle mid (runProvisioningWorkerCycle env db cycle).1 ∧
            ∃ claimed, (runProvisioningWorkerCycle env db cycle).2 = .ok claimed) ∨
          ((∀ state mid,
              ¬ Tx.Commits (dispatchApprovedProvision env first.id cycle.now) db state mid) ∧
            (runProvisioningWorkerCycle env db cycle).1 = db)) := by
  cases happroved : approvedOrders db with
  | nil =>
      left
      obtain ⟨claimed, later, hclaim, hclaims⟩ := claim_spec db cycle
      simp only [runProvisioningWorkerCycle, dispatchApprovedProvisionCommands, happroved,
        List.take_nil, List.map_nil, dispatchAll, hclaim]
      exact ⟨trivial, hclaims, _, rfl⟩
  | cons first rest =>
      right
      refine ⟨first, rest, rfl, ?_⟩
      have htake : ((first :: rest).take (min 1 20)).map DispatchOrder.id = [first.id] := rfl
      simp only [runProvisioningWorkerCycle, dispatchApprovedProvisionCommands, happroved, htake,
        dispatchAll]
      cases hbody : Tx.transaction (dispatchApprovedProvision env first.id cycle.now) db with
      | mk result mid =>
          cases result with
          | ok state =>
              left
              obtain ⟨claimed, later, hclaim, hclaims⟩ := claim_spec mid cycle
              simp only [Except.map, hclaim]
              exact ⟨state, mid, Tx.transaction_ok.1 hbody, hclaims, _, rfl⟩
          | error e =>
              right
              obtain ⟨rfl, -⟩ := Tx.transaction_error hbody
              refine ⟨fun state mid hcommits => ?_, rfl⟩
              rw [Tx.transaction_ok.2 hcommits] at hbody
              cases hbody

/-- A claim leaves the queue, the inventory and the jobs that are there. -/
theorem Claims.keeps (h : Claims cycle db later) :
    (∀ order, order ∈ approvedOrders later ↔ order ∈ approvedOrders db) ∧
      later.inventory = db.inventory ∧
      ∀ id row, db.orders.find? id = some row → row.hasDispatchJob = true →
        ∃ row, later.orders.find? id = some row ∧ row.hasDispatchJob = true := by
  rcases h with rfl | ⟨claimed, orders, hclaimed, hclaimable, hmodify, rfl⟩
  · exact ⟨fun _ => Iff.rfl, rfl, fun id row hrow hjob => ⟨row, hrow, hjob⟩⟩
  refine ⟨fun order => ?_, rfl, fun id row hrow hjob => ?_⟩
  · rw [mem_approved_later hmodify fun row => by simp [DispatchOrder.isCandidate, DispatchOrder.claim]]
    refine ⟨fun h => h.1, fun h => ⟨h, fun hid => ?_⟩⟩
    -- an order with a job to claim is further than a candidate
    have hsame := find?_of_mem_approved h
    rw [hid, hclaimed] at hsame
    obtain rfl := Option.some.inj hsame
    have hcandidate := (mem_approvedOrders.1 h).2
    simp only [DispatchOrder.isCandidate, DispatchOrder.isClaimable, Bool.and_eq_true, Bool.or_eq_true,
      decide_eq_true_eq] at hcandidate hclaimable
    rw [hcandidate.1.2] at hclaimable
    rcases hclaimable.1 with hstate | hstate
    · cases hstate
    · cases hstate
  · obtain ⟨-, hid⟩ := IndexedTable.find?_eq_some.1 hrow
    subst hid
    refine hasJob_later hmodify hrow hjob fun _ => ?_
    exact (startFirst_any (fun operation => operation = "create_instance" ||
      operation = "adopt_preprovisioned_inventory") row.jobs).trans hjob

/-- A dispatch of another order, and of the order itself when it has a job, leaves the job. -/
theorem Moves.keeps_job {first row : DispatchOrder} {f : DispatchOrder → DispatchOrder}
    (hmoves : Moves first now f db later) (hfirst : db.orders.find? first.id = some first)
    (hopen : first.isOpen = true) (hrow : db.orders.find? id = some row)
    (hjob : row.hasDispatchJob = true) :
    ∃ row, later.orders.find? id = some row ∧ row.hasDispatchJob = true := by
  obtain ⟨hf, hmodify⟩ := hmoves.orders
  obtain ⟨-, rfl⟩ := IndexedTable.find?_eq_some.1 hrow
  refine hasJob_later hmodify hrow hjob fun hid => ?_
  rw [hid, hfirst] at hrow
  obtain rfl := Option.some.inj hrow
  rw [(isOpen_iff.1 hopen).1] at hjob
  cases hjob

/-- A job stays in every cycle. -/
theorem job_stays (hjob : ∃ row, db.orders.find? id = some row ∧ row.hasDispatchJob = true) :
    ∃ row, (runProvisioningWorkerCycle env db cycle).1.orders.find? id = some row ∧
      row.hasDispatchJob = true := by
  obtain ⟨row, hrow, hjob⟩ := hjob
  rcases cycle_cases env db cycle with ⟨-, hclaims, -⟩ |
    ⟨first, rest, happroved, ⟨state, mid, hdispatch, hclaims, -⟩ | ⟨-, hsame⟩⟩
  · exact hclaims.keeps.2.2 id row hrow hjob
  · have hmid : ∃ row, mid.orders.find? id = some row ∧ row.hasDispatchJob = true := by
      rcases dispatch_spec hdispatch with ⟨rfl, -⟩ | ⟨order, horder, hopen, hmoves⟩
      · exact ⟨row, hrow, hjob⟩
      · obtain ⟨-, hid⟩ := IndexedTable.find?_eq_some.1 horder
        rw [← hid] at horder
        rcases hmoves with ⟨-, hmoves⟩ | ⟨-, hmoves⟩
        · exact hmoves.keeps_job horder hopen hrow hjob
        · exact hmoves.keeps_job horder hopen hrow hjob
    obtain ⟨later, hlater, hlaterJob⟩ := hmid
    exact hclaims.keeps.2.2 id later hlater hlaterJob
  · rw [hsame]
    exact ⟨row, hrow, hjob⟩

/-! ## Cycles that keep nobody back -/

/-- The oldest order moves, or keeps nobody behind it; and its dispatch throws only when it is the only
one of `n` orders. -/
def Clears (env : DispatchEnv) (n : ℕ) (db : DispatchDb) (cycle : Cycle) : Prop :=
  ∀ first ∈ (approvedOrders db).head?,
    (Ready env db.inventory first cycle.now ∨ Blocked env first cycle.now) ∨
      ((n = 1 ∨ Waits env first cycle.now) ∧
        ∀ other ∈ approvedOrders db, other.id ≠ first.id → ¬ Ready env db.inventory other cycle.now)

instance (env : DispatchEnv) (n : ℕ) (db : DispatchDb) (cycle : Cycle) :
    Decidable (Clears env n db cycle) :=
  inferInstanceAs (Decidable (∀ first ∈ (approvedOrders db).head?,
    _ ∨ (_ ∧ ∀ other ∈ approvedOrders db, other.id ≠ first.id → _)))

/-- An order that has moved is out of the queue. -/
theorem Moves.keeps {first : DispatchOrder} {f : DispatchOrder → DispatchOrder}
    (hmoves : Moves first now f db later) (hfirst : first ∈ approvedOrders db)
    (hout : ∀ row, (f row).isCandidate = false) (horder : order ∈ approvedOrders db)
    (hne : order.id ≠ first.id) {times : List ℤ}
    (hready : ∀ time ∈ times, Ready env db.inventory order time) :
    order ∈ approvedOrders later ∧ (∀ time ∈ times, Ready env later.inventory order time) ∧
      (approvedOrders later).length < (approvedOrders db).length := by
  obtain ⟨hf, hmodify⟩ := hmoves.orders
  refine ⟨(mem_approved_later hmodify hout).2 ⟨horder, hne⟩, fun time htime => ?_,
    length_approved_lt hfirst fun other hother => (mem_approved_later hmodify hout).1 hother⟩
  exact (hready time htime).of_adopts (mem_approvedOrders.1 horder).1 (mem_approvedOrders.1 hfirst).1
    (Ne.symm hne) hmoves.inventory

/-- **A cycle dispatches an order that is ready, or makes the queue in front of it shorter.** -/
theorem cycle_progress {n : ℕ} (hclears : Clears env n db cycle) (horder : order ∈ approvedOrders db)
    {times : List ℤ} (hnow : cycle.now ∈ times)
    (hready : ∀ time ∈ times, Ready env db.inventory order time) :
    (∃ row, (runProvisioningWorkerCycle env db cycle).1.orders.find? order.id = some row ∧
        row.hasDispatchJob = true) ∨
      (order ∈ approvedOrders (runProvisioningWorkerCycle env db cycle).1 ∧
        (∀ time ∈ times, Ready env (runProvisioningWorkerCycle env db cycle).1.inventory order time) ∧
        (approvedOrders (runProvisioningWorkerCycle env db cycle).1).length <
          (approvedOrders db).length) := by
  rcases cycle_cases env db cycle with ⟨hnil, -⟩ | ⟨first, rest, happroved, hcycle⟩
  · rw [hnil] at horder
    cases horder
  have hfirst : first ∈ approvedOrders db := by
    rw [happroved]
    exact List.mem_cons_self
  have hhead : first ∈ (approvedOrders db).head? := by
    rw [happroved]
    rfl
  -- the oldest order is ready or blocked: it is the order itself, or does not keep it back
  have hgoes : Ready env db.inventory first cycle.now ∨ Blocked env first cycle.now := by
    rcases hclears first hhead with hgoes | ⟨-, hnobody⟩
    · exact hgoes
    · by_cases hid : order.id = first.id
      · have hsame := find?_of_mem_approved horder
        rw [hid, find?_of_mem_approved hfirst] at hsame
        obtain rfl := Option.some.inj hsame
        exact .inl (hready _ hnow)
      · exact absurd (hready _ hnow) (hnobody order horder hid)
  have hcommits : ∃ state mid, (state = .dispatched ∨ state = .billingContractBlocked) ∧
      Tx.Commits (dispatchApprovedProvision env first.id cycle.now) db state mid := by
    rcases hgoes with hgo | hgo
    · obtain ⟨mid, hmid⟩ := commits_of_ready (find?_of_mem_approved hfirst) hgo
      exact ⟨_, mid, .inl rfl, hmid⟩
    · obtain ⟨mid, hmid⟩ := commits_of_blocked (find?_of_mem_approved hfirst) hgo
      exact ⟨_, mid, .inr rfl, hmid⟩
  obtain ⟨state, mid, hstate, hdispatch⟩ := hcommits
  rcases hcycle with ⟨state', mid', hdispatch', hclaims, -⟩ | ⟨hnone, -⟩
  swap
  · exact absurd hdispatch (hnone state mid)
  obtain ⟨rfl, rfl⟩ := commits_unique hdispatch' hdispatch
  obtain ⟨hqueue, hinventory, hjobs⟩ := hclaims.keeps
  rcases dispatch_spec hdispatch with ⟨-, hnot⟩ | ⟨moved, hmoved, -, hmoves⟩
  · rcases hstate with rfl | rfl
    · exact absurd rfl hnot.1
    · exact absurd rfl hnot.2
  obtain rfl := Option.some.inj ((find?_of_mem_approved hfirst).symm.trans hmoved)
  by_cases hid : order.id = first.id
  · left
    have hsame := find?_of_mem_approved horder
    rw [hid, hmoved] at hsame
    obtain rfl := Option.some.inj hsame
    obtain ⟨_, hready'⟩ := commits_of_ready hmoved (hready _ hnow)
    obtain ⟨rfl, -⟩ := commits_unique hdispatch hready'
    rcases hmoves with ⟨-, hmoves⟩ | ⟨hblocked, -⟩
    · obtain ⟨hf, hmodify⟩ := hmoves.orders
      refine hjobs first.id (first.submit cycle.now) ?_ first.hasDispatchJob_submit
      rw [IndexedTable.find?_modify? hmodify, if_pos rfl, hmoved]
      rfl
    · cases hblocked
  · right
    have hkept : order ∈ approvedOrders mid' ∧
        (∀ time ∈ times, Ready env mid'.inventory order time) ∧
        (approvedOrders mid').length < (approvedOrders db).length := by
      rcases hmoves with ⟨-, hmoves⟩ | ⟨-, hmoves⟩
      · exact hmoves.keeps hfirst (fun row => by simp [DispatchOrder.isCandidate, DispatchOrder.submit])
          horder hid hready
      · exact hmoves.keeps hfirst (fun row => by simp [DispatchOrder.isCandidate, DispatchOrder.block])
          horder hid hready
    obtain ⟨hmem, hstill, hlt⟩ := hkept
    refine ⟨(hqueue order).2 hmem, fun time htime => ?_, ?_⟩
    · rw [hinventory]
      exact hstill time htime
    · exact lt_of_le_of_lt (length_approved_le fun other hother => (hqueue other).1 hother) hlt

/-- An order that is ready all the time is dispatched by as many cycles as there are orders. -/
theorem dispatched_of_run {n : ℕ} {cycles : List Cycle} (horder : order ∈ approvedOrders db)
    (hready : ∀ time ∈ cycles.map Cycle.now, Ready env db.inventory order time)
    (hlength : (approvedOrders db).length ≤ cycles.length)
    (hclears : Meets (runProvisioningWorkerCycle env) (Clears env n) db cycles) :
    ∃ row, (run (runProvisioningWorkerCycle env) db cycles).orders.find? order.id = some row ∧
      row.hasDispatchJob = true := by
  induction cycles generalizing db with
  | nil => exact absurd (List.length_pos_of_mem horder) (by simpa using hlength)
  | cons cycle rest ih =>
      obtain ⟨hfirst, hrest⟩ := meets_cons.1 hclears
      rw [run_cons]
      rcases cycle_progress hfirst horder List.mem_cons_self hready with hjob | ⟨hmem, hstill, hlt⟩
      · exact run_induction (p := fun later : DispatchDb => ∃ row,
          later.orders.find? order.id = some row ∧ row.hasDispatchJob = true)
          (fun _ _ hjob => job_stays hjob) hjob rest
      · refine ih hmem (fun time htime => hstill time (List.mem_cons_of_mem _ htime)) ?_ hrest
        rw [List.length_cons] at hlength
        omega

/-- No cycle makes a candidate. -/
theorem approved_of_cycle (h : order ∈ approvedOrders (runProvisioningWorkerCycle env db cycle).1) :
    order ∈ approvedOrders db := by
  rcases cycle_cases env db cycle with ⟨-, hclaims, -⟩ |
    ⟨first, rest, -, ⟨state, mid, hdispatch, hclaims, -⟩ | ⟨-, hsame⟩⟩
  · exact (hclaims.keeps.1 order).1 h
  · have hmid := (hclaims.keeps.1 order).1 h
    rcases dispatch_spec hdispatch with ⟨rfl, -⟩ | ⟨moved, -, -, hmoves⟩
    · exact hmid
    · rcases hmoves with ⟨-, hmoves⟩ | ⟨-, hmoves⟩
      · obtain ⟨hf, hmodify⟩ := hmoves.orders
        exact ((mem_approved_later hmodify fun row => by
          simp [DispatchOrder.isCandidate, DispatchOrder.submit]).1 hmid).1
      · obtain ⟨hf, hmodify⟩ := hmoves.orders
        exact ((mem_approved_later hmodify fun row => by
          simp [DispatchOrder.isCandidate, DispatchOrder.block]).1 hmid).1
  · rw [hsame] at h
    exact h

/-- A cycle that fails is at the only order there is. -/
theorem alone_of_error {n : ℕ} (hclears : Clears env n db cycle) {e : String}
    (h : (runProvisioningWorkerCycle env db cycle).2 = .error e) :
    n = 1 ∧ ∃ first, (approvedOrders db).head? = some first := by
  rcases cycle_cases env db cycle with ⟨-, -, claimed, hok⟩ |
    ⟨first, rest, happroved, ⟨_, _, -, -, claimed, hok⟩ | ⟨hnone, -⟩⟩
  · rw [hok] at h
    cases h
  · rw [hok] at h
    cases h
  have hfirst : first ∈ approvedOrders db := by
    rw [happroved]
    exact List.mem_cons_self
  have hhead : (approvedOrders db).head? = some first := by
    rw [happroved]
    rfl
  refine ⟨?_, first, hhead⟩
  rcases hclears first hhead with (hready | hblocked) | ⟨hone | hwaits, -⟩
  · obtain ⟨mid, hmid⟩ := commits_of_ready (find?_of_mem_approved hfirst) hready
    exact absurd hmid (hnone _ mid)
  · obtain ⟨mid, hmid⟩ := commits_of_blocked (find?_of_mem_approved hfirst) hblocked
    exact absurd hmid (hnone _ mid)
  · exact hone
  · obtain ⟨state, hmid⟩ := commits_of_waits (find?_of_mem_approved hfirst) hwaits
    exact absurd hmid (hnone state db)

end Candidates

/-- **One order does not stop the others** in cycles whose oldest order moves, or keeps nobody back. -/
theorem everybody_dispatched (env : DispatchEnv) (db : DispatchDb) (cycles : List Cycle)
    (hlength : cycles.length = (approvedOrders db).length)
    (hclears : Meets (runProvisioningWorkerCycle env) (Clears env (approvedOrders db).length) db cycles) :
    EverybodyDispatched env db cycles where
  dispatched order horder halone := by
    have hready : ∀ time ∈ cycles.map Cycle.now, Ready env db.inventory order time := by
      intro time htime
      obtain ⟨cycle, hcycle, rfl⟩ := List.mem_map.1 htime
      have hresult := halone cycle hcycle
      cases hbody : Tx.transaction (dispatchApprovedProvision env order.id cycle.now) db with
      | mk result later =>
          rw [hbody] at hresult
          obtain rfl : result = .ok .dispatched := hresult
          exact ready_of_commits (find?_of_mem_approved horder) (Tx.transaction_ok.1 hbody)
    obtain ⟨row, hrow, hjob⟩ := dispatched_of_run horder hready hlength.symm.le hclears
    obtain ⟨hmem, hid⟩ := IndexedTable.find?_eq_some.1 hrow
    exact ⟨row, hmem, hid, hjob⟩
  unbroken entry hentry e herror order horder := by
    obtain ⟨hsubset, hclear, hresult⟩ := of_mem_trace_of_meets
      (p := fun later : DispatchDb => ∀ order ∈ approvedOrders later, order ∈ approvedOrders db)
      (fun later cycle _ hsubset order horder => hsubset order (approved_of_cycle horder))
      (fun _ h => h) hclears hentry
    rw [hresult] at herror
    obtain ⟨hone, first, hhead⟩ := alone_of_error hclear herror
    obtain ⟨only, honly⟩ := List.length_eq_one_iff.1 hone
    have hfirst := hsubset first (List.mem_of_mem_head? hhead)
    rw [honly, List.mem_singleton] at hfirst horder
    rw [hhead, hfirst, horder]

/-! ### Two queues -/

def sampleEnv : DispatchEnv := ⟨true, fun _ _ _ => [], fun _ => true⟩

/-- An approved order of the offer source. -/
def sampleOrder (id : String) (offerSource : OfferSource) (updatedAt : ℤ) : DispatchOrder where
  id := id
  serviceOrderId := id
  serviceOrderStatus := .paid
  planId := "plan"
  catalogItemId := "catalog"
  billingModel := .prepaidTerm
  offerSource := offerSource
  provider := "ARVAN"
  providerApiVersion := "v1"
  selection := some ⟨"region", "size", "image"⟩
  preprovisionedInventoryItemId := none
  approvals := [⟨"admin", true, 0⟩]
  jobs := []
  status := .fundingConfirmed
  productFlowState := .provisionApproved
  updatedAt := updatedAt

/-- The table of the listed orders. -/
def sampleTable : List DispatchOrder → IndexedTable DispatchOrder.id DispatchOrder.indexes
  | [] => .empty
  | row :: rows => ((sampleTable rows).insert? row).getD (sampleTable rows)

def sampleDb (orders : List DispatchOrder) : DispatchDb where
  orders := sampleTable orders
  inventory := ⟨.empty, .empty, .empty⟩

/-- The order that is fulfilled by hand comes last. -/
theorem everybody_dispatched_sample : EverybodyDispatched sampleEnv
    (sampleDb [sampleOrder "manual" .manualApiBacked 3, sampleOrder "first" .apiCatalog 1,
      sampleOrder "second" .apiCatalog 2]) [⟨10, none⟩, ⟨20, some "first"⟩, ⟨30, none⟩] :=
  everybody_dispatched _ _ _ (by decide +kernel) (by decide +kernel)

/-- The order that is fulfilled by hand comes first. -/
def starvingDb : DispatchDb :=
  sampleDb [sampleOrder "manual" .manualApiBacked 1, sampleOrder "api" .apiCatalog 2]

/-- **An order that is fulfilled by hand keeps the one behind it waiting.** -/
theorem starved : ¬ ∀ (env : DispatchEnv) (db : DispatchDb) (cycles : List Cycle),
    cycles.length = (approvedOrders db).length → EverybodyDispatched env db cycles := by
  intro hclaim
  have hdispatched := (hclaim sampleEnv starvingDb [⟨10, none⟩, ⟨10, none⟩] (by decide +kernel)).dispatched
    (sampleOrder "api" .apiCatalog 2) (by decide +kernel)
  have halone : (Tx.transaction (dispatchApprovedProvision sampleEnv "api" 10) starvingDb).1 =
      .ok .dispatched := rfl
  obtain ⟨later, hlater, hid, hjob⟩ := hdispatched fun cycle hcycle => by
    have hnow : cycle.now = 10 := by
      simp only [List.mem_cons, List.not_mem_nil, or_false, or_self] at hcycle
      rw [hcycle]
    rw [hnow]
    exact halone
  have hnone : ∀ row ∈ (run (runProvisioningWorkerCycle sampleEnv) starvingDb
      [⟨10, none⟩, ⟨10, none⟩]).orders.rows, row.hasDispatchJob = false := by
    decide +kernel
  rw [hnone later hlater] at hjob
  cases hjob

end AbrChin.Dispatch
