import AbrChin.Lib.Owned
import AbrChin.Ownership.Servers

/-!
# A server is transferred with its rows

The rows of a server refer to each other: the infrastructure order to the order, the server to the
infrastructure order, the subscription and the enrollment to the server, and the renewal quotes to the
subscription.  A row that is created takes the owner of the row that it refers to, and no update writes an
owner, up to the transfers.  These give all of the rows to the new owner, up to the enrollment
(`enrollment_stays_behind`).

The claim is about the columns of the rows that their ownership is in (`Owners`).  `coherent_step` shows
that in every other step the rows that refer to each other have one owner.
-/

namespace AbrChin.Ownership

open Lib

variable {db db' : OwnershipDb} {u : Unit}

/-! ## The columns of ownership -/

def ServiceOrder.owned (row : ServiceOrder) : Owned String String := ⟨row.id, row.id, row.userId⟩

def InfrastructureOrder.owned (row : InfrastructureOrder) : Owned String String :=
  ⟨row.id, row.serviceOrderId, row.userId⟩

def CloudInstance.owned (row : CloudInstance) : Owned String String :=
  ⟨row.id, row.infrastructureOrderId, row.userId⟩

def ServiceSubscription.owned (row : ServiceSubscription) : Owned String String :=
  ⟨row.id, row.cloudInstanceId, row.userId⟩

def ServiceRenewalQuote.owned (row : ServiceRenewalQuote) : Owned String String :=
  ⟨row.id, row.subscriptionId, row.userId⟩

def ParchinEnrollment.owned (row : ParchinEnrollment) : Owned String String :=
  ⟨row.id, row.cloudInstanceId, row.userId⟩

/-- The owners in the six tables. -/
structure Owners where
  orders : List (Owned String String)
  infrastructureOrders : List (Owned String String)
  instances : List (Owned String String)
  subscriptions : List (Owned String String)
  renewalQuotes : List (Owned String String)
  enrollments : List (Owned String String)

def OwnershipDb.owners (db : OwnershipDb) : Owners where
  orders := db.orders.rows.map ServiceOrder.owned
  infrastructureOrders := db.infrastructureOrders.rows.map InfrastructureOrder.owned
  instances := db.instances.rows.map CloudInstance.owned
  subscriptions := db.subscriptions.rows.map ServiceSubscription.owned
  renewalQuotes := db.renewalQuotes.rows.map ServiceRenewalQuote.owned
  enrollments := db.enrollments.rows.map ParchinEnrollment.owned

/-- The rows that refer to each other have one owner. -/
structure Owners.Coherent (owners : Owners) : Prop where
  infrastructureOrder : Owned.Follows owners.infrastructureOrders owners.orders
  server : Owned.Follows owners.instances owners.infrastructureOrders
  subscription : Owned.Follows owners.subscriptions owners.instances
  quote : Owned.Follows owners.renewalQuotes owners.subscriptions
  enrollment : Owned.Follows owners.enrollments owners.instances

/-! ## Unique columns -/

theorem nodup_infrastructureIds : (db.owners.infrastructureOrders.map Owned.id).Nodup := by
  rw [OwnershipDb.owners, List.map_map]
  exact db.infrastructureOrders.table.nodup

theorem nodup_instanceIds : (db.owners.instances.map Owned.id).Nodup := by
  rw [OwnershipDb.owners, List.map_map]
  exact db.instances.table.nodup

theorem nodup_orderIds : (db.owners.orders.map Owned.id).Nodup := by
  rw [OwnershipDb.owners, List.map_map]
  exact db.orders.nodup

theorem nodup_subscriptionIds : (db.owners.subscriptions.map Owned.id).Nodup := by
  rw [OwnershipDb.owners, List.map_map]
  exact db.subscriptions.table.nodup

/-- A unique column without nulls. -/
theorem nodup_refs {ρ : Type} {key : ρ → String} {indexes : List (ρ → Option String)}
    {indexed : IndexedTable key indexes} {column : ρ → String}
    (hindex : (fun row => some (column row)) ∈ indexes) : (indexed.rows.map column).Nodup := by
  have hunique := indexed.unique _ hindex
  rwa [List.filterMap_eq_map'] at hunique

theorem nodup_infrastructureRefs : (db.owners.infrastructureOrders.map Owned.ref).Nodup := by
  rw [OwnershipDb.owners, List.map_map]
  exact nodup_refs List.mem_cons_self

theorem nodup_instanceRefs : (db.owners.instances.map Owned.ref).Nodup := by
  rw [OwnershipDb.owners, List.map_map]
  exact nodup_refs List.mem_cons_self

theorem nodup_subscriptionRefs : (db.owners.subscriptions.map Owned.ref).Nodup := by
  rw [OwnershipDb.owners, List.map_map]
  exact nodup_refs List.mem_cons_self

/-! ## The writes -/

section Writes

variable {ρ : Type} {owned : ρ → Owned String String} {key : ρ → String}

/-- An update that writes no owner. -/
theorem map_owned_of_keeps {f : ρ → ρ} (hkeep : ∀ row, owned (f row) = owned row) (p : ρ → Bool)
    (rows : List ρ) :
    (rows.map fun row => if p row = true then f row else row).map owned = rows.map owned := by
  rw [List.map_map]
  refine List.map_congr_left fun row _ => ?_
  by_cases hp : p row = true
  · rw [Function.comp_apply, if_pos hp]
    exact hkeep row
  · rw [Function.comp_apply, if_neg hp]

/-- An update that gives its rows to an owner. -/
theorem map_owned_of_gives {f : ρ → ρ} {owner : String} {q : Owned String String → Bool}
    (hgive : ∀ row, owned (f row) = (owned row).withOwner owner) {p : ρ → Bool}
    (hp : ∀ row, p row = q (owned row)) (rows : List ρ) :
    (rows.map fun row => if p row = true then f row else row).map owned =
      Owned.give q owner (rows.map owned) := by
  rw [Owned.give, List.map_map, List.map_map]
  refine List.map_congr_left fun row _ => ?_
  simp only [Function.comp_apply, ← hp row]
  by_cases hrow : p row = true
  · rw [if_pos hrow, if_pos hrow]
    exact hgive row
  · rw [if_neg hrow, if_neg hrow]

theorem rows_of_modify {indexes : List (ρ → Option String)} {indexed later : IndexedTable key indexes}
    {k : String} {f : ρ → ρ} {hf : ∀ row, key (f row) = key row}
    (h : indexed.modify? k f hf = some later) :
    later.rows = indexed.rows.map fun row => if decide (key row = k) = true then f row else row := by
  rw [IndexedTable.rows_of_modify? h]
  simp only [decide_eq_true_eq]

end Writes

section Tables

variable {id : String} {f : ServiceOrder → ServiceOrder} {g : InfrastructureOrder → InfrastructureOrder}
  {i : CloudInstance → CloudInstance} {s : ServiceSubscription → ServiceSubscription}
  {q : ServiceRenewalQuote → ServiceRenewalQuote} {e : ParchinEnrollment → ParchinEnrollment}
  {p : ServiceRenewalQuote → Bool}

theorem owners_updateOrder {hf : ∀ row, (f row).id = row.id}
    (h : Tx.Commits (updateOrder id f hf) db u db') :
    db'.owners = { db.owners with
      orders := (db.orders.rows.map fun row =>
        if decide (row.id = id) = true then f row else row).map ServiceOrder.owned } := by
  rw [updateOrder, Tx.commits_modify] at h
  subst h
  simp only [OwnershipDb.owners, Table.modify, decide_eq_true_eq]

theorem owners_updateInfrastructure {hg : ∀ row, (g row).id = row.id}
    (h : Tx.Commits (updateInfrastructure id g hg) db u db') :
    db'.owners = { db.owners with
      infrastructureOrders := (db.infrastructureOrders.rows.map fun row =>
        if decide (row.id = id) = true then g row else row).map InfrastructureOrder.owned } := by
  rw [updateInfrastructure, Tx.commits_attempt] at h
  obtain ⟨later, hlater, rfl⟩ := Option.map_eq_some_iff.1 h
  simp only [OwnershipDb.owners, rows_of_modify hlater]

theorem owners_updateInstance {hi : ∀ row, (i row).id = row.id}
    (h : Tx.Commits (updateInstance id i hi) db u db') :
    db'.owners = { db.owners with
      instances := (db.instances.rows.map fun row =>
        if decide (row.id = id) = true then i row else row).map CloudInstance.owned } := by
  rw [updateInstance, Tx.commits_attempt] at h
  obtain ⟨later, hlater, rfl⟩ := Option.map_eq_some_iff.1 h
  simp only [OwnershipDb.owners, rows_of_modify hlater]

theorem owners_updateSubscription {hs : ∀ row, (s row).id = row.id}
    (h : Tx.Commits (updateSubscription id s hs) db u db') :
    db'.owners = { db.owners with
      subscriptions := (db.subscriptions.rows.map fun row =>
        if decide (row.id = id) = true then s row else row).map ServiceSubscription.owned } := by
  rw [updateSubscription, Tx.commits_attempt] at h
  obtain ⟨later, hlater, rfl⟩ := Option.map_eq_some_iff.1 h
  simp only [OwnershipDb.owners, rows_of_modify hlater]

theorem owners_updateQuotes {hq : ∀ row, (q row).id = row.id}
    (h : Tx.Commits (updateQuotes p q hq) db u db') :
    db'.owners = { db.owners with
      renewalQuotes := (db.renewalQuotes.rows.map fun row =>
        if p row = true then q row else row).map ServiceRenewalQuote.owned } := by
  rw [updateQuotes, Tx.commits_modify] at h
  subst h
  rfl

theorem kept_updateEnrollment {he : ∀ row, (e row).id = row.id}
    (h : Tx.Commits (updateEnrollment id e he) db u db') (hkeep : ∀ row, (e row).owned = row.owned) :
    db'.owners = db.owners := by
  rw [updateEnrollment, Tx.commits_attempt] at h
  obtain ⟨later, hlater, rfl⟩ := Option.map_eq_some_iff.1 h
  simp only [OwnershipDb.owners, rows_of_modify hlater, map_owned_of_keeps hkeep]

end Tables

/-! ## What an update leaves -/

section Kept

variable {id : String}

theorem kept_updateOrder {f : ServiceOrder → ServiceOrder} {hf : ∀ row, (f row).id = row.id}
    (h : Tx.Commits (updateOrder id f hf) db u db') (hkeep : ∀ row, (f row).owned = row.owned) :
    db'.owners = db.owners := by
  rw [owners_updateOrder h, map_owned_of_keeps hkeep]
  rfl

theorem kept_updateInfrastructure {f : InfrastructureOrder → InfrastructureOrder}
    {hf : ∀ row, (f row).id = row.id} (h : Tx.Commits (updateInfrastructure id f hf) db u db')
    (hkeep : ∀ row, (f row).owned = row.owned) : db'.owners = db.owners := by
  rw [owners_updateInfrastructure h, map_owned_of_keeps hkeep]
  rfl

theorem kept_updateInstance {f : CloudInstance → CloudInstance} {hf : ∀ row, (f row).id = row.id}
    (h : Tx.Commits (updateInstance id f hf) db u db') (hkeep : ∀ row, (f row).owned = row.owned) :
    db'.owners = db.owners := by
  rw [owners_updateInstance h, map_owned_of_keeps hkeep]
  rfl

theorem kept_updateSubscription {f : ServiceSubscription → ServiceSubscription}
    {hf : ∀ row, (f row).id = row.id} (h : Tx.Commits (updateSubscription id f hf) db u db')
    (hkeep : ∀ row, (f row).owned = row.owned) : db'.owners = db.owners := by
  rw [owners_updateSubscription h, map_owned_of_keeps hkeep]
  rfl

theorem kept_updateQuotes {p : ServiceRenewalQuote → Bool}
    {f : ServiceRenewalQuote → ServiceRenewalQuote} {hf : ∀ row, (f row).id = row.id}
    (h : Tx.Commits (updateQuotes p f hf) db u db') (hkeep : ∀ row, (f row).owned = row.owned) :
    db'.owners = db.owners := by
  rw [owners_updateQuotes h, map_owned_of_keeps hkeep]
  rfl

end Kept

/-! ## What is created -/

section Created

variable {owners : Owners} {row parent : Owned String String}

theorem owners_insertOrder {row : ServiceOrder} (h : Tx.Commits (insertOrder row) db u db') :
    db'.owners = { db.owners with orders := db.owners.orders ++ [row.owned] } := by
  rw [insertOrder, Tx.commits_attempt] at h
  obtain ⟨later, hlater, rfl⟩ := Option.map_eq_some_iff.1 h
  simp only [OwnershipDb.owners, Table.rows_of_insert? hlater, List.map_append, List.map_singleton]

theorem owners_insertInfrastructure {row : InfrastructureOrder}
    (h : Tx.Commits (insertInfrastructure row) db u db') : db'.owners =
      { db.owners with infrastructureOrders := db.owners.infrastructureOrders ++ [row.owned] } := by
  rw [insertInfrastructure, Tx.commits_attempt] at h
  obtain ⟨later, hlater, rfl⟩ := Option.map_eq_some_iff.1 h
  simp only [OwnershipDb.owners, IndexedTable.rows_of_insert? hlater, List.map_append,
    List.map_singleton]

theorem owners_insertInstance {row : CloudInstance} (h : Tx.Commits (insertInstance row) db u db') :
    db'.owners = { db.owners with instances := db.owners.instances ++ [row.owned] } := by
  rw [insertInstance, Tx.commits_attempt] at h
  obtain ⟨later, hlater, rfl⟩ := Option.map_eq_some_iff.1 h
  simp only [OwnershipDb.owners, IndexedTable.rows_of_insert? hlater, List.map_append,
    List.map_singleton]

theorem owners_insertSubscription {row : ServiceSubscription}
    (h : Tx.Commits (insertSubscription row) db u db') :
    db'.owners = { db.owners with subscriptions := db.owners.subscriptions ++ [row.owned] } := by
  rw [insertSubscription, Tx.commits_attempt] at h
  obtain ⟨later, hlater, rfl⟩ := Option.map_eq_some_iff.1 h
  simp only [OwnershipDb.owners, IndexedTable.rows_of_insert? hlater, List.map_append,
    List.map_singleton]

theorem owners_insertQuote {row : ServiceRenewalQuote} (h : Tx.Commits (insertQuote row) db u db') :
    db'.owners = { db.owners with renewalQuotes := db.owners.renewalQuotes ++ [row.owned] } := by
  rw [insertQuote, Tx.commits_attempt] at h
  obtain ⟨later, hlater, rfl⟩ := Option.map_eq_some_iff.1 h
  simp only [OwnershipDb.owners, Table.rows_of_insert? hlater, List.map_append, List.map_singleton]

theorem owners_insertEnrollment {row : ParchinEnrollment}
    (h : Tx.Commits (insertEnrollment row) db u db') :
    db'.owners = { db.owners with enrollments := db.owners.enrollments ++ [row.owned] } := by
  rw [insertEnrollment, Tx.commits_attempt] at h
  obtain ⟨later, hlater, rfl⟩ := Option.map_eq_some_iff.1 h
  simp only [OwnershipDb.owners, IndexedTable.rows_of_insert? hlater, List.map_append,
    List.map_singleton]

theorem Owners.Coherent.insertOrder (h : owners.Coherent) (row : Owned String String) :
    { owners with orders := owners.orders ++ [row] : Owners }.Coherent where
  infrastructureOrder := h.infrastructureOrder.append_parent row
  server := h.server
  subscription := h.subscription
  quote := h.quote
  enrollment := h.enrollment

theorem Owners.Coherent.insertInfrastructure (h : owners.Coherent) (hparent : parent ∈ owners.orders)
    (hid : parent.id = row.ref) (howner : parent.owner = row.owner) :
    { owners with infrastructureOrders := owners.infrastructureOrders ++ [row] : Owners }.Coherent where
  infrastructureOrder := h.infrastructureOrder.append hparent hid howner
  server := h.server.append_parent row
  subscription := h.subscription
  quote := h.quote
  enrollment := h.enrollment

theorem Owners.Coherent.insertInstance (h : owners.Coherent)
    (hparent : parent ∈ owners.infrastructureOrders) (hid : parent.id = row.ref)
    (howner : parent.owner = row.owner) :
    { owners with instances := owners.instances ++ [row] : Owners }.Coherent where
  infrastructureOrder := h.infrastructureOrder
  server := h.server.append hparent hid howner
  subscription := h.subscription.append_parent row
  quote := h.quote
  enrollment := h.enrollment.append_parent row

theorem Owners.Coherent.insertSubscription (h : owners.Coherent) (hparent : parent ∈ owners.instances)
    (hid : parent.id = row.ref) (howner : parent.owner = row.owner) :
    { owners with subscriptions := owners.subscriptions ++ [row] : Owners }.Coherent where
  infrastructureOrder := h.infrastructureOrder
  server := h.server
  subscription := h.subscription.append hparent hid howner
  quote := h.quote.append_parent row
  enrollment := h.enrollment

theorem Owners.Coherent.insertQuote (h : owners.Coherent) (hparent : parent ∈ owners.subscriptions)
    (hid : parent.id = row.ref) (howner : parent.owner = row.owner) :
    { owners with renewalQuotes := owners.renewalQuotes ++ [row] : Owners }.Coherent where
  infrastructureOrder := h.infrastructureOrder
  server := h.server
  subscription := h.subscription
  quote := h.quote.append hparent hid howner
  enrollment := h.enrollment

theorem Owners.Coherent.insertEnrollment (h : owners.Coherent) (hparent : parent ∈ owners.instances)
    (hid : parent.id = row.ref) (howner : parent.owner = row.owner) :
    { owners with enrollments := owners.enrollments ++ [row] : Owners }.Coherent where
  infrastructureOrder := h.infrastructureOrder
  server := h.server
  subscription := h.subscription
  quote := h.quote
  enrollment := h.enrollment.append hparent hid howner

end Created

/-! ## The steps -/

theorem mem_infrastructureOrders {id : String} {row : InfrastructureOrder}
    (h : db.infrastructureOrders.find? id = some row) :
    row.owned ∈ db.owners.infrastructureOrders ∧ row.id = id :=
  ⟨List.mem_map_of_mem (IndexedTable.find?_eq_some.1 h).1, (IndexedTable.find?_eq_some.1 h).2⟩

theorem mem_instances {id : String} {row : CloudInstance} (h : db.instances.find? id = some row) :
    row.owned ∈ db.owners.instances ∧ row.id = id :=
  ⟨List.mem_map_of_mem (IndexedTable.find?_eq_some.1 h).1, (IndexedTable.find?_eq_some.1 h).2⟩

theorem mem_subscriptions {id : String} {row : ServiceSubscription}
    (h : db.subscriptions.find? id = some row) :
    row.owned ∈ db.owners.subscriptions ∧ row.id = id :=
  ⟨List.mem_map_of_mem (IndexedTable.find?_eq_some.1 h).1, (IndexedTable.find?_eq_some.1 h).2⟩

/-- What is found by a unique column. -/
theorem mem_of_column {ρ : Type} (owned : ρ → Owned String String) {rows : List ρ}
    {column : ρ → String} {value : String} {row : ρ}
    (h : rows.find? (fun row => column row = value) = some row) :
    owned row ∈ rows.map owned ∧ column row = value :=
  ⟨List.mem_map_of_mem (List.mem_of_find?_eq_some h), by simpa using List.find?_some h⟩

theorem coherent_payOrder {input : PayOrder} (hcoherent : db.owners.Coherent)
    (h : Tx.Commits (payOrder input) db u db') : db'.owners.Coherent := by
  rw [payOrder, Tx.commits_get_bind, Tx.commits_orThrow_bind] at h
  obtain ⟨order, horder, h⟩ := h
  have hmem := List.mem_map_of_mem (f := ServiceOrder.owned) (Table.mem_of_find? horder)
  rw [Tx.commits_throwIf_bind, Tx.commits_ite] at h
  obtain ⟨howner, ⟨-, h⟩ | ⟨-, h⟩⟩ := h
  · obtain ⟨-, rfl⟩ := Tx.commits_pure.1 h
    exact hcoherent
  · rw [Tx.commits_throwIf_bind, Tx.commits_throwIf_bind, Tx.commits_bind] at h
    obtain ⟨-, -, _, mid, hupdate, h⟩ := h
    have hmid := kept_updateOrder hupdate fun _ => rfl
    cases hinfra : db.infrastructureOf order.id with
    | some infra =>
        rw [hinfra] at h
        obtain ⟨-, rfl⟩ := Tx.commits_pure.1 h
        rw [hmid]
        exact hcoherent
    | none =>
        rw [hinfra] at h
        rw [owners_insertInfrastructure h, hmid]
        exact hcoherent.insertInfrastructure hmem rfl (not_not.1 howner)

theorem coherent_createInstance {infrastructureOrderId instanceId : String}
    (hcoherent : db.owners.Coherent)
    (h : Tx.Commits (createInstance infrastructureOrderId instanceId) db u db') :
    db'.owners.Coherent := by
  rw [createInstance, Tx.commits_get_bind, Tx.commits_orThrow_bind] at h
  obtain ⟨order, horder, h⟩ := h
  cases hinstance : db.instanceOf order.id with
  | some server =>
      rw [hinstance] at h
      obtain ⟨-, rfl⟩ := Tx.commits_pure.1 h
      exact hcoherent
  | none =>
      rw [hinstance] at h
      rw [owners_insertInstance h]
      exact hcoherent.insertInstance (mem_infrastructureOrders horder).1 rfl rfl

/-- An enrollment keeps its owner, or takes the owner of its server. -/
theorem coherent_activateParchinEnrollment {input : EnrollmentInput} (hcoherent : db.owners.Coherent)
    {server : Owned String String} (hserver : server ∈ db.owners.instances)
    (hid : server.id = input.cloudInstanceId) (howner : server.owner = input.userId)
    (h : Tx.Commits (activateParchinEnrollment input) db u db') : db'.owners.Coherent := by
  rw [activateParchinEnrollment, Tx.commits_get_bind] at h
  cases henrollment : db.enrollmentOf input.cloudInstanceId with
  | some enrollment =>
      rw [henrollment] at h
      rw [kept_updateEnrollment h fun _ => rfl]
      exact hcoherent
  | none =>
      rw [henrollment] at h
      rw [owners_insertEnrollment h]
      exact hcoherent.insertEnrollment hserver hid howner

/-- A subscription that is created has the owner of its server. -/
theorem coherent_upsertSubscription {input : Activate} {order : InfrastructureOrder}
    {server : CloudInstance} {subscriptionId : Option String} (hcoherent : db.owners.Coherent)
    (hserver : server.owned ∈ db.owners.instances) (howner : server.userId = order.userId)
    (h : Tx.Commits (upsertSubscription input order server) db subscriptionId db') :
    db'.owners.Coherent ∧ db'.owners.instances = db.owners.instances := by
  rw [upsertSubscription, Tx.commits_ite] at h
  rcases h with ⟨-, h⟩ | ⟨-, h⟩
  · rw [Tx.commits_get_bind] at h
    cases hsubscription : db.subscriptionOf server.id with
    | some subscription =>
        rw [hsubscription] at h
        obtain ⟨-, rfl⟩ := Tx.commits_pure.1 h
        exact ⟨hcoherent, rfl⟩
    | none =>
        rw [hsubscription] at h
        obtain ⟨_, mid, hinsert, h⟩ := Tx.commits_bind.1 h
        obtain ⟨-, rfl⟩ := Tx.commits_pure.1 h
        rw [owners_insertSubscription hinsert]
        exact ⟨hcoherent.insertSubscription hserver rfl howner, rfl⟩
  · obtain ⟨-, rfl⟩ := Tx.commits_pure.1 h
    exact ⟨hcoherent, rfl⟩

theorem coherent_activateApprovedDelivery {input : Activate} (hcoherent : db.owners.Coherent)
    (h : Tx.Commits (activateApprovedDelivery input) db u db') : db'.owners.Coherent := by
  rw [activateApprovedDelivery, Tx.commits_get_bind, Tx.commits_orThrow_bind] at h
  obtain ⟨order, horder, h⟩ := h
  rw [Tx.commits_orThrow_bind] at h
  obtain ⟨server, hserver, h⟩ := h
  rw [Tx.commits_throwIf_bind, Tx.commits_throwIf_bind, Tx.commits_bind] at h
  obtain ⟨-, -, _, first, hinfra, h⟩ := h
  obtain ⟨_, second, hinstance, h⟩ := Tx.commits_bind.1 h
  have hsecond : second.owners = db.owners :=
    (kept_updateInstance hinstance fun _ => rfl).trans (kept_updateInfrastructure hinfra fun _ => rfl)
  obtain ⟨subscriptionId, third, hsubscription, h⟩ := Tx.commits_bind.1 h
  -- the server has the owner of its infrastructure order
  obtain ⟨hmem, href⟩ := mem_of_column CloudInstance.owned hserver
  have howner : order.owned.owner = server.owned.owner :=
    hcoherent.server.owner_eq nodup_infrastructureIds hmem (mem_infrastructureOrders horder).1 href.symm
  have hmemSecond : server.owned ∈ second.owners.instances := by
    rw [hsecond]
    exact hmem
  obtain ⟨hthird, hsame⟩ := coherent_upsertSubscription (hsecond ▸ hcoherent) hmemSecond howner.symm
    hsubscription
  rw [Tx.commits_orThrow_bind] at h
  obtain ⟨serviceOrder, -, h⟩ := h
  cases hlevel : order.parchinLevel <|> serviceOrder.parchinLevel with
  | none =>
      simp only [hlevel] at h
      obtain ⟨-, rfl⟩ := Tx.commits_pure.1 h
      exact hthird
  | some level =>
      simp only [hlevel] at h
      exact coherent_activateParchinEnrollment hthird (hsame ▸ hmemSecond) rfl howner.symm h

theorem coherent_createRenewalQuote {input : CreateRenewalQuote} (hcoherent : db.owners.Coherent)
    (h : Tx.Commits (createRenewalQuote input) db u db') : db'.owners.Coherent := by
  rw [createRenewalQuote, Tx.commits_get_bind, Tx.commits_orThrow_bind] at h
  obtain ⟨subscription, hsubscription, h⟩ := h
  rw [Tx.commits_throwIf_bind, Tx.commits_throwIf_bind, Tx.commits_orThrow_bind] at h
  obtain ⟨howner, -, server, -, h⟩ := h
  rw [Tx.commits_throwIf_bind, Tx.commits_throwIf_bind, Tx.commits_bind] at h
  obtain ⟨-, -, _, mid, hupdate, h⟩ := h
  rw [owners_insertQuote h, kept_updateQuotes hupdate fun _ => rfl]
  exact hcoherent.insertQuote (mem_of_column ServiceSubscription.owned hsubscription).1 rfl (not_not.1 howner)

theorem coherent_payRenewalQuote {input : PayRenewalQuote} (hcoherent : db.owners.Coherent)
    (h : Tx.Commits (payRenewalQuote input) db u db') : db'.owners.Coherent := by
  rw [payRenewalQuote, Tx.commits_get_bind, Tx.commits_orThrow_bind] at h
  obtain ⟨quote, -, h⟩ := h
  rw [Tx.commits_orThrow_bind] at h
  obtain ⟨subscription, hsubscription, h⟩ := h
  rw [Tx.commits_throwIf_bind, Tx.commits_ite] at h
  obtain ⟨-, ⟨-, h⟩ | ⟨-, h⟩⟩ := h
  · obtain ⟨-, rfl⟩ := Tx.commits_pure.1 h
    exact hcoherent
  · rw [Tx.commits_throwIf_bind, Tx.commits_throwIf_bind, Tx.commits_throwIf_bind,
      Tx.commits_orThrow_bind] at h
    obtain ⟨-, -, -, server, hserver, h⟩ := h
    rw [Tx.commits_throwIf_bind, Tx.commits_throwIf_bind, Tx.commits_throwIf_bind,
      Tx.commits_bind] at h
    obtain ⟨-, -, -, _, mid, hupdate, h⟩ := h
    have hmid := kept_updateSubscription hupdate fun _ => rfl
    obtain ⟨hmem, hid⟩ := mem_instances hserver
    have howner : server.owned.owner = subscription.owned.owner :=
      hcoherent.subscription.owner_eq nodup_instanceIds (mem_subscriptions hsubscription).1 hmem hid
    obtain ⟨_, last, hactivate, hquotes⟩ := Tx.commits_bind.1 h
    rw [kept_updateQuotes hquotes fun _ => rfl]
    rw [renewEnrollment, Tx.commits_ite] at hactivate
    rcases hactivate with ⟨-, hactivate⟩ | ⟨-, hactivate⟩
    · exact coherent_activateParchinEnrollment (hmid ▸ hcoherent) (hmid ▸ hmem) hid howner hactivate
    · obtain ⟨-, rfl⟩ := Tx.commits_pure.1 hactivate
      rw [hmid]
      exact hcoherent

theorem owners_requestParchinLevelUpgrade {input : LevelRequest}
    (h : Tx.Commits (requestParchinLevelUpgrade input) db u db') : db'.owners = db.owners := by
  rw [requestParchinLevelUpgrade, Tx.commits_get_bind, Tx.commits_orThrow_bind] at h
  obtain ⟨enrollment, -, h⟩ := h
  rw [Tx.commits_throwIf_bind, Tx.commits_throwIf_bind, Tx.commits_throwIf_bind, Tx.commits_bind] at h
  obtain ⟨-, -, -, _, mid, hupdate, h⟩ := h
  have hmid := kept_updateEnrollment hupdate fun _ => rfl
  cases hsubscription : enrollment.subscriptionId with
  | none =>
      simp only [hsubscription] at h
      obtain ⟨-, rfl⟩ := Tx.commits_pure.1 h
      exact hmid
  | some subscriptionId =>
      simp only [hsubscription, Tx.commits_bind] at h
      obtain ⟨_, last, hlast, hquotes⟩ := h
      exact ((kept_updateQuotes hquotes fun _ => rfl).trans
        (kept_updateSubscription hlast fun _ => rfl)).trans hmid

theorem owners_elsewhere {change : Elsewhere} (h : Tx.Commits (elsewhere change) db u db') :
    db'.owners = db.owners := by
  cases change with
  | user user =>
      rw [elsewhere, Tx.commits_attempt] at h
      obtain ⟨later, -, rfl⟩ := Option.map_eq_some_iff.1 h
      rfl
  | accountStatus userId status =>
      rw [elsewhere, Tx.commits_modify] at h
      subst h
      rfl
  | orderStatus orderId status => exact kept_updateOrder h fun _ => rfl
  | flow infrastructureOrderId state => exact kept_updateInfrastructure h fun _ => rfl
  | instanceStatus instanceId status => exact kept_updateInstance h fun _ => rfl
  | subscriptionStatus subscriptionId status => exact kept_updateSubscription h fun _ => rfl
  | enrollmentStatus enrollmentId status => exact kept_updateEnrollment h fun _ => rfl

/-! ## The transfers -/

section Given

variable {id : String} (owner : String)

theorem given_updateOrder {f : ServiceOrder → ServiceOrder} {hf : ∀ row, (f row).id = row.id}
    (h : Tx.Commits (updateOrder id f hf) db u db')
    (hgive : ∀ row, (f row).owned = row.owned.withOwner owner) : db'.owners =
      { db.owners with orders := Owned.give (fun row => row.id = id) owner db.owners.orders } := by
  have hgiven := map_owned_of_gives (p := fun row : ServiceOrder => row.id = id) (q := fun row => row.id = id)
    hgive fun _ => rfl
  rw [owners_updateOrder h, hgiven]
  rfl

theorem given_updateInfrastructure {f : InfrastructureOrder → InfrastructureOrder}
    {hf : ∀ row, (f row).id = row.id} (h : Tx.Commits (updateInfrastructure id f hf) db u db')
    (hgive : ∀ row, (f row).owned = row.owned.withOwner owner) : db'.owners =
      { db.owners with
        infrastructureOrders :=
          Owned.give (fun row => row.id = id) owner db.owners.infrastructureOrders } := by
  have hgiven := map_owned_of_gives (p := fun row : InfrastructureOrder => row.id = id) (q := fun row => row.id = id)
    hgive fun _ => rfl
  rw [owners_updateInfrastructure h, hgiven]
  rfl

theorem given_updateInstance {f : CloudInstance → CloudInstance} {hf : ∀ row, (f row).id = row.id}
    (h : Tx.Commits (updateInstance id f hf) db u db')
    (hgive : ∀ row, (f row).owned = row.owned.withOwner owner) : db'.owners =
      { db.owners with instances := Owned.give (fun row => row.id = id) owner db.owners.instances } := by
  have hgiven := map_owned_of_gives (p := fun row : CloudInstance => row.id = id) (q := fun row => row.id = id)
    hgive fun _ => rfl
  rw [owners_updateInstance h, hgiven]
  rfl

theorem given_updateSubscription {f : ServiceSubscription → ServiceSubscription}
    {hf : ∀ row, (f row).id = row.id} (h : Tx.Commits (updateSubscription id f hf) db u db')
    (hgive : ∀ row, (f row).owned = row.owned.withOwner owner) : db'.owners =
      { db.owners with
        subscriptions := Owned.give (fun row => row.id = id) owner db.owners.subscriptions } := by
  have hgiven := map_owned_of_gives (p := fun row : ServiceSubscription => row.id = id) (q := fun row => row.id = id)
    hgive fun _ => rfl
  rw [owners_updateSubscription h, hgiven]
  rfl

theorem given_updateQuotes {p : ServiceRenewalQuote → Bool}
    {f : ServiceRenewalQuote → ServiceRenewalQuote} {hf : ∀ row, (f row).id = row.id}
    (h : Tx.Commits (updateQuotes p f hf) db u db')
    (hgive : ∀ row, (f row).owned = row.owned.withOwner owner)
    (hp : ∀ row, p row = decide (row.owned.ref = id)) : db'.owners =
      { db.owners with
        renewalQuotes := Owned.give (fun row => row.ref = id) owner db.owners.renewalQuotes } := by
  rw [owners_updateQuotes h, map_owned_of_gives (q := fun row => row.ref = id) hgive hp]
  rfl

end Given

/-- The server is there and belongs to somebody else, and the target is there and not blocked. -/
def OwnershipDb.reassigns (db : OwnershipDb) (cloudInstanceId targetUserId : String) : Bool :=
  (db.instances.find? cloudInstanceId).any (·.userId ≠ targetUserId) &&
    (db.users.find? targetUserId).any (·.accountStatus ≠ .blocked)

variable {cloudInstanceId targetUserId : String}

/-- A transfer gives the rows of a server to the target, up to the enrollment. -/
theorem owners_reassign
    (h : Tx.Commits (reassignCloudInstanceOwnership cloudInstanceId targetUserId) db u db') :
    ∃ server order, db.instances.find? cloudInstanceId = some server ∧
      db.infrastructureOrders.find? server.infrastructureOrderId = some order ∧
      db.reassigns cloudInstanceId targetUserId = true ∧
      db'.owners =
        { orders := Owned.give (fun row => row.id = order.serviceOrderId) targetUserId db.owners.orders
          infrastructureOrders := Owned.give (fun row => row.id = server.infrastructureOrderId)
            targetUserId db.owners.infrastructureOrders
          instances := Owned.give (fun row => row.id = server.id) targetUserId db.owners.instances
          subscriptions := Owned.give (fun row => (db.subscriptionOf server.id).any (row.id = ·.id))
            targetUserId db.owners.subscriptions
          renewalQuotes := Owned.give (fun row => (db.subscriptionOf server.id).any (row.ref = ·.id))
            targetUserId db.owners.renewalQuotes
          enrollments := db.owners.enrollments } := by
  rw [reassignCloudInstanceOwnership, Tx.commits_get_bind, Tx.commits_orThrow_bind] at h
  obtain ⟨server, hserver, h⟩ := h
  rw [Tx.commits_throwIf_bind, Tx.commits_orThrow_bind] at h
  obtain ⟨howner, target, htarget, h⟩ := h
  obtain rfl := Table.key_of_find? htarget
  rw [Tx.commits_throwIf_bind, Tx.commits_orThrow_bind] at h
  obtain ⟨hblocked, order, horder, h⟩ := h
  refine ⟨server, order, hserver, horder, ?_, ?_⟩
  · simp [OwnershipDb.reassigns, hserver, htarget, howner, hblocked]
  · obtain ⟨_, first, hinstance, h⟩ := Tx.commits_bind.1 h
    obtain ⟨_, second, hinfra, h⟩ := Tx.commits_bind.1 h
    obtain ⟨_, third, horder, h⟩ := Tx.commits_bind.1 h
    have hthird := given_updateOrder target.id horder fun _ => rfl
    rw [given_updateInfrastructure target.id hinfra fun _ => rfl,
      given_updateInstance target.id hinstance fun _ => rfl] at hthird
    cases hsubscription : db.subscriptionOf server.id with
    | none =>
        rw [hsubscription] at h
        obtain ⟨-, rfl⟩ := Tx.commits_pure.1 h
        have hnothing : ∀ rows : List (Owned String String),
            Owned.give (fun _ => false) target.id rows = rows :=
          fun rows => Owned.give_of_none fun _ _ => rfl
        simp only [hthird, Option.any_none, hnothing]
    | some subscription =>
        rw [hsubscription] at h
        obtain ⟨_, fourth, hfourth, hquotes⟩ := Tx.commits_bind.1 h
        rw [given_updateQuotes target.id hquotes (fun _ => rfl) fun _ => rfl,
          given_updateSubscription target.id hfourth fun _ => rfl, hthird]
        rfl

theorem coherent_reassign (hcoherent : db.owners.Coherent)
    (hnone : db.reassigns cloudInstanceId targetUserId = true →
      ∀ row ∈ db.owners.enrollments, row.ref ≠ cloudInstanceId)
    (h : Tx.Commits (reassignCloudInstanceOwnership cloudInstanceId targetUserId) db u db') :
    db'.owners.Coherent := by
  obtain ⟨server, order, hserver, horder, hreassigns, howners⟩ := owners_reassign h
  obtain ⟨hserverMem, rfl⟩ := mem_instances hserver
  obtain ⟨horderMem, horderId⟩ := mem_infrastructureOrders horder
  rw [howners]
  refine ⟨?_, ?_, ?_, ?_, ?_⟩
  · rw [← horderId]
    exact hcoherent.infrastructureOrder.give_row nodup_infrastructureIds nodup_infrastructureRefs
      horderMem targetUserId
  · exact hcoherent.server.give_row nodup_instanceIds nodup_instanceRefs hserverMem targetUserId
  · cases hsubscription : db.subscriptionOf server.id with
    | some subscription =>
        obtain ⟨hmem, href⟩ := mem_of_column ServiceSubscription.owned hsubscription
        rw [← href]
        exact hcoherent.subscription.give_row nodup_subscriptionIds nodup_subscriptionRefs hmem
          targetUserId
    | none =>
        refine hcoherent.subscription.give fun child hchild parent _ hid => ?_
        obtain ⟨row, hrow, rfl⟩ := List.mem_map.1 hchild
        have hne := List.find?_eq_none.1 hsubscription row hrow
        have href : parent.id ≠ server.id := by
          rw [hid]
          exact fun h => hne (decide_eq_true h)
        simp [href]
  · refine hcoherent.quote.give fun child _ parent _ hid => ?_
    rw [hid]
  · have hnothing : Owned.give (fun _ => false) targetUserId db.owners.enrollments =
        db.owners.enrollments := Owned.give_of_none fun _ _ => rfl
    rw [← hnothing]
    refine hcoherent.enrollment.give fun child hchild parent _ hid => ?_
    have hne := hnone hreassigns child hchild
    rw [← hid] at hne
    simp [hne]

/-! ## What is claimed, and the condition -/

/-- The rows of a server have one owner, who alone reads and changes them. -/
structure MovesAsWhole (db : OwnershipDb) (server : CloudInstance) : Prop where
  infrastructureOrder : ∀ row ∈ db.infrastructureOrders.rows, row.id = server.infrastructureOrderId →
    row.userId = server.userId ∧
      ∀ order ∈ db.orders.rows, order.id = row.serviceOrderId → order.userId = server.userId
  subscription : ∀ row ∈ db.subscriptions.rows, row.cloudInstanceId = server.id →
    row.userId = server.userId ∧
      ∀ quote ∈ db.renewalQuotes.rows, quote.subscriptionId = row.id → quote.userId = server.userId
  enrollment : ∀ row ∈ db.enrollments.rows, row.cloudInstanceId = server.id →
    row.userId = server.userId
  reads : ∀ row ∈ db.enrollments.rows, row.cloudInstanceId = server.id → ∀ userId,
    (getCustomerParchinEnrollment db userId row.id).isSome = true ↔ userId = server.userId
  requests : ∀ row ∈ db.enrollments.rows, row.cloudInstanceId = server.id → ∀ input u db',
    input.enrollmentId = row.id → Tx.Commits (requestParchinLevelUpgrade input) db u db' →
      input.userId = server.userId
  quotes : ∀ input u db', input.instanceId = server.id →
    Tx.Commits (createRenewalQuote input) db u db' → input.userId = server.userId
  pays : ∀ input u db', input.instanceId = server.id →
    Tx.Commits (payRenewalQuote input) db u db' → input.userId = server.userId

/-- A transfer moves no server that has an enrollment. -/
def Unenrolled (db : OwnershipDb) : OwnershipEvent → Prop
  | .adminTransferServer cloudInstanceId fromUserId toUserId =>
      (db.instances.find? cloudInstanceId).any (·.userId = fromUserId) = true →
        db.reassigns cloudInstanceId toUserId = true → (db.enrollmentOf cloudInstanceId).isNone = true
  | .adminAttachServer targetUserId cloudInstanceId =>
      db.reassigns cloudInstanceId targetUserId = true → (db.enrollmentOf cloudInstanceId).isNone = true
  | _ => True

instance (db : OwnershipDb) (event : OwnershipEvent) : Decidable (Unenrolled db event) :=
  match event with
  | .adminTransferServer cloudInstanceId fromUserId toUserId =>
      inferInstanceAs (Decidable
        ((db.instances.find? cloudInstanceId).any (·.userId = fromUserId) = true →
          db.reassigns cloudInstanceId toUserId = true → (db.enrollmentOf cloudInstanceId).isNone = true))
  | .adminAttachServer targetUserId cloudInstanceId =>
      inferInstanceAs (Decidable (db.reassigns cloudInstanceId targetUserId = true →
        (db.enrollmentOf cloudInstanceId).isNone = true))
  | .placeOrder _ | .payOrder _ | .createInstance _ _ | .activateApprovedDelivery _
  | .createRenewalQuote _ | .payRenewalQuote _ | .requestParchinLevelUpgrade _ | .elsewhere _ =>
      inferInstanceAs (Decidable True)

/-! ## Every run -/

theorem commits_step (db : OwnershipDb) (event : OwnershipEvent) :
    (step db event).1 = db ∨ Tx.Commits event.tx db () (step db event).1 := by
  cases hrun : event.tx.transaction db with
  | mk result later =>
      have hlater : (step db event).1 = later := by rw [step, hrun]; rfl
      rw [hlater]
      cases result with
      | error e => exact .inl (Tx.transaction_error hrun).1
      | ok u => exact .inr (Tx.transaction_ok.1 hrun)

theorem refs_ne_of_enrollmentOf (h : (db.enrollmentOf cloudInstanceId).isNone = true) :
    ∀ row ∈ db.owners.enrollments, row.ref ≠ cloudInstanceId := by
  intro enrollment henrollment
  obtain ⟨row, hrow, rfl⟩ := List.mem_map.1 henrollment
  exact fun hsame => List.find?_eq_none.1 (Option.isNone_iff_eq_none.1 h) row hrow
    (decide_eq_true hsame)

/-- **A step keeps the owners of rows that refer to each other the same**, up to a transfer of a server
that has an enrollment. -/
theorem coherent_step (db : OwnershipDb) (event : OwnershipEvent) (hok : Unenrolled db event)
    (hcoherent : db.owners.Coherent) : (step db event).1.owners.Coherent := by
  rcases commits_step db event with hsame | h
  · rw [hsame]
    exact hcoherent
  · cases event with
    | placeOrder order =>
        rw [owners_insertOrder h]
        exact hcoherent.insertOrder order.owned
    | payOrder input => exact coherent_payOrder hcoherent h
    | createInstance infrastructureOrderId instanceId => exact coherent_createInstance hcoherent h
    | activateApprovedDelivery input => exact coherent_activateApprovedDelivery hcoherent h
    | createRenewalQuote input => exact coherent_createRenewalQuote hcoherent h
    | payRenewalQuote input => exact coherent_payRenewalQuote hcoherent h
    | requestParchinLevelUpgrade input =>
        rw [owners_requestParchinLevelUpgrade h]
        exact hcoherent
    | elsewhere change =>
        rw [owners_elsewhere h]
        exact hcoherent
    | adminAttachServer targetUserId cloudInstanceId =>
        exact coherent_reassign hcoherent (fun hreassigns => refs_ne_of_enrollmentOf (hok hreassigns)) h
    | adminTransferServer cloudInstanceId fromUserId toUserId =>
        replace h : Tx.Commits (adminTransferServer cloudInstanceId fromUserId toUserId) db ()
          (step db (.adminTransferServer cloudInstanceId fromUserId toUserId)).1 := h
        rw [adminTransferServer, Tx.commits_get_bind, Tx.commits_orThrow_bind] at h
        obtain ⟨server, hserver, h⟩ := h
        rw [Tx.commits_throwIf_bind] at h
        have hfrom : (db.instances.find? cloudInstanceId).any (·.userId = fromUserId) = true := by
          rw [hserver, Option.any_some, decide_eq_true_eq]
          exact not_not.1 h.1
        exact coherent_reassign hcoherent
          (fun hreassigns => refs_ne_of_enrollmentOf (hok hfrom hreassigns)) h.2

theorem coherent_emptyDb : emptyDb.owners.Coherent where
  infrastructureOrder := Owned.follows_nil
  server := Owned.follows_nil
  subscription := Owned.follows_nil
  quote := Owned.follows_nil
  enrollment := Owned.follows_nil

/-! ## What follows for a server -/

/-- Only the owner of an enrollment reads it. -/
theorem isSome_getCustomerParchinEnrollment {row : ParchinEnrollment} (hrow : row ∈ db.enrollments.rows)
    (userId : String) :
    (getCustomerParchinEnrollment db userId row.id).isSome = true ↔ userId = row.userId := by
  have hfind : db.enrollments.find? row.id = some row := IndexedTable.find?_eq_some.2 ⟨hrow, rfl⟩
  rw [getCustomerParchinEnrollment, hfind]
  by_cases hsame : row.userId = userId
  · simp [hsame]
  · simp [hsame, Ne.symm hsame]

theorem isSome_of_request {input : LevelRequest}
    (h : Tx.Commits (requestParchinLevelUpgrade input) db u db') :
    (getCustomerParchinEnrollment db input.userId input.enrollmentId).isSome = true := by
  rw [requestParchinLevelUpgrade, Tx.commits_get_bind, Tx.commits_orThrow_bind] at h
  obtain ⟨enrollment, hfound, -⟩ := h
  rw [hfound]
  rfl

theorem owner_of_createRenewalQuote {input : CreateRenewalQuote}
    (h : Tx.Commits (createRenewalQuote input) db u db') :
    ∃ row ∈ db.subscriptions.rows, row.cloudInstanceId = input.instanceId ∧
      row.userId = input.userId := by
  rw [createRenewalQuote, Tx.commits_get_bind, Tx.commits_orThrow_bind] at h
  obtain ⟨subscription, hsubscription, h⟩ := h
  rw [Tx.commits_throwIf_bind] at h
  refine ⟨subscription, List.mem_of_find?_eq_some hsubscription, ?_, not_not.1 h.1⟩
  simpa using List.find?_some hsubscription

theorem owner_of_payRenewalQuote {input : PayRenewalQuote}
    (h : Tx.Commits (payRenewalQuote input) db u db') :
    ∃ row ∈ db.subscriptions.rows, row.cloudInstanceId = input.instanceId ∧
      ∃ quote ∈ db.renewalQuotes.rows, quote.subscriptionId = row.id ∧ quote.userId = input.userId := by
  rw [payRenewalQuote, Tx.commits_get_bind, Tx.commits_orThrow_bind] at h
  obtain ⟨quote, hquote, h⟩ := h
  rw [Tx.commits_orThrow_bind] at h
  obtain ⟨subscription, hsubscription, h⟩ := h
  rw [Tx.commits_throwIf_bind, not_or] at h
  obtain ⟨hmem, hid⟩ := IndexedTable.find?_eq_some.1 hsubscription
  exact ⟨subscription, hmem, not_not.1 h.1.2, quote, Table.mem_of_find? hquote, hid.symm,
    not_not.1 h.1.1⟩

theorem movesAsWhole (hcoherent : db.owners.Coherent) {server : CloudInstance}
    (hserver : server ∈ db.instances.rows) : MovesAsWhole db server := by
  have hmem := List.mem_map_of_mem (f := CloudInstance.owned) hserver
  have hinfra : ∀ row ∈ db.infrastructureOrders.rows, row.id = server.infrastructureOrderId →
      row.userId = server.userId := fun row hrow hid =>
    hcoherent.server.owner_eq nodup_infrastructureIds hmem
      (List.mem_map_of_mem (f := InfrastructureOrder.owned) hrow) hid
  have hsubscription : ∀ row ∈ db.subscriptions.rows, row.cloudInstanceId = server.id →
      row.userId = server.userId := fun row hrow hid =>
    (hcoherent.subscription.owner_eq nodup_instanceIds
      (List.mem_map_of_mem (f := ServiceSubscription.owned) hrow) hmem hid.symm).symm
  have hquote : ∀ row ∈ db.subscriptions.rows, row.cloudInstanceId = server.id →
      ∀ quote ∈ db.renewalQuotes.rows, quote.subscriptionId = row.id →
        quote.userId = server.userId := fun row hrow hid quote hquote hsame =>
    (hcoherent.quote.owner_eq nodup_subscriptionIds
      (List.mem_map_of_mem (f := ServiceRenewalQuote.owned) hquote)
      (List.mem_map_of_mem (f := ServiceSubscription.owned) hrow) hsame.symm).symm.trans
        (hsubscription row hrow hid)
  have henrollment : ∀ row ∈ db.enrollments.rows, row.cloudInstanceId = server.id →
      row.userId = server.userId := fun row hrow hid =>
    (hcoherent.enrollment.owner_eq nodup_instanceIds
      (List.mem_map_of_mem (f := ParchinEnrollment.owned) hrow) hmem hid.symm).symm
  have hreads : ∀ row ∈ db.enrollments.rows, row.cloudInstanceId = server.id → ∀ userId,
      (getCustomerParchinEnrollment db userId row.id).isSome = true ↔ userId = server.userId := by
    intro row hrow hid userId
    rw [isSome_getCustomerParchinEnrollment hrow, henrollment row hrow hid]
  refine ⟨fun row hrow hid => ⟨hinfra row hrow hid, fun order horder hsame => ?_⟩,
    fun row hrow hid => ⟨hsubscription row hrow hid, hquote row hrow hid⟩, henrollment, hreads, ?_, ?_, ?_⟩
  · have howner := hcoherent.infrastructureOrder.owner_eq nodup_orderIds
      (List.mem_map_of_mem (f := InfrastructureOrder.owned) hrow)
      (List.mem_map_of_mem (f := ServiceOrder.owned) horder) hsame
    exact howner.trans (hinfra row hrow hid)
  · intro row hrow hid input u db' hinput h
    refine (hreads row hrow hid input.userId).1 ?_
    rw [← hinput]
    exact isSome_of_request h
  · intro input u db' hinput h
    obtain ⟨row, hrow, hid, howner⟩ := owner_of_createRenewalQuote h
    exact howner.symm.trans (hsubscription row hrow (hid.trans hinput))
  · intro input u db' hinput h
    obtain ⟨row, hrow, hid, quote, hmemQuote, hsame, howner⟩ := owner_of_payRenewalQuote h
    exact howner.symm.trans (hquote row hrow (hid.trans hinput) quote hmemQuote hsame)

/-- **A server moves as a whole**, in a run that transfers no server with an enrollment. -/
theorem moves_as_whole (events : List OwnershipEvent) (hunenrolled : Meets step Unenrolled emptyDb events)
    (server : CloudInstance) (hserver : server ∈ (run step emptyDb events).instances.rows) :
    MovesAsWhole (run step emptyDb events) server :=
  movesAsWhole (run_of_meets (p := fun db => db.owners.Coherent) coherent_step coherent_emptyDb
    hunenrolled) hserver

/-! ## Two runs -/

/-- A user buys a server with a Parchin level, which is delivered. -/
def delivered : List OwnershipEvent := [
  .elsewhere (.user ⟨"seller", .active⟩),
  .elsewhere (.user ⟨"buyer", .active⟩),
  .placeOrder ⟨"order", "seller", .pendingPayment, some .start⟩,
  .payOrder ⟨"order", "seller", "infrastructure", true, none, true⟩,
  .createInstance "infrastructure" "server",
  .elsewhere (.flow "infrastructure" .delivered)]

def activation : OwnershipEvent :=
  .activateApprovedDelivery ⟨"infrastructure", "subscription", "enrollment", 0, true⟩

/-- A server that is transferred before its delivery moves with what the delivery creates. -/
theorem moves_as_whole_sample :
    (run step emptyDb (delivered ++
      [.adminTransferServer "server" "seller" "buyer", activation])).instances.rows.length = 1 ∧
    ∀ server ∈ (run step emptyDb (delivered ++
        [.adminTransferServer "server" "seller" "buyer", activation])).instances.rows,
      MovesAsWhole (run step emptyDb (delivered ++
        [.adminTransferServer "server" "seller" "buyer", activation])) server :=
  ⟨by decide +kernel, moves_as_whole _ (by decide +kernel)⟩

/-- **The enrollment stays with the former owner.** -/
theorem enrollment_stays_behind : ¬ ∀ (events : List OwnershipEvent),
    ∀ server ∈ (run step emptyDb events).instances.rows,
      MovesAsWhole (run step emptyDb events) server := by
  intro hclaim
  have howners : (run step emptyDb (delivered ++
      [activation, .adminTransferServer "server" "seller" "buyer"])).instances.rows.map
        (fun row => (row.id, row.userId)) = [("server", "buyer")] := by
    decide +kernel
  have henrollments : (run step emptyDb (delivered ++
      [activation, .adminTransferServer "server" "seller" "buyer"])).enrollments.rows.map
        (fun row => (row.cloudInstanceId, row.userId)) = [("server", "seller")] := by
    decide +kernel
  have hmoves := hclaim (delivered ++ [activation, .adminTransferServer "server" "seller" "buyer"])
  generalize run step emptyDb (delivered ++
    [activation, .adminTransferServer "server" "seller" "buyer"]) = db at *
  obtain ⟨server, hserver, hrow⟩ := List.mem_map.1 (howners ▸ List.mem_singleton_self ("server", "buyer"))
  obtain ⟨enrollment, henrollment, hcolumns⟩ :=
    List.mem_map.1 (henrollments ▸ List.mem_singleton_self ("server", "seller"))
  obtain ⟨hid, howner⟩ := Prod.mk.inj hrow
  obtain ⟨href, hother⟩ := Prod.mk.inj hcolumns
  have hsame := (hmoves server hserver).enrollment enrollment henrollment (href.trans hid.symm)
  rw [hother, howner] at hsame
  exact absurd hsame (by decide)

end AbrChin.Ownership
