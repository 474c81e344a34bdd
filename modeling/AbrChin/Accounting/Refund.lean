import AbrChin.Accounting.Purchase

/-!
# Posting a refund

`postServiceRefundCompleted` of `lib/accounting/posting.ts`: the purchase of the order is posted,
or found as it was posted before, and its entry is reversed.

The reversal changes the quality of the entry, and the replay check of the purchase compares it.
So a second refund is refused, unless the first one has not reversed the purchase: its key was
taken by an entry that reverses nothing.
-/

namespace AbrChin.Accounting

open Lib Js

/-- The idempotency key of a refund. -/
def refundKey (orderId : String) : String := "refund:" ++ orderId ++ ":completed:v1"

/-- The ids of the entries that a refund may create. -/
structure RefundIds where
  purchase : String
  reversal : String

/-- What a refund asks `reverseJournalEntry` for. -/
def refundReversal (orderId purchaseId : String) : ReverseJournalEntryInput where
  journalEntryId := purchaseId
  idempotencyKey := refundKey orderId
  reason := some "service_order_refunded"

/-- The entry of the purchase is locked by its key; its reads see the transaction's own writes. -/
def postServiceRefundCompleted (order : PurchasedOrder) (ids : RefundIds) (now : ℤ) :
    Tx Journal JournalError JournalEntry := do
  let _ ← postServicePurchaseCompleted order ids.purchase now
  let journal ← Tx.get
  let purchase ← Tx.orThrow (.purchaseJournalMissing order.id) (byKey journal (purchaseKey order.id))
  reverseJournalEntryTx (refundReversal order.id purchase.id) (fun _ => journal) ids.reversal now

/-- The key of the refund is taken by an entry that does not reverse the purchase. -/
def RefundKeyTaken (orderId : String) (journal : Journal) : Prop :=
  ∃ entry, byKey journal (refundKey orderId) = some entry ∧
    ∀ purchase, byKey journal (purchaseKey orderId) = some purchase →
      entry.reversesEntryId ≠ some purchase.id

/-- The key of the refund is taken by an entry that reverses nothing. -/
theorem refundKeyTaken_of_plain {orderId : String} {journal : Journal}
    (h : (byKey journal (refundKey orderId)).any (·.reversesEntryId = none) = true) :
    RefundKeyTaken orderId journal := by
  obtain ⟨entry, hentry, hplain⟩ := (Option.any_eq_true _ _).1 h
  refine ⟨entry, hentry, fun purchase _ hreverses => ?_⟩
  rw [of_decide_eq_true hplain] at hreverses
  cases hreverses

/-! ## The keys -/

theorem trim_refundKey (orderId : String) : trim (refundKey orderId) = refundKey orderId := by
  have hlist : (refundKey orderId).toList =
      ('r' :: ("efund:".toList ++ orderId.toList ++ ":completed:v".toList)) ++ ['1'] := by
    simp [refundKey]
  apply trim_of_ends
  · intro c hc
    rw [hlist, List.cons_append, List.head?_cons] at hc
    rw [← Option.some.inj hc]
    decide
  · intro c hc
    rw [hlist, List.getLast?_concat] at hc
    rw [← Option.some.inj hc]
    decide

theorem refundKey_ne_purchaseKey (orderId : String) : refundKey orderId ≠ purchaseKey orderId := by
  intro h
  have hlist := congrArg (fun key => key.toList.head?) h
  simp [refundKey, purchaseKey] at hlist

/-! ## Lookups after a write -/

theorem byKey_of_createEntry {entry : JournalEntry} {journal journal' : Journal}
    (h : createEntry entry journal = some journal') (key : String) :
    byKey journal' key =
      (byKey journal key).or (if entry.idempotencyKey = key then some entry else none) := by
  unfold byKey
  rw [(rows_of_createEntry h).1, List.find?_append]
  by_cases hkey : entry.idempotencyKey = key <;> simp [hkey]

variable {id : String}

theorem byKey_of_updateReversed {p : JournalEntry → Bool} {journal journal' : Journal}
    (h : updateReversed id p journal = some journal') (key : String) :
    byKey journal' key =
      (byKey journal key).map fun row => if row.id = id then row.markReversed else row := by
  have hcomp : ((fun row : JournalEntry => decide (row.idempotencyKey = key)) ∘
      fun row => if row.id = id then row.markReversed else row) =
      fun row => decide (row.idempotencyKey = key) := by
    funext row
    dsimp only [Function.comp]
    split <;> rfl
  unfold byKey
  rw [(rows_of_updateReversed h).2, List.find?_map, hcomp]

/-- An entry that is there can be marked. -/
theorem updateReversed_isSome {p : JournalEntry → Bool} {journal : Journal} {row : JournalEntry}
    (hrow : journal.find? id = some row) (hp : p row = true) :
    (updateReversed id p journal).isSome := by
  unfold updateReversed IndexedTable.updateIf?
  rw [hrow, if_pos (by simpa using hp)]
  apply IndexedTable.modify?_isSome
  intro index hindex entry
  simp only [JournalEntry.indexes, List.mem_cons, List.not_mem_nil, or_false] at hindex
  rcases hindex with rfl | rfl <;> rfl

/-! ## Replays -/

variable {input : PostJournalEntryInput} {existing : JournalEntry}

/-- A post under a key that is taken. -/
theorem commits_post_taken {now : ℤ} {journal journal' : Journal} {entry : JournalEntry}
    (htaken : byKey journal (trim input.idempotencyKey) = some existing) :
    Tx.Commits (postJournalEntryTx input id now) journal entry journal' ↔
      trim input.idempotencyKey ≠ "" ∧
      (∃ normalized, validateLines input.lines = .ok normalized ∧
        assertReplayMatch existing input normalized = .ok ()) ∧
      entry = existing ∧ journal' = journal := by
  unfold postJournalEntryTx
  simp only [Tx.commits_bind, Tx.commits_throwIf, Tx.commits_ofExcept, Tx.commits_get]
  constructor
  · rintro ⟨_, _, ⟨hkey, rfl⟩, normalized, _, ⟨hlines, rfl⟩, _, _, ⟨rfl, rfl⟩, h⟩
    rw [htaken] at h
    simp only [Tx.commits_bind, Tx.commits_ofExcept, Tx.commits_pure] at h
    obtain ⟨_, _, ⟨hmatch, rfl⟩, rfl, rfl⟩ := h
    exact ⟨hkey, ⟨normalized, hlines, hmatch⟩, rfl, rfl⟩
  · rintro ⟨hkey, ⟨normalized, hlines, hmatch⟩, rfl, rfl⟩
    refine ⟨(), journal', ⟨hkey, rfl⟩, normalized, journal', ⟨hlines, rfl⟩, journal', journal',
      ⟨rfl, rfl⟩, ?_⟩
    rw [htaken]
    simp only [Tx.commits_bind, Tx.commits_ofExcept, Tx.commits_pure]
    exact ⟨(), journal', ⟨hmatch, rfl⟩, trivial, rfl⟩

variable {normalized : List JournalLine}

/-- An entry that is replayed has the quality that the post asks for. -/
theorem quality_of_match (h : assertReplayMatch existing input normalized = .ok ()) :
    existing.quality = input.quality.getD .final := by
  unfold assertReplayMatch at h
  obtain ⟨_, hfields, -⟩ := bind_eq_ok.1 h
  have hfields := throwIf_eq_ok.1 hfields
  push Not at hfields
  exact hfields.2.2.2.1

/-- A post replays the entry that it has created. -/
theorem assertReplayMatch_entry (h : validateLines input.lines = .ok normalized) (id : String)
    (now : ℤ) :
    assertReplayMatch (input.entry normalized id now) input normalized = .ok () := by
  obtain ⟨-, horder, -⟩ := validateLines_eq_ok h
  have hsorted : sortLines (input.entry normalized id now).lines = normalized := sortLines_eq horder
  unfold assertReplayMatch
  refine bind_eq_ok.2 ⟨(), throwIf_eq_ok.2 ?_, bind_eq_ok.2 ⟨(), throwIf_eq_ok.2 ?_,
    throwIf_eq_ok.2 ?_⟩⟩
  · simp [PostJournalEntryInput.entry]
  · simp [PostJournalEntryInput.entry]
  · rw [hsorted]
    simp

variable {seen : ℕ → Journal}

/-- A reversal under a key that is taken. -/
theorem commits_reverse_taken {input : ReverseJournalEntryInput} {now : ℤ}
    {journal journal' : Journal} {entry : JournalEntry}
    (htaken : byKey journal (trim input.idempotencyKey) = some existing) :
    Tx.Commits (reverseJournalEntryTx input seen id now) journal entry journal' ↔
      trim input.idempotencyKey ≠ "" ∧
      ¬ (existing.reversesEntryId.any fun reversed =>
        reversed ≠ "" && reversed ≠ input.journalEntryId) ∧
      entry = existing ∧
      journal' = if existing.reversesEntryId = some input.journalEntryId then
        (updateReversed input.journalEntryId (·.status = .posted) journal).getD journal
      else journal := by
  unfold reverseJournalEntryTx
  simp only [Tx.commits_bind, Tx.commits_throwIf, Tx.commits_get]
  constructor
  · rintro ⟨_, _, ⟨hkey, rfl⟩, _, _, ⟨rfl, rfl⟩, h⟩
    rw [htaken] at h
    simp only [Tx.commits_bind, Tx.commits_throwIf] at h
    obtain ⟨_, _, ⟨hfree, rfl⟩, h⟩ := h
    refine ⟨hkey, hfree, ?_⟩
    split_ifs at h ⊢
    · simp only [Tx.commits_bind, Tx.commits_modify, Tx.commits_pure] at h
      obtain ⟨_, _, rfl, rfl, rfl⟩ := h
      exact ⟨rfl, rfl⟩
    · exact Tx.commits_pure.1 h
  · rintro ⟨hkey, hfree, rfl, rfl⟩
    refine ⟨(), journal, ⟨hkey, rfl⟩, journal, journal, ⟨rfl, rfl⟩, ?_⟩
    rw [htaken]
    simp only [Tx.commits_bind, Tx.commits_throwIf]
    refine ⟨(), journal, ⟨hfree, rfl⟩, ?_⟩
    split_ifs
    · simp only [Tx.commits_bind, Tx.commits_modify, Tx.commits_pure]
      exact ⟨(), _, rfl, trivial, rfl⟩
    · exact Tx.commits_pure.2 ⟨rfl, rfl⟩

/-- A reversal of a POSTED entry under a free key creates the reversing entry and marks it. -/
theorem commits_reverse_free {input : ReverseJournalEntryInput} {now : ℤ}
    {journal journal' : Journal} {original entry : JournalEntry}
    (hfree : byKey journal (trim input.idempotencyKey) = none)
    (horiginal : (seen 0).find? input.journalEntryId = some original)
    (hposted : original.status = .posted)
    (h : Tx.Commits (reverseJournalEntryTx input seen id now) journal entry journal') :
    ∃ mid, entry.idempotencyKey = trim input.idempotencyKey ∧
      createEntry entry journal = some mid ∧
      updateReversed original.id (fun _ => true) mid = some journal' := by
  unfold reverseJournalEntryTx at h
  simp only [Tx.commits_bind, Tx.commits_throwIf, Tx.commits_get] at h
  obtain ⟨_, _, ⟨-, rfl⟩, _, _, ⟨rfl, rfl⟩, h⟩ := h
  rw [hfree] at h
  simp only [Tx.commits_bind, Tx.commits_orThrow] at h
  obtain ⟨found, _, ⟨hfound, rfl⟩, h⟩ := h
  rw [horiginal] at hfound
  cases hfound
  have hnot : ¬ original.status = .reversed := by
    rw [hposted]
    rintro ⟨⟩
  simp only [if_neg hnot, Tx.commits_bind, Tx.commits_throwIf, Tx.commits_attempt,
    Tx.commits_pure] at h
  obtain ⟨_, _, ⟨-, rfl⟩, _, mid, hpost, _, _, hmark, rfl, rfl⟩ := h
  have hkey : trim (original.reversal input now).idempotencyKey = trim input.idempotencyKey :=
    trim_trim _
  rcases commits_post hpost with ⟨htaken, -⟩ | ⟨-, normalized, -, hentry, hcreate⟩
  · rw [hkey, hfree] at htaken
    cases htaken
  · refine ⟨mid, ?_, hcreate, hmark⟩
    rw [hentry]
    exact hkey

/-! ## Marked entries -/

/-- A reversed entry has the quality REVERSED. -/
def Marked (journal : Journal) : Prop :=
  ∀ entry ∈ journal.rows, entry.status = .reversed → entry.quality = .reversed

theorem marked_empty : Marked IndexedTable.empty := fun _ h => nomatch h

theorem Marked.create {journal journal' : Journal} {entry : JournalEntry} (h : Marked journal)
    (hcreate : createEntry entry journal = some journal') (hposted : entry.status = .posted) :
    Marked journal' := by
  intro row hrow hreversed
  rw [(rows_of_createEntry hcreate).1, List.mem_append, List.mem_singleton] at hrow
  rcases hrow with hrow | rfl
  · exact h row hrow hreversed
  · rw [hposted] at hreversed
    cases hreversed

theorem Marked.mark {journal journal' : Journal} {p : JournalEntry → Bool} (h : Marked journal)
    (hmark : updateReversed id p journal = some journal') :
    Marked journal' := by
  intro row' hrow' hreversed
  obtain ⟨row, hrow, rfl⟩ := (mem_of_updateReversed hmark).1 hrow'
  by_cases hid : row.id = id
  · rw [if_pos hid]
    rfl
  · rw [if_neg hid] at hreversed ⊢
    exact h row hrow hreversed

theorem Marked.step {journal journal' : Journal} {operation : Operation} {entry : JournalEntry}
    (h : Marked journal) (hcommits : Tx.Commits (operation.tx seen) journal entry journal') :
    Marked journal' := by
  cases operation with
  | post input id now =>
      rcases commits_post hcommits with ⟨-, rfl⟩ | ⟨-, normalized, -, rfl, hcreate⟩
      · exact h
      · exact h.create hcreate rfl
  | reverse input id now =>
      rcases commits_reverse hcommits with ⟨rfl, -⟩ | ⟨-, -, hmark⟩ |
        ⟨-, original, normalized, mid, -, -, -, rfl, hcreate, hmark⟩
      · exact h
      · exact h.mark hmark
      · exact (h.create hcreate rfl).mark hmark

/-- In every run, a reversed entry has the quality REVERSED. -/
theorem marked_run (calls : List (Versions.Call Operation)) :
    Marked (run stepJournal (Versions.init IndexedTable.empty) calls).current :=
  (Versions.ever_run Operation.tx Marked (fun _ _ _ _ _ _ h hcommits => h.step hcommits)
    (Versions.ever_init marked_empty) calls).current

/-! ## The purchase of a refund -/

/-- A purchase is never posted as reversed. -/
theorem servicePurchase_quality (order : PurchasedOrder) :
    (servicePurchase order).quality.getD .final ≠ .reversed := by
  unfold servicePurchase
  dsimp only
  split_ifs <;> simp

/-- The purchase in the journal after it has been posted. -/
structure Purchased (order : PurchasedOrder) (purchase : JournalEntry) (before after : Journal) :
    Prop where
  byKey : byKey after (purchaseKey order.id) = some purchase
  quality : purchase.quality ≠ .reversed
  replays : ∀ id now, Tx.Commits (postServicePurchaseCompleted order id now) after purchase after
  others : ∀ key, key ≠ purchaseKey order.id →
    Accounting.byKey after key = Accounting.byKey before key
  isNew : after = before ∨ (Accounting.byKey before (purchaseKey order.id) = none ∧
    ∀ row ∈ before.rows, row.id ≠ purchase.id)

variable {purchase : JournalEntry}

theorem purchased_of_commits {order : PurchasedOrder} {now : ℤ} {journal journal' : Journal}
    (h : Tx.Commits (postServicePurchaseCompleted order id now) journal purchase journal') :
    Purchased order purchase journal journal' := by
  obtain ⟨hkey, hplain, -⟩ := servicePurchase_plain order
  have htrim : trim (servicePurchase order).idempotencyKey = purchaseKey order.id := by
    rw [hkey, trim_purchaseKey]
  unfold postServicePurchaseCompleted at h
  rcases commits_post h with ⟨htaken, rfl⟩ | ⟨hfree, normalized, hlines, rfl, hcreate⟩
  · obtain ⟨-, ⟨normalized, hlines, hmatch⟩, -, -⟩ := (commits_post_taken htaken).1 h
    rw [htrim] at htaken
    refine ⟨htaken, ?_, ?_, fun _ _ => rfl, .inl rfl⟩
    · rw [quality_of_match hmatch]
      exact servicePurchase_quality order
    · intro id now
      refine (commits_post_taken (by rw [htrim, htaken])).2
        ⟨?_, ⟨normalized, hlines, hmatch⟩, rfl, rfl⟩
      rw [htrim]
      exact purchaseKey_ne_empty order.id
  · rw [htrim] at hfree
    have hentry : ((servicePurchase order).entry normalized id now).idempotencyKey =
        purchaseKey order.id := htrim
    have hfound : byKey journal' (purchaseKey order.id) =
        some ((servicePurchase order).entry normalized id now) := by
      rw [byKey_of_createEntry hcreate, hfree, if_pos hentry]
      rfl
    refine ⟨hfound, servicePurchase_quality order, ?_, ?_, .inr ⟨hfree, ?_⟩⟩
    · intro id' now'
      refine (commits_post_taken (by rw [htrim, hfound])).2
        ⟨?_, ⟨normalized, hlines, assertReplayMatch_entry hlines id now⟩, rfl, rfl⟩
      rw [htrim]
      exact purchaseKey_ne_empty order.id
    · intro key hother
      rw [byKey_of_createEntry hcreate, hentry, if_neg (Ne.symm hother), Option.or_none]
    · exact (rows_of_createEntry hcreate).2.1

/-- A purchase whose entry has been reversed is refused. -/
theorem not_purchased_of_reversed {order : PurchasedOrder} {now : ℤ} {journal journal' : Journal}
    {stored : JournalEntry} (hstored : byKey journal (purchaseKey order.id) = some stored)
    (hreversed : stored.quality = .reversed) :
    ¬ Tx.Commits (postServicePurchaseCompleted order id now) journal purchase journal' := by
  intro h
  obtain ⟨hkey, -, -⟩ := servicePurchase_plain order
  have htaken : byKey journal (trim (servicePurchase order).idempotencyKey) = some stored := by
    rw [hkey, trim_purchaseKey, hstored]
  obtain ⟨-, ⟨normalized, -, hmatch⟩, -⟩ := (commits_post_taken htaken).1 h
  rw [quality_of_match hmatch] at hreversed
  exact servicePurchase_quality order hreversed

/-! ## Posting a refund again -/

section Again

variable {order : PurchasedOrder} {ids : RefundIds} {now : ℤ} {journal journal' : Journal}
  {entry : JournalEntry}

theorem commits_refund : Tx.Commits (postServiceRefundCompleted order ids now) journal entry journal' ↔
    ∃ purchase mid, Tx.Commits (postServicePurchaseCompleted order ids.purchase now) journal
        purchase mid ∧
      ∃ stored, byKey mid (purchaseKey order.id) = some stored ∧
        Tx.Commits (reverseJournalEntryTx (refundReversal order.id stored.id) (fun _ => mid)
          ids.reversal now) mid entry journal' := by
  unfold postServiceRefundCompleted
  simp only [Tx.commits_bind, Tx.commits_get, Tx.commits_orThrow]
  constructor
  · rintro ⟨purchase, mid, hpurchase, _, _, ⟨rfl, rfl⟩, stored, _, ⟨hstored, rfl⟩, hreverse⟩
    exact ⟨purchase, _, hpurchase, stored, hstored, hreverse⟩
  · rintro ⟨purchase, mid, hpurchase, stored, hstored, hreverse⟩
    exact ⟨purchase, mid, hpurchase, mid, mid, ⟨rfl, rfl⟩, stored, mid, ⟨hstored, rfl⟩, hreverse⟩

/-- After a refund that has found its key taken, a further one returns the same entry. -/
theorem refund_again_of_taken (hkept : Kept journal)
    (h : Tx.Commits (postServiceRefundCompleted order ids now) journal entry journal')
    (htaken : RefundKeyTaken order.id journal) (ids' : RefundIds) (now' : ℤ) :
    Tx.Commits (postServiceRefundCompleted order ids' now') journal' entry journal' := by
  obtain ⟨existing, hexisting, hother⟩ := htaken
  obtain ⟨purchase, mid, hpost, stored, hstored, hreverse⟩ := commits_refund.1 h
  have hpurchased := purchased_of_commits hpost
  obtain rfl : purchase = stored := Option.some.inj (hpurchased.byKey.symm.trans hstored)
  have hkey : trim (refundReversal order.id purchase.id).idempotencyKey = refundKey order.id :=
    trim_refundKey order.id
  have hmid : byKey mid (trim (refundReversal order.id purchase.id).idempotencyKey) =
      some existing := by
    rw [hkey, hpurchased.others _ (refundKey_ne_purchaseKey order.id), hexisting]
  have hdiffers : existing.reversesEntryId ≠ some purchase.id := by
    rcases hpurchased.isNew with rfl | ⟨-, hfresh⟩
    · exact hother purchase hstored
    · -- a new purchase is reversed by nothing
      intro hreverses
      obtain ⟨original, horiginal, hid⟩ :=
        hkept.reference existing (byKey_eq_some hexisting).1 _ hreverses
      exact hfresh original horiginal hid
  obtain ⟨hne, hclear, rfl, hafter⟩ := (commits_reverse_taken hmid).1 hreverse
  obtain rfl : journal' = mid := hafter.trans (if_neg hdiffers)
  refine commits_refund.2 ⟨purchase, journal', hpurchased.replays _ _, purchase, hstored, ?_⟩
  exact (commits_reverse_taken hmid).2 ⟨hne, hclear, rfl, (if_neg hdiffers).symm⟩

/-- A refund that has not found its key taken has reversed the purchase. -/
theorem reversed_of_refund (hkept : Kept journal) (hmarked : Marked journal)
    (h : Tx.Commits (postServiceRefundCompleted order ids now) journal entry journal')
    (hfree : ¬ RefundKeyTaken order.id journal) :
    ∃ stored, byKey journal' (purchaseKey order.id) = some stored ∧ stored.quality = .reversed := by
  obtain ⟨purchase, mid, hpost, stored, hstored, hreverse⟩ := commits_refund.1 h
  have hpurchased := purchased_of_commits hpost
  obtain rfl : purchase = stored := Option.some.inj (hpurchased.byKey.symm.trans hstored)
  have hkey : trim (refundReversal order.id purchase.id).idempotencyKey = refundKey order.id :=
    trim_refundKey order.id
  have hposted : purchase.status = .posted := by
    have hmem : purchase ∈ mid.rows := (byKey_eq_some hstored).1
    have hstep : Tx.Commits (Operation.tx (.post (servicePurchase order) ids.purchase now)
        fun _ => journal) journal purchase mid := hpost
    rcases (hkept.step hstep).status purchase hmem with hstatus | hstatus
    · exact hstatus
    · exact absurd (hmarked.step hstep purchase hmem hstatus) hpurchased.quality
  have hrefund : byKey mid (trim (refundReversal order.id purchase.id).idempotencyKey) =
      byKey journal (refundKey order.id) := by
    rw [hkey, hpurchased.others _ (refundKey_ne_purchaseKey order.id)]
  -- either way the row of the purchase is marked
  obtain ⟨last, p, hmark, hlast⟩ : ∃ last p, updateReversed purchase.id p last = some journal' ∧
      byKey last (purchaseKey order.id) = some purchase := by
    cases hexisting : byKey journal (refundKey order.id) with
    | none =>
        have hfound : mid.find? (refundReversal order.id purchase.id).journalEntryId =
            some purchase := IndexedTable.find?_eq_some.2 ⟨(byKey_eq_some hstored).1, rfl⟩
        obtain ⟨last, -, hcreate, hmark⟩ :=
          commits_reverse_free (hrefund.trans hexisting) hfound hposted hreverse
        refine ⟨last, _, hmark, ?_⟩
        rw [byKey_of_createEntry hcreate, hstored]
        rfl
    | some existing =>
        have hreverses : existing.reversesEntryId = some purchase.id := by
          by_contra hdiffers
          refine hfree ⟨existing, hexisting, fun other hother => ?_⟩
          rcases hpurchased.isNew with rfl | ⟨hnone, -⟩
          · obtain rfl : purchase = other := Option.some.inj (hstored.symm.trans hother)
            exact hdiffers
          · rw [hnone] at hother
            cases hother
        obtain ⟨-, -, -, hafter⟩ := (commits_reverse_taken (hrefund.trans hexisting)).1 hreverse
        have hafter := hafter.trans (if_pos hreverses)
        have hfound : mid.find? purchase.id = some purchase :=
          IndexedTable.find?_eq_some.2 ⟨(byKey_eq_some hstored).1, rfl⟩
        obtain ⟨last, hlast⟩ := Option.isSome_iff_exists.1
          (updateReversed_isSome hfound (p := (·.status = .posted)) (by simpa using hposted))
        refine ⟨mid, (·.status = .posted), ?_, hstored⟩
        rw [hafter]
        show _ = some ((updateReversed purchase.id _ mid).getD mid)
        rw [hlast, Option.getD_some]
  refine ⟨purchase.markReversed, ?_, rfl⟩
  rw [byKey_of_updateReversed hmark, hlast, Option.map_some, if_pos rfl]

end Again

end AbrChin.Accounting
