import AbrChin.Accounting.Expenses
import AbrChin.Accounting.Refund

/-!
# The entries of an expense

What the journal holds of an expense decides its status: nothing of a draft, one entry of one that
is posted, and that entry with one reversal of one that is reversed (`Booked`).

Each call decides from a read that is not locked, so the row that it updates may have moved on.  The
keys of the two entries make up for most of this.  A post that saw a draft cannot create its entry a
second time, and a reversal that saw a posted expense finds its key taken.  What remains is a post
that saw a draft and then an entry that was not reversed yet: it replays the entry, and sets the
expense to POSTED after another call has reversed both (`resurrects`).  Nothing refuses this unless
the record of the post has been written before with other data.

Section by section: the keys, the entries after a write, what one call does (`commits_postExpense`,
`commits_reverseExpense`), the invariant, and what each of the three calls keeps of it.
-/

namespace AbrChin.Accounting

open Lib Js

/-! ## The keys of the two entries -/

theorem trim_of_manual {key : String} (middle : List Char)
    (hlist : key.toList = ('m' :: middle) ++ ['1']) : trim key = key := by
  apply trim_of_ends
  · intro c hc
    rw [hlist, List.cons_append, List.head?_cons] at hc
    rw [← Option.some.inj hc]
    decide
  · intro c hc
    rw [hlist, List.getLast?_concat] at hc
    rw [← Option.some.inj hc]
    decide

theorem trim_postedKey (id : String) : trim (postedKey id) = postedKey id := by
  apply trim_of_manual ("anual-expense:".toList ++ id.toList ++ ":posted:v".toList)
  simp [postedKey]

theorem trim_reversedKey (id : String) : trim (reversedKey id) = reversedKey id := by
  apply trim_of_manual ("anual-expense:".toList ++ id.toList ++ ":reversed:v".toList)
  simp [reversedKey]

theorem postedKey_injective {first second : String} (h : postedKey first = postedKey second) :
    first = second := by
  have hlist := congrArg String.toList h
  simpa [postedKey, String.toList_inj] using hlist

theorem reversedKey_injective {first second : String} (h : reversedKey first = reversedKey second) :
    first = second := by
  have hlist := congrArg String.toList h
  simpa [reversedKey, String.toList_inj] using hlist

/-- They differ in the sixth character from the end. -/
theorem postedKey_ne_reversedKey (first second : String) :
    postedKey first ≠ reversedKey second := by
  intro h
  have hlast := congrArg (fun key => key.toList.reverse.take 6) h
  simp [postedKey, reversedKey] at hlast

/-! ## The entries of an expense -/

/-- The journal entries that refer to an expense. -/
def entriesOf (journal : Journal) (expenseId : String) : List JournalEntry :=
  journal.rows.filter fun entry =>
    entry.referenceType = "operating_expense" && entry.referenceId = expenseId

variable {journal : Journal} {expenseId : String}

theorem mem_entriesOf {entry : JournalEntry} :
    entry ∈ entriesOf journal expenseId ↔ entry ∈ journal.rows ∧
      entry.referenceType = "operating_expense" ∧ entry.referenceId = expenseId := by
  simp [entriesOf]

variable {journal' : Journal}

/-- A new entry is added to the entries of its expense. -/
theorem entriesOf_create {entry : JournalEntry}
    (hcreate : createEntry entry journal = some journal')
    (htype : entry.referenceType = "operating_expense") (expenseId : String) :
    entriesOf journal' expenseId =
      entriesOf journal expenseId ++ if entry.referenceId = expenseId then [entry] else [] := by
  unfold entriesOf
  rw [(rows_of_createEntry hcreate).1, List.filter_append]
  by_cases hid : entry.referenceId = expenseId
  · simp [htype, hid]
  · simp [hid]

variable {id : String}

theorem entriesOf_mark {p : JournalEntry → Bool}
    (hmark : updateReversed id p journal = some journal') (expenseId : String) :
    entriesOf journal' expenseId = (entriesOf journal expenseId).map
      fun row => if row.id = id then row.markReversed else row := by
  unfold entriesOf
  rw [(rows_of_updateReversed hmark).2, List.filter_map]
  congr 2
  funext row
  dsimp only [Function.comp]
  split <;> rfl

/-- A mark keeps what an entry refers to. -/
theorem reference_of_mark (row : JournalEntry) (id : String) :
    (if row.id = id then row.markReversed else row).referenceType = row.referenceType ∧
      (if row.id = id then row.markReversed else row).referenceId = row.referenceId := by
  split <;> exact ⟨rfl, rfl⟩

/-- Marking an entry of one expense leaves the entries of the others as they are. -/
theorem entriesOf_mark_of_ne {p : JournalEntry → Bool}
    (hmark : updateReversed id p journal = some journal') {entry : JournalEntry}
    (hentry : entry ∈ journal.rows) (hid : entry.id = id) (hne : entry.referenceId ≠ expenseId) :
    entriesOf journal' expenseId = entriesOf journal expenseId := by
  rw [entriesOf_mark hmark]
  refine (List.map_congr_left fun row hrow => ?_).trans (List.map_id _)
  obtain ⟨hmem, -, href⟩ := mem_entriesOf.1 hrow
  refine if_neg fun hrowid => hne ?_
  have hsame : row = entry := Table.eq_of_key hmem hentry (hrowid.trans hid.symm)
  rw [← hsame, href]

/-- A key that an entry has cannot be given to another one. -/
theorem not_key_of_createEntry {entry row : JournalEntry}
    (hcreate : createEntry entry journal = some journal') (hrow : row ∈ journal.rows) :
    row.idempotencyKey ≠ entry.idempotencyKey := by
  obtain ⟨hrows, hfresh, -⟩ := rows_of_createEntry hcreate
  intro hkey
  have hold : row ∈ journal'.rows := by
    rw [hrows]
    exact List.mem_append_left _ hrow
  have hnew : entry ∈ journal'.rows := by
    rw [hrows]
    exact List.mem_append_right _ (List.mem_singleton_self _)
  have hindex : (fun entry : JournalEntry => some entry.idempotencyKey) ∈ JournalEntry.indexes := by
    simp [JournalEntry.indexes]
  have hsame : row = entry :=
    IndexedTable.eq_of_index hold hnew hindex (congrArg some hkey) rfl
  exact hfresh row hrow (congrArg JournalEntry.id hsame)

/-! ## What one call does -/

variable {db db' : ExpenseDb}

theorem commits_onJournal {α : Type} {body : Tx Journal JournalError α} {a : α} :
    Tx.Commits (onJournal body) db a db' ↔
      ∃ journal, Tx.Commits body db.journal a journal ∧ db' = { db with journal } := by
  unfold onJournal
  rw [Tx.commits_mapError, Tx.commits_zoom]

/-- A row is updated, and returned. -/
theorem commits_updateExpense {f : OperatingExpense → OperatingExpense}
    {hf : ∀ row, (f row).id = row.id} {row : OperatingExpense}
    (h : Tx.Commits (updateExpense id f hf) db row db') :
    ∃ expenses, db.expenses.updateIf? id (fun _ => true) f hf = some expenses ∧
      db' = { db with expenses } := by
  unfold updateExpense at h
  obtain ⟨_, mid, hwrite, h⟩ := Tx.commits_bind.1 h
  have hwrite := Tx.commits_attempt.1 hwrite
  obtain ⟨expenses, hexpenses, rfl⟩ := Option.map_eq_some_iff.1 hwrite
  have h := Tx.commits_get_bind.1 h
  exact ⟨expenses, hexpenses, (Tx.commits_orThrow.1 h).2⟩

/-- A record is allowed, and leaves expenses and entries as they are. -/
theorem commits_writeAuditLog {row : AuditLog} {u : Unit}
    (h : Tx.Commits (writeAuditLog row) db u db') :
    auditAllowed db row = true ∧ db'.expenses = db.expenses ∧ db'.journal = db.journal := by
  unfold writeAuditLog at h
  have h := Tx.commits_get_bind.1 h
  obtain ⟨hallowed, h⟩ := Tx.commits_throwIf_bind.1 h
  refine ⟨Bool.eq_true_of_not_eq_false hallowed, ?_⟩
  rcases Tx.commits_ite.1 h with ⟨-, h⟩ | ⟨-, h⟩
  · rw [(Tx.commits_pure.1 h).2]
    exact ⟨rfl, rfl⟩
  · have h := Tx.commits_attempt.1 h
    obtain ⟨audits, -, rfl⟩ := Option.map_eq_some_iff.1 h
    exact ⟨rfl, rfl⟩

/-- A post under the lock on its key replays the entry that it has seen, or creates one. -/
theorem commits_postJournalEntrySeen {input : PostJournalEntryInput} {seen : Journal} {now : ℤ}
    {entry : JournalEntry}
    (h : Tx.Commits (postJournalEntrySeen input seen id now) journal entry journal') :
    (byKey seen (trim input.idempotencyKey) = some entry ∧
      entry.quality = input.quality.getD .final ∧ journal' = journal) ∨
    ∃ normalized, validateLines input.lines = .ok normalized ∧
      entry = input.entry normalized id now ∧ createEntry entry journal = some journal' := by
  unfold postJournalEntrySeen at h
  simp only [Tx.commits_bind, Tx.commits_throwIf, Tx.commits_ofExcept] at h
  obtain ⟨_, _, ⟨-, rfl⟩, normalized, _, ⟨hlines, rfl⟩, h⟩ := h
  split at h
  · rename_i existing hexisting
    simp only [Tx.commits_bind, Tx.commits_ofExcept, Tx.commits_pure] at h
    obtain ⟨_, _, ⟨hmatch, rfl⟩, rfl, rfl⟩ := h
    exact .inl ⟨hexisting, quality_of_match hmatch, rfl⟩
  · simp only [Tx.commits_bind, Tx.commits_attempt, Tx.commits_pure] at h
    obtain ⟨_, _, hcreate, rfl, rfl⟩ := h
    exact .inr ⟨normalized, hlines, rfl, hcreate⟩

variable {expense : OperatingExpense}

/-- A draft is found under its key, or added as a row. -/
theorem commits_createDraft {input : CreateDraftExpense}
    (h : Tx.Commits (createDraftExpense input) db expense db') :
    (db.withKey input.row.idempotencyKey = some expense ∧ db' = db) ∨
    (expense = input.row ∧ db.expenses.insert? input.row = some db'.expenses ∧
      db'.journal = db.journal) := by
  unfold createDraftExpense at h
  obtain ⟨_, mid, hcheck, h⟩ := Tx.commits_bind.1 h
  rw [(Tx.commits_ofExcept.1 hcheck).2] at h
  have h := Tx.commits_get_bind.1 h
  split at h
  · rename_i existing hexisting
    obtain ⟨-, h⟩ := Tx.commits_throwIf_bind.1 h
    obtain ⟨rfl, rfl⟩ := Tx.commits_pure.1 h
    exact .inl ⟨hexisting, rfl⟩
  · obtain ⟨_, mid, hinsert, h⟩ := Tx.commits_bind.1 h
    obtain ⟨_, _, haudit, h⟩ := Tx.commits_bind.1 h
    obtain ⟨rfl, rfl⟩ := Tx.commits_pure.1 h
    have hinsert := Tx.commits_attempt.1 hinsert
    obtain ⟨expenses, hexpenses, rfl⟩ := Option.map_eq_some_iff.1 hinsert
    obtain ⟨-, hsame, hjournal⟩ := commits_writeAuditLog haudit
    exact .inr ⟨rfl, by rw [hsame]; exact hexpenses, hjournal⟩

variable {result : OperatingExpense} {seen : ℕ → ExpenseDb}

/-- A post finds its expense posted, or posts the draft that it has seen. -/
theorem commits_postExpense {input : PostExpense}
    (h : Tx.Commits (postExpense input seen) db result db') :
    db' = db ∨
    ∃ expense entry, (seen 0).expenses.find? input.expenseId = some expense ∧
      expense.status = .draft ∧
      Tx.Commits (postJournalEntrySeen
        (manualExpense expense (categoryToAccount expense.category)) (seen 1).journal input.newId
          input.now) db.journal entry db'.journal ∧
      db.expenses.updateIf? expense.id (fun _ => true) (OperatingExpense.post input entry.id)
        (fun _ => rfl) = some db'.expenses ∧
      auditAllowed db (input.audit expense entry.id) = true := by
  unfold postExpense at h
  obtain ⟨expense, hexpense, h⟩ := Tx.commits_orThrow_bind.1 h
  cases hstatus : expense.status with
  | posted =>
      rw [hstatus] at h
      exact .inl (Tx.commits_pure.1 h).2
  | reversed =>
      rw [hstatus] at h
      exact absurd h Tx.commits_throw
  | draft =>
      rw [hstatus] at h
      obtain ⟨account, mid, haccount, h⟩ := Tx.commits_bind.1 h
      obtain ⟨haccount, hmid⟩ := Tx.commits_ofExcept.1 haccount
      rw [hmid] at h
      obtain ⟨entry, _, hentries, h⟩ := Tx.commits_bind.1 h
      obtain ⟨journal, hjournal, rfl⟩ := commits_onJournal.1 hentries
      obtain ⟨posted, _, hupdate, h⟩ := Tx.commits_bind.1 h
      obtain ⟨expenses, hexpenses, rfl⟩ := commits_updateExpense hupdate
      obtain ⟨_, _, haudit, h⟩ := Tx.commits_bind.1 h
      obtain ⟨-, rfl⟩ := Tx.commits_pure.1 h
      obtain ⟨hallowed, hsame, hsameJournal⟩ := commits_writeAuditLog haudit
      replace hsame : db'.expenses = expenses := hsame
      replace hsameJournal : db'.journal = journal := hsameJournal
      have haccount : account = categoryToAccount expense.category := by
        unfold assertManualCategory at haccount
        obtain ⟨_, -, haccount⟩ := bind_eq_ok.1 haccount
        exact (Except.ok.inj haccount).symm
      subst haccount
      refine .inr ⟨expense, entry, hexpense, hstatus, ?_, ?_, hallowed⟩
      · rw [hsameJournal]
        exact hjournal
      · rw [hsame]
        exact hexpenses

variable {input : ReverseExpense}

/-- A reversal finds its expense reversed, or reverses the entry of the expense that it has seen. -/
theorem commits_reverseExpense (h : Tx.Commits (reverseExpense input seen) db result db') :
    db' = db ∨
    ∃ expense journalEntryId reversal, (seen 0).expenses.find? input.expenseId = some expense ∧
      expense.status = .posted ∧ postedEntry expense (seen 1).journal = .ok journalEntryId ∧
      Tx.Commits (reverseJournalEntryTx (manualExpenseReversal expense.id journalEntryId)
        (fun place => (seen (place + 2)).journal) input.newId input.now) db.journal reversal
          db'.journal ∧
      db.expenses.updateIf? expense.id (fun _ => true) (OperatingExpense.reverse input)
        (fun _ => rfl) = some db'.expenses := by
  unfold reverseExpense at h
  obtain ⟨-, h⟩ := Tx.commits_throwIf_bind.1 h
  obtain ⟨expense, hexpense, h⟩ := Tx.commits_orThrow_bind.1 h
  cases hstatus : expense.status with
  | reversed =>
      rw [hstatus] at h
      exact .inl (Tx.commits_pure.1 h).2
  | draft =>
      rw [hstatus] at h
      exact absurd h Tx.commits_throw
  | posted =>
      rw [hstatus] at h
      obtain ⟨journalEntryId, mid, hentry, h⟩ := Tx.commits_bind.1 h
      obtain ⟨hentry, hmid⟩ := Tx.commits_ofExcept.1 hentry
      rw [hmid] at h
      obtain ⟨reversal, _, hentries, h⟩ := Tx.commits_bind.1 h
      obtain ⟨journal, hjournal, rfl⟩ := commits_onJournal.1 hentries
      obtain ⟨reversed, _, hupdate, h⟩ := Tx.commits_bind.1 h
      obtain ⟨expenses, hexpenses, rfl⟩ := commits_updateExpense hupdate
      obtain ⟨_, _, haudit, h⟩ := Tx.commits_bind.1 h
      obtain ⟨-, rfl⟩ := Tx.commits_pure.1 h
      obtain ⟨-, hsame, hsameJournal⟩ := commits_writeAuditLog haudit
      replace hsame : db'.expenses = expenses := hsame
      replace hsameJournal : db'.journal = journal := hsameJournal
      refine .inr ⟨expense, journalEntryId, reversal, hexpense, hstatus, hentry, ?_, ?_⟩
      · rw [hsameJournal]
        exact hjournal
      · rw [hsame]
        exact hexpenses

/-! ## The invariant -/

/-- An entry posts an expense. -/
structure JournalEntry.Posts (entry : JournalEntry) (expense : OperatingExpense) : Prop where
  key : entry.idempotencyKey = postedKey expense.id
  plain : entry.reversesEntryId = none
  amount : debitTotal entry.lines = expense.amountRial
  link : expense.journalEntryId = some entry.id

/-- An entry reverses the entry of an expense. -/
structure JournalEntry.Undoes (reversal entry : JournalEntry) (expense : OperatingExpense) :
    Prop where
  key : reversal.idempotencyKey = reversedKey expense.id
  reverses : reversal.reversesEntryId = some entry.id
  stands : reversal.status = .posted

/-- What the journal holds of an expense. -/
inductive Booked (journal : Journal) (expense : OperatingExpense) : Prop where
  | draft (hstatus : expense.status = .draft) (hentries : entriesOf journal expense.id = [])
      (hlink : expense.journalEntryId = none)
  | posted (entry : JournalEntry) (hstatus : expense.status = .posted)
      (hentries : entriesOf journal expense.id = [entry]) (hposts : entry.Posts expense)
      (hstands : entry.status = .posted)
  | reversed (entry reversal : JournalEntry) (hstatus : expense.status = .reversed)
      (hentries : entriesOf journal expense.id = [entry, reversal]) (hposts : entry.Posts expense)
      (hmarked : entry.status = .reversed) (hundoes : reversal.Undoes entry expense)

theorem Booked.congr (h : Booked journal expense)
    (hsame : entriesOf journal' expense.id = entriesOf journal expense.id) :
    Booked journal' expense := by
  cases h with
  | draft hstatus hentries hlink => exact .draft hstatus (hsame.trans hentries) hlink
  | posted entry hstatus hentries hposts hstands =>
      exact .posted entry hstatus (hsame.trans hentries) hposts hstands
  | reversed entry reversal hstatus hentries hposts hmarked hundoes =>
      exact .reversed entry reversal hstatus (hsame.trans hentries) hposts hmarked hundoes

/-- What holds between the calls. -/
structure ExpenseDb.Kept (db : ExpenseDb) : Prop where
  booked : ∀ expense ∈ db.expenses.rows, Booked db.journal expense
  owned : ∀ entry ∈ db.journal.rows, entry.referenceType = "operating_expense" ∧
    ∃ expense ∈ db.expenses.rows, expense.id = entry.referenceId

/-- The database without rows. -/
def ExpenseDb.empty : ExpenseDb := ⟨IndexedTable.empty, IndexedTable.empty, Table.empty⟩

theorem kept_emptyExpenses : ExpenseDb.empty.Kept := by
  constructor <;> exact fun _ h => nomatch h

/-- An entry of the journal posts an expense, or reverses the entry that does. -/
theorem ExpenseDb.Kept.entry_cases (h : db.Kept) {entry : JournalEntry}
    (hentry : entry ∈ db.journal.rows) : ∃ expense ∈ db.expenses.rows,
    (entry.Posts expense ∧ (expense.status = .posted ∧ entry.status = .posted ∨
      expense.status = .reversed ∧ entry.status = .reversed)) ∨
    (∃ original ∈ db.journal.rows, entry.Undoes original expense ∧ original.Posts expense ∧
      original.status = .reversed ∧ expense.status = .reversed) := by
  obtain ⟨htype, expense, hexpense, hid⟩ := h.owned entry hentry
  have hmem : entry ∈ entriesOf db.journal expense.id :=
    mem_entriesOf.2 ⟨hentry, htype, hid.symm⟩
  refine ⟨expense, hexpense, ?_⟩
  cases h.booked expense hexpense with
  | draft hstatus hentries =>
      rw [hentries] at hmem
      cases hmem
  | posted original hstatus hentries hposts hstands =>
      rw [hentries, List.mem_singleton] at hmem
      subst hmem
      exact .inl ⟨hposts, .inl ⟨hstatus, hstands⟩⟩
  | reversed original reversal hstatus hentries hposts hmarked hundoes =>
      have horiginal : original ∈ entriesOf db.journal expense.id := by
        rw [hentries]
        exact List.mem_cons_self
      rw [hentries, List.mem_pair] at hmem
      rcases hmem with rfl | rfl
      · exact .inl ⟨hposts, .inr ⟨hstatus, hmarked⟩⟩
      · exact .inr ⟨original, (mem_entriesOf.1 horiginal).1, hundoes, hposts, hmarked, hstatus⟩

/-- The expense with a given id. -/
theorem eq_of_expenseId {first second : OperatingExpense} (h₁ : first ∈ db.expenses.rows)
    (h₂ : second ∈ db.expenses.rows) (hid : first.id = second.id) :
    first = second :=
  Table.eq_of_key h₁ h₂ hid

/-- An entry that has the key of a post. -/
theorem ExpenseDb.Kept.of_postedKey (h : db.Kept) {entry : JournalEntry}
    (hentry : entry ∈ db.journal.rows) (hexpense : expense ∈ db.expenses.rows)
    (hkey : entry.idempotencyKey = postedKey expense.id) :
    entry.Posts expense ∧ (expense.status = .posted ∧ entry.status = .posted ∨
      expense.status = .reversed ∧ entry.status = .reversed) := by
  obtain ⟨other, hother, ⟨hposts, hstatus⟩ | ⟨original, -, hundoes, -⟩⟩ := h.entry_cases hentry
  · have hsame : other = expense :=
      eq_of_expenseId hother hexpense (postedKey_injective (hposts.key.symm.trans hkey))
    subst hsame
    exact ⟨hposts, hstatus⟩
  · exact absurd (hkey.symm.trans hundoes.key) (postedKey_ne_reversedKey _ _)

/-- An expense whose reversal's key is taken is reversed. -/
theorem ExpenseDb.Kept.of_reversedKey (h : db.Kept) {entry : JournalEntry}
    (hentry : entry ∈ db.journal.rows) (hexpense : expense ∈ db.expenses.rows)
    (hkey : entry.idempotencyKey = reversedKey expense.id) : expense.status = .reversed := by
  obtain ⟨other, hother, ⟨hposts, -⟩ | ⟨original, -, hundoes, -, -, hstatus⟩⟩ :=
    h.entry_cases hentry
  · exact absurd (hposts.key.symm.trans hkey) (postedKey_ne_reversedKey _ _)
  · have hsame : other = expense :=
      eq_of_expenseId hother hexpense (reversedKey_injective (hundoes.key.symm.trans hkey))
    rw [← hsame]
    exact hstatus

/-- An expense that is no draft has an entry. -/
theorem Booked.exists_posts (h : Booked journal expense) (hstatus : expense.status ≠ .draft) :
    ∃ entry ∈ journal.rows, entry.Posts expense := by
  cases h with
  | draft hdraft => exact absurd hdraft hstatus
  | posted entry _ hentries hposts =>
      have hmem : entry ∈ entriesOf journal expense.id := by
        rw [hentries]
        exact List.mem_singleton_self _
      exact ⟨entry, (mem_entriesOf.1 hmem).1, hposts⟩
  | reversed entry reversal _ hentries hposts =>
      have hmem : entry ∈ entriesOf journal expense.id := by
        rw [hentries]
        exact List.mem_cons_self
      exact ⟨entry, (mem_entriesOf.1 hmem).1, hposts⟩

/-! ## What one call keeps -/

inductive OperatingExpenseStatus.Next : OperatingExpenseStatus → OperatingExpenseStatus → Prop where
  | posted : Next .draft .posted
  | reversed : Next .posted .reversed

/-- What a call may do to an expense. -/
structure OperatingExpense.MovesTo (expense expense' : OperatingExpense) : Prop where
  id : expense'.id = expense.id
  amount : expense'.amountRial = expense.amountRial
  key : expense'.idempotencyKey = expense.idempotencyKey
  link : ∀ entryId, expense.journalEntryId = some entryId → expense'.journalEntryId = some entryId
  status : expense'.status = expense.status ∨ expense.status.Next expense'.status

/-- What a call may do to the expenses: each moves at most one step, and a new one is a draft. -/
structure ExpenseDb.MovesTo (db db' : ExpenseDb) : Prop where
  expenses : ∀ expense ∈ db.expenses.rows, ∃ expense' ∈ db'.expenses.rows, expense.MovesTo expense'
  fresh : ∀ expense ∈ db'.expenses.rows, (∀ old ∈ db.expenses.rows, old.id ≠ expense.id) →
    expense.status = .draft
  journal : Accounting.Grown db.journal db'.journal

theorem OperatingExpense.MovesTo.refl (expense : OperatingExpense) : expense.MovesTo expense :=
  ⟨rfl, rfl, rfl, fun _ h => h, .inl rfl⟩

theorem ExpenseDb.MovesTo.refl (db : ExpenseDb) : db.MovesTo db where
  expenses expense hexpense := ⟨expense, hexpense, .refl expense⟩
  fresh expense hexpense hnew := absurd rfl (hnew expense hexpense)
  journal := Accounting.Grown.refl _

variable {current : OperatingExpense}

/-- A call updates one expense and writes entries that refer to it. -/
theorem ExpenseDb.Kept.update (h : db.Kept) {f : OperatingExpense → OperatingExpense}
    {hf : ∀ row, (f row).id = row.id} (hcurrent : current ∈ db.expenses.rows)
    (hupdate : db.expenses.updateIf? current.id (fun _ => true) f hf = some db'.expenses)
    (hbooked : Booked db'.journal (f current)) (hmoves : current.MovesTo (f current))
    (hothers : ∀ id, current.id ≠ id → entriesOf db'.journal id = entriesOf db.journal id)
    (howned : ∀ entry ∈ db'.journal.rows, entry.referenceType = "operating_expense" ∧
      (entry.referenceId = current.id ∨
        ∃ old ∈ db.journal.rows, old.referenceId = entry.referenceId))
    (hgrown : Accounting.Grown db.journal db'.journal) : db'.Kept ∧ db.MovesTo db' := by
  obtain ⟨_, -, -, hmodify⟩ := IndexedTable.updateIf?_eq_some.1 hupdate
  have hrows := IndexedTable.rows_of_modify? hmodify
  have hmem : ∀ {row'}, row' ∈ db'.expenses.rows ↔ ∃ row ∈ db.expenses.rows,
      row' = if row.id = current.id then f row else row := by
    intro row'
    rw [hrows, List.mem_map]
    exact exists_congr fun row => and_congr_right fun _ => eq_comm
  have hstays : ∀ row ∈ db.expenses.rows, ∃ row' ∈ db'.expenses.rows, row.MovesTo row' := by
    intro row hrow
    refine ⟨_, hmem.2 ⟨row, hrow, rfl⟩, ?_⟩
    by_cases hid : row.id = current.id
    · rw [if_pos hid, eq_of_expenseId hrow hcurrent hid]
      exact hmoves
    · rw [if_neg hid]
      exact .refl row
  refine ⟨⟨?_, ?_⟩, ⟨hstays, ?_, hgrown⟩⟩
  · intro row' hrow'
    obtain ⟨row, hrow, rfl⟩ := hmem.1 hrow'
    by_cases hid : row.id = current.id
    · rw [if_pos hid, eq_of_expenseId hrow hcurrent hid]
      exact hbooked
    · rw [if_neg hid]
      exact (h.booked row hrow).congr (hothers row.id fun heq => hid heq.symm)
  · intro entry hentry
    obtain ⟨htype, href⟩ := howned entry hentry
    have hold : ∃ expense ∈ db.expenses.rows, expense.id = entry.referenceId := by
      rcases href with hself | ⟨old, hold, hsame⟩
      · exact ⟨current, hcurrent, hself.symm⟩
      · rw [← hsame]
        exact (h.owned old hold).2
    obtain ⟨expense, hexpense, hid⟩ := hold
    obtain ⟨expense', hexpense', hmove⟩ := hstays expense hexpense
    exact ⟨htype, expense', hexpense', hmove.id.trans hid⟩
  · intro row' hrow' hnew
    obtain ⟨row, hrow, rfl⟩ := hmem.1 hrow'
    refine absurd ?_ (hnew row hrow)
    split
    · exact (hf row).symm
    · rfl

/-! ## What a call has seen -/

/-- The place of a status in the order of its moves. -/
def OperatingExpenseStatus.rank : OperatingExpenseStatus → ℕ
  | .draft => 0
  | .posted => 1
  | .reversed => 2

/-- A row and the same row later. -/
structure OperatingExpense.Leads (expense expense' : OperatingExpense) : Prop where
  id : expense'.id = expense.id
  amount : expense'.amountRial = expense.amountRial
  link : ∀ entryId, expense.journalEntryId = some entryId → expense'.journalEntryId = some entryId
  status : expense.status.rank ≤ expense'.status.rank

/-- What a version has, a later one has too. -/
structure ExpenseDb.Grown (before after : ExpenseDb) : Prop where
  expenses : ∀ expense ∈ before.expenses.rows, ∃ expense' ∈ after.expenses.rows,
    expense.Leads expense'
  journal : Accounting.Grown before.journal after.journal

theorem OperatingExpenseStatus.Next.rank_le {status status' : OperatingExpenseStatus}
    (h : status.Next status') : status.rank ≤ status'.rank := by
  cases h <;> decide

theorem OperatingExpense.MovesTo.leads {expense' : OperatingExpense}
    (h : expense.MovesTo expense') : expense.Leads expense' := by
  refine ⟨h.id, h.amount, h.link, ?_⟩
  rcases h.status with hsame | hnext
  · rw [hsame]
  · exact hnext.rank_le

theorem ExpenseDb.MovesTo.grown (h : db.MovesTo db') : db.Grown db' := by
  refine ⟨fun expense hexpense => ?_, h.journal⟩
  obtain ⟨expense', hexpense', hmove⟩ := h.expenses expense hexpense
  exact ⟨expense', hexpense', hmove.leads⟩

theorem ExpenseDb.Grown.refl (db : ExpenseDb) : db.Grown db := (ExpenseDb.MovesTo.refl db).grown

theorem ExpenseDb.Grown.trans {first second third : ExpenseDb} (h₁ : first.Grown second)
    (h₂ : second.Grown third) : first.Grown third := by
  refine ⟨fun expense hexpense => ?_, h₁.journal.trans h₂.journal⟩
  obtain ⟨mid, hmid, hfirst⟩ := h₁.expenses expense hexpense
  obtain ⟨last, hlast, hsecond⟩ := h₂.expenses mid hmid
  exact ⟨last, hlast, hsecond.id.trans hfirst.id, hsecond.amount.trans hfirst.amount,
    fun entryId hlink => hsecond.link entryId (hfirst.link entryId hlink),
    hfirst.status.trans hsecond.status⟩

/-- An entry that has been seen is there, with the same columns up to its mark. -/
theorem ExpenseDb.Grown.entry {before after : ExpenseDb} (h : before.Grown after)
    {entry : JournalEntry} (hentry : entry ∈ before.journal.rows) :
    ∃ entry' ∈ after.journal.rows, entry'.id = entry.id ∧
      entry'.idempotencyKey = entry.idempotencyKey ∧
      entry'.referenceType = entry.referenceType ∧ entry'.referenceId = entry.referenceId ∧
      (entry.status = .reversed → entry'.status = .reversed) := by
  rcases h.journal entry hentry with hsame | hmarked
  · exact ⟨entry, hsame, rfl, rfl, rfl, rfl, id⟩
  · exact ⟨entry.markReversed, hmarked, rfl, rfl, rfl, rfl, fun _ => rfl⟩

/-- An expense that has been seen, and the row that is updated. -/
theorem ExpenseDb.Grown.updated {before : ExpenseDb} (h : before.Grown db)
    (hseen : before.expenses.find? id = some expense)
    {expenses : IndexedTable OperatingExpense.id OperatingExpense.indexes}
    {f : OperatingExpense → OperatingExpense} {hf : ∀ row, (f row).id = row.id}
    (hupdate : db.expenses.updateIf? expense.id (fun _ => true) f hf = some expenses) :
    ∃ current ∈ db.expenses.rows, expense.id = current.id ∧ expense.Leads current ∧
      db.expenses.find? id = some current := by
  obtain ⟨hmem, hid⟩ := IndexedTable.find?_eq_some.1 hseen
  obtain ⟨current, hcurrent, -, -⟩ := IndexedTable.updateIf?_eq_some.1 hupdate
  obtain ⟨later, hlater, hleads⟩ := h.expenses expense hmem
  obtain ⟨hcurrentMem, hcurrentId⟩ := IndexedTable.find?_eq_some.1 hcurrent
  have hsame : later = current :=
    eq_of_expenseId hlater hcurrentMem (hleads.id.trans hcurrentId.symm)
  subst hsame
  exact ⟨later, hlater, hleads.id.symm, hleads, hid ▸ hcurrent⟩

/-- A post that has seen a draft, and after that an entry that was not reversed yet, while the
expense is reversed; and nothing that was written before refuses its record. -/
def resurrects (input : PostExpense) (seen : ℕ → ExpenseDb) (db : ExpenseDb) : Bool :=
  ((seen 0).expenses.find? input.expenseId).any fun expense =>
    expense.status = .draft &&
      ((byKey (seen 1).journal (postedKey expense.id)).any fun entry =>
        entry.quality = .final && auditAllowed db (input.audit expense entry.id)) &&
      ((db.expenses.find? input.expenseId).any fun current => current.status = .reversed)

/-! ## The three calls -/

theorem ExpenseDb.Kept.draft (h : db.Kept) {input : CreateDraftExpense}
    (hcommits : Tx.Commits (createDraftExpense input) db expense db') :
    db'.Kept ∧ db.MovesTo db' := by
  rcases commits_createDraft hcommits with ⟨-, rfl⟩ | ⟨-, hinsert, hjournal⟩
  · exact ⟨h, .refl _⟩
  have hrows := IndexedTable.rows_of_insert? hinsert
  have hfresh := IndexedTable.fresh_of_insert? hinsert
  have hmem : ∀ {row}, row ∈ db'.expenses.rows ↔ row ∈ db.expenses.rows ∨ row = input.row := by
    intro row
    rw [hrows, List.mem_append, List.mem_singleton]
  refine ⟨⟨?_, ?_⟩, ⟨?_, ?_, ?_⟩⟩
  · intro row hrow
    rw [hjournal]
    rcases hmem.1 hrow with hrow | rfl
    · exact h.booked row hrow
    · refine .draft rfl (List.eq_nil_iff_forall_not_mem.2 fun entry hentry => ?_) rfl
      -- an entry that refers to the new row would have had an expense with its id
      obtain ⟨hold, -, href⟩ := mem_entriesOf.1 hentry
      obtain ⟨-, owner, howner, hid⟩ := h.owned entry hold
      have hfound := IndexedTable.find?_eq_some.2 ⟨howner, hid.trans href⟩
      rw [hfound] at hfresh
      cases hfresh
  · intro entry hentry
    rw [hjournal] at hentry
    obtain ⟨htype, owner, howner, hid⟩ := h.owned entry hentry
    exact ⟨htype, owner, hmem.2 (.inl howner), hid⟩
  · exact fun row hrow => ⟨row, hmem.2 (.inl hrow), .refl row⟩
  · intro row hrow hnew
    rcases hmem.1 hrow with hrow | rfl
    · exact absurd rfl (hnew row hrow)
    · rfl
  · rw [hjournal]
    exact Accounting.Grown.refl _

/-- The amount of the entry that posts an expense. -/
theorem debitTotal_manualExpense {account : String} {normalized : List JournalLine}
    (h : validateLines (manualExpense expense account).lines = .ok normalized) :
    debitTotal normalized = expense.amountRial := by
  obtain ⟨-, -, hamounts⟩ := validateLines_eq_ok h
  have hdebits : normalized.map JournalLine.debitRial = [expense.amountRial, 0] := by
    calc normalized.map JournalLine.debitRial
        = (normalized.map JournalLine.amounts).map fun amounts => amounts.2.1 := by
          rw [List.map_map]
          rfl
      _ = [expense.amountRial, 0] := by
          rw [hamounts]
          rfl
  rw [debitTotal, hdebits]
  simp

theorem ExpenseDb.Kept.post (h : db.Kept) {input : PostExpense}
    (hgrown : ∀ place, (seen place).Grown db) (hok : resurrects input seen db = false)
    (hcommits : Tx.Commits (postExpense input seen) db result db') :
    db'.Kept ∧ db.MovesTo db' := by
  rcases commits_postExpense hcommits with rfl | ⟨expense, entry, hseen, hdraft, hentry, hupdate,
    hallowed⟩
  · exact ⟨h, .refl _⟩
  obtain ⟨current, hcurrent, hid, hleads, hfound⟩ := (hgrown 0).updated hseen hupdate
  have hkey : trim (manualExpense expense (categoryToAccount expense.category)).idempotencyKey =
      postedKey current.id := by
    rw [← hid]
    exact trim_postedKey expense.id
  rw [hid] at hupdate
  rcases commits_postJournalEntrySeen hentry with ⟨hreplayed, hfinal, hsame⟩ |
    ⟨normalized, hlines, hnew, hcreate⟩
  · rw [hkey] at hreplayed
    obtain ⟨hold, holdKey⟩ := byKey_eq_some hreplayed
    obtain ⟨stored, hstored, hstoredId, hstoredKey, -⟩ := (hgrown 1).entry hold
    obtain ⟨hposts, hstatus⟩ := h.of_postedKey hstored hcurrent (hstoredKey.trans holdKey)
    have hlink : current.journalEntryId = some entry.id :=
      hposts.link.trans (congrArg some hstoredId)
    rcases hstatus with ⟨hposted, -⟩ | ⟨hreversed, -⟩
    · -- the entry is that of the expense, which stays as it is but for who posted it
      refine h.update hcurrent hupdate ?_
        ⟨rfl, rfl, rfl, fun entryId hentryId => ?_, .inl hposted.symm⟩
        (fun id _ => by rw [hsame]) (fun entry hentry => ?_) ?_
      · rw [hsame]
        cases h.booked current hcurrent with
        | draft hstatus => rw [hposted] at hstatus; cases hstatus
        | reversed _ _ hstatus => rw [hposted] at hstatus; cases hstatus
        | posted own _ hentries hown hstands =>
            refine .posted own rfl hentries ⟨hown.key, hown.plain, hown.amount, ?_⟩ hstands
            exact hlink.symm.trans hown.link
      · exact hlink.symm.trans hentryId
      · rw [hsame] at hentry
        exact ⟨(h.owned entry hentry).1, .inr ⟨entry, hentry, rfl⟩⟩
      · rw [hsame]
        exact Accounting.Grown.refl _
    · -- it would come back
      have hresurrects : resurrects input seen db = true := by
        unfold resurrects
        rw [hseen, Option.any_some, hdraft, hid, hreplayed, Option.any_some, hfinal, hallowed,
          hfound, Option.any_some, hreversed]
        rfl
      rw [hresurrects] at hok
      cases hok
  · have hentryKey : entry.idempotencyKey = postedKey current.id := by
      rw [hnew]
      exact hkey
    have hentryRef : entry.referenceId = current.id := by
      rw [hnew]
      exact hid
    have htype : entry.referenceType = "operating_expense" := by rw [hnew]; rfl
    have hentries := entriesOf_create hcreate htype
    have hnone : current.status = .draft := by
      by_contra hstatus
      obtain ⟨taken, htaken, hposts⟩ := (h.booked current hcurrent).exists_posts hstatus
      exact not_key_of_createEntry hcreate htaken (hposts.key.trans hentryKey.symm)
    cases h.booked current hcurrent with
    | posted _ hstatus => rw [hnone] at hstatus; cases hstatus
    | reversed _ _ hstatus => rw [hnone] at hstatus; cases hstatus
    | draft hstatus hnoEntry hnoLink =>
        refine h.update hcurrent hupdate ?_ ⟨rfl, rfl, rfl, fun entryId hentryId => ?_, .inr ?_⟩
          (fun id hne => ?_) (fun row hrow => ?_) (grown_createEntry hcreate)
        · refine .posted entry rfl ?_ ⟨hentryKey, by rw [hnew]; rfl, ?_, rfl⟩ (by rw [hnew]; rfl)
          · show entriesOf db'.journal current.id = [entry]
            rw [hentries, if_pos hentryRef, hnoEntry, List.nil_append]
          · calc debitTotal entry.lines = debitTotal normalized := by rw [hnew]; rfl
              _ = expense.amountRial := debitTotal_manualExpense hlines
              _ = current.amountRial := hleads.amount.symm
        · rw [hnoLink] at hentryId
          cases hentryId
        · rw [hstatus]
          exact .posted
        · rw [hentries, if_neg (hentryRef ▸ hne), List.append_nil]
        · rw [(rows_of_createEntry hcreate).1, List.mem_append, List.mem_singleton] at hrow
          rcases hrow with hrow | rfl
          · exact ⟨(h.owned row hrow).1, .inr ⟨row, hrow, rfl⟩⟩
          · exact ⟨htype, .inl hentryRef⟩

/-- The entry that a reversal looks up is the one that the expense names now. -/
theorem link_of_postedEntry (h : db.Kept) {seen : ExpenseDb} (hgrown : seen.Grown db)
    (hcurrent : current ∈ db.expenses.rows) (hleads : expense.Leads current)
    {journalEntryId : String} (hentry : postedEntry expense seen.journal = .ok journalEntryId) :
    current.journalEntryId = some journalEntryId := by
  unfold postedEntry at hentry
  cases hlink : expense.journalEntryId.filter (· ≠ "") with
  | some named =>
      rw [hlink] at hentry
      cases hentry
      exact hleads.link journalEntryId (Option.filter_eq_some_iff.1 hlink).1
  | none =>
      rw [hlink] at hentry
      cases hfound : byKey seen.journal (postedKey expense.id) with
      | none =>
          rw [hfound] at hentry
          cases hentry
      | some entry =>
          rw [hfound] at hentry
          cases hentry
          obtain ⟨hold, hkey⟩ := byKey_eq_some hfound
          obtain ⟨stored, hstored, hid, hstoredKey, -⟩ := hgrown.entry hold
          rw [← hleads.id] at hkey
          obtain ⟨hposts, -⟩ := h.of_postedKey hstored hcurrent (hstoredKey.trans hkey)
          exact hposts.link.trans (congrArg some hid)

/-- A reversal of the entry of an expense leaves the journal of one that is reversed alone, and adds
the reversal to that of one that is posted. -/
theorem ExpenseDb.Kept.reverseEntry (h : db.Kept) (hgrown : ∀ place, (seen place).Grown db)
    (hcurrent : current ∈ db.expenses.rows) {own : JournalEntry}
    (hmemOwn : own ∈ entriesOf db.journal current.id) (hposts : own.Posts current) {now : ℤ}
    {reversal : JournalEntry}
    (hcommits : Tx.Commits (reverseJournalEntryTx (manualExpenseReversal current.id own.id)
      (fun place => (seen (place + 2)).journal) id now) db.journal reversal journal') :
    (current.status = .reversed ∧ journal' = db.journal) ∨
    (byKey db.journal (reversedKey current.id) = none ∧ reversal.Undoes own current ∧
      reversal.referenceType = "operating_expense" ∧ reversal.referenceId = current.id ∧
      ∃ mid, createEntry reversal db.journal = some mid ∧
        updateReversed own.id (fun _ => true) mid = some journal') := by
  obtain ⟨hown, hownType, hownRef⟩ := mem_entriesOf.1 hmemOwn
  obtain ⟨-, hstatus⟩ := h.of_postedKey hown hcurrent hposts.key
  have htrim : trim (manualExpenseReversal current.id own.id).idempotencyKey =
      reversedKey current.id := trim_reversedKey current.id
  rcases commits_reverse hcommits with ⟨hsame, hdone⟩ | ⟨hmem, hreverses, hmark⟩ |
    ⟨hfree, original, normalized, mid, hfound, -, -, hnew, hcreate, hmark⟩
  · refine .inl ⟨?_, hsame⟩
    rcases hdone with htaken | ⟨original, hfound, hreversed⟩
    · obtain ⟨taken, htaken⟩ := Option.ne_none_iff_exists'.1 htaken
      obtain ⟨hmem, hkey⟩ := byKey_eq_some htaken
      exact h.of_reversedKey hmem hcurrent (hkey.trans htrim)
    · -- the original has been seen as reversed, and is the entry of the expense
      obtain ⟨hold, hid⟩ := IndexedTable.find?_eq_some.1 hfound
      obtain ⟨stored, hstored, hstoredId, -, -, -, hkeeps⟩ := (hgrown 2).entry hold
      have hsameEntry : stored = own := Table.eq_of_key hstored hown (hstoredId.trans hid)
      have hownReversed : own.status = .reversed := hsameEntry ▸ hkeeps hreversed
      rcases hstatus with ⟨-, hposted⟩ | ⟨hreversed, -⟩
      · rw [hposted] at hownReversed
        cases hownReversed
      · exact hreversed
  · -- a reversal of the entry is there, so that the entry is not POSTED
    obtain ⟨⟨row, hrow, hposted⟩, -⟩ := rows_of_updateReversed hmark
    obtain ⟨hrowMem, hrowId⟩ := IndexedTable.find?_eq_some.1 hrow
    obtain ⟨other, -, ⟨hother, -⟩ | ⟨original, horiginal, hundoes, -, hreversed, -⟩⟩ :=
      h.entry_cases hmem
    · rw [hother.plain] at hreverses
      cases hreverses
    · have hid : original.id = own.id := Option.some.inj (hundoes.reverses.symm.trans hreverses)
      have hsameRow : row = original := Table.eq_of_key hrowMem horiginal (hrowId.trans hid.symm)
      rw [hsameRow, hreversed] at hposted
      cases hposted
  · obtain ⟨hold, hid⟩ := IndexedTable.find?_eq_some.1 hfound
    obtain ⟨stored, hstored, hstoredId, -, htype, href, -⟩ := (hgrown 2).entry hold
    have hsameEntry : stored = own := Table.eq_of_key hstored hown (hstoredId.trans hid)
    have hid : original.id = own.id := hid
    rw [hid] at hmark
    refine .inr ⟨htrim ▸ hfree, ⟨?_, ?_, ?_⟩, ?_, ?_, mid, hcreate, hmark⟩
    · rw [hnew]
      exact (trim_trim _).trans htrim
    · rw [hnew]
      exact congrArg some hid
    · rw [hnew]
      rfl
    · calc reversal.referenceType = original.referenceType := by rw [hnew]; rfl
        _ = own.referenceType := by rw [← htype, hsameEntry]
        _ = "operating_expense" := hownType
    · calc reversal.referenceId = original.referenceId := by rw [hnew]; rfl
        _ = own.referenceId := by rw [← href, hsameEntry]
        _ = current.id := hownRef

/-- What the reversal leaves of the row. -/
theorem movesTo_reverse (h : current.status ≠ .draft) :
    current.MovesTo (OperatingExpense.reverse input current) := by
  refine ⟨rfl, rfl, rfl, fun _ hlink => hlink, ?_⟩
  cases hstatus : current.status with
  | draft => exact absurd hstatus h
  | posted => exact .inr .reversed
  | reversed => exact .inl rfl

theorem ExpenseDb.Kept.reverse (h : db.Kept) (hgrown : ∀ place, (seen place).Grown db)
    (hcommits : Tx.Commits (reverseExpense input seen) db result db') :
    db'.Kept ∧ db.MovesTo db' := by
  rcases commits_reverseExpense hcommits with rfl | ⟨expense, journalEntryId, reversal, hseen,
    hposted, hentry, hreverse, hupdate⟩
  · exact ⟨h, .refl _⟩
  obtain ⟨current, hcurrent, hid, hleads, -⟩ := (hgrown 0).updated hseen hupdate
  have hlink := link_of_postedEntry h (hgrown 1) hcurrent hleads hentry
  have hlater : current.status ≠ .draft := by
    intro hdraft
    have hrank := hleads.status
    rw [hposted, hdraft] at hrank
    exact absurd hrank (by decide)
  rw [hid] at hupdate hreverse
  have hmoves : current.MovesTo (OperatingExpense.reverse input current) := movesTo_reverse hlater
  cases h.booked current hcurrent with
  | draft hstatus => exact absurd hstatus hlater
  | posted own hstatus hentries hposts hstands =>
      have hmemOwn : own ∈ entriesOf db.journal current.id := by
        rw [hentries]
        exact List.mem_singleton_self _
      have hsame : journalEntryId = own.id := Option.some.inj (hlink.symm.trans hposts.link)
      rw [hsame] at hreverse
      rcases h.reverseEntry hgrown hcurrent hmemOwn hposts hreverse with ⟨hreversed, -⟩ |
        ⟨-, hundoes, htype, href, mid, hcreate, hmark⟩
      · rw [hstatus] at hreversed
        cases hreversed
      have hmid := entriesOf_create hcreate htype
      have hown := (mem_entriesOf.1 hmemOwn).1
      have hrows := (rows_of_createEntry hcreate).1
      have hownMid : own ∈ mid.rows := by
        rw [hrows]
        exact List.mem_append_left _ hown
      have hfresh : reversal.id ≠ own.id := fun heq =>
        (rows_of_createEntry hcreate).2.1 own hown heq.symm
      refine h.update hcurrent hupdate ?_ hmoves (fun id hne => ?_) (fun row hrow => ?_)
        ((grown_createEntry hcreate).trans (grown_updateReversed hmark))
      · refine .reversed own.markReversed reversal rfl ?_ ⟨hposts.key, hposts.plain, hposts.amount,
          hposts.link⟩ rfl ⟨hundoes.key, hundoes.reverses, hundoes.stands⟩
        show entriesOf db'.journal current.id = [own.markReversed, reversal]
        rw [entriesOf_mark hmark, hmid, if_pos href, hentries]
        simp [hfresh]
      · have hownRef := (mem_entriesOf.1 hmemOwn).2.2
        rw [entriesOf_mark_of_ne hmark hownMid rfl (hownRef ▸ hne), hmid, if_neg (href ▸ hne),
          List.append_nil]
      · obtain ⟨old, hold, rfl⟩ := (mem_of_updateReversed hmark).1 hrow
        rw [(reference_of_mark old own.id).1, (reference_of_mark old own.id).2]
        rw [hrows, List.mem_append, List.mem_singleton] at hold
        rcases hold with hold | rfl
        · exact ⟨(h.owned old hold).1, .inr ⟨old, hold, rfl⟩⟩
        · exact ⟨htype, .inl href⟩
  | reversed own other hstatus hentries hposts hmarked hundoes =>
      have hmemOwn : own ∈ entriesOf db.journal current.id := by
        rw [hentries]
        exact List.mem_cons_self
      have hsame : journalEntryId = own.id := Option.some.inj (hlink.symm.trans hposts.link)
      rw [hsame] at hreverse
      have hjournal : db'.journal = db.journal := by
        rcases h.reverseEntry hgrown hcurrent hmemOwn hposts hreverse with
          ⟨-, hjournal⟩ | ⟨hfree, -⟩
        · exact hjournal
        · -- the key is taken by the reversal that is there
          have hother : other ∈ entriesOf db.journal current.id := by
            rw [hentries]
            exact List.mem_cons_of_mem _ (List.mem_singleton_self _)
          have hdiffers := List.find?_eq_none.1 hfree other (mem_entriesOf.1 hother).1
          exact absurd (decide_eq_true hundoes.key) hdiffers
      refine h.update hcurrent hupdate ?_ hmoves (fun id _ => by rw [hjournal])
        (fun entry hentry => ?_) ?_
      · rw [hjournal]
        exact .reversed own other rfl hentries
          ⟨hposts.key, hposts.plain, hposts.amount, hposts.link⟩ hmarked ⟨hundoes.key, hundoes.reverses, hundoes.stands⟩
      · rw [hjournal] at hentry
        exact ⟨(h.owned entry hentry).1, .inr ⟨entry, hentry, rfl⟩⟩
      · rw [hjournal]
        exact Accounting.Grown.refl _

end AbrChin.Accounting
