import AbrChin.Accounting.ExpenseEntries

/-!
# Expenses and the journal in step

An expense is DRAFT exactly when it has no journal entry, POSTED exactly when it has one, of its
amount, that is not reversed, and REVERSED exactly when that entry has exactly one reversal.  Its
status moves from DRAFT to POSTED to REVERSED, and two drafts with the same key are one expense.

This holds of every run without a post that brings a reversed expense back (`Resurrects`).
`resurrected_expense` is a run with one: the post waits for the lock on its key, and then stores
what it has decided before a reversal was committed.
-/

namespace AbrChin.Accounting

open Lib Js

/-! ## One step -/

/-- A call that brings a reversed expense back. -/
def Resurrects (versions : Versions ExpenseDb) (call : Versions.Call ExpenseCall) : Prop :=
  match call.input with
  | .post input => resurrects input (versions.seen call.ages) versions.current = true
  | .createDraft _ => False
  | .reverse _ => False

instance (versions : Versions ExpenseDb) (call : Versions.Call ExpenseCall) :
    Decidable (Resurrects versions call) := by
  unfold Resurrects
  split <;> infer_instance

/-- What holds after every call: the current version is kept, and every version leads to it. -/
def Sound (versions : Versions ExpenseDb) : Prop :=
  versions.current.Kept ∧ versions.Grown ExpenseDb.Grown

theorem sound_init : Sound (Versions.init ExpenseDb.empty) :=
  ⟨kept_emptyExpenses, Versions.grown_init ExpenseDb.Grown.refl _⟩

variable {call : Versions.Call ExpenseCall} {versions : Versions ExpenseDb} {db : ExpenseDb}

/-- What a call that commits does to the database. -/
theorem moves_of_commits (h : Sound versions) (hok : ¬ Resurrects versions call)
    {result : OperatingExpense} (hcommits : Tx.Commits (call.input.tx (versions.seen call.ages))
      versions.current result db) : db.Kept ∧ versions.current.MovesTo db := by
  have hgrown := fun place => h.2.seen call.ages place
  unfold Resurrects at hok
  cases hinput : call.input with
  | createDraft input =>
      rw [hinput] at hcommits
      exact h.1.draft hcommits
  | post input =>
      rw [hinput] at hcommits hok
      exact h.1.post hgrown (Bool.eq_false_of_not_eq_true hok) hcommits
  | reverse input =>
      rw [hinput] at hcommits
      exact h.1.reverse hgrown hcommits

theorem sound_step (versions : Versions ExpenseDb) (call : Versions.Call ExpenseCall)
    (hok : ¬ Resurrects versions call) (h : Sound versions) :
    Sound (stepExpense versions call).1 :=
  Versions.current_step ExpenseDb.Grown.refl (fun _ _ _ h₁ h₂ => h₁.trans h₂) h
    fun _ _ hcommits =>
      have hmoves := moves_of_commits h hok hcommits
      ⟨hmoves.1, hmoves.2.grown⟩

/-- One step moves each expense at most one status on. -/
theorem moves_step (h : Sound versions) (hok : ¬ Resurrects versions call) :
    versions.current.MovesTo (stepExpense versions call).1.current := by
  rcases Versions.step_cases ExpenseCall.tx versions call with ⟨_, _, hcommits, heq⟩ | ⟨_, heq⟩
  · unfold stepExpense
    rw [heq]
    exact (moves_of_commits h hok hcommits).2
  · unfold stepExpense
    rw [heq]
    exact .refl _

/-! ## In step -/

/-- The entries that reverse an entry. -/
def reversalsOf (journal : Journal) (entry : JournalEntry) : List JournalEntry :=
  journal.rows.filter (·.reversesEntryId = some entry.id)

/-- An expense and the journal. -/
structure InStep (journal : Journal) (expense : OperatingExpense) : Prop where
  draft : expense.status = .draft ↔ entriesOf journal expense.id = []
  posted : expense.status = .posted ↔ ∃ entry, entriesOf journal expense.id = [entry] ∧
    debitTotal entry.lines = expense.amountRial ∧ entry.status = .posted ∧
    reversalsOf journal entry = []
  reversed : expense.status = .reversed ↔ ∃ entry reversal,
    entriesOf journal expense.id = [entry, reversal] ∧
    debitTotal entry.lines = expense.amountRial ∧ reversalsOf journal entry = [reversal]

variable {entry reversal : JournalEntry}

/-- An entry that is reversed is that of a reversed expense. -/
theorem ExpenseDb.Kept.reversed_of_mem (h : db.Kept) (hentry : entry ∈ db.journal.rows)
    (hreversal : reversal ∈ db.journal.rows)
    (hreverses : reversal.reversesEntryId = some entry.id) : entry.status = .reversed := by
  obtain ⟨_, -, ⟨hposts, -⟩ | ⟨original, horiginal, hundoes, -, hmarked, -⟩⟩ :=
    h.entry_cases hreversal
  · rw [hposts.plain] at hreverses
    cases hreverses
  · have hid : original.id = entry.id := Option.some.inj (hundoes.reverses.symm.trans hreverses)
    have hsame : original = entry := Table.eq_of_key horiginal hentry hid
    rw [← hsame]
    exact hmarked

theorem ExpenseDb.Kept.reversalsOf_posted (h : db.Kept) (hentry : entry ∈ db.journal.rows)
    (hstands : entry.status = .posted) :
    reversalsOf db.journal entry = [] := by
  refine List.eq_nil_iff_forall_not_mem.2 fun reversal hreversal => ?_
  obtain ⟨hmem, hreverses⟩ := List.mem_filter.1 hreversal
  have hmarked := h.reversed_of_mem hentry hmem (of_decide_eq_true hreverses)
  rw [hstands] at hmarked
  cases hmarked

/-- The column is unique, so that an entry has one reversal at most. -/
theorem reversalsOf_eq_singleton {journal : Journal} (hmem : reversal ∈ journal.rows)
    (hreverses : reversal.reversesEntryId = some entry.id) :
    reversalsOf journal entry = [reversal] := by
  have hindex : JournalEntry.reversesEntryId ∈ JournalEntry.indexes := by
    simp [JournalEntry.indexes]
  have hone : (reversalsOf journal entry).length ≤ 1 := IndexedTable.length_filter_le_one hindex
  have hin : reversal ∈ reversalsOf journal entry :=
    List.mem_filter.2 ⟨hmem, decide_eq_true hreverses⟩
  cases hlist : reversalsOf journal entry with
  | nil =>
      rw [hlist] at hin
      cases hin
  | cons first rest =>
      rw [hlist, List.length_cons] at hone
      have hnil : rest = [] := List.length_eq_zero_iff.1 (by omega)
      rw [hlist, hnil, List.mem_singleton] at hin
      rw [hnil, hin]

theorem ExpenseDb.Kept.inStep (h : db.Kept) {expense : OperatingExpense}
    (hexpense : expense ∈ db.expenses.rows) : InStep db.journal expense := by
  cases h.booked expense hexpense with
  | draft hstatus hentries =>
      refine ⟨?_, ?_, ?_⟩
      · simp [hstatus, hentries]
      · simp [hstatus, hentries]
      · simp [hstatus, hentries]
  | posted entry hstatus hentries hposts hstands =>
      have hmem : entry ∈ entriesOf db.journal expense.id := by
        rw [hentries]
        exact List.mem_singleton_self _
      have hnone := h.reversalsOf_posted (mem_entriesOf.1 hmem).1 hstands
      refine ⟨?_, ?_, ?_⟩
      · simp [hstatus, hentries]
      · simp [hstatus, hentries, hposts.amount, hstands, hnone]
      · simp [hstatus, hentries]
  | reversed entry reversal hstatus hentries hposts hmarked hundoes =>
      have hmem : reversal ∈ entriesOf db.journal expense.id := by
        rw [hentries]
        exact List.mem_cons_of_mem _ (List.mem_singleton_self _)
      have hone := reversalsOf_eq_singleton (mem_entriesOf.1 hmem).1 hundoes.reverses
      refine ⟨?_, ?_, ?_⟩
      · simp [hstatus, hentries]
      · simp [hstatus, hentries]
      · simp [hstatus, hentries, hposts.amount, hone]

/-! ## One expense for a key -/

/-- What a draft leaves in the database. -/
def Leaves (entry : Entry (Versions ExpenseDb) (Versions.Call ExpenseCall)
    (Except ExpenseError OperatingExpense)) (versions : Versions ExpenseDb) : Prop :=
  ∀ input key expense, entry.event.input = .createDraft input →
    input.row.idempotencyKey = some key → entry.result = .ok expense →
    ∃ row ∈ versions.current.expenses.rows, row.id = expense.id ∧ row.idempotencyKey = some key

/-- Two drafts with the same key return one expense. -/
def OneExpense (earlier later : Entry (Versions ExpenseDb) (Versions.Call ExpenseCall)
    (Except ExpenseError OperatingExpense)) : Prop :=
  ∀ first second key expense expense', earlier.event.input = .createDraft first →
    later.event.input = .createDraft second → first.row.idempotencyKey = some key →
    second.row.idempotencyKey = some key → earlier.result = .ok expense →
    later.result = .ok expense' → expense'.id = expense.id

theorem withKey_eq_some {key : String} {expense : OperatingExpense}
    (h : db.withKey (some key) = some expense) :
    expense ∈ db.expenses.rows ∧ expense.idempotencyKey = some key :=
  ⟨List.mem_of_find?_eq_some h, by simpa using List.find?_some h⟩

theorem leaves_step (versions : Versions ExpenseDb) (call : Versions.Call ExpenseCall) :
    Leaves ⟨versions, call, (stepExpense versions call).2⟩ (stepExpense versions call).1 := by
  intro input key expense hinput hkey hresult
  dsimp only at hinput hresult
  unfold stepExpense at hresult ⊢
  rcases Versions.step_cases ExpenseCall.tx versions call with
    ⟨result, db, hcommits, heq⟩ | ⟨e, heq⟩
  · rw [heq] at hresult ⊢
    cases hresult
    rw [hinput] at hcommits
    show ∃ row ∈ db.expenses.rows, _
    rcases commits_createDraft hcommits with ⟨hfound, rfl⟩ | ⟨rfl, hinsert, -⟩
    · rw [hkey] at hfound
      obtain ⟨hmem, hsame⟩ := withKey_eq_some hfound
      exact ⟨expense, hmem, rfl, hsame⟩
    · refine ⟨input.row, ?_, rfl, hkey⟩
      rw [IndexedTable.rows_of_insert? hinsert]
      exact List.mem_append_right _ (List.mem_singleton_self _)
  · rw [heq] at hresult
    cases hresult

/-- Rows keep their keys. -/
theorem leaves_keep {entry : Entry (Versions ExpenseDb) (Versions.Call ExpenseCall)
      (Except ExpenseError OperatingExpense)} (hok : ¬ Resurrects versions call)
    (h : Sound versions) (hleaves : Leaves entry versions) :
    Leaves entry (stepExpense versions call).1 := by
  intro input key expense hinput hkey hresult
  obtain ⟨row, hrow, hid, hrowKey⟩ := hleaves input key expense hinput hkey hresult
  obtain ⟨row', hrow', hmove⟩ := (moves_step h hok).expenses row hrow
  exact ⟨row', hrow', hmove.id.trans hid, hmove.key.trans hrowKey⟩

theorem oneExpense_step {entry : Entry (Versions ExpenseDb) (Versions.Call ExpenseCall)
      (Except ExpenseError OperatingExpense)} (hok : ¬ Resurrects versions call)
    (h : Sound versions) (hleaves : Leaves entry versions) :
    OneExpense entry ⟨versions, call, (stepExpense versions call).2⟩ := by
  intro first second key expense expense' hfirst hsecond hkey hkey' hresult hresult'
  obtain ⟨row, hrow, hid, hrowKey⟩ :=
    leaves_keep hok h hleaves first key expense hfirst hkey hresult
  obtain ⟨row', hrow', hid', hrowKey'⟩ :=
    leaves_step versions call second key expense' hsecond hkey' hresult'
  have hindex : OperatingExpense.idempotencyKey ∈ OperatingExpense.indexes := by
    simp [OperatingExpense.indexes]
  have hsame : row' = row := IndexedTable.eq_of_index hrow' hrow hindex hrowKey' hrowKey
  rw [← hid, ← hid', hsame]

/-! ## Runs -/

/-- The status of each expense stays or moves to the next one, from DRAFT on. -/
def StatusMoves (before after : ExpenseDb) : Prop :=
  (∀ expense ∈ before.expenses.rows, ∃ expense' ∈ after.expenses.rows, expense'.id = expense.id ∧
    (expense'.status = expense.status ∨ expense.status.Next expense'.status)) ∧
  ∀ expense ∈ after.expenses.rows, (∀ old ∈ before.expenses.rows, old.id ≠ expense.id) →
    expense.status = .draft

theorem ExpenseDb.MovesTo.statusMoves {db' : ExpenseDb} (h : db.MovesTo db') :
    StatusMoves db db' := by
  refine ⟨fun expense hexpense => ?_, h.fresh⟩
  obtain ⟨expense', hexpense', hmove⟩ := h.expenses expense hexpense
  exact ⟨expense', hexpense', hmove.id, hmove.status⟩

/-- **Without a post that brings a reversed expense back, expenses and the journal stay in
step.** -/
theorem expenses_in_step {calls : List (Versions.Call ExpenseCall)}
    (hmeets : Meets stepExpense (fun versions call => ¬ Resurrects versions call)
      (Versions.init ExpenseDb.empty) calls) :
    (∀ expense ∈ (run stepExpense (Versions.init ExpenseDb.empty) calls).current.expenses.rows,
      InStep (run stepExpense (Versions.init ExpenseDb.empty) calls).current.journal expense) ∧
    (∀ entry ∈ trace stepExpense (Versions.init ExpenseDb.empty) calls,
      StatusMoves entry.before.current (stepExpense entry.before entry.event).1.current) ∧
    (trace stepExpense (Versions.init ExpenseDb.empty) calls).Pairwise OneExpense := by
  refine ⟨fun expense hexpense => ?_, fun entry hentry => ?_, ?_⟩
  · have hsound := run_of_meets sound_step sound_init hmeets
    exact hsound.1.inStep hexpense
  · obtain ⟨hsound, hok, -⟩ := of_mem_trace_of_meets sound_step sound_init hmeets hentry
    exact (moves_step hsound hok).statusMoves
  · exact pairwise_of_meets sound_step (fun versions call _ _ => leaves_step versions call)
      (fun _ _ _ hok hsound => leaves_keep hok hsound)
      (fun _ _ _ hok hsound => oneExpense_step hok hsound) sound_init hmeets

/-! ## A run with a resurrection -/

def sampleDraft : CreateDraftExpense where
  date := 1700000000000
  amountRial := 2500000
  category := .smsExpense
  title := "SMS"
  description := none
  vendor := none
  reference := none
  notes := none
  actorUserId := "admin-1"
  idempotencyKey := some "sms-1"
  newId := "expense-1"

def samplePost (actorUserId newId : String) (idempotencyKey : Option String) : PostExpense where
  expenseId := "expense-1"
  actorUserId
  idempotencyKey
  now := 1700000060000
  newId

def sampleReverse : ReverseExpense where
  expenseId := "expense-1"
  actorUserId := "admin-1"
  reason := "wrong month"
  idempotencyKey := none
  now := 1700000120000
  newId := "entry-2"

/-- A draft, its post, a post that saw the draft, and a reversal. -/
def sampleExpenseCalls : List (Versions.Call ExpenseCall) :=
  [⟨.createDraft sampleDraft, []⟩, ⟨.post (samplePost "admin-1" "entry-1" none), []⟩,
    ⟨.post (samplePost "admin-2" "entry-3" (some "post-2")), [1]⟩, ⟨.createDraft sampleDraft, []⟩,
    ⟨.reverse sampleReverse, []⟩]

theorem expenses_in_step_sample :
    ((run stepExpense (Versions.init ExpenseDb.empty) sampleExpenseCalls).current.expenses.rows.map
      fun expense => (expense.id, expense.status)) = [("expense-1", .reversed)] ∧
    ∀ expense ∈ (run stepExpense (Versions.init ExpenseDb.empty)
        sampleExpenseCalls).current.expenses.rows,
      InStep (run stepExpense (Versions.init ExpenseDb.empty) sampleExpenseCalls).current.journal
        expense :=
  ⟨by decide +kernel, (expenses_in_step (by decide +kernel)).1⟩

/-- The second post saw the draft, and the entry before it was reversed. -/
def resurrection : List (Versions.Call ExpenseCall) :=
  [⟨.createDraft sampleDraft, []⟩, ⟨.post (samplePost "admin-1" "entry-1" none), []⟩,
    ⟨.reverse sampleReverse, []⟩, ⟨.post (samplePost "admin-2" "entry-3" (some "post-2")), [2, 1]⟩]

/-- A run after which an expense is POSTED whose entry is reversed. -/
theorem resurrected_expense :
    ∃ expense ∈ (run stepExpense (Versions.init ExpenseDb.empty)
        resurrection).current.expenses.rows,
      expense.status = .posted ∧
      ¬ InStep (run stepExpense (Versions.init ExpenseDb.empty) resurrection).current.journal
        expense := by
  have hrows : (run stepExpense (Versions.init ExpenseDb.empty)
      resurrection).current.expenses.rows.any (fun expense => expense.status = .posted &&
        (entriesOf (run stepExpense (Versions.init ExpenseDb.empty) resurrection).current.journal
          expense.id).length = 2) = true := by
    decide +kernel
  obtain ⟨expense, hexpense, hstatus⟩ := List.any_eq_true.1 hrows
  obtain ⟨hposted, hlength⟩ := Bool.and_eq_true_iff.1 hstatus
  refine ⟨expense, hexpense, of_decide_eq_true hposted, fun hstep => ?_⟩
  obtain ⟨entry, hentries, -⟩ := hstep.posted.1 (of_decide_eq_true hposted)
  have hlength := of_decide_eq_true hlength
  rw [hentries] at hlength
  cases hlength

end AbrChin.Accounting
