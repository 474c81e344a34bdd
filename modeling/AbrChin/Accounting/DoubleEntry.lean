import AbrChin.Accounting.Journal
import Mathlib.Algebra.Order.BigOperators.Group.List

/-!
# The journal keeps double entry

Every stored entry is balanced: each line moves one side of one account, and the sides have
the same positive total.  An entry is reversed once at most, by an entry that has its lines
with the sides exchanged, and it is REVERSED exactly when it is reversed.

The lines come first, then what one call can do to the journal (`commits_post`,
`commits_reverse`), then the invariant of a run.
-/

namespace AbrChin.Accounting

open Lib Js

/-! ## Lines that balance -/

/-- Lines that a journal entry may have. -/
structure Balanced (lines : List JournalLine) : Prop where
  nonempty : lines ≠ []
  oneSided : ∀ line ∈ lines, (0 < line.debitRial ∧ line.creditRial = 0) ∨
    (line.debitRial = 0 ∧ 0 < line.creditRial)
  balanced : debitTotal lines = creditTotal lines
  positive : 0 < debitTotal lines

/-- The lines of an entry in the order in which they were posted. -/
def InOrder (lines : List JournalLine) : Prop :=
  lines.map JournalLine.sortOrder = List.range lines.length

/-- What a line would move if debit and credit were exchanged. -/
def JournalLine.exchanged (line : JournalLine) : String × ℤ × ℤ :=
  (line.accountCode, line.creditRial, line.debitRial)

/-- What a line input moves. -/
def JournalLineInput.amounts (line : JournalLineInput) : String × ℤ × ℤ :=
  (line.accountCode, line.debitRial, line.creditRial)

/-- A line that passes its checks moves one side, and keeps its account and its amounts. -/
theorem normalizeLine_eq_ok {index : ℕ} {line : JournalLineInput} {normalized : JournalLine}
    (h : normalizeLine index line = .ok normalized) :
    normalized.amounts = line.amounts ∧ normalized.sortOrder = index ∧
      ((0 < normalized.debitRial ∧ normalized.creditRial = 0) ∨
        (normalized.debitRial = 0 ∧ 0 < normalized.creditRial)) := by
  unfold normalizeLine at h
  obtain ⟨accountCode, hcode, h⟩ := bind_eq_ok.1 h
  obtain ⟨_, hdebit, h⟩ := bind_eq_ok.1 h
  obtain ⟨_, hcredit, h⟩ := bind_eq_ok.1 h
  obtain ⟨_, hzero, h⟩ := bind_eq_ok.1 h
  obtain ⟨_, hmixed, h⟩ := bind_eq_ok.1 h
  have hsame : accountCode = line.accountCode := by
    unfold assertAccountCode at hcode
    split at hcode
    · exact (Except.ok.inj hcode).symm
    · cases hcode
  have hdebit := throwIf_eq_ok.1 hdebit
  have hcredit := throwIf_eq_ok.1 hcredit
  have hzero := throwIf_eq_ok.1 hzero
  have hmixed := throwIf_eq_ok.1 hmixed
  cases h
  refine ⟨?_, rfl, ?_⟩
  · simp only [JournalLine.amounts, JournalLineInput.amounts, hsame]
  · dsimp only
    omega

variable {normalized : List JournalLine}

theorem normalizeLines_eq_ok {lines : List JournalLineInput} {index : ℕ}
    (h : normalizeLines index lines = .ok normalized) :
    normalized.map JournalLine.amounts = lines.map JournalLineInput.amounts ∧
      normalized.map JournalLine.sortOrder = List.range' index lines.length ∧
      ∀ line ∈ normalized, (0 < line.debitRial ∧ line.creditRial = 0) ∨
        (line.debitRial = 0 ∧ 0 < line.creditRial) := by
  induction lines generalizing index normalized with
  | nil =>
      cases h
      simp
  | cons line rest ih =>
      obtain ⟨first, hfirst, h⟩ := bind_eq_ok.1 h
      obtain ⟨others, hothers, h⟩ := bind_eq_ok.1 h
      cases h
      obtain ⟨hamounts, horder, hside⟩ := normalizeLine_eq_ok hfirst
      obtain ⟨hamounts', horder', hsides⟩ := ih hothers
      refine ⟨?_, ?_, ?_⟩
      · rw [List.map_cons, List.map_cons, hamounts, hamounts']
      · rw [List.map_cons, horder, horder', List.length_cons, List.range'_succ]
      · intro other hother
        rcases List.mem_cons.1 hother with rfl | hother
        · exact hside
        · exact hsides other hother

/-- What passes `validateLines`. -/
theorem validateLines_eq_ok {lines : List JournalLineInput}
    (h : validateLines lines = .ok normalized) :
    Balanced normalized ∧ InOrder normalized ∧
      normalized.map JournalLine.amounts = lines.map JournalLineInput.amounts := by
  unfold validateLines at h
  obtain ⟨_, hempty, h⟩ := bind_eq_ok.1 h
  obtain ⟨result, hlines, h⟩ := bind_eq_ok.1 h
  obtain ⟨_, htotals, h⟩ := bind_eq_ok.1 h
  obtain ⟨_, hpositive, h⟩ := bind_eq_ok.1 h
  cases h
  have hempty := throwIf_eq_ok.1 hempty
  have htotals := throwIf_eq_ok.1 htotals
  have hpositive := throwIf_eq_ok.1 hpositive
  obtain ⟨hamounts, horder, hsides⟩ := normalizeLines_eq_ok hlines
  have hlength : normalized.length = lines.length := by
    simpa using congrArg List.length hamounts
  have hnonneg : 0 ≤ debitTotal normalized := by
    apply List.sum_nonneg
    intro amount hamount
    obtain ⟨line, hline, rfl⟩ := List.mem_map.1 hamount
    rcases hsides line hline with h | h <;> omega
  refine ⟨⟨?_, hsides, not_not.1 htotals, by omega⟩, ?_, hamounts⟩
  · intro hnil
    apply hempty
    rw [← hlength, hnil]
    rfl
  · unfold InOrder
    rw [horder, hlength, List.range_eq_range']

/-- Lines in order are left alone by sorting. -/
theorem sortLines_eq {lines : List JournalLine} (h : InOrder lines) : sortLines lines = lines := by
  apply List.Pairwise.insertionSort_eq
  have hsorted : (lines.map JournalLine.sortOrder).Pairwise (· ≤ ·) := by
    rw [h]
    exact List.pairwise_le_range
  exact List.pairwise_map.1 hsorted

/-! ## What a call can do -/

variable {journal : Journal} {entry : JournalEntry}

theorem byKey_eq_some {key : String} (h : byKey journal key = some entry) :
    entry ∈ journal.rows ∧ entry.idempotencyKey = key :=
  ⟨List.mem_of_find?_eq_some h, by simpa using List.find?_some h⟩

theorem eq_or_eq_some_of_getD {α : Type} {o : Option α} {a b : α} (h : b = o.getD a) :
    b = a ∨ o = some b := by
  cases o with
  | none => exact .inl h
  | some value => exact .inr (congrArg some h.symm)

variable {journal' : Journal} {id : String}

/-- A post replays an entry, or finds its key free and creates one. -/
theorem commits_post {input : PostJournalEntryInput} {now : ℤ}
    (h : Tx.Commits (postJournalEntryTx input id now) journal entry journal') :
    (byKey journal (trim input.idempotencyKey) = some entry ∧ journal' = journal) ∨
    (byKey journal (trim input.idempotencyKey) = none ∧
      ∃ normalized, validateLines input.lines = .ok normalized ∧
        entry = input.entry normalized id now ∧ createEntry entry journal = some journal') := by
  unfold postJournalEntryTx at h
  simp only [Tx.commits_bind, Tx.commits_throwIf, Tx.commits_ofExcept, Tx.commits_get] at h
  obtain ⟨_, _, ⟨-, rfl⟩, normalized, _, ⟨hlines, rfl⟩, _, _, ⟨rfl, rfl⟩, h⟩ := h
  split at h
  · rename_i existing hexisting
    simp only [Tx.commits_bind, Tx.commits_ofExcept, Tx.commits_pure] at h
    obtain ⟨_, _, ⟨-, rfl⟩, rfl, rfl⟩ := h
    exact .inl ⟨hexisting, rfl⟩
  · rename_i hfree
    simp only [Tx.commits_bind, Tx.commits_attempt, Tx.commits_pure] at h
    obtain ⟨_, _, hcreate, rfl, rfl⟩ := h
    exact .inr ⟨hfree, normalized, hlines, rfl, hcreate⟩

/-- A post of valid lines under a free key creates its entry. -/
theorem commits_post_of_free {input : PostJournalEntryInput}
    (hkey : trim input.idempotencyKey ≠ "") (hlines : validateLines input.lines = .ok normalized)
    (hplain : input.reversesEntryId = none)
    (hfree : byKey journal (trim input.idempotencyKey) = none) (hid : journal.find? id = none)
    (now : ℤ) :
    ∃ journal', Tx.Commits (postJournalEntryTx input id now) journal
        (input.entry normalized id now) journal' ∧
      journal'.rows = journal.rows ++ [input.entry normalized id now] := by
  have hnew : (journal.insert? (input.entry normalized id now)).isSome := by
    apply IndexedTable.insert?_isSome hid
    intro index hindex value hvalue other hother hsame
    simp only [JournalEntry.indexes, List.mem_cons, List.not_mem_nil, or_false] at hindex
    rcases hindex with rfl | rfl
    · have hvalue : some (trim input.idempotencyKey) = some value := hvalue
      have hdiffers := List.find?_eq_none.1 hfree other hother
      rw [← hvalue] at hsame
      exact hdiffers (by simpa using hsame)
    · have hnone : input.reversesEntryId = some value := hvalue
      rw [hplain] at hnone
      cases hnone
  obtain ⟨journal', hinsert⟩ := Option.isSome_iff_exists.1 hnew
  refine ⟨journal', ?_, IndexedTable.rows_of_insert? hinsert⟩
  have hcreate : createEntry (input.entry normalized id now) journal = some journal' := by
    unfold createEntry
    have hreverses : (input.entry normalized id now).reversesEntryId = none := hplain
    rw [hreverses, if_pos (by rfl)]
    exact hinsert
  unfold postJournalEntryTx
  simp only [Tx.commits_bind, Tx.commits_throwIf, Tx.commits_ofExcept, Tx.commits_get]
  refine ⟨(), journal, ⟨hkey, rfl⟩, normalized, journal, ⟨hlines, rfl⟩, journal, journal,
    ⟨rfl, rfl⟩, ?_⟩
  rw [hfree]
  simp only [Tx.commits_bind, Tx.commits_attempt, Tx.commits_pure]
  exact ⟨(), journal', hcreate, trivial, rfl⟩

variable {seen : ℕ → Journal}

/-- A reversal leaves the journal alone since its key is taken or the original was seen as reversed,
marks an entry that its key has reversed before, or creates the reversing entry and marks the
original. -/
theorem commits_reverse {input : ReverseJournalEntryInput} {now : ℤ}
    (h : Tx.Commits (reverseJournalEntryTx input seen id now) journal entry journal') :
    (journal' = journal ∧ (byKey journal (trim input.idempotencyKey) ≠ none ∨
      ∃ original, (seen 0).find? input.journalEntryId = some original ∧
        original.status = .reversed)) ∨
    (entry ∈ journal.rows ∧ entry.reversesEntryId = some input.journalEntryId ∧
      updateReversed input.journalEntryId (·.status = .posted) journal = some journal') ∨
    (byKey journal (trim input.idempotencyKey) = none ∧
      ∃ original normalized mid, (seen 0).find? input.journalEntryId = some original ∧
        original.status = .posted ∧
        validateLines ((sortLines original.lines).map JournalLine.reversing) = .ok normalized ∧
        entry = (original.reversal input now).entry normalized id now ∧
        createEntry entry journal = some mid ∧
        updateReversed original.id (fun _ => true) mid = some journal') := by
  unfold reverseJournalEntryTx at h
  simp only [Tx.commits_bind, Tx.commits_throwIf, Tx.commits_get] at h
  obtain ⟨_, _, ⟨-, rfl⟩, _, _, ⟨rfl, rfl⟩, h⟩ := h
  split at h
  · rename_i existing hexisting
    simp only [Tx.commits_bind, Tx.commits_throwIf] at h
    obtain ⟨_, _, ⟨-, rfl⟩, h⟩ := h
    by_cases hsame : existing.reversesEntryId = some input.journalEntryId
    · simp only [if_pos hsame, Tx.commits_bind, Tx.commits_modify, Tx.commits_pure] at h
      obtain ⟨_, _, hmark, rfl, rfl⟩ := h
      rcases eq_or_eq_some_of_getD hmark with rfl | hmark
      · exact .inl ⟨rfl, .inl fun hnone => by cases hnone.symm.trans hexisting⟩
      · exact .inr (.inl ⟨(byKey_eq_some hexisting).1, hsame, hmark⟩)
    · simp only [if_neg hsame, Tx.commits_pure] at h
      exact .inl ⟨h.2, .inl fun hnone => by cases hnone.symm.trans hexisting⟩
  · rename_i hfree
    simp only [Tx.commits_bind, Tx.commits_orThrow] at h
    obtain ⟨original, _, ⟨horiginal, rfl⟩, h⟩ := h
    by_cases hreversed : original.status = .reversed
    · simp only [if_pos hreversed, Tx.commits_bind, Tx.commits_orThrow] at h
      obtain ⟨_, _, ⟨-, rfl⟩, -, rfl⟩ := h
      exact .inl ⟨rfl, .inr ⟨original, horiginal, hreversed⟩⟩
    · simp only [if_neg hreversed, Tx.commits_bind, Tx.commits_throwIf, Tx.commits_attempt,
        Tx.commits_pure] at h
      obtain ⟨_, _, ⟨hposted, rfl⟩, _, mid, hpost, _, _, hmark, rfl, rfl⟩ := h
      -- the key is free, so the post creates an entry
      have hkey : trim (original.reversal input now).idempotencyKey = trim input.idempotencyKey :=
        trim_trim _
      rcases commits_post hpost with ⟨htaken, -⟩ | ⟨-, normalized, hlines, hentry, hcreate⟩
      · rw [hkey, hfree] at htaken
        cases htaken
      · exact .inr (.inr ⟨hfree, original, normalized, mid, horiginal, not_not.1 hposted, hlines,
          hentry, hcreate, hmark⟩)

/-! ## The rows after a write -/

/-- Creating an entry adds one row, and the entry that it reverses is there. -/
theorem rows_of_createEntry (h : createEntry entry journal = some journal') :
    journal'.rows = journal.rows ++ [entry] ∧ (∀ row ∈ journal.rows, row.id ≠ entry.id) ∧
      ∀ id, entry.reversesEntryId = some id → ∃ row ∈ journal'.rows, row.id = id := by
  unfold createEntry at h
  split at h
  · rename_i hreference
    have hrows := IndexedTable.rows_of_insert? h
    refine ⟨hrows, ?_, ?_⟩
    · intro row hrow hid
      have hfresh := IndexedTable.fresh_of_insert? h
      rw [← hid, IndexedTable.find?_eq_some.2 ⟨hrow, rfl⟩] at hfresh
      cases hfresh
    · intro id hid
      rw [hid, Option.all_some, Bool.or_eq_true, decide_eq_true_eq] at hreference
      rcases hreference with rfl | hfound
      · exact ⟨entry, by simp [hrows], rfl⟩
      · obtain ⟨row, hrow⟩ := Option.isSome_iff_exists.1 hfound
        obtain ⟨hmem, hkey⟩ := IndexedTable.find?_eq_some.1 hrow
        exact ⟨row, by simp [hrows, hmem], hkey⟩
  · cases h

/-- Marking an entry changes one row, in its status and its quality. -/
theorem rows_of_updateReversed {p : JournalEntry → Bool}
    (h : updateReversed id p journal = some journal') :
    (∃ row, journal.find? id = some row ∧ p row = true) ∧
      journal'.rows = journal.rows.map fun row => if row.id = id then row.markReversed else row := by
  obtain ⟨row, hfind, hp, hmodify⟩ := IndexedTable.updateIf?_eq_some.1 h
  refine ⟨⟨row, hfind, hp⟩, ?_⟩
  show journal'.table.rows = _
  rw [IndexedTable.table_of_build? hmodify]
  rfl

/-- A row after an entry has been marked. -/
theorem mem_of_updateReversed {id : String} {p : JournalEntry → Bool} {journal journal' : Journal}
    (h : updateReversed id p journal = some journal') {row' : JournalEntry} :
    row' ∈ journal'.rows ↔
      ∃ row ∈ journal.rows, row' = if row.id = id then row.markReversed else row := by
  rw [(rows_of_updateReversed h).2, List.mem_map]
  exact exists_congr fun row => and_congr_right fun _ => eq_comm

/-! ## The invariant of every run -/

/-- What holds of the journal after any calls. -/
structure Kept (journal : Journal) : Prop where
  balanced : ∀ entry ∈ journal.rows, Balanced entry.lines
  inOrder : ∀ entry ∈ journal.rows, InOrder entry.lines
  status : ∀ entry ∈ journal.rows, entry.status = .posted ∨ entry.status = .reversed
  reference : ∀ reversal ∈ journal.rows, ∀ id, reversal.reversesEntryId = some id →
    ∃ original ∈ journal.rows, original.id = id
  reversed : ∀ original ∈ journal.rows, original.status = .reversed →
    ∃ reversal ∈ journal.rows, reversal.reversesEntryId = some original.id

theorem kept_empty : Kept IndexedTable.empty := by
  constructor <;> exact fun _ h => nomatch h

/-- A new entry that is balanced and POSTED keeps the invariant. -/
theorem Kept.create (h : Kept journal) (hcreate : createEntry entry journal = some journal')
    (hbalanced : Balanced entry.lines) (horder : InOrder entry.lines)
    (hposted : entry.status = .posted) : Kept journal' := by
  obtain ⟨hrows, -, hreference⟩ := rows_of_createEntry hcreate
  have hmem : ∀ {row}, row ∈ journal'.rows ↔ row ∈ journal.rows ∨ row = entry := by
    intro row
    rw [hrows, List.mem_append, List.mem_singleton]
  constructor
  case balanced =>
    intro row hrow
    rcases hmem.1 hrow with hrow | rfl
    · exact h.balanced row hrow
    · exact hbalanced
  case inOrder =>
    intro row hrow
    rcases hmem.1 hrow with hrow | rfl
    · exact h.inOrder row hrow
    · exact horder
  case status =>
    intro row hrow
    rcases hmem.1 hrow with hrow | rfl
    · exact h.status row hrow
    · exact .inl hposted
  case reference =>
    intro row hrow id hid
    rcases hmem.1 hrow with hrow | rfl
    · obtain ⟨original, horiginal, hkey⟩ := h.reference row hrow id hid
      exact ⟨original, hmem.2 (.inl horiginal), hkey⟩
    · exact hreference id hid
  case reversed =>
    intro row hrow hreversed
    rcases hmem.1 hrow with hrow | rfl
    · obtain ⟨reversal, hreversal, hid⟩ := h.reversed row hrow hreversed
      exact ⟨reversal, hmem.2 (.inl hreversal), hid⟩
    · rw [hposted] at hreversed
      cases hreversed

/-- Marking an entry that is reversed by another keeps the invariant. -/
theorem Kept.mark {p : JournalEntry → Bool} (h : Kept journal)
    (hmark : updateReversed id p journal = some journal')
    (hreversal : ∃ reversal ∈ journal.rows, reversal.reversesEntryId = some id) :
    Kept journal' := by
  have hmem := @mem_of_updateReversed _ _ _ _ hmark
  -- the mark leaves everything but the status and the quality alone
  have hstays : ∀ row ∈ journal.rows, ∃ row' ∈ journal'.rows, row'.id = row.id ∧
      row'.reversesEntryId = row.reversesEntryId := by
    intro row hrow
    refine ⟨_, hmem.2 ⟨row, hrow, rfl⟩, ?_, ?_⟩ <;> split <;> rfl
  constructor
  case balanced =>
    intro row' hrow'
    obtain ⟨row, hrow, rfl⟩ := hmem.1 hrow'
    split <;> exact h.balanced row hrow
  case inOrder =>
    intro row' hrow'
    obtain ⟨row, hrow, rfl⟩ := hmem.1 hrow'
    split <;> exact h.inOrder row hrow
  case status =>
    intro row' hrow'
    obtain ⟨row, hrow, rfl⟩ := hmem.1 hrow'
    split
    · exact .inr rfl
    · exact h.status row hrow
  case reference =>
    intro row' hrow' target htarget
    obtain ⟨row, hrow, rfl⟩ := hmem.1 hrow'
    have htarget : row.reversesEntryId = some target := by
      rw [← htarget]
      split <;> rfl
    obtain ⟨original, horiginal, rfl⟩ := h.reference row hrow target htarget
    obtain ⟨original', horiginal', hid, -⟩ := hstays original horiginal
    exact ⟨original', horiginal', hid⟩
  case reversed =>
    intro row' hrow' hreversed
    obtain ⟨row, hrow, rfl⟩ := hmem.1 hrow'
    have hsource : ∃ reversal ∈ journal.rows, reversal.reversesEntryId = some row.id := by
      split at hreversed
      · rename_i hid
        rw [hid]
        exact hreversal
      · exact h.reversed row hrow hreversed
    obtain ⟨reversal, hmemReversal, hid⟩ := hsource
    obtain ⟨reversal', hreversal', -, hsame⟩ := hstays reversal hmemReversal
    refine ⟨reversal', hreversal', ?_⟩
    rw [hsame, hid]
    split <;> rfl

variable {operation : Operation}

/-- **What one call keeps.** -/
theorem Kept.step (h : Kept journal)
    (hcommits : Tx.Commits (operation.tx seen) journal entry journal') : Kept journal' := by
  cases operation with
  | post input id now =>
      rcases commits_post hcommits with ⟨-, rfl⟩ | ⟨-, normalized, hlines, rfl, hcreate⟩
      · exact h
      · obtain ⟨hbalanced, horder, -⟩ := validateLines_eq_ok hlines
        exact h.create hcreate hbalanced horder rfl
  | reverse input id now =>
      rcases commits_reverse hcommits with ⟨rfl, -⟩ | ⟨hmem, hid, hmark⟩ |
        ⟨-, original, normalized, mid, -, -, hlines, rfl, hcreate, hmark⟩
      · exact h
      · exact h.mark hmark ⟨entry, hmem, hid⟩
      · obtain ⟨hbalanced, horder, -⟩ := validateLines_eq_ok hlines
        have hmid : Kept mid := h.create hcreate hbalanced horder rfl
        have hnew : (original.reversal input now).entry normalized id now ∈ mid.rows := by
          rw [(rows_of_createEntry hcreate).1]
          exact List.mem_append_right _ (List.mem_singleton_self _)
        exact hmid.mark hmark ⟨_, hnew, rfl⟩

/-- An entry is reversed by one other at most. -/
theorem reversal_unique {first second : JournalEntry} (h₁ : first ∈ journal.rows)
    (h₂ : second ∈ journal.rows) (hfirst : first.reversesEntryId = some id)
    (hsecond : second.reversesEntryId = some id) :
    first = second := by
  have hindex : (fun entry : JournalEntry => entry.reversesEntryId) ∈ JournalEntry.indexes := by
    simp [JournalEntry.indexes]
  exact IndexedTable.eq_of_index h₁ h₂ hindex hfirst hsecond

/-! ## Runs in which only `reverseJournalEntry` names a reversed entry -/

/-- A post that does not say that it reverses another entry. -/
def Operation.Plain : Operation → Prop
  | post input _ _ => input.reversesEntryId = none
  | reverse _ _ _ => True

instance (operation : Operation) : Decidable operation.Plain := by
  cases operation <;> unfold Operation.Plain <;> infer_instance

/-- A reversal has the lines of its original with the sides exchanged, and the original is
marked. -/
structure Mirrored (journal : Journal) : Prop where
  exchanged : ∀ original ∈ journal.rows, ∀ reversal ∈ journal.rows,
    reversal.reversesEntryId = some original.id →
      reversal.lines.map JournalLine.amounts = original.lines.map JournalLine.exchanged
  marked : ∀ original ∈ journal.rows, ∀ reversal ∈ journal.rows,
    reversal.reversesEntryId = some original.id → original.status = .reversed

/-- Entries stay, up to being marked as reversed. -/
def Grown (before after : Journal) : Prop :=
  ∀ entry ∈ before.rows, entry ∈ after.rows ∨ entry.markReversed ∈ after.rows

theorem Grown.refl (journal : Journal) : Grown journal journal := fun _ h => .inl h

theorem Grown.trans {first second third : Journal} (h₁ : Grown first second)
    (h₂ : Grown second third) : Grown first third := by
  intro entry hentry
  rcases h₁ entry hentry with h | h
  · exact h₂ entry h
  · rcases h₂ _ h with h | h
    · exact .inr h
    · exact .inr h

theorem grown_createEntry (h : createEntry entry journal = some journal') :
    Grown journal journal' := by
  intro row hrow
  rw [(rows_of_createEntry h).1]
  exact .inl (List.mem_append_left _ hrow)

theorem grown_updateReversed {p : JournalEntry → Bool}
    (h : updateReversed id p journal = some journal') : Grown journal journal' := by
  intro row hrow
  have hmem := (mem_of_updateReversed h).2 ⟨row, hrow, rfl⟩
  split at hmem
  · exact .inr hmem
  · exact .inl hmem

theorem Grown.step (hcommits : Tx.Commits (operation.tx seen) journal entry journal') :
    Grown journal journal' := by
  cases operation with
  | post input id now =>
      rcases commits_post hcommits with ⟨-, rfl⟩ | ⟨-, _, -, -, hcreate⟩
      · exact Grown.refl _
      · exact grown_createEntry hcreate
  | reverse input id now =>
      rcases commits_reverse hcommits with ⟨rfl, -⟩ | ⟨-, -, hmark⟩ |
        ⟨_, _, _, mid, _, _, _, _, hcreate, hmark⟩
      · exact Grown.refl _
      · exact grown_updateReversed hmark
      · exact (grown_createEntry hcreate).trans (grown_updateReversed hmark)

/-- A new entry that reverses nothing. -/
theorem Mirrored.create (hkept : Kept journal) (h : Mirrored journal)
    (hcreate : createEntry entry journal = some journal') (hplain : entry.reversesEntryId = none) :
    Mirrored journal' := by
  obtain ⟨hrows, hfresh, -⟩ := rows_of_createEntry hcreate
  -- both ends of a reversal are old: the new entry reverses nothing, and nothing names it
  have hold : ∀ original ∈ journal'.rows, ∀ reversal ∈ journal'.rows,
      reversal.reversesEntryId = some original.id →
        original ∈ journal.rows ∧ reversal ∈ journal.rows := by
    intro original horiginal reversal hreversal hid
    rw [hrows, List.mem_append, List.mem_singleton] at horiginal hreversal
    rcases hreversal with hreversal | rfl
    · refine ⟨?_, hreversal⟩
      rcases horiginal with horiginal | rfl
      · exact horiginal
      · obtain ⟨target, htarget, hkey⟩ := hkept.reference reversal hreversal _ hid
        exact absurd hkey (hfresh target htarget)
    · rw [hplain] at hid
      cases hid
  constructor
  · intro original horiginal reversal hreversal hid
    obtain ⟨h₁, h₂⟩ := hold original horiginal reversal hreversal hid
    exact h.exchanged original h₁ reversal h₂ hid
  · intro original horiginal reversal hreversal hid
    obtain ⟨h₁, h₂⟩ := hold original horiginal reversal hreversal hid
    exact h.marked original h₁ reversal h₂ hid

variable {original : JournalEntry}

/-- The lines that a reversal posts. -/
theorem exchanged_of_validateLines (horder : InOrder original.lines)
    (h : validateLines ((sortLines original.lines).map JournalLine.reversing) = .ok normalized) :
    normalized.map JournalLine.amounts = original.lines.map JournalLine.exchanged := by
  obtain ⟨-, -, hamounts⟩ := validateLines_eq_ok h
  rw [hamounts, sortLines_eq horder, List.map_map]
  rfl

/-- An entry and the entry that reverses it. -/
theorem Mirrored.reverse {mid : Journal} (hkept : Kept journal) (h : Mirrored journal)
    (horiginal : original ∈ journal.rows ∨ original.markReversed ∈ journal.rows)
    (hreverses : entry.reversesEntryId = some original.id)
    (hlines : entry.lines.map JournalLine.amounts = original.lines.map JournalLine.exchanged)
    (hcreate : createEntry entry journal = some mid)
    (hmark : updateReversed original.id (fun _ => true) mid = some journal') :
    Mirrored journal' := by
  obtain ⟨hrows, hfresh, -⟩ := rows_of_createEntry hcreate
  -- the row of the original in the current version has its lines
  obtain ⟨row, hrow, hrowId, hrowLines⟩ : ∃ row ∈ journal.rows, row.id = original.id ∧
      row.lines = original.lines := by
    rcases horiginal with horiginal | horiginal
    · exact ⟨_, horiginal, rfl, rfl⟩
    · exact ⟨_, horiginal, rfl, rfl⟩
  -- a pair after the step is a pair before it, or the original with the new entry
  have hpair : ∀ first ∈ mid.rows, ∀ second ∈ mid.rows,
      second.reversesEntryId = some first.id →
        (first ∈ journal.rows ∧ second ∈ journal.rows) ∨ (first = row ∧ second = entry) := by
    intro first hfirst second hsecond hid
    rw [hrows, List.mem_append, List.mem_singleton] at hfirst hsecond
    rcases hsecond with hsecond | rfl
    · refine .inl ⟨?_, hsecond⟩
      rcases hfirst with hfirst | rfl
      · exact hfirst
      · obtain ⟨target, htarget, hkey⟩ := hkept.reference second hsecond _ hid
        exact absurd hkey (hfresh target htarget)
    · have hkey : first.id = row.id := by
        rw [hrowId]
        exact (Option.some.inj (hid.symm.trans hreverses))
      rcases hfirst with hfirst | rfl
      · exact .inr ⟨Table.eq_of_key hfirst hrow hkey, rfl⟩
      · exact absurd hkey.symm (hfresh row hrow)
  have hmem := @mem_of_updateReversed _ _ _ _ hmark
  constructor
  · intro first' hfirst' second' hsecond' hid
    obtain ⟨first, hfirst, rfl⟩ := hmem.1 hfirst'
    obtain ⟨second, hsecond, rfl⟩ := hmem.1 hsecond'
    have hid : second.reversesEntryId = some first.id := by
      split at hid <;> split at hid <;> exact hid
    have hexchanged : second.lines.map JournalLine.amounts =
        first.lines.map JournalLine.exchanged := by
      rcases hpair first hfirst second hsecond hid with ⟨h₁, h₂⟩ | ⟨rfl, rfl⟩
      · exact h.exchanged first h₁ second h₂ hid
      · rw [hlines, hrowLines]
    split <;> split <;> exact hexchanged
  · intro first' hfirst' second' hsecond' hid
    obtain ⟨first, hfirst, rfl⟩ := hmem.1 hfirst'
    obtain ⟨second, hsecond, rfl⟩ := hmem.1 hsecond'
    have hid : second.reversesEntryId = some first.id := by
      split at hid <;> split at hid <;> exact hid
    split
    · rfl
    · rename_i hother
      rcases hpair first hfirst second hsecond hid with ⟨h₁, h₂⟩ | ⟨rfl, rfl⟩
      · exact h.marked first h₁ second h₂ hid
      · exact absurd hrowId hother

/-- **What a plain call keeps.** -/
theorem Mirrored.step (hkept : Kept journal) (h : Mirrored journal)
    (hseen : ∀ place, Grown (seen place) journal) (hplain : operation.Plain)
    (hcommits : Tx.Commits (operation.tx seen) journal entry journal') : Mirrored journal' := by
  cases operation with
  | post input id now =>
      rcases commits_post hcommits with ⟨-, rfl⟩ | ⟨-, normalized, -, rfl, hcreate⟩
      · exact h
      · exact h.create hkept hcreate hplain
  | reverse input id now =>
      rcases commits_reverse hcommits with ⟨rfl, -⟩ | ⟨hmem, hid, hmark⟩ |
        ⟨-, original, normalized, mid, hread, -, hlines, rfl, hcreate, hmark⟩
      · exact h
      · -- the entry that this key has reversed is marked already
        obtain ⟨⟨row, hfind, hposted⟩, -⟩ := rows_of_updateReversed hmark
        obtain ⟨hrow, hkey⟩ := IndexedTable.find?_eq_some.1 hfind
        have hmarked := h.marked row hrow entry hmem (hkey ▸ hid)
        simp [hmarked] at hposted
      · have horiginal := hseen 0 original (IndexedTable.find?_eq_some.1 hread).1
        have horder : InOrder original.lines := by
          rcases horiginal with horiginal | horiginal
          · exact hkept.inOrder original horiginal
          · exact hkept.inOrder original.markReversed horiginal
        exact h.reverse hkept horiginal rfl (exchanged_of_validateLines horder hlines) hcreate
          hmark

/-! ## Replays and conflicts -/

/-- A call whose key is taken, or that reverses what has been reversed. -/
def Operation.Repeats (journal : Journal) : Operation → Prop
  | post input _ _ => (byKey journal (trim input.idempotencyKey)).isSome
  | reverse input _ _ => (byKey journal (trim input.idempotencyKey)).isSome ∨
      ∃ reversal ∈ journal.rows, reversal.reversesEntryId = some input.journalEntryId

/-- A repeated call writes nothing. -/
theorem eq_of_repeats (h : Mirrored journal) (hrepeats : operation.Repeats journal)
    (hcommits : Tx.Commits (operation.tx seen) journal entry journal') : journal' = journal := by
  cases operation with
  | post input id now =>
      rcases commits_post hcommits with ⟨-, rfl⟩ | ⟨hfree, -⟩
      · rfl
      · have htaken : (byKey journal (trim input.idempotencyKey)).isSome := hrepeats
        rw [hfree] at htaken
        cases htaken
  | reverse input id now =>
      rcases commits_reverse hcommits with ⟨rfl, -⟩ | ⟨hmem, hid, hmark⟩ |
        ⟨hfree, original, normalized, mid, hread, -, -, rfl, hcreate, -⟩
      · rfl
      · obtain ⟨⟨row, hfind, hposted⟩, -⟩ := rows_of_updateReversed hmark
        obtain ⟨hrow, hkey⟩ := IndexedTable.find?_eq_some.1 hfind
        have hmarked := h.marked row hrow entry hmem (hkey ▸ hid)
        simp [hmarked] at hposted
      · rcases hrepeats with htaken | ⟨reversal, hreversal, hid⟩
        · rw [hfree] at htaken
          cases htaken
        · -- the index on the reversed entry would hold it twice
          obtain ⟨hrows, hfresh, -⟩ := rows_of_createEntry hcreate
          have hkey : original.id = input.journalEntryId :=
            (IndexedTable.find?_eq_some.1 hread).2
          have hold : reversal ∈ mid.rows := by simp [hrows, hreversal]
          have hnew : (original.reversal input now).entry normalized id now ∈ mid.rows := by
            simp [hrows]
          have hsame := reversal_unique hold hnew hid (congrArg some hkey)
          exact absurd (congrArg JournalEntry.id hsame) (hfresh reversal hreversal)

/-! ## Runs -/

theorem kept_run (calls : List (Versions.Call Operation)) :
    (run stepJournal (Versions.init IndexedTable.empty) calls).Ever Kept :=
  Versions.ever_run Operation.tx Kept (fun _ _ _ _ _ _ h hcommits => h.step hcommits)
    (Versions.ever_init kept_empty) calls

/-- In a run of plain calls the reversals mirror their originals. -/
theorem mirrored_run {versions : Versions Journal}
    (h : (Kept versions.current ∧ Mirrored versions.current) ∧ versions.Grown Grown)
    {calls : List (Versions.Call Operation)} (hplain : ∀ call ∈ calls, call.input.Plain) :
    (Kept (run stepJournal versions calls).current ∧
      Mirrored (run stepJournal versions calls).current) ∧
      (run stepJournal versions calls).Grown Grown := by
  induction calls generalizing versions with
  | nil => exact h
  | cons call rest ih =>
      refine ih ?_ fun other hother => hplain other (List.mem_cons_of_mem _ hother)
      refine Versions.current_step (p := fun journal => Kept journal ∧ Mirrored journal)
        Grown.refl (fun _ _ _ => Grown.trans) h ?_
      intro entry journal' hcommits
      have hcall := hplain call List.mem_cons_self
      exact ⟨⟨h.1.1.step hcommits,
        h.1.2.step h.1.1 (fun place => h.2.seen call.ages place) hcall hcommits⟩,
        Grown.step hcommits⟩

theorem mirrored_empty : Mirrored IndexedTable.empty := by
  constructor <;> exact fun _ h => nomatch h

/-- A call that is refused or repeated leaves the journal as it was. -/
theorem current_of_repeats {versions : Versions Journal} {call : Versions.Call Operation}
    (h : Mirrored versions.current)
    (hcall : call.input.Repeats versions.current ∨ (stepJournal versions call).2.isOk = false) :
    (stepJournal versions call).1.current = versions.current := by
  rcases Versions.step_cases Operation.tx versions call with
    ⟨entry, journal', hcommits, hstep⟩ | ⟨e, hstep⟩
  · have hresult : stepJournal versions call = (versions.commit journal', .ok entry) := hstep
    rw [hresult] at hcall ⊢
    rcases hcall with hrepeats | herror
    · exact eq_of_repeats h hrepeats hcommits
    · cases herror
  · have hresult : stepJournal versions call = (versions, .error e) := hstep
    rw [hresult]

/-- **The journal keeps double entry.**  After any calls every entry is balanced and reversed at
most once, and a REVERSED entry is reversed.  When no post says itself that it reverses an
entry, a reversal exchanges the sides of its original, an entry is REVERSED exactly when it is
reversed, and a call that is repeated or refused changes nothing. -/
theorem double_entry (calls : List (Versions.Call Operation)) :
    let versions := run stepJournal (Versions.init IndexedTable.empty) calls
    let journal := versions.current
    (∀ entry ∈ journal.rows, Balanced entry.lines ∧
      (∀ first ∈ journal.rows, ∀ second ∈ journal.rows, first.reversesEntryId = some entry.id →
        second.reversesEntryId = some entry.id → first = second) ∧
      (entry.status = .reversed →
        ∃ reversal ∈ journal.rows, reversal.reversesEntryId = some entry.id)) ∧
    ((∀ call ∈ calls, call.input.Plain) →
      (∀ entry ∈ journal.rows,
        (∀ reversal ∈ journal.rows, reversal.reversesEntryId = some entry.id →
          reversal.lines.map JournalLine.amounts = entry.lines.map JournalLine.exchanged) ∧
        (entry.status = .reversed ↔
          ∃ reversal ∈ journal.rows, reversal.reversesEntryId = some entry.id)) ∧
      ∀ call, call.input.Repeats journal ∨ (stepJournal versions call).2.isOk = false →
        (stepJournal versions call).1.current = journal) := by
  intro versions journal
  have hkept : Kept journal := (kept_run calls).current
  refine ⟨fun entry hentry => ⟨hkept.balanced entry hentry, ?_, hkept.reversed entry hentry⟩, ?_⟩
  · intro first hfirst second hsecond h₁ h₂
    exact reversal_unique hfirst hsecond h₁ h₂
  · intro hplain
    have hmirrored : Mirrored journal :=
      (mirrored_run ⟨⟨kept_empty, mirrored_empty⟩, Versions.grown_init Grown.refl _⟩ hplain).1.2
    refine ⟨fun entry hentry => ⟨hmirrored.exchanged entry hentry, ?_⟩, ?_⟩
    · constructor
      · exact hkept.reversed entry hentry
      · rintro ⟨reversal, hreversal, hid⟩
        exact hmirrored.marked entry hentry reversal hreversal hid
    · intro call hcall
      exact current_of_repeats hmirrored hcall

/-- A top-up of 100 rial. -/
def sampleTopUp : PostJournalEntryInput where
  eventType := "wallet_topup_succeeded"
  referenceType := "wallet_topup"
  referenceId := "t"
  idempotencyKey := "wallet-topup:t:succeeded:v1"
  occurredAt := 0
  lines := [⟨"CASH_GATEWAY", 100, 0, none, none⟩,
    ⟨"CUSTOMER_WALLET_LIABILITY", 0, 100, none, none⟩]

/-- The top-up, posted and reversed, and its reversal reversed. -/
def reversedTopUp : List (Versions.Call Operation) := [
  ⟨.post sampleTopUp "a" 0, []⟩,
  ⟨.reverse { journalEntryId := "a", idempotencyKey := "undo" } "b" 1, []⟩,
  ⟨.reverse { journalEntryId := "b", idempotencyKey := "redo" } "c" 2, []⟩]

/-- The run of `double_entry` is not empty: the reversal of the top-up is reversed again. -/
theorem double_entry_topUp :
    let journal := (run stepJournal (Versions.init IndexedTable.empty) reversedTopUp).current
    (∃ entry ∈ journal.rows, entry.id = "b" ∧ entry.status = .reversed) ∧
    ∀ entry ∈ journal.rows, entry.status = .reversed ↔
      ∃ reversal ∈ journal.rows, reversal.reversesEntryId = some entry.id :=
  ⟨by decide +kernel, fun entry hentry =>
    (((double_entry reversedTopUp).2 (by decide)).1 entry hentry).2⟩

/-- The top-up, and another post that says that it reverses it. -/
def claimedReversal : List (Versions.Call Operation) := [
  ⟨.post sampleTopUp "a" 0, []⟩,
  ⟨.post { sampleTopUp with idempotencyKey := "other", reversesEntryId := some "a" } "b" 1, []⟩]

/-- The top-up is reversed by the second post and stays POSTED, and the second post does not
exchange its sides. -/
theorem claimedReversal_not_mirrored :
    let journal := (run stepJournal (Versions.init IndexedTable.empty) claimedReversal).current
    (¬ ∀ entry ∈ journal.rows, entry.status = .reversed ↔
      ∃ reversal ∈ journal.rows, reversal.reversesEntryId = some entry.id) ∧
    ¬ ∀ entry ∈ journal.rows, ∀ reversal ∈ journal.rows,
      reversal.reversesEntryId = some entry.id →
        reversal.lines.map JournalLine.amounts = entry.lines.map JournalLine.exchanged := by
  decide +kernel

end AbrChin.Accounting
