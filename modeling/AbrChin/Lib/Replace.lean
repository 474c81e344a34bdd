import Mathlib.Data.String.Basic

/-!
# Replacing in a text

`String.replace` of a text that is not empty, as a relation between lists of characters: the text
is replaced where it is found first, and the search goes on behind it.
-/

namespace Lib

/-- `out` is `text` with every `pattern`, from the left, replaced. -/
inductive Replaced (pattern replacement : List Char) : List Char → List Char → Prop
  | nil : Replaced pattern replacement [] []
  | found {rest out : List Char} (h : Replaced pattern replacement rest out) :
      Replaced pattern replacement (pattern ++ rest) (replacement ++ out)
  | kept {c : Char} {rest out : List Char} (hne : ¬ pattern <+: c :: rest)
      (h : Replaced pattern replacement rest out) :
      Replaced pattern replacement (c :: rest) (c :: out)

namespace Replaced

variable {pattern replacement text out out' : List Char}

/-- A text has one result. -/
theorem unique (hpattern : pattern ≠ []) (h : Replaced pattern replacement text out)
    (h' : Replaced pattern replacement text out') : out = out' := by
  induction h generalizing out' with
  | nil =>
      generalize htext : ([] : List Char) = text at h'
      cases h' with
      | nil => rfl
      | found h' => exact absurd (List.append_eq_nil_iff.1 htext.symm).1 hpattern
      | kept hne h' => cases htext
  | @found rest out h ih =>
      generalize htext : pattern ++ rest = text at h'
      cases h' with
      | nil => exact absurd (List.append_eq_nil_iff.1 htext).1 hpattern
      | found h' =>
          obtain rfl := List.append_cancel_left htext
          rw [ih h']
      | kept hne h' => exact absurd ⟨rest, htext⟩ hne
  | @kept c rest out hne h ih =>
      generalize htext : c :: rest = text at h'
      cases h' with
      | nil => cases htext
      | @found rest' out' h' => exact absurd ⟨rest', htext.symm⟩ hne
      | kept hne h' =>
          cases htext
          rw [ih h']

/-- A block in which the pattern starts nowhere is kept. -/
theorem block {block : List Char} (h : Replaced pattern replacement text out)
    (hne : ∀ before after, block = before ++ after → after ≠ [] → ¬ pattern <+: after ++ text) :
    Replaced pattern replacement (block ++ text) (block ++ out) := by
  induction block with
  | nil => exact h
  | cons c rest ih =>
      refine .kept (hne [] (c :: rest) rfl (by simp)) (ih fun before after hrest => ?_)
      exact hne (c :: before) after (by rw [hrest, List.cons_append])

end Replaced

open String.Slice.Pattern String.Slice.Pattern.Model

/-- What `String.Slice.replace` does at a step of the search. -/
def replaceStep {s : String.Slice} (replacement : String) (sofar : String) :
    SearchStep s → String
  | .matched _ _ => sofar ++ replacement.toSlice
  | .rejected start stop => sofar ++ s.slice! start stop

theorem foldl_replaceStep {pattern replacement : String} {s : String.Slice} {pos : s.Pos}
    {steps : List (SearchStep s)} (h : IsValidSearchFrom pattern pos steps) {before after : String}
    (hpos : pos.Splits before after) (sofar : String) :
    ∃ out, Replaced pattern.toList replacement.toList after.toList out ∧
      (steps.foldl (replaceStep replacement) sofar).toList = sofar.toList ++ out := by
  induction h generalizing before after sofar with
  | endPos =>
      obtain ⟨-, rfl⟩ := String.Slice.splits_endPos_iff.1 hpos
      exact ⟨[], .nil, by simp⟩
  | @matched steps start stop hmatch hrest ih =>
      obtain ⟨_, rest, hstart, hstop⟩ := ForwardStringSearcher.isLongestMatchAt_iff_splits.1 hmatch
      obtain rfl := hpos.eq_right hstart
      obtain ⟨out, hout, hfold⟩ := ih hstop (sofar ++ replacement)
      refine ⟨replacement.toList ++ out, ?_, ?_⟩
      · rw [String.toList_append]
        exact .found hout
      · have hstep :
            replaceStep replacement sofar (.matched start stop) = sofar ++ replacement := by
          simp [replaceStep]
        rw [List.foldl_cons, hstep, hfold, String.toList_append, List.append_assoc]
  | @mismatched steps start stop hlt hno hrest ih =>
      obtain ⟨block, -, hbefore, rfl⟩ := (hpos.lt_iff_exists_eq_append stop.splits).1 hlt
      have hstop := hbefore ▸ stop.splits
      obtain ⟨hle, hcopy⟩ := String.Slice.copy_slice_eq_iff_splits.2 ⟨before, _, hpos, hstop⟩
      have hstep : replaceStep replacement sofar (.rejected start stop) = sofar ++ block := by
        rw [replaceStep, ← @String.Slice.slice_eq_slice! s start stop hle, String.appendSlice_eq,
          hcopy]
      obtain ⟨out, hout, hfold⟩ := ih stop.splits (sofar ++ block)
      refine ⟨block.toList ++ out, ?_, ?_⟩
      · rw [String.toList_append]
        refine hout.block fun init tail hblock htail hprefix => ?_
        -- a pattern that starts inside the block would have been found
        obtain ⟨more, hmore⟩ := hprefix
        have hblock : block = String.ofList init ++ String.ofList tail := by
          rw [← String.ofList_append, ← hblock, String.ofList_toList]
        have hsplit : s.copy = (before ++ String.ofList init) ++
            (String.ofList tail ++ (s.sliceFrom stop).copy) := by
          rw [hpos.eq_append, hblock]
          simp only [String.append_assoc]
        have hinside := String.Slice.Pos.splits_ofEqAppend hsplit
        have hle : start ≤ String.Slice.Pos.ofEqAppend hsplit := by
          refine (hpos.le_iff_exists_eq_append hinside).2 ⟨String.ofList init, rfl, ?_⟩
          rw [hblock, String.append_assoc]
        have hlt : String.Slice.Pos.ofEqAppend hsplit < stop := by
          refine (hinside.lt_iff_exists_eq_append hstop).2 ⟨String.ofList tail, ?_, ?_, rfl⟩
          · simpa using htail
          · rw [hblock, String.append_assoc]
        refine hno _ hle hlt (ForwardStringSearcher.matchesAt_iff_splits.2
          ⟨before ++ String.ofList init, String.ofList more, ?_⟩)
        have hfound : pattern ++ String.ofList more =
            String.ofList tail ++ (s.sliceFrom stop).copy := by
          apply String.toList_injective
          simpa using hmore
        rw [hfound]
        exact hinside
      · rw [List.foldl_cons, hstep, hfold, String.toList_append, List.append_assoc]

theorem replaced_replace {pattern : String} (hpattern : pattern ≠ "") (text replacement : String) :
    Replaced pattern.toList replacement.toList text.toList
      (text.replace pattern replacement).toList := by
  have hsearch := (ForwardStringSearcher.lawfulToForwardSearcherModel
    hpattern).isValidSearchFrom_toList text.toSlice
  obtain ⟨out, hout, hfold⟩ := @foldl_replaceStep pattern replacement _ _ _ hsearch _ _
    (String.Slice.splits_startPos text.toSlice) ""
  have hreplace : (text.replace pattern replacement).toList = out := by
    have hsteps : text.replace pattern replacement =
        (ToForwardSearcher.toSearcher pattern text.toSlice).toList.foldl
          (replaceStep replacement) "" := by
      rw [Std.Iter.foldl_toList]
      unfold String.replace String.Slice.replace
      congr 1
      funext sofar step
      cases step with
      | matched start stop => rfl
      | rejected start stop => rfl
    rw [hsteps, hfold]
    rfl
  rw [hreplace]
  simpa using hout

end Lib
