import Componentry.Text.Blank
import Mathlib.Data.List.DropRight

/-!
# Trimming and splitting

A text is tight if it neither begins nor ends with a blank. Trimming takes away blanks alone,
leaves a tight text, and leaves a tight text as it is.

Splitting at a separator is the splitting of lists. So the pieces, with the separator between
them, are the text again, and no piece has the separator.
-/

namespace Componentry.Text

/-- The text neither begins nor ends with a blank. -/
structure IsTight (text : List Char) : Prop where
  head : ∀ c ∈ text.head?, isBlank c = false
  last : ∀ c ∈ text.getLast?, isBlank c = false

namespace IsTight

theorem of_forall {text : List Char} (hvisible : ∀ c ∈ text, isBlank c = false) :
    IsTight text :=
  ⟨fun c hc => hvisible c (List.mem_of_mem_head? hc),
    fun c hc => hvisible c (List.mem_of_mem_getLast? hc)⟩

/-- What stands between two characters that are not blank is no matter. -/
theorem enclosed {c d : Char} (hc : isBlank c = false) (hd : isBlank d = false)
    (inner : List Char) : IsTight (c :: inner ++ [d]) where
  head := by simp [hc]
  last := by simp only [List.getLast?_concat, Option.mem_some_iff, forall_eq', hd]

theorem trim_eq {text : List Char} (h : IsTight text) : trim text = text := by
  have hleft : trimLeft text = text := by
    cases text with
    | nil => rfl
    | cons c rest => exact List.dropWhile_cons_of_neg (by simp [h.head c rfl])
  rw [trim, hleft]
  refine List.rdropWhile_eq_self_iff.mpr fun hne => ?_
  simp [h.last _ (List.getLast_mem_getLast? hne)]

end IsTight

theorem isTight_trim (text : List Char) : IsTight (trim text) where
  head := by
    intro c hc
    -- The trimmed text is a prefix of the one that is trimmed at its start.
    obtain ⟨behind, hbehind⟩ := List.rdropWhile_prefix isBlank (l := trimLeft text)
    have hfirst : c ∈ (trimLeft text).head? := by
      rw [← hbehind, List.head?_append, show List.rdropWhile isBlank (trimLeft text) = trim text
        from rfl, Option.mem_def.mp hc]
      rfl
    have hne : text.dropWhile isBlank ≠ [] := by
      rintro hnil
      rw [trimLeft, hnil] at hfirst
      cases hfirst
    have hvisible := List.head_dropWhile_not isBlank hne
    rwa [Option.some_inj.mp ((List.head?_eq_some_head hne).symm.trans hfirst)] at hvisible
  last := by
    intro c hc
    have hne : trim text ≠ [] := by
      rintro hnil
      rw [hnil] at hc
      cases hc
    have hvisible := List.rdropWhile_last_not isBlank (trimLeft text) hne
    have hlast : (trim text).getLast hne = c :=
      Option.some_inj.mp ((List.getLast?_eq_some_getLast hne).symm.trans hc)
    rw [← hlast]
    exact Bool.not_eq_true _ ▸ hvisible

@[simp] theorem trim_trim (text : List Char) : trim (trim text) = trim text :=
  (isTight_trim text).trim_eq

/-- Trimming takes away blanks at the two ends. -/
theorem exists_eq_append_trim (text : List Char) : ∃ before behind : List Char,
    (∀ c ∈ before, isBlank c = true) ∧ (∀ c ∈ behind, isBlank c = true) ∧
      text = before ++ trim text ++ behind := by
  refine ⟨text.takeWhile isBlank, (trimLeft text).rtakeWhile isBlank,
    fun c hc => List.mem_takeWhile_imp hc, fun c hc => List.mem_rtakeWhile_imp hc, ?_⟩
  calc text = text.takeWhile isBlank ++ trimLeft text := List.takeWhile_append_dropWhile.symm
    _ = text.takeWhile isBlank ++ (trim text ++ (trimLeft text).rtakeWhile isBlank) := by
        rw [show trim text = (trimLeft text).rdropWhile isBlank from rfl,
          List.rdropWhile_append_rtakeWhile]
    _ = _ := (List.append_assoc _ _ _).symm

/-- Trimming keeps the number of a character that is not blank. -/
theorem count_trim {c : Char} (hc : isBlank c = false) (text : List Char) :
    (trim text).count c = text.count c := by
  obtain ⟨before, behind, hbefore, hbehind, htext⟩ := exists_eq_append_trim text
  have hnone : ∀ blanks : List Char, (∀ d ∈ blanks, isBlank d = true) → blanks.count c = 0 := by
    intro blanks hblanks
    refine List.count_eq_zero.mpr fun hmem => ?_
    rw [hblanks c hmem] at hc
    cases hc
  conv_rhs => rw [htext]
  simp [hnone before hbefore, hnone behind hbehind]

theorem mem_trim_iff {c : Char} (hc : isBlank c = false) {text : List Char} :
    c ∈ trim text ↔ c ∈ text := by
  rw [← List.count_pos_iff, count_trim hc, List.count_pos_iff]

theorem trim_eq_nil_iff {text : List Char} : trim text = [] ↔ text.all isBlank = true := by
  rw [List.all_eq_true]
  constructor
  · intro htrim c hc
    by_contra hvisible
    have hmem := (mem_trim_iff (Bool.not_eq_true _ ▸ hvisible)).mpr hc
    rw [htrim] at hmem
    cases hmem
  · intro hblank
    rw [trim, trimLeft, List.dropWhile_eq_nil_iff.mpr hblank]
    rfl

@[simp] theorem trim_space (text : List Char) : trim (' ' :: text) = trim text := rfl

/-- A digit is not blank. -/
theorem isBlank_of_isDigit {c : Char} (hdigit : c.isDigit = true) : isBlank c = false := by
  have hrange : 48 ≤ c.toNat ∧ c.toNat ≤ 57 := by
    simpa [Char.isDigit, UInt32.le_iff_toNat_le] using hdigit
  simp only [isBlank, inRanges, blankRanges, List.any_cons, List.any_nil, Bool.or_false,
    Bool.or_eq_false_iff, Bool.and_eq_false_iff, decide_eq_false_iff_not]
  omega

/-! ## Splitting -/

theorem split_eq_splitOn (separator : Char) (text : List Char) :
    split separator text = text.splitOn separator := by
  induction text with
  | nil => rfl
  | cons c rest ih =>
      rw [split, List.splitOn_cons_eq_if_modifyHead, ih]
      by_cases hc : c = separator
      · simp [hc]
      · cases hpieces : rest.splitOn separator with
        | nil => exact absurd hpieces (List.splitOn_ne_nil separator rest)
        | cons piece pieces => simp [hc]

@[simp] theorem intercalate_split (separator : Char) (text : List Char) :
    [separator].intercalate (split separator text) = text := by
  rw [split_eq_splitOn, List.intercalate_splitOn]

theorem not_mem_of_mem_split {separator : Char} {text piece : List Char}
    (hpiece : piece ∈ split separator text) : separator ∉ piece := by
  induction text generalizing piece with
  | nil =>
      cases List.mem_singleton.mp hpiece
      exact List.not_mem_nil
  | cons c rest ih =>
      rw [split_eq_splitOn, List.splitOn_cons_eq_if_modifyHead, ← split_eq_splitOn] at hpiece
      by_cases hc : c = separator
      · rw [if_pos (beq_iff_eq.mpr hc)] at hpiece
        rcases List.mem_cons.mp hpiece with rfl | hrest
        · exact List.not_mem_nil
        · exact ih hrest
      · rw [if_neg (by simpa using hc)] at hpiece
        cases hpieces : split separator rest with
        | nil =>
            rw [hpieces] at hpiece
            cases hpiece
        | cons first pieces =>
            rw [hpieces, List.modifyHead_cons] at hpiece
            rcases List.mem_cons.mp hpiece with rfl | hrest
            · have hfirst : separator ∉ first := ih (by simp [hpieces])
              simp [hfirst, Ne.symm hc]
            · exact ih (by simp [hpieces, hrest])

theorem not_mem_trim_of_mem_split {separator : Char} (hvisible : isBlank separator = false)
    {text piece : List Char} (hpiece : piece ∈ split separator text) : separator ∉ trim piece :=
  mt (mem_trim_iff hvisible).mp (not_mem_of_mem_split hpiece)

theorem split_append_cons (separator : Char) (first rest : List Char) :
    split separator (first ++ separator :: rest) =
      split separator first ++ split separator rest := by
  simp only [split_eq_splitOn, List.splitOn_append_cons_self]

/-- Every piece is split by itself, since there is a separator between two of them. -/
theorem split_intercalate {separator : Char} {pieces : List (List Char)} (hne : pieces ≠ []) :
    split separator ([separator].intercalate pieces) = pieces.flatMap (split separator) := by
  induction pieces with
  | nil => exact absurd rfl hne
  | cons piece rest ih =>
      cases rest with
      | nil => simp
      | cons next rest =>
          rw [List.intercalate_cons_cons, List.append_assoc, List.singleton_append,
            split_append_cons, ih (List.cons_ne_nil next rest), ← List.flatMap_cons]

end Componentry.Text
