import Mathlib.Data.List.DropRight
import Tether.Control.Client
import Tether.Url.Basic

/-!
What counts of a text that is read as a URL. Blanks around it and the tabs and line breaks in it do
not. When more text is written behind it, the blanks that ended it are in the middle, and those that
are no tab and no line break count (`leading_dropLastSlashes`); without such blanks, what counts
of the text is what counts of it in the longer text, perhaps with slashes behind it
(`exists_inkOf_eq`).
-/

namespace Tether.Url

open Tether.Control

/-- A character that counts inside a URL. -/
def isInk (c : Char) : Bool := c ≠ '\t' && c ≠ '\n' && c ≠ '\r'

/-- What counts of text that more text follows. -/
def leading (cs : List Char) : List Char := (cs.dropWhile isOuter).filter isInk

theorem isInk_of_not_isOuter {c : Char} (h : isOuter c = false) : isInk c = true := by
  simp only [isInk, Bool.and_eq_true, decide_eq_true_eq]
  refine ⟨⟨?_, ?_⟩, ?_⟩ <;> rintro rfl <;> cases h

theorem filter_isInk {cs : List Char} (h : ∀ c ∈ cs, isOuter c = false) : cs.filter isInk = cs :=
  List.filter_eq_self.2 fun c hc => isInk_of_not_isOuter (h c hc)

/-- Taking from the front and taking from the back go in either order. -/
theorem rdropWhile_dropWhile (p : Char → Bool) (cs : List Char) :
    (cs.dropWhile p).rdropWhile p = (cs.rdropWhile p).dropWhile p := by
  induction cs using List.reverseRecOn with
  | nil => rfl
  | append_singleton cs c ih =>
    by_cases hc : p c = true
    · rw [List.rdropWhile_concat_pos p cs c hc, ← ih, List.dropWhile_append]
      split
      · rename_i he
        rw [List.isEmpty_iff.1 he, List.dropWhile_cons_of_pos hc]
        rfl
      · exact List.rdropWhile_concat_pos p _ c hc
    · rw [List.rdropWhile_concat_neg p cs c hc, List.dropWhile_append]
      split
      · rw [List.dropWhile_cons_of_neg hc]
        exact List.rdropWhile_concat_neg p [] c hc
      · exact List.rdropWhile_concat_neg p _ c hc

theorem inkOf_eq (s : String) : inkOf s = leading (s.toList.rdropWhile isOuter) := by
  rw [leading, ← rdropWhile_dropWhile]
  rfl

/-- What follows without a blank at its front does not change what counts before it. -/
theorem leading_append {back : List Char} (h : ∀ c ∈ back.head?, isOuter c = false)
    (front : List Char) : leading (front ++ back) = leading front ++ back.filter isInk := by
  have hback : back.dropWhile isOuter = back := by
    cases back with
    | nil => rfl
    | cons c back => exact List.dropWhile_cons_of_neg (Bool.eq_false_iff.1 (h c rfl))
  unfold leading
  rw [List.dropWhile_append]
  split
  · rename_i he
    rw [List.isEmpty_iff.1 he, hback]
    rfl
  · rw [List.filter_append]

/-- Neither does anything that follows text of which something counts. -/
theorem leading_append_of_ne_nil {front : List Char} (h : leading front ≠ []) (back : List Char) :
    leading (front ++ back) = leading front ++ back.filter isInk := by
  unfold leading at h ⊢
  rw [List.dropWhile_append]
  split
  · rename_i he
    rw [List.isEmpty_iff.1 he] at h
    exact absurd rfl h
  · rw [List.filter_append]

/-- With other text behind it, blanks around the front of it count like text. -/
theorem inkOf_append (front : String) {back : String} (hne : back.toList ≠ [])
    (h : ∀ c ∈ back.toList, isOuter c = false) :
    inkOf (front ++ back) = leading front.toList ++ back.toList := by
  have hdrop : (front.toList ++ back.toList).rdropWhile isOuter =
      front.toList ++ back.toList := by
    rw [List.rdropWhile_eq_self_iff]
    intro _ hlast
    rw [List.getLast_append_of_ne_nil _ hne, h _ (List.getLast_mem hne)] at hlast
    cases hlast
  rw [inkOf_eq, String.toList_append, hdrop, leading_append, filter_isInk h]
  exact fun c hc => h c (List.mem_of_mem_head? hc)

theorem toList_dropLastSlashes (s : String) :
    (dropLastSlashes s).toList = s.toList.rdropWhile (· = '/') := by
  rw [dropLastSlashes, String.toList_ofList]
  rfl

theorem exists_dropLastSlashes (s : String) :
    ∃ n, s.toList = (dropLastSlashes s).toList ++ List.replicate n '/' := by
  have hslashes : ∀ c ∈ s.toList.rtakeWhile (· = '/'), c = '/' := fun c hc => by
    simpa using List.mem_rtakeWhile_imp hc
  refine ⟨(s.toList.rtakeWhile (· = '/')).length, ?_⟩
  rw [← List.eq_replicate_of_mem hslashes, toList_dropLastSlashes,
    List.rdropWhile_append_rtakeWhile]

/-- No slash is taken off a text that ends in a blank. -/
theorem dropLastSlashes_eq {s : String} (h : s.toList.rtakeWhile isOuter ≠ []) :
    dropLastSlashes s = s := by
  rw [← String.toList_inj, toList_dropLastSlashes, List.rdropWhile_eq_self_iff]
  intro hs hlast
  refine h (List.rtakeWhile_eq_nil_iff.2 fun _ hblank => ?_)
  rw [of_decide_eq_true hlast] at hblank
  cases hblank

/-- The blanks behind a text count when more text follows, but for tabs and line breaks. -/
theorem leading_dropLastSlashes {s : String} (hne : inkOf s ≠ [])
    (hblank : s.toList.rtakeWhile isOuter ≠ []) :
    leading (dropLastSlashes s).toList =
      inkOf s ++ (s.toList.rtakeWhile isOuter).filter isInk := by
  rw [inkOf_eq] at hne ⊢
  rw [dropLastSlashes_eq hblank, ← leading_append_of_ne_nil hne,
    List.rdropWhile_append_rtakeWhile]

/-- Without such blanks, only slashes behind it are left away. -/
theorem exists_inkOf_eq {s : String} (hne : inkOf s ≠ [])
    (hblanks : ∀ c ∈ s.toList.rtakeWhile isOuter, isInk c = false) :
    ∃ n, inkOf s = leading (dropLastSlashes s).toList ++ List.replicate n '/' := by
  by_cases hblank : s.toList.rtakeWhile isOuter = []
  · obtain ⟨n, hn⟩ := exists_dropLastSlashes s
    have hslash : ∀ c ∈ List.replicate n '/', isOuter c = false := fun c hc => by
      rw [List.eq_of_mem_replicate hc]
      decide
    refine ⟨n, ?_⟩
    rw [inkOf_eq, List.rdropWhile_eq_self_iff.2 (List.rtakeWhile_eq_nil_iff.1 hblank), hn,
      leading_append fun c hc => hslash c (List.mem_of_mem_head? hc), filter_isInk hslash]
  · refine ⟨0, ?_⟩
    rw [leading_dropLastSlashes hne hblank, List.filter_eq_nil_iff.2 fun c hc => by
      simp [hblanks c hc], List.append_nil, List.replicate_zero, List.append_nil]

end Tether.Url
