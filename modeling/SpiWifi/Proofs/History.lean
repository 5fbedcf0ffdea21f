import Mathlib.Data.List.Basic

/-!
# Histories

A history is a list of what happened, in order. What may happen depends on what happened before, so
a rule for histories is asked of every entry together with the entries before it.
-/

namespace SpiWifi

variable {α : Type}

/-- Every entry of the history keeps the rule, given the entries before it. -/
def EachAfter (rule : List α → α → Prop) (history : List α) : Prop :=
  ∀ before entry after, history = before ++ entry :: after → rule before entry

namespace EachAfter

variable {rule : List α → α → Prop} {xs ys : List α}

theorem nil (rule : List α → α → Prop) : EachAfter rule [] := by
  intro before entry after h
  exact absurd h.symm (List.append_ne_nil_of_right_ne_nil _ (List.cons_ne_nil _ _))

/-- A history goes on well if its later part does after its earlier one. -/
theorem append (hx : EachAfter rule xs) (hy : EachAfter (fun before => rule (xs ++ before)) ys) :
    EachAfter rule (xs ++ ys) := by
  intro before entry after h
  rcases List.append_eq_append_iff.mp h with ⟨mid, rfl, hmid⟩ | ⟨mid, rfl, hmid⟩
  · exact hy mid entry after hmid
  · cases mid with
    | nil =>
      have hentry := hy [] entry after hmid.symm
      rwa [List.append_nil, List.append_nil] at hentry
    | cons first rest =>
      cases hmid
      exact hx before entry rest rfl

theorem singleton {entry : α} (h : rule [] entry) : EachAfter rule [entry] := by
  intro before entry' after heq
  cases before with
  | nil =>
    cases heq
    exact h
  | cons first rest =>
    have hnil := (List.cons.inj heq).2
    exact absurd hnil.symm (List.append_ne_nil_of_right_ne_nil _ (List.cons_ne_nil _ _))

theorem concat {entry : α} (hx : EachAfter rule xs) (h : rule xs entry) :
    EachAfter rule (xs ++ [entry]) := by
  refine hx.append (singleton ?_)
  rwa [List.append_nil]

/-- Entries that keep the rule whatever happened before. -/
theorem of_forall (h : ∀ entry ∈ xs, ∀ before, rule before entry) : EachAfter rule xs := by
  rintro before entry after rfl
  exact h entry (List.mem_append_right _ List.mem_cons_self) before

theorem mono {rule' : List α → α → Prop} (hx : EachAfter rule xs)
    (h : ∀ before entry, rule before entry → rule' before entry) : EachAfter rule' xs :=
  fun before entry after heq => h before entry (hx before entry after heq)

end EachAfter

end SpiWifi
