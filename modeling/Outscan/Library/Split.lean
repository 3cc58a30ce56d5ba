import Mathlib.Data.List.Basic

/-! Cutting a list at a doubled separator, beside the single one of
`List.splitOn`, and at the last separator. -/
namespace Split

variable {α : Type} [DecidableEq α]

/-- Cut at each doubled `c`, the leftmost first. -/
def splitOnPair (c : α) : List α → List (List α)
  | [] => [[]]
  | [x] => [[x]]
  | x :: y :: rest =>
    if x = c ∧ y = c then [] :: splitOnPair c rest
    else (splitOnPair c (y :: rest)).modifyHead (x :: ·)

theorem splitOnPair_cons_of_ne {c x : α} (h : x ≠ c) (rest : List α) :
    splitOnPair c (x :: rest) = (splitOnPair c rest).modifyHead (x :: ·) := by
  cases rest with
  | nil => rfl
  | cons y rest => rw [splitOnPair, if_neg fun hc => h hc.1]

theorem splitOnPair_cons_of_head_ne {c : α} {rest : List α} (h : rest.head? ≠ some c) (x : α) :
    splitOnPair c (x :: rest) = (splitOnPair c rest).modifyHead (x :: ·) := by
  cases rest with
  | nil => rfl
  | cons y rest =>
    rw [splitOnPair, if_neg]
    rintro ⟨-, rfl⟩
    exact h rfl

theorem splitOnPair_pair (c : α) (rest : List α) :
    splitOnPair c (c :: c :: rest) = [] :: splitOnPair c rest := by
  rw [splitOnPair, if_pos ⟨rfl, rfl⟩]

theorem splitOnPair_ne_nil (c : α) (text : List α) : splitOnPair c text ≠ [] := by
  induction text using splitOnPair.induct c with
  | case1 => simp [splitOnPair]
  | case2 => simp [splitOnPair]
  | case3 x y rest hc ih => simp [splitOnPair, hc]
  | case4 x y rest hc ih =>
    rw [splitOnPair, if_neg hc]
    cases hsplit : splitOnPair c (y :: rest) with
    | nil => exact absurd hsplit ih
    | cons first others => simp

theorem intercalate_splitOnPair (c : α) (text : List α) :
    [c, c].intercalate (splitOnPair c text) = text := by
  induction text using splitOnPair.induct c with
  | case1 => rfl
  | case2 x => simp [splitOnPair]
  | case3 x y rest hc ih =>
    obtain ⟨rfl, rfl⟩ := hc
    rw [splitOnPair_pair, List.intercalate_cons_of_ne_nil (splitOnPair_ne_nil _ _), ih]
    rfl
  | case4 x y rest hc ih =>
    rw [splitOnPair, if_neg hc]
    cases hsplit : splitOnPair c (y :: rest) with
    | nil => exact absurd hsplit (splitOnPair_ne_nil _ _)
    | cons first others =>
      rw [hsplit] at ih
      rw [List.modifyHead_cons]
      cases others with
      | nil =>
        rw [List.intercalate_singleton] at ih ⊢
        rw [ih]
      | cons second others =>
        rw [List.intercalate_cons_cons] at ih ⊢
        rw [List.cons_append, List.cons_append, ih]

theorem splitOnPair_append {c : α} {piece : List α} (h : c ∉ piece) (rest : List α) :
    splitOnPair c (piece ++ rest) = (splitOnPair c rest).modifyHead (piece ++ ·) := by
  induction piece with
  | nil =>
    rw [List.nil_append]
    cases splitOnPair c rest with
    | nil => rfl
    | cons first others => rfl
  | cons x piece ih =>
    have hx : x ≠ c := fun heq => h (by simp [heq])
    rw [List.cons_append, splitOnPair_cons_of_ne hx,
      ih fun hmem => h (List.mem_cons_of_mem _ hmem)]
    cases splitOnPair c rest with
    | nil => rfl
    | cons first others => rfl

def Clean (c : α) (pieces : List (List α)) : Prop := ∀ piece ∈ pieces, piece ≠ [] ∧ c ∉ piece

omit [DecidableEq α] in
theorem head?_intercalate_ne {c : α} {pieces : List (List α)} (h : Clean c pieces) :
    ([c].intercalate pieces).head? ≠ some c := by
  cases pieces with
  | nil => simp [List.intercalate_nil]
  | cons piece rest =>
    obtain ⟨hne, hmem⟩ := h piece (by simp)
    cases piece with
    | nil => exact absurd rfl hne
    | cons x piece =>
      have hx : x ≠ c := fun heq => hmem (by simp [heq])
      cases rest with
      | nil => simpa [List.intercalate_singleton] using hx
      | cons next others => simpa [List.intercalate_cons_cons] using hx

theorem splitOnPair_intercalate_append {c : α} {pieces : List (List α)} (h : Clean c pieces)
    (rest : List α) :
    splitOnPair c ([c].intercalate pieces ++ rest) =
      (splitOnPair c rest).modifyHead ([c].intercalate pieces ++ ·) := by
  induction pieces with
  | nil =>
    rw [List.intercalate_nil, List.nil_append]
    cases splitOnPair c rest with
    | nil => rfl
    | cons first others => rfl
  | cons piece others ih =>
    have hclean : Clean c others := fun p hp => h p (List.mem_cons_of_mem _ hp)
    obtain ⟨-, hmem⟩ := h piece (by simp)
    cases others with
    | nil => rw [List.intercalate_singleton, splitOnPair_append hmem]
    | cons next others =>
      have hhead : ([c].intercalate (next :: others) ++ rest).head? ≠ some c := by
        have hne : [c].intercalate (next :: others) ≠ [] := by
          have hnext := (hclean next (by simp)).1
          cases others with
          | nil => simpa [List.intercalate_singleton] using hnext
          | cons second others => simp [List.intercalate_cons_cons]
        have hfirst := head?_intercalate_ne hclean
        cases hjoin : [c].intercalate (next :: others) with
        | nil => exact absurd hjoin hne
        | cons x tail =>
          rw [hjoin] at hfirst
          simpa using hfirst
      rw [List.intercalate_cons_cons, List.append_assoc, List.append_assoc,
        splitOnPair_append hmem, List.singleton_append, splitOnPair_cons_of_head_ne hhead,
        ih hclean]
      cases splitOnPair c rest with
      | nil => rfl
      | cons first cuts => simp [List.append_assoc]

theorem splitOnPair_intercalate {c : α} {pieces : List (List α)} (h : Clean c pieces) :
    splitOnPair c ([c].intercalate pieces) = [[c].intercalate pieces] := by
  have hsplit := splitOnPair_intercalate_append h []
  rw [List.append_nil] at hsplit
  rw [hsplit]
  simp [splitOnPair]

theorem splitOnPair_intercalate_pair {c : α} {left right : List (List α)} (hleft : Clean c left)
    (hright : Clean c right) :
    splitOnPair c ([c].intercalate left ++ c :: c :: [c].intercalate right) =
      [[c].intercalate left, [c].intercalate right] := by
  rw [splitOnPair_intercalate_append hleft, splitOnPair_pair,
    splitOnPair_intercalate hright, List.modifyHead_cons, List.append_nil]

omit [DecidableEq α] in
theorem intercalate_append (sep : List α) {first second : List (List α)} (hfirst : first ≠ [])
    (hsecond : second ≠ []) :
    sep.intercalate (first ++ second) =
      sep.intercalate first ++ sep ++ sep.intercalate second := by
  induction first with
  | nil => exact absurd rfl hfirst
  | cons piece rest ih =>
    cases rest with
    | nil =>
      rw [List.singleton_append, List.intercalate_cons_of_ne_nil hsecond,
        List.intercalate_singleton]
    | cons next others =>
      have hrest := ih (by simp)
      rw [List.cons_append, List.intercalate_cons_of_ne_nil (by simp), hrest,
        List.intercalate_cons_cons]
      simp only [List.append_assoc]

omit [DecidableEq α] in
theorem map_intercalate {β : Type} (f : α → β) (sep : List α) (pieces : List (List α)) :
    (sep.intercalate pieces).map f = (sep.map f).intercalate (pieces.map (List.map f)) := by
  induction pieces with
  | nil => rfl
  | cons piece rest ih =>
    cases rest with
    | nil => simp
    | cons next others =>
      rw [List.intercalate_cons_cons, List.map_append, List.map_append, ih, List.map_cons,
        List.map_cons, List.map_cons, List.intercalate_cons_cons]

/-- What precedes and what follows the last `c`. -/
def splitAtLast (c : α) (text : List α) : Option (List α × List α) :=
  if c ∈ text then
    some (((text.reverse.dropWhile (· ≠ c)).drop 1).reverse, (text.reverse.takeWhile (· ≠ c)).reverse)
  else none

theorem splitAtLast_append {c : α} {last : List α} (h : c ∉ last) (before : List α) :
    splitAtLast c (before ++ c :: last) = some (before, last) := by
  have hall : ∀ x ∈ last.reverse, decide (x ≠ c) = true := by
    intro x hx
    rw [decide_eq_true_eq]
    rintro rfl
    exact h (List.mem_reverse.mp hx)
  rw [splitAtLast, if_pos (by simp), List.reverse_append, List.reverse_cons, List.append_assoc,
    List.takeWhile_append_of_pos hall, List.dropWhile_append_of_pos hall]
  simp

end Split
