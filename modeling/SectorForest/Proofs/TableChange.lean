import Mathlib.Data.List.Nodup
import SectorForest.Storage.Table

/-!
# Changes of a table

What inserting a row and changing one column come to in a table that numbers its own rows and in
which a condition picks at most one row. The rows are those of some values `xs`, and a change of a
row is a change of its value; nothing is said here of what the values are.
-/

namespace SectorForest

open Storage

namespace Storage.Table

/-- A table that remembers its numbers numbers a new row behind the last one given out. -/
theorem topId_eq_lastId {t : Table} (hremembers : t.definition.remembersNumbers = true)
    (hle : ∀ row ∈ t.rows, row.id ≤ t.lastId) : t.topId = t.lastId := by
  -- no row raises the number that folding over the rows starts with
  have hfold (xs : List Row) (hxs : ∀ row ∈ xs, row.id ≤ t.lastId) :
      xs.foldl (fun top row => if top.toInt < row.id.toInt then row.id else top) t.lastId =
        t.lastId := by
    induction xs with
    | nil => rfl
    | cons x xs ih =>
      have hx := Int64.le_iff_toInt_le.mp (hxs x List.mem_cons_self)
      rw [List.foldl_cons, if_neg (by omega)]
      exact ih fun row hrow => hxs row (List.mem_cons_of_mem x hrow)
  simp only [topId, hremembers, if_true]
  exact hfold t.rows hle

/-- A new row without a number of its own gets the next one. -/
theorem insertRow_eq {t : Table} {values : List (String × Cell)} {row : Row}
    (hgiven : t.givenNumber? values = none) (htop : t.topId = t.lastId)
    (hrow : row = { id := t.lastId + 1, cells := t.newCells values }) :
    t.insertRow values =
      if t.lastId = Int64.maxValue then .error .full
      else
        match t.definition.rowFault? true (fun _ => true) t.rows row with
        | some fault => .error fault
        | none =>
          .ok (t.lastId + 1, { t with rows := t.rows ++ [row], lastId := t.lastId + 1 }) := by
  subst hrow
  simp only [insertRow, hgiven, nextId?, htop]
  by_cases hmax : t.lastId = Int64.maxValue
  · simp only [if_pos hmax]
  · cases hfault : t.definition.rowFault? true (fun _ => true) t.rows
      { id := t.lastId + 1, cells := t.newCells values } <;>
    simp only [if_neg hmax, hfault]

section Update

variable {α : Type} {t : Table} {row : α → Row} {column : String} {value : Cell}
  {condition : Condition} {meets : α → Bool} {change : α → α} {clash : α → α → Bool}
  {fault : Fault}

/-- A change of a column in no row. -/
theorem updateRows_none (column : String) (value : Cell)
    (hmeets : ∀ x, t.meets condition (row x) = meets x) (before : List Row)
    {xs : List α} (hxs : ∀ x ∈ xs, meets x = false) :
    t.updateRows true column value condition before (xs.map row) =
      .ok (0, before ++ xs.map row) := by
  induction xs generalizing before with
  | nil => simp [updateRows]
  | cons x xs ih =>
    have hx : t.meets condition (row x) = false := (hmeets x).trans (hxs x List.mem_cons_self)
    rw [List.map_cons, updateRows, hx, if_neg Bool.false_ne_true,
      ih _ fun y hy => hxs y (List.mem_cons_of_mem x hy), List.append_assoc]
    rfl

/-- A change of a column in one row among others. -/
theorem updateRows_one (hmeets : ∀ x, t.meets condition (row x) = meets x)
    (hrow : ∀ (others : List α) x, t.updateRow true column value (others.map row) (row x) =
      if others.any (clash (change x)) then .error fault else .ok (row (change x)))
    (before : List α) {front back : List α} {x : α} (hfront : ∀ y ∈ front, meets y = false)
    (hx : meets x = true) (hback : ∀ y ∈ back, meets y = false) :
    t.updateRows true column value condition (before.map row) ((front ++ x :: back).map row) =
      if (before ++ front ++ back).any (clash (change x)) then .error fault
      else .ok (1, (before ++ front ++ change x :: back).map row) := by
  -- induction on the rows in front, which move over to those that are done
  induction front generalizing before with
  | nil =>
    have hx' : t.meets condition (row x) = true := (hmeets x).trans hx
    rw [List.nil_append, List.map_cons, updateRows, hx', if_pos rfl, ← List.map_append, hrow,
      List.append_nil]
    by_cases hclash : (before ++ back).any (clash (change x))
    · rw [if_pos hclash, if_pos hclash]
      rfl
    · have hrest := updateRows_none column value hmeets
        (before.map row ++ [row (change x)]) hback
      rw [if_neg hclash, if_neg hclash]
      simp only [bind, Except.bind, hrest, pure, Except.pure]
      simp
  | cons y front ih =>
    have hy : t.meets condition (row y) = false := (hmeets y).trans (hfront y List.mem_cons_self)
    have hbefore : before.map row ++ [row y] = (before ++ [y]).map row := by simp
    rw [List.cons_append, List.map_cons, updateRows, hy, if_neg Bool.false_ne_true, hbefore,
      ih (before ++ [y]) fun z hz => hfront z (List.mem_cons_of_mem y hz)]
    simp

/-- A change of a column in the one row, if any, that meets a condition. -/
theorem update_eq {xs : List α} (change : α → α) (clash : α → α → Bool)
    (hrows : t.rows = xs.map row)
    (hmeets : ∀ x, t.meets condition (row x) = meets x)
    (hnumber : t.definition.isNumber column = false)
    (hrow : ∀ (others : List α) x, t.updateRow true column value (others.map row) (row x) =
      if others.any (clash (change x)) then .error fault else .ok (row (change x)))
    (hnodup : xs.Nodup) (hone : ∀ x ∈ xs, ∀ y ∈ xs, meets x = true → meets y = true → x = y) :
    t.update true column value condition =
      match xs.find? meets with
      | none => .ok (0, t)
      | some x =>
        if xs.any fun y => !meets y && clash (change x) y then .error fault
        else
          .ok (1, { t with
            rows := (xs.map fun y => if meets y then change y else y).map row }) := by
  cases hfind : xs.find? meets with
  | none =>
    have hnone : ∀ x ∈ xs, meets x = false := by simpa using hfind
    have hrest := updateRows_none column value hmeets [] hnone
    rw [List.nil_append, ← hrows] at hrest
    simp only [update, hrest, bind, Except.bind, hnumber, pure, Except.pure,
      if_neg Bool.false_ne_true]
  | some x =>
    have hx : meets x = true := List.find?_some hfind
    obtain ⟨front, back, rfl⟩ := List.append_of_mem (List.mem_of_find?_eq_some hfind)
    -- a second row that meets the condition would be equal to the first
    have hother : ∀ y, y ∈ front ∨ y ∈ back → meets y = false := by
      intro y hy
      by_contra hmeet
      have heq : y = x := hone y (by simpa using hy.imp_right Or.inr) x (by simp)
        (by simpa using hmeet) hx
      subst heq
      rw [List.nodup_append, List.nodup_cons] at hnodup
      exact hy.elim (fun hf => hnodup.2.2 y hf y List.mem_cons_self rfl) hnodup.2.1.1
    have hfront := fun y hy => hother y (Or.inl hy)
    have hback := fun y hy => hother y (Or.inr hy)
    -- a row is not compared with itself
    have hany : ((front ++ x :: back).any fun y => !meets y && clash (change x) y) =
        (front ++ back).any (clash (change x)) := by
      rw [Bool.eq_iff_iff]
      simp only [List.any_eq_true, List.mem_append, List.mem_cons]
      constructor
      · rintro ⟨y, hy, hclash⟩
        rw [Bool.and_eq_true, Bool.not_eq_true'] at hclash
        rcases hy with hy | rfl | hy
        · exact ⟨y, Or.inl hy, hclash.2⟩
        · exact absurd (hx.symm.trans hclash.1) (by decide)
        · exact ⟨y, Or.inr hy, hclash.2⟩
      · rintro ⟨y, hy, hclash⟩
        exact ⟨y, hy.imp_right Or.inr, by rw [hother y hy, hclash]; rfl⟩
    have hmap : ((front ++ x :: back).map fun y => if meets y then change y else y) =
        front ++ change x :: back := by
      have hkeep (ys : List α) (hys : ∀ y ∈ ys, meets y = false) :
          (ys.map fun y => if meets y then change y else y) = ys := by
        refine (List.map_congr_left fun y hy => ?_).trans (List.map_id ys)
        rw [hys y hy, if_neg Bool.false_ne_true, id_eq]
      rw [List.map_append, List.map_cons, hkeep front hfront, hkeep back hback, if_pos hx]
    have hchange := updateRows_one hmeets hrow [] hfront hx hback
    rw [List.map_nil, List.nil_append] at hchange
    simp only [update, hrows, hchange, hany, hmap, hnumber]
    by_cases hclash : (front ++ back).any (clash (change x))
    · rw [if_pos hclash, if_pos hclash]
      rfl
    · rw [if_neg hclash, if_neg hclash]
      rfl

end Update

end Storage.Table

end SectorForest
