import TableSchema.Proofs.Table.CutReading

/-!
# Hidden cells

The cutter reads, splits and counts every cell of a data file before it leaves out those that are
not shown. What it gives, be it a text or an error, is the same for all files that differ in no
more than the text of hidden cells.
-/

namespace TableSchema

/-- Lines with as many cells, which are the same in every column that is shown. -/
structure Table.SameLine (table : Table) (reader : String) (line other : List Char) : Prop where
  count : (lineCells line).length = (lineCells other).length
  shown : ∀ (i : Nat) (column : Column), table.columns.toList[i]? = some column →
    table.shows reader column → (lineCells line)[i]? = (lineCells other)[i]?

/-- Texts of data files that differ in no more than the text of hidden cells: they have as many
lines, the last of which ends in both or in none, and the same line of names, and their lines differ
in no more than that. -/
structure Table.SameShown (table : Table) (reader content other : String) : Prop where
  lines : List.Forall₂ (table.SameLine reader) (lineParts content.toList) (lineParts other.toList)
  ended : (lineParts content.toList).getLast? = some [] ↔
    (lineParts other.toList).getLast? = some []
  names : (lineParts content.toList)[1]? = (lineParts other.toList)[1]?

instance (table : Table) (reader : String) : DecidableRel (table.SameLine reader) :=
  fun line other => decidable_of_iff
    ((lineCells line).length = (lineCells other).length ∧
      ∀ i : Fin table.columns.toList.length, table.shows reader table.columns.toList[i] →
        (lineCells line)[i.val]? = (lineCells other)[i.val]?) <| by
    constructor
    · rintro ⟨hcount, hshown⟩
      refine ⟨hcount, fun i column hcolumn hshows => ?_⟩
      obtain ⟨hi, rfl⟩ := List.getElem?_eq_some_iff.1 hcolumn
      exact hshown ⟨i, hi⟩ hshows
    · intro hsame
      exact ⟨hsame.count, fun i => hsame.shown i _ (List.getElem?_eq_getElem i.isLt)⟩

instance (table : Table) (reader content other : String) :
    Decidable (table.SameShown reader content other) :=
  decidable_of_iff
    (List.Forall₂ (table.SameLine reader) (lineParts content.toList) (lineParts other.toList) ∧
      ((lineParts content.toList).getLast? = some [] ↔
        (lineParts other.toList).getLast? = some []) ∧
      (lineParts content.toList)[1]? = (lineParts other.toList)[1]?)
    ⟨fun ⟨hlines, hended, hnames⟩ => ⟨hlines, hended, hnames⟩,
      fun hsame => ⟨hsame.lines, hsame.ended, hsame.names⟩⟩

theorem restrict_cons {α : Type} (keep : Bool) (kept : List Bool) (items : List α) :
    restrict (keep :: kept) items =
      (if keep then items.head?.toList else []) ++ restrict kept items.tail := by
  cases items with
  | nil => cases keep <;> simp
  | cons item items => cases keep <;> rfl

theorem restrict_congr {α : Type} {kept : List Bool} {first second : List α}
    (hsame : ∀ i : Nat, kept[i]? = some true → first[i]? = second[i]?) :
    restrict kept first = restrict kept second := by
  induction kept generalizing first second with
  | nil => rfl
  | cons keep kept ih =>
      have hrest : restrict kept first.tail = restrict kept second.tail := by
        apply ih
        intro i hi
        rw [List.getElem?_tail, List.getElem?_tail]
        exact hsame (i + 1) hi
      rw [restrict_cons, restrict_cons, hrest]
      cases keep with
      | false => rfl
      | true => rw [List.head?_eq_getElem?, List.head?_eq_getElem?, hsame 0 rfl]

variable {table : Table} {reader : String}

theorem Table.SameLine.keep_eq {line other : List Char} (hsame : table.SameLine reader line other) :
    Cutting.keep table reader (lineCells line) = Cutting.keep table reader (lineCells other) := by
  rw [keep_eq_restrict, keep_eq_restrict]
  apply restrict_congr
  intro i hi
  rw [Table.shown, List.getElem?_map, Option.map_eq_some_iff] at hi
  obtain ⟨column, hcolumn, hshows⟩ := hi
  exact hsame.shown i column hcolumn hshows

theorem Table.SameLine.flatMap_keep_eq {lines others : List (List Char)}
    (hsame : List.Forall₂ (table.SameLine reader) lines others) :
    ((lines.map lineCells).flatMap fun cells =>
        Cutting.writeLine (Cutting.keep table reader cells)) =
      (others.map lineCells).flatMap fun cells =>
        Cutting.writeLine (Cutting.keep table reader cells) := by
  induction hsame with
  | nil => rfl
  | cons hline _ ih => simp only [List.map_cons, List.flatMap_cons, hline.keep_eq, ih]

/-- The check of the cells of a line only counts them. -/
theorem Cutting.checkCells_congr {cells others : List (List Char)} (line : Nat)
    (hcount : cells.length = others.length) :
    Cutting.checkCells table line cells = Cutting.checkCells table line others := by
  rw [Cutting.checkCells, Cutting.checkCells, hcount]

theorem Cutting.forM_checkCells_congr {rows others : List (List (List Char))} (first : Nat)
    (hcounts : List.Forall₂ (fun cells other => cells.length = other.length) rows others) :
    ((rows.zipIdx first).forM fun (cells, index) => Cutting.checkCells table (index + 1) cells) =
      (others.zipIdx first).forM fun (cells, index) =>
        Cutting.checkCells table (index + 1) cells := by
  induction hcounts generalizing first with
  | nil => rfl
  | cons hcount hcounts ih =>
      rw [List.zipIdx_cons, List.zipIdx_cons, List.forM_eq_forM, List.forM_cons, List.forM_cons]
      dsimp only
      rw [Cutting.checkCells_congr _ hcount]
      exact bind_congr_ok fun _ _ => ih (first + 1)

/-- What is cut from a file, or why it cannot be cut, does not depend on hidden cells. -/
theorem Table.SameShown.cut_eq {content other : String}
    (hsame : table.SameShown reader content other) :
    table.cut reader content = table.cut reader other := by
  obtain ⟨hlines, hended, hnames⟩ := hsame
  unfold Table.cut dataLines?
  generalize lineParts content.toList = parts at hlines hended hnames ⊢
  generalize lineParts other.toList = others at hlines hended hnames ⊢
  dsimp only
  by_cases hlast : parts.getLast? = some []
  · rw [if_pos hlast, if_pos (hended.1 hlast)]
    have hkept : List.Forall₂ (table.SameLine reader) parts.dropLast others.dropLast := by
      rw [List.dropLast_eq_take, List.dropLast_eq_take, hlines.length_eq]
      exact List.forall₂_take _ hlines
    have hkeptNames : parts.dropLast[1]? = others.dropLast[1]? := by
      rw [List.getElem?_dropLast, List.getElem?_dropLast, hlines.length_eq, hnames]
    generalize parts.dropLast = lines at hkept hkeptNames ⊢
    generalize others.dropLast = otherLines at hkept hkeptNames ⊢
    have hcounts : List.Forall₂ (fun cells other => cells.length = other.length)
        (lines.map lineCells) (otherLines.map lineCells) :=
      List.forall₂_map_left_iff.2 (List.forall₂_map_right_iff.2 (hkept.imp fun _ _ h => h.count))
    have hchecks := @Cutting.forM_checkCells_congr table _ _ 0 hcounts
    have hout := Table.SameLine.flatMap_keep_eq hkept
    -- The file is cut if it has a line of names, which is compared as a whole.
    cases hkept with
    | nil => rfl
    | cons _ hrest =>
        cases hrest with
        | nil => rfl
        | cons _ _ =>
            obtain rfl := Option.some.inj hkeptNames
            simp only [List.map_cons] at hchecks hout ⊢
            rw [hchecks, hout]
  · rw [if_neg hlast, if_neg fun hother => hlast (hended.2 hother)]

end TableSchema
