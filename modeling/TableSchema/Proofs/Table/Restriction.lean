import Mathlib.Data.List.Forall2
import TableSchema.Proofs.Table.Grammar

/-!
# Tables with fewer columns

Lines whose cells have been left out in some columns, though not in the column of the key, hold the
same as before with the values of these columns left out.
-/

namespace TableSchema

/-- The items whose places are marked as kept. -/
def restrict {α : Type} (kept : List Bool) (items : List α) : List α :=
  ((kept.zip items).filter (·.1)).map (·.2)

/-- The entries with their values changed. -/
def Keyed.map {α β : Type} (f : α → β) (entries : Keyed α) : Keyed β where
  toList := entries.toList.map fun entry => (entry.1, f entry.2)
  sorted := List.pairwise_map.2 entries.sorted

/-- The content with its rows changed. -/
def Content.mapRows (f : Row → Row) : Content → Content
  | .rows entries => .rows (entries.map f)
  | .rowSets entries => .rowSets (entries.map (List.map f))

/-- The layout of the columns that are kept. -/
def Layout.restrict (layout : Layout) (kept : List Bool) : Layout :=
  { layout with
    columns := TableSchema.restrict kept layout.columns
    keyIndex := (kept.take layout.keyIndex).count true }

/-! ## Restricted lists -/

section Restrict

variable {α β : Type} (kept : List Bool)

@[simp] theorem restrict_nil_left (items : List α) : restrict [] items = [] := rfl

@[simp] theorem restrict_nil_right : restrict kept ([] : List α) = [] := by
  simp [restrict]

@[simp] theorem restrict_cons_true (item : α) (items : List α) :
    restrict (true :: kept) (item :: items) = item :: restrict kept items := rfl

@[simp] theorem restrict_cons_false (item : α) (items : List α) :
    restrict (false :: kept) (item :: items) = restrict kept items := rfl

theorem restrict_map (f : α → β) (items : List α) :
    restrict kept (items.map f) = (restrict kept items).map f := by
  induction kept generalizing items with
  | nil => rfl
  | cons keep kept ih =>
      cases items with
      | nil => simp
      | cons item items => cases keep <;> simp [ih]

theorem restrict_zip (first : List α) (second : List β) :
    (restrict kept first).zip (restrict kept second) = restrict kept (first.zip second) := by
  induction kept generalizing first second with
  | nil => rfl
  | cons keep kept ih =>
      cases first with
      | nil => simp
      | cons a first =>
          cases second with
          | nil => simp
          | cons b second => cases keep <;> simp [ih]

/-- Items that are kept twice are those that are marked both times. -/
theorem restrict_restrict (other : List Bool) (items : List α) :
    restrict (restrict kept other) (restrict kept items) =
      restrict (kept.zipWith (· && ·) other) items := by
  induction kept generalizing other items with
  | nil => rfl
  | cons keep kept ih =>
      cases other with
      | nil => simp
      | cons mark other =>
          cases items with
          | nil => simp
          | cons item items => cases keep <;> cases mark <;> simp [ih]

theorem restrict_sublist (items : List α) : (restrict kept items).Sublist items := by
  induction kept generalizing items with
  | nil => simp
  | cons keep kept ih =>
      cases items with
      | nil => simp
      | cons item items =>
          cases keep with
          | false => exact (ih items).cons item
          | true => exact (ih items).cons_cons item

theorem forall₂_restrict {r : α → β → Prop} {first : List α} {second : List β}
    (h : List.Forall₂ r first second) :
    List.Forall₂ r (restrict kept first) (restrict kept second) := by
  induction h generalizing kept with
  | nil => simp
  | cons hfirst hrest ih =>
      cases kept with
      | nil => exact .nil
      | cons keep kept =>
          cases keep with
          | false => exact ih kept
          | true => exact .cons hfirst (ih kept)

theorem length_restrict_congr {first : List α} {second : List β}
    (hlength : first.length = second.length) :
    (restrict kept first).length = (restrict kept second).length := by
  have h : List.Forall₂ (fun _ _ => True) first second :=
    List.forall₂_iff_get.2 ⟨hlength, fun _ _ _ => trivial⟩
  exact (forall₂_restrict kept h).length_eq

variable {kept}

/-- A kept item stands after as many items as are kept before it. -/
theorem getElem?_restrict {i : Nat} (hkept : kept[i]? = some true) (items : List α) :
    (restrict kept items)[(kept.take i).count true]? = items[i]? := by
  induction kept generalizing i items with
  | nil => simp at hkept
  | cons keep kept ih =>
      cases items with
      | nil => simp
      | cons item items =>
          cases i with
          | zero =>
              obtain rfl : keep = true := by simpa using hkept
              simp
          | succ i =>
              have hrest := ih (by simpa using hkept) items
              cases keep <;> simpa using hrest

theorem restrict_set {i : Nat} (hkept : kept[i]? = some true) (items : List α) (item : α) :
    restrict kept (items.set i item) =
      (restrict kept items).set ((kept.take i).count true) item := by
  induction kept generalizing i items with
  | nil => simp at hkept
  | cons keep kept ih =>
      cases items with
      | nil => simp
      | cons first items =>
          cases i with
          | zero =>
              obtain rfl : keep = true := by simpa using hkept
              simp
          | succ i =>
              have hrest := ih (by simpa using hkept) items
              cases keep <;> simpa using hrest

end Restrict

/-! ## Changed values -/

namespace Keyed

variable {α β : Type} (f : α → β) (entries : Keyed α)

theorem place_map (key : Atom) (value : α) (entries : List (Atom × α)) :
    (place key value entries).map (fun entry => (entry.1, f entry.2)) =
      place key (f value) (entries.map fun entry => (entry.1, f entry.2)) := by
  induction entries with
  | nil => rfl
  | cons entry rest ih =>
      simp only [place, List.map_cons]
      split
      · rfl
      · split
        · rw [List.map_cons, ih]
        · rfl

theorem ext_toList {first second : Keyed α} (h : first.toList = second.toList) :
    first = second := by
  cases first
  cases second
  cases h
  rfl

theorem map_insert (key : Atom) (value : α) :
    (entries.insert key value).map f = (entries.map f).insert key (f value) :=
  ext_toList (place_map f key value entries.toList)

theorem lookup_map (key : Atom) (entries : List (Atom × α)) :
    (entries.map fun entry => (entry.1, f entry.2)).lookup key = (entries.lookup key).map f := by
  induction entries with
  | nil => rfl
  | cons entry rest ih =>
      obtain ⟨first, value⟩ := entry
      by_cases hfirst : key == first
      · simp [List.lookup_cons, hfirst]
      · simp [List.lookup_cons, hfirst, ih]

theorem get?_map (key : Atom) : (entries.map f).get? key = (entries.get? key).map f :=
  lookup_map f key entries.toList

end Keyed

/-! ## Restricted lines -/

namespace Reading

variable {rules : Rules} {layout : Layout} {kept : List Bool} {cells : Cells}

theorem decode?_restrict {row : Row} (hdecode : decode? rules layout cells = some row) :
    decode? rules (layout.restrict kept) (restrict kept cells) = some (restrict kept row) := by
  rw [decode?, mapM_eq_some_iff] at hdecode
  rw [decode?, mapM_eq_some_iff, Layout.restrict, restrict_zip]
  exact forall₂_restrict kept hdecode

theorem rowOf_restrict (hcomplete : Complete rules layout cells) :
    rowOf rules (layout.restrict kept) (restrict kept cells) =
      restrict kept (rowOf rules layout cells) := by
  obtain ⟨row, hrow⟩ := Option.isSome_iff_exists.1 hcomplete.decodes
  rw [rowOf, rowOf, decode?_restrict hrow, hrow]
  rfl

section Key

variable (hkept : kept[layout.keyIndex]? = some true)
include hkept

theorem keyCell_restrict (cells : Cells) :
    keyCell (layout.restrict kept) (restrict kept cells) = keyCell layout cells := by
  rw [keyCell, keyCell, List.getD_eq_getElem?_getD, List.getD_eq_getElem?_getD, Layout.restrict,
    getElem?_restrict hkept]

theorem keyOf_restrict (cells : Cells) :
    keyOf rules (layout.restrict kept) (restrict kept cells) = keyOf rules layout cells := by
  rw [keyOf, keyOf, keyCell_restrict hkept]
  rfl

theorem withKey_restrict (key : Atom) (row : Row) :
    withKey (layout.restrict kept) key (restrict kept row) =
      restrict kept (withKey layout key row) :=
  (restrict_set hkept row _).symm

theorem rowsFrom_restrict {data : List Cells}
    (hcomplete : ∀ cells ∈ data, Complete rules layout cells) (rows : Keyed Row) :
    rowsFrom rules (layout.restrict kept) (rows.map (restrict kept)) (data.map (restrict kept)) =
      (rowsFrom rules layout rows data).map (restrict kept) := by
  induction data generalizing rows with
  | nil => rfl
  | cons cells rest ih =>
      rw [List.forall_mem_cons] at hcomplete
      have hstep : (rows.map (restrict kept)).insert (keyOf rules (layout.restrict kept)
          (restrict kept cells)) (rowOf rules (layout.restrict kept) (restrict kept cells)) =
          (rows.insert (keyOf rules layout cells) (rowOf rules layout cells)).map
            (restrict kept) := by
        rw [Keyed.map_insert, keyOf_restrict hkept, rowOf_restrict hcomplete.1]
      have hrest := ih hcomplete.2
        (rows.insert (keyOf rules layout cells) (rowOf rules layout cells))
      rw [← hstep] at hrest
      exact hrest

/-- The sets with their rows restricted. -/
def Sets.restrict (kept : List Bool) (sets : Sets) : Sets :=
  ⟨sets.entries.map (List.map (TableSchema.restrict kept)), sets.lastKey⟩

theorem addLine_restrict (hcomplete : Complete rules layout cells) (sets : Sets) :
    addLine rules (layout.restrict kept) (sets.restrict kept) (restrict kept cells) =
      (addLine rules layout sets cells).restrict kept := by
  rw [addLine, addLine, keyCell_restrict hkept, keyOf_restrict hkept, rowOf_restrict hcomplete]
  by_cases hempty : keyCell layout cells = []
  · rw [if_pos hempty, if_pos hempty]
    cases hlastKey : sets.lastKey with
    | none => simp [Sets.restrict, hlastKey]
    | some key =>
        -- The rows that are there under the key are restricted already.
        have hold : ((sets.entries.map (List.map (TableSchema.restrict kept))).get? key).getD [] =
            ((sets.entries.get? key).getD []).map (TableSchema.restrict kept) := by
          rw [Keyed.get?_map]
          cases sets.entries.get? key with
          | none => rfl
          | some rows => rfl
        simp [Sets.restrict, hlastKey, Sets.extend, withKey_restrict hkept, Keyed.map_insert, hold]
  · rw [if_neg hempty, if_neg hempty]
    simp [Sets.restrict, Sets.start, Keyed.map_insert]

theorem setsFrom_restrict {data : List Cells}
    (hcomplete : ∀ cells ∈ data, Complete rules layout cells) (sets : Sets) :
    setsFrom rules (layout.restrict kept) (sets.restrict kept) (data.map (restrict kept)) =
      (setsFrom rules layout sets data).restrict kept := by
  induction data generalizing sets with
  | nil => rfl
  | cons cells rest ih =>
      rw [List.forall_mem_cons] at hcomplete
      have hrest := ih hcomplete.2 (addLine rules layout sets cells)
      rw [← addLine_restrict hkept hcomplete.1] at hrest
      exact hrest

theorem contentOf_restrict {data : List Cells}
    (hcomplete : ∀ cells ∈ data, Complete rules layout cells) :
    contentOf rules (layout.restrict kept) (data.map (restrict kept)) =
      (contentOf rules layout data).mapRows (restrict kept) := by
  unfold contentOf
  have hkeyType : (layout.restrict kept).keyType = layout.keyType := rfl
  rw [hkeyType]
  cases layout.keyType with
  | single => exact congrArg Content.rows (rowsFrom_restrict hkept hcomplete ∅)
  | set =>
      have hsets := setsFrom_restrict hkept hcomplete .empty
      exact congrArg (fun sets => Content.rowSets sets.entries) hsets

theorem headLines_restrict (data : List Cells) :
    headLines (layout.restrict kept) (data.map (restrict kept)) =
      (headLines layout data).map (restrict kept) := by
  rw [headLines, headLines, List.filter_map]
  simp only [Function.comp_def, keyCell_restrict hkept]

theorem LegalKeys.restrict {data : List Cells} (hkeys : LegalKeys rules layout data) :
    LegalKeys rules (layout.restrict kept) (data.map (TableSchema.restrict kept)) := by
  have hkeyOf :
      keyOf rules (layout.restrict kept) ∘ TableSchema.restrict kept = keyOf rules layout :=
    funext fun cells => keyOf_restrict hkept cells
  have hkeyType : (layout.restrict kept).keyType = layout.keyType := rfl
  unfold LegalKeys at hkeys ⊢
  rw [hkeyType, headLines_restrict hkept, List.map_map, List.map_map, hkeyOf]
  cases htype : layout.keyType with
  | single =>
      rw [htype] at hkeys
      refine ⟨?_, hkeys.2⟩
      simpa [keyCell_restrict hkept] using hkeys.1
  | set =>
      rw [htype] at hkeys
      refine ⟨?_, hkeys.2⟩
      simpa [keyCell_restrict hkept] using hkeys.1

theorem Grammar.restrict {lines : List Cells} (hgrammar : Grammar rules layout lines) :
    Grammar rules (layout.restrict kept) (lines.map (TableSchema.restrict kept)) where
  header := by simpa using hgrammar.header
  counts := by
    intro cells hmem
    obtain ⟨full, hfull, rfl⟩ := List.mem_map.1 hmem
    exact length_restrict_congr kept (hgrammar.counts full hfull)
  names := by
    rw [List.getElem?_map, hgrammar.names, Option.map_some, restrict_map]
    rfl
  records := by
    rw [← List.map_drop]
    intro cells hmem entry hentry
    obtain ⟨full, hfull, rfl⟩ := List.mem_map.1 hmem
    have hzip : entry ∈ layout.columns.zip full := by
      have hzip := restrict_zip kept layout.columns full
      exact (restrict_sublist kept _).subset (hzip ▸ hentry)
    exact hgrammar.records full hfull entry hzip
  keys := by
    rw [← List.map_drop]
    exact hgrammar.keys.restrict hkept

theorem keyIndex_restrict_lt (hkey : layout.keyIndex < layout.columns.length) :
    (layout.restrict kept).keyIndex < (layout.restrict kept).columns.length := by
  have hcolumn := getElem?_restrict hkept layout.columns
  rw [List.getElem?_eq_getElem hkey] at hcolumn
  exact (List.getElem?_eq_some_iff.1 hcolumn).1

/-- Lines that are read are read without some of their cells as well, to the same rows without the
values of these. -/
theorem readLines_restrict (hkey : layout.keyIndex < layout.columns.length) {lines : List Cells}
    {content : Content} (hread : readLines rules layout lines = .ok content) :
    readLines rules (layout.restrict kept) (lines.map (restrict kept)) =
      .ok (content.mapRows (restrict kept)) := by
  obtain ⟨hgrammar, rfl⟩ := (readLines_eq_ok_iff hkey).1 hread
  have hcomplete : ∀ cells ∈ lines.drop 2, Complete rules layout cells := fun cells hmem =>
    ⟨hgrammar.counts cells (List.mem_of_mem_drop hmem),
      decode?_isSome_iff.2 (hgrammar.records cells hmem)⟩
  rw [readLines_eq_ok_iff (keyIndex_restrict_lt hkept hkey)]
  refine ⟨hgrammar.restrict hkept, ?_⟩
  rw [← List.map_drop, contentOf_restrict hkept hcomplete]

end Key

end Reading

end TableSchema
