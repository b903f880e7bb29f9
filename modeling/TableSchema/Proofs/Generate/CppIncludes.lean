import TableSchema.Proofs.Generate.Mentions
import TableSchema.Proofs.Generate.PrintableCpp

/-!
# Includes of C++ files

What a file includes is read off its lines, and so is whether it declares anything with the integer
type or with a vector. A header includes `<cstdint>` and `<vector>` just if it declares something
with them, and the headers of the structs that its columns use in the order of their first use.
-/

namespace TableSchema.Generate.Cpp

open Rust (NamesWords)

variable {schema : Schema} {table : Table} {struct : Struct} {column key : Column}

/-! ## What is read -/

/-- The characters of a line after its indentation. -/
def outdented (line : String) : List Char :=
  line.toList.dropWhile (· = ' ')

/-- What a line includes, in its brackets or quotes. -/
def included? (line : String) : Option String :=
  ((outdented line).dropPrefix? "#include ".toList).map String.ofList

/-- What the lines of a file include. -/
def includes (lines : Lines) : List String :=
  lines.filterMap included?

/-- The header of a struct, as it is included. -/
def ownHeader (name : String) : String :=
  "\"" ++ fileStem name ++ ".h\""

/-- How declarations start that name the integer type: members of the type, lists of integers, rows
and sets of rows by integers, and the functions that find them. -/
def intOpenings : List String :=
  ["int32_t ", "std::vector<int32_t> ", "using Rows = std::map<int32_t, ",
    "using RowSets = std::map<int32_t, ", "const Row *getRow(int32_t ",
    "const RowSet *getRowSet(int32_t "]

/-- A line declares something with the integer type. -/
def NamesInt (line : String) : Prop :=
  ∃ opening ∈ intOpenings, opening.toList <+: outdented line

/-- A line declares something with a vector. -/
def NamesVector (line : String) : Prop :=
  Mentions "std::vector<" line

/-- A line constructs a splitter for the fields of a struct. -/
def ConstructsSplitter (line : String) : Prop :=
  Mentions "tablekit::ColumnSplitter s(text, ';')" line

/-! ## Indentation -/

theorem outdented_indentLine (line : String) : outdented (indentLine line) = outdented line := by
  unfold indentLine
  split
  · rfl
  · simp [outdented]

theorem mem_of_mem_outdented {line : String} {c : Char} (hmem : c ∈ outdented line) :
    c ∈ line.toList :=
  (List.dropWhile_suffix _).subset hmem

/-! ## Lines that name keys -/

theorem head?_rowTypes :
    ∀ line ∈ rowTypes schema table key, (outdented line).head? = some 'u' := by
  unfold rowTypes
  cases table.keyType <;> simp [outdented]

theorem head?_accessorDeclarations :
    ∀ line ∈ accessorDeclarations schema table key, (outdented line).head? = some 'c' := by
  unfold accessorDeclarations
  cases table.keyType <;> simp [outdented]

/-- No digit and no bracket of a vector stands in a declaration of an accessor, unless it stands in
the type of the key. -/
theorem without_accessorDeclarations {excluded : List Char} (hexcluded : excluded ⊆ ['3', '<'])
    (htype : Without excluded (columnType schema table key)) :
    ∀ line ∈ accessorDeclarations schema table key, Without excluded line := by
  have hfixed {cs : List Char} (hcs : cs.all (isPrintableNot ['3', '<']) = true) :
      Without excluded (String.ofList cs) := (only_ofList hcs).subset hexcluded
  have hparameter : Without excluded (keyParameter schema table key ++ "key") := by
    unfold keyParameter
    dsimp only
    refine only_append.2 ⟨?_, hfixed rfl⟩
    split
    · exact only_append.2 ⟨only_append.2 ⟨hfixed rfl, htype⟩, hfixed rfl⟩
    · exact only_append.2 ⟨htype, hfixed rfl⟩
  unfold accessorDeclarations
  cases table.keyType <;> rw [List.forall_mem_cons, List.forall_mem_singleton] <;>
    exact ⟨only_append.2 ⟨only_append.2 ⟨hfixed rfl, hparameter⟩, hfixed rfl⟩, hfixed rfl⟩

/-! ## Includes -/

theorem included?_eq_none {line : String} (hline : ¬ "#include ".toList <+: outdented line) :
    included? line = none := by
  rw [included?, Option.map_eq_none_iff, Option.eq_none_iff_forall_ne_some]
  simp only [ne_eq, List.dropPrefix?_eq_some_iff, beq_iff_eq]
  rintro rest ⟨_, hrest, rfl⟩
  exact hline ⟨rest, hrest.symm⟩

theorem included?_of_head {line : String} (hhead : (outdented line).head? ≠ some '#') :
    included? line = none := by
  refine included?_eq_none ?_
  rintro ⟨rest, hline⟩
  exact hhead (hline ▸ rfl)

theorem included?_of_not_mem {line : String} (hline : '#' ∉ line.toList) : included? line = none :=
  included?_of_head fun hhead => hline (mem_of_mem_outdented (List.mem_of_mem_head? hhead))

theorem included?_ofList {cs : List Char} (hcs : cs.all (isPrintableNot ['#']) = true) :
    included? (String.ofList cs) = none :=
  included?_of_not_mem ((only_ofList hcs : Without ['#'] _).not_mem (by simp))

theorem included?_opening (rest : String) : included? ("#include " ++ rest) = some rest := by
  have hline : outdented ("#include " ++ rest) = "#include ".toList ++ rest.toList := by
    simp [outdented]
  rw [included?, hline, List.dropPrefix?_append_of_beq _ (beq_self_eq_true _), Option.map_some,
    String.ofList_toList]

theorem included?_includeOwn (name : String) :
    included? (includeOwn name) = some (ownHeader name) := by
  have hline : includeOwn name = "#include " ++ ownHeader name := by
    rw [includeOwn, ownHeader, ← String.append_assoc, ← String.append_assoc]
    rfl
  rw [hline, included?_opening]

theorem included?_includeSystem (path : String) :
    included? (includeSystem path) = some ("<" ++ path ++ ">") := by
  have hline : includeSystem path = "#include " ++ ("<" ++ path ++ ">") := by
    rw [includeSystem, ← String.append_assoc, ← String.append_assoc]
    rfl
  rw [hline, included?_opening]

/-- Only the lines of a header that include something are read as includes. -/
theorem headerProperty_notIncluding : HeaderProperty fun line => included? line = none where
  indentLine line := by
    rw [included?, included?, outdented_indentLine]
  fixed := by
    simp only [classLines, List.forall_mem_cons, List.not_mem_nil, false_imp_iff, implies_true,
      and_true]
    and_intros <;> exact included?_ofList rfl
  ends := by
    have hendif : included? "#endif" = none := included?_eq_none (by simp [outdented])
    simp only [heading, List.forall_mem_append, List.forall_mem_cons, List.not_mem_nil, hendif,
      false_imp_iff, implies_true, and_true]
    and_intros <;> exact included?_ofList rfl
  guard word _ := by
    refine ⟨included?_eq_none ?_, included?_eq_none ?_⟩ <;> simp [outdented]
  inNamespace parts hparts := by
    have hname : Without ['#'] (joined "::" parts) :=
      only_joined (only_ofList rfl) fun part hmem => (hparts part hmem).without (by decide)
    have hopens : Without ['#'] ("namespace " ++ joined "::" parts ++ " \x7b") :=
      only_append.2 ⟨only_append.2 ⟨only_ofList rfl, hname⟩, only_ofList rfl⟩
    have hcloses : Without ['#'] ("\x7d // namespace " ++ joined "::" parts) :=
      only_append.2 ⟨only_ofList rfl, hname⟩
    exact ⟨included?_of_not_mem (hopens.not_mem (by simp)),
      included?_of_not_mem (hcloses.not_mem (by simp))⟩
  opensClass name hname := by
    have hline : Without ['#'] ("class " ++ name ++ " \x7b") :=
      only_append.2 ⟨only_append.2 ⟨only_ofList rfl, hname.without (by decide)⟩, only_ofList rfl⟩
    exact included?_of_not_mem (hline.not_mem (by simp))
  constructs name hname := by
    have hname : Without ['#'] (name ++ "();") :=
      only_append.2 ⟨hname.without (by decide), only_ofList rfl⟩
    have hdestructor : Without ['#'] ("~" ++ (name ++ "();")) :=
      only_append.2 ⟨only_ofList rfl, hname⟩
    rw [String.append_assoc]
    exact ⟨included?_of_not_mem (hname.not_mem (by simp)),
      included?_of_not_mem (hdestructor.not_mem (by simp))⟩

theorem included?_memberLine {type name : String} (htype : Without [' ', '#', '/', '\''] type)
    (hname : IsWord name) : included? (memberLine type name) = none := by
  have hline : Without ['#'] (memberLine type name) := by
    have htype : Without ['#'] type := htype.subset (by simp)
    have hname : Without ['#'] name := hname.without (by decide)
    simp only [memberLine, only_append, htype, hname, true_and, and_true]
    exact ⟨only_ofList rfl, only_ofList rfl⟩
  exact included?_of_not_mem (hline.not_mem (by simp))

theorem includes_header {parts : List String} (hparts : ∀ part ∈ parts, IsWord part)
    {name : String} (hname : IsWord name) {lines declarations : Lines}
    (hdeclarations : ∀ line ∈ declarations, included? line = none) :
    includes (header parts name lines declarations) = includes lines := by
  have hrest : ∀ line ∈ header parts name [] declarations, included? line = none :=
    (headerProperty_notIncluding.forall_mem_header hparts hname).2 ⟨by simp, hdeclarations⟩
  rw [← List.filterMap_eq_nil_iff, header] at hrest
  simp only [List.filterMap_append, List.append_eq_nil_iff] at hrest
  simp only [includes, header, List.filterMap_append, hrest, List.nil_append, List.append_nil]

/-! ## Integers -/

theorem not_namesInt_of_head {line : String}
    (hhead : (outdented line).head? ∉ [some 'i', some 's', some 'u', some 'c']) :
    ¬ NamesInt line := by
  rintro ⟨opening, hopening, rest, hline⟩
  rw [← hline] at hhead
  simp only [intOpenings, List.mem_cons, List.not_mem_nil, or_false] at hopening
  rcases hopening with rfl | rfl | rfl | rfl | rfl | rfl <;> simp at hhead

theorem not_namesInt_ofList {cs : List Char}
    (hhead : (cs.dropWhile (· = ' ')).head? ∉ [some 'i', some 's', some 'u', some 'c']) :
    ¬ NamesInt (String.ofList cs) :=
  not_namesInt_of_head (by rwa [outdented, String.toList_ofList])

/-- A line without some character that every opening has. -/
theorem not_namesInt_of_not_mem {line : String} {c : Char}
    (hopenings : ∀ opening ∈ intOpenings, c ∈ opening.toList) (hline : c ∉ line.toList) :
    ¬ NamesInt line := by
  rintro ⟨opening, hopening, hstarts⟩
  exact hline (mem_of_mem_outdented (hstarts.subset (hopenings opening hopening)))

theorem space_mem_intOpenings : ∀ opening ∈ intOpenings, ' ' ∈ opening.toList := by
  decide +kernel

theorem not_namesInt_class (rest : String) : ¬ NamesInt ("class " ++ rest) := by
  simp [NamesInt, intOpenings, outdented]

theorem headerProperty_not_namesInt : HeaderProperty fun line => ¬ NamesInt line where
  indentLine line := by
    rw [NamesInt, NamesInt, outdented_indentLine]
  fixed := by
    have hclass : ¬ NamesInt "class Row \x7b" := not_namesInt_class "Row \x7b"
    simp only [classLines, List.forall_mem_cons, List.not_mem_nil, hclass, not_false_eq_true,
      false_imp_iff, implies_true, true_and, and_true]
    and_intros <;> exact not_namesInt_ofList (by decide)
  ends := by
    simp only [heading, List.forall_mem_append, List.forall_mem_cons, List.not_mem_nil,
      false_imp_iff, implies_true, and_true]
    and_intros <;> exact not_namesInt_ofList (by decide)
  guard word _ := by
    constructor <;> exact not_namesInt_of_head (by simp [outdented])
  inNamespace parts _ := by
    constructor <;> exact not_namesInt_of_head (by simp [outdented])
  opensClass name _ := by
    rw [String.append_assoc]
    exact not_namesInt_class _
  constructs name hname := by
    have hname : Without [' '] name := hname.without (by decide)
    have hconstructor : Without [' '] (name ++ "();") := only_append.2 ⟨hname, only_ofList rfl⟩
    have hdestructor : Without [' '] ("~" ++ name ++ "();") :=
      only_append.2 ⟨only_append.2 ⟨only_ofList rfl, hname⟩, only_ofList rfl⟩
    exact ⟨not_namesInt_of_not_mem space_mem_intOpenings (hconstructor.not_mem (by simp)),
      not_namesInt_of_not_mem space_mem_intOpenings (hdestructor.not_mem (by simp))⟩

theorem outdented_memberLine {type name : String} (htype : ' ' ∉ type.toList) (hne : type ≠ "") :
    outdented (memberLine type name) = type.toList ++ ' ' :: (name.toList ++ [';']) := by
  obtain ⟨c, cs, hchars⟩ := List.exists_cons_of_ne_nil (mt String.toList_eq_nil_iff.1 hne)
  have hspace : c ≠ ' ' := by
    rintro rfl
    exact htype (hchars ▸ List.mem_cons_self)
  simp [outdented, memberLine, hchars, hspace]

/-- What starts a list with one space and has a space itself has the same before it. -/
theorem takeWhile_of_one_space {opening before after : List Char} (hspace : ' ' ∈ opening)
    (hstarts : opening <+: before ++ ' ' :: after) (hbefore : ' ' ∉ before) (hafter : ' ' ∉ after) :
    opening.count ' ' = 1 ∧ opening.takeWhile (· ≠ ' ') = before := by
  obtain ⟨first, rest, rfl, -⟩ := List.eq_append_cons_of_mem hspace
  obtain ⟨more, hmore⟩ := hstarts
  rw [List.append_assoc, List.cons_append, eq_comm,
    List.append_cons_inj_of_notMem hbefore hafter] at hmore
  obtain ⟨rfl, -, rfl⟩ := hmore
  have hrest : ' ' ∉ rest := fun hmem => hafter (List.mem_append_left _ hmem)
  have hfirst : ∀ c ∈ before, decide (c ≠ ' ') = true := fun c hmem =>
    decide_eq_true fun hc => hbefore (hc ▸ hmem)
  rw [List.takeWhile_append_of_pos hfirst, List.count_append,
    List.count_eq_zero_of_not_mem hbefore, List.count_cons_self,
    List.count_eq_zero_of_not_mem hrest]
  simp

/-- A member is declared with the integer type if its type is that or a vector of it. -/
theorem namesInt_memberLine_iff {type name : String} (htype : ' ' ∉ type.toList) (hne : type ≠ "")
    (hname : IsWord name) :
    NamesInt (memberLine type name) ↔ type = "int32_t" ∨ type = "std::vector<int32_t>" := by
  have hafter : ' ' ∉ name.toList ++ [';'] := by
    rw [List.mem_append, not_or]
    exact ⟨fun hmem => absurd (hname _ hmem) (by decide), by decide⟩
  constructor
  · rintro ⟨opening, hopening, hstarts⟩
    have htypes : ∀ opening ∈ intOpenings, opening.toList.count ' ' = 1 →
        String.ofList (opening.toList.takeWhile (· ≠ ' ')) ∈
          ["int32_t", "std::vector<int32_t>"] := by
      decide +kernel
    rw [outdented_memberLine htype hne] at hstarts
    obtain ⟨hcount, hfirst⟩ :=
      takeWhile_of_one_space (space_mem_intOpenings opening hopening) hstarts htype hafter
    have hmem := htypes opening hopening hcount
    rwa [hfirst, String.ofList_toList, List.mem_pair] at hmem
  · rintro (rfl | rfl)
    · exact ⟨"int32_t ", by simp [intOpenings], by simp [outdented, memberLine]⟩
    · exact ⟨"std::vector<int32_t> ", by simp [intOpenings], by simp [outdented, memberLine]⟩

theorem columnType_of_key (hwell : key.WellFormed schema table) (hkey : key.type.canBeKey) :
    columnType schema table key = if key.type = .int then "int32_t" else "std::string" := by
  obtain ⟨hvalue, hlist⟩ := hwell.valueType_of_canBeKey hkey
  unfold columnType valueType
  rw [hvalue, hlist]
  cases htype : key.type <;> simp_all [ColumnType.canBeKey]

/-- Without an integer for a key nothing that is declared for rows and their keys names the integer
type. -/
theorem not_namesInt_keyLines (hwell : key.WellFormed schema table) (hkey : key.type = .string) :
    (∀ line ∈ rowTypes schema table key, ¬ NamesInt line) ∧
      ∀ line ∈ accessorDeclarations schema table key, ¬ NamesInt line := by
  have htype : Without ['3'] (columnType schema table key) := by
    rw [columnType_of_key hwell (hkey ▸ rfl), hkey]
    exact only_ofList rfl
  have hplain {line : String} (hline : Without ['3'] line) : ¬ NamesInt line :=
    not_namesInt_of_not_mem (by decide +kernel) (hline.not_mem (List.mem_singleton_self '3'))
  have haround {start rest : String} (hstart : Without ['3'] start) (hrest : Without ['3'] rest) :
      ¬ NamesInt (start ++ columnType schema table key ++ rest) :=
    hplain (only_append.2 ⟨only_append.2 ⟨hstart, htype⟩, hrest⟩)
  refine ⟨?_, fun line hmem => hplain (without_accessorDeclarations (by simp) htype line hmem)⟩
  unfold rowTypes
  cases table.keyType with
  | single => exact List.forall_mem_singleton.2 (haround (only_ofList rfl) (only_ofList rfl))
  | set =>
      rw [List.forall_mem_cons, List.forall_mem_singleton]
      exact ⟨hplain (only_ofList rfl), haround (only_ofList rfl) (only_ofList rfl)⟩

/-- A column of the table or a field of one of its structs holds integers. -/
def HoldsIntegers (table : Table) : Prop :=
  (∃ column ∈ table.columns.toList, column.valueType = .int) ∨
    ∃ struct ∈ table.localStructs.toList, ∃ field ∈ struct.fields.toList, field.type = .int

/-- A column of the table has a struct that bears the name of the integer type. -/
def HoldsNamesakes (schema : Schema) (table : Table) : Prop :=
  ∃ column ∈ table.columns.toList, ∃ struct,
    schema.columnStruct? table column = some struct ∧ struct.name = "int32_t"

theorem fieldType_eq_int_iff {type : FieldType} :
    fieldType type = "int32_t" ∨ fieldType type = "std::vector<int32_t>" ↔ type = .int := by
  cases type <;> simp [fieldType]

theorem namesInt_fieldLine_iff {field : Field} (hname : IsWord field.name) :
    NamesInt (memberLine (fieldType field.type) field.name) ↔ field.type = .int := by
  have hne : fieldType field.type ≠ "" := by
    cases field.type <;> simp [fieldType]
  have hspace := (typeText_fieldType field.type).not_mem (c := ' ') (by simp)
  rw [namesInt_memberLine_iff hspace hne hname, fieldType_eq_int_iff]

/-! ## Vectors -/

theorem not_namesVector_of_without {excluded : List Char} (hexcluded : '<' ∈ excluded)
    {line : String} (hline : Without excluded line) : ¬ NamesVector line :=
  not_mentions_of_not_mem (by simp) (hline.not_mem hexcluded)

theorem headerProperty_not_namesVector : HeaderProperty fun line => ¬ NamesVector line :=
  headerProperty_of_plain
    (fun _ => not_congr (mentions_indentLine (c := 's') (by simp) (by decide)))
    fun _ => not_namesVector_of_without (by simp)

theorem not_namesVector_memberLine {type name : String} (htype : TypeText type)
    (hname : IsWord name) : ¬ NamesVector (memberLine type name) := by
  have htype : Without ['<'] type := htype.subset (by simp)
  have hname : Without ['<'] name := hname.without (by decide)
  refine not_namesVector_of_without (List.mem_singleton_self '<') ?_
  simp only [memberLine, only_append, htype, hname, true_and, and_true]
  exact ⟨only_ofList rfl, only_ofList rfl⟩

/-- Where every key has a row of its own, nothing that is declared for rows and their keys names a
vector. -/
theorem not_namesVector_keyLines (hwell : key.WellFormed schema table) (hkey : key.type.canBeKey)
    (hsingle : table.keyType = .single) :
    (∀ line ∈ rowTypes schema table key, ¬ NamesVector line) ∧
      ∀ line ∈ accessorDeclarations schema table key, ¬ NamesVector line := by
  have htype := columnType_of_key hwell hkey
  constructor
  · unfold rowTypes
    rw [htype, hsingle]
    dsimp only
    rw [List.forall_mem_singleton]
    split <;> simp only [String.reduceAppend] <;> exact not_mentions_ofList (by decide)
  · have hplain : Without ['<'] (columnType schema table key) := by
      rw [htype]
      split <;> exact only_ofList rfl
    intro line hmem
    exact not_namesVector_of_without (List.mem_singleton_self '<')
      (without_accessorDeclarations (by simp) hplain line hmem)

section Table

variable (hwords : TableWords schema table) (hgenerable : table.Generable schema)
  (hcolumns : ∀ column ∈ table.columns.toList, column.WellFormed schema table)
include hwords hgenerable hcolumns

theorem columnType_eq_int_iff (hcolumn : column ∈ table.columns.toList) :
    columnType schema table column = "int32_t" ∨
        columnType schema table column = "std::vector<int32_t>" ↔
      column.valueType = .int ∨ ∃ struct, schema.columnStruct? table column = some struct ∧
        struct.name = "int32_t" := by
  have hvalue : valueType schema table column = "int32_t" ↔ column.valueType = .int ∨
      ∃ struct, schema.columnStruct? table column = some struct ∧ struct.name = "int32_t" := by
    cases hkind : column.valueType with
    | int => simp [valueType, hkind]
    | string =>
        have hnone : column.structRef = none := by
          rw [← Option.not_isSome_iff_eq_none, (hcolumns column hcolumn).hasStruct, hkind]
          decide
        simp [valueType, hkind, Schema.columnStruct?, hnone]
    | list => exact absurd hkind (hcolumns column hcolumn).valueType_ne_list
    | struct =>
        obtain ⟨struct, hfound, hname, -⟩ := hgenerable.structNames column hcolumn hkind
        simp [hname, hfound]
  have hplain := (typeText_valueType hwords hcolumn).not_mem (c := '<') (by simp)
  rw [← hvalue, columnType]
  split
  · have hhead (type : String) : "std::vector<" ++ type ++ ">" ≠ "int32_t" := fun h => by
      simpa using congrArg (fun text : String => text.toList.head?) h
    have hinner (type : String) :
        "std::vector<" ++ type ++ ">" = "std::vector<int32_t>" ↔ type = "int32_t" := by
      have hvector : "std::vector<int32_t>" = "std::vector<" ++ "int32_t" ++ ">" := rfl
      rw [hvector, String.append_left_inj, String.append_right_inj]
    rw [or_iff_right (hhead _), hinner]
  · rw [or_iff_left]
    intro hvector
    exact hplain (hvector ▸ by simp)

theorem namesInt_columnLine_iff (hcolumn : column ∈ table.columns.toList) :
    NamesInt (memberLine (columnType schema table column) column.name) ↔
      column.valueType = .int ∨ ∃ struct, schema.columnStruct? table column = some struct ∧
        struct.name = "int32_t" := by
  have hne : columnType schema table column ≠ "" := by
    unfold columnType
    dsimp only
    split
    · exact fun h => by simpa using congrArg String.length h
    · exact (hgenerable.typeNames column hcolumn).1
  have hspace := (without_columnType hwords hcolumn).not_mem (c := ' ') (by simp)
  rw [namesInt_memberLine_iff hspace hne (hwords.columns column hcolumn),
    columnType_eq_int_iff hwords hgenerable hcolumns hcolumn]

/-- The lines of a header that name types name the integer type if a column or a field holds
integers, or if the type of a column has the same name. -/
theorem eachTypeLine_not_namesInt_iff (hkey : key ∈ table.columns.toList)
    (hkeyType : key.type.canBeKey) :
    EachTypeLine (fun line => ¬ NamesInt line) schema table key ↔
      ¬ (HoldsIntegers table ∨ HoldsNamesakes schema table) := by
  have hcolumn {column : Column} (hmem : column ∈ table.columns.toList) :=
    namesInt_columnLine_iff hwords hgenerable hcolumns hmem
  constructor
  · rintro hlines ((⟨column, hmem, hint⟩ | ⟨struct, hstruct, field, hfield, hint⟩) |
      ⟨column, hmem, hnamesake⟩)
    · exact hlines.columns column hmem ((hcolumn hmem).2 (.inl hint))
    · exact hlines.fields struct hstruct field hfield
        ((namesInt_fieldLine_iff ((hwords.localStructs struct hstruct).fields field hfield)).2 hint)
    · exact hlines.columns column hmem ((hcolumn hmem).2 (.inr hnamesake))
  · intro hnone
    have hint : key.valueType ≠ .int := fun hint => hnone (.inl (.inl ⟨key, hkey, hint⟩))
    have hstring : key.type = .string := by
      rw [((hcolumns key hkey).valueType_of_canBeKey hkeyType).1] at hint
      cases htype : key.type <;> simp_all [ColumnType.canBeKey]
    obtain ⟨hrowTypes, haccessors⟩ := not_namesInt_keyLines (hcolumns key hkey) hstring
    refine ⟨?_, ?_, hrowTypes, haccessors⟩
    · intro struct hstruct field hfield hline
      have hname := (hwords.localStructs struct hstruct).fields field hfield
      exact hnone (.inl (.inr ⟨struct, hstruct, field, hfield,
        (namesInt_fieldLine_iff hname).1 hline⟩))
    · intro column hmem hline
      rcases (hcolumn hmem).1 hline with hint | hnamesake
      · exact hnone (.inl (.inl ⟨column, hmem, hint⟩))
      · exact hnone (.inr ⟨column, hmem, hnamesake⟩)

omit hgenerable in
/-- The lines of a header that name types name a vector if a column holds lists, or if the rows
are kept in sets. -/
theorem eachTypeLine_not_namesVector_iff (hkey : key ∈ table.columns.toList)
    (hkeyType : key.type.canBeKey) :
    EachTypeLine (fun line => ¬ NamesVector line) schema table key ↔
      ¬ (table.keyType = .set ∨ ∃ column ∈ table.columns.toList, column.isList) := by
  constructor
  · rintro hlines (hset | ⟨column, hmem, hlist⟩)
    · have hline : "using RowSet = std::vector<Row>;" ∈ rowTypes schema table key := by
        simp [rowTypes, hset]
      exact hlines.rowTypes _ hline (mentions_ofList (by decide))
    · have hline : memberLine (columnType schema table column) column.name =
          "" ++ "std::vector<" ++
            (valueType schema table column ++ ">" ++ " " ++ column.name ++ ";") := by
        simp [memberLine, columnType, hlist, String.append_assoc]
      refine hlines.columns column hmem ?_
      rw [NamesVector, hline]
      exact mentions_append _ _ _
  · intro hnone
    have hsingle : table.keyType = .single := by
      cases hkind : table.keyType with
      | single => rfl
      | set => exact absurd (.inl hkind) hnone
    obtain ⟨hrowTypes, haccessors⟩ :=
      not_namesVector_keyLines (hcolumns key hkey) hkeyType hsingle
    refine ⟨?_, ?_, hrowTypes, haccessors⟩
    · intro struct hstruct field hfield
      exact not_namesVector_memberLine (typeText_fieldType field.type)
        ((hwords.localStructs struct hstruct).fields field hfield)
    · intro column hmem
      have hlist : column.isList = false := by
        rw [Bool.eq_false_iff]
        exact fun hlist => hnone (.inr ⟨column, hmem, hlist⟩)
      rw [columnType, hlist]
      exact not_namesVector_memberLine (typeText_valueType hwords hmem)
        (hwords.columns column hmem)

end Table

/-! ## Headers -/

theorem includes_linesIf (condition : Bool) (lines : Lines) :
    includes (linesIf condition lines) = linesIf condition (includes lines) := by
  cases condition <;> rfl

theorem includes_append (lines others : Lines) :
    includes (lines ++ others) = includes lines ++ includes others :=
  List.filterMap_append

theorem includes_system (path : String) (lines : Lines) :
    includes (includeSystem path :: lines) = ("<" ++ path ++ ">") :: includes lines :=
  List.filterMap_cons_some (included?_includeSystem path)

theorem includes_own (names : List String) :
    includes (names.map includeOwn) = names.map ownHeader := by
  induction names with
  | nil => rfl
  | cons name rest ih =>
      have hfirst : includes (includeOwn name :: rest.map includeOwn) =
          ownHeader name :: includes (rest.map includeOwn) :=
        List.filterMap_cons_some (included?_includeOwn name)
      rw [List.map_cons, hfirst, ih, List.map_cons]

theorem includes_tableIncludes (schema : Schema) (table : Table) :
    includes (tableIncludes schema table) =
      linesIf (table.columns.toList.any (·.valueType = .int) ||
          table.localStructs.toList.any fun struct => struct.fields.toList.any (·.type = .int))
        ["<cstdint>"] ++ ["<map>", "<string>"] ++
      linesIf (table.keyType = .set || table.columns.toList.any (·.isList)) ["<vector>"] ++
      (usedStructs schema table).map ownHeader := by
  have hnil : includes [] = [] := rfl
  have hblank : includes [""] = [] := rfl
  have hnone (condition : Bool) : linesIf condition ([] : Lines) = [] := by
    cases condition <;> rfl
  simp only [tableIncludes, includes_append, includes_linesIf, includes_system, includes_own, hnil,
    hblank, hnone, List.append_nil, String.reduceAppend]

theorem includes_tableHeader {parts : List String} (hparts : ∀ part ∈ parts, IsWord part)
    (hwords : TableWords schema table) :
    includes (tableHeader parts schema table key) = includes (tableIncludes schema table) := by
  have hlines : EachTypeLine (fun line => included? line = none) schema table key := by
    refine ⟨?_, ?_, ?_, ?_⟩
    · intro struct hstruct field hfield
      exact included?_memberLine ((typeText_fieldType field.type).subset (by simp))
        ((hwords.localStructs struct hstruct).fields field hfield)
    · intro column hmem
      exact included?_memberLine (without_columnType hwords hmem) (hwords.columns column hmem)
    · exact fun line hmem => included?_of_head (by simp [head?_rowTypes line hmem])
    · exact fun line hmem => included?_of_head (by simp [head?_accessorDeclarations line hmem])
  exact includes_header hparts hwords.name
    ((headerProperty_notIncluding.forall_mem_tableClass hwords).2 hlines)

theorem not_mem_map_ownHeader (path : String) (hhead : path.toList.head? ≠ some '"')
    (names : List String) : path ∉ names.map ownHeader := by
  intro hmem
  obtain ⟨name, -, rfl⟩ := List.mem_map.1 hmem
  exact hhead (by simp [ownHeader])

theorem mem_includes_cstdint_iff :
    "<cstdint>" ∈ includes (tableIncludes schema table) ↔ HoldsIntegers table := by
  have hown := not_mem_map_ownHeader "<cstdint>" (by simp) (usedStructs schema table)
  rw [includes_tableIncludes, List.mem_append, or_iff_left hown]
  simp [mem_linesIf, HoldsIntegers]

theorem mem_includes_vector_iff :
    "<vector>" ∈ includes (tableIncludes schema table) ↔
      table.keyType = .set ∨ ∃ column ∈ table.columns.toList, column.isList := by
  have hown := not_mem_map_ownHeader "<vector>" (by simp) (usedStructs schema table)
  rw [includes_tableIncludes, List.mem_append, or_iff_left hown]
  simp [mem_linesIf]

/-- The includes in quotes are the headers of the structs that are used. -/
theorem filter_includes_own (schema : Schema) (table : Table) :
    (includes (tableIncludes schema table)).filter (·.toList.head? = some '"') =
      (usedStructs schema table).map ownHeader := by
  rw [includes_tableIncludes, List.filter_append, List.filter_eq_nil_iff.2, List.nil_append,
    List.filter_eq_self.2]
  · simp [ownHeader]
  · intro path hmem
    simp only [List.mem_append, mem_linesIf, List.mem_cons, List.not_mem_nil, or_false] at hmem
    rcases hmem with ((⟨-, rfl⟩ | rfl | rfl) | ⟨-, rfl⟩) <;> simp

theorem ownHeader_eq_iff {name other : String} :
    ownHeader name = ownHeader other ↔ fileStem name = fileStem other := by
  rw [ownHeader, ownHeader, String.append_left_inj, String.append_right_inj]

theorem count_includes_ownHeader (schema : Schema) (table : Table) (name : String) :
    (includes (tableIncludes schema table)).count (ownHeader name) =
      ((usedStructs schema table).map fileStem).count (fileStem name) := by
  have hquoted : (fun path : String => decide (path.toList.head? = some '"')) (ownHeader name) =
      true := by simp [ownHeader]
  rw [← List.count_filter (p := fun path : String => decide (path.toList.head? = some '"')) hquoted,
    filter_includes_own, List.count, List.count, List.countP_map,
    List.countP_map]
  refine List.countP_congr fun used _ => ?_
  simp [ownHeader_eq_iff]

/-- The headers of the structs that columns use are each included once just if no two of them are
the same. -/
theorem count_ownHeader_eq_one_iff (schema : Schema) (table : Table) :
    (∀ name ∈ usedStructs schema table,
        (includes (tableIncludes schema table)).count (ownHeader name) = 1) ↔
      ((usedStructs schema table).map fileStem).Nodup := by
  rw [List.nodup_iff_count_eq_one, List.forall_mem_map]
  exact forall₂_congr fun name _ => by rw [count_includes_ownHeader]

/-- The lines of a file include the headers of those structs of the schema that columns of a table
use, named by `names`, and no other headers in quotes. Two structs with one header have it included
twice. -/
structure IncludesStructs (schema : Schema) (table : Table) (lines : Lines) (names : List String) :
    Prop where
  used : ∀ name, name ∈ names ↔
    ∃ column ∈ table.columns.toList, usedStruct? schema table column = some name
  inOrder : names.Pairwise fun name later =>
    firstUse schema table name < firstUse schema table later
  headers : (includes lines).filter (·.toList.head? = some '"') = names.map ownHeader
  once : (∀ name ∈ names, (includes lines).count (ownHeader name) = 1) ↔
    (names.map fileStem).Nodup

/-- The lines of the header of a table include what its declarations use. -/
structure IncludesUsed (schema : Schema) (table : Table) (lines : Lines) : Prop where
  integers : "<cstdint>" ∈ includes lines ↔ HoldsIntegers table
  namesInt : (∃ line ∈ lines, NamesInt line) ↔ HoldsIntegers table ∨ HoldsNamesakes schema table
  vectors : "<vector>" ∈ includes lines ↔ ∃ line ∈ lines, NamesVector line
  structs : ∃ names, IncludesStructs schema table lines names

theorem exists_mem_iff_of_not {α : Type} {P : α → Prop} {entries : List α} {q : Prop}
    (hnot : (∀ entry ∈ entries, ¬ P entry) ↔ ¬ q) : (∃ entry ∈ entries, P entry) ↔ q := by
  rw [← not_iff_not, ← hnot]
  push Not
  rfl

theorem not_namesInt_includeSystem (path : String) : ¬ NamesInt (includeSystem path) :=
  not_namesInt_of_head (by simp [outdented, includeSystem])

theorem not_namesInt_tableIncludes : ∀ line ∈ tableIncludes schema table, ¬ NamesInt line := by
  have hown (name : String) : ¬ NamesInt (includeOwn name) :=
    not_namesInt_of_head (by simp [outdented, includeOwn])
  unfold tableIncludes
  simp only [List.forall_mem_append, List.forall_mem_cons, List.not_mem_nil, forall_mem_linesIf,
    List.forall_mem_map, not_namesInt_includeSystem, hown, not_false_eq_true, false_imp_iff,
    implies_true, and_true, true_and]
  exact fun _ => not_namesInt_ofList (by decide)

theorem not_namesVector_tableIncludes (hwords : TableWords schema table) :
    ∀ line ∈ tableIncludes schema table, ¬ NamesVector line := fun line hmem =>
  not_mentions_of_not_mem (c := ':') (by simp)
    ((includeText_tableIncludes hwords line hmem).not_mem (by simp))

/-- The header of a table includes what its declarations use. -/
theorem includesUsed_tableHeader {parts : List String} (hparts : ∀ part ∈ parts, IsWord part)
    (hwords : TableWords schema table) (hgenerable : table.Generable schema)
    (hcolumns : ∀ column ∈ table.columns.toList, column.WellFormed schema table)
    (hkey : key ∈ table.columns.toList) (hkeyType : key.type.canBeKey) :
    IncludesUsed schema table (tableHeader parts schema table key) where
  integers := by
    rw [includes_tableHeader hparts hwords, mem_includes_cstdint_iff]
  namesInt := by
    apply exists_mem_iff_of_not
    rw [headerProperty_not_namesInt.forall_mem_tableHeader hparts hwords,
      and_iff_right not_namesInt_tableIncludes,
      eachTypeLine_not_namesInt_iff hwords hgenerable hcolumns hkey hkeyType]
  vectors := by
    rw [includes_tableHeader hparts hwords, mem_includes_vector_iff]
    symm
    apply exists_mem_iff_of_not
    rw [headerProperty_not_namesVector.forall_mem_tableHeader hparts hwords,
      and_iff_right (not_namesVector_tableIncludes hwords),
      eachTypeLine_not_namesVector_iff hwords hcolumns hkey hkeyType]
  structs := by
    refine ⟨usedStructs schema table, fun name => mem_usedStructs_iff,
      pairwise_usedStructs schema table, ?_, ?_⟩
    · rw [includes_tableHeader hparts hwords, filter_includes_own]
    · rw [includes_tableHeader hparts hwords, count_ownHeader_eq_one_iff]

/-- The header of a struct includes the integer types just if it declares a field with one. -/
theorem mem_includes_structHeader_iff {parts : List String} (hparts : ∀ part ∈ parts, IsWord part)
    (hwords : NamesWords struct) :
    "<cstdint>" ∈ includes (structHeader parts struct) ↔
      ∃ line ∈ structHeader parts struct, NamesInt line := by
  have hincludes : ∀ line ∈ structIncludes struct, ¬ NamesInt line := by
    unfold structIncludes
    simp only [List.forall_mem_append, forall_mem_linesIf, List.forall_mem_singleton]
    exact ⟨fun _ => not_namesInt_includeSystem _, not_namesInt_includeSystem _⟩
  have hdeclarations : ∀ line ∈ structClass struct, included? line = none :=
    (headerProperty_notIncluding.forall_mem_structClass hwords.name).2 fun field hmem =>
      included?_memberLine ((typeText_fieldType field.type).subset (by simp))
        (hwords.fields field hmem)
  have hnames : (∃ line ∈ structHeader parts struct, NamesInt line) ↔
      ∃ field ∈ struct.fields.toList, field.type = .int := by
    apply exists_mem_iff_of_not
    rw [headerProperty_not_namesInt.forall_mem_structHeader hparts hwords.name,
      and_iff_right hincludes]
    push Not
    exact forall₂_congr fun field hmem =>
      not_congr (namesInt_fieldLine_iff (hwords.fields field hmem))
  have hnil : includes [] = [] := rfl
  rw [hnames, structHeader, includes_header hparts hwords.name hdeclarations, structIncludes,
    includes_append, includes_linesIf, includes_system, includes_system, hnil]
  simp [mem_linesIf]

/-! ## Sources -/

theorem mem_includes_of_mem {path : String} {lines : Lines} (hmem : includeSystem path ∈ lines) :
    "<" ++ path ++ ">" ∈ includes lines :=
  List.mem_filterMap.2 ⟨_, hmem, included?_includeSystem path⟩

/-- The source of a table includes the splitter if a struct of the table is read with one. -/
theorem mem_includes_tableSource (hwords : TableWords schema table)
    (hkey : key ∈ table.columns.toList) {parts : List String}
    (hparts : ∀ part ∈ parts, IsWord part)
    (hconstructs : ∃ line ∈ tableSource parts schema table key, ConstructsSplitter line) :
    "<tablekit/column_splitter.h>" ∈ includes (tableSource parts schema table key) := by
  have hstructs : table.localStructs.toList.isEmpty = false := by
    rw [List.isEmpty_eq_false_iff]
    intro hnil
    obtain ⟨line, hmem, hline⟩ := hconstructs
    refine (forall_mem_tableSource hwords hkey (P := (¬ ConstructsSplitter ·)) (fun _ => ?_)
      (fun _ hunquoted => ?_) hparts).2 ?_ line hmem hline
    · exact not_congr (mentions_indentLine (c := 't') (by simp) (by decide))
    · exact not_mentions_of_not_mem (c := '\'') (by simp) (hunquoted.not_mem (by simp))
    · simp [hnil]
  have hincluded : includeSystem "tablekit/column_splitter.h" ∈
      tableSource parts schema table key := by
    rw [tableSource, sourceIncludes]
    simp [mem_linesIf, hstructs]
  exact mem_includes_of_mem hincluded

end TableSchema.Generate.Cpp
