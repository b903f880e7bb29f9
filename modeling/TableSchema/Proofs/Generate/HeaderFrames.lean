import TableSchema.Proofs.Generate.CppIncludes
import TableSchema.Proofs.Generate.NestedCpp

/-!
# Guards and namespaces of headers

Around the declarations of a header stand a guard that its last line ends and the namespace of the
reader, if that has parts. No other line opens or closes one of them: besides the guard there are
only includes for the preprocessor.
-/

namespace TableSchema.Generate.Cpp

open Rust (NamesWords)

variable {schema : Schema} {table : Table} {struct : Struct} {key : Column} {parts : List String}

/-! ## What is read -/

/-- A line for the preprocessor. -/
def IsDirective (line : String) : Prop :=
  (outdented line).head? = some '#'

/-- A line that opens a namespace. -/
def OpensNamespace (line : String) : Prop :=
  "namespace ".toList <+: outdented line ∧ ['{'] <:+ outdented line

/-- A line that closes a namespace, as it says. -/
def ClosesNamespace (line : String) : Prop :=
  "\x7d // namespace ".toList <+: outdented line

/-- A line that is no directive and neither opens nor closes a namespace. -/
@[mk_iff]
structure IsCode (line : String) : Prop where
  directs : ¬ IsDirective line
  opens : ¬ OpensNamespace line
  closes : ¬ ClosesNamespace line

/-- The line that opens the namespace with the given parts, if there are any. -/
def namespaceOpening (parts : List String) : Lines :=
  linesIf (!parts.isEmpty) ["namespace " ++ joined "::" parts ++ " \x7b"]

/-- The line that closes the namespace with the given parts, if there are any. -/
def namespaceClosing (parts : List String) : Lines :=
  linesIf (!parts.isEmpty) ["\x7d // namespace " ++ joined "::" parts]

/-- The lines of a header, which begin with a comment. In a guard, which ends with the last line,
there are includes first and then a namespace, in which brackets are nested. -/
def Framed (parts : List String) (lines : Lines) : Prop :=
  ∃ (guard : String) (comment includes body : Lines), IsWord guard ∧
    lines = comment ++ ["#ifndef " ++ guard, "#define " ++ guard] ++ includes ++
      namespaceOpening parts ++ body ++ namespaceClosing parts ++ ["", "#endif"] ∧
    (∀ line ∈ comment ++ body, IsCode line) ∧
    (∀ line ∈ includes, IsCode line ∨ (included? line).isSome) ∧
    Bracketed (text body).toList

/-! ## Lines of code -/

theorem isCode_indentLine (line : String) : IsCode (indentLine line) ↔ IsCode line := by
  simp only [isCode_iff, IsDirective, OpensNamespace, ClosesNamespace, outdented_indentLine]

/-- Other lines start otherwise. -/
theorem isCode_of_head {line : String}
    (hhead : (outdented line).head? ∉ [some '#', some 'n', some '\x7d']) : IsCode line := by
  simp only [List.mem_cons, List.not_mem_nil, or_false, not_or] at hhead
  refine ⟨hhead.1, ?_, ?_⟩
  · rintro ⟨⟨rest, hline⟩, -⟩
    exact hhead.2.1 (hline ▸ rfl)
  · rintro ⟨rest, hline⟩
    exact hhead.2.2 (hline ▸ rfl)

theorem isCode_ofList {cs : List Char}
    (hhead : (cs.dropWhile (· = ' ')).head? ∉ [some '#', some 'n', some '\x7d']) :
    IsCode (String.ofList cs) :=
  isCode_of_head (by rwa [outdented, String.toList_ofList])

/-- Declarations end otherwise, and hold no comments. -/
theorem isCode_declaration {front : String} (hfront : Without ['#', '/'] front) :
    IsCode (front ++ ";") := by
  have hplain : Without ['#', '/'] (front ++ ";") := only_append.2 ⟨hfront, only_ofList rfl⟩
  refine ⟨fun hhead => ?_, fun hopens => ?_, fun hcloses => ?_⟩
  · exact hplain.not_mem (by simp) (mem_of_mem_outdented (List.mem_of_mem_head? hhead))
  · have hends := hopens.2.trans (List.dropWhile_suffix _)
    rw [String.toList_append, List.singleton_suffix_iff_getLast?_eq_some] at hends
    simp at hends
  · have hmem := mem_of_mem_outdented (c := '/') (hcloses.subset (by simp))
    exact hplain.not_mem (by simp) hmem

theorem isCode_memberLine {type name : String} (htype : Without ['#', '/'] type)
    (hname : IsWord name) : IsCode (memberLine type name) :=
  isCode_declaration (only_append.2 ⟨only_append.2 ⟨htype, only_ofList rfl⟩,
    hname.without (by decide)⟩)

theorem classProperty_isCode : ClassProperty IsCode where
  indentLine := isCode_indentLine
  fixed := by
    have hcloses : IsCode "\x7d;" := isCode_declaration (only_ofList rfl : Without _ "\x7d")
    simp only [classLines, List.forall_mem_cons, List.not_mem_nil, hcloses, false_imp_iff,
      implies_true, true_and, and_true]
    and_intros <;> exact isCode_ofList (by decide)
  opensClass name _ := isCode_of_head (by simp [outdented])
  constructs name hname := by
    have hcall : Without ['#', '/'] (name ++ "()") :=
      only_append.2 ⟨hname.without (by decide), only_ofList rfl⟩
    refine ⟨?_, isCode_of_head (by simp [outdented])⟩
    exact (String.append_assoc : name ++ "()" ++ ";" = _) ▸ isCode_declaration hcall

/-! ## Headers -/

theorem framed_header (hparts : ∀ part ∈ parts, IsWord part) {name : String} (hname : IsWord name)
    {includes declarations : Lines}
    (hincludes : ∀ line ∈ includes, IsCode line ∨ (included? line).isSome)
    (hcode : ∀ line ∈ declarations, IsCode line) (hbrackets : due (text declarations) = pure) :
    Framed parts (header parts name includes declarations) := by
  have hblank : IsCode "" := classProperty_isCode.blank
  have hheading : ∀ line ∈ heading, IsCode line := by
    simp only [heading, List.forall_mem_cons, List.not_mem_nil, false_imp_iff, implies_true,
      and_true]
    and_intros <;> exact isCode_ofList (by decide)
  obtain ⟨body, hlines, hbody, hnested⟩ : ∃ body : Lines,
      inNamespace parts declarations = namespaceOpening parts ++ body ++ namespaceClosing parts ∧
        (∀ line ∈ body, IsCode line) ∧ due (text body) = pure := by
    unfold inNamespace namespaceOpening namespaceClosing
    cases parts.isEmpty with
    | true => exact ⟨declarations, by simp [linesIf], hcode, hbrackets⟩
    | false =>
        refine ⟨[""] ++ declarations ++ [""], by simp [linesIf], ?_, ?_⟩
        · rw [List.forall_mem_append, List.forall_mem_append, List.forall_mem_singleton]
          exact ⟨⟨hblank, hcode⟩, hblank⟩
        · rw [due_text_append, due_text_append, due_text_singleton, due_empty, hbrackets,
            fish_pure, fish_pure]
  refine ⟨guardName parts name, heading, [""] ++ includes ++ [""], body,
    isWord_guardName hparts hname, ?_, ?_, ?_, bracketed_toList_iff.2 hnested⟩
  · simp [header, hlines]
  · exact List.forall_mem_append.2 ⟨hheading, hbody⟩
  · rw [List.forall_mem_append, List.forall_mem_append, List.forall_mem_singleton]
    exact ⟨⟨.inl hblank, hincludes⟩, .inl hblank⟩

theorem isSome_includeSystem (path : String) : (included? (includeSystem path)).isSome := by
  rw [included?_includeSystem, Option.isSome_some]

theorem isSome_includeOwn (name : String) : (included? (includeOwn name)).isSome := by
  rw [included?_includeOwn, Option.isSome_some]

theorem framed_structHeader (hparts : ∀ part ∈ parts, IsWord part) (hwords : NamesWords struct) :
    Framed parts (structHeader parts struct) := by
  refine framed_header hparts hwords.name ?_ ?_ (due_structClass hwords)
  · unfold structIncludes
    simp only [List.forall_mem_append, forall_mem_linesIf, List.forall_mem_singleton]
    exact ⟨fun _ => .inr (isSome_includeSystem _), .inr (isSome_includeSystem _)⟩
  · rw [classProperty_isCode.forall_mem_structClass hwords.name]
    exact fun field hmem => isCode_memberLine ((typeText_fieldType field.type).subset (by simp))
      (hwords.fields field hmem)

theorem framed_tableHeader (hparts : ∀ part ∈ parts, IsWord part)
    (hwords : TableWords schema table) (hkey : key ∈ table.columns.toList) :
    Framed parts (tableHeader parts schema table key) := by
  refine framed_header hparts hwords.name ?_ ?_ (due_tableClass hwords hkey)
  · have hsystem (path : String) : IsCode (includeSystem path) ∨
        (included? (includeSystem path)).isSome := .inr (isSome_includeSystem path)
    unfold tableIncludes
    simp only [List.forall_mem_append, List.forall_mem_cons, List.not_mem_nil, forall_mem_linesIf,
      List.forall_mem_map, hsystem, false_imp_iff, implies_true, true_and, and_true]
    exact ⟨fun _ => .inl classProperty_isCode.blank, fun name _ => .inr (isSome_includeOwn name)⟩
  · refine (classProperty_isCode.forall_mem_tableClass hwords).2 ⟨?_, ?_, ?_, ?_⟩
    · intro struct hstruct field hfield
      exact isCode_memberLine ((typeText_fieldType field.type).subset (by simp))
        ((hwords.localStructs struct hstruct).fields field hfield)
    · intro column hmem
      exact isCode_memberLine ((without_columnType hwords hmem).subset (by simp))
        (hwords.columns column hmem)
    · exact fun line hmem => isCode_of_head (by simp [head?_rowTypes line hmem])
    · exact fun line hmem => isCode_of_head (by simp [head?_accessorDeclarations line hmem])

end TableSchema.Generate.Cpp
