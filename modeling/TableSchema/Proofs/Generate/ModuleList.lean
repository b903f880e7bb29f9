import TableSchema.Proofs.Generate.DefinedTypes
import TableSchema.Proofs.Generate.EveryLine
import TableSchema.Proofs.Generate.FileNames

/-!
# The list of modules

The code of a schema in Rust ends with a file that lists its modules. Of the lines of this file,
those that declare a module are one for each struct and table, in the order of their files.
-/

namespace TableSchema

namespace Generate

/-! ## Lines of a text -/

/-- The lines that a text is made of are found in it, with nothing after the last line feed. -/
theorem splitText_text {lines : Lines} (hlines : ∀ line ∈ lines, '\n' ∉ line.toList) :
    splitText '\n' (text lines) = lines ++ [""] := by
  induction lines with
  | nil => rfl
  | cons line rest ih =>
      rw [List.forall_mem_cons] at hlines
      have hrest := ih hlines.2
      have htext : (text (line :: rest)).toList = line.toList ++ '\n' :: (text rest).toList := by
        simp [text_cons]
      rw [splitText] at hrest ⊢
      rw [htext, List.splitOn_append_cons_self_of_not_mem hlines.1, List.map_cons, hrest,
        String.ofList_toList, List.cons_append]

theorem lineFeed_not_mem {word : String} (hword : IsWord word) : '\n' ∉ word.toList :=
  fun hmem => absurd (hword '\n' hmem) (by decide)

theorem lineFeed_not_mem_joined {separator : String} (hseparator : '\n' ∉ separator.toList)
    {parts : List String} (hparts : ∀ part ∈ parts, '\n' ∉ part.toList) :
    '\n' ∉ (joined separator parts).toList := by
  rw [joined, String.toList_intercalate]
  exact not_mem_intercalate hseparator (List.forall_mem_map.2 hparts)

namespace Rust

theorem isWord_moduleName {name : String} (hname : IsWord name) : IsWord (moduleName name) :=
  isWord_escape (isWord_snakeCase hname)

theorem moduleNames_eq (schema : Schema) :
    moduleNames schema = schema.generatedNames.map Language.rust.stem := by
  simp only [moduleNames, Schema.generatedNames, Catalog.names, List.map_append, List.map_map,
    Function.comp_def, Language.stem, Named.name]

/-! ## Declared modules -/

def declaresModule (line : String) : Bool :=
  "pub mod ".toList.isPrefixOf line.toList

theorem filter_declaresModule (schema : Schema) (reader : Option Reader) (name : String) :
    (moduleList schema reader name).filter declaresModule =
      (moduleNames schema).map fun module => "pub mod " ++ module ++ ";" := by
  have hheading : heading.filter declaresModule = [] := by simp [heading, declaresModule]
  have hcomment : (readerComment reader name).filter declaresModule = [] := by
    unfold readerComment
    dsimp only
    split
    · rfl
    · simp [declaresModule]
  have hmodules : ((moduleNames schema).map fun module => "pub mod " ++ module ++ ";").filter
      declaresModule = (moduleNames schema).map fun module => "pub mod " ++ module ++ ";" := by
    rw [List.filter_eq_self]
    simp [declaresModule]
  rw [moduleList, List.filter_append, List.filter_append, hheading, hcomment, hmodules]
  rfl

theorem declaration_injective :
    Function.Injective fun module : String => "pub mod " ++ module ++ ";" := fun _ _ hsame =>
  (String.append_right_inj _).1 ((String.append_left_inj _).1 hsame)

/-- No line of the list holds a line feed, so the lines of its text are the same. -/
theorem lineFeed_not_mem_moduleList {schema : Schema} {reader : Reader} {name : String}
    (hparts : ∀ part ∈ reader.namespaceParts, IsWord part) (hname : IsWord name)
    (hmodules : ∀ module ∈ moduleNames schema, IsWord module) :
    ∀ line ∈ moduleList schema (some reader) name, '\n' ∉ line.toList := by
  have hheading : ∀ line ∈ heading, '\n' ∉ line.toList := by simp [heading]
  have hcomment : ∀ line ∈ readerComment (some reader) name, '\n' ∉ line.toList := by
    have hnamespace : '\n' ∉ (joined "::" reader.namespaceParts).toList :=
      lineFeed_not_mem_joined (by decide) fun part hmem => lineFeed_not_mem (hparts part hmem)
    have hreader := lineFeed_not_mem hname
    unfold readerComment
    dsimp only [Option.map_some, Option.getD_some]
    split
    · simp
    · simp [hnamespace, hreader]
  rw [moduleList, List.forall_mem_append, List.forall_mem_append, List.forall_mem_map]
  refine ⟨⟨hheading, hcomment⟩, fun module hmem => ?_⟩
  have hmodule := lineFeed_not_mem (hmodules module hmem)
  simp [hmodule]

end Rust

end Generate

open Generate

theorem Schema.WellFormed.moduleWords {schema : Schema} (hwell : schema.WellFormed) :
    ∀ module ∈ Rust.moduleNames schema, IsWord module := by
  rw [Rust.moduleNames_eq, List.forall_mem_map]
  exact fun name hmem =>
    Rust.isWord_moduleName (isWord_of_identifier (hwell.globalNames.identifiers name hmem))

end TableSchema
