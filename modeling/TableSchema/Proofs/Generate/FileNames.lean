import TableSchema.Generate.Emission
import TableSchema.Proofs.Files.Paths
import TableSchema.Proofs.Generate.Scopes

/-!
# Names of generated files

The files of a struct or table bear its name, written in lower snake case and, in Rust, with an
underscore if it is a word of the language. They are distinct just if these stems are.
-/

namespace TableSchema

/-- The name under which the code of a struct or table is filed, up to the dot. -/
def Generate.Language.stem : Language → String → String
  | .cpp => Cpp.fileStem
  | .rust => Rust.moduleName

/-- The names of the structs and tables for which code is generated. -/
def Schema.generatedNames (schema : Schema) : List String :=
  schema.globalStructs.names ++ schema.tables.names

/-- The names of the files that are made for stems, in their order. -/
def Generate.Language.fileNames (language : Language) (stems : List String) : List String :=
  match language with
  | .cpp => stems.flatMap fun stem => [stem ++ ".h", stem ++ ".cc"]
  | .rust => stems.map (· ++ ".rs") ++ ["mod.rs"]

theorem ascii_of_isIdentifierPart {c : Char} (hpart : isIdentifierPart c) : c.toNat < 128 := by
  by_contra hlarge
  have hunderscore : c ≠ '_' := by
    rintro rfl
    exact hlarge (by decide)
  -- Each range of letters or digits ends at an ASCII character, so below `c`.
  have habove {high : Char} (hhigh : high.toNat < 128) : ¬ c.val ≤ high.val := fun hle =>
    hlarge (Nat.lt_of_le_of_lt (UInt32.le_iff_toNat_le.1 hle) hhigh)
  have hupper : c.isUpper = false := decide_eq_false fun hrange => habove (by decide) hrange.2
  have hlower : c.isLower = false :=
    Bool.and_eq_false_iff.2 (.inr (decide_eq_false (habove (by decide))))
  have hdigit : c.isDigit = false :=
    Bool.and_eq_false_iff.2 (.inr (decide_eq_false (habove (by decide))))
  have halpha : c.isAlpha = false := Bool.or_eq_false_iff.2 ⟨hupper, hlower⟩
  have halphanum : c.isAlphanum = false := Bool.or_eq_false_iff.2 ⟨halpha, hdigit⟩
  simp [isIdentifierPart, halphanum, hunderscore] at hpart

/-- What holds of the ASCII characters of identifiers holds of all their characters. -/
theorem forall_isIdentifierPart {P : Char → Prop}
    (hascii : ∀ n < 128, isIdentifierPart (Char.ofNat n) → P (Char.ofNat n)) {c : Char}
    (hpart : isIdentifierPart c) : P c := by
  have hc := hascii c.toNat (ascii_of_isIdentifierPart hpart)
  rw [Char.ofNat_toNat] at hc
  exact hc hpart

namespace Generate

/-! ## Stems -/

theorem mem_markWords {c : Char} {cs : List Char} (hmem : c ∈ markWords cs) : c ∈ cs ∨ c = '_' := by
  fun_induction markWords cs with
  | case1 => exact .inl hmem
  | case2 => exact .inl hmem
  | case3 left right rest _ ih =>
      simp only [List.mem_cons] at hmem ⊢
      tauto
  | case4 left right rest _ ih =>
      rcases List.mem_cons.1 hmem with rfl | hmem
      · exact .inl List.mem_cons_self
      · exact (ih hmem).imp_left (List.mem_cons_of_mem _)

/-- Lowercase forms of ASCII characters do not depend on their neighbours. -/
theorem lowerFrom_of_ascii {before cs : List Char} (hascii : ∀ c ∈ cs, c.toNat < 128) :
    Unicode.lowerFrom before cs = cs.map Char.toLower := by
  induction cs generalizing before with
  | nil => rfl
  | cons c rest ih =>
      rw [List.forall_mem_cons] at hascii
      have hsigma : c ≠ 'Σ' := by
        rintro rfl
        exact absurd hascii.1 (by decide)
      rw [Unicode.lowerFrom, if_neg hsigma, Unicode.lowerChar, if_pos hascii.1, ih hascii.2]
      rfl

theorem isIdentifierPart_toLower {c : Char} (hpart : isIdentifierPart c) :
    isIdentifierPart c.toLower :=
  forall_isIdentifierPart (P := fun c => isIdentifierPart c.toLower) (by decide) hpart

theorem isIdentifierPart_of_mem_markWords {name : String} (hname : IsWord name) :
    ∀ c ∈ markWords name.toList, isIdentifierPart c := by
  intro c hmem
  rcases mem_markWords hmem with hchar | rfl
  · exact hname c hchar
  · decide

theorem toList_snakeCase {name : String} (hname : IsWord name) :
    (snakeCase name).toList = (markWords name.toList).map Char.toLower := by
  rw [snakeCase, Unicode.lower, Unicode.lowerChars, String.toList_ofList, String.toList_ofList,
    lowerFrom_of_ascii fun c hmem =>
      ascii_of_isIdentifierPart (isIdentifierPart_of_mem_markWords hname c hmem)]

theorem isWord_snakeCase {name : String} (hname : IsWord name) : IsWord (snakeCase name) := by
  rw [IsWord, toList_snakeCase hname, List.forall_mem_map]
  exact fun c hmem => isIdentifierPart_toLower (isIdentifierPart_of_mem_markWords hname c hmem)

theorem slash_not_mem_snakeCase {name : String} (hname : Identifier name) :
    '/' ∉ (snakeCase name).toList :=
  fun hmem => absurd (isWord_snakeCase (isWord_of_identifier hname) '/' hmem) (by decide)

theorem Rust.escape_ne_mod (name : String) : Rust.escape name ≠ "mod" := by
  unfold Rust.escape
  split
  next =>
    intro h
    have hlast := congrArg (·.toList.getLast?) h
    simp at hlast
  next hword =>
    rintro rfl
    exact hword (by decide)

/-- The stem of a file name is free of slashes. -/
theorem slash_not_mem_stem (language : Language) {name : String} (hname : Identifier name) :
    '/' ∉ (language.stem name).toList := by
  have hsnake := slash_not_mem_snakeCase hname
  cases language with
  | cpp => exact hsnake
  | rust =>
      show '/' ∉ (Rust.escape (snakeCase name)).toList
      unfold Rust.escape
      split
      · simpa using hsnake
      · exact hsnake

theorem isStep_append {stem ending : String} (hstem : '/' ∉ stem.toList)
    (hending : Path.IsStep ending) : Path.IsStep (stem ++ ending) where
  ne_empty := by simp [hending.ne_empty]
  noSlash := by simp [hstem, hending.noSlash]

/-- Every generated file has a name by which it can be found in its directory. -/
theorem isStep_of_mem_fileNames {language : Language} {stems : List String}
    (hstems : ∀ stem ∈ stems, '/' ∉ stem.toList) :
    ∀ name ∈ language.fileNames stems, Path.IsStep name := by
  intro name hname
  cases language with
  | cpp =>
      obtain ⟨stem, hstem, hname⟩ := List.mem_flatMap.1 hname
      simp only [List.mem_cons, List.not_mem_nil, or_false] at hname
      rcases hname with rfl | rfl
      · exact isStep_append (hstems stem hstem) ⟨by decide, by decide⟩
      · exact isStep_append (hstems stem hstem) ⟨by decide, by decide⟩
  | rust =>
      rcases List.mem_append.1 hname with hname | hname
      · obtain ⟨stem, hstem, rfl⟩ := List.mem_map.1 hname
        exact isStep_append (hstems stem hstem) ⟨by decide, by decide⟩
      · obtain rfl := List.mem_singleton.1 hname
        exact ⟨by decide, by decide⟩

/-! ## Distinct files -/

theorem Cpp.nodup_fileNames_iff {stems : List String} :
    (Language.cpp.fileNames stems).Nodup ↔ stems.Nodup := by
  show (stems.flatMap fun stem => [stem ++ ".h", stem ++ ".cc"]).Nodup ↔ stems.Nodup
  have hends (stem other : String) : stem ++ ".h" ≠ other ++ ".cc" := by
    intro h
    have hlast := congrArg (·.toList.getLast?) h
    simp at hlast
  induction stems with
  | nil => simp
  | cons stem rest ih =>
      have hheader : stem ++ ".h" ∈ (rest.flatMap fun stem => [stem ++ ".h", stem ++ ".cc"]) ↔
          stem ∈ rest := by
        simp [hends]
      have hsource : stem ++ ".cc" ∈ (rest.flatMap fun stem => [stem ++ ".h", stem ++ ".cc"]) ↔
          stem ∈ rest := by
        simp [(hends _ _).symm]
      rw [List.flatMap_cons, List.cons_append, List.singleton_append, List.nodup_cons,
        List.mem_cons, hheader, List.nodup_cons, hsource, List.nodup_cons]
      simp only [hends, false_or, ih, and_self_left]

theorem Rust.nodup_fileNames_iff {stems : List String} (hmod : "mod" ∉ stems) :
    (Language.rust.fileNames stems).Nodup ↔ stems.Nodup := by
  have hinjective : Function.Injective (· ++ ".rs") := by
    intro stem other h
    simpa using h
  have hlist : "mod.rs" ∉ stems.map (· ++ ".rs") := by
    intro hmem
    obtain ⟨stem, hstem, h⟩ := List.mem_map.1 hmem
    obtain rfl : stem = "mod" := hinjective h
    exact hmod hstem
  show (stems.map (· ++ ".rs") ++ ["mod.rs"]).Nodup ↔ stems.Nodup
  rw [← List.concat_eq_append, List.nodup_concat, List.nodup_map_iff hinjective]
  exact ⟨fun h => h.2, fun h => ⟨hlist, h⟩⟩

/-- The files have different names just if the stems are different. -/
theorem nodup_fileNames_iff (language : Language) (names : List String) :
    (language.fileNames (names.map language.stem)).Nodup ↔ (names.map language.stem).Nodup := by
  cases language with
  | cpp => exact Cpp.nodup_fileNames_iff
  | rust =>
      apply Rust.nodup_fileNames_iff
      intro hmem
      obtain ⟨name, -, hname⟩ := List.mem_map.1 hmem
      exact Rust.escape_ne_mod (snakeCase name) hname

end Generate

end TableSchema
