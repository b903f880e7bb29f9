import TableSchema.Files.Tree
import TableSchema.Proofs.Text.Parts

/-!
# Paths into directories

A path to a name in a directory takes the steps of the directory and then one more, which is the
name.
-/

namespace TableSchema.Path

variable {directory name : String}

/-- A text that is one step of a path. -/
structure IsStep (name : String) : Prop where
  ne_empty : name ≠ ""
  noSlash : '/' ∉ name.toList

theorem IsStep.splitText_eq (hname : IsStep name) : splitText '/' name = [name] := by
  rw [splitText, List.splitOn_eq_singleton hname.noSlash, List.map_singleton, String.ofList_toList]

theorem IsStep.isAbsolute_eq (hname : IsStep name) : isAbsolute name = false := by
  rw [isAbsolute, decide_eq_false_iff_not]
  exact fun hhead => hname.noSlash (List.mem_of_mem_head? hhead)

/-- The texts between the slashes of two texts with a slash between them are those of both. -/
theorem splitText_slash (before after : String) :
    splitText '/' (before ++ "/" ++ after) = splitText '/' before ++ splitText '/' after := by
  simp [splitText, List.splitOn_append_cons_self]

theorem exists_of_endsInSlash (hslash : endsInSlash directory) :
    ∃ before, directory = before ++ "/" := by
  have hlast := of_decide_eq_true hslash
  refine ⟨String.ofList directory.toList.dropLast, String.toList_inj.1 ?_⟩
  simpa using (List.dropLast_append_getLast? _ hlast).symm

theorem splitText_empty : splitText '/' "" = [""] := rfl

theorem steps_join (hname : IsStep name) :
    steps (join directory name) = steps directory ++ [name] := by
  have hstep : [name].filter (!·.isEmpty) = [name] := by simp [hname.ne_empty]
  unfold join
  rw [hname.isAbsolute_eq, if_neg Bool.false_ne_true]
  cases hslash : endsInSlash directory with
  | true =>
      obtain ⟨before, rfl⟩ := exists_of_endsInSlash hslash
      have hbefore : splitText '/' (before ++ "/") = splitText '/' before ++ [""] := by
        rw [← splitText_empty, ← splitText_slash, String.append_empty]
      simp [steps, splitText_slash, hname.splitText_eq, hbefore, hstep]
  | false =>
      by_cases hempty : directory = ""
      · simp [steps, hempty, hname.splitText_eq, hstep, splitText_empty]
      · simp [steps, hempty, splitText_slash, hname.splitText_eq, hstep]

theorem isAbsolute_join (hname : IsStep name) :
    isAbsolute (join directory name) = isAbsolute directory := by
  have hnotAbsolute := hname.isAbsolute_eq
  unfold join
  rw [hnotAbsolute, if_neg Bool.false_ne_true]
  by_cases hempty : directory = ""
  · have hnone : isAbsolute "" = false := rfl
    simpa [hempty, hnone] using hnotAbsolute
  · obtain ⟨first, hfirst⟩ : ∃ first, directory.toList.head? = some first := by
      rw [← Option.isSome_iff_exists, List.isSome_head?]
      simpa using hempty
    unfold isAbsolute
    split <;> simp [List.head?_append, hfirst]

theorem start_join (hname : IsStep name) :
    FileTree.start (join directory name) = FileTree.start directory := by
  rw [FileTree.start, FileTree.start, isAbsolute_join hname]

end TableSchema.Path
