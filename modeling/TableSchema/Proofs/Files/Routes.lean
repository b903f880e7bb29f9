import Mathlib.Tactic.SplitIfs
import TableSchema.Files.Access
import TableSchema.Proofs.Success

/-!
# Routes through file trees

Following a path looks at some places of a file tree and at no others. What a path leads to is the
same in all trees that hold the same at the places of its route; and since writing a file makes no
directory, routes and the places to which files are written stay as they are while files are
written.
-/

namespace TableSchema.FileTree

/-- The places that are looked at when steps are taken from a place. -/
def visits (tree : FileTree) (place : Place) : List String → List Place
  | [] => [place]
  | step :: rest =>
      place ::
        match tree.get? place with
        | some .directory =>
            if step = "." then tree.visits place rest
            else if step = ".." then tree.visits (parent place) rest
            else if Path.isTooLong step then []
            else tree.visits (place ++ [step]) rest
        | _ => []

/-- The places that are looked at when a path is followed. -/
def route (tree : FileTree) (path : String) : List Place :=
  tree.visits (start path) (Path.steps path)

variable {tree other : FileTree} {place : Place} {steps : List String}

theorem mem_visits_self : place ∈ tree.visits place steps := by
  cases steps with
  | nil => exact List.mem_singleton_self place
  | cons step rest => exact List.mem_cons_self

/-! ## Trees that agree along a route -/

/-- Steps lead to the same place, and past the same places, in a tree that holds the same there. -/
theorem walk_congr (hsame : ∀ p ∈ tree.visits place steps, other.get? p = tree.get? p) :
    other.walk place steps = tree.walk place steps ∧
      other.visits place steps = tree.visits place steps := by
  have hplace := hsame place mem_visits_self
  fun_induction tree.walk place steps with
  | case1 place => exact ⟨rfl, rfl⟩
  | case2 place step rest hnone => simp [walk, visits, hplace, hnone]
  | case3 place step rest content hfile => simp [walk, visits, hplace, hfile]
  | case4 place rest hdirectory ih =>
      have hrest := ih (fun p hp => hsame p (by simp [visits, hdirectory, hp])) hplace
      simp [walk, visits, hplace, hdirectory, hrest]
  | case5 place rest hdirectory _ ih =>
      have hsame' : ∀ p ∈ tree.visits (parent place) rest, other.get? p = tree.get? p :=
        fun p hp => hsame p (by simp [visits, hdirectory, hp])
      have hrest := ih hsame' (hsame' _ mem_visits_self)
      simp [walk, visits, hplace, hdirectory, hrest]
  | case6 place step rest hdirectory hhere hup hlong =>
      simp [walk, visits, hplace, hdirectory, hhere, hup, hlong]
  | case7 place step rest hdirectory hhere hup hlong hnone =>
      have hnext : other.get? (place ++ [step]) = none := by
        rw [hsame _ (by simp [visits, hdirectory, hhere, hup, hlong, mem_visits_self]), hnone]
      cases rest <;> simp [walk, visits, hplace, hdirectory, hhere, hup, hlong, hnone, hnext]
  | case8 place step rest hdirectory hhere hup hlong entry hentry ih =>
      have hsame' : ∀ p ∈ tree.visits (place ++ [step]) rest, other.get? p = tree.get? p :=
        fun p hp => hsame p (by simp [visits, hdirectory, hhere, hup, hlong, hp])
      have hnext := hsame' _ mem_visits_self
      have hrest := ih hsame' hnext
      simp [walk, visits, hplace, hdirectory, hhere, hup, hlong, hentry, hnext, hrest]

/-- Going no further looks at nothing more. -/
theorem mem_visits_append_here {p : Place} :
    p ∈ tree.visits place (steps ++ ["."]) ↔ p ∈ tree.visits place steps := by
  fun_induction tree.visits place steps with
  | case1 place =>
      cases hplace : tree.get? place with
      | none => simp [visits, hplace]
      | some entry => cases entry <;> simp [visits, hplace]
  | case2 place step rest ihHere ihUp ihNext =>
      rw [List.cons_append, visits, List.mem_cons, List.mem_cons]
      apply or_congr_right
      split
      · split_ifs
        · exact ihHere
        · exact ihUp
        · rfl
        · exact ihNext
      · rfl

/-- Steps that lead somewhere look at where they lead, and at what further steps look at. -/
theorem mem_visits_append {p q : Place} {further : List String}
    (hwalk : tree.walk place steps = .ok q) (hmem : p ∈ tree.visits q further) :
    p ∈ tree.visits place (steps ++ further) := by
  fun_induction tree.walk place steps with
  | case1 place =>
      cases hwalk
      exact hmem
  | case2 => cases hwalk
  | case3 => cases hwalk
  | case4 place rest hdirectory ih => simp [visits, hdirectory, ih hwalk]
  | case5 place rest hdirectory _ ih => simp [visits, hdirectory, ih hwalk]
  | case6 => cases hwalk
  | case7 => cases hwalk
  | case8 place step rest hdirectory hhere hup hlong entry hentry ih =>
      simp [visits, hdirectory, hhere, hup, hlong, ih hwalk]

theorem mem_visits_of_mem {p : Place} {further : List String}
    (hmem : p ∈ tree.visits place steps) : p ∈ tree.visits place (steps ++ further) := by
  fun_induction tree.visits place steps with
  | case1 place =>
      obtain rfl := List.mem_singleton.1 hmem
      exact mem_visits_self
  | case2 place step rest ihHere ihUp ihNext =>
      rw [List.cons_append, visits]
      rcases List.mem_cons.1 hmem with rfl | hlater
      · exact List.mem_cons_self
      · apply List.mem_cons_of_mem
        revert hlater
        split
        · split_ifs
          · exact ihHere
          · exact ihUp
          · exact id
          · exact ihNext
        · exact id

theorem walk_append (tree : FileTree) (place : Place) (steps further : List String) :
    tree.walk place (steps ++ further) = tree.walk place steps >>= (tree.walk · further) := by
  fun_induction tree.walk place steps with
  | case1 place => rfl
  | case2 place step rest hnone => simp [walk, hnone, bind, Except.bind]
  | case3 place step rest content hfile => simp [walk, hfile, bind, Except.bind]
  | case4 place rest hdirectory ih => simp [walk, hdirectory, ih]
  | case5 place rest hdirectory _ ih => simp [walk, hdirectory, ih]
  | case6 place step rest hdirectory hhere hup hlong =>
      simp [walk, hdirectory, hhere, hup, hlong, bind, Except.bind]
  | case7 place step rest hdirectory hhere hup hlong hnone =>
      simp [walk, hdirectory, hhere, hup, hlong, hnone, bind, Except.bind]
  | case8 place step rest hdirectory hhere hup hlong entry hentry ih =>
      simp [walk, hdirectory, hhere, hup, hlong, hentry, ih]

variable {path : String}

/-- Where a path leads is looked at, too. -/
theorem mem_route_of_locate {p : Place} (hfound : tree.locate path = .ok p) :
    p ∈ tree.route path := by
  obtain ⟨-, hwalk⟩ := then_eq_ok_iff.1 hfound
  have hself : p ∈ tree.visits p [] := mem_visits_self
  have hmem := mem_visits_append hwalk hself
  rw [List.append_nil] at hmem
  cases hslash : Path.endsInSlash path with
  | true =>
      rw [hslash, if_pos rfl] at hmem
      exact mem_visits_append_here.1 hmem
  | false =>
      rw [hslash, if_neg Bool.false_ne_true, List.append_nil] at hmem
      exact hmem

theorem locate_congr (hsame : ∀ p ∈ tree.route path, other.get? p = tree.get? p) :
    other.locate path = tree.locate path := by
  unfold locate
  apply bind_congr_ok
  intro _ _
  cases Path.endsInSlash path with
  | true => exact (walk_congr fun p hp => hsame p (mem_visits_append_here.1 hp)).1
  | false =>
      show other.walk _ (Path.steps path ++ []) = tree.walk _ (Path.steps path ++ [])
      rw [List.append_nil]
      exact (walk_congr hsame).1

theorem read_congr (hsame : ∀ p ∈ tree.route path, other.get? p = tree.get? p) :
    other.read path = tree.read path := by
  unfold read
  rw [locate_congr hsame]
  apply bind_congr_ok
  intro p hfound
  rw [hsame p (mem_route_of_locate hfound)]

/-! ## Where files are written -/

theorem walk_append_here_eq_ok_iff {p : Place} :
    tree.walk place (steps ++ ["."]) = .ok p ↔
      tree.walk place steps = .ok p ∧ tree.get? p = some .directory := by
  rw [walk_append, bind_eq_ok_iff]
  constructor
  · rintro ⟨q, hwalk, hhere⟩
    cases hq : tree.get? q with
    | none => simp [walk, hq] at hhere
    | some entry =>
        cases entry with
        | file content => simp [walk, hq] at hhere
        | directory =>
            obtain rfl : q = p := by simpa [walk, hq] using hhere
            exact ⟨hwalk, hq⟩
  · rintro ⟨hwalk, hp⟩
    exact ⟨p, hwalk, by simp [walk, hp]⟩

/-- A step by which a file in a directory may be named. -/
def NamesFile (name : String) : Prop :=
  name ≠ "." ∧ name ≠ ".." ∧ Path.isTooLong name = false

/-- The last step is looked at in the directory to which the others lead. -/
theorem mem_route_of_walk {p : Place} {name : String}
    (hlast : (Path.steps path).getLast? = some name)
    (hwalk : tree.walk (start path) ((Path.steps path).dropLast ++ ["."]) = .ok p)
    (hname : NamesFile name) : p ++ [name] ∈ tree.route path := by
  obtain ⟨hhere, hup, hlong⟩ := hname
  obtain ⟨hwalk, hp⟩ := walk_append_here_eq_ok_iff.1 hwalk
  have hnext : p ++ [name] ∈ tree.visits p [name] := by
    simp [visits, hp, hhere, hup, hlong]
  rw [route, ← List.dropLast_append_getLast? name hlast]
  exact mem_visits_append hwalk hnext

/-- A file is written in the directory to which all steps but the last lead, under the last step,
unless there is a directory already. -/
theorem target_eq_ok_iff {p : Place} :
    tree.target path = .ok p ↔
      Path.check path = .ok () ∧ ∃ name directory, (Path.steps path).getLast? = some name ∧
        tree.walk (start path) ((Path.steps path).dropLast ++ ["."]) = .ok directory ∧
        NamesFile name ∧ Path.endsInSlash path = false ∧
        p = directory ++ [name] ∧ tree.get? p ≠ some .directory := by
  unfold target
  rw [then_eq_ok_iff]
  apply and_congr_right
  intro _
  cases hlast : (Path.steps path).getLast? with
  | none => simp [throw, throwThe, MonadExceptOf.throw]
  | some name =>
      simp only [bind_eq_ok_iff, Option.some.injEq, exists_and_left, exists_eq_left', NamesFile]
      apply exists_congr
      intro directory
      apply and_congr_right
      intro _
      by_cases hreserved : name = "." ∨ name = ".." ∨ Path.endsInSlash path
      · have hcheck : (decide (name = ".") || decide (name = "..") ||
            Path.endsInSlash path) = true := by simpa [or_assoc] using hreserved
        rw [if_pos hcheck]
        simp only [throw, throwThe, MonadExceptOf.throw, bind, Except.bind]
        grind
      · have hcheck : ¬(decide (name = ".") || decide (name = "..") ||
            Path.endsInSlash path) = true := by simpa [or_assoc] using hreserved
        rw [if_neg hcheck]
        cases hlong : Path.isTooLong name with
        | true => simp [throw, throwThe, MonadExceptOf.throw]
        | false =>
            simp only [throw, throwThe, MonadExceptOf.throw, pure, Except.pure, bind, Except.bind]
            grind

theorem target_congr (hsame : ∀ p ∈ tree.route path, other.get? p = tree.get? p) :
    other.target path = tree.target path := by
  unfold target
  apply bind_congr_ok
  intro _ _
  cases hlast : (Path.steps path).getLast? with
  | none => rfl
  | some name =>
      have hdirectory : ∀ p ∈ tree.visits (start path) ((Path.steps path).dropLast ++ ["."]),
          other.get? p = tree.get? p := by
        intro p hp
        apply hsame p
        rw [route, ← List.dropLast_append_getLast? name hlast]
        exact mem_visits_of_mem (mem_visits_append_here.1 hp)
      dsimp only
      rw [(walk_congr hdirectory).1]
      apply bind_congr_ok
      intro directory hwalk
      by_cases hname : NamesFile name
      · rw [hsame _ (mem_route_of_walk hlast hwalk hname)]
      · -- The name is refused before anything is looked at under it.
        rw [NamesFile] at hname
        split_ifs
        · rfl
        · rfl
        · rfl
        · grind

/-! ## Writing -/

/-- The trees have the same directories, whatever their files. -/
def SameDirectories (tree other : FileTree) : Prop :=
  ∀ place, other.get? place = some .directory ↔ tree.get? place = some .directory

theorem SameDirectories.visits_eq (hsame : tree.SameDirectories other) (place : Place)
    (steps : List String) : other.visits place steps = tree.visits place steps := by
  fun_induction tree.visits place steps with
  | case1 place => rfl
  | case2 place step rest ihHere ihUp ihNext =>
      rw [visits, ihHere, ihUp, ihNext]
      have hplace := hsame place
      grind

theorem SameDirectories.route_eq (hsame : tree.SameDirectories other) (path : String) :
    other.route path = tree.route path :=
  hsame.visits_eq _ _

/-- Steps lead to a directory only from a directory. -/
theorem directory_of_walk {p : Place} (hwalk : tree.walk place steps = .ok p)
    (hp : tree.get? p = some .directory) : tree.get? place = some .directory := by
  cases steps with
  | nil =>
      cases hwalk
      exact hp
  | cons step rest =>
      rw [walk] at hwalk
      split at hwalk
      next => cases hwalk
      next => cases hwalk
      next hdirectory => exact hdirectory

theorem SameDirectories.walk_append_here {p : Place} (hsame : tree.SameDirectories other)
    (hwalk : tree.walk place (steps ++ ["."]) = .ok p) :
    other.walk place (steps ++ ["."]) = .ok p := by
  rw [walk_append_here_eq_ok_iff] at hwalk ⊢
  obtain ⟨hwalk, hp⟩ := hwalk
  refine ⟨?_, (hsame p).2 hp⟩
  fun_induction tree.walk place steps with
  | case1 place => exact hwalk
  | case2 => cases hwalk
  | case3 => cases hwalk
  | case4 place rest hdirectory ih =>
      simp [walk, (hsame place).2 hdirectory, ih hwalk]
  | case5 place rest hdirectory _ ih =>
      simp [walk, (hsame place).2 hdirectory, ih hwalk]
  | case6 => cases hwalk
  | case7 => cases hwalk
  | case8 place step rest hdirectory hhere hup hlong entry hentry ih =>
      have hrest := ih hwalk
      have hnext := (hsame _).2 (directory_of_walk hwalk hp)
      simp [walk, (hsame place).2 hdirectory, hhere, hup, hlong, hnext, hrest]

theorem SameDirectories.symm (hsame : tree.SameDirectories other) : other.SameDirectories tree :=
  fun place => (hsame place).symm

theorem SameDirectories.target_eq_ok {p : Place} (hsame : tree.SameDirectories other)
    (htarget : tree.target path = .ok p) : other.target path = .ok p := by
  rw [target_eq_ok_iff] at htarget ⊢
  obtain ⟨hcheck, name, directory, hlast, hwalk, hname, hslash, hp, hentry⟩ := htarget
  exact ⟨hcheck, name, directory, hlast, hsame.walk_append_here hwalk, hname, hslash, hp,
    fun hdirectory => hentry ((hsame p).1 hdirectory)⟩

theorem SameDirectories.target_eq_ok_iff {p : Place} (hsame : tree.SameDirectories other) :
    other.target path = .ok p ↔ tree.target path = .ok p :=
  ⟨hsame.symm.target_eq_ok, hsame.target_eq_ok⟩

/-- A file is written where its path looks, and never over a directory. -/
theorem target_mem_route {p : Place} (htarget : tree.target path = .ok p) :
    p ∈ tree.route path ∧ tree.get? p ≠ some .directory := by
  obtain ⟨-, name, directory, hlast, hwalk, hname, -, rfl, hentry⟩ := target_eq_ok_iff.1 htarget
  exact ⟨mem_route_of_walk hlast hwalk hname, hentry⟩

theorem lookup_filter_ne {entries : List (Place × Entry)} {p : Place} (hne : place ≠ p) :
    (entries.filter (·.1 ≠ p)).lookup place = entries.lookup place := by
  induction entries with
  | nil => rfl
  | cons entry rest ih =>
      rw [List.filter_cons, List.lookup_cons]
      by_cases hentry : entry.1 = p
      · rw [if_neg (by simpa using hentry), ih, hentry, beq_false_of_ne hne]
      · rw [if_pos (by simpa using hentry), List.lookup_cons, ih]

theorem get?_put {p : Place} {entry : Entry} (hp : tree.get? p ≠ some .directory) (place : Place) :
    (tree.put p entry).get? place = if place = p then some entry else tree.get? place := by
  have houter : isOuter p = false := by
    rw [← Bool.not_eq_true]
    exact fun houter => hp (if_pos houter)
  unfold get? put
  by_cases hplace : place = p
  · rw [hplace, houter, if_neg Bool.false_ne_true, if_pos rfl, List.lookup_cons_self]
  · rw [if_neg hplace, List.lookup_cons, beq_false_of_ne hplace, lookup_filter_ne hplace]

theorem sameDirectories_put {p : Place} {content : ByteArray}
    (hp : tree.get? p ≠ some .directory) : tree.SameDirectories (tree.put p (.file content)) := by
  intro place
  rw [get?_put hp]
  split
  next hplace => simp [hplace, hp]
  next => rfl

/-- The tree with files written into it one after the other. -/
def overlay (tree : FileTree) (files : List (Place × String)) : FileTree :=
  files.foldl (fun tree file => tree.put file.1 (.file file.2.toUTF8)) tree

theorem overlay_cons (tree : FileTree) (file : Place × String) (files : List (Place × String)) :
    tree.overlay (file :: files) = (tree.put file.1 (.file file.2.toUTF8)).overlay files := rfl

variable {files : List (Place × String)}

/-- A place holds what was written there last, or else what it held before. -/
theorem get?_overlay (hfiles : ∀ file ∈ files, tree.get? file.1 ≠ some .directory)
    (place : Place) : (tree.overlay files).get? place =
      ((files.reverse.lookup place).map fun text => .file text.toUTF8).or (tree.get? place) := by
  induction files generalizing tree with
  | nil => rfl
  | cons file rest ih =>
      rw [List.forall_mem_cons] at hfiles
      have hput : tree.SameDirectories (tree.put file.1 (.file file.2.toUTF8)) :=
        sameDirectories_put hfiles.1
      have hrest : ∀ next ∈ rest,
          (tree.put file.1 (.file file.2.toUTF8)).get? next.1 ≠ some .directory :=
        fun next hmem hdirectory => hfiles.2 next hmem ((hput _).1 hdirectory)
      rw [overlay_cons, ih hrest, get?_put hfiles.1, List.reverse_cons, List.lookup_append]
      cases rest.reverse.lookup place with
      | some text => rfl
      | none =>
          by_cases hplace : place = file.1
          · rw [if_pos hplace, hplace, List.lookup_cons_self]
            rfl
          · rw [if_neg hplace, List.lookup_cons, beq_false_of_ne hplace]
            rfl

end TableSchema.FileTree
