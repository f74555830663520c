import Literate.Input
import Literate.Proofs.TreeContents
import Mathlib.Data.List.TakeWhile

/-! Where paths lead that are put together from a directory and the names below it: to the
names below the place of the directory. A path with another extension differs in its last
name only. -/

namespace Literate

/-- A text that can name an entry of a directory in a path. -/
structure Text.IsName (name : Text) : Prop where
  ne_nil : name ≠ []
  ne_dot : name ≠ ['.']
  ne_up : name ≠ ['.', '.']
  whole : '/' ∉ name

instance (name : Text) : Decidable name.IsName :=
  decidable_of_iff (name ≠ [] ∧ name ≠ ['.'] ∧ name ≠ ['.', '.'] ∧ '/' ∉ name)
    ⟨fun ⟨a, b, c, d⟩ => ⟨a, b, c, d⟩, fun ⟨a, b, c, d⟩ => ⟨a, b, c, d⟩⟩

theorem Text.IsName.enter {name : Text} (named : name.IsName) (here : Location) : here.enter name = here ++ [name] := by
  simp [Location.enter, named.ne_nil, named.ne_dot, named.ne_up]

theorem Location.enter_all {names : Location} (named : ∀ name ∈ names, name.IsName) (here : Location) :
    names.foldl Location.enter here = here ++ names := by
  induction names generalizing here with
  | nil => simp
  | cons name names ih =>
    rw [List.forall_mem_cons] at named
    rw [List.foldl_cons, named.1.enter, ih named.2, List.append_assoc, List.singleton_append]

namespace Path

theorem segments_join_names {names : Location} (nonempty : names ≠ []) (named : ∀ name ∈ names, name.IsName) :
    segments (Text.join ['/'] names) = names := by
  apply Text.splitWhere_join (decide_eq_true rfl) nonempty
  intro name member c inside
  apply decide_eq_false
  rintro rfl
  exact (named name member).whole inside

theorem isAbsolute_join_names {names : Location} (named : ∀ name ∈ names, name.IsName) :
    isAbsolute (Text.join ['/'] names) = false := by
  have relative {name : Text} (named : name.IsName) (rest : Text) : isAbsolute (name ++ rest) = false := by
    obtain ⟨c, more, rfl⟩ := List.exists_cons_of_ne_nil named.ne_nil
    refine decide_eq_false fun slash => named.whole ?_
    rw [Option.some.inj slash]
    exact List.mem_cons_self
  cases names with
  | nil => rfl
  | cons name names =>
    rw [List.forall_mem_cons] at named
    cases names with
    | nil => simpa [Text.join] using relative named.1 []
    | cons next names =>
      rw [Text.join, List.append_assoc]
      · exact relative named.1 _
      · simp

section Join

variable {directory path : Path}

/-- A slash at the end of the directory is not doubled. -/
theorem segments_join (nonempty : directory ≠ []) (relative : path.isAbsolute = false) :
    ∃ front, (directory.segments = front ∨ directory.segments = front ++ [[]]) ∧
      (directory.join path).segments = front ++ path.segments := by
  rw [join, relative, if_neg (by simpa using nonempty)]
  split
  next slash =>
    obtain ⟨front, rfl⟩ := List.getLast?_eq_some_iff.mp slash
    refine ⟨segments front, .inr (Text.splitWhere_append_cons (by simp) front []), ?_⟩
    rw [List.append_assoc, List.singleton_append]
    exact Text.splitWhere_append_cons (by simp) front path
  next =>
    refine ⟨segments directory, .inl rfl, ?_⟩
    rw [List.append_assoc, List.singleton_append]
    exact Text.splitWhere_append_cons (by simp) directory path

theorem isAbsolute_join (nonempty : directory ≠ []) (relative : path.isAbsolute = false) :
    (directory.join path).isAbsolute = directory.isAbsolute := by
  obtain ⟨c, rest, rfl⟩ := List.exists_cons_of_ne_nil nonempty
  rw [join, relative, if_neg (by simp)]
  split <;> rfl

theorem join_ne_nil (nonempty : directory ≠ []) (relative : path.isAbsolute = false) : directory.join path ≠ [] := by
  rw [join, relative, if_neg (by simpa using nonempty)]
  split <;> simp [nonempty]

end Join

end Path

namespace FileTree

variable {tree : FileTree} {directory path : Path} {here : Location} {names : Location}

theorem place_join (relative : path.isAbsolute = false) :
    tree.place (directory.join path) = path.segments.foldl Location.enter (tree.place directory) := by
  by_cases empty : directory = []
  · subst empty
    rw [Path.join, if_pos (by simp), place, origin, relative]
    rfl
  · obtain ⟨front, spelled, joined⟩ := Path.segments_join empty relative
    have idle : directory.segments.foldl Location.enter (tree.origin directory) =
        front.foldl Location.enter (tree.origin directory) := by
      rcases spelled with same | slash
      · rw [same]
      · rw [slash, List.foldl_concat]
        rfl
    rw [place, place, joined, List.foldl_append, idle, origin, Path.isAbsolute_join empty relative, ← origin]

/-- Names lead below the place of the directory in front of them. -/
theorem place_join_names (nonempty : names ≠ []) (named : ∀ name ∈ names, name.IsName) :
    tree.place (directory.join (Text.join ['/'] names)) = tree.place directory ++ names := by
  rw [place_join (Path.isAbsolute_join_names named), Path.segments_join_names nonempty named, Location.enter_all named]

theorem follow_names (named : ∀ name ∈ names, name.IsName) (present : (tree.content? (here ++ names)).isSome) :
    tree.follow here names = .ok (here ++ names) := by
  induction names generalizing here with
  | nil => simp [follow]
  | cons name names ih =>
    rw [List.forall_mem_cons] at named
    rw [List.append_cons] at present ⊢
    rw [follow_cons_eq_ok, named.1.enter]
    refine ⟨content?_above (List.cons_ne_nil name names) (by simpa using present), ?_, ih named.2 present⟩
    cases names with
    | nil => simpa using present
    | cons next names => rw [content?_above (List.cons_ne_nil next names) present]; rfl

theorem resolve_join_names (nonempty : names ≠ []) (named : ∀ name ∈ names, name.IsName)
    (found : tree.resolve directory = .ok here) (present : (tree.content? (here ++ names)).isSome) :
    tree.resolve (directory.join (Text.join ['/'] names)) = .ok (here ++ names) := by
  have relative := Path.isAbsolute_join_names named
  rw [resolve] at found
  split at found
  · cases found
  next nonemptyDirectory =>
    obtain ⟨front, spelled, joined⟩ := Path.segments_join nonemptyDirectory relative
    rw [Path.segments_join_names nonempty named] at joined
    have reached : tree.follow (tree.origin directory) front = .ok here := by
      rcases spelled with same | slash
      · rwa [same] at found
      · rw [slash, follow_append] at found
        obtain ⟨middle, led, idle⟩ := found
        obtain rfl : here = middle := follow_place idle
        exact led
    rw [resolve, if_neg (Path.join_ne_nil nonemptyDirectory relative), joined, origin, Path.isAbsolute_join nonemptyDirectory relative, ← origin, follow_append]
    exact ⟨here, reached, follow_names named present⟩

end FileTree

namespace Path

theorem join_names_concat (names : Location) (name : Text) :
    Text.join ['/'] (names ++ [name]) = names.flatMap (· ++ ['/']) ++ name := by
  induction names with
  | nil => rfl
  | cons first names ih =>
    rw [List.cons_append, Text.join, ih]
    · simp
    · simp

theorem dropIdle_name {name : Text} (nonempty : name ≠ []) (noDot : name ≠ ['.']) (whole : '/' ∉ name) (rest : Text) :
    dropIdle (name ++ rest) = name ++ rest := by
  obtain ⟨c, more, rfl⟩ := List.exists_cons_of_ne_nil nonempty
  rw [List.mem_cons, not_or] at whole
  rw [List.cons_append, dropIdle.eq_def]
  split
  next slash => exact absurd (List.cons.inj slash).1.symm whole.1
  next slash => exact absurd (List.cons.inj slash).1.symm whole.1
  next dot =>
    obtain ⟨rfl, below⟩ := List.cons.inj dot
    -- The dot is not the whole name, so that what follows it is of the name too.
    obtain ⟨d, more, rfl⟩ := List.exists_cons_of_ne_nil (show more ≠ [] from fun alone => noDot (by rw [alone]))
    exact absurd (by rw [← (List.cons.inj below).1]; exact List.mem_cons_self) whole.2
  next => rfl

/-- A path is cut in front of its last name. -/
theorem splitLast_append {front name : Text} (opens : front = [] ∨ front.getLast? = some '/')
    (nonempty : name ≠ []) (noDot : name ≠ ['.']) (whole : '/' ∉ name) : splitLast (front ++ name) = (front, name) := by
  have reversed : (body (front ++ name)).reverse = name.reverse ++ front.reverse := by
    rw [body, List.reverse_reverse, List.reverse_append]
    exact dropIdle_name (by simpa using nonempty) (by simpa [List.reverse_eq_iff] using noDot) (by simpa using whole) _
  have inside : ∀ c ∈ name.reverse, decide (c ≠ '/') = true := by
    intro c member
    refine decide_eq_true ?_
    rintro rfl
    exact whole (List.mem_reverse.mp member)
  have edge : front.reverse.takeWhile (fun c => decide (c ≠ '/')) = [] ∧
      front.reverse.dropWhile (fun c => decide (c ≠ '/')) = front.reverse := by
    rcases opens with rfl | slash
    · exact ⟨rfl, rfl⟩
    · obtain ⟨earlier, rfl⟩ := List.getLast?_eq_some_iff.mp slash
      simp
  rw [splitLast, reversed]
  simp only [List.takeWhile_append_of_pos inside, List.dropWhile_append_of_pos inside, edge]
  simp

/-- The extension of a name follows its last dot, which is not its first character. -/
theorem splitName_eq_some {name stem extension : Text} :
    splitName name = (stem, some extension) ↔ name = stem ++ '.' :: extension ∧ stem ≠ [] ∧ '.' ∉ extension := by
  constructor
  · intro cut
    rw [splitName] at cut
    split at cut
    next => cases cut
    next => cases cut
    next dot reversed long found =>
      cases cut
      have whole := List.takeWhile_append_dropWhile (p := fun c => decide (c ≠ '.')) (l := name.reverse)
      have stops := List.head?_dropWhile_not (fun c => decide (c ≠ '.')) name.reverse
      rw [found] at whole stops
      obtain rfl : dot = '.' := by simpa using stops
      refine ⟨?_, ?_, ?_⟩
      · have forth := congrArg List.reverse whole
        rw [List.reverse_append, List.reverse_cons, List.reverse_reverse] at forth
        rw [List.append_assoc] at forth
        exact forth.symm
      · intro empty
        exact long rfl (List.reverse_eq_nil_iff.mp empty)
      · intro member
        have kept := List.mem_takeWhile_imp (List.mem_reverse.mp member)
        simp at kept
  · rintro ⟨rfl, nonempty, dotless⟩
    have inside : ∀ c ∈ extension.reverse, decide (c ≠ '.') = true := by
      intro c member
      refine decide_eq_true ?_
      rintro rfl
      exact dotless (List.mem_reverse.mp member)
    obtain ⟨d, rest, reversed⟩ := List.exists_cons_of_ne_nil (List.reverse_ne_nil_iff.mpr nonempty)
    have back : (stem ++ '.' :: extension).reverse = extension.reverse ++ '.' :: d :: rest := by simp [reversed]
    have dropped : ('.' :: d :: rest).dropWhile (fun c => decide (c ≠ '.')) = '.' :: d :: rest := by simp
    have taken : ('.' :: d :: rest).takeWhile (fun c => decide (c ≠ '.')) = [] := by simp
    simp only [splitName, back, List.takeWhile_append_of_pos inside, List.dropWhile_append_of_pos inside, dropped, taken]
    simp [← reversed]

section Names

variable {names : Location} {name : Text}

theorem splitLast_join_names (names : Location) (named : name.IsName) :
    splitLast (Text.join ['/'] (names ++ [name])) = (names.flatMap (· ++ ['/']), name) := by
  rw [join_names_concat]
  refine splitLast_append ?_ named.ne_nil named.ne_dot named.whole
  rcases List.eq_nil_or_concat' names with rfl | ⟨earlier, last, rfl⟩
  · exact .inl rfl
  · right
    simp

theorem fileName?_join_names (names : Location) (named : name.IsName) :
    fileName? (Text.join ['/'] (names ++ [name])) = some name := by
  rw [fileName?, splitLast_join_names names named]
  split
  next empty => exact absurd empty named.ne_nil
  next dot => exact absurd dot named.ne_dot
  next up => exact absurd up named.ne_up
  next => rfl

theorem extension?_join_names (names : Location) (named : name.IsName) :
    extension? (Text.join ['/'] (names ++ [name])) = (splitName name).2 := by
  rw [extension?, fileName?_join_names names named]
  rfl

/-- Another extension takes the place of the old one in the last name. -/
theorem withExtension_join_names {stem old : Text} (names : Location) (named : (stem ++ '.' :: old).IsName)
    (nonempty : stem ≠ []) (visible : stem.head? ≠ some '.') (dotless : '.' ∉ old) (new : Text) :
    withExtension (Text.join ['/'] (names ++ [stem ++ '.' :: old])) new =
      Text.join ['/'] (names ++ [stem ++ if new.isEmpty then [] else '.' :: new]) := by
  have cut : splitName (stem ++ '.' :: old) = (stem, some old) := splitName_eq_some.mpr ⟨rfl, nonempty, dotless⟩
  have bare : splitName (stem ++ ['.']) = (stem, some []) := splitName_eq_some.mpr ⟨rfl, nonempty, by simp⟩
  have left : (stem ++ ['.']).IsName := by
    refine ⟨by simp, by simpa using nonempty, ?_, ?_⟩
    · intro up
      have dot : stem = ['.'] := by simpa using congrArg List.dropLast up
      exact visible (by rw [dot]; rfl)
    · have whole := named.whole
      rw [List.mem_append, not_or] at whole
      simp [whole.1]
  have shortened : (Text.join ['/'] (names ++ [stem ++ '.' :: old])).take
      ((Text.join ['/'] (names ++ [stem ++ '.' :: old])).length - old.length) =
        Text.join ['/'] (names ++ [stem ++ ['.']]) := by
    have spelled : Text.join ['/'] (names ++ [stem ++ '.' :: old]) = Text.join ['/'] (names ++ [stem ++ ['.']]) ++ old := by
      simp [join_names_concat]
    rw [spelled, List.length_append, Nat.add_sub_cancel, List.take_left]
  rw [withExtension, extension?_join_names names named, cut]
  dsimp only
  rw [shortened, setExtension, stem?, fileName?_join_names names left, Option.map_some, bare, splitLast_join_names names left]
  dsimp only
  rw [join_names_concat, List.append_assoc]
  split <;> rfl

end Names

end Path

end Literate
